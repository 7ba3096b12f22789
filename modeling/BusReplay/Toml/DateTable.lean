import BusReplay.Toml.Scalar

/-!
# Tables that stand for dates

One key is reserved. A table in which it comes before all other keys, in the order of their code
points, stands for the date, the time or both that its value spells, and what else is in the table
does not count. Behind a smaller key the reserved one is a key like any other.
-/

namespace BusReplay.Toml

/-- The reserved key. -/
def dateKey : String := "$__toml_private_datetime"

/-- The value under the reserved key, if that is the least key of a table. -/
def dateEntry? (entries : List (String × Value)) : Option Value :=
  if entries.all fun (key, _) ↦ dateKey ≤ key then entries.lookup dateKey else none

/-- The date that a value spells; none unless it is a text that spells one. -/
def Value.toDate? : Value → Option Value
  | string text => if isDateTime text.toList then some (.dateTime text) else none
  | _ => none

mutual

/-- The value with the dates that tables in it stand for; none if such a table spells no date. -/
def Value.withDates : Value → Option Value
  | .array items => (itemsWithDates items).map .array
  | .table entries =>
    match dateEntry? entries with
    | some date => date.toDate?
    | none => (entriesWithDates entries).map .table
  | value => some value

def itemsWithDates : List Value → Option (List Value)
  | [] => some []
  | value :: rest => do
    let value ← value.withDates
    return value :: (← itemsWithDates rest)

def entriesWithDates : List (String × Value) → Option (List (String × Value))
  | [] => some []
  | (key, value) :: rest => do
    let value ← value.withDates
    return (key, value) :: (← entriesWithDates rest)

end

end BusReplay.Toml
