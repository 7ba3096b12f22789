import BusReplay.Toml.Value

/-!
# Putting tables together

Headers and keys say where in a tree of tables a value belongs. A table is made once: by a header,
by a dotted key, or as the home of a table with a header of its own, in which last case a header
may still claim it. Dotted keys extend tables that dotted keys made, and nothing else.
-/

namespace BusReplay.Toml

inductive Origin
  | header
  /-- A header of a table inside it. -/
  | parent
  | dottedKey
  deriving DecidableEq, Repr

/-- A tree of tables that is still growing. -/
inductive Node
  /-- A finished value, which nothing can be added to. -/
  | value (value : Value)
  | table (origin : Origin) (entries : List (String × Node))
  /-- The tables of an array that headers make, each by its entries. -/
  | tables (items : List (List (String × Node)))

abbrev Entries := List (String × Node)

namespace Entries

/-- Give a key a new node, in its place if it has one already. -/
def set (key : String) (node : Node) : Entries → Entries
  | [] => [(key, node)]
  | (k, n) :: rest => if k = key then (key, node) :: rest else (k, n) :: set key node rest

/-- Change the entries of the table under a key, which is made if it is missing. In an array of
tables it is the last one. -/
def inside (key : String) (change : Entries → Option Entries) (entries : Entries) :
    Option Entries :=
  match entries.lookup key with
  | none => (change []).map fun inner ↦ set key (.table .parent inner) entries
  | some (.table origin inner) =>
    (change inner).map fun inner ↦ set key (.table origin inner) entries
  | some (.tables items) =>
    match items.getLast? with
    | some last =>
      (change last).map fun last ↦ set key (.tables (items.dropLast ++ [last])) entries
    | none => none
  | some (.value _) => none

/-- Change the entries of the table under a path of keys. -/
def insideAll (path : List String) (change : Entries → Option Entries) :
    Entries → Option Entries :=
  path.foldr inside change

/-- Make the table of a header, or claim one that is only the home of others. -/
def openTable (key : String) (entries : Entries) : Option Entries :=
  match entries.lookup key with
  | none => some (set key (.table .header []) entries)
  | some (.table .parent inner) => some (set key (.table .header inner) entries)
  | _ => none

/-- Add an empty table to an array of tables, which is made if it is missing. -/
def openItem (key : String) (entries : Entries) : Option Entries :=
  match entries.lookup key with
  | none => some (set key (.tables [[]]) entries)
  | some (.tables items) => some (set key (.tables (items ++ [[]])) entries)
  | _ => none

/-- Give a value to a dotted key. The path holds the parts before the last one. -/
def assign (key : String) (value : Value) : List String → Entries → Option Entries
  | [], entries =>
    match entries.lookup key with
    | none => some (set key (.value value) entries)
    | some _ => none
  | part :: path, entries =>
    match entries.lookup part with
    | none =>
      (assign key value path []).map fun inner ↦ set part (.table .dottedKey inner) entries
    | some (.table origin inner) =>
      if origin = .header ∨ (path = [] ∧ origin ≠ .dottedKey) then none
      else (assign key value path inner).map fun inner ↦ set part (.table origin inner) entries
    | some (.tables items) =>
      match items.getLast?, path with
      | some last, _ :: _ =>
        (assign key value path last).map fun last ↦
          set part (.tables (items.dropLast ++ [last])) entries
      | _, _ => none
    | some (.value _) => none

def assignPath (parts : List String) (value : Value) (entries : Entries) : Option Entries :=
  match parts.getLast? with
  | some key => assign key value parts.dropLast entries
  | none => none

end Entries

mutual

def Node.toValue : Node → Value
  | .value v => v
  | .table _ entries => .table (entriesToValues entries)
  | .tables items => .array (itemsToValues items)

def entriesToValues : List (String × Node) → List (String × Value)
  | [] => []
  | (key, node) :: rest => (key, node.toValue) :: entriesToValues rest

def itemsToValues : List (List (String × Node)) → List Value
  | [] => []
  | entries :: rest => .table (entriesToValues entries) :: itemsToValues rest

end

end BusReplay.Toml
