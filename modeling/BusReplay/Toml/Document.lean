import BusReplay.Toml.DateTable
import BusReplay.Toml.Text
import BusReplay.Toml.Tree

/-!
# Reading a TOML document

A document is a sequence of statements, one to a line: headers of tables, headers of array items,
and values of keys. Arrays and inline tables nest at most eighty deep. Between the tokens of an
array or an inline table, line ends and comments may stand, and a comma may stand behind the last
of its members.
-/

namespace BusReplay.Toml

def maxDepth : Nat := 80

/-- Read the members of a list, of which there are fewer than `fuel`, and the character that closes
it. -/
def readMembers {α : Type} (closing : Char) (member : List Char → Option (α × List Char)) :
    (fuel : Nat) → List Char → Option (List α × List Char)
  | 0, _ => none
  | fuel + 1, cs => do
    let first ← skipTrivia false cs
    if first.head? = some closing then return ([], first.tail)
    let (a, behind) ← member first
    let next ← skipTrivia false behind
    if next.head? = some ',' then
      let (as, rest) ← readMembers closing member fuel next.tail
      return (a :: as, rest)
    if next.head? = some closing then return ([a], next.tail) else none

/-- Read a key, an equals sign and a value. -/
def inlinePair (item : List Char → Option (Value × List Char)) (cs : List Char) :
    Option ((List String × Value) × List Char) := do
  let (parts, cs) ← key cs
  match ← skipTrivia false cs with
  | '=' :: cs =>
    let (value, cs) ← item (← skipTrivia false cs)
    return ((parts, value), cs)
  | _ => none

def inlineTable (pairs : List (List String × Value)) : Option Value := do
  let entries ← pairs.foldlM (fun entries (parts, value) ↦ Entries.assignPath parts value entries)
    ([] : Entries)
  return .table (entriesToValues entries)

/-- Read a value that does not nest. -/
def flatValue (cs : List Char) : Option (Value × List Char) :=
  match cs with
  | '"' :: _ | '\'' :: _ => do
    let (text, rest) ← anyString cs
    return (.string (.ofList text), rest)
  | _ => scalar cs

/-- Read a value in which arrays and inline tables nest no deeper than `depth`. -/
def value : (depth : Nat) → List Char → Option (Value × List Char)
  | depth, '[' :: cs =>
    match depth with
    | 0 => none
    | depth + 1 => do
      let (items, rest) ← readMembers ']' (fun cs ↦ value depth cs) (cs.length + 1) cs
      return (.array items, rest)
  | depth, '{' :: cs =>
    match depth with
    | 0 => none
    | depth + 1 => do
      let (pairs, rest) ← readMembers '}' (inlinePair fun cs ↦ value depth cs) (cs.length + 1) cs
      return (← inlineTable pairs, rest)
  | _, cs => flatValue cs

inductive Statement
  /-- The header of a table. -/
  | table (path : List String)
  /-- The header of an item in an array of tables. -/
  | item (path : List String)
  | assign (parts : List String) (value : Value)

def statement : List Char → Option (Statement × List Char)
  | '[' :: '[' :: cs => do
    let (path, cs) ← key (cs.dropWhile isSpace)
    match cs.dropWhile isSpace with
    | ']' :: ']' :: rest => return (.item path, rest)
    | _ => none
  | '[' :: cs => do
    let (path, cs) ← key (cs.dropWhile isSpace)
    match cs.dropWhile isSpace with
    | ']' :: rest => return (.table path, rest)
    | _ => none
  | cs => do
    let (parts, cs) ← key cs
    match cs.dropWhile isSpace with
    | '=' :: cs =>
      let (value, rest) ← value maxDepth (cs.dropWhile isSpace)
      return (.assign parts value, rest)
    | _ => none

/-- Read the statements of a text, of which there are fewer than `fuel`. -/
def statementsFrom : (fuel : Nat) → List Char → Option (List Statement)
  | 0, _ => none
  | fuel + 1, cs => do
    match ← skipTrivia false cs with
    | [] => return []
    | cs =>
      let (first, cs) ← statement cs
      let rest ← statementsFrom fuel (← skipLineEnd false cs)
      return first :: rest

/-- Read the statements of a text. Every statement takes a character at least. -/
def statements (cs : List Char) : Option (List Statement) := statementsFrom (cs.length + 1) cs

/-- A document that is still growing. -/
structure Draft where
  entries : Entries
  /-- The path of the table that keys are given values in. -/
  current : List String

def Draft.apply (draft : Draft) : Statement → Option Draft
  | .table path => do
    let key ← path.getLast?
    return ⟨← draft.entries.insideAll path.dropLast (Entries.openTable key), path⟩
  | .item path => do
    let key ← path.getLast?
    return ⟨← draft.entries.insideAll path.dropLast (Entries.openItem key), path⟩
  | .assign parts value => do
    return ⟨← draft.entries.insideAll draft.current (Entries.assignPath parts value),
      draft.current⟩

/-- Leave out a byte order mark in front of the document. -/
def dropMark : List Char → List Char
  | '\uFEFF' :: cs => cs
  | cs => cs

/-- The table that a document describes; none if it is not well-formed. -/
def parse (text : String) : Option Value := do
  let draft ← (← statements (dropMark text.toList)).foldlM Draft.apply ⟨[], []⟩
  (Value.table (entriesToValues draft.entries)).withDates

end BusReplay.Toml
