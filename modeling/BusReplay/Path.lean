import BusReplay.Text.Fields

/-!
# File paths

A path is a text of parts between slashes. Empty parts and single dots say nothing, except that a
relative path may start with one dot. Two paths with the same components name the same place.
-/

namespace BusReplay.Path

inductive Component
  | root
  /-- The dot at the start of a relative path. -/
  | here
  | parent
  | name (text : List Char)
  deriving DecidableEq, Repr

/-- What a part between slashes adds to a path. -/
def Component.ofPart : List Char → Option Component
  | [] => none
  | ['.'] => none
  | ['.', '.'] => some .parent
  | part => some (.name part)

def components (path : List Char) : List Component :=
  match path, Text.fields '/' path with
  | '/' :: _, parts => .root :: parts.filterMap Component.ofPart
  | _, ['.'] :: parts => .here :: parts.filterMap Component.ofPart
  | _, parts => parts.filterMap Component.ofPart

/-- The last component, if it is a name. -/
def fileName? (path : List Char) : Option (List Char) :=
  match (components path).getLast? with
  | some (.name text) => some text
  | _ => none

/-- A file name without its last extension; a dot at the start begins no extension. -/
def stem (name : List Char) : List Char :=
  match name.reverse.dropWhile (· ≠ '.') with
  | '.' :: before => if before = [] then name else before.reverse
  | _ => name

def fileStem? (path : List Char) : Option (List Char) := (fileName? path).map stem

def isAbsolute : List Char → Bool
  | '/' :: _ => true
  | _ => false

/-- A relative path as seen from a directory. -/
def join (directory path : List Char) : List Char :=
  if isAbsolute path ∨ directory = [] then path
  else if directory.getLast? = some '/' then directory ++ path
  else directory ++ '/' :: path

end BusReplay.Path
