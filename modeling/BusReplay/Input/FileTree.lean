import BusReplay.Input.Stream
import BusReplay.Path

/-!
# Trees of files

A file system as a tree of directories, with the rules by which a path leads to a place in it:
every step needs a directory to start from, a dot stays, two dots go up, and a slash at the end
asks for a directory. A directory can be opened, and reading it fails.
-/

namespace BusReplay

inductive FileTree
  | file (bytes : List UInt8)
  | directory (entries : List (String × FileTree))

namespace FileTree

def empty : FileTree := directory []

/-- The longest name of an entry and the longest path, in bytes; a path is one byte shorter. -/
def maxName : Nat := 255

def maxPath : Nat := 4096

/-- A place in a tree: what is there, and the directories above it, the nearest first. -/
structure Place where
  here : FileTree
  above : List FileTree

def Place.step (place : Place) (part : String) : Except IoError Place :=
  match place.here with
  | file _ => .error .notADirectory
  | directory entries =>
    if part = "" ∨ part = "." then .ok place
    else if part = ".." then
      match place.above with
      | parent :: above => .ok ⟨parent, above⟩
      | [] => .ok place
    else if maxName < part.utf8ByteSize then .error .nameTooLong
    else match entries.lookup part with
      | some tree => .ok ⟨tree, place.here :: place.above⟩
      | none => .error .notFound

/-- Follow a path from the root of a tree, or from the given working directory. -/
def resolve (root : FileTree) (workingDirectory path : String) : Except IoError FileTree := do
  if path = "" then throw .notFound
  if path.toList.contains '\x00' then throw .nulInName
  if maxPath ≤ path.utf8ByteSize then throw .nameTooLong
  let parts (text : String) := (Text.fields '/' text.toList).map String.ofList
  let start : Place := ⟨root, []⟩
  let start ← if Path.isAbsolute path.toList then pure start
    else (parts workingDirectory).foldlM Place.step start
  let place ← (parts path).foldlM Place.step start
  return place.here

def openFile (root : FileTree) (workingDirectory path : String) : Except IoError Stream := do
  match ← root.resolve workingDirectory path with
  | file bytes => return .ofBytes bytes
  | directory _ => return ⟨[], some .isADirectory⟩

/-- The file system of a tree, seen from a working directory. -/
def fileSystem (root : FileTree) (workingDirectory : String) : FileSystem where
  present path := (root.resolve workingDirectory path).isOk
  openFile path := root.openFile workingDirectory path

/-- Put a tree at the place that names lead to, making the directories above it. -/
def insert (tree : FileTree) : List String → FileTree → FileTree
  | [], _ => tree
  | name :: names, here =>
    let entries := match here with
      | directory entries => entries
      | file _ => []
    let inner := insert tree names ((entries.lookup name).getD empty)
    directory ((name, inner) :: entries.filter fun entry ↦ entry.1 ≠ name)

/-- The names that a path goes through, from the place it starts at. -/
def namesOf (path : String) : List String :=
  (Path.components path.toList).filterMap fun
    | .name text => some (.ofList text)
    | _ => none

end FileTree

end BusReplay
