import BusReplay.Text.Fields

/-!
# Names of interfaces, object paths and methods

The names in a call are pieced together from ASCII letters, digits and underscores. An element is
a non-empty run of them that does not start with a digit. An interface is two or more elements
with dots between them, a method is one element, and an object path is a slash, followed by
non-empty runs with slashes between them or by nothing.
-/

namespace BusReplay

inductive NameKind
  | interface
  | objectPath
  | method
  deriving DecidableEq, Repr

namespace NameKind

def label : NameKind → String
  | interface => "interface name"
  | objectPath => "object path"
  | method => "method name"

/-- An ASCII letter or an underscore. -/
def isInitial (c : Char) : Bool := c.isAlpha || c == '_'

/-- An ASCII letter, an ASCII digit or an underscore. -/
def isWord (c : Char) : Bool := c.isAlphanum || c == '_'

def isElement : List Char → Bool
  | [] => false
  | c :: cs => isInitial c && cs.all isWord

def isInterface (cs : List Char) : Bool :=
  let elements := Text.fields '.' cs
  2 ≤ elements.length && elements.all isElement

def isObjectPath : List Char → Bool
  | ['/'] => true
  | '/' :: cs => (Text.fields '/' cs).all fun part ↦ !part.isEmpty && part.all isWord
  | _ => false

def accepts : NameKind → List Char → Bool
  | interface => isInterface
  | objectPath => isObjectPath
  | method => isElement

end NameKind

end BusReplay
