/-!
# Patterns

Regular expressions, as far as it matters whether one is accepted: which characters a set holds
and how often something is repeated is left out. Patterns are held by fields of log filters, whose
values have neither commas nor closing braces, so nothing in a pattern is written with braces.
-/

namespace BusReplay

namespace Pattern

/-- What a setting in a pattern switches on or off for the rest of its group. -/
structure Flags where
  /-- Whether the pattern is about characters; without it, about bytes. -/
  unicode : Option Bool
  /-- Whether blanks and comments in the pattern are skipped. -/
  verbose : Option Bool
  deriving DecidableEq, Repr

def Flags.none : Flags := ⟨.none, .none⟩

structure Literal where
  char : Char
  /-- Whether it is written by the two digits of a byte. -/
  isByte : Bool
  deriving DecidableEq, Repr

def Literal.isAscii (l : Literal) : Bool := l.char.toNat < 0x80

/-- What stands between the brackets of a set. -/
inductive CharSet
  | empty
  | literal (l : Literal)
  | range (first last : Literal)
  /-- A class by its name in brackets and colons. -/
  | named (negated : Bool)
  /-- Digits, blanks or word characters, by a letter behind a backslash. -/
  | shorthand (negated : Bool)
  /-- A class of Unicode by the letter of its category. -/
  | category (letter : Char)
  | nested (negated : Bool) (content : CharSet)
  | union (items : List CharSet)
  /-- An intersection or a difference. -/
  | combined (left right : CharSet)
  deriving Repr

end Pattern

inductive Pattern
  | empty
  | literal (l : Pattern.Literal)
  /-- Any character. -/
  | dot
  /-- An end of a line or of the text. -/
  | anchor
  /-- A place at the end of a word, or one that is at none. -/
  | wordBoundary
  | shorthand (negated : Bool)
  | category (letter : Char)
  | set (negated : Bool) (content : Pattern.CharSet)
  /-- A setting for the rest of the group. -/
  | setting (flags : Pattern.Flags)
  | repeated (body : Pattern)
  | group (flags : Pattern.Flags) (name : Option (List Char)) (body : Pattern)
  | sequence (parts : List Pattern)
  | alternatives (branches : List Pattern)
  deriving Repr

namespace Pattern

mutual

/-- How deep the content of a set is nested. -/
def CharSet.depth : CharSet → Nat
  | .nested _ content => content.depth + 1
  | .union items => setsDepth items + 1
  | .combined left right => max left.depth right.depth + 1
  | _ => 0

def setsDepth : List CharSet → Nat
  | [] => 0
  | first :: rest => max first.depth (setsDepth rest)

end

mutual

def depth : Pattern → Nat
  | .set _ content => content.depth + 1
  | .repeated body => body.depth + 1
  | .group _ _ body => body.depth + 1
  | .sequence parts => partsDepth parts + 1
  | .alternatives branches => partsDepth branches + 1
  | _ => 0

def partsDepth : List Pattern → Nat
  | [] => 0
  | part :: rest => max part.depth (partsDepth rest)

end

mutual

/-- The names of the groups in a pattern. -/
def names : Pattern → List (List Char)
  | .repeated body => body.names
  | .group _ name body => name.toList ++ body.names
  | .sequence parts => partsNames parts
  | .alternatives branches => partsNames branches
  | _ => []

def partsNames : List Pattern → List (List Char)
  | [] => []
  | part :: rest => part.names ++ partsNames rest

end

end Pattern

end BusReplay
