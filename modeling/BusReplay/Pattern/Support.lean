import BusReplay.Pattern.Parser

/-!
# Patterns that are supported

A pattern is compiled to a table over the bytes of a text in UTF-8. So it must not match bytes
that are no characters, and it cannot ask for the ends of words in the sense of Unicode. It is
nested at most 250 deep, and no two of its groups have one name.
-/

namespace BusReplay.Pattern

def maxDepth : Nat := 250

/-- The letters of the categories of Unicode, in lower case. -/
def categoryLetters : List Char := ['c', 'l', 'm', 'n', 'p', 's', 'z']

def isCategory (letter : Char) : Bool := categoryLetters.contains letter.toLower

mutual

/-- Whether a set is supported. A set of bytes holds ASCII characters only. -/
def CharSet.isSupported (unicode : Bool) : CharSet → Bool
  | .empty => true
  | .literal l => unicode || l.isAscii
  | .range first last => unicode || (first.isAscii && last.isAscii)
  | .named negated => unicode || !negated
  | .shorthand negated => unicode || !negated
  | .category letter => unicode && isCategory letter
  | .nested negated content => (unicode || !negated) && content.isSupported unicode
  | .union items => setsSupported unicode items
  | .combined left right => left.isSupported unicode && right.isSupported unicode

def setsSupported (unicode : Bool) : List CharSet → Bool
  | [] => true
  | first :: rest => first.isSupported unicode && setsSupported unicode rest

end

/-- The given value, where a condition holds. -/
def onlyIf (condition value : Bool) : Option Bool := if condition then some value else none

mutual

/-- Whether the pattern behind a supported one is about characters, given whether this one is; none
if it is not supported. -/
def unicodeAfter (unicode : Bool) : Pattern → Option Bool
  | .empty => some unicode
  | .literal l => onlyIf (unicode || !l.isByte || l.isAscii) unicode
  | .dot => onlyIf unicode unicode
  | .anchor => some unicode
  | .wordBoundary => onlyIf (!unicode) unicode
  | .shorthand negated => onlyIf (unicode || !negated) unicode
  | .category letter => onlyIf (unicode && isCategory letter) unicode
  | .set negated content =>
    onlyIf ((unicode || !negated) && content.isSupported unicode) unicode
  | .setting flags => some (flags.unicode.getD unicode)
  | .repeated body => body.unicodeAfter unicode
  | .group flags _ body =>
    (body.unicodeAfter (flags.unicode.getD unicode)).map fun _ ↦ unicode
  | .sequence parts => unicodeAfterAll unicode parts
  | .alternatives branches => unicodeAfterAll unicode branches

def unicodeAfterAll (unicode : Bool) : List Pattern → Option Bool
  | [] => some unicode
  | part :: rest => (part.unicodeAfter unicode).bind fun unicode ↦ unicodeAfterAll unicode rest

end

def isSupported (pattern : Pattern) : Bool :=
  (pattern.unicodeAfter true).isSome && pattern.depth ≤ maxDepth && pattern.names.Nodup

def isPattern (cs : List Char) : Bool := (ofText? cs).any isSupported

end BusReplay.Pattern
