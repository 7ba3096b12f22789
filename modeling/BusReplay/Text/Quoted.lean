import BusReplay.Text.GraphemeExtend
import BusReplay.Text.Unprintable

/-!
# Quoted text

A text between double quotes on one line, written so that every character of it can be seen.
Characters without a visible form, and those that would merge with the character before them, are
written by code point. The half-width voicing marks stand for themselves.
-/

namespace BusReplay.Text.Quoted

/-- The digits of a number in base sixteen, in lower case and without leading zeros. -/
def hexDigits (n : Nat) : List Char := Nat.toDigits 16 n

/-- Fillers for a missing part of a syllable, which are letters without a visible form. -/
def isFiller (c : Char) : Bool :=
  c = '\u115f' || c = '\u1160' || c = '\u3164' || c = '\uffa0'

/-- The half-width marks that change the sound of the letter before them. They take a column of
their own and are seen as they are. -/
def isVoicingMark (c : Char) : Bool := c = '\uff9e' || c = '\uff9f'

/-- Whether a character is written by code point. -/
def isHidden (c : Char) : Bool :=
  isUnprintable c || isFiller c || (isGraphemeExtend c && !isVoicingMark c)

def escapeChar (c : Char) : List Char :=
  if c = '\x00' then ['\\', '0']
  else if c = '\t' then ['\\', 't']
  else if c = '\n' then ['\\', 'n']
  else if c = '\r' then ['\\', 'r']
  else if c = '\\' ∨ c = '"' then ['\\', c]
  else if isHidden c then ['\\', 'u', '\x7b'] ++ hexDigits c.toNat ++ ['\x7d']
  else [c]

def encode (cs : List Char) : List Char := '"' :: (cs.flatMap escapeChar ++ ['"'])

def text (s : String) : String := .ofList (encode s.toList)

/-- A list of texts, each quoted, in brackets. -/
def texts (items : List String) : String :=
  "[" ++ String.intercalate ", " (items.map text) ++ "]"

end BusReplay.Text.Quoted
