/-!
# JSON strings

A text as a JSON string literal. Only what JSON requires is escaped: quotes, backslashes and the
characters below U+0020, the common ones by their letter and the others by code point.
-/

namespace BusReplay.Text.Json

/-- A number below 256 as two digits in base sixteen. -/
def twoDigits (n : Nat) : List Char := [Nat.digitChar (n / 16 % 16), Nat.digitChar (n % 16)]

def escapeChar (c : Char) : List Char :=
  if c = '"' ∨ c = '\\' then ['\\', c]
  else if c = '\x08' then ['\\', 'b']
  else if c = '\x0c' then ['\\', 'f']
  else if c = '\n' then ['\\', 'n']
  else if c = '\r' then ['\\', 'r']
  else if c = '\t' then ['\\', 't']
  else if c.toNat < 0x20 then ['\\', 'u', '0', '0'] ++ twoDigits c.toNat
  else [c]

def encode (cs : List Char) : List Char := '"' :: (cs.flatMap escapeChar ++ ['"'])

/-- A text as a JSON string literal. -/
def string (s : String) : String := .ofList (encode s.toList)

end BusReplay.Text.Json
