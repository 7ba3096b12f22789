/-!
# Characters by number

Characters can be written by their code points in base sixteen.
-/

namespace BusReplay.Text

/-- The value of a digit in base sixteen, in either case. -/
def hexDigit? (c : Char) : Option Nat :=
  if '0' ≤ c ∧ c ≤ '9' then some (c.toNat - '0'.toNat)
  else if 'a' ≤ c ∧ c ≤ 'f' then some (c.toNat - 'a'.toNat + 10)
  else if 'A' ≤ c ∧ c ≤ 'F' then some (c.toNat - 'A'.toNat + 10)
  else none

def charOfCode? (n : Nat) : Option Char := if n.isValidChar then some (Char.ofNat n) else none

end BusReplay.Text
