import BusReplay.Text.Case

/-!
# Decimal numbers

A number is written with digits, at most one point among them or at their ends, and an exponent.
Infinity and what is no number have names, in any case of the letters. A sign may stand in front.
-/

namespace BusReplay.Text

def dropSign : List Char → List Char
  | '+' :: cs => cs
  | '-' :: cs => cs
  | cs => cs

/-- Whether a text is nothing or the exponent of a number. -/
def isExponent : List Char → Bool
  | [] => true
  | c :: cs =>
    let digits := dropSign cs
    (c = 'e' || c = 'E') && !digits.isEmpty && digits.all Char.isDigit

def isNumber (cs : List Char) : Bool :=
  let unsigned := dropSign cs
  let (whole, rest) := unsigned.span Char.isDigit
  let (fraction, rest) := match rest with
    | '.' :: behind => behind.span Char.isDigit
    | _ => ([], rest)
  ["inf", "infinity", "nan"].contains (foldCase (.ofList unsigned)) ||
    (!(whole.isEmpty && fraction.isEmpty) && isExponent rest)

end BusReplay.Text
