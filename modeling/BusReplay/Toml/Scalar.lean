import BusReplay.Toml.Value

/-!
# Numbers, dates and other bare values of TOML

A bare value is read as a whole word, which then has to be a truth value, a number, a date, a time
or both of them. Integers have to fit 64 bits, finite floats must not round to infinity, and dates
have to be in the calendar.
-/

namespace BusReplay.Toml

/-- The value of a digit in a base of at most sixteen. -/
def digitIn? (base : Nat) (c : Char) : Option Nat :=
  let value :=
    if '0' ≤ c ∧ c ≤ '9' then c.toNat - '0'.toNat
    else if 'a' ≤ c ∧ c ≤ 'f' then c.toNat - 'a'.toNat + 10
    else if 'A' ≤ c ∧ c ≤ 'F' then c.toNat - 'A'.toNat + 10
    else base
  if value < base then some value else none

/-- The value of digits, between which single underscores may stand. -/
def digitsFrom (base value : Nat) (afterDigit : Bool) : List Char → Option Nat
  | [] => if afterDigit then some value else none
  | c :: cs =>
    if c = '_' then if afterDigit then digitsFrom base value false cs else none
    else match digitIn? base c with
      | some d => digitsFrom base (value * base + d) true cs
      | none => none

def digits (base : Nat) (cs : List Char) : Option Nat := digitsFrom base 0 false cs

/-- Decimal digits that do not start with a needless zero. -/
def wholeNumber : List Char → Option Nat
  | ['0'] => some 0
  | '0' :: _ => none
  | cs => digits 10 cs

/-- A sign, if there is one, and the rest; whether the sign is a minus. -/
def splitSign : List Char → Bool × List Char
  | '-' :: cs => (true, cs)
  | '+' :: cs => (false, cs)
  | cs => (false, cs)

def fitsInteger (n : Int) : Bool := -9223372036854775808 ≤ n && n ≤ 9223372036854775807

def integer? (cs : List Char) : Option Int := do
  let n : Int ← match cs with
    | '0' :: 'x' :: rest => (digits 16 rest).map Int.ofNat
    | '0' :: 'o' :: rest => (digits 8 rest).map Int.ofNat
    | '0' :: 'b' :: rest => (digits 2 rest).map Int.ofNat
    | _ =>
      let (negative, rest) := splitSign cs
      (wholeNumber rest).map fun n ↦ if negative then -(n : Int) else n
  if fitsInteger n then some n else none

/-- The least number that is too large for a finite double: the greatest finite one and half of
the distance to the next power of two. -/
def floatLimit : Nat := 1 <<< 1024 - 1 <<< 970

/-- Whether a mantissa times a power of ten rounds to a finite double. The sizes of the powers that
are computed are bounded by the length of the mantissa. -/
def isFiniteDecimal (mantissa : Nat) (exponent : Int) : Bool :=
  let magnitude : Int := (Nat.toDigits 10 mantissa).length + exponent
  if mantissa = 0 ∨ magnitude ≤ 308 then true
  else if 310 ≤ magnitude then false
  else if 0 ≤ exponent then mantissa * Nat.pow 10 exponent.toNat < floatLimit
  else mantissa < floatLimit * Nat.pow 10 (-exponent).toNat

def exponent? (cs : List Char) : Option Int := do
  let (negative, rest) := splitSign cs
  let n ← digits 10 rest
  return if negative then -(n : Int) else n

def isExponentLetter (c : Char) : Bool := c = 'e' || c = 'E'

/-- The parts of a float: whole digits, digits behind the point, and exponent. At least one of the
last two is there. -/
def isFloat (cs : List Char) : Bool := Option.isSome do
  let (_, rest) := splitSign cs
  if rest = ['i', 'n', 'f'] ∨ rest = ['n', 'a', 'n'] then return ()
  let (whole, rest) := rest.span fun c ↦ c ≠ '.' && !isExponentLetter c
  let wholeValue ← wholeNumber whole
  match rest with
  | '.' :: rest =>
    let (fraction, rest) := rest.span fun c ↦ !isExponentLetter c
    let _ ← digits 10 fraction
    let fractionDigits := fraction.filter Char.isDigit
    let mantissa ← digits 10 (Nat.toDigits 10 wholeValue ++ fractionDigits)
    let exponent ← match rest with
      | [] => some 0
      | _ :: rest => exponent? rest
    if isFiniteDecimal mantissa (exponent - fractionDigits.length) then some () else none
  | _ :: rest =>
    let exponent ← exponent? rest
    if isFiniteDecimal wholeValue exponent then some () else none
  | [] => none

/-- The value of so many decimal digits, and the rest. -/
def fixedDigits (count : Nat) (cs : List Char) : Option (Nat × List Char) :=
  let front := cs.take count
  if front.length = count ∧ front.all Char.isDigit then
    some (front.foldl (fun n c ↦ n * 10 + (c.toNat - '0'.toNat)) 0, cs.drop count)
  else none

def skipChar (c : Char) : List Char → Option (List Char)
  | [] => none
  | d :: cs => if d = c then some cs else none

def isLeapYear (year : Nat) : Bool := year % 4 = 0 && (year % 100 ≠ 0 || year % 400 = 0)

def daysInMonth (year month : Nat) : Nat :=
  if month = 2 then if isLeapYear year then 29 else 28
  else if month = 4 ∨ month = 6 ∨ month = 9 ∨ month = 11 then 30
  else 31

def skipDate (cs : List Char) : Option (List Char) := do
  let (year, cs) ← fixedDigits 4 cs
  let (month, cs) ← fixedDigits 2 (← skipChar '-' cs)
  let (day, cs) ← fixedDigits 2 (← skipChar '-' cs)
  if 1 ≤ month ∧ month ≤ 12 ∧ 1 ≤ day ∧ day ≤ daysInMonth year month then some cs else none

def skipFraction : List Char → Option (List Char)
  | '.' :: cs =>
    match cs.span Char.isDigit with
    | ([], _) => none
    | (_, rest) => some rest
  | cs => some cs

/-- Skip a time of day, the seconds of which may be left out. -/
def skipTime (cs : List Char) : Option (List Char) := do
  let (hour, cs) ← fixedDigits 2 cs
  let (minute, cs) ← fixedDigits 2 (← skipChar ':' cs)
  if hour < 24 ∧ minute < 60 then
    match cs with
    | ':' :: cs =>
      let (second, cs) ← fixedDigits 2 cs
      if second ≤ 60 then skipFraction cs else none
    | _ => some cs
  else none

/-- A distance from universal time, or none. -/
def isOffset : List Char → Bool
  | [] => true
  | ['Z'] => true
  | ['z'] => true
  | sign :: cs => (sign = '+' || sign = '-') && Option.isSome do
    let (hour, cs) ← fixedDigits 2 cs
    let (minute, cs) ← fixedDigits 2 (← skipChar ':' cs)
    if hour < 24 ∧ minute < 60 ∧ cs = [] then some () else none

def isDate (cs : List Char) : Bool := skipDate cs == some []

/-- A date, a time of day, or a date and a time with or without an offset. -/
def isDateTime (cs : List Char) : Bool :=
  match skipDate cs with
  | some [] => true
  | some (c :: rest) =>
    (c = 'T' || c = 't' || c = ' ') && match skipTime rest with
      | some rest => isOffset rest
      | none => false
  | none => skipTime cs == some []

def scalar? (cs : List Char) : Option Value :=
  if cs = ['t', 'r', 'u', 'e'] then some (.boolean true)
  else if cs = ['f', 'a', 'l', 's', 'e'] then some (.boolean false)
  else match integer? cs with
    | some n => some (.integer n)
    | none =>
      if isFloat cs then some (.float (.ofList cs))
      else if isDateTime cs then some (.dateTime (.ofList cs))
      else none

def endsScalar (c : Char) : Bool :=
  c = ' ' || c = '\t' || c = '\n' || c = '\r' || c = ',' || c = ']' || c = '}' || c = '#' ||
    c = '=' || c = '[' || c = '{' || c = '"' || c = '\''

/-- Read a bare value. The time of a date may stand behind a space. -/
def scalar (cs : List Char) : Option (Value × List Char) := do
  let (word, rest) := cs.span fun c ↦ !endsScalar c
  match rest with
  | ' ' :: c :: more =>
    if isDate word && c.isDigit then
      let (time, rest) := (c :: more).span fun c ↦ !endsScalar c
      return (← scalar? (word ++ ' ' :: time), rest)
    else return (← scalar? word, rest)
  | _ => return (← scalar? word, rest)

end BusReplay.Toml
