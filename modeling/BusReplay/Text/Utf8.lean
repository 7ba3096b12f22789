/-!
# Decoding UTF-8

The decoder reads one byte at a time. It holds the character it is in the middle of, if any, and
the range the next byte has to lie in. A byte outside that range ends a malformed run and is read
again as the first byte of a character, so each maximal prefix of a character that cannot be
completed counts as one malformed run. Lossy decoding writes U+FFFD for a run; strict decoding
refuses the text.
-/

namespace BusReplay.Text.Utf8

/-- A character of which the first bytes have been read. -/
structure Unfinished where
  /-- The bits read so far. -/
  bits : Nat
  /-- How many bytes follow the next one. -/
  after : Nat
  low : UInt8
  high : UInt8
  deriving DecidableEq, Repr

/-- What the first byte of a character of two bytes or more promises. -/
def Unfinished.ofLead (b : UInt8) : Option Unfinished :=
  if b < 0xC2 then none
  else if b < 0xE0 then some ⟨b.toNat - 0xC0, 0, 0x80, 0xBF⟩
  else if b = 0xE0 then some ⟨0, 1, 0xA0, 0xBF⟩
  else if b = 0xED then some ⟨0xD, 1, 0x80, 0x9F⟩
  else if b < 0xF0 then some ⟨b.toNat - 0xE0, 1, 0x80, 0xBF⟩
  else if b = 0xF0 then some ⟨0, 2, 0x90, 0xBF⟩
  else if b < 0xF4 then some ⟨b.toNat - 0xF0, 2, 0x80, 0xBF⟩
  else if b = 0xF4 then some ⟨4, 2, 0x80, 0x8F⟩
  else none

/-- Characters read so far, the newest first, with `none` for a malformed run. -/
structure Decoder where
  read : List (Option Char)
  current : Option Unfinished
  deriving DecidableEq, Repr

namespace Decoder

def initial : Decoder := ⟨[], none⟩

/-- Read a byte that starts a character. -/
def start (read : List (Option Char)) (b : UInt8) : Decoder :=
  if b < 0x80 then ⟨some (Char.ofNat b.toNat) :: read, none⟩
  else match Unfinished.ofLead b with
    | some p => ⟨read, some p⟩
    | none => ⟨none :: read, none⟩

def step (d : Decoder) (b : UInt8) : Decoder :=
  match d.current with
  | none => start d.read b
  | some p =>
    if p.low ≤ b ∧ b ≤ p.high then
      let bits := p.bits * 64 + (b.toNat - 0x80)
      match p.after with
      | 0 => ⟨some (Char.ofNat bits) :: d.read, none⟩
      | k + 1 => ⟨d.read, some ⟨bits, k, 0x80, 0xBF⟩⟩
    else start (none :: d.read) b

/-- The end of the bytes: an unfinished character is a malformed run. -/
def finish (d : Decoder) : List (Option Char) :=
  match d.current with
  | none => d.read.reverse
  | some _ => (none :: d.read).reverse

end Decoder

/-- The characters of a byte string, with `none` for each malformed run. -/
def units (bytes : List UInt8) : List (Option Char) :=
  (bytes.foldl Decoder.step Decoder.initial).finish

def replacement : Char := '\uFFFD'

def decodeLossy (bytes : List UInt8) : List Char :=
  (units bytes).map fun unit ↦ unit.getD replacement

/-- The text of a byte string that is well-formed throughout. -/
def decode? (bytes : List UInt8) : Option (List Char) :=
  if (units bytes).all Option.isSome then some (decodeLossy bytes) else none

end BusReplay.Text.Utf8
