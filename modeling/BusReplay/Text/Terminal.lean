/-!
# Text without terminal controls

Text that a terminal would act on rather than show is removed: escape sequences as a whole, and
single control characters other than ASCII white space. White space in the middle of a sequence is
shown. In a text that is stripped as a whole it also ends the sequence; in one that is stripped
while it is written, the sequence goes on at the next character that is not shown.
-/

namespace BusReplay.Text.Terminal

/-- How far into an escape sequence a text is. -/
inductive Mode
  | plain
  /-- Behind the escape character. -/
  | escape
  /-- In the intermediate characters of a short sequence. -/
  | intermediate
  /-- In the parameters of a control sequence. -/
  | control
  /-- In a command to the operating system, which a bell ends. -/
  | command
  /-- At the start of a sequence for a device. -/
  | deviceStart
  | deviceParameters
  | deviceIntermediate
  /-- In a string without a meaning, or in the data for a device. -/
  | string
  /-- Behind white space that was shown in the middle of a sequence. -/
  | paused (mode : Mode)
  deriving DecidableEq, Repr

inductive Manner
  | whole
  | written
  deriving DecidableEq, Repr

/-- The white space that is shown wherever single controls are carried out. -/
def isKeptControl (c : Char) : Bool := c = '\t' || c = '\n' || c = '\x0c' || c = '\r'

/-- ASCII characters that are no controls. -/
def isGraphic (c : Char) : Bool := 0x20 ≤ c.toNat && c.toNat < 0x7F

/-- Whether the UTF-8 form of a character has the byte 0x9C, which ends a string, behind its first
byte. Each of the bytes there holds six bits of the code point. -/
def holdsTerminator (c : Char) : Bool :=
  let n := c.toNat
  n % 64 = 0x1C || (0x800 ≤ n && n / 64 % 64 = 0x1C) || (0x10000 ≤ n && n / 4096 % 64 = 0x1C)

/-- The mode after an ASCII character that is no control, in the middle of a sequence. -/
def Mode.afterGraphic (c : Char) : Mode → Mode
  | escape =>
    if c.toNat < 0x30 then intermediate
    else if c = '[' then control
    else if c = ']' then command
    else if c = 'P' then deviceStart
    else if c = 'X' ∨ c = '^' ∨ c = '_' then string
    else plain
  | intermediate => if c.toNat < 0x30 then intermediate else plain
  | control => if c.toNat < 0x40 then control else plain
  | deviceStart =>
    if c.toNat < 0x30 then deviceIntermediate
    else if c.toNat < 0x40 then deviceParameters
    else string
  | deviceParameters =>
    if c.toNat < 0x30 then deviceIntermediate
    else if c.toNat < 0x3C then deviceParameters
    else string
  | deviceIntermediate => if c.toNat < 0x30 then deviceIntermediate else string
  | mode => mode

/-- The modes in which single controls are carried out. -/
def Mode.carriesOut : Mode → Bool
  | escape | intermediate | control => true
  | _ => false

/-- Whether a character is shown in this mode, and the mode after it. -/
def step (manner : Manner) (c : Char) : Mode → Bool × Mode
  | .plain =>
    if c = '\x1b' then (false, .escape)
    else (0x80 ≤ c.toNat || isKeptControl c || isGraphic c, .plain)
  | .paused mode =>
    if c = '\x1b' then (false, .escape)
    else if c = '\x18' ∨ c = '\x1a' then (false, .plain)
    else if 0x80 ≤ c.toNat then (true, .plain)
    else if isKeptControl c ∨ isGraphic c then (true, .paused mode)
    else (false, mode)
  | mode =>
    if c = '\x1b' then (false, .escape)
    else if c = '\x18' ∨ c = '\x1a' then (false, .plain)
    else if 0x80 ≤ c.toNat then (false, if mode = .string ∧ holdsTerminator c then .plain else mode)
    else if isGraphic c then (false, mode.afterGraphic c)
    else if mode.carriesOut ∧ isKeptControl c then
      (true, match manner with
        | .whole => .plain
        | .written => .paused mode)
    else if mode = .command ∧ c = '\x07' then (false, .plain)
    else (false, mode)

/-- What is shown of the characters after the ones that led to a mode. -/
def visible (manner : Manner) : Mode → List Char → List Char
  | _, [] => []
  | mode, c :: cs =>
    let (shown, next) := step manner c mode
    if shown then c :: visible manner next cs else visible manner next cs

/-- The part of a text that a terminal shows. -/
def strip (manner : Manner) (s : String) : String := .ofList (visible manner .plain s.toList)

end BusReplay.Text.Terminal
