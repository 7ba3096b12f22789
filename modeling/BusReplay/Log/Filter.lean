import BusReplay.Log.Event
import BusReplay.Pattern.Support
import BusReplay.Text.Blank
import BusReplay.Text.Bytes
import BusReplay.Text.Case
import BusReplay.Text.Decimal
import BusReplay.Text.Fields
import BusReplay.Text.Numeric

/-!
# Which events are shown

A filter is a list of directives with commas between them. Each says how much is shown of the
events it covers: of all events, of those from certain areas, or of those with a certain field. Of
the directives that cover an event the most specific one decides, and what none covers is not
shown.
-/

namespace BusReplay.Log

structure Directive where
  /-- What the names of the covered areas start with. -/
  target : Option String
  /-- The span that covered events are in. -/
  span : Option String
  /-- A field of the covered events, and the value it has there. -/
  field : Option (String × Option String)
  /-- The last level that is shown; without one, none is. -/
  limit : Option Level
  deriving DecidableEq, Repr

namespace Directive

def upTo (level : Level) : Directive := ⟨none, none, none, some level⟩

/-- Whether an event has the field of a directive. Values are compared in spans only. -/
def coversFields (d : Directive) (event : Event) : Bool :=
  match d.field with
  | none => true
  | some (name, none) => event.fieldNames.contains name
  | some (_, some _) => false

/-- Whether a directive covers an event. Events are in no span. -/
def covers (d : Directive) (event : Event) : Bool :=
  d.span.isNone && d.coversFields event &&
    d.target.all fun target ↦ target.toList.isPrefixOf event.area.name.toList

def targetLength (d : Directive) : Nat := (d.target.getD "").length

def fieldName? (d : Directive) : Option String := d.field.map Prod.fst

/-- Whether a directive is at least as specific as another that covers the same event: by the
length of its target, then by having a field, then by the name of that. -/
def isAsSpecificAs (d other : Directive) : Bool :=
  other.targetLength < d.targetLength ||
    d.targetLength == other.targetLength && match d.fieldName?, other.fieldName? with
      | _, none => true
      | none, some _ => false
      | some name, some otherName => decide (otherName ≤ name)

def shows (d : Directive) (level : Level) : Bool :=
  d.limit.any fun limit ↦ level.rank ≤ limit.rank

end Directive

/-- The number that decimal digits stand for. A plus sign may stand before them. -/
def numberOfDigits? (cs : List Char) : Option Nat :=
  let digits := match cs with
    | '+' :: rest => rest
    | cs => cs
  if !digits.isEmpty && digits.all Char.isDigit then
    some (digits.foldl (fun n c ↦ n * 10 + (c.toNat - '0'.toNat)) 0)
  else none

/-- The limit of a number: nothing for zero, and more with every level. -/
def limitOfNumber? : Nat → Option (Option Level)
  | 0 => some none
  | n => (Level.all.find? fun level ↦ level.rank == n).map some

/-- The limit of a word: a number, or the name of a level or `off` in any case. -/
def limitOfWord? (cs : List Char) : Option (Option Level) :=
  match numberOfDigits? cs with
  | some n => limitOfNumber? n
  | none =>
    let word := Text.foldCase (.ofList cs)
    if word = "off" then some none
    else (Level.all.find? fun level ↦ Text.foldCase level.name == word).map some

/-- The limit behind an equals sign. An empty word shows everything. -/
def limitAfterEquals? (cs : List Char) : Option (Option Level) :=
  if cs.isEmpty then some (some .trace) else limitOfWord? cs

/-- A field, and the value behind its equals sign, which is a number or a pattern. -/
def fieldOfText? (cs : List Char) : Option (String × Option String) :=
  match Text.fields '=' cs with
  | name :: value :: _ =>
    if Text.isNumber value || Pattern.isPattern value then
      some (.ofList name, some (.ofList value))
    else none
  | _ => some (.ofList cs, none)

/-!
The parts of a directive are found in its text without the blanks at both ends, and then taken from
the same places of its text with them, counted in bytes. So blanks in front shift all parts, and
blanks behind belong to the last one. The readers below take the rest of either text.
-/

/-- Read what is behind a span: nothing, or a limit. -/
def limitAfterSpan? (trimmed whole : List Char) : Option (Option Level) :=
  match trimmed with
  | [] => some (some .trace)
  | '=' :: _ => limitAfterEquals? (Text.dropBytes 1 whole)
  | _ => none

/-- Read a field behind its opening brace, the closing brace, and a bracket; then what is behind
the span. -/
def fieldOfSpan? (trimmed whole : List Char) :
    Option ((String × Option String) × Option Level) := do
  let (text, rest) := trimmed.span (· ≠ '}')
  let size := Text.byteSize text
  match rest with
  | '}' :: ']' :: rest =>
    if text.isEmpty then none
    else
      let field ← fieldOfText? (Text.takeBytes size whole)
      return (field, ← limitAfterSpan? rest (Text.dropBytes (size + 2) whole))
  | _ => none

/-- Read a span behind its opening bracket: a name, which may be empty, and either a closing
bracket or a field. -/
def spanDirective? (target : Option String) (trimmed whole : List Char) : Option Directive := do
  let (name, rest) := trimmed.span fun c ↦ c ≠ ']' && c ≠ '{'
  let size := Text.byteSize name
  let span := String.ofList (Text.takeBytes size whole)
  let behind := Text.dropBytes (size + 1) whole
  match rest with
  | ']' :: rest => return ⟨target, some span, none, ← limitAfterSpan? rest behind⟩
  | '{' :: rest =>
    let (field, limit) ← fieldOfSpan? rest behind
    return ⟨target, if name.isEmpty then none else some span, some field, limit⟩
  | _ => none

/-- The characters that the name of an area can start with. -/
def startsTarget (c : Char) : Bool := c = '-' || c = ':' || c = '_' || Text.isAlphanumeric c

/-- The directive of a text that starts with a target. A word that is no limit is a target. -/
def targetDirective? (trimmed whole : List Char) : Option Directive := do
  let (text, rest) := trimmed.span fun c ↦ c ≠ '=' && c ≠ '['
  let size := Text.byteSize text
  let target := String.ofList (Text.takeBytes size whole)
  let behind := Text.dropBytes (size + 1) whole
  match rest with
  | '[' :: rest => spanDirective? (some target) rest behind
  | '=' :: _ => return ⟨some target, none, none, ← limitAfterEquals? behind⟩
  | _ =>
    match limitOfWord? whole with
    | some limit => return ⟨none, none, none, limit⟩
    | none => return ⟨some (.ofList whole), none, none, some .trace⟩

/-- The directive that a text without commas stands for. -/
def Directive.ofText? (whole : List Char) : Option Directive :=
  let trimmed := Text.trim whole
  match trimmed with
  | [] => none
  | '[' :: rest => spanDirective? none rest (Text.dropBytes 1 whole)
  | first :: _ => if startsTarget first then targetDirective? trimmed whole else none

abbrev Filter := List Directive

namespace Filter

def nothing : Filter := []

def upTo (level : Level) : Filter := [.upTo level]

/-- The filter that a text stands for; none if one of its directives is ill-formed. Without a
directive errors are shown. -/
def ofText? (text : String) : Option Filter := do
  match ← ((Text.fields ',' text.toList).filter (!·.isEmpty)).mapM Directive.ofText? with
  | [] => return upTo .error
  | directives => return directives

/-- The more specific one of two directives, and the later one of two that are equal in this. -/
def preferred (best : Option Directive) (d : Directive) : Option Directive :=
  if best.all d.isAsSpecificAs then some d else best

def deciding? (filter : Filter) (event : Event) : Option Directive :=
  (filter.filter fun d ↦ d.covers event).foldl preferred none

def shows (filter : Filter) (event : Event) : Bool :=
  (filter.deciding? event).any fun d ↦ d.shows event.level

end Filter

end BusReplay.Log
