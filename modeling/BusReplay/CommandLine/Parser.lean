import BusReplay.CommandLine.Arguments
import BusReplay.CommandLine.Failure

/-!
# Reading a command line

Tokens are read from left to right. The values of an option, or a row of files, are collected and
taken over when something else begins, so a fault in them is found then. A value attached to its
option is complete. A later occurrence of an option replaces an earlier one, except that filters
and files add up. After a token of two dashes every token is a file.
-/

namespace BusReplay.CommandLine

/-- What has been given so far. -/
@[ext]
structure Given where
  /-- The selected buses, the one selected last at the end. -/
  scopes : List BusScope
  name : Option String
  target : Option Target
  filter : List ResultClass
  files : List String
  logFormat : Option Log.Format
  debug : Bool
  completions : Option Shell
  manPage : Bool
  deriving DecidableEq, Repr

def Given.nothing : Given := ⟨[], none, none, [], [], none, false, none, false⟩

/-- How messages name the list of files, and how they name it when it is missing. -/
def filesLabel : String := "[FILE]..."

def requiredFilesLabel : String := "<FILE>..."

/-- The value with a given spelling, for the option that takes it. -/
def readChoice {α : Type} (key : OptionKey) (choices : Choices α) (text : String) :
    Except Failure α :=
  match choices.find text with
  | some value => .ok value
  | none =>
    if text = "" then .error (.missingValue key.label choices.listed)
    else .error (.invalidValue text key.label choices.listed)

namespace Given

/-- Select a bus, which then counts as selected last. -/
def addScope (g : Given) (scope : BusScope) : Given :=
  { g with scopes := g.scopes.filter (· ≠ scope) ++ [scope] }

def addFlag (g : Given) : OptionKey → Given
  | .scope scope => g.addScope scope
  | .debug => { g with debug := true }
  | .manPage => { g with manPage := true }
  | _ => g

/-- Take over an option with the values of one occurrence. -/
def addOption (g : Given) (key : OptionKey) (values : List String) : Except Failure Given :=
  match values with
  | [] => .error (.missingValue key.label key.choices)
  | value :: _ =>
    match key with
    | .name => .ok { g with name := some value }
    | .target => do
      return { g with target := some (← readChoice key .target value) }
    | .filter => do
      return { g with filter := g.filter ++ (← values.mapM (readChoice key .resultClass)) }
    | .logFormat => do
      return { g with logFormat := some (← readChoice key .logFormat value) }
    | .completions => do
      return { g with completions := some (← readChoice key .shell value) }
    | _ => .ok g

/-- Take over a row of files. No file name is empty. -/
def addFiles (g : Given) (files : List String) : Except Failure Given :=
  if "" ∈ files then .error (.missingValue filesLabel [])
  else .ok { g with files := g.files ++ files }

/-- A run that only generates a text needs no bus and no files. -/
def isStandalone (g : Given) : Bool := g.completions.isSome || g.manPage

def missing (g : Given) : List String :=
  if g.isStandalone then []
  else
    (if g.scopes.isEmpty then [BusScope.system.flag, BusScope.session.flag] else []) ++
      (if g.files.isEmpty then [requiredFilesLabel] else [])

/-- The arguments, with defaults for what is not given. -/
def complete (g : Given) : Arguments where
  system := g.scopes.contains .system
  session := g.scopes.contains .session
  name := g.name
  target := g.target.getD .dbusSend
  filter := if g.filter.isEmpty then [.crash] else g.filter
  files := g.files
  logFormat := g.logFormat
  debug := g.debug
  completions := g.completions
  manPage := g.manPage

/-- The arguments, if they go together and none is missing. -/
def check (g : Given) : Except Failure Arguments :=
  match g.scopes with
  | first :: second :: _ => .error (.conflict first.flag second.flag)
  | _ => if g.missing.isEmpty then .ok g.complete else .error (.missingRequired g.missing)

end Given

/-- Values that are being collected. -/
inductive Pending
  | option (key : OptionKey) (values : List String)
  | files (paths : List String)
  deriving DecidableEq, Repr

structure Reader where
  given : Given
  pending : Option Pending
  /-- Whether the next word belongs to the pending option. -/
  takesWord : Bool
  deriving DecidableEq, Repr

namespace Reader

def initial : Reader := ⟨.nothing, none, false⟩

/-- What is given once the pending values are taken over. -/
def settled (r : Reader) : Except Failure Given :=
  match r.pending with
  | none => .ok r.given
  | some (.option key values) => r.given.addOption key values
  | some (.files paths) => r.given.addFiles paths

/-- Read a flag. Asking for help or the version ends the reading. -/
def flag (r : Reader) (key : OptionKey) (isLong : Bool) : Except Failure Reader := do
  let given ← r.settled
  match key with
  | .help => throw (.help isLong)
  | .version => throw .version
  | _ => return ⟨given.addFlag key, none, false⟩

/-- Read an option with its value attached. -/
def attached (r : Reader) (key : OptionKey) (value : String) : Except Failure Reader := do
  let given ← r.settled
  return ⟨← given.addOption key [value], none, false⟩

/-- Read an option whose values follow. -/
def opened (r : Reader) (key : OptionKey) : Except Failure Reader := do
  let given ← r.settled
  return ⟨given, some (.option key []), true⟩

/-- Read a long spelling, with the value after its equals sign. -/
def long (r : Reader) (spelling : String) (value : Option String) : Except Failure Reader :=
  match OptionKey.ofLong? spelling with
  | none => .error (.unknown ("--" ++ spelling))
  | some key =>
    match key.arity, value with
    | .flag, none => r.flag key true
    | .flag, some value => .error (.unneededValue value key.label)
    | _, some value => r.attached key value
    | _, none => r.opened key

/-- Read letters behind one dash. The first option among them takes the rest as its value. -/
def letters (r : Reader) : List Char → Except Failure Reader
  | [] => .ok r
  | c :: rest =>
    match OptionKey.ofLetter? c with
    | none => .error (.unknown ("-" ++ c.toString))
    | some key =>
      match key.arity, rest with
      | .flag, _ => do (← r.flag key false).letters rest
      | _, [] => r.opened key
      | _, '=' :: value => r.attached key (.ofList value)
      | _, value => r.attached key (.ofList value)

def file (r : Reader) (path : String) : Except Failure Reader :=
  match r.pending with
  | some (.files paths) => .ok ⟨r.given, some (.files (paths ++ [path])), false⟩
  | _ => do return ⟨← r.settled, some (.files [path]), false⟩

/-- Read a word that is no option: a value of the pending option, or a file. -/
def word (r : Reader) (text : String) : Except Failure Reader :=
  match r.pending, r.takesWord with
  | some (.option key values), true =>
    .ok ⟨r.given, some (.option key (values ++ [text])), key.arity == .many⟩
  | _, _ => r.file text

/-- Read one token before the two dashes. -/
def token (r : Reader) (text : String) : Except Failure Reader :=
  match text.toList with
  | '-' :: '-' :: body =>
    match body.span (· ≠ '=') with
    | (spelling, '=' :: value) => r.long (.ofList spelling) (some (.ofList value))
    | _ => r.long (.ofList body) none
  | '-' :: c :: rest => r.letters (c :: rest)
  | _ => r.word text

def tokens (r : Reader) : List String → Except Failure Reader
  | [] => .ok r
  | text :: rest =>
    if text = "--" then rest.foldlM file r
    else do (← r.token text).tokens rest

end Reader

def Given.ofTokens (tokens : List String) : Except Failure Given := do
  (← Reader.initial.tokens tokens).settled

def readTokens (tokens : List String) : Except Failure Arguments := do
  (← Given.ofTokens tokens).check

/-- The arguments of a command line, which starts with the name of the program. -/
def parse (commandLine : List String) : Except Failure Arguments := readTokens (commandLine.drop 1)

end BusReplay.CommandLine
