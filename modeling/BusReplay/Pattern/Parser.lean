import BusReplay.Pattern.Basic
import BusReplay.Text.Blank
import BusReplay.Text.Hex
import BusReplay.Text.Numeric

/-!
# Reading a pattern

A function that reads something from the front of a text gives what it read and the rest. In a
verbose pattern blanks may stand between its parts, and a number sign starts a comment that goes on
to the end of the line.
-/

namespace BusReplay.Pattern

def skipVerbose (inComment : Bool) : List Char → List Char
  | [] => []
  | c :: cs =>
    if inComment then skipVerbose (c ≠ '\n') cs
    else if Text.isBlank c then skipVerbose false cs
    else if c = '#' then skipVerbose true cs
    else c :: cs

/-- Skip what does not count in front of the next part. -/
def skip (verbose : Bool) (cs : List Char) : List Char :=
  if verbose then skipVerbose false cs else cs

/-- Read so many digits in base sixteen, and the character whose code point they spell. -/
def hexChar (verbose : Bool) : (digits code : Nat) → List Char → Option (Char × List Char)
  | 0, code, cs => (Text.charOfCode? code).map (·, cs)
  | digits + 1, code, cs =>
    match skip verbose cs with
    | c :: rest =>
      match Text.hexDigit? c with
      | some d => hexChar verbose digits (code * 16 + d) rest
      | none => none
    | [] => none

/-- How many digits follow a letter that starts a character by its code point. -/
def hexDigits? : Char → Option Nat
  | 'x' => some 2
  | 'u' => some 4
  | 'U' => some 8
  | _ => none

/-- The control characters that have a letter. -/
def controlChar? : Char → Option Char
  | 'a' => some '\x07'
  | 'f' => some '\x0c'
  | 't' => some '\t'
  | 'n' => some '\n'
  | 'r' => some '\r'
  | 'v' => some '\x0b'
  | _ => none

/-- Read a category of Unicode, which has one letter. -/
def categoryOf (verbose : Bool) (cs : List Char) : Option (Pattern × List Char) :=
  match skip verbose cs with
  | [] => none
  | letter :: rest => if letter = '{' ∨ letter = '\\' then none else some (.category letter, rest)

/-- The part that a single character behind a backslash stands for. All ASCII characters but letters
and digits stand for themselves. -/
def escapedPart? (c : Char) : Option Pattern :=
  if c = 'd' ∨ c = 's' ∨ c = 'w' then some (.shorthand false)
  else if c = 'D' ∨ c = 'S' ∨ c = 'W' then some (.shorthand true)
  else if c = 'b' ∨ c = 'B' ∨ c = '<' ∨ c = '>' then some .wordBoundary
  else if c = 'A' ∨ c = 'z' then some .anchor
  else match controlChar? c with
    | some control => some (.literal ⟨control, false⟩)
    | none => if c.toNat < 0x80 ∧ ¬c.isAlphanum then some (.literal ⟨c, false⟩) else none

def escape (verbose : Bool) : List Char → Option (Pattern × List Char)
  | [] => none
  | c :: cs =>
    match hexDigits? c with
    | some digits => (hexChar verbose digits 0 cs).map fun (char, rest) ↦
      (.literal ⟨char, c = 'x'⟩, rest)
    | none =>
      if c = 'p' ∨ c = 'P' then categoryOf verbose cs
      else (escapedPart? c).map (·, cs)

/-- Read a character that stands for itself, or an escape. -/
def single (verbose : Bool) : List Char → Option (Pattern × List Char)
  | [] => none
  | '\\' :: cs => escape verbose cs
  | c :: cs => some (.literal ⟨c, false⟩, cs)

/-- A part as a member of a set, if it can be one. -/
def toSet? : Pattern → Option CharSet
  | .literal l => some (.literal l)
  | .shorthand negated => some (.shorthand negated)
  | .category letter => some (.category letter)
  | _ => none

/-- The character that decides whether a minus starts a range: the next one that counts. A comment
counts by its first visible character, and blanks that nothing follows count themselves. -/
def afterMinus (verbose : Bool) (cs : List Char) : Option Char :=
  if verbose then
    match cs.dropWhile Text.isBlank with
    | '#' :: comment => (comment.dropWhile Text.isBlank).head? <|> cs.head?
    | visible => visible.head? <|> cs.head?
  else cs.head?

/-- Read a member of a set: a range, which goes upwards, or a single part. -/
def member (verbose : Bool) (cs : List Char) : Option (CharSet × List Char) := do
  let (first, rest) ← single verbose cs
  match skip verbose rest with
  | [] => none
  | '-' :: behind =>
    if afterMinus verbose behind = some ']' ∨ afterMinus verbose behind = some '-' then
      return (← toSet? first, '-' :: behind)
    else
      let (last, rest) ← single verbose (skip verbose behind)
      match first, last with
      | .literal a, .literal b => if a.char ≤ b.char then some (.range a b, rest) else none
      | _, _ => none
  | rest => return (← toSet? first, rest)

def classNames : List String :=
  ["alnum", "alpha", "ascii", "blank", "cntrl", "digit", "graph", "lower", "print", "punct",
    "space", "upper", "word", "xdigit"]

/-- Skip one given character, if it is there; whether it is. -/
def skipChar (c : Char) : List Char → Bool × List Char
  | [] => (false, [])
  | d :: cs => if d = c then (true, cs) else (false, d :: cs)

/-- Read a class by its name, behind its opening bracket. -/
def namedClass? : List Char → Option (CharSet × List Char)
  | ':' :: cs =>
    let (negated, cs) := skipChar '^' cs
    match cs.span (· ≠ ':') with
    | (name, ':' :: ']' :: rest) =>
      if classNames.contains (.ofList name) then some (.named negated, rest) else none
    | _ => none
  | _ => none

/-- The set that has the given members, the last one first. -/
def CharSet.ofMembers : List CharSet → CharSet
  | [] => .empty
  | [item] => item
  | items => .union items.reverse

/-- A set that is put together from the one on the left, if there is one, and the given members. -/
def CharSet.join (left : Option CharSet) (members : List CharSet) : CharSet :=
  match left with
  | some left => .combined left (ofMembers members)
  | none => ofMembers members

/-- Read a set up to its closing bracket, in fewer than `fuel` steps, behind the members read so
far. At the start of it a minus, and a closing bracket that nothing stands before, are members. -/
def setContent (verbose : Bool) : (fuel : Nat) → (atStart : Bool) → (left : Option CharSet) →
    (members : List CharSet) → List Char → Option (CharSet × List Char)
  | 0, _, _, _, _ => none
  | fuel + 1, atStart, left, members, cs =>
    let minus := CharSet.literal ⟨'-', false⟩
    let bracket := CharSet.literal ⟨']', false⟩
    match skip verbose cs, atStart, members with
    | [], _, _ => none
    | '-' :: rest, true, _ => setContent verbose fuel true left (minus :: members) rest
    | ']' :: rest, true, [] => setContent verbose fuel false left [bracket] rest
    | ']' :: rest, _, _ => some (.join left members, rest)
    | '&' :: '&' :: rest, _, _ | '-' :: '-' :: rest, _, _ | '~' :: '~' :: rest, _, _ =>
      setContent verbose fuel false (some (.join left members)) [] rest
    | '[' :: rest, _, _ =>
      match namedClass? rest with
      | some (named, rest) => setContent verbose fuel false left (named :: members) rest
      | none => do
        let (negated, rest) := skipChar '^' (skip verbose rest)
        let (content, rest) ← setContent verbose fuel true none [] rest
        setContent verbose fuel false left (.nested negated content :: members) rest
    | cs, _, _ => do
      let (item, rest) ← member verbose cs
      setContent verbose fuel false left (item :: members) rest

/-- Read a set behind its opening bracket. Every step takes a character at least. -/
def setOf (verbose : Bool) (cs : List Char) : Option (Pattern × List Char) := do
  let (negated, rest) := skipChar '^' (skip verbose cs)
  let (content, rest) ← setContent verbose (rest.length + 1) true none [] rest
  return (.set negated content, rest)

/-- What an opening parenthesis starts. -/
inductive Opening
  | group (flags : Flags) (name : Option (List Char))
  /-- A group that only holds a setting, and is complete. -/
  | setting (flags : Flags)
  deriving DecidableEq, Repr

def isGroupName : List Char → Bool
  | [] => false
  | first :: rest =>
    (first = '_' || Text.isAlphabetic first) && rest.all fun c ↦
      c = '_' || c = '.' || c = '[' || c = ']' || Text.isAlphanumeric c

/-- Read the name of a group up to its closing angle bracket. -/
def groupName (cs : List Char) : Option (Opening × List Char) :=
  match cs.span (· ≠ '>') with
  | (name, _ :: rest) => if isGroupName name then some (.group .none (some name), rest) else none
  | _ => none

def flagLetters : List Char := ['i', 'm', 's', 'U', 'u', 'R', 'x']

/-- The flags with one more of them switched. -/
def Flags.switch (flags : Flags) (letter : Char) (on : Bool) : Flags :=
  match letter with
  | 'u' => { flags with unicode := some on }
  | 'x' => { flags with verbose := some on }
  | _ => flags

/-- Read flags up to a colon, behind which the group has more, or its closing parenthesis. The flags
behind a minus are switched off; none is given twice. What is read already comes last one first. -/
def flagsOf (read : List Char) (flags : Flags) : List Char → Option (Opening × List Char)
  | [] => none
  | c :: cs =>
    if c = ':' then if read.head? = some '-' then none else some (.group flags none, cs)
    else if c = ')' then
      if read.isEmpty ∨ read.head? = some '-' then none else some (.setting flags, cs)
    else if read.contains c then none
    else if c = '-' then flagsOf (c :: read) flags cs
    else if flagLetters.contains c then
      flagsOf (c :: read) (flags.switch c (!read.contains '-')) cs
    else none

def opening : List Char → Option (Opening × List Char)
  | '?' :: 'P' :: '<' :: cs => groupName cs
  | '?' :: '<' :: cs => groupName cs
  | '?' :: cs => flagsOf [] .none cs
  | cs => some (.group .none none, cs)

/-- The pattern of the given parts, the last one first. -/
def ofParts : List Pattern → Pattern
  | [] => .empty
  | [part] => part
  | parts => .sequence parts.reverse

/-- The pattern of the given branches, the last one first. -/
def ofBranches : List Pattern → Pattern
  | [branch] => branch
  | branches => .alternatives branches.reverse

/-- Read a single part that is neither a group nor a set nor an operator. -/
def plainPart (verbose : Bool) : List Char → Option (Pattern × List Char)
  | '.' :: cs => some (.dot, cs)
  | '^' :: cs => some (.anchor, cs)
  | '$' :: cs => some (.anchor, cs)
  | cs => single verbose cs

/-- A part and its repetition. Nothing and a setting cannot be repeated. -/
def repeatLast : List Pattern → Option (List Pattern)
  | [] => none
  | .setting _ :: _ => none
  | part :: parts => some (.repeated part :: parts)

/-- Read a pattern up to its end or to a closing parenthesis, in fewer than `fuel` steps, behind the
branches and the parts of the last branch that are read already. -/
def body : (fuel : Nat) → (verbose : Bool) → (branches parts : List Pattern) → List Char →
    Option (Pattern × List Char)
  | 0, _, _, _, _ => none
  | fuel + 1, verbose, branches, parts, cs =>
    match skip verbose cs with
    | [] => some (ofBranches (ofParts parts :: branches), [])
    | ')' :: rest => some (ofBranches (ofParts parts :: branches), ')' :: rest)
    | '|' :: rest => body fuel verbose (ofParts parts :: branches) [] rest
    | '(' :: rest => do
      match ← opening (skip verbose rest) with
      | (.setting flags, rest) =>
        body fuel (flags.verbose.getD verbose) branches (.setting flags :: parts) rest
      | (.group flags name, rest) =>
        match ← body fuel (flags.verbose.getD verbose) [] [] rest with
        | (inner, ')' :: rest) => body fuel verbose branches (.group flags name inner :: parts) rest
        | _ => none
    | '[' :: rest => do
      let (part, rest) ← setOf verbose rest
      body fuel verbose branches (part :: parts) rest
    | '?' :: rest | '*' :: rest | '+' :: rest => do
      body fuel verbose branches (← repeatLast parts) (skipChar '?' rest).2
    | '{' :: _ => none
    | cs => do
      let (part, rest) ← plainPart verbose cs
      body fuel verbose branches (part :: parts) rest

/-- The pattern that a text spells. Every step takes a character at least. -/
def ofText? (cs : List Char) : Option Pattern :=
  match body (cs.length + 1) false [] [] cs with
  | some (pattern, []) => some pattern
  | _ => none

end BusReplay.Pattern
