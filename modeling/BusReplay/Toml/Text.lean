import BusReplay.Text.Hex

/-!
# Characters, blanks, strings and keys of TOML

A function that reads something from the front of a text gives what it read and the rest. The
string readers start behind the opening quotes.
-/

namespace BusReplay.Toml

def isSpace (c : Char) : Bool := c = ' ' || c = '\t'

/-- Characters that may stand in a comment or a literal string: all but the controls, of which
only the tab is allowed. -/
def isPlainChar (c : Char) : Bool := c = '\t' || (0x20 ≤ c.toNat && c.toNat ≠ 0x7F)

/-- Skip blanks, line ends and comments. Fails at a control character in a comment. -/
def skipTrivia (inComment : Bool) : List Char → Option (List Char)
  | [] => some []
  | '\r' :: '\n' :: cs => skipTrivia false cs
  | '\n' :: cs => skipTrivia false cs
  | c :: cs =>
    if inComment then if isPlainChar c then skipTrivia true cs else none
    else if isSpace c then skipTrivia false cs
    else if c = '#' then skipTrivia true cs
    else some (c :: cs)

/-- Skip the rest of a line, which holds blanks and a comment at most. -/
def skipLineEnd (inComment : Bool) : List Char → Option (List Char)
  | [] => some []
  | '\r' :: '\n' :: cs => some cs
  | '\n' :: cs => some cs
  | c :: cs =>
    if inComment then if isPlainChar c then skipLineEnd true cs else none
    else if isSpace c then skipLineEnd false cs
    else if c = '#' then skipLineEnd true cs
    else none

/-- Put a character in front of what is read after it. -/
def push (c : Char) : Option (List Char × List Char) → Option (List Char × List Char)
  | some (text, rest) => some (c :: text, rest)
  | none => none

/-- What the characters of a string between double quotes are read as. -/
inductive StringMode
  | plain
  /-- Behind a backslash. -/
  | escape
  /-- In an escape by code point, with so many digits to come after the next one. -/
  | digits (more : Nat) (code : Nat)
  /-- Behind a backslash that ends a line; whether the end of the line was seen. -/
  | gap (seenLineEnd : Bool)
  deriving DecidableEq, Repr

def escapedChar? : Char → Option Char
  | 'b' => some '\x08'
  | 't' => some '\t'
  | 'n' => some '\n'
  | 'f' => some '\x0c'
  | 'r' => some '\r'
  | 'e' => some '\x1b'
  | '"' => some '"'
  | '\\' => some '\\'
  | _ => none

/-- How many digits an escape by code point has, less one. -/
def escapeDigits? : Char → Option Nat
  | 'x' => some 1
  | 'u' => some 3
  | 'U' => some 7
  | _ => none

/-- Read a string up to its closing double quote. -/
def basicString : StringMode → List Char → Option (List Char × List Char)
  | _, [] => none
  | .plain, c :: cs =>
    if c = '"' then some ([], cs)
    else if c = '\\' then basicString .escape cs
    else if isPlainChar c then push c (basicString .plain cs)
    else none
  | .escape, c :: cs =>
    match escapedChar? c, escapeDigits? c with
    | some e, _ => push e (basicString .plain cs)
    | none, some more => basicString (.digits more 0) cs
    | none, none => none
  | .digits more code, c :: cs =>
    match Text.hexDigit? c, more with
    | none, _ => none
    | some d, more + 1 => basicString (.digits more (code * 16 + d)) cs
    | some d, 0 =>
      match Text.charOfCode? (code * 16 + d) with
      | some e => push e (basicString .plain cs)
      | none => none
  | .gap _, _ :: _ => none

/-- A line end directly behind the opening quotes does not belong to the string. -/
def dropFirstLineEnd : List Char → List Char
  | '\n' :: cs => cs
  | '\r' :: '\n' :: cs => cs
  | cs => cs

/-- A character that is no blank ends the gap behind a backslash that ended a line. -/
def StringMode.settle (mode : StringMode) (c : Char) : StringMode :=
  if mode = .gap true ∧ ¬ (isSpace c ∨ c = '\n' ∨ c = '\r') then .plain else mode

/-- Read a string of several lines up to its three closing double quotes, of which up to two more
in front belong to the string. -/
def longBasicString : StringMode → List Char → Option (List Char × List Char)
  | _, [] => none
  | mode, c :: cs =>
    match mode.settle c with
    | .plain =>
      if c = '"' then
        match cs with
        | '"' :: '"' :: '"' :: '"' :: rest => some (['"', '"'], rest)
        | '"' :: '"' :: '"' :: rest => some (['"'], rest)
        | '"' :: '"' :: rest => some ([], rest)
        | _ => push c (longBasicString .plain cs)
      else if c = '\\' then longBasicString .escape cs
      else if c = '\r' ∧ cs.head? ≠ some '\n' then none
      else if c = '\n' ∨ c = '\r' ∨ isPlainChar c then push c (longBasicString .plain cs)
      else none
    | .escape =>
      match escapedChar? c, escapeDigits? c with
      | some e, _ => push e (longBasicString .plain cs)
      | none, some more => longBasicString (.digits more 0) cs
      | none, none =>
        if isSpace c then longBasicString (.gap false) cs
        else if c = '\n' then longBasicString (.gap true) cs
        else if c = '\r' ∧ cs.head? = some '\n' then longBasicString (.gap true) cs
        else none
    | .digits more code =>
      match Text.hexDigit? c, more with
      | none, _ => none
      | some d, more + 1 => longBasicString (.digits more (code * 16 + d)) cs
      | some d, 0 =>
        match Text.charOfCode? (code * 16 + d) with
        | some e => push e (longBasicString .plain cs)
        | none => none
    | .gap seenLineEnd =>
      if isSpace c then longBasicString (.gap seenLineEnd) cs
      else if c = '\n' then longBasicString (.gap true) cs
      else if c = '\r' ∧ cs.head? = some '\n' then longBasicString (.gap true) cs
      else none

/-- Read a literal string up to its closing apostrophe. -/
def literalString : List Char → Option (List Char × List Char)
  | [] => none
  | c :: cs =>
    if c = '\'' then some ([], cs)
    else if isPlainChar c then push c (literalString cs)
    else none

/-- Read a literal string of several lines up to its three closing apostrophes, of which up to two
more in front belong to the string. -/
def longLiteralString : List Char → Option (List Char × List Char)
  | [] => none
  | c :: cs =>
    if c = '\'' then
      match cs with
      | '\'' :: '\'' :: '\'' :: '\'' :: rest => some (['\'', '\''], rest)
      | '\'' :: '\'' :: '\'' :: rest => some (['\''], rest)
      | '\'' :: '\'' :: rest => some ([], rest)
      | _ => push c (longLiteralString cs)
    else if c = '\r' ∧ cs.head? ≠ some '\n' then none
    else if c = '\n' ∨ c = '\r' ∨ isPlainChar c then push c (longLiteralString cs)
    else none

/-- Read a string of any kind, quotes included; fails where no string starts. -/
def anyString : List Char → Option (List Char × List Char)
  | '"' :: '"' :: '"' :: cs => longBasicString .plain (dropFirstLineEnd cs)
  | '"' :: cs => basicString .plain cs
  | '\'' :: '\'' :: '\'' :: cs => longLiteralString (dropFirstLineEnd cs)
  | '\'' :: cs => literalString cs
  | _ => none

def isBareKeyChar (c : Char) : Bool := c.isAlphanum || c = '-' || c = '_'

def keyPart : List Char → Option (String × List Char)
  | '"' :: cs => (basicString .plain cs).map fun (text, rest) ↦ (.ofList text, rest)
  | '\'' :: cs => (literalString cs).map fun (text, rest) ↦ (.ofList text, rest)
  | cs =>
    match cs.span isBareKeyChar with
    | ([], _) => none
    | (text, rest) => some (.ofList text, rest)

/-- Read a key of at most `limit` parts with dots between them. -/
def keyPath : (limit : Nat) → List Char → Option (List String × List Char)
  | 0, _ => none
  | limit + 1, cs => do
    let (part, rest) ← keyPart cs
    match rest.dropWhile isSpace with
    | '.' :: more =>
      let (parts, rest) ← keyPath limit (more.dropWhile isSpace)
      return (part :: parts, rest)
    | _ => return ([part], rest)

def maxKeyParts : Nat := 80

def key (cs : List Char) : Option (List String × List Char) := keyPath maxKeyParts cs

end BusReplay.Toml
