/-!
# Rendering one argument

A rule says how the values of one type tag are put on a command line. A plain literal is copied.
A value in base sixteen stays encoded and is decoded by the shell that runs the command, between
double quotes, so the bytes that were logged never meet the shell's own syntax.
-/

namespace BusReplay

inductive Target
  | dbusSend
  | gdbus
  deriving DecidableEq, Repr

namespace Target

def all : List Target := [dbusSend, gdbus]

def tool : Target → String
  | dbusSend => "dbus-send"
  | gdbus => "gdbus"

end Target

inductive FormatError
  | unsupportedType (tag : Char) (tool : String)
  | unsafeLiteral (tag : Char) (value : String)
  | invalidHex (tag : Char)
  deriving DecidableEq, Repr

namespace FormatError

def message : FormatError → String
  | unsupportedType tag tool =>
    "Argument type " ++ tag.toString ++ " unsupported for " ++ tool
  | unsafeLiteral tag value =>
    "value '" ++ value ++ "' of type " ++ tag.toString ++ " is not a plain literal"
  | invalidHex tag => "value of type " ++ tag.toString ++ " is not hex-encoded"

end FormatError

/-- How a value is put on the command line. -/
inductive Rendering
  /-- Copied as logged. -/
  | verbatim
  /-- Decoded from base sixteen when the command runs. -/
  | hexDecoded
  deriving DecidableEq, Repr

def Rendering.name : Rendering → String
  | verbatim => "Verbatim"
  | hexDecoded => "HexDecoded"

/-- The characters of a plain literal: ASCII letters and digits, plus, minus and dot. -/
def isLiteralChar (c : Char) : Bool := c.isAlphanum || c == '+' || c == '.' || c == '-'

def isPlainLiteral (cs : List Char) : Bool := !cs.isEmpty && cs.all isLiteralChar

/-- The digits of base sixteen, in either case. -/
def isHexDigit (c : Char) : Bool := c.isDigit || ('a' ≤ c && c ≤ 'f') || ('A' ≤ c && c ≤ 'F')

/-- The command that decodes its input from base sixteen. -/
def hexDecodeCommand : String := "xxd -r -p"

/-- A quoted command substitution that yields the decoded bytes. -/
def decodeFragment (hex : String) : String :=
  "\"`echo " ++ hex ++ " | " ++ hexDecodeCommand ++ "`\""

/-- How the values of one type tag are rendered. -/
structure ArgumentRule where
  tag : Char
  /-- The type, written with a colon in front of the value, for a tool that wants one. -/
  typeName : Option String
  rendering : Rendering
  deriving DecidableEq, Repr

namespace ArgumentRule

/-- The value itself, without its type. -/
def renderValue (rule : ArgumentRule) (value : String) : Except FormatError String :=
  match rule.rendering with
  | .verbatim =>
    if isPlainLiteral value.toList then .ok value else .error (.unsafeLiteral rule.tag value)
  | .hexDecoded =>
    if value.toList.all isHexDigit then .ok (decodeFragment value)
    else .error (.invalidHex rule.tag)

/-- What stands in front of a value. -/
def label (rule : ArgumentRule) : String :=
  match rule.typeName with
  | some typeName => typeName ++ ":"
  | none => ""

def render (rule : ArgumentRule) (value : String) : Except FormatError String := do
  let body ← rule.renderValue value
  return rule.label ++ body

end ArgumentRule

end BusReplay
