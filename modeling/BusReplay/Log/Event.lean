import BusReplay.Text.Json
import BusReplay.Text.Quoted

/-!
# Log events and log lines

An event comes from an area of the program and has a level, a message and named values. As text it
is one line of time, level, message and values, with or without colours; as JSON it is one object
on a line. Times come from outside.
-/

namespace BusReplay.Log

/-- How much an event matters, the most important first. -/
inductive Level
  | error
  | warn
  | info
  | debug
  | trace
  deriving DecidableEq, Repr

namespace Level

def all : List Level := [error, warn, info, debug, trace]

def rank : Level → Nat
  | error => 1
  | warn => 2
  | info => 3
  | debug => 4
  | trace => 5

def name : Level → String
  | error => "ERROR"
  | warn => "WARN"
  | info => "INFO"
  | debug => "DEBUG"
  | trace => "TRACE"

/-- The name in five columns, at the right. -/
def column (level : Level) : String :=
  match level with
  | warn | info => " " ++ level.name
  | _ => level.name

def colour : Level → String
  | error => "31"
  | warn => "33"
  | info => "32"
  | debug => "34"
  | trace => "35"

end Level

inductive Value
  /-- A text that is shown as it is. -/
  | shown (text : String)
  /-- A text that is quoted in a text line. -/
  | quoted (text : String)
  | count (n : Nat)
  deriving DecidableEq, Repr

namespace Value

def toText : Value → String
  | shown text => text
  | quoted text => Text.Quoted.text text
  | count n => toString n

def toJson : Value → String
  | shown text => Text.Json.string text
  | quoted text => Text.Json.string text
  | count n => toString n

end Value

/-- The part of the program that an event comes from. -/
inductive Area
  /-- Dealing with sources and their lines. -/
  | run
  /-- Making commands out of lines. -/
  | reproduction
  deriving DecidableEq, Repr

/-- How filters refer to an area. -/
def Area.name : Area → String
  | run => "dbus_reprogen::core"
  | reproduction => "dbus_reprogen::reproduce"

structure Event where
  area : Area
  level : Level
  message : String
  fields : List (String × Value)
  deriving DecidableEq, Repr

inductive Format
  | text
  | json
  deriving DecidableEq, Repr

namespace Format

def all : List Format := [text, json]

def optionName : Format → String
  | text => "text"
  | json => "json"

def name : Format → String
  | text => "Text"
  | json => "Json"

end Format

/-- A text in a terminal style, if styles are wanted. -/
def styled (colors : Bool) (style text : String) : String :=
  if colors then "\x1b[" ++ style ++ "m" ++ text ++ "\x1b[0m" else text

namespace Event

/-- The names of all fields of an event, of which the message is one. -/
def fieldNames (event : Event) : List String := "message" :: event.fields.map Prod.fst

def textField (colors : Bool) (name : String) (value : Value) : String :=
  " " ++ styled colors "3" name ++ styled colors "2" "=" ++ value.toText

def textLine (colors : Bool) (time : String) (event : Event) : String :=
  styled colors "2" time ++ " " ++ styled colors event.level.colour event.level.column ++ " " ++
    event.message ++ String.join (event.fields.map fun (name, value) ↦ textField colors name value)

def jsonField (name value : String) : String := Text.Json.string name ++ ":" ++ value

def jsonLine (time : String) (event : Event) : String :=
  let fields := jsonField "message" (Text.Json.string event.message) ::
    event.fields.map fun (name, value) ↦ jsonField name value.toJson
  "\x7b" ++ String.intercalate "," [
    jsonField "timestamp" (Text.Json.string time),
    jsonField "level" (Text.Json.string event.level.name),
    jsonField "fields" ("\x7b" ++ String.intercalate "," fields ++ "\x7d")] ++ "\x7d"

end Event

end BusReplay.Log
