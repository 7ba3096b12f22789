/-!
# TOML values

Floats and dates are kept as they were written; nothing in this library computes with them.
-/

namespace BusReplay.Toml

inductive Value
  | string (text : String)
  | integer (n : Int)
  | float (spelling : String)
  | boolean (b : Bool)
  | dateTime (spelling : String)
  | array (items : List Value)
  | table (entries : List (String × Value))
  deriving Repr

namespace Value

def get? (key : String) : Value → Option Value
  | table entries => entries.lookup key
  | _ => none

def items? : Value → Option (List Value)
  | array items => some items
  | _ => none

def text? : Value → Option String
  | string text => some text
  | _ => none

end Value

end BusReplay.Toml
