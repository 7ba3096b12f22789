/-!
# Places in a text by bytes

A place in a text can be given by the number of bytes before it in UTF-8. A place inside a character
stands for the one behind it.
-/

namespace BusReplay.Text

def byteSize : List Char → Nat
  | [] => 0
  | c :: cs => c.utf8Size + byteSize cs

/-- The text before a place. -/
def takeBytes : (size : Nat) → List Char → List Char
  | 0, _ => []
  | _, [] => []
  | size, c :: cs => c :: takeBytes (size - c.utf8Size) cs

/-- The text behind a place. -/
def dropBytes : (size : Nat) → List Char → List Char
  | 0, cs => cs
  | _, [] => []
  | size, c :: cs => dropBytes (size - c.utf8Size) cs

end BusReplay.Text
