/-!
# Separated fields

A text is cut at every occurrence of a separator character. There is one field more than there
are separators, so a text always has a field and an empty text has one empty field.
-/

namespace BusReplay.Text

/-- Put one more character in front of a text that is already cut. -/
def attach (separator c : Char) : List (List Char) → List (List Char)
  | [] => [[c]]
  | field :: fields => if c = separator then [] :: field :: fields else (c :: field) :: fields

def fields (separator : Char) (cs : List Char) : List (List Char) :=
  cs.foldr (attach separator) [[]]

/-- The text after the last separator, or the whole text if it has none. -/
def afterLast (separator : Char) (cs : List Char) : List Char :=
  (cs.reverse.takeWhile (· ≠ separator)).reverse

end BusReplay.Text
