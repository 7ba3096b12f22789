/-!
# The case of letters

Words that are compared without regard to case are compared in lower case. Only ASCII letters have
a case here.
-/

namespace BusReplay.Text

/-- A text with its ASCII letters in lower case. -/
def foldCase (s : String) : String := .ofList (s.toList.map Char.toLower)

end BusReplay.Text
