/-!
# Filling in a template

A placeholder is replaced wherever it occurs, from left to right and without overlap. Several
placeholders are replaced one after the other, so a text that was filled in is searched for the
placeholders that are still to come.
-/

namespace BusReplay.Template

/-- Replace a non-empty text everywhere; `skip` characters belong to an occurrence that is
already replaced. -/
def replaceFrom (old new : List Char) : Nat → List Char → List Char
  | _, [] => []
  | skip + 1, _ :: cs => replaceFrom old new skip cs
  | 0, c :: cs =>
    if old.isPrefixOf (c :: cs) then new ++ replaceFrom old new (old.length - 1) cs
    else c :: replaceFrom old new 0 cs

/-- Replace every occurrence of a non-empty text by another. -/
def replace (old new cs : List Char) : List Char := replaceFrom old new 0 cs

/-- A placeholder: its name in braces. -/
def placeholder (name : String) : List Char := '\x7b' :: (name.toList ++ ['\x7d'])

/-- Replace the named placeholders in the order of the list. -/
def fill (values : List (String × String)) (template : String) : String :=
  .ofList (values.foldl (fun text (name, value) ↦ replace (placeholder name) value.toList text)
    template.toList)

end BusReplay.Template
