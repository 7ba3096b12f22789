import BusReplay.Profile.Template
import BusReplay.Proofs.Text.Fields

/-!
# Templates as lists of parts

A template is written down part by part: a text without braces, or the place of a value. One pass
over such a template puts the values into exactly the places of their names, and replacing a single
placeholder is such a pass. When no value holds a brace, filling one placeholder after the other is
therefore the same as filling all of them in one pass, since a text that was filled in is never
searched with success.
-/

namespace BusReplay.Template

inductive Part
  | text (cs : List Char)
  /-- The place of the value with this name. -/
  | slot (name : String)
  deriving DecidableEq, Repr

/-- A text in which no placeholder starts. -/
def IsClear (cs : List Char) : Prop := '\x7b' ∉ cs

/-- A name that can stand between braces. -/
def IsSlotName (name : String) : Prop := '\x7b' ∉ name.toList ∧ '\x7d' ∉ name.toList

instance : DecidablePred IsClear := fun cs ↦ inferInstanceAs (Decidable ('\x7b' ∉ cs))

instance : DecidablePred IsSlotName := fun name ↦
  inferInstanceAs (Decidable ('\x7b' ∉ name.toList ∧ '\x7d' ∉ name.toList))

namespace Part

def chars : Part → List Char
  | text cs => cs
  | slot name => placeholder name

/-- A part whose braces are those of its placeholder. -/
def IsPlain : Part → Prop
  | text cs => IsClear cs
  | slot name => IsSlotName name

instance : DecidablePred IsPlain
  | text cs => inferInstanceAs (Decidable (IsClear cs))
  | slot name => inferInstanceAs (Decidable (IsSlotName name))

/-- Put a value into the places of one name. -/
def fill (name : String) (value : List Char) : Part → Part
  | text cs => text cs
  | slot other => if other = name then text value else slot other

/-- What a part is once all values are filled in together. -/
def filled (values : List (String × String)) : Part → List Char
  | text cs => cs
  | slot name => ((values.lookup name).map String.toList).getD (placeholder name)

end Part

def written (parts : List Part) : List Char := parts.flatMap Part.chars

/-- The parts of words with a space between them. -/
def spaced (words : List (List Part)) : List Part := [Part.text [' ']].intercalate words

theorem flatMap_spaced {words : List (List Part)} (values : List (String × String))
    (hwords : words ≠ []) :
    (spaced words).flatMap (Part.filled values) ++ [' '] =
      words.flatMap fun word ↦ word.flatMap (Part.filled values) ++ [' '] := by
  unfold spaced
  induction words with
  | nil => exact absurd rfl hwords
  | cons word words ih =>
    cases words with
    | nil => simp
    | cons next words =>
      rw [List.intercalate_cons_cons, List.flatMap_append, List.flatMap_append, List.append_assoc,
        ih (by simp)]
      simp [Part.filled]

/-! ## One pass -/

/-- Put the values into their places in one pass from left to right; `skip` characters belong to a
placeholder that is already replaced. -/
def fillFrom (values : List (String × String)) : Nat → List Char → List Char
  | _, [] => []
  | skip + 1, _ :: cs => fillFrom values skip cs
  | 0, c :: cs =>
    match values.find? fun entry ↦ (placeholder entry.1).isPrefixOf (c :: cs) with
    | some (name, value) => value.toList ++ fillFrom values ((placeholder name).length - 1) cs
    | none => c :: fillFrom values 0 cs

/-- Replace all named placeholders together, so that nothing that was filled in is searched. -/
def fillTogether (values : List (String × String)) (template : String) : String :=
  .ofList (fillFrom values 0 template.toList)

theorem fillFrom_length (values : List (String × String)) (skipped cs : List Char) :
    fillFrom values skipped.length (skipped ++ cs) = fillFrom values 0 cs := by
  induction skipped with
  | nil => rfl
  | cons c skipped ih => exact ih

/-- Text in which no placeholder starts is kept. -/
theorem fillFrom_append_of_clear (values : List (String × String)) {text : List Char}
    (cs : List Char) (htext : IsClear text) :
    fillFrom values 0 (text ++ cs) = text ++ fillFrom values 0 cs := by
  induction text with
  | nil => rfl
  | cons c text ih =>
    have hc : c ≠ '\x7b' := fun heq ↦ htext (heq ▸ List.mem_cons_self)
    have hrest : IsClear text := fun hmem ↦ htext (List.mem_cons_of_mem c hmem)
    have hmiss : values.find? (fun entry ↦ (placeholder entry.1).isPrefixOf (c :: (text ++ cs))) =
        none := by
      simp [placeholder, List.isPrefixOf, hc.symm]
    rw [List.cons_append, fillFrom, hmiss]
    exact congrArg (c :: ·) (ih hrest)

/-- A placeholder starts with no other placeholder. -/
theorem isPrefixOf_placeholder {name other : String} (cs : List Char) (hname : IsSlotName name)
    (hother : IsSlotName other) :
    (placeholder name).isPrefixOf (placeholder other ++ cs) = (other == name) := by
  rw [Bool.eq_iff_iff, List.isPrefixOf_iff_prefix, beq_iff_eq]
  constructor
  · intro ⟨tail, htail⟩
    have hcut : name.toList ++ '\x7d' :: tail = other.toList ++ '\x7d' :: cs := by
      simpa [placeholder] using htail
    have hsame := (Text.append_cons_cancel hname.2 hother.2 hcut).1
    exact String.toList_injective hsame.symm
  · rintro rfl
    exact List.prefix_append _ _

/-- The values of a place are looked up by its name. -/
theorem find?_placeholder {values : List (String × String)} {other : String} (cs : List Char)
    (hvalues : ∀ entry ∈ values, IsSlotName entry.1) (hother : IsSlotName other) :
    values.find? (fun entry ↦ (placeholder entry.1).isPrefixOf (placeholder other ++ cs)) =
      (values.lookup other).map fun value ↦ (other, value) := by
  induction values with
  | nil => rfl
  | cons entry values ih =>
    obtain ⟨hname, hrest⟩ := List.forall_mem_cons.1 hvalues
    rw [List.find?_cons, isPrefixOf_placeholder cs hname hother, ih hrest, List.lookup_cons]
    cases hsame : other == entry.1 with
    | true => simp [beq_iff_eq.1 hsame]
    | false => rfl

/-- A placeholder becomes its value, or stays if there is none. -/
theorem fillFrom_placeholder {values : List (String × String)} {other : String} (cs : List Char)
    (hvalues : ∀ entry ∈ values, IsSlotName entry.1) (hother : IsSlotName other) :
    fillFrom values 0 (placeholder other ++ cs) =
      (Part.slot other).filled values ++ fillFrom values 0 cs := by
  have hfind := find?_placeholder cs hvalues hother
  have hopen : placeholder other ++ cs = '\x7b' :: ((other.toList ++ ['\x7d']) ++ cs) := rfl
  have hlength : (placeholder other).length - 1 = (other.toList ++ ['\x7d']).length := rfl
  rw [hopen] at hfind ⊢
  rw [fillFrom, hfind, Part.filled]
  cases values.lookup other with
  | some value =>
    rw [Option.map_some, Option.map_some, Option.getD_some]
    dsimp only
    rw [hlength, fillFrom_length]
  | none =>
    -- Behind its first brace the placeholder is a text in which no placeholder starts.
    have hclear : IsClear (other.toList ++ ['\x7d']) := by
      simpa [IsClear] using hother.1
    rw [Option.map_none, Option.map_none, Option.getD_none]
    dsimp only
    rw [fillFrom_append_of_clear values cs hclear]
    rfl

/-- Every placeholder is found in the part that it is written by. -/
theorem fillFrom_written {values : List (String × String)} {parts : List Part}
    (hvalues : ∀ entry ∈ values, IsSlotName entry.1) (hparts : ∀ part ∈ parts, part.IsPlain) :
    fillFrom values 0 (written parts) = parts.flatMap (Part.filled values) := by
  induction parts with
  | nil => rfl
  | cons part parts ih =>
    obtain ⟨hpart, hrest⟩ := List.forall_mem_cons.1 hparts
    have hwritten : written (part :: parts) = part.chars ++ written parts := List.flatMap_cons
    rw [hwritten, List.flatMap_cons, ← ih hrest]
    cases part with
    | text cs => exact fillFrom_append_of_clear values _ hpart
    | slot other => exact fillFrom_placeholder _ hvalues hpart

/-! ## One placeholder after the other -/

theorem replaceFrom_placeholder (name value : String) (skip : Nat) (cs : List Char) :
    replaceFrom (placeholder name) value.toList skip cs = fillFrom [(name, value)] skip cs := by
  induction cs generalizing skip with
  | nil => cases skip <;> rfl
  | cons c cs ih =>
    cases skip with
    | succ skip => exact ih skip
    | zero =>
      rw [replaceFrom, fillFrom, ih, ih, List.find?_singleton]
      dsimp only
      split <;> rfl

/-- Replacing a placeholder fills the places of its name and nothing else. -/
theorem replace_written {name : String} (value : String) {parts : List Part}
    (hname : IsSlotName name) (hparts : ∀ part ∈ parts, part.IsPlain) :
    replace (placeholder name) value.toList (written parts) =
      written (parts.map (Part.fill name value.toList)) := by
  have hpart (part : Part) :
      part.filled [(name, value)] = (part.fill name value.toList).chars := by
    cases part with
    | text cs => rfl
    | slot other =>
      by_cases hother : other = name
      · simp [Part.filled, Part.fill, Part.chars, hother]
      · simp [Part.filled, Part.fill, Part.chars, hother, List.lookup_cons, beq_false_of_ne hother]
  rw [replace, replaceFrom_placeholder, fillFrom_written (by simpa using hname) hparts, written,
    List.flatMap_map]
  exact congrArg (parts.flatMap ·) (funext hpart)

theorem Part.IsPlain.fill {part : Part} (h : part.IsPlain) (name : String) {value : List Char}
    (hvalue : IsClear value) : (part.fill name value).IsPlain := by
  cases part with
  | text cs => exact h
  | slot other =>
    by_cases hother : other = name
    · rwa [Part.fill, if_pos hother]
    · rwa [Part.fill, if_neg hother]

theorem Part.filled_fill (values : List (String × String)) (name value : String) (part : Part) :
    (part.fill name value.toList).filled values = part.filled ((name, value) :: values) := by
  cases part with
  | text cs => rfl
  | slot other =>
    by_cases hother : other = name
    · simp [Part.fill, Part.filled, hother]
    · have hlookup : ((name, value) :: values).lookup other = values.lookup other := by
        simp [List.lookup_cons, beq_false_of_ne hother]
      simp [Part.fill, Part.filled, hother, hlookup]

/-- A template is filled part by part, if no value and no text has a placeholder in it. -/
theorem fill_written {values : List (String × String)} {parts : List Part}
    (hvalues : ∀ entry ∈ values, IsSlotName entry.1 ∧ IsClear entry.2.toList)
    (hparts : ∀ part ∈ parts, part.IsPlain) :
    (fill values (.ofList (written parts))).toList = parts.flatMap (Part.filled values) := by
  unfold fill
  rw [String.toList_ofList, String.toList_ofList]
  -- Every value that is filled in leaves other parts to the values behind it.
  induction values generalizing parts with
  | nil =>
    refine congrArg (parts.flatMap ·) (funext fun part ↦ ?_)
    cases part <;> rfl
  | cons entry values ih =>
    obtain ⟨⟨hname, hvalue⟩, hrest⟩ := List.forall_mem_cons.1 hvalues
    have hfilled : ∀ part ∈ parts.map (Part.fill entry.1 entry.2.toList), part.IsPlain := by
      intro part hpart
      obtain ⟨source, hsource, rfl⟩ := List.mem_map.1 hpart
      exact (hparts source hsource).fill entry.1 hvalue
    rw [List.foldl_cons]
    change values.foldl _ (replace (placeholder entry.1) entry.2.toList (written parts)) = _
    rw [replace_written entry.2 hname hparts, ih hrest hfilled, List.flatMap_map]
    exact congrArg (parts.flatMap ·) (funext fun part ↦ Part.filled_fill values _ _ part)

/-- Filling one placeholder after the other fills all of them at once. -/
theorem fill_eq_fillTogether {values : List (String × String)} {parts : List Part}
    (hvalues : ∀ entry ∈ values, IsSlotName entry.1 ∧ IsClear entry.2.toList)
    (hparts : ∀ part ∈ parts, part.IsPlain) :
    fill values (.ofList (written parts)) = fillTogether values (.ofList (written parts)) := by
  apply String.toList_injective
  rw [fill_written hvalues hparts, fillTogether, String.toList_ofList, String.toList_ofList,
    fillFrom_written (fun entry hentry ↦ (hvalues entry hentry).1) hparts]

/-- A value that holds a placeholder tells the two apart. -/
example : fill [("a", "\x7bb\x7d"), ("b", "x")] "\x7ba\x7d-\x7bb\x7d" = "x-x" ∧
    fillTogether [("a", "\x7bb\x7d"), ("b", "x")] "\x7ba\x7d-\x7bb\x7d" = "\x7bb\x7d-x" := by
  decide

end BusReplay.Template
