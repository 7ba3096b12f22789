import BusReplay.Proofs.Record.Parser
import Mathlib.Computability.Language

/-!
# The languages of names

What the names of a call look like is said in two ways: by a regular expression for each kind, and
by the elements and runs that a name is put together from. Both describe the same texts, and these
are the ones that are accepted. An expression is about the whole of a text, so a name has nothing
in front of it and nothing, not even a newline, behind it.
-/

namespace BusReplay

open scoped Computability

/-! ## Regular expressions -/

/-- The texts of one character out of a set. -/
def oneOf (P : Char → Prop) : Language Char := {cs | ∃ c, P c ∧ [c] = cs}

def oneOrMore (l : Language Char) : Language Char := l * l∗

section Images

variable {ι : Type} {l : Language Char} {P : ι → Prop} {text : ι → List Char} {cs : List Char}

/-- A language whose texts come from the values with a property: its closure has the texts that
come from lists of such values. -/
theorem mem_kstar_iff_exists (hl : ∀ cs, cs ∈ l ↔ ∃ x, P x ∧ text x = cs) :
    cs ∈ l∗ ↔ ∃ xs : List ι, (∀ x ∈ xs, P x) ∧ xs.flatMap text = cs := by
  have hparts (parts : List (List Char)) :
      (∀ part ∈ parts, part ∈ l) ↔ ∃ xs : List ι, (∀ x ∈ xs, P x) ∧ xs.map text = parts := by
    induction parts with
    | nil => exact ⟨fun _ ↦ ⟨[], by simp⟩, fun _ ↦ by simp⟩
    | cons part parts ih =>
      rw [List.forall_mem_cons, hl, ih]
      constructor
      · rintro ⟨⟨x, hx, rfl⟩, xs, hxs, rfl⟩
        exact ⟨x :: xs, List.forall_mem_cons.2 ⟨hx, hxs⟩, rfl⟩
      · rintro ⟨xs, hxs, hmap⟩
        obtain ⟨x, xs, rfl, rfl, rfl⟩ := List.map_eq_cons_iff.1 hmap
        exact ⟨⟨x, hxs x List.mem_cons_self, rfl⟩, xs, (List.forall_mem_cons.1 hxs).2, rfl⟩
  rw [Language.mem_kstar]
  constructor
  · rintro ⟨parts, rfl, hall⟩
    obtain ⟨xs, hxs, rfl⟩ := (hparts parts).1 hall
    exact ⟨xs, hxs, List.flatMap_def⟩
  · rintro ⟨xs, hxs, rfl⟩
    exact ⟨xs.map text, List.flatMap_def, (hparts _).2 ⟨xs, hxs, rfl⟩⟩

theorem mem_oneOrMore_iff_exists (hl : ∀ cs, cs ∈ l ↔ ∃ x, P x ∧ text x = cs) :
    cs ∈ oneOrMore l ↔ ∃ xs : List ι, xs ≠ [] ∧ (∀ x ∈ xs, P x) ∧ xs.flatMap text = cs := by
  rw [oneOrMore, Language.mem_mul]
  constructor
  · rintro ⟨first, hfirst, others, hothers, rfl⟩
    obtain ⟨x, hx, rfl⟩ := (hl first).1 hfirst
    obtain ⟨xs, hxs, rfl⟩ := (mem_kstar_iff_exists hl).1 hothers
    exact ⟨x :: xs, List.cons_ne_nil x xs, List.forall_mem_cons.2 ⟨hx, hxs⟩, List.flatMap_cons⟩
  · rintro ⟨xs, hne, hall, rfl⟩
    obtain ⟨x, xs, rfl⟩ := List.exists_cons_of_ne_nil hne
    obtain ⟨hx, hxs⟩ := List.forall_mem_cons.1 hall
    exact ⟨text x, (hl _).2 ⟨x, hx, rfl⟩, xs.flatMap text,
      (mem_kstar_iff_exists hl).2 ⟨xs, hxs, rfl⟩, List.flatMap_cons.symm⟩

end Images

variable {P : Char → Prop} {l : Language Char} {cs : List Char}

theorem mem_oneOf : cs ∈ oneOf P ↔ ∃ c, P c ∧ [c] = cs := Iff.rfl

theorem mem_kstar_oneOf : cs ∈ (oneOf P)∗ ↔ ∀ c ∈ cs, P c := by
  rw [mem_kstar_iff_exists fun _ ↦ mem_oneOf]
  simp

theorem mem_oneOrMore_oneOf : cs ∈ oneOrMore (oneOf P) ↔ cs ≠ [] ∧ ∀ c ∈ cs, P c := by
  rw [mem_oneOrMore_iff_exists fun _ ↦ mem_oneOf]
  simp

theorem mem_oneOf_mul : cs ∈ oneOf P * l ↔ ∃ c rest, P c ∧ rest ∈ l ∧ c :: rest = cs := by
  rw [Language.mem_mul]
  constructor
  · rintro ⟨_, ⟨c, hc, rfl⟩, rest, hrest, rfl⟩
    exact ⟨c, rest, hc, hrest, rfl⟩
  · rintro ⟨c, rest, hc, hrest, rfl⟩
    exact ⟨[c], ⟨c, hc, rfl⟩, rest, hrest, rfl⟩

/-- A language behind a separator. -/
theorem mem_separator_mul {separator : Char} :
    cs ∈ oneOf (· = separator) * l ↔ ∃ part, part ∈ l ∧ separator :: part = cs := by
  rw [mem_oneOf_mul]
  constructor
  · rintro ⟨_, part, rfl, hpart, rfl⟩
    exact ⟨part, hpart, rfl⟩
  · rintro ⟨part, hpart, rfl⟩
    exact ⟨separator, part, rfl, hpart, rfl⟩

namespace NameKind

/-! ## Names -/

/-- An ASCII letter or an underscore. -/
def IsLetter (c : Char) : Prop := 'A' ≤ c ∧ c ≤ 'Z' ∨ 'a' ≤ c ∧ c ≤ 'z' ∨ c = '_'

/-- An ASCII letter, an ASCII digit or an underscore. -/
def IsWordChar (c : Char) : Prop := IsLetter c ∨ '0' ≤ c ∧ c ≤ '9'

/-- A letter that letters and digits may follow. -/
def IsElement (cs : List Char) : Prop :=
  ∃ first rest, cs = first :: rest ∧ IsLetter first ∧ ∀ c ∈ rest, IsWordChar c

def IsRun (cs : List Char) : Prop := cs ≠ [] ∧ ∀ c ∈ cs, IsWordChar c

/-- How the names of each kind are put together. -/
inductive IsName : NameKind → List Char → Prop
  /-- Two or more elements with dots between them. -/
  | interface {elements : List (List Char)} (htwo : 2 ≤ elements.length)
    (h : ∀ element ∈ elements, IsElement element) : IsName interface (['.'].intercalate elements)
  | root : IsName objectPath ['/']
  /-- One or more runs, each behind a slash. -/
  | objectPath {runs : List (List Char)} (hne : runs ≠ []) (h : ∀ run ∈ runs, IsRun run) :
    IsName objectPath (runs.flatMap fun run ↦ '/' :: run)
  | method {cs : List Char} (h : IsElement cs) : IsName method cs

/-- The expression `[A-Za-z_][A-Za-z0-9_]*`. -/
def elementPattern : Language Char := oneOf IsLetter * (oneOf IsWordChar)∗

/-- The expression `[A-Za-z0-9_]+`. -/
def runPattern : Language Char := oneOrMore (oneOf IsWordChar)

def pattern : NameKind → Language Char
  | interface => elementPattern * oneOrMore (oneOf (· = '.') * elementPattern)
  | objectPath => oneOf (· = '/') * (runPattern * (oneOf (· = '/') * runPattern)∗ + 1)
  | method => elementPattern

/-! ## The expressions describe the names -/

theorem mem_elementPattern : cs ∈ elementPattern ↔ IsElement cs := by
  rw [elementPattern, mem_oneOf_mul]
  constructor
  · rintro ⟨first, rest, hfirst, hrest, rfl⟩
    exact ⟨first, rest, rfl, hfirst, mem_kstar_oneOf.1 hrest⟩
  · rintro ⟨first, rest, rfl, hfirst, hrest⟩
    exact ⟨first, rest, hfirst, mem_kstar_oneOf.2 hrest, rfl⟩

theorem mem_runPattern : cs ∈ runPattern ↔ IsRun cs := mem_oneOrMore_oneOf

theorem mem_interface_pattern : cs ∈ pattern interface ↔ IsName interface cs := by
  have hbehind (cs : List Char) : cs ∈ oneOf (· = '.') * elementPattern ↔
      ∃ element, IsElement element ∧ '.' :: element = cs := by
    simp_rw [mem_separator_mul, mem_elementPattern]
  rw [pattern, Language.mem_mul]
  simp only [mem_elementPattern, mem_oneOrMore_iff_exists hbehind]
  constructor
  · rintro ⟨first, hfirst, _, ⟨others, hne, hothers, rfl⟩, rfl⟩
    rw [← Text.intercalate_cons]
    have htwo : 2 ≤ (first :: others).length :=
      Nat.succ_le_succ (List.length_pos_iff.2 hne)
    exact .interface htwo (List.forall_mem_cons.2 ⟨hfirst, hothers⟩)
  · rintro @⟨elements, htwo, h⟩
    match elements, htwo, h with
    | first :: second :: others, _, h =>
      obtain ⟨hfirst, hothers⟩ := List.forall_mem_cons.1 h
      exact ⟨first, hfirst, _, ⟨second :: others, List.cons_ne_nil _ _, hothers, rfl⟩,
        (Text.intercalate_cons '.' first (second :: others)).symm⟩

theorem mem_objectPath_pattern : cs ∈ pattern objectPath ↔ IsName objectPath cs := by
  have hbehind (cs : List Char) : cs ∈ oneOf (· = '/') * runPattern ↔
      ∃ run, IsRun run ∧ '/' :: run = cs := by
    simp_rw [mem_separator_mul, mem_runPattern]
  rw [pattern, mem_separator_mul]
  simp only [Language.mem_add, Language.mem_one, Language.mem_mul, mem_runPattern,
    mem_kstar_iff_exists hbehind]
  constructor
  · rintro ⟨_, ⟨first, hfirst, _, ⟨others, hothers, rfl⟩, rfl⟩ | rfl, rfl⟩
    · exact .objectPath (List.cons_ne_nil first others)
        (List.forall_mem_cons.2 ⟨hfirst, hothers⟩)
    · exact .root
  · rintro (_ | _ | @⟨runs, hne, h⟩)
    · exact ⟨[], .inr rfl, rfl⟩
    · obtain ⟨first, others, rfl⟩ := List.exists_cons_of_ne_nil hne
      obtain ⟨hfirst, hothers⟩ := List.forall_mem_cons.1 h
      exact ⟨_, .inl ⟨first, hfirst, _, ⟨others, hothers, rfl⟩, rfl⟩, rfl⟩

/-- The expressions match the names that are put together by the rules. -/
theorem mem_pattern_iff {kind : NameKind} : cs ∈ kind.pattern ↔ kind.IsName cs := by
  cases kind with
  | interface => exact mem_interface_pattern
  | objectPath => exact mem_objectPath_pattern
  | method => exact mem_elementPattern.trans ⟨.method, fun | .method h => h⟩

/-! ## The names are accepted -/

theorem isInitial_iff {c : Char} : isInitial c = true ↔ IsLetter c := by
  unfold isInitial IsLetter Char.isAlpha Char.isUpper Char.isLower
  simp only [Bool.or_eq_true, Bool.and_eq_true, decide_eq_true_eq, beq_iff_eq, or_assoc]
  exact Iff.rfl

theorem isWord_iff {c : Char} : isWord c = true ↔ IsWordChar c := by
  have hdigit : c.isDigit = true ↔ '0' ≤ c ∧ c ≤ '9' := by
    unfold Char.isDigit
    simp only [Bool.and_eq_true, decide_eq_true_eq]
    exact Iff.rfl
  calc isWord c = true
    _ ↔ isInitial c = true ∨ c.isDigit = true := by
      unfold isWord isInitial Char.isAlphanum
      simp only [Bool.or_eq_true]
      exact or_right_comm
    _ ↔ IsWordChar c := or_congr isInitial_iff hdigit

theorem all_isWord_iff : cs.all isWord = true ↔ ∀ c ∈ cs, IsWordChar c := by
  simp_rw [List.all_eq_true, isWord_iff]

theorem isElement_iff : isElement cs = true ↔ IsElement cs := by
  cases cs with
  | nil => simp [isElement, IsElement]
  | cons first rest => simp [isElement, IsElement, isInitial_iff, isWord_iff]

theorem isRun_iff : (!cs.isEmpty && cs.all isWord) = true ↔ IsRun cs := by
  rw [Bool.and_eq_true, all_isWord_iff, IsRun]
  simp

theorem isInterface_iff : isInterface cs = true ↔ IsName interface cs := by
  have hfields : isInterface cs = true ↔ 2 ≤ (Text.fields '.' cs).length ∧
      ∀ element ∈ Text.fields '.' cs, IsElement element := by
    simp [isInterface, isElement_iff]
  rw [hfields]
  constructor
  · rintro ⟨htwo, h⟩
    rw [← Text.intercalate_fields '.' cs]
    exact .interface htwo h
  · rintro @⟨elements, htwo, h⟩
    have hfree : ∀ element ∈ elements, '.' ∉ element := fun element helement hmem ↦ absurd
      (isWord_of_isElement (isElement_iff.2 (h element helement)) hmem) (by decide)
    have hne : elements ≠ [] := List.ne_nil_of_length_pos (by omega)
    rw [Text.fields_intercalate hfree hne]
    exact ⟨htwo, h⟩

theorem isObjectPath_iff_exists : isObjectPath cs = true ↔
    ∃ rest, '/' :: rest = cs ∧ (rest = [] ∨ ∀ run ∈ Text.fields '/' rest, IsRun run) := by
  simp_rw [← isRun_iff, ← List.all_eq_true]
  unfold isObjectPath
  split
  · simp
  · next rest hne => simpa using fun hnil ↦ absurd hnil hne
  · next hslash => simpa using fun rest heq ↦ absurd heq.symm (hslash rest)

theorem isObjectPath_iff : isObjectPath cs = true ↔ IsName objectPath cs := by
  rw [isObjectPath_iff_exists]
  constructor
  · rintro ⟨rest, rfl, rfl | hruns⟩
    · exact .root
    · have hpath := IsName.objectPath (Text.fields_ne_nil '/' rest) hruns
      rwa [Text.flatMap_cons_eq '/' (Text.fields_ne_nil '/' rest), Text.intercalate_fields] at hpath
  · rintro (_ | _ | @⟨runs, hne, h⟩)
    -- The root has nothing behind its slash, and that is no run.
    · exact ⟨[], rfl, .inl rfl⟩
    · have hfree : ∀ run ∈ runs, '/' ∉ run := fun run hrun hmem ↦
        absurd (isWord_iff.2 ((h run hrun).2 '/' hmem)) (by decide)
      refine ⟨_, (Text.flatMap_cons_eq '/' hne).symm, .inr ?_⟩
      rwa [Text.fields_intercalate hfree hne]

/-- The names that are accepted are those that are put together by the rules. -/
theorem accepts_iff_isName {kind : NameKind} : kind.accepts cs = true ↔ kind.IsName cs := by
  cases kind with
  | interface => exact isInterface_iff
  | objectPath => exact isObjectPath_iff
  | method => exact isElement_iff.trans ⟨.method, fun | .method h => h⟩

end NameKind

end BusReplay
