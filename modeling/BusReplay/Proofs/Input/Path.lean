import BusReplay.Path
import BusReplay.Proofs.Text.Fields

/-!
# The name at the end of a path

Of the parts of a path, empty ones and single dots say nothing, unless the path starts with one. So
the slashes at the end of a path and the single dots behind slashes there can be left out, and what
the path ends in is the text behind the last slash of the rest. A path has a name as its only
component exactly when the rest is that name.
-/

namespace BusReplay.Path

/-- A path read backwards, from the first character on that is neither a slash nor a dot in front of
a slash. -/
def dropTrail : List Char → List Char
  | '/' :: cs => dropTrail cs
  | '.' :: '/' :: cs => dropTrail cs
  | cs => cs

/-- A path without the slashes at its end and the single dots behind slashes there. -/
def withoutTrail (path : List Char) : List Char := (dropTrail path.reverse).reverse

/-- Slashes, and nothing or a single dot behind each of them. -/
def IsTrail (cs : List Char) : Prop :=
  ∃ parts : List (List Char), (∀ part ∈ parts, part = [] ∨ part = ['.']) ∧
    cs = parts.flatMap fun part ↦ '/' :: part

/-- A path ends in a name: a proper name stands behind the last slash, or is all there is. -/
structure EndsIn (path name : List Char) : Prop where
  last : Text.IsLastField '/' (withoutTrail path) name
  ne_nil : name ≠ []
  ne_parent : name ≠ ['.', '.']
  ne_here : withoutTrail path ≠ ['.']

/-- The component that says where a path starts. -/
def origin (path : List Char) : List Component :=
  if path.head? = some '/' then [.root]
  else if (Text.fields '/' path).head? = some ['.'] then [.here]
  else []

def steps (path : List Char) : List Component :=
  (Text.fields '/' path).filterMap Component.ofPart

variable {path name last cs : List Char}

theorem components_eq (path : List Char) : components path = origin path ++ steps path := by
  unfold components steps
  split
  · rfl
  · next path _ _ parts hroot heq =>
    have hhead : path.head? ≠ some '/' := by simpa [List.head?_eq_some_iff] using hroot
    simp [origin, hhead, heq, Component.ofPart]
  · next path _ _ hroot hhere =>
    have hhead : path.head? ≠ some '/' := by simpa [List.head?_eq_some_iff] using hroot
    have hfirst : (Text.fields '/' path).head? ≠ some ['.'] := by
      simpa [List.head?_eq_some_iff] using hhere
    simp [origin, hhead, hfirst]

theorem Component.ofPart_eq_name_iff {part : List Char} :
    ofPart part = some (.name name) ↔
      part = name ∧ name ≠ [] ∧ name ≠ ['.'] ∧ name ≠ ['.', '.'] := by
  unfold ofPart
  split <;> simp_all
  grind

theorem Component.ofPart_eq_none_iff {part : List Char} :
    ofPart part = none ↔ part = [] ∨ part = ['.'] := by
  unfold ofPart
  split <;> simp_all

theorem name_notMem_origin (path name : List Char) : .name name ∉ origin path := by
  unfold origin
  split_ifs <;> simp

/-- The file name of a path is its last step, if that is a name. -/
theorem fileName?_eq_some_iff :
    fileName? path = some name ↔ (steps path).getLast? = some (.name name) := by
  have hlast : fileName? path = some name ↔ (components path).getLast? = some (.name name) := by
    unfold fileName?
    split <;> simp_all
  rw [hlast, components_eq, List.getLast?_append, Option.or_eq_some_iff]
  constructor
  · rintro (h | ⟨-, h⟩)
    · exact h
    · exact absurd (List.mem_of_getLast? h) (name_notMem_origin path name)
  · exact .inl

/-! ## Leaving out the end -/

theorem steps_append_cons (before after : List Char) :
    steps (before ++ '/' :: after) = steps before ++ steps after := by
  rw [steps, Text.fields_append_cons, List.filterMap_append, steps, steps]

theorem steps_of_notMem (h : '/' ∉ cs) : steps cs = (Component.ofPart cs).toList := by
  rw [steps, Text.fields_of_notMem h, List.filterMap_cons, List.filterMap_nil]
  cases Component.ofPart cs <;> rfl

/-- Slashes and single dots at the end add no steps. -/
theorem steps_withoutTrail (path : List Char) : steps (withoutTrail path) = steps path := by
  have hbackwards (cs : List Char) : steps (dropTrail cs).reverse = steps cs.reverse := by
    fun_induction dropTrail cs with
    | case1 cs ih =>
      rw [ih, List.reverse_cons, steps_append_cons]
      exact (List.append_nil _).symm
    | case2 cs ih =>
      rw [ih, List.reverse_cons, List.reverse_cons, List.append_assoc, List.singleton_append,
        steps_append_cons]
      exact (List.append_nil _).symm
    | case3 => rfl
  rw [withoutTrail, hbackwards, List.reverse_reverse]

theorem origin_append_cons (hne : cs ≠ []) (after : List Char) :
    origin (cs ++ '/' :: after) = origin cs := by
  unfold origin
  rw [List.head?_append_of_ne_nil cs hne, Text.fields_append_cons,
    List.head?_append_of_ne_nil _ (Text.fields_ne_nil '/' cs)]

theorem origin_of_notMem (hfree : '/' ∉ cs) (hdot : cs ≠ ['.']) : origin cs = [] := by
  have hhead : cs.head? ≠ some '/' := fun h ↦ hfree (List.mem_of_head? h)
  simp [origin, hhead, Text.fields_of_notMem hfree, hdot]

theorem ne_nil_of_dropTrail_ne_nil (h : dropTrail cs ≠ []) : cs ≠ [] := by
  rintro rfl
  exact h rfl

/-- What is left has the same components, if anything is left. -/
theorem components_withoutTrail (hne : withoutTrail path ≠ []) :
    components (withoutTrail path) = components path := by
  have hbackwards (cs : List Char) (hne : dropTrail cs ≠ []) :
      origin (dropTrail cs).reverse = origin cs.reverse := by
    fun_induction dropTrail cs with
    | case1 cs ih =>
      have hcs : cs.reverse ≠ [] := by simpa using ne_nil_of_dropTrail_ne_nil hne
      rw [ih hne, List.reverse_cons, origin_append_cons hcs]
    | case2 cs ih =>
      have hcs : cs.reverse ≠ [] := by simpa using ne_nil_of_dropTrail_ne_nil hne
      rw [ih hne, List.reverse_cons, List.reverse_cons, List.append_assoc, List.singleton_append,
        origin_append_cons hcs]
    | case3 => rfl
  rw [components_eq, components_eq, steps_withoutTrail, withoutTrail]
  rw [hbackwards _ (by simpa [withoutTrail] using hne), List.reverse_reverse]

/-- What is left ends neither in a slash nor in a dot behind one. -/
theorem ne_of_withoutTrail_eq {before : List Char}
    (h : withoutTrail path = before ++ '/' :: last) : last ≠ [] ∧ last ≠ ['.'] := by
  have hbackwards (cs : List Char) :
      (∀ rest, dropTrail cs ≠ '/' :: rest) ∧ ∀ rest, dropTrail cs ≠ '.' :: '/' :: rest := by
    fun_induction dropTrail cs with
    | case1 cs ih => exact ih
    | case2 cs ih => exact ih
    | case3 cs hslash hdot => exact ⟨hslash, hdot⟩
  have hreverse : dropTrail path.reverse = last.reverse ++ '/' :: before.reverse := by
    rw [← List.reverse_reverse (dropTrail _), ← withoutTrail, h]
    simp
  constructor
  · rintro rfl
    exact (hbackwards _).1 _ hreverse
  · rintro rfl
    exact (hbackwards _).2 _ hreverse

/-! ## The end of the rest -/

theorem exists_steps_eq (h : Text.IsLastField '/' cs last) :
    ∃ front, steps cs = front ++ (Component.ofPart last).toList := by
  obtain ⟨hfree, rfl | ⟨before, rfl⟩⟩ := h
  · exact ⟨[], steps_of_notMem hfree⟩
  · exact ⟨steps before, by rw [steps_append_cons, steps_of_notMem hfree]⟩

/-- The file name of a path is the name that it ends in. -/
theorem fileName?_eq_some_iff_endsIn : fileName? path = some name ↔ EndsIn path name := by
  rw [fileName?_eq_some_iff, ← steps_withoutTrail]
  constructor
  · intro h
    have hlast := Text.isLastField_afterLast '/' (withoutTrail path)
    generalize Text.afterLast '/' (withoutTrail path) = last at hlast
    obtain ⟨front, hfront⟩ := exists_steps_eq hlast
    have hpart : Component.ofPart last = some (.name name) := by
      cases hpart : Component.ofPart last with
      | some c =>
        rw [hfront, hpart, Option.toList_some, List.getLast?_concat] at h
        exact h
      | none =>
        -- A part that says nothing is left only where it is the whole path.
        have hwhole : withoutTrail path = last := by
          rcases hlast.2 with hwhole | ⟨before, hcut⟩
          · exact hwhole
          · obtain ⟨hnil, hdot⟩ := ne_of_withoutTrail_eq hcut
            exact absurd (Component.ofPart_eq_none_iff.1 hpart) (by simp [hnil, hdot])
        rw [hwhole, steps_of_notMem hlast.1, hpart] at h
        cases h
    obtain ⟨rfl, hnil, hdot, hparent⟩ := Component.ofPart_eq_name_iff.1 hpart
    refine ⟨hlast, hnil, hparent, fun hhere ↦ hdot ?_⟩
    exact hlast.unique ⟨by decide, .inl hhere⟩
  · rintro ⟨hlast, hnil, hparent, hhere⟩
    have hdot : name ≠ ['.'] := by
      rintro rfl
      rcases hlast.2 with hwhole | ⟨before, hcut⟩
      · exact hhere hwhole
      · exact (ne_of_withoutTrail_eq hcut).2 rfl
    obtain ⟨front, hfront⟩ := exists_steps_eq hlast
    rw [hfront, Component.ofPart_eq_name_iff.2 ⟨rfl, hnil, hdot, hparent⟩, Option.toList_some,
      List.getLast?_concat]

theorem EndsIn.steps_ne_nil (h : EndsIn path name) : steps path ≠ [] := by
  rw [← fileName?_eq_some_iff_endsIn, fileName?_eq_some_iff] at h
  intro hnil
  rw [hnil] at h
  cases h

theorem fileName?_eq_none_iff : fileName? path = none ↔ ¬ ∃ name, EndsIn path name := by
  simp only [← fileName?_eq_some_iff_endsIn, Option.eq_none_iff_forall_ne_some, not_exists]

/-! ## More at either end -/

theorem IsTrail.append_part {trail part : List Char} (h : IsTrail trail)
    (hpart : part = [] ∨ part = ['.']) : IsTrail (trail ++ '/' :: part) := by
  obtain ⟨parts, hparts, rfl⟩ := h
  refine ⟨parts ++ [part], ?_, by rw [List.flatMap_append, List.flatMap_singleton]⟩
  rw [List.forall_mem_append, List.forall_mem_singleton]
  exact ⟨hparts, hpart⟩

theorem isTrail_slashes (count : Nat) : IsTrail (List.replicate count '/') :=
  ⟨List.replicate count [], by simp [List.mem_replicate], by simp [List.flatMap_replicate]⟩

theorem withoutTrail_append (path : List Char) {trail : List Char} (h : IsTrail trail) :
    withoutTrail (path ++ trail) = withoutTrail path := by
  obtain ⟨parts, hparts, rfl⟩ := h
  induction parts using List.reverseRecOn with
  | nil => rw [List.flatMap_nil, List.append_nil]
  | append_singleton parts part ih =>
    rw [List.forall_mem_append, List.forall_mem_singleton] at hparts
    rw [← ih hparts.1, List.flatMap_append, List.flatMap_singleton, ← List.append_assoc]
    rcases hparts.2 with rfl | rfl
    · simp [withoutTrail, dropTrail]
    · simp [withoutTrail, dropTrail]

/-- What is left out is a trail. -/
theorem exists_trail (path : List Char) :
    ∃ trail, IsTrail trail ∧ path = withoutTrail path ++ trail := by
  have hbackwards (cs : List Char) :
      ∃ trail, IsTrail trail ∧ cs.reverse = (dropTrail cs).reverse ++ trail := by
    fun_induction dropTrail cs with
    | case1 cs ih =>
      obtain ⟨trail, htrail, hcs⟩ := ih
      exact ⟨trail ++ ['/'], htrail.append_part (.inl rfl), by simp [hcs]⟩
    | case2 cs ih =>
      obtain ⟨trail, htrail, hcs⟩ := ih
      exact ⟨trail ++ ['/', '.'], htrail.append_part (.inr rfl), by simp [hcs]⟩
    | case3 cs => exact ⟨[], ⟨[], by simp⟩, (List.append_nil _).symm⟩
  obtain ⟨trail, htrail, hpath⟩ := hbackwards path.reverse
  exact ⟨trail, htrail, by rw [withoutTrail, ← hpath, List.reverse_reverse]⟩

/-- The paths that are left with a name are the name with a trail behind it. -/
theorem withoutTrail_eq_iff (hname : withoutTrail name = name) :
    withoutTrail path = name ↔ ∃ trail, IsTrail trail ∧ path = name ++ trail := by
  constructor
  · rintro rfl
    exact exists_trail path
  · rintro ⟨trail, htrail, rfl⟩
    rw [withoutTrail_append name htrail, hname]

theorem EndsIn.append_trail (h : EndsIn path name) {trail : List Char} (htrail : IsTrail trail) :
    EndsIn (path ++ trail) name := by
  obtain ⟨hlast, hnil, hparent, hhere⟩ := h
  rw [← withoutTrail_append path htrail] at hlast hhere
  exact ⟨hlast, hnil, hparent, hhere⟩

/-- A path in a directory ends as the path does. -/
theorem EndsIn.in_directory (h : EndsIn path name) (directory : List Char) :
    EndsIn (directory ++ '/' :: path) name := by
  rw [← fileName?_eq_some_iff_endsIn, fileName?_eq_some_iff] at h ⊢
  rw [steps_append_cons, List.getLast?_append, h, Option.some_or]

/-! ## Single components -/

/-- Only the empty path says nothing. -/
theorem components_ne_nil (hne : cs ≠ []) : components cs ≠ [] := by
  obtain ⟨c, rest, rfl⟩ := List.exists_cons_of_ne_nil hne
  obtain ⟨field, others, hfields⟩ := List.exists_cons_of_ne_nil (Text.fields_ne_nil '/' rest)
  rw [components_eq]
  by_cases hslash : c = '/'
  · simp [origin, hslash]
  · have hfirst : Text.fields '/' (c :: rest) = (c :: field) :: others := by
      rw [Text.fields_cons, hfields, Text.attach, if_neg hslash]
    cases hpart : Component.ofPart (c :: field) with
    | some step => simp [steps, hfirst, hpart]
    | none =>
      have hdot : c :: field = ['.'] := by simpa using Component.ofPart_eq_none_iff.1 hpart
      simp [origin, hslash, hfirst, hdot]

/-- The path of a component in a directory has more than this component. -/
theorem components_append_cons_ne (before after : List Char) {step : Component}
    (hsteps : steps after ≠ []) : components (before ++ '/' :: after) ≠ [step] := by
  have hfront : origin (before ++ '/' :: after) ++ steps before ≠ [] := by
    by_cases hnil : before = []
    · simp [hnil, origin]
    · rw [origin_append_cons hnil, ← components_eq]
      exact components_ne_nil hnil
  rw [components_eq, steps_append_cons, ← List.append_assoc]
  intro h
  rcases List.append_eq_singleton_iff.1 h with ⟨hnil, -⟩ | ⟨-, hnil⟩
  · exact hfront hnil
  · exact hsteps hnil

/-- A path has a name for its only component when nothing but a trail stands behind that. -/
theorem components_eq_name_iff (hpart : Component.ofPart name = some (.name name))
    (hfree : '/' ∉ name) : components path = [.name name] ↔ withoutTrail path = name := by
  have hsteps : steps name = [.name name] := by rw [steps_of_notMem hfree, hpart]; rfl
  constructor
  · intro h
    have hname : fileName? path = some name := by rw [fileName?, h]; rfl
    have hends := fileName?_eq_some_iff_endsIn.1 hname
    rcases hends.last.2 with hwhole | ⟨before, hcut⟩
    · exact hwhole
    · rw [← components_withoutTrail (by simp [hcut]), hcut] at h
      exact absurd h (components_append_cons_ne before name (by simp [hsteps]))
  · rintro rfl
    obtain ⟨-, hnil, hdot, -⟩ := Component.ofPart_eq_name_iff.1 hpart
    rw [← components_withoutTrail hnil, components_eq, origin_of_notMem hfree hdot, hsteps,
      List.nil_append]

end BusReplay.Path
