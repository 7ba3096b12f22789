import BusReplay.Toml.Document

/-!
# What statements keep

A statement adds to the tree of tables and takes nothing away: values stay as they are, and tables
stay tables. So what one statement has put into a document is still there at the end.
-/

namespace BusReplay.Toml

/-- What is found behind a path of keys, through tables only. -/
def Node.at? : List String → Node → Option Node
  | [], node => some node
  | key :: path, .table _ entries => (entries.lookup key).bind (Node.at? path)
  | _ :: _, _ => none

/-- How a node may change: a value not at all, and the others remain of their kind. -/
def Node.Persists : Node → Node → Prop
  | .value v, node => node = .value v
  | .table .., node => ∃ origin entries, node = .table origin entries
  | .tables _, node => ∃ items, node = .tables items

/-- What is found in a tree of tables is found in another one as well. -/
def Node.Keeps (node other : Node) : Prop :=
  ∀ path found, node.at? path = some found →
    ∃ here, other.at? path = some here ∧ found.Persists here

theorem lookup_cons_eq_ite {α : Type} (key other : String) (a : α) (entries : List (String × α)) :
    ((key, a) :: entries).lookup other = if other = key then some a else entries.lookup other := by
  rw [List.lookup_cons]
  by_cases h : other = key
  · simp [h]
  · simp [h, beq_false_of_ne h]

namespace Entries

variable {entries others : Entries} {key : String} {node : Node}

/-- What is found below the keys of a table is found in another one as well. -/
def Keeps (entries others : Entries) : Prop :=
  ∀ key node, entries.lookup key = some node →
    ∃ other, others.lookup key = some other ∧ node.Keeps other

theorem lookup_set (other : String) :
    (set key node entries).lookup other =
      if other = key then some node else entries.lookup other := by
  induction entries with
  | nil => simp [set, lookup_cons_eq_ite]
  | cons entry rest ih =>
    obtain ⟨k, n⟩ := entry
    unfold set
    split
    · next heq =>
      subst heq
      simp only [lookup_cons_eq_ite]
      split <;> rfl
    · next hne =>
      rw [lookup_cons_eq_ite, lookup_cons_eq_ite, ih]
      grind

end Entries

theorem Node.Persists.refl (node : Node) : node.Persists node := by
  cases node with
  | value => rfl
  | table origin entries => exact ⟨origin, entries, rfl⟩
  | tables items => exact ⟨items, rfl⟩

theorem Node.Persists.trans {node other last : Node} (h : node.Persists other)
    (hlast : other.Persists last) : node.Persists last := by
  cases node with
  | value => exact h ▸ hlast
  | table =>
    obtain ⟨origin, entries, rfl⟩ := h
    exact hlast
  | tables =>
    obtain ⟨items, rfl⟩ := h
    exact hlast

namespace Node.Keeps

theorem refl (node : Node) : node.Keeps node := fun _ found h ↦ ⟨found, h, .refl found⟩

theorem trans {node other last : Node} (h : node.Keeps other) (hlast : other.Keeps last) :
    node.Keeps last := by
  intro path found hfound
  obtain ⟨here, hhere, hpersists⟩ := h path found hfound
  obtain ⟨there, hthere, hstill⟩ := hlast path here hhere
  exact ⟨there, hthere, hpersists.trans hstill⟩

theorem table {entries others : Entries} (h : entries.Keeps others) (origin other : Origin) :
    (Node.table origin entries).Keeps (.table other others) := by
  intro path found hfound
  cases path with
  | nil =>
    obtain rfl := Option.some.inj hfound
    exact ⟨_, rfl, other, others, rfl⟩
  | cons key path =>
    obtain ⟨node, hnode, hfound⟩ := Option.bind_eq_some_iff.1 hfound
    obtain ⟨new, hnew, hkeeps⟩ := h key node hnode
    obtain ⟨here, hhere, hpersists⟩ := hkeeps path found hfound
    exact ⟨here, Option.bind_eq_some_iff.2 ⟨new, hnew, hhere⟩, hpersists⟩

/-- Paths do not lead into arrays of tables. -/
theorem tables (items others : List Entries) : (Node.tables items).Keeps (.tables others) := by
  intro path found hfound
  cases path with
  | nil =>
    obtain rfl := Option.some.inj hfound
    exact ⟨_, rfl, others, rfl⟩
  | cons => cases hfound

end Node.Keeps

namespace Entries

namespace Keeps

theorem refl (entries : Entries) : entries.Keeps entries := fun _ node h ↦ ⟨node, h, .refl node⟩

theorem trans {entries others last : Entries} (h : entries.Keeps others)
    (hlast : others.Keeps last) : entries.Keeps last := by
  intro key node hnode
  obtain ⟨other, hother, hkeeps⟩ := h key node hnode
  obtain ⟨there, hthere, hstill⟩ := hlast key other hother
  exact ⟨there, hthere, hkeeps.trans hstill⟩

end Keeps

variable {entries others : Entries} {key : String} {node : Node}

theorem keeps_set (h : ∀ old, entries.lookup key = some old → old.Keeps node) :
    entries.Keeps (set key node entries) := by
  intro other old hold
  rw [lookup_set]
  split
  · next heq => exact ⟨node, rfl, h old (heq ▸ hold)⟩
  · exact ⟨old, hold, .refl old⟩

theorem keeps_set_of_lookup_eq_none (h : entries.lookup key = none) :
    entries.Keeps (set key node entries) :=
  keeps_set fun old hold ↦ by rw [h] at hold; cases hold

theorem keeps_set_of_lookup_eq_some {old : Node} (h : entries.lookup key = some old)
    (hkeeps : old.Keeps node) : entries.Keeps (set key node entries) :=
  keeps_set fun _ hother ↦ Option.some.inj (h.symm.trans hother) ▸ hkeeps

/-! ## The changes that statements make -/

/-- A change that takes nothing away where it succeeds. -/
def Grows (change : Entries → Option Entries) : Prop :=
  ∀ entries others, change entries = some others → entries.Keeps others

theorem grows_openTable (key : String) : Grows (openTable key) := by
  intro entries others h
  unfold openTable at h
  split at h
  · next hnone => exact Option.some.inj h ▸ keeps_set_of_lookup_eq_none hnone
  · next inner hparent =>
    exact Option.some.inj h ▸ keeps_set_of_lookup_eq_some hparent (.table (.refl inner) _ _)
  · cases h

theorem grows_openItem (key : String) : Grows (openItem key) := by
  intro entries others h
  unfold openItem at h
  split at h
  · next hnone => exact Option.some.inj h ▸ keeps_set_of_lookup_eq_none hnone
  · next items hitems =>
    exact Option.some.inj h ▸ keeps_set_of_lookup_eq_some hitems (.tables _ _)
  · cases h

theorem grows_inside {change : Entries → Option Entries} (hchange : Grows change) (key : String) :
    Grows (inside key change) := by
  intro entries others h
  unfold inside at h
  split at h
  · next hnone =>
    obtain ⟨inner, -, rfl⟩ := Option.map_eq_some_iff.1 h
    exact keeps_set_of_lookup_eq_none hnone
  · next origin inner htable =>
    obtain ⟨new, hnew, rfl⟩ := Option.map_eq_some_iff.1 h
    exact keeps_set_of_lookup_eq_some htable (.table (hchange _ _ hnew) _ _)
  · next items htables =>
    split at h
    · obtain ⟨new, -, rfl⟩ := Option.map_eq_some_iff.1 h
      exact keeps_set_of_lookup_eq_some htables (.tables _ _)
    · cases h
  · cases h

theorem grows_insideAll {change : Entries → Option Entries} (hchange : Grows change)
    (path : List String) : Grows (insideAll path change) := by
  induction path with
  | nil => exact hchange
  | cons key path ih => exact grows_inside ih key

theorem grows_assign (key : String) (v : Value) (path : List String) :
    Grows (assign key v path) := by
  intro entries others h
  fun_induction assign key v path entries generalizing others with
  | case1 entries hnone => exact Option.some.inj h ▸ keeps_set_of_lookup_eq_none hnone
  | case3 entries part path hnone ih =>
    obtain ⟨inner, -, rfl⟩ := Option.map_eq_some_iff.1 h
    exact keeps_set_of_lookup_eq_none hnone
  | case5 entries part path origin inner htable hopen ih =>
    obtain ⟨new, hnew, rfl⟩ := Option.map_eq_some_iff.1 h
    exact keeps_set_of_lookup_eq_some htable (.table (ih _ hnew) _ _)
  | case6 entries part items htables next path last hlast ih =>
    obtain ⟨new, -, rfl⟩ := Option.map_eq_some_iff.1 h
    exact keeps_set_of_lookup_eq_some htables (.tables _ _)
  | _ => cases h

theorem grows_assignPath (parts : List String) (v : Value) : Grows (assignPath parts v) := by
  intro entries others h
  unfold assignPath at h
  split at h
  · exact grows_assign _ _ _ _ _ h
  · cases h

/-! ## Where values are put -/

theorem lookup_of_assign {v : Value} (h : assign key v [] entries = some others) :
    others.lookup key = some (.value v) := by
  rw [assign] at h
  split at h
  · rw [← Option.some.inj h, lookup_set, if_pos rfl]
  · cases h

theorem lookup_of_assignPath_dotted {part : String} {v : Value}
    (h : assignPath [part, key] v entries = some others) :
    ∃ origin inner, others.lookup part = some (.table origin inner) ∧
      inner.lookup key = some (.value v) := by
  have hassign : assign key v [part] entries = some others := h
  rw [assign] at hassign
  split at hassign
  · obtain ⟨inner, hinner, rfl⟩ := Option.map_eq_some_iff.1 hassign
    exact ⟨_, inner, by rw [lookup_set, if_pos rfl], lookup_of_assign hinner⟩
  · split at hassign
    · cases hassign
    · obtain ⟨inner, hinner, rfl⟩ := Option.map_eq_some_iff.1 hassign
      exact ⟨_, inner, by rw [lookup_set, if_pos rfl], lookup_of_assign hinner⟩
  · split at hassign
    · next hcons => cases hcons
    · cases hassign
  · cases hassign

theorem lookup_of_openTable (h : openTable key entries = some others) :
    ∃ origin inner, others.lookup key = some (.table origin inner) := by
  unfold openTable at h
  split at h
  · exact ⟨.header, [], by rw [← Option.some.inj h, lookup_set, if_pos rfl]⟩
  · next inner _ => exact ⟨.header, inner, by rw [← Option.some.inj h, lookup_set, if_pos rfl]⟩
  · cases h

theorem lookup_of_inside {change : Entries → Option Entries} {origin : Origin} {inner : Entries}
    (h : inside key change entries = some others)
    (htable : entries.lookup key = some (.table origin inner)) :
    ∃ new, change inner = some new ∧ others.lookup key = some (.table origin new) := by
  rw [inside, htable] at h
  obtain ⟨new, hnew, rfl⟩ := Option.map_eq_some_iff.1 h
  exact ⟨new, hnew, by rw [lookup_set, if_pos rfl]⟩

end Entries

/-- What every step keeps is kept by all of them. -/
theorem foldlM_option_invariant {σ β : Type} {step : σ → β → Option σ} {P : σ → Prop} {bs : List β}
    (hstep : ∀ b ∈ bs, ∀ before after, P before → step before b = some after → P after)
    {first last : σ} (hfirst : P first) (h : bs.foldlM step first = some last) : P last := by
  induction bs generalizing first with
  | nil => exact Option.some.inj h ▸ hfirst
  | cons b bs ih =>
    rw [List.foldlM_cons, Option.bind_eq_bind, Option.bind_eq_some_iff] at h
    obtain ⟨between, hbetween, h⟩ := h
    rw [List.forall_mem_cons] at hstep
    exact ih hstep.2 (hstep.1 _ _ hfirst hbetween) h

/-- A step in the middle of others. -/
theorem of_foldlM_append_cons {σ β : Type} {step : σ → β → Option σ} {before after : List β} {b : β}
    {first last : σ} (h : (before ++ b :: after).foldlM step first = some last) :
    ∃ earlier later, before.foldlM step first = some earlier ∧ step earlier b = some later ∧
      after.foldlM step later = some last := by
  rw [List.foldlM_append, Option.bind_eq_bind, Option.bind_eq_some_iff] at h
  obtain ⟨earlier, hearlier, h⟩ := h
  rw [List.foldlM_cons, Option.bind_eq_bind, Option.bind_eq_some_iff] at h
  obtain ⟨later, hlater, h⟩ := h
  exact ⟨earlier, later, hearlier, hlater, h⟩

/-! ## Documents -/

/-- A statement that gives a value to a key. -/
def Statement.IsAssign (s : Statement) : Prop := ∃ parts v, s = .assign parts v

namespace Draft

variable {draft next : Draft} {all : List Statement}

def root (draft : Draft) : Node := .table .header draft.entries

theorem of_apply_table {path : List String} (h : draft.apply (.table path) = some next) :
    ∃ key, path.getLast? = some key ∧
      draft.entries.insideAll path.dropLast (Entries.openTable key) = some next.entries ∧
      next.current = path := by
  obtain ⟨key, hkey, entries, hentries, rfl⟩ := by
    simpa only [apply, Option.bind_eq_bind, Option.bind_eq_some_iff, Option.pure_def,
      Option.some.injEq] using h
  exact ⟨key, hkey, hentries, rfl⟩

theorem of_apply_item {path : List String} (h : draft.apply (.item path) = some next) :
    ∃ key, path.getLast? = some key ∧
      draft.entries.insideAll path.dropLast (Entries.openItem key) = some next.entries ∧
      next.current = path := by
  obtain ⟨key, hkey, entries, hentries, rfl⟩ := by
    simpa only [apply, Option.bind_eq_bind, Option.bind_eq_some_iff, Option.pure_def,
      Option.some.injEq] using h
  exact ⟨key, hkey, hentries, rfl⟩

theorem of_apply_assign {parts : List String} {v : Value}
    (h : draft.apply (.assign parts v) = some next) :
    draft.entries.insideAll draft.current (Entries.assignPath parts v) = some next.entries ∧
      next.current = draft.current := by
  obtain ⟨entries, hentries, rfl⟩ := by
    simpa only [apply, Option.bind_eq_bind, Option.bind_eq_some_iff, Option.pure_def,
      Option.some.injEq] using h
  exact ⟨hentries, rfl⟩

/-- A statement leaves in place what a document has already. -/
theorem keeps_apply {s : Statement} (h : draft.apply s = some next) :
    draft.root.Keeps next.root := by
  refine .table ?_ _ _
  cases s with
  | table path =>
    obtain ⟨key, -, hentries, -⟩ := of_apply_table h
    exact Entries.grows_insideAll (Entries.grows_openTable key) _ _ _ hentries
  | item path =>
    obtain ⟨key, -, hentries, -⟩ := of_apply_item h
    exact Entries.grows_insideAll (Entries.grows_openItem key) _ _ _ hentries
  | assign parts v =>
    obtain ⟨hentries, -⟩ := of_apply_assign h
    exact Entries.grows_insideAll (Entries.grows_assignPath parts v) _ _ _ hentries

theorem keeps_foldlM (h : all.foldlM apply draft = some next) : draft.root.Keeps next.root :=
  foldlM_option_invariant (P := fun later ↦ draft.root.Keeps later.root)
    (fun _ _ _ _ hbefore hstep ↦ hbefore.trans (keeps_apply hstep)) (.refl _) h

/-- A value that was put into the document is still there at the end. -/
theorem at?_of_foldlM {path : List String} {v : Value}
    (hput : draft.root.at? path = some (.value v)) (h : all.foldlM apply draft = some next) :
    next.root.at? path = some (.value v) := by
  obtain ⟨here, hhere, rfl⟩ := keeps_foldlM h path _ hput
  exact hhere

theorem current_of_assigns (hall : ∀ s ∈ all, s.IsAssign)
    (h : all.foldlM apply draft = some next) : next.current = draft.current := by
  refine foldlM_option_invariant (P := fun later ↦ later.current = draft.current) ?_ rfl h
  intro s hs before after hbefore hstep
  obtain ⟨parts, v, rfl⟩ := hall s hs
  exact (of_apply_assign hstep).2.trans hbefore

/-- Behind the header of a table there is one. -/
theorem at?_of_header {key : String} (h : draft.apply (.table [key]) = some next) :
    ∃ origin inner, next.root.at? [key] = some (.table origin inner) := by
  obtain ⟨last, hlast, hentries, -⟩ := of_apply_table h
  obtain rfl := Option.some.inj hlast
  have hopen : Entries.openTable key draft.entries = some next.entries := hentries
  obtain ⟨origin, inner, hlookup⟩ := Entries.lookup_of_openTable hopen
  exact ⟨origin, inner, by simp [root, Node.at?, hlookup]⟩

/-- A key outside of all tables is given a value. -/
theorem at?_of_assign {key : String} {v : Value} (hcurrent : draft.current = [])
    (h : draft.apply (.assign [key] v) = some next) : next.root.at? [key] = some (.value v) := by
  obtain ⟨hentries, -⟩ := of_apply_assign h
  rw [hcurrent] at hentries
  have hlookup : next.entries.lookup key = some (.value v) := Entries.lookup_of_assign hentries
  simp [root, Node.at?, hlookup]

/-- A dotted key outside of all tables is given a value. -/
theorem at?_of_assign_dotted {part key : String} {v : Value} (hcurrent : draft.current = [])
    (h : draft.apply (.assign [part, key] v) = some next) :
    next.root.at? [part, key] = some (.value v) := by
  obtain ⟨hentries, -⟩ := of_apply_assign h
  rw [hcurrent] at hentries
  obtain ⟨origin, inner, htable, hlookup⟩ := Entries.lookup_of_assignPath_dotted hentries
  simp [root, Node.at?, htable, hlookup]

/-- A key in a table is given a value. -/
theorem at?_of_assign_inside {part key : String} {v : Value} {origin : Origin} {inner : Entries}
    (hcurrent : draft.current = [part])
    (htable : draft.root.at? [part] = some (.table origin inner))
    (h : draft.apply (.assign [key] v) = some next) :
    next.root.at? [part, key] = some (.value v) := by
  obtain ⟨hentries, -⟩ := of_apply_assign h
  rw [hcurrent] at hentries
  have hlookup : draft.entries.lookup part = some (.table origin inner) := by
    simpa [root, Node.at?] using htable
  obtain ⟨new, hnew, hpart⟩ := Entries.lookup_of_inside hentries hlookup
  have hkey : new.lookup key = some (.value v) := Entries.lookup_of_assign hnew
  simp [root, Node.at?, hpart, hkey]

end Draft

/-! ## The values of a tree -/

/-- What is found behind a path of keys. -/
def Value.at? : List String → Value → Option Value
  | [], v => some v
  | key :: path, v => (v.get? key).bind (Value.at? path)

theorem Value.at?_append (path more : List String) (v : Value) :
    v.at? (path ++ more) = (v.at? path).bind (Value.at? more) := by
  induction path generalizing v with
  | nil => rfl
  | cons key path ih =>
    rw [List.cons_append, at?, at?, Option.bind_assoc]
    exact Option.bind_congr fun inner _ ↦ ih inner

theorem lookup_entriesToValues (entries : Entries) (key : String) :
    (entriesToValues entries).lookup key = (entries.lookup key).map Node.toValue := by
  induction entries with
  | nil => rfl
  | cons entry rest ih =>
    obtain ⟨k, n⟩ := entry
    rw [entriesToValues, lookup_cons_eq_ite, lookup_cons_eq_ite, ih]
    split <;> rfl

/-- What is found in a tree is found in its value. -/
theorem at?_toValue {path : List String} {node found : Node} (h : node.at? path = some found) :
    node.toValue.at? path = some found.toValue := by
  induction path generalizing node with
  | nil => exact Option.some.inj h ▸ rfl
  | cons key path ih =>
    cases node with
    | value | tables => cases h
    | table origin entries =>
      obtain ⟨inner, hinner, h⟩ := Option.bind_eq_some_iff.1 h
      rw [Value.at?, Node.toValue, Value.get?, lookup_entriesToValues, hinner]
      exact ih h

/-- A pair of an inline table is an entry of it. -/
theorem get?_of_inlineTable {pairs : List (List String × Value)} {key : String} {v table : Value}
    (hmem : ([key], v) ∈ pairs) (h : inlineTable pairs = some table) : table.get? key = some v := by
  obtain ⟨before, after, rfl⟩ := List.append_of_mem hmem
  obtain ⟨entries, hentries, rfl⟩ := by
    simpa only [inlineTable, Option.bind_eq_bind, Option.bind_eq_some_iff, Option.pure_def,
      Option.some.injEq] using h
  obtain ⟨earlier, put, -, hput, hentries⟩ := of_foldlM_append_cons hentries
  have hkeeps : Entries.Keeps put entries := foldlM_option_invariant (P := Entries.Keeps put)
    (fun _ _ _ _ hbefore hstep ↦ hbefore.trans (Entries.grows_assignPath _ _ _ _ hstep))
    (.refl put) hentries
  obtain ⟨node, hnode, hvalue⟩ := hkeeps key _ (Entries.lookup_of_assign hput)
  obtain ⟨here, hhere, rfl⟩ := hvalue [] _ rfl
  obtain rfl := Option.some.inj hhere
  rw [Value.get?, lookup_entriesToValues, hnode]
  rfl

end BusReplay.Toml
