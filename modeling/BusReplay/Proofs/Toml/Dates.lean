import BusReplay.Toml.DateTable

/-!
# Tables that are read as dates

A document in which a table stands for a date but spells none is refused. In every other document
the tables that stand for dates have no entries any more, and all else is as it was written.
-/

namespace BusReplay.Toml

namespace Value

/-- The reserved key comes first in a table. -/
def StandsForDate (v : Value) : Prop := ∃ entries date, v = .table entries ∧
  dateEntry? entries = some date

/-- Somewhere in a value a table stands for a date, and spells none. What is in tables that stand
for dates does not count. -/
inductive HasBrokenDate : Value → Prop
  | here {entries : List (String × Value)} {date : Value} (hdate : dateEntry? entries = some date)
    (hbroken : date.toDate? = none) : HasBrokenDate (.table entries)
  | item {items : List Value} {v : Value} (hmem : v ∈ items) (h : HasBrokenDate v) :
    HasBrokenDate (.array items)
  | entry {entries : List (String × Value)} {key : String} {v : Value}
    (hdate : dateEntry? entries = none) (hmem : (key, v) ∈ entries) (h : HasBrokenDate v) :
    HasBrokenDate (.table entries)

end Value

mutual

/-- The dates of a value can be read unless one of them is broken. -/
theorem withDates_eq_none_iff : (v : Value) → (v.withDates = none ↔ v.HasBrokenDate)
  | .array items => by
    rw [Value.withDates, Option.map_eq_none_iff, itemsWithDates_eq_none_iff items]
    constructor
    · intro ⟨v, hmem, hv⟩
      exact .item hmem hv
    · intro h
      cases h with
      | item hmem hv => exact ⟨_, hmem, hv⟩
  | .table entries => by
    rw [Value.withDates]
    cases hdate : dateEntry? entries with
    | some date =>
      constructor
      · exact .here hdate
      · intro h
        cases h with
        | here hdate' hbroken =>
          rwa [← Option.some.inj (hdate.symm.trans hdate')] at hbroken
        | entry hnone => cases hdate.symm.trans hnone
    | none =>
      dsimp only
      rw [Option.map_eq_none_iff, entriesWithDates_eq_none_iff entries]
      constructor
      · intro ⟨key, v, hmem, hv⟩
        exact .entry hdate hmem hv
      · intro h
        cases h with
        | here hdate' => cases hdate.symm.trans hdate'
        | entry _ hmem hv => exact ⟨_, _, hmem, hv⟩
  | .string _ | .integer _ | .float _ | .boolean _ | .dateTime _ => by
    simp only [Value.withDates, reduceCtorEq, false_iff]
    nofun

theorem itemsWithDates_eq_none_iff :
    (items : List Value) → (itemsWithDates items = none ↔ ∃ v ∈ items, v.HasBrokenDate)
  | [] => by simp [itemsWithDates]
  | v :: rest => by
    simp only [List.mem_cons, exists_eq_or_imp]
    rw [itemsWithDates, ← withDates_eq_none_iff v, ← itemsWithDates_eq_none_iff rest]
    cases v.withDates <;> cases itemsWithDates rest <;> simp

theorem entriesWithDates_eq_none_iff : (entries : List (String × Value)) →
    (entriesWithDates entries = none ↔ ∃ key v, (key, v) ∈ entries ∧ v.HasBrokenDate)
  | [] => by simp [entriesWithDates]
  | (key, v) :: rest => by
    have hcons : (∃ other w, (other, w) ∈ (key, v) :: rest ∧ w.HasBrokenDate) ↔
        v.HasBrokenDate ∨ ∃ other w, (other, w) ∈ rest ∧ w.HasBrokenDate := by
      simp only [List.mem_cons, Prod.mk.injEq]
      grind
    rw [hcons, entriesWithDates, ← withDates_eq_none_iff v, ← entriesWithDates_eq_none_iff rest]
    cases v.withDates <;> cases entriesWithDates rest <;> simp

end

namespace Value

/-- Somewhere in a value a table has the reserved key. -/
inductive HasDateKey : Value → Prop
  | here {entries : List (String × Value)} (h : entries.lookup dateKey ≠ none) :
    HasDateKey (.table entries)
  | item {items : List Value} {v : Value} (hmem : v ∈ items) (h : HasDateKey v) :
    HasDateKey (.array items)
  | entry {entries : List (String × Value)} {key : String} {v : Value}
    (hmem : (key, v) ∈ entries) (h : HasDateKey v) : HasDateKey (.table entries)

@[simp] theorem hasDateKey_array_iff {items : List Value} :
    (array items).HasDateKey ↔ ∃ v ∈ items, v.HasDateKey := by
  constructor
  · intro h
    cases h with
    | item hmem hv => exact ⟨_, hmem, hv⟩
  · intro ⟨v, hmem, hv⟩
    exact .item hmem hv

@[simp] theorem hasDateKey_table_iff {entries : List (String × Value)} :
    (table entries).HasDateKey ↔
      entries.lookup dateKey ≠ none ∨ ∃ entry ∈ entries, entry.2.HasDateKey := by
  constructor
  · intro h
    cases h with
    | here h => exact .inl h
    | entry hmem hv => exact .inr ⟨_, hmem, hv⟩
  · intro h
    rcases h with h | ⟨entry, hmem, hv⟩
    · exact .here h
    · exact .entry hmem hv

@[simp] theorem not_hasDateKey_string (text : String) : ¬ (string text).HasDateKey := nofun

@[simp] theorem not_hasDateKey_integer (n : Int) : ¬ (integer n).HasDateKey := nofun

theorem StandsForDate.hasDateKey {v : Value} (h : v.StandsForDate) : v.HasDateKey := by
  obtain ⟨entries, date, rfl, hdate⟩ := h
  refine .here fun hnone ↦ ?_
  simp [hnone, dateEntry?] at hdate

/-- Where the reserved key is in no table, no date is broken. -/
theorem HasBrokenDate.hasDateKey {v : Value} (h : v.HasBrokenDate) : v.HasDateKey := by
  induction h with
  | here hdate hbroken => exact StandsForDate.hasDateKey ⟨_, _, rfl, hdate⟩
  | item hmem _ ih => exact .item hmem ih
  | entry _ hmem _ ih => exact .entry hmem ih

end Value

/-! ## What is found where no date is broken -/

namespace Value

variable {v new : Value}

/-- A table becomes a date or a table. -/
theorem of_withDates_table {entries : List (String × Value)}
    (h : (table entries).withDates = some new) :
    (∃ date text, dateEntry? entries = some date ∧ new = .dateTime text) ∨
      ∃ others, dateEntry? entries = none ∧ entriesWithDates entries = some others ∧
        new = .table others := by
  rw [withDates] at h
  cases hdate : dateEntry? entries with
  | some date =>
    rw [hdate] at h
    cases date with
    | string text =>
      obtain ⟨-, hnew⟩ := Option.ite_none_right_eq_some.1 h
      exact .inl ⟨_, text, rfl, (Option.some.inj hnew).symm⟩
    | _ => cases h
  | none =>
    rw [hdate] at h
    obtain ⟨others, hothers, rfl⟩ := Option.map_eq_some_iff.1 h
    exact .inr ⟨others, rfl, hothers, rfl⟩

/-- Reading the dates changes no text and makes none. -/
theorem text?_of_withDates (h : v.withDates = some new) : new.text? = v.text? := by
  cases v with
  | array items =>
    obtain ⟨items, -, rfl⟩ := Option.map_eq_some_iff.1 h
    rfl
  | table entries =>
    rcases of_withDates_table h with ⟨_, _, -, rfl⟩ | ⟨_, -, -, rfl⟩ <;> rfl
  | _ => rw [← Option.some.inj h]

end Value

theorem filterMap_text?_of_itemsWithDates {items new : List Value}
    (h : itemsWithDates items = some new) :
    new.filterMap Value.text? = items.filterMap Value.text? := by
  induction items generalizing new with
  | nil => rw [← Option.some.inj h]
  | cons v rest ih =>
    simp only [itemsWithDates, Option.bind_eq_bind, Option.bind_eq_some_iff] at h
    obtain ⟨v', hv, rest', hrest, h⟩ := h
    rw [← Option.some.inj h, List.filterMap_cons, List.filterMap_cons, Value.text?_of_withDates hv,
      ih hrest]

theorem rel_bind {α β γ δ : Type} {R : α → β → Prop} {S : γ → δ → Prop} {a : Option α}
    {b : Option β} {f : α → Option γ} {g : β → Option δ} (h : Option.Rel R a b)
    (hfg : ∀ x y, a = some x → R x y → Option.Rel S (f x) (g y)) :
    Option.Rel S (a.bind f) (b.bind g) := by
  cases h with
  | none => exact .none
  | some hxy => exact hfg _ _ rfl hxy

theorem lookup_of_entriesWithDates {entries new : List (String × Value)}
    (h : entriesWithDates entries = some new) (key : String) :
    Option.Rel (fun v w ↦ v.withDates = some w) (entries.lookup key) (new.lookup key) := by
  induction entries generalizing new with
  | nil => exact Option.some.inj h ▸ .none
  | cons entry rest ih =>
    obtain ⟨k, v⟩ := entry
    simp only [entriesWithDates, Option.bind_eq_bind, Option.bind_eq_some_iff] at h
    obtain ⟨v', hv, rest', hrest, h⟩ := h
    rw [← Option.some.inj h, List.lookup_cons, List.lookup_cons]
    split
    · exact .some hv
    · exact ih hrest

namespace Value

variable {v new : Value}

theorem items?_of_withDates (h : v.withDates = some new) :
    Option.Rel (fun items others ↦ itemsWithDates items = some others) v.items? new.items? := by
  cases v with
  | array items =>
    obtain ⟨items, hitems, rfl⟩ := Option.map_eq_some_iff.1 h
    exact .some hitems
  | table entries =>
    rcases of_withDates_table h with ⟨_, _, -, rfl⟩ | ⟨_, -, -, rfl⟩ <;> exact .none
  | _ => exact Option.some.inj h ▸ .none

theorem get?_of_withDates (h : v.withDates = some new) (hdate : ¬ v.StandsForDate) (key : String) :
    Option.Rel (fun v w ↦ v.withDates = some w) (v.get? key) (new.get? key) := by
  cases v with
  | array items =>
    obtain ⟨items, -, rfl⟩ := Option.map_eq_some_iff.1 h
    exact .none
  | table entries =>
    rcases of_withDates_table h with ⟨date, _, hsome, -⟩ | ⟨others, -, hothers, rfl⟩
    · exact absurd ⟨entries, date, rfl, hsome⟩ hdate
    · exact lookup_of_entriesWithDates hothers key
  | _ => exact Option.some.inj h ▸ .none

/-- A date has no entries. -/
theorem get?_of_standsForDate (h : v.withDates = some new) (hdate : v.StandsForDate)
    (key : String) : new.get? key = none := by
  obtain ⟨entries, date, rfl, hdate⟩ := hdate
  rcases of_withDates_table h with ⟨_, _, -, rfl⟩ | ⟨_, hnone, -⟩
  · rfl
  · cases hdate.symm.trans hnone

end Value

end BusReplay.Toml
