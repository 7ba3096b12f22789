import Mathlib.Data.List.Forall2

/-!
# Computations that may fail

When a sequence of fallible steps succeeds or fails. A list is processed successfully exactly when
each of its elements is, and its results stand in the order of the elements.
-/

namespace BusReplay

variable {ε ε' α β : Type}

theorem bind_eq_ok_iff {x : Except ε α} {f : α → Except ε β} {b : β} :
    (x >>= f) = .ok b ↔ ∃ a, x = .ok a ∧ f a = .ok b := by
  cases x with
  | error e => simp [bind, Except.bind]
  | ok a => simp [bind, Except.bind]

theorem bind_eq_error_iff {x : Except ε α} {f : α → Except ε β} {e : ε} :
    (x >>= f) = .error e ↔ x = .error e ∨ ∃ a, x = .ok a ∧ f a = .error e := by
  cases x with
  | error e' => simp [bind, Except.bind]
  | ok a => simp [bind, Except.bind]

/-- A change of the first result that the second step carries over to its own result. -/
theorem map_bind_eq_map {α' β' : Type} {x : Except ε α} {f : α → α'} {next : α → Except ε β}
    {next' : α' → Except ε β'} {g : β → β'} (h : ∀ a, next' (f a) = (next a).map g) :
    (x.map f >>= next') = (x >>= next).map g := by
  cases x with
  | error e => rfl
  | ok a => exact h a

theorem map_eq_ok_iff {x : Except ε α} {f : α → β} {b : β} :
    x.map f = .ok b ↔ ∃ a, x = .ok a ∧ f a = b := by
  cases x <;> simp [Except.map]

theorem map_eq_error_iff {x : Except ε α} {f : α → β} {e : ε} :
    x.map f = .error e ↔ x = .error e := by
  cases x <;> simp [Except.map]

theorem mapError_eq_ok_iff {x : Except ε α} {f : ε → ε'} {a : α} :
    x.mapError f = .ok a ↔ x = .ok a := by
  cases x <;> simp [Except.mapError]

theorem mapError_eq_error_iff {x : Except ε α} {f : ε → ε'} {e : ε'} :
    x.mapError f = .error e ↔ ∃ cause, x = .error cause ∧ f cause = e := by
  cases x <;> simp [Except.mapError]

theorem mapM_eq_ok_iff {f : α → Except ε β} {xs : List α} {ys : List β} :
    xs.mapM f = .ok ys ↔ List.Forall₂ (fun x y ↦ f x = .ok y) xs ys := by
  induction xs generalizing ys with
  | nil => simp [pure, Except.pure, eq_comm]
  | cons x xs ih =>
    rw [List.mapM_cons, List.forall₂_cons_left_iff]
    simp only [bind_eq_ok_iff, ih]
    simp [pure, Except.pure, eq_comm]

theorem exists_mapM_eq_ok_iff {f : α → Except ε β} {xs : List α} :
    (∃ ys, xs.mapM f = .ok ys) ↔ ∀ x ∈ xs, ∃ y, f x = .ok y := by
  induction xs with
  | nil => simp [pure, Except.pure]
  | cons x xs ih =>
    rw [List.forall_mem_cons, ← ih]
    simp only [mapM_eq_ok_iff, List.forall₂_cons_left_iff]
    constructor
    · intro ⟨_, y, ys, hy, hys, _⟩
      exact ⟨⟨y, hy⟩, ys, hys⟩
    · intro ⟨⟨y, hy⟩, ys, hys⟩
      exact ⟨y :: ys, y, ys, hy, hys, rfl⟩

/-- What every step keeps is kept by all of them. -/
theorem foldlM_invariant {f : β → α → Except ε β} {P : β → Prop}
    (hstep : ∀ before x after, P before → f before x = .ok after → P after) {xs : List α}
    {first last : β} (hfirst : P first) (h : xs.foldlM f first = .ok last) : P last := by
  induction xs generalizing first with
  | nil => exact Except.ok.inj h ▸ hfirst
  | cons x xs ih =>
    rw [List.foldlM_cons, bind_eq_ok_iff] at h
    obtain ⟨between, hbetween, h⟩ := h
    exact ih (hstep first x between hfirst hbetween) h

theorem exists_mapM_eq_some_iff {f : α → Option β} {xs : List α} :
    (∃ ys, xs.mapM f = some ys) ↔ ∀ x ∈ xs, ∃ y, f x = some y := by
  induction xs with
  | nil => simp
  | cons x xs ih =>
    rw [List.forall_mem_cons, ← ih]
    simp only [List.mapM_cons, Option.bind_eq_bind, Option.bind_eq_some_iff]
    constructor
    · intro ⟨_, y, hy, ys, hys, _⟩
      exact ⟨⟨y, hy⟩, ys, hys⟩
    · intro ⟨⟨y, hy⟩, ys, hys⟩
      exact ⟨y :: ys, y, hy, ys, hys, rfl⟩

/-- The failure of a list is that of its first element that fails. -/
theorem mapM_eq_error_iff {f : α → Except ε β} {xs : List α} {e : ε} :
    xs.mapM f = .error e ↔ ∃ before x after, xs = before ++ x :: after ∧
      (∀ earlier ∈ before, ∃ y, f earlier = .ok y) ∧ f x = .error e := by
  induction xs with
  | nil => simp [pure, Except.pure]
  | cons x xs ih =>
    rw [List.mapM_cons, bind_eq_error_iff]
    constructor
    · intro h
      rcases h with hx | ⟨y, hy, h⟩
      · exact ⟨[], x, xs, rfl, by simp, hx⟩
      · rw [bind_eq_error_iff] at h
        rcases h with hxs | ⟨ys, -, h⟩
        · obtain ⟨before, z, after, rfl, hbefore, hz⟩ := ih.1 hxs
          exact ⟨x :: before, z, after, rfl, List.forall_mem_cons.2 ⟨⟨y, hy⟩, hbefore⟩, hz⟩
        · simp [pure, Except.pure] at h
    · intro ⟨before, z, after, hcut, hbefore, hz⟩
      cases before with
      | nil =>
        obtain ⟨rfl, rfl⟩ := List.cons.inj hcut
        exact .inl hz
      | cons first before =>
        obtain ⟨rfl, rfl⟩ := List.cons.inj hcut
        rw [List.forall_mem_cons] at hbefore
        obtain ⟨y, hy⟩ := hbefore.1
        refine .inr ⟨y, hy, ?_⟩
        rw [bind_eq_error_iff]
        exact .inl (ih.2 ⟨before, z, after, rfl, hbefore.2, hz⟩)

end BusReplay
