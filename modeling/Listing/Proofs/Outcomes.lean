import Mathlib

/-!
# Outcomes that may be faults

When a computation that may fail has succeeded, its parts have, and when it has failed, one of
them did.  These are the rules by which readings, bindings and queries are taken apart.
-/

namespace Listing

variable {ε ε' α β σ : Type}

/-- Two steps succeed if both do, the second with what the first gives. -/
theorem bind_eq_ok {x : Except ε α} {f : α → Except ε β} {b : β} :
    (x >>= f) = .ok b ↔ ∃ a, x = .ok a ∧ f a = .ok b := by
  constructor
  · intro ok
    cases x with
    | error e => cases ok
    | ok a => exact ⟨a, rfl, ok⟩
  · rintro ⟨a, rfl, ok⟩
    exact ok

/-- Two steps fail if the first does, or the second with what the first gives. -/
theorem bind_eq_error {x : Except ε α} {f : α → Except ε β} {e : ε} :
    (x >>= f) = .error e ↔ x = .error e ∨ ∃ a, x = .ok a ∧ f a = .error e := by
  cases x <;> simp [bind, Except.bind]

theorem bind_pure_eq_error {x : Except ε α} {f : α → β} {e : ε} :
    (x >>= fun a => pure (f a)) = .error e ↔ x = .error e := by
  rw [bind_eq_error, or_iff_left]
  rintro ⟨a, -, failed⟩
  cases failed

/-- There is a result unless there is a failure. -/
theorem exists_eq_ok_iff {x : Except ε α} : (∃ a, x = .ok a) ↔ ∀ e, x ≠ .error e := by
  cases x <;> simp

theorem toOption_isSome_iff {x : Except ε α} : x.toOption.isSome ↔ ∃ a, x = .ok a := by
  cases x <;> simp [Except.toOption]

theorem map_eq_ok {x : Except ε α} {f : α → β} {b : β} :
    x.map f = .ok b ↔ ∃ a, x = .ok a ∧ f a = b := by
  cases x <;> simp [Except.map]

theorem map_eq_error {x : Except ε α} {f : α → β} {e : ε} : x.map f = .error e ↔ x = .error e := by
  cases x <;> simp [Except.map]

theorem mapError_eq_ok {x : Except ε α} {f : ε → ε'} {a : α} :
    x.mapError f = .ok a ↔ x = .ok a := by
  cases x <;> simp [Except.mapError]

theorem mapError_eq_error {x : Except ε α} {f : ε → ε'} {e : ε'} :
    x.mapError f = .error e ↔ ∃ e', x = .error e' ∧ f e' = e := by
  cases x <;> simp [Except.mapError]

/-! ## Lists of computations -/

section MapM

variable {f : α → Except ε β} {x : α} {xs : List α}

/-- A list succeeds if its first item and the others do. -/
theorem mapM_cons_eq_ok {zs : List β} :
    (x :: xs).mapM f = .ok zs ↔ ∃ y ys, f x = .ok y ∧ xs.mapM f = .ok ys ∧ zs = y :: ys := by
  rw [List.mapM_cons, bind_eq_ok]
  constructor
  · rintro ⟨y, first, ok⟩
    obtain ⟨ys, others, ok⟩ := bind_eq_ok.1 ok
    exact ⟨y, ys, first, others, (Except.ok.inj ok).symm⟩
  · rintro ⟨y, ys, first, others, rfl⟩
    exact ⟨y, first, bind_eq_ok.2 ⟨ys, others, rfl⟩⟩

/-- A list fails as its first failing item does. -/
theorem mapM_cons_eq_error {e : ε} :
    (x :: xs).mapM f = .error e ↔
      f x = .error e ∨ (∃ y, f x = .ok y) ∧ xs.mapM f = .error e := by
  rw [List.mapM_cons, bind_eq_error]
  simp [bind_eq_error, pure, Except.pure]

/-- The results of a list are those of its items, one by one. -/
theorem mapM_eq_ok_iff_forall₂ {ys : List β} :
    xs.mapM f = .ok ys ↔ List.Forall₂ (fun x y => f x = .ok y) xs ys := by
  induction xs generalizing ys with
  | nil => cases ys <;> simp [pure, Except.pure]
  | cons x xs ih =>
    rw [mapM_cons_eq_ok, List.forall₂_cons_left_iff]
    simp only [ih]

/-- If no item fails, the list has the results of all of them. -/
theorem mapM_ok_of_forall (reads : ∀ x ∈ xs, ∃ y, f x = .ok y) :
    xs.mapM f = .ok (xs.filterMap fun x => (f x).toOption) := by
  induction xs with
  | nil => rfl
  | cons x xs ih =>
    obtain ⟨⟨y, first⟩, others⟩ := List.forall_mem_cons.1 reads
    rw [List.mapM_cons, first, ih others, List.filterMap_cons, first]
    rfl

/-- If the list succeeds, so does each item. -/
theorem exists_ok_of_mapM {ys : List β} (ok : xs.mapM f = .ok ys) (member : x ∈ xs) :
    ∃ y, f x = .ok y := by
  induction xs generalizing ys with
  | nil => cases member
  | cons x' xs ih =>
    obtain ⟨y, rest, first, others, -⟩ := mapM_cons_eq_ok.1 ok
    rcases List.mem_cons.1 member with rfl | member
    · exact ⟨y, first⟩
    · exact ih others member

/-- The first of the items of a list with a property is the first one, or is behind it. -/
theorem exists_first_cons {passes stops : α → Prop} :
    (∃ front x' back, x :: xs = front ++ x' :: back ∧ (∀ a ∈ front, passes a) ∧ stops x') ↔
      stops x ∨ passes x ∧
        ∃ front x' back, xs = front ++ x' :: back ∧ (∀ a ∈ front, passes a) ∧ stops x' := by
  constructor
  · rintro ⟨_ | ⟨a, front⟩, x', back, same, before, stop⟩
    · obtain ⟨rfl, -⟩ := List.cons.inj same
      exact Or.inl stop
    · obtain ⟨rfl, rfl⟩ := List.cons.inj same
      obtain ⟨first, before⟩ := List.forall_mem_cons.1 before
      exact Or.inr ⟨first, front, x', back, rfl, before, stop⟩
  · rintro (stop | ⟨first, front, x', back, rfl, before, stop⟩)
    · exact ⟨[], x, xs, rfl, List.forall_mem_nil _, stop⟩
    · exact ⟨x :: front, x', back, rfl, List.forall_mem_cons.2 ⟨first, before⟩, stop⟩

/-- The first computation that fails decides how a list of them does. -/
theorem mapM_eq_error_iff {e : ε} :
    xs.mapM f = .error e ↔ ∃ front x back, xs = front ++ x :: back ∧
      (∀ a ∈ front, ∃ b, f a = .ok b) ∧ f x = .error e := by
  induction xs with
  | nil => simp [pure, Except.pure]
  | cons x xs ih => rw [mapM_cons_eq_error, ih, exists_first_cons]

end MapM

/-- The first step that fails decides how a run does. -/
theorem foldlM_eq_error_iff {f : σ → α → Except ε σ} {xs : List α} {s : σ} {e : ε} :
    xs.foldlM f s = .error e ↔ ∃ front x back s', xs = front ++ x :: back ∧
      front.foldlM f s = .ok s' ∧ f s' x = .error e := by
  constructor
  · intro failed
    induction xs generalizing s with
    | nil => cases failed
    | cons x xs ih =>
      rw [List.foldlM_cons, bind_eq_error] at failed
      rcases failed with failed | ⟨next, first, failed⟩
      · exact ⟨[], x, xs, s, rfl, rfl, failed⟩
      · obtain ⟨front, x', back, s', rfl, before, failed⟩ := ih failed
        refine ⟨x :: front, x', back, s', rfl, ?_, failed⟩
        rw [List.foldlM_cons]
        exact bind_eq_ok.2 ⟨next, first, before⟩
  · rintro ⟨front, x, back, s', rfl, before, failed⟩
    rw [List.foldlM_append]
    refine bind_eq_error.2 (.inr ⟨s', before, ?_⟩)
    rw [List.foldlM_cons]
    exact bind_eq_error.2 (.inl failed)

/-- Where no step fails, a run is one without failures. -/
theorem foldlM_eq_ok_of_forall {f : σ → α → Except ε σ} {g : σ → α → σ} {xs : List α}
    (steps : ∀ x ∈ xs, ∀ s, f s x = .ok (g s x)) (s : σ) : xs.foldlM f s = .ok (xs.foldl g s) := by
  induction xs generalizing s with
  | nil => rfl
  | cons x xs ih =>
    obtain ⟨first, others⟩ := List.forall_mem_cons.1 steps
    rw [List.foldlM_cons, first, List.foldl_cons]
    exact ih others (g s x)

end Listing
