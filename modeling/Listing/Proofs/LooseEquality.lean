import Mathlib
import Listing.Proofs.SelfMatch
import Listing.Proofs.Sorting

/-!
# Loose equality

It does not matter which of two values is the stored one: a comparison says the same in both
directions, and so does loose equality, which goes through lists item by item.  Loose equality is
no equivalence for all that.  Null and what is not a number are equal to nothing, not even to
themselves, and neither is a list in which one of them is found, however deep.

* `Value.looselyEquals_comm` turns loose equality round;
* `Value.IsWithin` says that a value is found in another one, and `Value.isProper_iff` what is
  found in the values that are equal to themselves;
* `Value.compare_reversible` puts the directions together.
-/

namespace Listing.Value

/-! ## Both directions -/

/-- Loose equality with a value other than a list, on the right, is equality in comparisons. -/
theorem looselyEquals_of_single_right {w : Value} (single : w.items? = none) (v : Value) :
    v.looselyEquals w = (v.compare w == some .eq) := by
  cases v with
  | list xs =>
    cases w with
    | list ys => cases single
    | _ => rfl
  | _ => rfl

/-- Equality in comparisons holds in both directions or in neither. -/
theorem compare_beq_eq_comm (v w : Value) :
    (v.compare w == some .eq) = (w.compare v == some .eq) := by
  rw [← map_swap_compare v w]
  cases v.compare w with
  | none => rfl
  | some o => cases o <;> rfl

/-- Loose equality with a value other than a list can be turned round. -/
theorem looselyEquals_comm_of_single {v : Value} (single : v.items? = none) (w : Value) :
    v.looselyEquals w = w.looselyEquals v := by
  rw [looselyEquals_of_single single, looselyEquals_of_single_right single, compare_beq_eq_comm]

mutual

/-- Loose equality can be turned round, by induction on the first value and its items. -/
theorem looselyEquals_comm : (v w : Value) → v.looselyEquals w = w.looselyEquals v
  | list xs, w => by
    cases w with
    | list ys => exact allEqual_comm xs ys
    | _ => exact (looselyEquals_comm_of_single rfl (list xs)).symm
  | text _, w | integer _, w | real _, w | flag _, w | uuid _, w | instant _, w | choice _, w
  | null, w | document _, w => looselyEquals_comm_of_single rfl w

theorem allEqual_comm : (xs ys : List Value) → allEqual xs ys = allEqual ys xs
  | [], ys => by cases ys <;> rfl
  | x :: xs, ys => by
    cases ys with
    | nil => rfl
    | cons y ys => rw [allEqual, allEqual, looselyEquals_comm x y, allEqual_comm xs ys]

end

/-! ## Values equal to themselves -/

/-- A value is another one, or is found in one of its items, at any depth. -/
inductive IsWithin (v : Value) : Value → Prop where
  | self : IsWithin v v
  | item {w : Value} {items : List Value} : w ∈ items → IsWithin v w → IsWithin v (list items)

/-- In a value other than a list there is only that value. -/
theorem isWithin_of_single {v w : Value} (single : w.items? = none) : v.IsWithin w ↔ v = w := by
  constructor
  · intro within
    cases within with
    | self => rfl
    | item => cases single
  · rintro rfl
    exact .self

/-- In a list there are the list and what is in its items. -/
theorem isWithin_list {v : Value} {items : List Value} :
    v.IsWithin (list items) ↔ v = list items ∨ ∃ w ∈ items, v.IsWithin w := by
  constructor
  · intro within
    cases within with
    | self => exact Or.inl rfl
    | item member within => exact Or.inr ⟨_, member, within⟩
  · rintro (rfl | ⟨w, member, within⟩)
    · exact .self
    · exact .item member within

theorem isProper_iff_of_single {v : Value} (single : v.items? = none) :
    v.isProper = true ↔ ∀ w : Value, w.IsWithin v → w ≠ null ∧ w ≠ real .nan := by
  simp only [isWithin_of_single single, forall_eq]
  cases v with
  | list items => cases single
  | _ => simp [isProper]

mutual

/-- In a proper value there is no null and nothing that is not a number. -/
theorem isProper_iff : (v : Value) →
    (v.isProper = true ↔ ∀ w : Value, w.IsWithin v → w ≠ null ∧ w ≠ real .nan)
  | list items => by
    rw [isProper, allProper_iff_isWithin items]
    constructor
    · intro each w within
      rcases isWithin_list.1 within with rfl | ⟨v, member, within⟩
      · exact ⟨nofun, nofun⟩
      · exact each v member w within
    · exact fun all v member w within => all w (.item member within)
  | text _ | integer _ | real _ | flag _ | uuid _ | instant _ | choice _ | null | document _ =>
    isProper_iff_of_single rfl

theorem allProper_iff_isWithin : (items : List Value) →
    (allProper items = true ↔
      ∀ v ∈ items, ∀ w : Value, w.IsWithin v → w ≠ null ∧ w ≠ real .nan)
  | [] => by simp [allProper]
  | v :: rest => by
    rw [allProper, Bool.and_eq_true, isProper_iff v, allProper_iff_isWithin rest,
      List.forall_mem_cons]

end

/-- Only proper values compare as equal to themselves. -/
theorem isProper_of_compare_self {v : Value} (same : v.compare v = some .eq) :
    v.isProper = true := by
  cases v with
  | real x =>
    cases x with
    | nan => cases same
    | number negative code => rfl
  | list | null => cases same
  | _ => rfl

mutual

/-- Only proper values are loosely equal to themselves. -/
theorem isProper_of_looselyEquals_self :
    (v : Value) → v.looselyEquals v = true → v.isProper = true
  | list items, same => allProper_of_allEqual_self items same
  | text _, same | integer _, same | real _, same | flag _, same | uuid _, same | instant _, same
  | choice _, same | null, same | document _, same =>
    isProper_of_compare_self (beq_iff_eq.1 same)

theorem allProper_of_allEqual_self :
    (items : List Value) → allEqual items items = true → allProper items = true
  | [], _ => rfl
  | v :: rest, same => by
    obtain ⟨first, others⟩ := Bool.and_eq_true_iff.1 same
    rw [allProper, isProper_of_looselyEquals_self v first, allProper_of_allEqual_self rest others]
    rfl

end

/-- **Comparison can be turned round, and loose equality is symmetric**, for all values, whatever
lists they are made of.  A value is loosely equal to itself exactly if no null and nothing that is
not a number is found in it. -/
theorem compare_reversible (v w : Value) :
    w.compare v = (v.compare w).map Ordering.swap ∧
      v.looselyEquals w = w.looselyEquals v ∧
      (v.looselyEquals v = true ↔ ∀ u : Value, u.IsWithin v → u ≠ null ∧ u ≠ real .nan) := by
  refine ⟨(map_swap_compare v w).symm, looselyEquals_comm v w, ?_⟩
  rw [← isProper_iff]
  exact ⟨isProper_of_looselyEquals_self v, looselyEquals_self v⟩

end Listing.Value
