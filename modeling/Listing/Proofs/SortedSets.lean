import Listing.Sorted

/-!
# What is in a sorted set

A sorted set is built by putting the values of a list in, one after the other.  So all that is in
it is from the list, and of every value of the list there is one in it that the order calls equal;
and a set is the one that is built of its own values.

* `Sorted.mem_ofList` and `Sorted.exists_mem_ofList` are the two directions;
* `Sorted.ofList_val` builds a set again.
-/

namespace Listing.Sorted

variable {α : Type} {compare : α → α → Ordering}

theorem mem_insertSorted_of_mem {x y : α} {xs : List α} (member : y ∈ xs) :
    y ∈ insertSorted compare x xs := by
  induction xs with
  | nil => cases member
  | cons z rest ih =>
    rw [insertSorted]
    cases compare x z with
    | lt => exact List.mem_cons_of_mem _ member
    | eq => exact member
    | gt =>
      rcases List.mem_cons.1 member with rfl | member
      · exact List.mem_cons_self
      · exact List.mem_cons_of_mem _ (ih member)

variable [Std.TransCmp compare]

/-- A value that is put in is there, or another one that is equal to it. -/
theorem exists_mem_insertSorted (x : α) (xs : List α) :
    ∃ y ∈ insertSorted compare x xs, compare x y = .eq := by
  have self : compare x x = .eq := Std.ReflCmp.compare_self
  induction xs with
  | nil => exact ⟨x, List.mem_cons_self, self⟩
  | cons z rest ih =>
    rw [insertSorted]
    cases order : compare x z with
    | lt => exact ⟨x, List.mem_cons_self, self⟩
    | eq => exact ⟨z, List.mem_cons_self, order⟩
    | gt =>
      obtain ⟨y, member, same⟩ := ih
      exact ⟨y, List.mem_cons_of_mem _ member, same⟩

/-- A value that is greater than all others comes last. -/
theorem insertSorted_of_last {x : α} {xs : List α} (last : ∀ y ∈ xs, compare y x = .lt) :
    insertSorted compare x xs = xs ++ [x] := by
  induction xs with
  | nil => rfl
  | cons y rest ih =>
    have turned : compare x y = (compare y x).swap := Std.OrientedCmp.eq_swap
    rw [last y List.mem_cons_self] at turned
    rw [insertSorted, turned, ih fun z member => last z (List.mem_cons_of_mem _ member)]
    rfl

/-- The values of a list put into a set, one after the other. -/
def insertAll (start : Sorted compare) (xs : List α) : Sorted compare :=
  xs.foldl (insert compare) start

section InsertAll

variable {start : Sorted compare} {xs : List α}

theorem mem_insertAll {x : α} (member : x ∈ (insertAll start xs).val) :
    x ∈ start.val ∨ x ∈ xs := by
  induction xs generalizing start with
  | nil => exact .inl member
  | cons y rest ih =>
    rcases ih member with inserted | later
    · rcases mem_insertSorted inserted with rfl | before
      · exact .inr List.mem_cons_self
      · exact .inl before
    · exact .inr (List.mem_cons_of_mem _ later)

theorem mem_insertAll_of_mem {y : α} (member : y ∈ start.val) : y ∈ (insertAll start xs).val := by
  induction xs generalizing start with
  | nil => exact member
  | cons x rest ih =>
    have kept : y ∈ (insert compare start x).val := mem_insertSorted_of_mem member
    exact ih kept

/-- Of everything that was put there, something equal is in the set. -/
theorem exists_mem_insertAll {x : α} (member : x ∈ xs) :
    ∃ y ∈ (insertAll start xs).val, compare x y = .eq := by
  induction xs generalizing start with
  | nil => cases member
  | cons z rest ih =>
    rcases List.mem_cons.1 member with rfl | member
    · obtain ⟨y, inserted, same⟩ : ∃ y ∈ insertSorted compare x start.val, compare x y = .eq :=
        exists_mem_insertSorted x start.val
      have kept : y ∈ (insertAll (insert compare start x) rest).val :=
        mem_insertAll_of_mem inserted
      exact ⟨y, kept, same⟩
    · exact ih member

/-- Values that go on increasing are put at the end. -/
theorem val_insertAll (ascending : Ascending compare (start.val ++ xs)) :
    (insertAll start xs).val = start.val ++ xs := by
  induction xs generalizing start with
  | nil => exact (List.append_nil _).symm
  | cons x rest ih =>
    have last : insertSorted compare x start.val = start.val ++ [x] :=
      insertSorted_of_last fun y member =>
        (List.pairwise_append.1 ascending).2.2 y member x List.mem_cons_self
    have step : start.val ++ x :: rest = insertSorted compare x start.val ++ rest := by
      rw [last, List.append_assoc, List.singleton_append]
    rw [step] at ascending ⊢
    exact ih ascending

end InsertAll

/-- What is in the set of a list is in the list. -/
theorem mem_ofList {x : α} {xs : List α} (member : x ∈ (ofList compare xs).val) : x ∈ xs :=
  (mem_insertAll member).resolve_left List.not_mem_nil

/-- Of every value of a list there is an equal one in the set. -/
theorem exists_mem_ofList {x : α} {xs : List α} (member : x ∈ xs) :
    ∃ y ∈ (ofList compare xs).val, compare x y = .eq :=
  exists_mem_insertAll member

/-- A set is that of its values. -/
theorem ofList_val (s : Sorted compare) : ofList compare s.val = s :=
  Subtype.ext (val_insertAll s.property)

end Listing.Sorted
