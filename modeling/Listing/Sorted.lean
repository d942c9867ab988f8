/-!
# Sorted sets

The values of a list in increasing order, each once.  The order is any comparison that
is transitive and turns round with its sides; values that it calls equal are one value.
-/

namespace Listing

section Sorted

variable {α : Type} (compare : α → α → Ordering)

/-- Put a value in its place in a sorted list without repetitions, unless it is there. -/
def insertSorted (x : α) : List α → List α
  | [] => [x]
  | y :: rest =>
    match compare x y with
    | .lt => x :: y :: rest
    | .eq => y :: rest
    | .gt => y :: insertSorted x rest

/-- Values increase along the list. -/
abbrev Ascending (xs : List α) : Prop := xs.Pairwise fun x y => compare x y = .lt

variable {compare}

theorem mem_insertSorted {x y : α} {xs : List α} (h : y ∈ insertSorted compare x xs) :
    y = x ∨ y ∈ xs := by
  induction xs with
  | nil => simpa [insertSorted] using h
  | cons z rest ih =>
    simp only [insertSorted] at h
    split at h
    · simpa using h
    · exact .inr h
    · rcases List.mem_cons.1 h with h | h
      · exact .inr (h ▸ List.mem_cons_self)
      · exact (ih h).imp id (List.mem_cons_of_mem _)

theorem ascending_insertSorted [Std.TransCmp compare] {x : α} {xs : List α}
    (h : Ascending compare xs) : Ascending compare (insertSorted compare x xs) := by
  induction xs with
  | nil => simp [insertSorted, Ascending]
  | cons z rest ih =>
    obtain ⟨first, tail⟩ := List.pairwise_cons.1 h
    simp only [insertSorted]
    split
    · rename_i below
      refine List.pairwise_cons.2 ⟨fun y hy => ?_, h⟩
      rcases List.mem_cons.1 hy with hy | hy
      · exact hy ▸ below
      · exact Std.TransCmp.lt_trans below (first y hy)
    · exact h
    · rename_i above
      refine List.pairwise_cons.2 ⟨fun y hy => ?_, ih tail⟩
      rcases mem_insertSorted hy with hy | hy
      · have turned : compare z x = (compare x z).swap := Std.OrientedCmp.eq_swap
        rw [hy, turned, above]; rfl
      · exact first y hy

variable (compare)

/-- A set of values, in increasing order. -/
abbrev Sorted : Type := { xs : List α // Ascending compare xs }

variable [Std.TransCmp compare]

/-- A set with one more value. -/
def Sorted.insert (s : Sorted compare) (x : α) : Sorted compare :=
  ⟨insertSorted compare x s.val, ascending_insertSorted s.property⟩

/-- The set of the values of a list. -/
def Sorted.ofList (xs : List α) : Sorted compare :=
  xs.foldl (Sorted.insert compare) ⟨[], List.Pairwise.nil⟩

end Sorted

end Listing
