/-!
# Lists sorted by key

Pairs of a text and something else, in increasing order of the texts and with no
text twice.  `Keyed.insertEntry` puts a pair in its place, where it replaces the
pair that had its text before.
-/

namespace Listing

/-- Put a pair in its place in a sorted list; a pair with the same text is replaced. -/
def insertEntry {α : Type} (key : String) (value : α) : List (String × α) → List (String × α)
  | [] => [(key, value)]
  | (k, v) :: rest =>
    if key < k then (key, value) :: (k, v) :: rest
    else if key = k then (key, value) :: rest
    else (k, v) :: insertEntry key value rest

/-- Texts increase along the list. -/
abbrev Increasing {α : Type} (entries : List (String × α)) : Prop :=
  entries.Pairwise fun a b => a.1 < b.1

theorem mem_insertEntry {α : Type} {key : String} {value : α} {entries : List (String × α)}
    {p : String × α} (h : p ∈ insertEntry key value entries) :
    p = (key, value) ∨ p ∈ entries := by
  induction entries with
  | nil => simpa [insertEntry] using h
  | cons e rest ih =>
    obtain ⟨k, v⟩ := e
    simp only [insertEntry] at h
    split at h
    · simpa using h
    · split at h
      · rcases List.mem_cons.1 h with h | h
        · exact .inl h
        · exact .inr (List.mem_cons_of_mem _ h)
      · rcases List.mem_cons.1 h with h | h
        · exact .inr (h ▸ List.mem_cons_self)
        · exact (ih h).imp id (List.mem_cons_of_mem _)

theorem increasing_insertEntry {α : Type} {key : String} {value : α}
    {entries : List (String × α)} (h : Increasing entries) :
    Increasing (insertEntry key value entries) := by
  induction entries with
  | nil => simp [insertEntry, Increasing]
  | cons e rest ih =>
    obtain ⟨k, v⟩ := e
    obtain ⟨first, tail⟩ := List.pairwise_cons.1 h
    simp only [insertEntry]
    split
    · rename_i below
      refine List.pairwise_cons.2 ⟨fun p hp => ?_, h⟩
      rcases List.mem_cons.1 hp with hp | hp
      · exact hp ▸ below
      · exact String.lt_trans below (first p hp)
    · rename_i notBelow
      split
      · rename_i equal
        exact List.pairwise_cons.2 ⟨fun p hp => equal ▸ first p hp, tail⟩
      · rename_i different
        refine List.pairwise_cons.2 ⟨fun p hp => ?_, ih tail⟩
        rcases mem_insertEntry hp with hp | hp
        · refine hp ▸ (Std.lt_of_le_of_ne (String.not_lt.1 notBelow) fun eq => different eq.symm)
        · exact first p hp

/-- Pairs sorted by their texts. -/
structure Keyed (α : Type) where
  entries : List (String × α)
  increasing : Increasing entries

namespace Keyed

variable {α : Type}

/-- No pairs. -/
def empty : Keyed α := ⟨[], List.Pairwise.nil⟩

/-- Add a pair, in place of one with the same text. -/
def insert (m : Keyed α) (key : String) (value : α) : Keyed α :=
  ⟨insertEntry key value m.entries, increasing_insertEntry m.increasing⟩

/-- Take the pair with a text out. -/
def erase (m : Keyed α) (key : String) : Keyed α :=
  ⟨m.entries.filter (·.1 ≠ key), m.increasing.filter _⟩

/-- What is paired with a text. -/
def get? (m : Keyed α) (key : String) : Option α := m.entries.lookup key

/-- Pairs in any order, the last one with a text counting. -/
def ofList (entries : List (String × α)) : Keyed α :=
  entries.foldl (fun m e => m.insert e.1 e.2) empty

end Keyed

end Listing
