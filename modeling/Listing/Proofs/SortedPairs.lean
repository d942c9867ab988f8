import Mathlib
import Listing.Keyed
import Listing.Proofs.Documents

/-!
# Looking up sorted pairs

Sorted pairs are known by what they give for each text: an insertion changes that for one text
alone, so that insertions under different texts can be exchanged, and the last one under a text
is the one that counts.

* `Keyed.get?_insert` says what an insertion changes, and `Keyed.get?_erase` what a removal does;
* `Keyed.ext_get?` says that nothing else is to be known of sorted pairs.
-/

namespace Listing

section Lookup

variable {α : Type}

/-- One step of a lookup, as a choice between two outcomes. -/
theorem lookup_cons_eq_ite (key k : String) (v : α) (rest : List (String × α)) :
    List.lookup key ((k, v) :: rest) = if key = k then some v else rest.lookup key := by
  rw [List.lookup_cons]
  by_cases same : key = k
  · rw [if_pos same, beq_iff_eq.2 same]
  · rw [if_neg same, beq_eq_false_iff_ne.2 same]

theorem lookup_insertEntry (key : String) (value : α) (entries : List (String × α)) :
    (insertEntry key value entries).lookup key = some value := by
  induction entries with
  | nil => rw [insertEntry, lookup_cons_eq_ite, if_pos rfl]
  | cons e rest ih =>
    rw [insertEntry]
    split_ifs with below same
    · rw [lookup_cons_eq_ite, if_pos rfl]
    · rw [lookup_cons_eq_ite, if_pos rfl]
    · rw [lookup_cons_eq_ite, if_neg same, ih]

/-- An insertion under one text changes nothing under the others. -/
theorem lookup_insertEntry_of_ne {key other : String} (apart : other ≠ key) (value : α)
    (entries : List (String × α)) :
    (insertEntry key value entries).lookup other = entries.lookup other := by
  induction entries with
  | nil => rw [insertEntry, lookup_cons_eq_ite, if_neg apart]
  | cons e rest ih =>
    rw [insertEntry]
    split_ifs with below same
    · rw [lookup_cons_eq_ite, if_neg apart]
    · rw [lookup_cons_eq_ite, if_neg apart, lookup_cons_eq_ite, if_neg (same ▸ apart)]
    · rw [lookup_cons_eq_ite, lookup_cons_eq_ite, ih]

/-- In a list that increases strictly a lookup finds every pair, since no text stands in two of
them. -/
theorem lookup_eq_some_iff_of_increasing {entries : List (String × α)}
    (sorted : Increasing entries) {key : String} {value : α} :
    entries.lookup key = some value ↔ (key, value) ∈ entries := by
  induction entries with
  | nil => simp
  | cons e rest ih =>
    obtain ⟨k, v⟩ := e
    obtain ⟨first, tail⟩ := List.pairwise_cons.1 sorted
    rw [lookup_cons_eq_ite, List.mem_cons]
    by_cases same : key = k
    · subst same
      have fresh : (key, value) ∉ rest := fun member =>
        String.lt_irrefl key (first (key, value) member)
      simp [fresh, eq_comm]
    · simp [same, ih tail]

/-- Nothing is found under a text whose pairs are left out. -/
theorem lookup_filter_ne_self (key : String) (entries : List (String × α)) :
    (entries.filter (·.1 ≠ key)).lookup key = none := by
  refine List.lookup_eq_none_iff.2 fun e member => ?_
  have kept : e.1 ≠ key := of_decide_eq_true (List.mem_filter.1 member).2
  exact bne_iff_ne.2 kept.symm

/-- Leaving out the pairs of one text changes nothing under the others. -/
theorem lookup_filter_ne_of_ne {key other : String} (apart : other ≠ key)
    (entries : List (String × α)) :
    (entries.filter (·.1 ≠ key)).lookup other = entries.lookup other := by
  induction entries with
  | nil => rfl
  | cons e rest ih =>
    obtain ⟨k, v⟩ := e
    rw [List.filter_cons, lookup_cons_eq_ite]
    split_ifs with kept same same
    · rw [lookup_cons_eq_ite, if_pos same]
    · rw [lookup_cons_eq_ite, if_neg same, ih]
    · subst same
      simp [apart] at kept
    · exact ih

end Lookup

namespace Keyed

variable {α : Type}

/-- What an insertion changes: the text it is made under, and no other. -/
theorem get?_insert (m : Keyed α) (key other : String) (value : α) :
    (m.insert key value).get? other = if other = key then some value else m.get? other := by
  unfold get? insert
  split_ifs with same
  · rw [same, lookup_insertEntry]
  · rw [lookup_insertEntry_of_ne same]

/-- What a removal changes: the text that is removed, and no other. -/
theorem get?_erase (m : Keyed α) (key other : String) :
    (m.erase key).get? other = if other = key then none else m.get? other := by
  unfold get? erase
  split_ifs with same
  · rw [same, lookup_filter_ne_self]
  · rw [lookup_filter_ne_of_ne same]

/-- Change what is paired with each text. -/
def mapValues {β : Type} (f : String → α → β) (m : Keyed α) : Keyed β where
  entries := m.entries.map fun e => (e.1, f e.1 e.2)
  increasing := List.pairwise_map.2 m.increasing

theorem get?_mapValues {β : Type} (f : String → α → β) (m : Keyed α) (key : String) :
    (m.mapValues f).get? key = (m.get? key).map (f key) := by
  obtain ⟨entries, increasing⟩ := m
  change (entries.map fun e => (e.1, f e.1 e.2)).lookup key = (entries.lookup key).map (f key)
  clear increasing
  induction entries with
  | nil => rfl
  | cons e rest ih =>
    obtain ⟨k, v⟩ := e
    rw [List.map_cons, lookup_cons_eq_ite, lookup_cons_eq_ite, ih]
    split_ifs with same
    · rw [same, Option.map_some]
    · rfl

/-- Sorted pairs that give the same for every text are the same. -/
theorem ext_get? {m m' : Keyed α} (same : ∀ key, m.get? key = m'.get? key) : m = m' := by
  have members : ∀ e : String × α, e ∈ m.entries ↔ e ∈ m'.entries := by
    intro e
    rw [← lookup_eq_some_iff_of_increasing m.increasing,
      ← lookup_eq_some_iff_of_increasing m'.increasing]
    exact Eq.congr_left (same e.1)
  have perm : m.entries.Perm m'.entries :=
    (List.perm_ext_iff_of_nodup (nodup_of_increasing m.increasing).of_map
      (nodup_of_increasing m'.increasing).of_map).2 members
  obtain ⟨entries, increasing⟩ := m
  obtain ⟨entries', increasing'⟩ := m'
  obtain rfl : entries = entries' := eq_of_perm_of_increasing perm increasing increasing'
  rfl

theorem insert_comm {key key' : String} (apart : key ≠ key') (m : Keyed α) (value value' : α) :
    (m.insert key value).insert key' value' = (m.insert key' value').insert key value := by
  refine ext_get? fun other => ?_
  rw [get?_insert, get?_insert, get?_insert, get?_insert]
  split_ifs with same same'
  · exact absurd (same'.symm.trans same) apart
  · rfl
  · rfl
  · rfl

/-- Of two insertions under one text, the later one counts. -/
theorem insert_insert (m : Keyed α) (key : String) (value value' : α) :
    (m.insert key value).insert key value' = m.insert key value' := by
  refine ext_get? fun other => ?_
  rw [get?_insert, get?_insert, get?_insert]
  split_ifs <;> rfl

theorem mapValues_insert {β : Type} (f : String → α → β) (m : Keyed α) (key : String) (value : α) :
    (m.insert key value).mapValues f = (m.mapValues f).insert key (f key value) := by
  refine ext_get? fun other => ?_
  rw [get?_mapValues, get?_insert, get?_insert, get?_mapValues]
  split_ifs with same
  · rw [same, Option.map_some]
  · rfl

theorem entries_foldl_insert (m : Keyed α) (entries : List (String × α)) :
    (entries.foldl (fun m e => m.insert e.1 e.2) m).entries = insertEntries m.entries entries := by
  induction entries generalizing m with
  | nil => rfl
  | cons e rest ih => exact ih (m.insert e.1 e.2)

/-- Sorted pairs are those of the list of them. -/
theorem ofList_entries (m : Keyed α) : ofList m.entries = m := by
  obtain ⟨entries, increasing⟩ := m
  have same := (entries_foldl_insert empty entries).trans (insertEntries_of_increasing increasing)
  change entries.foldl (fun m e => m.insert e.1 e.2) empty = _
  cases kept : entries.foldl (fun m e => m.insert e.1 e.2) empty with
  | mk entries' increasing' =>
    rw [kept] at same
    subst same
    rfl

end Keyed

end Listing
