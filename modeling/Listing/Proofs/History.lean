import Mathlib
import Listing.Proofs.Insertion

/-!
# What becomes of a store

A store is changed through types of records, several of which may have one table.  Whatever
changes there have been, a table holds the documents of the records that were inserted since it
was last cleared, in their order, and nothing that happens to another table makes a difference.

* `Store.Change` is a change, and `Store.after` the store that changes leave behind;
* `Store.insertedSince` picks out of a history what a table should hold;
* `Store.documents_apply` is what one change does, `Store.documents_after` what all of them did;
* `Store.after_holds` draws the conclusions for queries.
-/

namespace Listing

namespace Store

/-- A change of a store through a type of records. -/
inductive Change where
  | insert (entity : RecordType) (r : Record)
  | insertAll (entity : RecordType) (rs : List Record)
  | clear (entity : RecordType)

namespace Change

/-- The table that changes. -/
def table : Change → String
  | insert entity _ | insertAll entity _ | clear entity => entity.table

/-- The records that come in. -/
def inserted : Change → List Record
  | insert _ r => [r]
  | insertAll _ rs => rs
  | clear _ => []

/-- All records of the table go. -/
def isClear : Change → Bool
  | clear _ => true
  | _ => false

/-- Make a change. -/
def apply (s : Store) : Change → Store
  | insert entity r => s.insert entity.table r
  | insertAll entity rs => s.insertAll entity.table rs
  | clear entity => s.clear entity.table

end Change

/-- The store that changes make of an empty one. -/
def after (changes : List Change) : Store := changes.foldl Change.apply empty

/-- The records that changes have inserted into a table since the last one that cleared it. -/
def insertedSince (table : String) (changes : List Change) : List Record :=
  ((changes.filter (·.table = table)).rtakeWhile (!·.isClear)).flatMap Change.inserted

/-! ## One change -/

variable {s : Store} {table other : String}

theorem get?_insert_of_ne (apart : other ≠ table) (s : Store) (r : Record) :
    (s.insert table r).tables.get? other = s.tables.get? other :=
  (Keyed.get?_insert ..).trans (if_neg apart)

theorem get?_insertAll_of_ne (apart : other ≠ table) (s : Store) (rs : List Record) :
    (s.insertAll table rs).tables.get? other = s.tables.get? other := by
  induction rs generalizing s with
  | nil => rfl
  | cons r rest ih => exact (ih (s.insert table r)).trans (get?_insert_of_ne apart s r)

/-- Records that come in together are appended in their order. -/
theorem documents_insertAll (s : Store) (table : String) (rs : List Record) :
    (s.insertAll table rs).documents table = s.documents table ++ rs.map document := by
  induction rs generalizing s with
  | nil => exact (List.append_nil _).symm
  | cons r rest ih =>
    refine (ih (s.insert table r)).trans ?_
    rw [documents_insert, List.append_assoc, List.map_cons, List.singleton_append]

/-- Nothing is left of a table that is cleared. -/
theorem documents_clear (s : Store) (table : String) : (s.clear table).documents table = [] := by
  rw [clear, documents, Keyed.get?_erase, if_pos rfl, Option.getD_none]

/-- A change of one table leaves the others alone. -/
theorem get?_apply_of_ne {c : Change} (apart : other ≠ c.table) (s : Store) :
    (c.apply s).tables.get? other = s.tables.get? other := by
  cases c with
  | insert entity r => exact get?_insert_of_ne apart s r
  | insertAll entity rs => exact get?_insertAll_of_ne apart s rs
  | clear entity => exact (Keyed.get?_erase ..).trans (if_neg apart)

/-- A change leaves what was in its table, unless it clears it, with what it inserts behind. -/
theorem documents_apply (s : Store) (c : Change) :
    (c.apply s).documents c.table =
      (if c.isClear then [] else s.documents c.table) ++ c.inserted.map document := by
  cases c with
  | insert entity r => exact documents_insert s entity.table r
  | insertAll entity rs => exact documents_insertAll s entity.table rs
  | clear entity => exact documents_clear s entity.table

/-- One more change adds to what its table should hold, or starts it anew. -/
theorem insertedSince_concat (table : String) (changes : List Change) (c : Change) :
    insertedSince table (changes ++ [c]) =
      if c.table = table then
        (if c.isClear then [] else insertedSince table changes) ++ c.inserted
      else insertedSince table changes := by
  unfold insertedSince
  rw [List.filter_append, List.filter_singleton]
  by_cases here : c.table = table
  · rw [if_pos here, decide_eq_true here, cond_true]
    cases c with
    | clear entity => rw [List.rtakeWhile_concat_neg _ _ _ (by simp [Change.isClear])]; rfl
    | insert | insertAll =>
      rw [List.rtakeWhile_concat_pos _ _ _ rfl, List.flatMap_append, List.flatMap_singleton]
      rfl
  · rw [if_neg here, decide_eq_false here, cond_false, List.append_nil]

/-! ## All changes -/

/-- A table holds what was inserted since it was last cleared. -/
theorem documents_after (changes : List Change) (table : String) :
    (after changes).documents table = (insertedSince table changes).map document := by
  induction changes using List.reverseRecOn with
  | nil => rfl
  | append_singleton changes c ih =>
    rw [after, List.foldl_append, ← after, List.foldl_cons, List.foldl_nil, insertedSince_concat]
    by_cases here : c.table = table
    · subst here
      rw [documents_apply, if_pos rfl, ih, List.map_append]
      cases c.isClear <;> rfl
    · rw [if_neg here, documents, get?_apply_of_ne (Ne.symm here), ← documents, ih]

/-- The length of a table is the number of records inserted since it was cleared. -/
theorem length_after (changes : List Change) (table : String) :
    (after changes).length table = (insertedSince table changes).length := by
  rw [length, documents_after, List.length_map]

/-- A table that can be read shows, record by record, what was inserted. -/
theorem exists_readAs_after {changes : List Change} {entity : RecordType}
    (decodable : (after changes).Decodable entity) :
    ∃ records, (after changes).ReadAs entity records ∧
      List.Forall₂ (fun r shown => decode entity (document r) = .ok shown)
        (insertedSince entity.table changes) records := by
  obtain ⟨records, read⟩ : ∃ records, (after changes).ReadAs entity records :=
    ⟨_, mapM_ok_of_forall decodable⟩
  have shown := mapM_eq_ok_iff_forall₂.1 read
  rw [documents_after, List.forall₂_map_left_iff] at shown
  exact ⟨records, read, shown⟩

/-- **A store is what its history says.**  After any changes every table holds the documents of
the records inserted since it was last cleared, in their order; another change leaves the other
tables as they are; and as long as a table can be read, all of it is shown in this order and
counted. -/
theorem after_holds (changes : List Change) :
    (∀ table, (after changes).documents table = (insertedSince table changes).map document ∧
      (after changes).length table = (insertedSince table changes).length) ∧
    (∀ (c : Change) (other : String), other ≠ c.table →
      (c.apply (after changes)).tables.get? other = (after changes).tables.get? other) ∧
    ∀ entity : RecordType, (after changes).Decodable entity →
      ∃ records,
        List.Forall₂ (fun r shown => decode entity (document r) = .ok shown)
          (insertedSince entity.table changes) records ∧
        ∀ p : Pageable, p.sort = none → p.offset.val = 0 →
          (after changes).length entity.table ≤ p.size.val →
            (after changes).select entity [] p = some (.ok records) ∧
              ∃ total, (after changes).count entity [] = .ok total ∧
                total.val = (after changes).length entity.table := by
  refine ⟨fun table => ⟨documents_after changes table, length_after changes table⟩,
    fun c other apart => get?_apply_of_ne apart _, fun entity decodable => ?_⟩
  obtain ⟨records, read, shown⟩ := exists_readAs_after decodable
  have length : (after changes).length entity.table = records.length :=
    (length_after changes entity.table).trans shown.length_eq
  refine ⟨records, shown, fun p unsorted first room => ?_⟩
  rw [length] at room ⊢
  -- a page that holds all of them has a size the count can reach
  exact ⟨select_nil_eq_ok read unsorted first room, _,
    count_nil_eq_ok_iff.2 ⟨records, read, rfl⟩,
    Count.val_saturating (room.trans_lt p.size.property)⟩

/-- A product as it once was. -/
def legacyProduct (name sku : String) : Record :=
  .single "Legacy" [⟨Catalogue.field "name" Catalogue.text, name⟩,
    ⟨Catalogue.field "sku" Catalogue.text, sku⟩]

/-- A product is inserted and the products are cleared as what they are now; then two products
come in as they once were, with a gauge between them. -/
def clearance : List Change :=
  [.insert Catalogue.legacy (legacyProduct "Lamp" "L1"), .clear Catalogue.product,
    .insertAll Catalogue.legacy [legacyProduct "Desk" "D1"],
    .insert gauge (gaugeReading (.ofInt 20)), .insert Catalogue.legacy (legacyProduct "Chair" "C1")]

theorem decode_legacyProduct (name sku : String) :
    decode Catalogue.legacy (document (legacyProduct name sku)) = .ok (legacyProduct name sku) := by
  refine (decode_document_iff rfl (by decide)).2 ?_
  exact List.forall_mem_cons.2 ⟨trivial, List.forall_mem_singleton.2 trivial⟩

theorem after_holds_clearance :
    (after clearance).Decodable Catalogue.legacy ∧
      (after clearance).length "products" = 2 ∧ (after clearance).length "gauges" = 1 ∧
      (after clearance).select Catalogue.legacy [] PageRequest.defaults.toPageable =
        some (.ok [legacyProduct "Desk" "D1", legacyProduct "Chair" "C1"]) ∧
      ((Change.clear gauge).apply (after clearance)).length "products" = 2 := by
  obtain ⟨tables, others, queries⟩ := after_holds clearance
  have decodable : (after clearance).Decodable Catalogue.legacy := by decide
  have since : insertedSince Catalogue.legacy.table clearance =
      [legacyProduct "Desk" "D1", legacyProduct "Chair" "C1"] := rfl
  have two : (after clearance).length Catalogue.legacy.table = 2 :=
    (tables Catalogue.legacy.table).2.trans (congrArg List.length since)
  obtain ⟨records, shown, page⟩ := queries Catalogue.legacy decodable
  have kept := others (.clear gauge) "products" (by decide)
  refine ⟨decodable, two, (tables "gauges").2, ?_, ?_⟩
  · rw [since] at shown
    obtain ⟨desk, _, first, rest, rfl⟩ := List.forall₂_cons_left_iff.1 shown
    obtain ⟨chair, _, second, none, rfl⟩ := List.forall₂_cons_left_iff.1 rest
    obtain rfl := List.forall₂_nil_left_iff.1 none
    rw [decode_legacyProduct] at first second
    rw [Except.ok.inj first, Except.ok.inj second]
    exact (page _ rfl rfl (two.trans_le (by decide))).1
  · rw [length, documents, kept]
    exact two

end Store

end Listing
