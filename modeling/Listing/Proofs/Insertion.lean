import Mathlib
import Listing.Proofs.Paging
import Listing.Proofs.RecordStorage
import Listing.Proofs.SortedPairs

/-!
# Inserted records

A store keeps the document of a record that is inserted and decodes it for every query.  So an
inserted record is found again, behind those from before, if its values survive being stored, and
a value that cannot be read at all makes every later query of the table fail.

* `Store.matching_eq_ok_iff` says when a table is read and as which records;
* `Store.ShowsInserted` says that a store shows a record behind those it had;
* `Store.insert_showsInserted_iff` is the theorem about all stores and records.
-/

namespace Listing

namespace Store

variable {s : Store} {entity : RecordType} {r : Record}

/-! ## Reading a table -/

@[simp] theorem documents_insert (s : Store) (table : String) (r : Record) :
    (s.insert table r).documents table = s.documents table ++ [document r] := by
  rw [insert, documents, Keyed.get?, Keyed.insert, lookup_insertEntry]
  rfl

/-- The documents of the table of a type of records are read as these records. -/
def ReadAs (s : Store) (entity : RecordType) (records : List Record) : Prop :=
  (s.documents entity.table).mapM (decode entity) = .ok records

/-- A query succeeds if and only if the table is read. -/
theorem matching_eq_ok_iff {criteria : Criteria} {found : List Record} :
    s.matching entity criteria = .ok found ↔
      ∃ records, s.ReadAs entity records ∧
        found = records.filter fun r => criteria.all fun c => c.holds (r.value? c.field) := by
  unfold matching
  simp only [Criteria.accepts_matcher]
  constructor
  · intro ok
    obtain ⟨records, read, ok⟩ := bind_eq_ok.1 ok
    exact ⟨records, read, (Except.ok.inj ok).symm⟩
  · rintro ⟨records, read, rfl⟩
    exact bind_eq_ok.2 ⟨records, read, rfl⟩

/-- Without criteria all records of a table are found, if they can be read. -/
theorem matching_nil_eq_ok_iff {found : List Record} :
    s.matching entity [] = .ok found ↔ s.ReadAs entity found := by
  rw [matching_eq_ok_iff]
  simp

theorem ReadAs.of_count {criteria : Criteria} {total : Count}
    (counted : s.count entity criteria = .ok total) : ∃ records, s.ReadAs entity records := by
  obtain ⟨found, matched, -⟩ := bind_eq_ok.1 counted
  obtain ⟨records, read, -⟩ := matching_eq_ok_iff.1 matched
  exact ⟨records, read⟩

theorem ReadAs.of_select {criteria : Criteria} {p : Pageable} {page : List Record}
    (selected : s.select entity criteria p = some (.ok page)) :
    ∃ records, s.ReadAs entity records := by
  cases matched : s.matching entity criteria with
  | error failure =>
    rw [select, matched] at selected
    cases selected
  | ok found =>
    obtain ⟨records, read, -⟩ := matching_eq_ok_iff.1 matched
    exact ⟨records, read⟩

/-- Without criteria all records are counted, if they can be read. -/
theorem count_nil_eq_ok_iff {total : Count} :
    s.count entity [] = .ok total ↔
      ∃ records, s.ReadAs entity records ∧ total = .saturating records.length := by
  constructor
  · intro counted
    obtain ⟨records, matched, ok⟩ := bind_eq_ok.1 counted
    exact ⟨records, matching_nil_eq_ok_iff.1 matched, (Except.ok.inj ok).symm⟩
  · rintro ⟨records, read, rfl⟩
    exact bind_eq_ok.2 ⟨records, matching_nil_eq_ok_iff.2 read, rfl⟩

/-- An unsorted first page with room for all records shows all of them. -/
theorem select_nil_eq_ok {records : List Record} (read : s.ReadAs entity records) {p : Pageable}
    (unsorted : p.sort = none) (first : p.offset.val = 0) (room : records.length ≤ p.size.val) :
    s.select entity [] p = some (.ok records) := by
  have asStored : arranged entity p records = some records := by rw [arranged, unsorted]
  rw [select, matching_nil_eq_ok_iff.2 read]
  dsimp only
  rw [asStored, Option.map_some, first, List.drop_zero, List.take_of_length_le room]

/-! ## Inserting -/

/-- A table is read after an insertion if it was before and the new document is. -/
theorem readAs_insert_iff {records : List Record} :
    (s.insert entity.table r).ReadAs entity records ↔
      ∃ before last, s.ReadAs entity before ∧ decode entity (document r) = .ok last ∧
        records = before ++ [last] := by
  rw [ReadAs, documents_insert, List.mapM_append]
  constructor
  · intro ok
    obtain ⟨before, read, ok⟩ := bind_eq_ok.1 ok
    obtain ⟨behind, readLast, ok⟩ := bind_eq_ok.1 ok
    obtain ⟨last, decoded, readLast⟩ := bind_eq_ok.1 readLast
    obtain rfl := Except.ok.inj readLast
    exact ⟨before, last, read, decoded, (Except.ok.inj ok).symm⟩
  · rintro ⟨before, last, read, decoded, rfl⟩
    exact bind_eq_ok.2 ⟨before, read, bind_eq_ok.2 ⟨[last], bind_eq_ok.2 ⟨last, decoded, rfl⟩, rfl⟩⟩

/-- The stored document of a record is read as this record exactly if all its values survive. -/
theorem decode_document_iff (typed : r.schema = entity.schema)
    (distinct : (entity.schema.all.map (·.name)).Nodup) :
    decode entity (document r) = .ok r ↔ ∀ a ∈ r.all, a.field.type.Survives a.value := by
  rw [← Record.decode_kept_iff (typed ▸ distinct) .tree, typed]
  exact mapError_eq_ok

/-- If anything is read of the stored document of a record, all its values are readable. -/
theorem readable_of_decode_document (typed : r.schema = entity.schema)
    (distinct : (entity.schema.all.map (·.name)).Nodup) {r' : Record}
    (read : decode entity (document r) = .ok r') : ∀ a ∈ r.all, a.field.type.Readable a.value := by
  have decoded : Record.decode r.schema .tree r.encode.kept = .ok r' :=
    typed ▸ mapError_eq_ok.1 read
  exact Record.readable_of_decode (typed ▸ distinct) decoded

/-- After a record is inserted, the store counts one record more, and an unsorted page with room
for all shows the record behind those from before. -/
def ShowsInserted (s : Store) (entity : RecordType) (r : Record) (n : Count) : Prop :=
  (∃ total, (s.insert entity.table r).count entity [] = .ok total ∧ total.val = n.val + 1) ∧
    ∀ p : Pageable, p.sort = none → p.offset.val = 0 → n.val + 1 ≤ p.size.val →
      ∃ before, s.select entity [] p = some (.ok before) ∧ before.length = n.val ∧
        (s.insert entity.table r).select entity [] p = some (.ok (before ++ [r]))

/-- **An inserted record is found again exactly if its values survive.**  In every store that
counts the records of a type, an inserted record of this type is counted and shown as it is if and
only if each of its values is one that comes back.  If one of them cannot be read at all, every
later query of the table fails. -/
theorem insert_showsInserted_iff (distinct : (entity.schema.all.map (·.name)).Nodup)
    (typed : r.schema = entity.schema) {n : Count} (counted : s.count entity [] = .ok n)
    (room : n.val + 1 < 18446744073709551616) :
    (s.ShowsInserted entity r n ↔ ∀ a ∈ r.all, a.field.type.Survives a.value) ∧
      ((∃ a ∈ r.all, ¬ a.field.type.Readable a.value) → ∀ criteria : Criteria,
        (∀ total, (s.insert entity.table r).count entity criteria ≠ .ok total) ∧
        ∀ p page, (s.insert entity.table r).select entity criteria p ≠ some (.ok page)) := by
  obtain ⟨before, read, rfl⟩ := count_nil_eq_ok_iff.1 counted
  have least : (Count.saturating before.length).val = min before.length 18446744073709551615 := rfl
  have length : (Count.saturating before.length).val = before.length := by omega
  rw [← decode_document_iff typed distinct, ShowsInserted, length]
  rw [length] at room
  refine ⟨⟨?_, ?_⟩, ?_⟩
  · rintro ⟨-, shown⟩
    -- A page with room for exactly one record more shows the whole table, before and after.
    have offset : (Pageable.offset ⟨⟨0, by decide⟩, ⟨before.length + 1, room⟩, none⟩).val = 0 := by
      simp [Pageable.offset, Count.saturating]
    obtain ⟨records, selected, -, selectedLater⟩ := shown _ rfl offset le_rfl
    obtain rfl : before = records := Except.ok.inj (Option.some.inj
      ((select_nil_eq_ok read rfl offset (Nat.le_succ _)).symm.trans selected))
    obtain ⟨later, readLater⟩ := ReadAs.of_select selectedLater
    obtain ⟨before', last, read', decoded, rfl⟩ := readAs_insert_iff.1 readLater
    obtain rfl : before = before' := Except.ok.inj (read.symm.trans read')
    have all := select_nil_eq_ok readLater rfl offset (by simp)
    have same := Except.ok.inj (Option.some.inj (all.symm.trans selectedLater))
    obtain rfl : last = r := by simpa using same
    exact decoded
  · intro decoded
    have readLater := readAs_insert_iff.2 ⟨before, r, read, decoded, rfl⟩
    refine ⟨⟨_, count_nil_eq_ok_iff.2 ⟨_, readLater, rfl⟩, ?_⟩, fun p unsorted first fits => ?_⟩
    · rw [List.length_append, List.length_singleton, Count.val_saturating room]
    · refine ⟨before, select_nil_eq_ok read unsorted first (by omega), rfl, ?_⟩
      exact select_nil_eq_ok readLater unsorted first (by simpa using fits)
  · rintro ⟨a, member, unreadable⟩ criteria
    have unread {records : List Record} : ¬ (s.insert entity.table r).ReadAs entity records := by
      intro readLater
      obtain ⟨-, last, -, decoded, -⟩ := readAs_insert_iff.1 readLater
      exact unreadable (readable_of_decode_document typed distinct decoded a member)
    refine ⟨fun total counted => ?_, fun p page selected => ?_⟩
    · obtain ⟨records, readLater⟩ := ReadAs.of_count counted
      exact unread readLater
    · obtain ⟨records, readLater⟩ := ReadAs.of_select selected
      exact unread readLater

/-! ## Gauges -/

/-- Gauges are devices with a reading, and perhaps with a limit. -/
def gauge : RecordType :=
  ⟨(Chain.single "Device" [⟨"serial", .atom .uuid, []⟩]).extending "Gauge"
    [⟨"reading", .single, []⟩, ⟨"limit", .optional .double, []⟩], "gauges", 40⟩

/-- The gauge with the serial number seven and a limit of a hundred. -/
def gaugeReading (reading : Single) : Record :=
  (Chain.single "Device" [⟨⟨"serial", .atom .uuid, []⟩, ⟨7, by decide⟩⟩]).extending "Gauge"
    [⟨⟨"reading", .single, []⟩, reading⟩, ⟨⟨"limit", .optional .double, []⟩, some (.ofInt 100)⟩]

theorem survives_gaugeReading {reading : Single} (finite : reading.isFinite = true) :
    ∀ a ∈ (gaugeReading reading).all, a.field.type.Survives a.value := by
  have limit : (Binary.ofInt 100 : Double).isFinite = true := by decide +kernel
  have notNull : (Doc.ofDouble (.ofInt 100)).value ≠ .null := by
    rw [Doc.ofDouble, dif_pos limit]
    intro same
    cases same
  have all : (gaugeReading reading).all =
      [⟨⟨"reading", .single, []⟩, reading⟩, ⟨⟨"limit", .optional .double, []⟩, some (.ofInt 100)⟩,
        ⟨⟨"serial", .atom .uuid, []⟩, ⟨7, by decide⟩⟩] := rfl
  rw [all]
  simp only [List.forall_mem_cons]
  exact ⟨finite, ⟨limit, notNull⟩, trivial, List.forall_mem_nil _⟩

/-- A store with one gauge. -/
def gaugeStore : Store := empty.insert "gauges" (gaugeReading (.ofInt 20))

theorem gaugeStore_count : gaugeStore.count gauge [] = .ok ⟨1, by decide⟩ := by
  have finite : (Binary.ofInt 20 : Single).isFinite = true := by decide +kernel
  have distinct : (gauge.schema.all.map (·.name)).Nodup := by decide
  have decoded : decode gauge (document (gaugeReading (.ofInt 20))) =
      .ok (gaugeReading (.ofInt 20)) :=
    (decode_document_iff rfl distinct).2 (survives_gaugeReading finite)
  have read : empty.ReadAs gauge [] := rfl
  exact count_nil_eq_ok_iff.2 ⟨_, readAs_insert_iff.2 ⟨[], _, read, decoded, rfl⟩, rfl⟩

/-- Another gauge with a finite reading is found behind the first one; one whose reading was too
great for a number makes the store unreadable. -/
theorem insert_showsInserted_gauge :
    (gauge.schema.all.map (·.name)).Nodup ∧
      (∀ reading, (gaugeReading reading).schema = gauge.schema) ∧
      gaugeStore.count gauge [] = .ok ⟨1, by decide⟩ ∧
      gaugeStore.ShowsInserted gauge (gaugeReading (.ofInt 30)) ⟨1, by decide⟩ ∧
      ¬ gaugeStore.ShowsInserted gauge (gaugeReading (.infinite false)) ⟨1, by decide⟩ ∧
      ∀ total, (gaugeStore.insert "gauges" (gaugeReading (.infinite false))).count gauge [] ≠
        .ok total := by
  have distinct : (gauge.schema.all.map (·.name)).Nodup := by decide
  have finite : (Binary.ofInt 30 : Single).isFinite = true := by decide +kernel
  have infinite : ¬ (Binary.infinite false : Single).isFinite = true := by decide +kernel
  have kept := insert_showsInserted_iff (r := gaugeReading (.ofInt 30)) distinct rfl
    gaugeStore_count (by decide)
  have lost := insert_showsInserted_iff (r := gaugeReading (.infinite false)) distinct rfl
    gaugeStore_count (by decide)
  refine ⟨distinct, fun _ => rfl, gaugeStore_count, kept.1.2 (survives_gaugeReading finite),
    fun shown => ?_, ?_⟩
  · exact infinite (lost.1.1 shown _ List.mem_cons_self)
  · exact (lost.2 ⟨_, List.mem_cons_self, infinite⟩ []).1

/-- Not every inserted record is found again. -/
theorem not_forall_showsInserted :
    ¬ ∀ (s : Store) (entity : RecordType) (r : Record) (n : Count),
      (entity.schema.all.map (·.name)).Nodup → r.schema = entity.schema →
      s.count entity [] = .ok n → n.val + 1 < 18446744073709551616 →
      s.ShowsInserted entity r n := by
  intro always
  have infinite : ¬ (Binary.infinite false : Single).isFinite = true := by decide +kernel
  have distinct : (gauge.schema.all.map (·.name)).Nodup := by decide
  obtain ⟨⟨total, counted, -⟩, -⟩ := always gaugeStore gauge (gaugeReading (.infinite false))
    ⟨1, by decide⟩ distinct rfl gaugeStore_count (by decide)
  obtain ⟨records, read⟩ := ReadAs.of_count counted
  obtain ⟨-, last, -, decoded, -⟩ := readAs_insert_iff.1 read
  exact infinite (readable_of_decode_document rfl distinct decoded _ List.mem_cons_self)

end Store

end Listing
