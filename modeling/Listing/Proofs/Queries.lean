import Mathlib
import Listing.Proofs.Outcomes
import Listing.Store

/-!
# What a store finds

A store decodes a whole table for every query, and then looks for the records for which the criteria
hold.  If all documents of the table are records of the type asked for, both queries are about
the same list of records.

* `Store.Decodable` says that a table can be read, and `Store.found` is what is found in it;
* `Store.select_eq` and `Store.count_eq` say what the store answers then.
-/

namespace Listing

/-- Every document of the table of a type of records is such a record. -/
def Store.Decodable (s : Store) (entity : RecordType) : Prop :=
  ∀ j ∈ s.documents entity.table, ∃ r, Store.decode entity j = .ok r

instance (s : Store) (entity : RecordType) : Decidable (s.Decodable entity) :=
  decidable_of_iff
    ((s.documents entity.table).all fun j => (Store.decode entity j).toOption.isSome)
    (by simp only [List.all_eq_true, toOption_isSome_iff, Store.Decodable])

/-- The records of a table for which criteria hold, in the order in which they are stored. -/
def Store.found (s : Store) (entity : RecordType) (criteria : Criteria) : List Record :=
  ((s.documents entity.table).filterMap fun j => (Store.decode entity j).toOption).filter
    fun r => criteria.all fun c => c.holds (r.value? c.field)

theorem Criteria.accepts_matcher (criteria : Criteria) (value? : String → Option Value) :
    criteria.matcher.accepts value? = criteria.all fun c => c.holds (value? c.field) := by
  simp only [Criteria.matcher, Matcher.accepts, List.all_map]
  rfl

/-- Where all documents can be read, the records for which criteria hold are found. -/
theorem Store.matching_eq {s : Store} {entity : RecordType} (decodable : s.Decodable entity)
    (criteria : Criteria) : s.matching entity criteria = .ok (s.found entity criteria) := by
  unfold Store.matching
  rw [mapM_ok_of_forall decodable]
  simp only [Criteria.accepts_matcher]
  rfl

/-- Where all documents can be read, a page is cut out of the records found, once these are
in order. -/
theorem Store.select_eq {s : Store} {entity : RecordType} (decodable : s.Decodable entity)
    (criteria : Criteria) (p : Pageable) :
    s.select entity criteria p = (Store.arranged entity p (s.found entity criteria)).map
      fun records => .ok ((records.drop p.offset.val).take p.size.val) := by
  unfold Store.select
  rw [Store.matching_eq decodable]

/-- Where all documents can be read, the records found are counted. -/
theorem Store.count_eq {s : Store} {entity : RecordType} (decodable : s.Decodable entity)
    (criteria : Criteria) :
    s.count entity criteria = .ok (.saturating (s.found entity criteria).length) := by
  unfold Store.count
  rw [Store.matching_eq decodable]
  rfl

end Listing
