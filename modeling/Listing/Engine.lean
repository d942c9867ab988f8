import Listing.Criteria
import Listing.Page

/-!
# Engines

An engine answers compiled criteria from some source of records.  Both of its
operations apply the same criteria, so that a page and the total agree.  The store in
memory is the only one here: an engine that has a database server answer is left out.
-/

namespace Listing

/-- Answers to criteria, with effects `μ`. -/
structure Engine (μ : Type → Type) where
  /-- The records of one page. -/
  select : RecordType → Criteria → Pageable → μ (Except Failure (List Record))
  /-- The number of all records for which criteria hold. -/
  count : RecordType → Criteria → μ (Except Failure Count)

end Listing
