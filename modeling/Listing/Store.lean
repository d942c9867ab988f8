import Listing.Criteria
import Listing.Engine
import Listing.Sorting.Adaptive

/-!
# The store in memory

A store keeps the documents of records, one list for every table, in the order in
which they were inserted.  Records are decoded afresh for every query, and a document
that is no record of the type asked for makes the query fail.

* `Store.insert` and `Store.clear` change a table and leave the others alone;
* `Store.matching` decodes a table and keeps the records for which criteria hold;
* `Store.select` sorts those and cuts a page out of them, `Store.count` counts them.

An integer is rounded when it is compared with a double, and large unsigned ones are stored as
doubles.  So three numbers may compare in a way that contradicts itself, and sorting records by
them can break down without any answer: a selection has no result then, not even a failure.
-/

namespace Listing

/-- Documents by table. -/
structure Store where
  tables : Keyed (List Json)

namespace Store

/-- A store without documents. -/
def empty : Store := ⟨.empty⟩

/-- The documents of a table. -/
def documents (s : Store) (table : String) : List Json := (s.tables.get? table).getD []

/-- The stored form of a record. -/
def document (r : Record) : Json := r.encode.value

/-- Append a record to a table. -/
def insert (s : Store) (table : String) (r : Record) : Store :=
  ⟨s.tables.insert table (s.documents table ++ [document r])⟩

/-- Append records to a table. -/
def insertAll (s : Store) (table : String) (rs : List Record) : Store :=
  rs.foldl (·.insert table) s

/-- The number of documents in a table. -/
def length (s : Store) (table : String) : Nat := (s.documents table).length

/-- Remove the documents of a table. -/
def clear (s : Store) (table : String) : Store := ⟨s.tables.erase table⟩

/-! ## Queries -/

/-- Decode a stored record. -/
def decode (entity : RecordType) (j : Json) : Except Failure Record :=
  ((Record.decode entity.schema).fromTree j).mapError fun fault =>
    .messages s!"Failed to decode record from '{entity.table}': {fault.message}" []

/-- The records of a table for which criteria hold. -/
def matching (s : Store) (entity : RecordType) (criteria : Criteria) :
    Except Failure (List Record) := do
  let records ← (s.documents entity.table).mapM (decode entity)
  let matcher := criteria.matcher
  return records.filter fun r => matcher.accepts r.value?

/-- How the values of a field to sort by compare: null and absent values come last, and
values that cannot be compared count as equal. -/
def compareStored (a b : Option Value) : Ordering :=
  match a.filter (!·.isNull), b.filter (!·.isNull) with
  | some a, some b => (a.compare b).getD .eq
  | some _, none => .lt
  | none, some _ => .gt
  | none, none => .eq

/-- How two records compare in a sort order. -/
def compareRecords (order : SortOrder) (a b : Record) : Ordering :=
  let natural := compareStored (a.value? order.field) (b.value? order.field)
  match order.direction with
  | .ascending => natural
  | .descending => natural.swap

/-- A record is less than another in a sort order. -/
def isLess (order : SortOrder) (a b : Record) : Bool := compareRecords order a b == .lt

/-- Sort records of a type; those that compare as equal keep their order.  There is no result if
the order is found to contradict itself. -/
def sort (entity : RecordType) (order : SortOrder) (rs : List Record) : Option (List Record) :=
  Sorting.stable (isLess order) entity.size rs

/-- The records of a type in the order that a page asks for. -/
def arranged (entity : RecordType) (p : Pageable) (rs : List Record) : Option (List Record) :=
  match p.sort with
  | some order => sort entity order rs
  | none => some rs

/-- The records of one page. -/
def select (s : Store) (entity : RecordType) (criteria : Criteria) (p : Pageable) :
    Option (Except Failure (List Record)) :=
  match s.matching entity criteria with
  | .ok records =>
    (arranged entity p records).map fun records =>
      .ok ((records.drop p.offset.val).take p.size.val)
  | .error failure => some (.error failure)

/-- The number of records for which criteria hold. -/
def count (s : Store) (entity : RecordType) (criteria : Criteria) : Except Failure Count := do
  let records ← s.matching entity criteria
  return .saturating records.length

/-- The engine that answers from a store which it finds in its surroundings, if it answers. -/
def engine {σ : Type} (store : σ → Store) : Engine (ReaderT σ Option) where
  select entity criteria p := fun s => (store s).select entity criteria p
  count entity criteria := fun s => some ((store s).count entity criteria)

end Store

end Listing
