import Mathlib
import Listing.Catalogue
import Listing.Proofs.FieldStorage
import Listing.Proofs.LoweredOrder
import Listing.Proofs.Queries
import Listing.Proofs.RecordTypes
import Listing.Proofs.Sorting

/-!
# Records selected in an order

Field values of one type are of one family, in which they compare like lists of integers; values
that do not compare at all, such as lists and documents, all have the same place.  So the records
of a type can be sorted by any of its fields, records without a value last.  The exception are
unsigned integers of 64 bits, which are integers and doubles side by side: a double can be equal
to two integers that are not equal themselves.

* `Value.compare_of_family` is the order of the values of a family;
* `Record.compareStored_eq` is that of the records of a type;
* `Store.select_sorted` says what a store selects in an order.
-/

namespace Listing

/-! ## Families of values -/

namespace Value

/-- The values that compare with each other as values of one type. -/
inductive Family where
  | text | integer | real | flag | uuid | instant
  /-- Values that do not compare, or are equal. -/
  | unordered
  deriving DecidableEq, Repr

/-- The family of a value. -/
def family : Value → Family
  | text _ | choice _ => .text
  | integer _ => .integer
  | real _ => .real
  | flag _ => .flag
  | uuid _ => .uuid
  | instant _ => .instant
  | list _ | null | document _ => .unordered

/-- The place of a value in its family. -/
def rank : Value → List Int
  | text s | choice s => Atom.text.key s
  | integer n => [n.val]
  | real x => [x.key?.getD 0]
  | flag b => Atom.flag.key b
  | uuid u => u.key
  | instant m => m.key
  | list _ | null | document _ => []

theorem compare_real {x y : Double} (first : x ≠ .nan) (second : y ≠ .nan) :
    (real x).compare (real y) = some (Ord.compare (real x).rank (real y).rank) := by
  cases x with
  | nan => exact absurd rfl first
  | number negative code =>
    cases y with
    | nan => exact absurd rfl second
    | number negative' code' => exact congrArg some (compare_singleton _ _).symm

/-- The values of a family compare as their places do; those that do not compare have one place. -/
theorem compare_of_family {v w : Value} (same : v.family = w.family) (first : v ≠ real .nan)
    (second : w ≠ real .nan) : (v.compare w).getD .eq = Ord.compare v.rank w.rank := by
  have tied : Ord.compare ([] : List Int) [] = .eq := Std.ReflCmp.compare_self
  cases v <;> cases w <;> try cases same
  case text.text s t | text.choice s t | choice.text s t | choice.choice s t =>
    exact (Atom.compare_text s t).symm
  case integer.integer m n => exact (compare_singleton m.val n.val).symm
  case real.real x y =>
    rw [compare_real (fun nan => first (nan ▸ rfl)) fun nan => second (nan ▸ rfl)]
    rfl
  case flag.flag a b => cases a <;> cases b <;> rfl
  case uuid.uuid | instant.instant => rfl
  case document.document j k =>
    rw [compare]
    split <;> exact tied.symm
  all_goals exact tied.symm

end Value

/-! ## Families of types -/

theorem Binary.convert_ne_nan {f g : BinaryFormat} {x : Binary f} (number : x ≠ .nan) :
    (x.convert : Binary g) ≠ .nan := by
  cases x with
  | nan => exact absurd rfl number
  | number negative code =>
    intro nan
    rw [convert] at nan
    split at nan <;> cases nan

theorem Binary.ne_nan_of_isFinite {f : BinaryFormat} {x : Binary f} (finite : x.isFinite = true) :
    x ≠ .nan := by
  rintro rfl
  cases finite

theorem Decoder.double_ne_nan {m : Medium} {d : Doc} {x : Double} (ok : double m d = .ok x) :
    x ≠ .nan := by
  unfold double at ok
  split at ok
  · obtain rfl := Except.ok.inj ok
    intro nan
    cases nan
  · rename_i finite
    obtain rfl := Except.ok.inj ok
    exact Binary.ne_nan_of_isFinite finite
  · rename_i finite
    obtain rfl := Except.ok.inj ok
    exact Binary.convert_ne_nan (Binary.ne_nan_of_isFinite finite)
  · exact absurd ok (mismatch_ne_ok _ _ _)

theorem Decoder.single_ne_nan {m : Medium} {d : Doc} {x : Single} (ok : single m d = .ok x) :
    x ≠ .nan := by
  unfold single at ok
  split at ok
  · obtain rfl := Except.ok.inj ok
    intro nan
    cases nan
  · rename_i finite
    obtain rfl := Except.ok.inj ok
    exact Binary.convert_ne_nan (Binary.ne_nan_of_isFinite finite)
  · rename_i finite
    obtain rfl := Except.ok.inj ok
    exact Binary.ne_nan_of_isFinite finite
  · exact absurd ok (mismatch_ne_ok _ _ _)

namespace FieldType

/-- The unsigned integers of 64 bits, optional or not. -/
def isWideUnsigned : FieldType → Bool
  | atom (.integer .unsigned64) => true
  | optional t => t.isWideUnsigned
  | _ => false

/-- The family of the values of a type that are not null. -/
def family : FieldType → Value.Family
  | atom (.integer _) => .integer
  | atom .text | atom (.choice _) => .text
  | atom .flag => .flag
  | atom .uuid => .uuid
  | atom .instant | atom .localTime | atom .date => .instant
  | single | double => .real
  | optional t => t.family
  | document | list _ | set _ | slice _ | tuple _ _ => .unordered

/-- The values of a type that are not null are of one family, wide unsigned integers apart. -/
theorem family_lower {t : FieldType} (narrow : t.isWideUnsigned = false) {x : t.Carrier}
    (present : (t.lower x).isNull = false) : (t.lower x).family = t.family := by
  induction t with
  | optional t ih =>
    cases x with
    | none => cases present
    | some x => exact ih narrow present
  | atom a =>
    cases a with
    | integer w =>
      have signed : w ≠ .unsigned64 := by
        rintro rfl
        cases narrow
      rw [lower, Atom.lower, Value.ofInt, dif_pos (Atom.holds_signed64_of_ne signed x)]
      rfl
    | _ => rfl
  | _ => rfl

/-- No value that was read is stored as what is not a number. -/
theorem lower_ne_nan {t : FieldType} {x : t.Carrier} (read : t.IsRead x) :
    t.lower x ≠ .real .nan := by
  intro same
  induction t with
  | atom a =>
    cases a with
    | integer w =>
      -- An unsigned integer may become a double, but that of a number.
      rw [lower, Atom.lower, Value.ofInt] at same
      split at same <;> cases same
    | _ => cases same
  | single =>
    rcases read with ⟨m, d, ok⟩ | absent
    · exact Binary.convert_ne_nan (Decoder.single_ne_nan ok) (Value.real.inj same)
    · cases absent
  | double =>
    rcases read with ⟨m, d, ok⟩ | absent
    · exact Decoder.double_ne_nan ok (Value.real.inj same)
    · cases absent
  | optional t ih =>
    cases x with
    | none => cases same
    | some x =>
      -- A value that is there was read: the one that need not be given is none.
      refine ih (.inl ?_) same
      rcases read with ⟨m, d, ok⟩ | absent
      · by_cases null : d = .null
        · subst null
          cases ok
        · rw [decode, Decoder.optional_of_ne_null null] at ok
          obtain ⟨y, ok, equal⟩ := map_eq_ok.1 ok
          exact ⟨m, d, Option.some.inj equal ▸ ok⟩
      · cases absent
  | _ => cases same

end FieldType

/-! ## Records in an order -/

namespace SortOrder

variable (order : SortOrder)

/-- The value that a record is sorted by; none if it is absent or null. -/
def key? (r : Record) : Option Value := (r.value? order.field).filter (!·.isNull)

/-- The place of a record in the order; records without a value come last. -/
def rank (r : Record) : List Int :=
  match order.key? r with
  | some v => 0 :: v.rank
  | none => [1]

/-- Two records tie: their values are equal or do not compare, or both have none. -/
def Ties (a b : Record) : Prop :=
  match order.key? a, order.key? b with
  | some v, some w => v.compare w = some .eq ∨ v.compare w = none
  | none, none => True
  | _, _ => False

/-- One value may stand before another one, with the smaller ones first and null last. -/
def Ascends : Option Value → Option Value → Prop
  | some v, some w => v.compare w ≠ some .gt
  | none, some _ => False
  | _, none => True

/-- One value may stand before another one, with null first and the greater ones next. -/
def Descends : Option Value → Option Value → Prop
  | some v, some w => v.compare w ≠ some .lt
  | some _, none => False
  | none, _ => True

/-- A record may stand before another one. -/
def MayPrecede (a b : Record) : Prop :=
  match order.direction with
  | .ascending => Ascends (order.key? a) (order.key? b)
  | .descending => Descends (order.key? a) (order.key? b)

end SortOrder

namespace Store

variable {order : SortOrder} {schema : Schema} {a b c : Record}

/-- Stored values compare by their keys: those that are there before those that are not. -/
theorem compareStored_eq (a b : Record) :
    compareStored (a.value? order.field) (b.value? order.field) =
      match order.key? a, order.key? b with
      | some v, some w => (v.compare w).getD .eq
      | some _, none => .lt
      | none, some _ => .gt
      | none, none => .eq := rfl

theorem compareRecords_of_ascending (up : order.direction = .ascending) :
    compareRecords order a b = compareStored (a.value? order.field) (b.value? order.field) := by
  rw [compareRecords, up]

/-- In descending order they compare as their values do the other way round. -/
theorem compareRecords_of_descending (down : order.direction = .descending) :
    compareRecords order a b = compareStored (b.value? order.field) (a.value? order.field) := by
  rw [compareRecords, down]
  exact compareStored_swap _ _

/-- Records that tie compare as equal. -/
theorem compareRecords_of_ties (ties : order.Ties a b) : compareRecords order a b = .eq := by
  have natural : compareStored (a.value? order.field) (b.value? order.field) = .eq := by
    rw [compareStored_eq]
    unfold SortOrder.Ties at ties
    cases first : order.key? a <;> cases second : order.key? b <;>
      simp only [first, second] at ties ⊢
    rcases ties with same | apart
    · rw [same, Option.getD_some]
    · rw [apart, Option.getD_none]
  rw [compareRecords, natural]
  cases order.direction <;> rfl

theorem ascends_of_compareStored
    (notGreater : compareStored (a.value? order.field) (b.value? order.field) ≠ .gt) :
    SortOrder.Ascends (order.key? a) (order.key? b) := by
  rw [compareStored_eq] at notGreater
  cases first : order.key? a <;> cases second : order.key? b <;> rw [first, second] at notGreater
  case none.none | some.none => trivial
  case none.some => exact absurd rfl notGreater
  case some.some v w =>
    intro greater
    exact notGreater (congrArg (Option.getD · .eq) greater)

/-- A value that is not less may stand before, the other way round. -/
theorem descends_of_compareStored
    (notLess : compareStored (a.value? order.field) (b.value? order.field) ≠ .lt) :
    SortOrder.Descends (order.key? a) (order.key? b) := by
  rw [compareStored_eq] at notLess
  cases first : order.key? a <;> cases second : order.key? b <;> rw [first, second] at notLess
  case none.none | none.some => trivial
  case some.none => exact absurd rfl notLess
  case some.some v w =>
    intro less
    exact notLess (congrArg (Option.getD · .eq) less)

/-- A record may stand before those that are not less than it. -/
theorem mayPrecede_of_compareRecords (notLess : compareRecords order b a ≠ .lt) :
    order.MayPrecede a b := by
  unfold SortOrder.MayPrecede
  cases direction : order.direction with
  | ascending =>
    rw [compareRecords_of_ascending direction, ← compareStored_swap] at notLess
    exact ascends_of_compareStored (mt Ordering.swap_eq_lt.2 notLess)
  | descending =>
    rw [compareRecords_of_descending direction] at notLess
    exact descends_of_compareStored notLess

/-- The value that a record is sorted by is of the family of the field to sort by. -/
theorem family_of_key? (typed : a.Typed schema)
    (narrow : ∀ f, schema.find? (·.name = order.field) = some f → f.type.isWideUnsigned = false)
    {v : Value} (key : order.key? a = some v) :
    ∃ f, schema.find? (·.name = order.field) = some f ∧ v.family = f.type.family ∧
      v ≠ .real .nan := by
  obtain ⟨value, present⟩ := Option.filter_eq_some_iff.1 key
  rcases Record.value?_cases typed order.field with ⟨absent, -⟩ | ⟨f, x, found, read, stored⟩
  · exact nomatch absent.symm.trans value
  · obtain rfl := Option.some.inj (stored.symm.trans value)
    exact ⟨f, found, FieldType.family_lower (narrow f found) (by simpa using present),
      FieldType.lower_ne_nan read⟩

/-- Records of one type compare as their places in the order do. -/
theorem compareStored_eq_rank (typed : a.Typed schema) (typed' : b.Typed schema)
    (narrow : ∀ f, schema.find? (·.name = order.field) = some f → f.type.isWideUnsigned = false) :
    compareStored (a.value? order.field) (b.value? order.field) =
      compare (order.rank a) (order.rank b) := by
  rw [compareStored_eq, SortOrder.rank, SortOrder.rank]
  cases first : order.key? a with
  | none => cases order.key? b <;> rfl
  | some v =>
    cases second : order.key? b with
    | none => rfl
    | some w =>
      obtain ⟨f, found, family, number⟩ := family_of_key? typed narrow first
      obtain ⟨f', found', family', number'⟩ := family_of_key? typed' narrow second
      obtain rfl := Option.some.inj (found.symm.trans found')
      rw [compare_cons_cons]
      exact Value.compare_of_family (family.trans family'.symm) number number'

/-- The order of stored values is transitive among the records of a type, wide unsigned integers
apart. -/
theorem compareStored_trans (typedA : a.Typed schema) (typedB : b.Typed schema)
    (typedC : c.Typed schema)
    (narrow : ∀ f, schema.find? (·.name = order.field) = some f → f.type.isWideUnsigned = false)
    (first : compareStored (a.value? order.field) (b.value? order.field) ≠ .lt)
    (second : compareStored (b.value? order.field) (c.value? order.field) ≠ .lt) :
    compareStored (a.value? order.field) (c.value? order.field) ≠ .lt := by
  rw [compareStored_eq_rank typedA typedB narrow] at first
  rw [compareStored_eq_rank typedB typedC narrow] at second
  rw [compareStored_eq_rank typedA typedC narrow]
  have first := Ordering.isGE_iff_ne_lt.2 first
  have second := Ordering.isGE_iff_ne_lt.2 second
  exact Ordering.isGE_iff_ne_lt.1 (Std.TransCmp.isGE_trans first second)

/-- Among records of one type, being no less is transitive. -/
theorem compareRecords_trans (typedA : a.Typed schema) (typedB : b.Typed schema)
    (typedC : c.Typed schema)
    (narrow : ∀ f, schema.find? (·.name = order.field) = some f → f.type.isWideUnsigned = false)
    (first : compareRecords order b a ≠ .lt) (second : compareRecords order c b ≠ .lt) :
    compareRecords order c a ≠ .lt := by
  cases direction : order.direction with
  | ascending =>
    rw [compareRecords_of_ascending direction] at first second ⊢
    exact compareStored_trans typedC typedB typedA narrow second first
  | descending =>
    rw [compareRecords_of_descending direction] at first second ⊢
    exact compareStored_trans typedA typedB typedC narrow first second

/-! ## Selecting -/

/-- A record that is found is one of its type. -/
theorem typed_of_mem_found {s : Store} {entity : RecordType} {criteria : Criteria} {r : Record}
    (member : r ∈ s.found entity criteria) : r.Typed entity.schema := by
  obtain ⟨j, -, read⟩ := List.mem_filterMap.1 (List.mem_of_mem_filter member)
  cases decoded : decode entity j with
  | error failure => rw [decoded] at read; cases read
  | ok r' =>
    rw [decoded] at read
    obtain rfl := Option.some.inj read
    exact Record.typed_of_decode (mapError_eq_ok.1 decoded)

/-- Among the records that are found, an order by any field contradicts itself only if the field is
one of unsigned integers of 64 bits. -/
theorem consistent_found {s : Store} {entity : RecordType} {criteria : Criteria}
    (narrow : ∀ f, entity.schema.find? (·.name = order.field) = some f →
      f.type.isWideUnsigned = false) :
    Sorting.Consistent (isLess order) (s.found entity criteria) :=
  consistent_of_transitive fun _ ha _ hb _ hc =>
    compareRecords_trans (typed_of_mem_found ha) (typed_of_mem_found hb) (typed_of_mem_found hc)
      narrow

/-- What is found can be sorted by any field but one of unsigned integers of 64 bits. -/
theorem arrangeable_found {s : Store} {entity : RecordType} {criteria : Criteria}
    {sort : Option SortOrder} (narrow : ∀ order, sort = some order →
      ∀ f, entity.schema.find? (·.name = order.field) = some f → f.type.isWideUnsigned = false) :
    Arrangeable (s.found entity criteria) sort := by
  cases sort with
  | none => trivial
  | some order => exact .inr (consistent_found (narrow order rfl))

/-- **Selecting in an order sorts stably, with null last.**  On a page with room for all records
that are found, there are these records, each as often as before; none stands before one that it
must follow, records without a value being greater than all others; and among any records that
tie the order is that in which they were stored.  The records may be sorted by any name, be it
that of no field, unless it means a field of unsigned integers of 64 bits. -/
theorem select_sorted (s : Store) (entity : RecordType) (criteria : Criteria) (p : Pageable)
    (order : SortOrder) (decodable : s.Decodable entity) (sorts : p.sort = some order)
    (narrow : ∀ f, entity.schema.find? (·.name = order.field) = some f →
      f.type.isWideUnsigned = false)
    (covers : p.offset.val = 0 ∧ (s.found entity criteria).length ≤ p.size.val) :
    ∃ page, s.select entity criteria p = some (.ok page) ∧
      page.Perm (s.found entity criteria) ∧
      page.Pairwise order.MayPrecede ∧
      ∀ tied : Record → Bool,
        (∀ a ∈ s.found entity criteria, ∀ b ∈ s.found entity criteria,
          tied a → tied b → order.Ties a b) →
        page.filter tied = (s.found entity criteria).filter tied := by
  have consistent : Sorting.Consistent (isLess order) (s.found entity criteria) :=
    consistent_found narrow
  have arrangeable : Arrangeable (s.found entity criteria) p.sort := sorts ▸ .inr consistent
  obtain ⟨listed, arranged, sorted⟩ := exists_arranged entity arrangeable
  rw [sorts] at sorted
  have ordered := sorted.pairwise consistent
  refine ⟨listed, ?_, sorted.perm, ordered.imp fun notLess => ?_, fun tied ties => ?_⟩
  · rw [select_eq decodable, arranged, covers.1, Option.map_some, List.drop_zero]
    exact congrArg (fun page => some (Except.ok page))
      (List.take_of_length_le (sorted.perm.length_eq.trans_le covers.2))
  · exact mayPrecede_of_compareRecords (isLess_eq_false_iff.1 notLess)
  · refine sorted.stable tied fun a ha b hb first second => isLess_eq_false_iff.2 ?_
    rw [compareRecords_of_ties (ties a ha b hb first second)]
    decide

section Towns

open Catalogue

/-- Four cities, of which one belongs to no region and two to the same one. -/
def towns : Store :=
  ⟨⟨[("cities", [("Lyon", .string "ARA"), ("Nice", .null), ("Paris", .string "IDF"),
    ("Grenoble", .string "ARA")].map fun (name, region) =>
      .object [("name", .string name), ("population", .number (.whole ⟨1, by decide⟩)),
        ("region", region)])], List.pairwise_singleton _ _⟩⟩

/-- The cities by region, the last region first. -/
def byRegion : PageRequest :=
  { PageRequest.defaults with sortBy := some "region", direction := .descending }

theorem select_sorted_towns :
    towns.Decodable city ∧ byRegion.toPageable.sort = some ⟨"region", .descending⟩ ∧
      (∀ f, city.schema.find? (·.name = "region") = some f → f.type.isWideUnsigned = false) ∧
      (byRegion.toPageable.offset.val = 0 ∧
        (towns.found city []).length ≤ byRegion.toPageable.size.val) ∧
      ∃ page, towns.select city [] byRegion.toPageable = some (.ok page) ∧
        page.Perm (towns.found city []) ∧
        page.Pairwise (SortOrder.MayPrecede ⟨"region", .descending⟩) ∧
        ∀ tied : Record → Bool,
          (∀ a ∈ towns.found city [], ∀ b ∈ towns.found city [],
            tied a → tied b → SortOrder.Ties ⟨"region", .descending⟩ a b) →
          page.filter tied = (towns.found city []).filter tied := by
  have decodable : towns.Decodable city := by decide
  have sorts : byRegion.toPageable.sort = some ⟨"region", .descending⟩ := by decide
  have narrow : ∀ f, city.schema.find? (·.name = "region") = some f →
      f.type.isWideUnsigned = false := by
    have region : city.schema.find? (·.name = "region") =
        some (field "region" (.optional text)) := by decide
    intro f found
    exact Option.some.inj (region.symm.trans found) ▸ rfl
  have covers : byRegion.toPageable.offset.val = 0 ∧
      (towns.found city []).length ≤ byRegion.toPageable.size.val := by decide
  exact ⟨decodable, sorts, narrow, covers,
    select_sorted towns city [] byRegion.toPageable _ decodable sorts narrow covers⟩

end Towns

end Store

end Listing
