import Mathlib
import Listing.Catalogue
import Listing.Proofs.Chains
import Listing.Proofs.PatternTranslation
import Listing.Proofs.Queries
import Listing.Proofs.Visibility

/-!
# Records found by their own values

A filter that is filled in from a record finds the record: every value is loosely equal to
itself, a text is found in itself, and a number or a moment lies between itself and itself.  The
exceptions are null and what is not a number, which no comparison holds of.

* `Value.looselyEquals_self` is equality of values with themselves, at any depth;
* `holds_of_compileField` and `holds_of_compileRange` are the conclusions for one field and one
  range;
* `accepts_compile_of_fits` is the conclusion for a filter with ranges.
-/

namespace Listing

/-! ## Values and themselves -/

/-- A number is equal to itself. -/
theorem Binary.compare?_self {f : BinaryFormat} {x : Binary f} (number : x ≠ .nan) :
    x.compare? x = some .eq := by
  cases x with
  | nan => exact absurd rfl number
  | number negative code => simp [compare?, key?]

theorem Json.Number.same_self (n : Json.Number) : n.same n = true := by
  cases n with
  | whole n => exact beq_self_eq_true n.val
  | real x finite =>
    have number : x ≠ .nan := by
      rintro rfl
      cases finite
    rw [same, Binary.compare?_self number]
    rfl

mutual

/-- Every document is the same as itself, by induction on its items and members. -/
theorem Json.same_self : (j : Json) → j.same j = true
  | .null => rfl
  | .flag b => beq_self_eq_true b
  | .number n => n.same_self
  | .string s => beq_self_eq_true s
  | .array items => sameItems_self items
  | .object members => sameMembers_self members

theorem Json.sameItems_self : (items : List Json) → sameItems items items = true
  | [] => rfl
  | j :: rest => by rw [sameItems, Json.same_self j, sameItems_self rest]; rfl

theorem Json.sameMembers_self : (members : List (String × Json)) → sameMembers members members = true
  | [] => rfl
  | (name, j) :: rest => by
    rw [sameMembers, Json.same_self j, sameMembers_self rest, beq_self_eq_true]
    rfl

end

namespace Value

mutual

/-- The value is neither null nor not a number, and neither is any of its items at any depth. -/
def isProper : Value → Bool
  | null => false
  | real x => x ≠ .nan
  | list items => allProper items
  | _ => true

/-- All values of a list are proper. -/
def allProper : List Value → Bool
  | [] => true
  | v :: rest => isProper v && allProper rest

end

/-- A proper value is not null. -/
theorem isNull_of_isProper {v : Value} (proper : v.isProper = true) : v.isNull = false := by
  cases v <;> first | rfl | cases proper

/-- A proper value other than a list compares as equal to itself. -/
theorem compare_self {v : Value} (proper : v.isProper = true) (single : v.items? = none) :
    v.compare v = some .eq := by
  cases v with
  | text s | choice s => exact congrArg some (Std.ReflCmp.compare_self)
  | integer n => exact congrArg some (Std.ReflCmp.compare_self)
  | real x => exact Binary.compare?_self (of_decide_eq_true proper)
  | flag b => exact congrArg some (Std.ReflCmp.compare_self)
  | uuid u =>
    have same : Ord.compare u.key u.key = .eq := Std.ReflCmp.compare_self
    exact congrArg some same
  | instant m =>
    have same : Ord.compare m.key m.key = .eq := Std.ReflCmp.compare_self
    exact congrArg some same
  | list items => cases single
  | null => cases proper
  | document j => rw [compare, Json.same_self]; rfl

/-- Loose equality with a value other than a list, on the left, is equality in comparisons. -/
theorem looselyEquals_of_single {v : Value} (single : v.items? = none) (w : Value) :
    v.looselyEquals w = (v.compare w == some .eq) := by
  cases v with
  | list items => cases single
  | _ => rfl

/-- A proper value other than a list is loosely equal to itself. -/
theorem looselyEquals_self_of_single {v : Value} (single : v.items? = none)
    (proper : v.isProper = true) : v.looselyEquals v = true := by
  rw [looselyEquals_of_single single, compare_self proper single]
  rfl

mutual

/-- Every proper value is loosely equal to itself, lists item by item. -/
theorem looselyEquals_self : (v : Value) → v.isProper = true → v.looselyEquals v = true
  | list items, proper => allEqual_self items proper
  | text _, proper | integer _, proper | real _, proper | flag _, proper | uuid _, proper
  | instant _, proper | choice _, proper | document _, proper =>
    looselyEquals_self_of_single rfl proper

theorem allEqual_self : (items : List Value) → allProper items = true → allEqual items items = true
  | [], _ => rfl
  | v :: rest, proper => by
    obtain ⟨first, others⟩ := Bool.and_eq_true_iff.1 proper
    rw [allEqual, looselyEquals_self v first, allEqual_self rest others]
    rfl

end

/-- The name of a choice is equal to itself as a text. -/
theorem looselyEquals_choice_text (name : String) : (choice name).looselyEquals (text name) = true :=
  looselyEquals_self (text name) rfl

/-- The value is a number or a moment, to which ranges apply. -/
def isPoint : Value → Bool
  | integer _ | instant _ => true
  | real x => x ≠ .nan
  | _ => false

/-- What a range can be about is proper. -/
theorem isProper_of_isPoint {v : Value} (point : v.isPoint = true) : v.isProper = true := by
  cases v <;> first | rfl | exact point | cases point

theorem compare_self_of_isPoint {v : Value} (point : v.isPoint = true) :
    v.compare v = some .eq := by
  refine compare_self (isProper_of_isPoint point) ?_
  cases v <;> first | rfl | cases point

end Value

/-! ## Criteria and the values they come from -/

/-- The state of a field says of a stored value what it is. -/
def Slot.Fits (stored : Option Value) : Slot Value → Prop
  | unset => True
  | isNull => stored = none ∨ stored = some .null
  | isNotNull => ∃ v, stored = some v ∧ v.isNull = false
  | value v => stored = some v ∧ v.isProper = true

/-- Both bounds are the stored value. -/
def Range.IsAt (stored : Option Value) (range : Range) : Prop :=
  ∃ v, stored = some v ∧ v.isPoint = true ∧ range = ⟨some v, some v⟩

/-- A criterion is tested on every value but null. -/
theorem Criterion.holds_some {v : Value} (present : v.isNull = false) (c : Criterion) :
    c.holds (some v) = c.holdsOf c.pattern? v := by
  cases v with
  | null => cases present
  | _ => rfl

/-- A criterion that is made of a proper value holds of that value. -/
theorem holds_of_compileValue {field : FieldDescriptor} {options : FilterOptions} {v : Value}
    {c : Criterion} (proper : v.isProper = true) (ok : compileValue field options v = some c) :
    c.holdsOf c.pattern? v = true := by
  have self := Value.looselyEquals_self v proper
  cases v with
  | list items =>
    rw [compileValue] at ok
    split at ok
    · cases ok
    -- The stored items are the ones asked for, and the first of them is one of itself.
    · rename_i some
      cases ok
      cases items with
      | nil => exact absurd rfl some
      | cons first rest =>
        obtain ⟨same, -⟩ := Bool.and_eq_true_iff.1 self
        change ((first :: rest).any fun item => (first :: rest).any item.looselyEquals) = true
        rw [List.any_cons, List.any_cons, same]
        rfl
  | choice name =>
    cases ok
    exact Value.looselyEquals_choice_text name
  | text s =>
    rw [compileValue] at ok
    split at ok
    · cases ok
      exact self
    · split at ok <;> cases ok
      rw [Criterion.pattern?, Pattern.compile?_eq]
      exact Pattern.accepts_around s options.ignoreCase
    · split at ok <;> cases ok
      exact self
  | null => cases proper
  | _ =>
    cases ok
    exact self

/-- The criterion of a field holds of the value that its state is about. -/
theorem holds_of_compileField {field : FieldDescriptor} {options : FilterOptions}
    {slot : Slot Value} {stored : Option Value} {c : Criterion} (fits : slot.Fits stored)
    (ok : compileField field slot options = some c) : c.holds stored = true := by
  cases slot with
  | unset => cases ok
  | isNull =>
    cases ok
    rcases fits with rfl | rfl <;> rfl
  | isNotNull =>
    cases ok
    obtain ⟨v, rfl, present⟩ := fits
    rw [Criterion.holds_some present]
    rfl
  | value v =>
    obtain ⟨rfl, proper⟩ := fits
    have present := Value.isNull_of_isProper proper
    rw [compileField_value, if_neg (ne_true_of_eq_false present)] at ok
    rw [Criterion.holds_some present]
    split at ok
    · split at ok <;> cases ok
      exact Value.looselyEquals_self v proper
    · exact holds_of_compileValue proper ok

/-- The criterion of a range around one value holds of it. -/
theorem holds_of_compileRange {name : String} {range : Range} {kind : Option Kind}
    {stored : Option Value} {c : Criterion} (around : range.IsAt stored)
    (ok : compileRange name range kind = some c) : c.holds stored = true := by
  obtain ⟨v, rfl, point, rfl⟩ := around
  have same : v.compare v = some .eq := Value.compare_self_of_isPoint point
  have present : v.isNull = false := Value.isNull_of_isProper (Value.isProper_of_isPoint point)
  -- Numbers and moments are bounds as they are.
  have bound : bound? kind (some v) = some v := by
    cases v with
    | integer | real | instant => cases kind <;> rfl
    | _ => cases point
  rw [compileRange, bound] at ok
  cases ok
  rw [Criterion.holds_some present, Criterion.holdsOf, Criterion.notBelow, Criterion.notAbove, same]
  rfl

/-! ## Filters and the records they come from -/

/-- The states of a filter say of the stored values what they are. -/
def FilterView.Fits (filter : FilterView) (value? : String → Option Value) : Prop :=
  ∀ name slot, filter.slot? name = some slot → slot.Fits (value? name)

/-- The ranges are those around the stored values. -/
def RangeFilter.IsAt (ranges : RangeFilter) (value? : String → Option Value) : Prop :=
  ∀ name range, (name, range) ∈ ranges.ranges.entries → range.IsAt (value? name)

/-- Each of the criteria for a filter and ranges taken from a record holds of the record. -/
theorem holds_of_mem_compile {filter : Option FilterView} {ranges : Option RangeFilter}
    {entity : DeclaredType} {options : FilterOptions} {value? : String → Option Value}
    (states : ∀ f, filter = some f → f.Fits value?)
    (points : ∀ rs, ranges = some rs → rs.IsAt value?) {c : Criterion}
    (member : c ∈ compile filter ranges entity options) : c.holds (value? c.field) = true := by
  rcases List.mem_append.1 member with member | member
  · cases filter with
    | none => cases member
    | some f =>
      obtain ⟨field, -, ok⟩ := List.mem_filterMap.1 member
      obtain ⟨slot, state, ok⟩ := Option.bind_eq_some_iff.1 ok
      rw [compileField_field ok]
      exact holds_of_compileField (states f rfl field.name slot state) ok
  · cases ranges with
    | none => cases member
    | some rs =>
      obtain ⟨name, range, entry, -, ok⟩ := mem_compileRanges.1 member
      rw [compileRange_field ok]
      exact holds_of_compileRange (points rs rfl name range entry) ok

/-- **A filter built from a record finds that record**, with whatever options, whatever is in its
texts, and whether or not the record has the fields of the filter. -/
theorem accepts_compile_of_fits (filter : Option FilterView) (ranges : Option RangeFilter)
    (entity : DeclaredType) (options : FilterOptions) (value? : String → Option Value)
    (states : ∀ f, filter = some f → f.Fits value?)
    (points : ∀ rs, ranges = some rs → rs.IsAt value?) :
    (compile filter ranges entity options).accepts value? = true := by
  rw [Criteria.accepts, Criteria.accepts_matcher, List.all_eq_true]
  intro c member
  exact holds_of_mem_compile states points member

section Sale

open Catalogue

/-- A product with all sorts of characters in its name. -/
def sale : Record :=
  .single "Product" [⟨field "name" text, "50%_off (a|b)\n"⟩, ⟨field "stock" int, ⟨3, by decide⟩⟩,
    ⟨field "tags" (.list text), ["x", "%"]⟩, ⟨field "region" (.optional text), none⟩]

/-- The filter that is filled in from it. -/
def saleFilter : Filter :=
  .single "ProductFilter" [⟨field "name" text, .value "50%_off (a|b)\n"⟩,
    ⟨field "stock" int, .isNotNull⟩, ⟨field "tags" (.list text), .value ["x", "%"]⟩,
    ⟨field "region" (.optional text), .isNull⟩]

/-- The range around its stock. -/
def saleRanges : RangeFilter :=
  RangeFilter.empty.insert "stock" ⟨some (.integer ⟨3, by decide⟩), some (.integer ⟨3, by decide⟩)⟩

theorem fits_saleFilter : saleFilter.view.Fits sale.value? := by
  intro name slot state
  obtain ⟨cell, found, rfl⟩ := Option.map_eq_some_iff.1 state
  obtain rfl := Filter.name_of_cell? found
  have each : ∀ c ∈ saleFilter.all, c.lowered.Fits (sale.value? c.field.name) := by
    refine List.forall_mem_cons.2 ⟨⟨rfl, rfl⟩, List.forall_mem_cons.2 ⟨⟨_, rfl, rfl⟩, ?_⟩⟩
    exact List.forall_mem_cons.2 ⟨⟨rfl, rfl⟩, List.forall_mem_singleton.2 (Or.inr rfl)⟩
  exact each cell (Filter.mem_of_cell? found)

theorem isAt_saleRanges : saleRanges.IsAt sale.value? := by
  intro name range entry
  obtain ⟨rfl, rfl⟩ := Prod.mk.inj (List.mem_singleton.1 entry)
  exact ⟨_, rfl, rfl, rfl⟩

theorem accepts_compile_of_fits_sale :
    saleFilter.view.Fits sale.value? ∧ saleRanges.IsAt sale.value? ∧
      (compile (some saleFilter.view) (some saleRanges) sale.schema.declared ⟨true, true⟩).accepts
        sale.value? = true := by
  refine ⟨fits_saleFilter, isAt_saleRanges, ?_⟩
  refine accepts_compile_of_fits _ _ _ _ _ (fun f some => ?_) (fun rs some => ?_)
  · exact Option.some.inj some ▸ fits_saleFilter
  · exact Option.some.inj some ▸ isAt_saleRanges

end Sale

end Listing
