import Mathlib
import Listing.Catalogue
import Listing.Proofs.Queries
import Listing.Proofs.SlotChanges
import Listing.Proofs.TypedBounds

/-!
# More constraints, fewer records

A filter with more states set, ranges with more bounds, and options that let the fields of
ancestors count find no record that is not found without.  A field that was unset asks for
something more; a bound on the other side makes one criterion of two conditions out of a criterion
of one; and the criteria of ancestors come behind those of the type itself.

* `FilterView.Changed SlotFilled`, `RangeFilter.Extended` and `FilterOptions.Widened` say what is
  added to the parts of what is compiled, and `Narrows` to the whole;
* `compileRange_of_extended` compares the criteria of one range before and after;
* `compile_narrows` is the theorem about whole compilations.
-/

namespace Listing

/-! ## States -/

/-- A state that was unset becomes any state. -/
def SlotFilled (before _after : Slot Value) : Prop := before = .unset

/-- Where something was asked for, the same is asked for. -/
theorem asks_of_filled {before after : FilterView} (filled : before.Changed SlotFilled after)
    {d : Declaration} {options : FilterOptions} {c : Criterion}
    (asked : d.asks before options = some c) : d.asks after options = some c := by
  rcases filled.state d.name with same | ⟨old, new, state, -, rfl⟩
  · rw [Declaration.asks_congr same, asked]
  · rw [Declaration.asks_of_unset state] at asked
    cases asked

/-! ## Options -/

/-- The fields of ancestors count if they did, and texts match as they did. -/
structure FilterOptions.Widened (before after : FilterOptions) : Prop where
  ignoreCase : after.ignoreCase = before.ignoreCase
  inherited : before.inherited = true → after.inherited = true

/-- With ancestors there is more of a chain, and what was there comes first. -/
theorem Chain.upTo_initial {α : Type} (c : Chain α) {inherited inherited' : Bool}
    (more : inherited = true → inherited' = true) : c.upTo inherited <+: c.upTo inherited' := by
  cases inherited with
  | true => rw [more rfl]
  | false =>
    cases inherited' with
    | true => exact List.prefix_append c.own.entries _
    | false => exact List.prefix_refl _

/-- What a declaration asks for depends on how texts match, and not on whether ancestors count. -/
theorem asks_of_widened {before after : FilterOptions} (widened : before.Widened after)
    (d : Declaration) (filter : FilterView) : d.asks filter after = d.asks filter before := by
  obtain ⟨ignoreCase, inherited⟩ := before
  obtain ⟨ignoreCase', inherited'⟩ := after
  obtain rfl : ignoreCase' = ignoreCase := widened.ignoreCase
  rfl

/-- What was asked for comes first, and what the ancestors ask for behind it. -/
theorem compileFilters_initial (filter : FilterView) {before after : FilterOptions}
    (widened : before.Widened after) :
    compileFilters filter before <+: compileFilters filter after := by
  rw [compileFilters_eq, compileFilters_eq]
  simp only [asks_of_widened widened]
  exact (filter.declared.upTo_initial widened.inherited).filterMap _

/-- No criterion of a filter is lost when states are set and ancestors are let count. -/
theorem mem_compileFilters_of_filled {before after : FilterView} {options options' : FilterOptions}
    (filled : before.Changed SlotFilled after) (widened : options.Widened options') {c : Criterion}
    (leaf : c ∈ compileFilters before options) : c ∈ compileFilters after options' := by
  refine (compileFilters_initial after widened).subset ?_
  rw [compileFilters_eq] at leaf ⊢
  obtain ⟨d, counted, asked⟩ := List.mem_filterMap.1 leaf
  exact List.mem_filterMap.2 ⟨d, filled.declared.symm ▸ counted, asks_of_filled filled asked⟩

/-! ## Bounds -/

/-- Every bound is as before, or there was none, null being none. -/
def Range.Extended (before after : Range) : Prop :=
  ∀ side : BoundSide,
    after.bound side = before.bound side ∨ (before.bound side).all Value.isNull = true

/-- The bounds on every field are extended; a field without a range has no bounds. -/
def RangeFilter.Extended (before after : RangeFilter) : Prop :=
  ∀ field, (before.get field).Extended (after.get field)

theorem Range.extended_refl (range : Range) : range.Extended range := fun _ => Or.inl rfl

/-- The range of a field may be replaced by one that extends it; on a field without a range any one
does. -/
theorem RangeFilter.extended_insert {ranges : RangeFilter} {field : String} {range : Range}
    (extended : (ranges.get field).Extended range) :
    ranges.Extended (ranges.insert field range) := by
  intro other
  have kept : (ranges.insert field range).get other =
      if other = field then range else ranges.get other := by
    rw [RangeFilter.insert, RangeFilter.get, Keyed.get?_insert]
    split <;> rfl
  rw [kept]
  split
  · rename_i same
    exact same ▸ extended
  · exact (ranges.get other).extended_refl

/-- A bound that takes effect is kept when ranges are extended. -/
theorem bound?_of_extended {before after : Range} (extended : before.Extended after)
    (side : BoundSide) {kind : Option Kind} {v : Value}
    (bounded : bound? kind (before.bound side) = some v) :
    bound? kind (after.bound side) = some v := by
  rcases extended side with same | missing
  · rw [same, bounded]
  · obtain ⟨w, some, present⟩ := (isSome_bound? kind).1 (Option.isSome_of_mem bounded)
    rw [some, Option.all_some, present] at missing
    cases missing

/-- What is between two bounds is at least the lower one. -/
theorem holds_atLeast_of_between {field : String} {low high : Value} {stored : Option Value}
    (holds : (Criterion.between field low high).holds stored = true) :
    (Criterion.atLeast field low).holds stored = true := by
  unfold Criterion.holds Criterion.evaluate at holds ⊢
  split at holds
  · cases holds
  · cases holds
  · exact (Bool.and_eq_true_iff.1 holds).1

theorem holds_atMost_of_between {field : String} {low high : Value} {stored : Option Value}
    (holds : (Criterion.between field low high).holds stored = true) :
    (Criterion.atMost field high).holds stored = true := by
  unfold Criterion.holds Criterion.evaluate at holds ⊢
  split at holds
  · cases holds
  · cases holds
  · exact (Bool.and_eq_true_iff.1 holds).2

/-- A further bound leaves a criterion that asks for more. -/
theorem compileRange_of_extended {before after : Range} (extended : before.Extended after)
    {name : String} {kind : Option Kind} {c : Criterion}
    (ok : compileRange name before kind = some c) :
    ∃ c', compileRange name after kind = some c' ∧
      ∀ stored, c'.holds stored = true → c.holds stored = true := by
  have low {v : Value} : bound? kind before.low = some v → bound? kind after.low = some v :=
    bound?_of_extended extended .low
  have high {v : Value} : bound? kind before.high = some v → bound? kind after.high = some v :=
    bound?_of_extended extended .high
  unfold compileRange at ok ⊢
  split at ok
  · rename_i below above
    cases ok
    rw [low below, high above]
    exact ⟨_, rfl, fun _ holds => holds⟩
  · rename_i below above
    cases ok
    rw [low below]
    cases bound? kind after.high with
    | none => exact ⟨_, rfl, fun _ holds => holds⟩
    | some _ => exact ⟨_, rfl, fun _ => holds_atLeast_of_between⟩
  · rename_i below above
    cases ok
    rw [high above]
    cases bound? kind after.low with
    | none => exact ⟨_, rfl, fun _ holds => holds⟩
    | some _ => exact ⟨_, rfl, fun _ => holds_atMost_of_between⟩
  · cases ok

theorem RangeFilter.mem_of_compileRange {ranges : RangeFilter} {name : String} {kind : Option Kind}
    {c : Criterion} (ok : compileRange name (ranges.get name) kind = some c) :
    (name, ranges.get name) ∈ ranges.ranges.entries := by
  rw [RangeFilter.get] at ok ⊢
  cases found : ranges.ranges.get? name with
  | none =>
    rw [found] at ok
    cases ok
  | some range => exact (lookup_eq_some_iff_of_increasing ranges.ranges.increasing).1 found

/-- An extended range gives a criterion on the same field that holds of no more values. -/
theorem exists_mem_compileRanges_of_extended {before after : RangeFilter}
    (extended : before.Extended after) {entity : DeclaredType} {c : Criterion}
    (leaf : c ∈ compileRanges entity before) :
    ∃ c' ∈ compileRanges entity after, c'.field = c.field ∧
      ∀ stored, c'.holds stored = true → c.holds stored = true := by
  obtain ⟨name, range, entry, passed, ok⟩ := mem_compileRanges.1 leaf
  obtain rfl := RangeFilter.get_of_mem entry
  obtain ⟨c', ok', implies⟩ := compileRange_of_extended (extended name) ok
  refine ⟨c', mem_compileRanges.2 ⟨name, _, RangeFilter.mem_of_compileRange ok', passed, ok'⟩, ?_, implies⟩
  rw [compileRange_field ok, compileRange_field ok']

/-! ## Whole compilations -/

/-- Unset states are set, bounds are added, and the fields of ancestors are let count; nothing
else changes. -/
structure Narrows (filter filter' : Option FilterView) (ranges ranges' : Option RangeFilter)
    (options options' : FilterOptions) : Prop where
  filled (before : FilterView) : filter = some before →
    ∃ after, filter' = some after ∧ before.Changed SlotFilled after
  extended : (ranges.getD .empty).Extended (ranges'.getD .empty)
  widened : options.Widened options'

/-- For every criterion there is one that asks for as much afterwards. -/
theorem Narrows.exists_mem {filter filter' : Option FilterView} {ranges ranges' : Option RangeFilter}
    {options options' : FilterOptions}
    (narrows : Narrows filter filter' ranges ranges' options options') {entity : DeclaredType}
    {c : Criterion} (leaf : c ∈ compile filter ranges entity options) :
    ∃ c' ∈ compile filter' ranges' entity options', c'.field = c.field ∧
      ∀ stored, c'.holds stored = true → c.holds stored = true := by
  rw [compile_eq_append] at leaf ⊢
  rcases List.mem_append.1 leaf with leaf | leaf
  · cases filter with
    | none => cases leaf
    | some before =>
      obtain ⟨after, rfl, filled⟩ := narrows.filled before rfl
      have leaf' := mem_compileFilters_of_filled filled narrows.widened leaf
      exact ⟨c, List.mem_append_left _ leaf', rfl, fun _ holds => holds⟩
  · obtain ⟨c', leaf', named, implies⟩ :=
      exists_mem_compileRanges_of_extended narrows.extended leaf
    exact ⟨c', List.mem_append_right _ leaf', named, implies⟩

/-- **Adding constraints only narrows**: a record that is found after states were set, bounds were
added or the fields of ancestors were let count was found before.  The criteria on names whose
states stay are the same, in the same order, and what ancestors ask for comes behind what the type
itself does. -/
theorem compile_narrows (entity : DeclaredType) (value? : String → Option Value) :
    (∀ (filter filter' : Option FilterView) (ranges ranges' : Option RangeFilter)
      (options options' : FilterOptions), Narrows filter filter' ranges ranges' options options' →
        (compile filter' ranges' entity options').accepts value? = true →
        (compile filter ranges entity options).accepts value? = true) ∧
    (∀ (before after : FilterView) (among : String → Bool), before.Changed SlotFilled after →
      (∀ name, among name = true → after.slot? name = before.slot? name) →
      ∀ ranges options, (compile (some after) ranges entity options).filter (among ·.field) =
        (compile (some before) ranges entity options).filter (among ·.field)) ∧
    ∀ (filter : FilterView) (ignoreCase : Bool),
      compileFilters filter ⟨ignoreCase, false⟩ <+: compileFilters filter ⟨ignoreCase, true⟩ := by
  refine ⟨fun filter filter' ranges ranges' options options' narrows accepts => ?_,
    fun before after among filled same ranges options => ?_, fun filter ignoreCase => ?_⟩
  · rw [Criteria.accepts, Criteria.accepts_matcher, List.all_eq_true] at accepts ⊢
    intro c leaf
    obtain ⟨c', leaf', named, implies⟩ := narrows.exists_mem leaf
    exact implies _ (named ▸ accepts c' leaf')
  · rw [compile_eq_append, compile_eq_append, List.filter_append, List.filter_append]
    exact congrArg (· ++ _) (filled.filter_compileFilters_eq same options)
  · exact compileFilters_initial filter ⟨rfl, nofun⟩

section Orders

open Catalogue

/-- A filter of orders by revision, which they inherit, and by whether they are paid. -/
def ordersFilter (paid : Slot Bool) : Filter :=
  .extending (.single "AuditFilter" [⟨field "revision" long, .value ⟨2, by decide⟩⟩])
    "OrderFilter" [⟨field "paid" flag, paid⟩]

/-- Orders of a gross or more, and if there is a limit, of no more than that. -/
def pieces (limit : Option Value) : RangeFilter :=
  RangeFilter.empty.insert "quantity" ⟨some (.integer ⟨144, by decide⟩), limit⟩

/-- A paid order of two hundred pieces. -/
def paidOrder : Record :=
  .extending (.single "AuditRecord" [⟨field "revision" long, ⟨2, by decide⟩⟩])
    "Order" [⟨field "paid" flag, true⟩, ⟨field "quantity" int, ⟨200, by decide⟩⟩]

theorem narrows_paidOrders :
    Narrows (some (ordersFilter .unset).view) (some (ordersFilter (.value true)).view)
      (some (pieces none)) (some (pieces (some (.integer ⟨288, by decide⟩)))) ⟨false, false⟩
      ⟨false, true⟩ where
  filled before some := by
    obtain rfl := Option.some.inj some
    have changed : (ordersFilter .unset).Changed SlotFilled (ordersFilter (.value true)) :=
      ⟨rfl, .cons (Or.inr ⟨rfl, rfl⟩) (.cons (Or.inl rfl) .nil)⟩
    exact ⟨_, rfl, changed.view⟩
  extended := by
    have limited : (pieces none).Extended
        ((pieces none).insert "quantity" ((pieces (some (.integer ⟨288, by decide⟩))).get "quantity")) := by
      refine RangeFilter.extended_insert fun side => ?_
      cases side
      · exact Or.inl rfl
      · exact Or.inr rfl
    exact limited
  widened := ⟨rfl, nofun⟩

theorem compile_narrows_paidOrders :
    (compile (some (ordersFilter (.value true)).view)
        (some (pieces (some (.integer ⟨288, by decide⟩)))) paidOrder.schema.declared
        ⟨false, true⟩).accepts paidOrder.value? = true ∧
      (compile (some (ordersFilter .unset).view) (some (pieces none)) paidOrder.schema.declared
        ⟨false, false⟩).accepts paidOrder.value? = true := by
  have found : (compile (some (ordersFilter (.value true)).view)
      (some (pieces (some (.integer ⟨288, by decide⟩)))) paidOrder.schema.declared
      ⟨false, true⟩).accepts paidOrder.value? = true := rfl
  exact ⟨found, (compile_narrows _ _).1 _ _ _ _ _ _ narrows_paidOrders found⟩

end Orders

end Listing
