import Mathlib
import Listing.Proofs.Chains
import Listing.Proofs.Shadowing

/-!
# Filters that differ in some states

Two filters of one type may differ in the states of some fields.  How they differ is given by a
rule for one state, and what compilation makes of them is compared declaration by declaration.

* `FilterView.Changed` says that the states of names follow a rule, `Filter.Changed` that all cells
  do, also those that no name means, and `Filter.Changed.view` leads from one to the other;
* `FilterView.Changed.filter_compileFilters_eq` says that the criteria on other names stay.
-/

namespace Listing

/-! ## Criteria of declarations -/

section Asks

variable {filter filter' : FilterView} {options : FilterOptions} {d : Declaration}

/-- A declaration asks for the same where the state of its name is the same. -/
theorem Declaration.asks_congr (same : filter'.slot? d.name = filter.slot? d.name) :
    d.asks filter' options = d.asks filter options := by
  rw [asks, asks, same]

theorem Declaration.asks_of_unset (state : filter.slot? d.name = some .unset) :
    d.asks filter options = none := by
  rw [asks, state]
  exact ite_self none

/-- Leaving criteria out can be done declaration by declaration. -/
theorem filter_compileFilters (filter : FilterView) (options : FilterOptions)
    (keep : Criterion → Bool) :
    (compileFilters filter options).filter keep =
      (filter.declared.upTo options.inherited).filterMap
        fun d => (d.asks filter options).filter keep := by
  rw [compileFilters_eq, List.filter_filterMap]

end Asks

/-! ## Changes of states -/

/-- What compilation sees of two filters of one type, where the states of some names have changed
by a rule. -/
structure FilterView.Changed (rule : Slot Value → Slot Value → Prop) (before after : FilterView) :
    Prop where
  declared : after.declared = before.declared
  state (name : String) : after.slot? name = before.slot? name ∨
    ∃ old new, before.slot? name = some old ∧ after.slot? name = some new ∧ rule old new

/-- Criteria on names whose states are as before stay, and stay in order. -/
theorem FilterView.Changed.filter_compileFilters_eq {rule : Slot Value → Slot Value → Prop}
    {before after : FilterView} (changed : before.Changed rule after) {among : String → Bool}
    (same : ∀ name, among name = true → after.slot? name = before.slot? name)
    (options : FilterOptions) :
    (compileFilters after options).filter (fun c => among c.field) =
      (compileFilters before options).filter fun c => among c.field := by
  rw [filter_compileFilters, filter_compileFilters, changed.declared]
  refine List.filterMap_congr fun d _ => ?_
  by_cases inside : among d.name = true
  · rw [Declaration.asks_congr (same d.name inside)]
  · have outside (filter : FilterView) :
        (d.asks filter options).filter (fun c => among c.field) = none := by
      refine Option.filter_eq_none_iff.2 fun c asked => ?_
      rwa [Declaration.asks_field asked]
    rw [outside, outside]

/-- A cell of a filter is as before, or its state has changed by a rule. -/
def Cell.Changed (rule : Slot Value → Slot Value → Prop) (before after : Cell) : Prop :=
  after = before ∨ after.field = before.field ∧ rule before.lowered after.lowered

/-- Two filters of one type, where the states of some cells have changed by a rule. -/
structure Filter.Changed (rule : Slot Value → Slot Value → Prop) (before after : Filter) :
    Prop where
  shape : after.shape = before.shape
  cells : List.Forall₂ (Cell.Changed rule) before.all after.all

section Changed

variable {rule : Slot Value → Slot Value → Prop}

theorem Cell.Changed.field_eq {before after : Cell} (changed : before.Changed rule after) :
    after.field = before.field := by
  rcases changed with rfl | ⟨same, -⟩
  · rfl
  · exact same

theorem fields_of_changed {cells cells' : List Cell}
    (changed : List.Forall₂ (Cell.Changed rule) cells cells') :
    cells'.map Cell.field = cells.map Cell.field := by
  induction changed with
  | nil => rfl
  | cons first _ ih => rw [List.map_cons, List.map_cons, first.field_eq, ih]

/-- A name means the same place before and after. -/
theorem find?_of_changed {cells cells' : List Cell} (name : String)
    (changed : List.Forall₂ (Cell.Changed rule) cells cells') :
    cells'.find? (·.field.name = name) = cells.find? (·.field.name = name) ∨
      ∃ old new, cells.find? (·.field.name = name) = some old ∧
        cells'.find? (·.field.name = name) = some new ∧ rule old.lowered new.lowered := by
  induction changed with
  | nil => exact Or.inl rfl
  | @cons old new rest rest' first _ ih =>
    simp only [List.find?_cons, first.field_eq]
    cases decide (old.field.name = name) with
    | true =>
      rcases first with rfl | ⟨-, follows⟩
      · exact Or.inl rfl
      · exact Or.inr ⟨old, new, rfl, rfl, follows⟩
    | false => exact ih

/-- A changed filter has the same fields. -/
theorem Filter.Changed.schema_eq {before after : Filter} (changed : before.Changed rule after) :
    after.schema = before.schema := by
  refine Chain.ext_all ?_ ?_
  · rw [Filter.schema, Filter.schema, Chain.shape_map, Chain.shape_map, changed.shape]
  · rw [Filter.schema, Filter.schema, Chain.all_map, Chain.all_map, fields_of_changed changed.cells]

/-- Of changed cells compilation sees those that names mean. -/
theorem Filter.Changed.view {before after : Filter} (changed : before.Changed rule after) :
    before.view.Changed rule after.view where
  declared := congrArg Schema.declared changed.schema_eq
  state name := by
    change (after.all.find? _).map Cell.lowered = (before.all.find? _).map Cell.lowered ∨
      ∃ old new, (before.all.find? _).map Cell.lowered = some old ∧
        (after.all.find? _).map Cell.lowered = some new ∧ rule old new
    rcases find?_of_changed name changed.cells with same | ⟨old, new, found, found', follows⟩
    · exact Or.inl (congrArg _ same)
    · exact Or.inr ⟨old.lowered, new.lowered, by rw [found]; rfl, by rw [found']; rfl, follows⟩

end Changed

end Listing
