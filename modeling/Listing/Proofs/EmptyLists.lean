import Mathlib
import Listing.Catalogue
import Listing.Proofs.Identifiers
import Listing.Proofs.SlotChanges

/-!
# Empty lists in filters

An empty list is meant to ask for nothing, like no list at all.  Compilation passes over it where
it looks at the value.  On an identifier that may be filtered by value it does not look: the empty
list is asked for like any other value.

* `EmptyListRemoved` is the rule by which states change when empty lists are taken away;
* `Declaration.asks_emptyList` says what a declaration makes of an empty list;
* `compile_emptyListsRemoved` says which criteria are lost with the empty lists, and so for which
  filters none is.
-/

namespace Listing

/-- An empty list is taken away. -/
def EmptyListRemoved (before after : Slot Value) : Prop :=
  before = .value (.list []) ∧ after = .unset

/-- The field counts for filters and is an identifier that may be filtered by value. -/
def Declaration.isExactIdentifier (d : Declaration) : Bool :=
  !d.isExcluded && d.isIdentifier && d.has .filterableId

/-- The criterion asks for an empty list. -/
def Criterion.asksEmptyList : Criterion → Bool
  | equals _ (.list []) => true
  | _ => false

/-! ## Empty lists as criteria -/

section Filters

variable {filter before after : FilterView} {options : FilterOptions} {d : Declaration}
  {c : Criterion}

/-- An empty list asks for nothing, but for an identifier that may be filtered by value. -/
theorem Declaration.asks_emptyList (state : filter.slot? d.name = some (.value (.list []))) :
    d.asks filter options =
      if d.isExactIdentifier then some (.equals d.name (.list [])) else none := by
  have marked : (FieldDescriptor.ofDeclaration d).isFilterableIdentifier = d.has .filterableId := rfl
  rw [asks, state, Option.bind_some, compileField_value, isIdentifier_ofDeclaration, marked,
    isExactIdentifier]
  cases d.isExcluded <;> cases d.isIdentifier <;> cases d.has .filterableId <;> rfl

/-- The criterion asks for an empty list on a name whose state is unset in a filter. -/
def Criterion.isLost (c : Criterion) (filter : FilterView) : Bool :=
  c.asksEmptyList && (filter.slot? c.field).any Slot.isUnset

/-- What a filter asks for is not lost on a name that is unset in this filter. -/
theorem isLost_of_asks (asked : d.asks filter options = some c) : c.isLost filter = false := by
  refine eq_false_of_ne_true fun lost => ?_
  obtain ⟨slot, state, unset⟩ := (Option.any_eq_true _ _).1 (Bool.and_eq_true_iff.1 lost).2
  rw [Declaration.asks_field asked] at state
  cases slot <;> cases unset
  rw [Declaration.asks_of_unset state] at asked
  cases asked

/-- Without empty lists a declaration asks for what it asked for, but for what is lost. -/
theorem asks_of_emptyListsRemoved (removed : before.Changed EmptyListRemoved after)
    (d : Declaration) (options : FilterOptions) :
    d.asks after options = (d.asks before options).filter fun c => !c.isLost after := by
  rcases removed.state d.name with same | ⟨old, new, state, state', rfl, rfl⟩
  · rw [← Declaration.asks_congr same]
    cases asked : d.asks after options with
    | none => rfl
    | some c => simp [Option.filter, isLost_of_asks asked]
  · rw [Declaration.asks_of_unset state', Declaration.asks_emptyList state]
    split
    · simp [Option.filter, Criterion.isLost, Criterion.asksEmptyList, Criterion.field, state',
        Slot.isUnset]
    · rfl

/-- Without empty lists a filter asks for what it asked for, but for what is lost. -/
theorem compileFilters_of_emptyListsRemoved (removed : before.Changed EmptyListRemoved after)
    (options : FilterOptions) :
    compileFilters after options =
      (compileFilters before options).filter fun c => !c.isLost after := by
  rw [filter_compileFilters, compileFilters_eq, removed.declared]
  exact List.filterMap_congr fun d _ => asks_of_emptyListsRemoved removed d options

/-- Criteria are lost exactly on the identifiers that may be filtered by value. -/
theorem forall_not_isLost_iff (removed : before.Changed EmptyListRemoved after)
    (options : FilterOptions) :
    (∀ c ∈ compileFilters before options, c.isLost after = false) ↔
      ∀ d ∈ before.declared.upTo options.inherited, d.isExactIdentifier = true →
        after.slot? d.name = before.slot? d.name := by
  rw [compileFilters_eq]
  constructor
  · intro kept d counted exact
    rcases removed.state d.name with same | ⟨old, new, state, state', rfl, rfl⟩
    · exact same
    · have asked : d.asks before options = some (.equals d.name (.list [])) := by
        rw [Declaration.asks_emptyList state, if_pos exact]
      have stays := kept _ (List.mem_filterMap.2 ⟨d, counted, asked⟩)
      rw [Criterion.isLost, Criterion.field, state'] at stays
      cases stays
  · intro same c leaf
    obtain ⟨d, counted, asked⟩ := List.mem_filterMap.1 leaf
    rcases removed.state d.name with stays | ⟨old, new, state, state', rfl, rfl⟩
    · exact isLost_of_asks (Declaration.asks_congr stays ▸ asked)
    · rw [Declaration.asks_emptyList state] at asked
      split at asked
      · rename_i exact
        have stays := same d counted exact
        rw [state, state'] at stays
        cases stays
      · cases asked

theorem isLost_of_mem_compileRanges {entity : DeclaredType} {ranges : RangeFilter}
    (leaf : c ∈ compileRanges entity ranges) : c.isLost filter = false := by
  obtain ⟨name, range, -, -, ok⟩ := mem_compileRanges.1 leaf
  unfold compileRange at ok
  split at ok <;> cases ok <;> rfl

theorem filter_compileRanges (entity : DeclaredType) (ranges : RangeFilter) (filter : FilterView) :
    (compileRanges entity ranges).filter (fun c => !c.isLost filter) =
      compileRanges entity ranges :=
  List.filter_eq_self.2 fun c leaf => by simp [isLost_of_mem_compileRanges leaf]

end Filters

/-! ## The rule and where it fails -/

/-- **Taking empty lists out of a filter loses the criteria that ask for an empty list**, and no
other.  There are such criteria exactly where an empty list was on an identifier that may be
filtered by value; on all other fields an empty list is no filter. -/
theorem compile_emptyListsRemoved {before after : FilterView}
    (removed : before.Changed EmptyListRemoved after) (ranges : Option RangeFilter)
    (entity : DeclaredType) (options : FilterOptions) :
    compile (some after) ranges entity options =
        (compile (some before) ranges entity options).filter (fun c => !c.isLost after) ∧
      (compile (some after) ranges entity options = compile (some before) ranges entity options ↔
        ∀ d ∈ before.declared.upTo options.inherited, d.isExactIdentifier = true →
          after.slot? d.name = before.slot? d.name) := by
  have without : compile (some after) ranges entity options =
      (compile (some before) ranges entity options).filter fun c => !c.isLost after := by
    rw [compile_eq_append, compile_eq_append, List.filter_append, filter_compileRanges]
    exact congrArg (· ++ _) (compileFilters_of_emptyListsRemoved removed options)
  refine ⟨without, ?_⟩
  rw [← forall_not_isLost_iff removed, without, List.filter_eq_self, compile_eq_append]
  constructor
  · intro kept c leaf
    simpa using kept c (List.mem_append_left _ leaf)
  · intro kept c leaf
    rcases List.mem_append.1 leaf with leaf | leaf
    · simp [kept c leaf]
    · simp [isLost_of_mem_compileRanges leaf]

section Groups

open Catalogue

/-- A filter by tags and by groups, with a list of texts and one of numbers. -/
def grouped (tags : Slot (List String)) (groups : Slot (List (Bounded .signed32))) : Filter :=
  .single "OrderFilter" [⟨field "tags" (.list text), tags⟩,
    ⟨marked .filterableId "group_id" (.list int), groups⟩]

/-- Both lists may be taken away if they are empty. -/
theorem grouped_changed (tags : Slot (List String)) (groups : Slot (List (Bounded .signed32)))
    (noTags : tags = .value [] ∨ tags = .unset) (noGroups : groups = .value [] ∨ groups = .unset) :
    (grouped tags groups).Changed EmptyListRemoved (grouped .unset .unset) where
  shape := rfl
  cells := by
    refine .cons ?_ (.cons ?_ .nil)
    · rcases noTags with rfl | rfl
      · exact Or.inr ⟨rfl, rfl, rfl⟩
      · exact Or.inl rfl
    · rcases noGroups with rfl | rfl
      · exact Or.inr ⟨rfl, rfl, rfl⟩
      · exact Or.inl rfl

/-- Without tags the filter asks for nothing either way. -/
theorem compile_emptyListsRemoved_tags :
    (grouped (.value []) .unset).view.Changed EmptyListRemoved (grouped .unset .unset).view ∧
      compile (some (grouped .unset .unset).view) none (grouped .unset .unset).declared .defaults =
        compile (some (grouped (.value []) .unset).view) none (grouped .unset .unset).declared
          .defaults := by
  have removed := (grouped_changed (.value []) .unset (Or.inl rfl) (Or.inr rfl)).view
  refine ⟨removed, ((compile_emptyListsRemoved removed none _ _).2.2 fun d counted exact => ?_)⟩
  rcases List.mem_cons.1 counted with rfl | counted
  · cases exact
  · obtain rfl := List.mem_singleton.1 counted
    rfl

/-- Without groups it asks for an empty list of them, unless the list is taken away. -/
theorem not_forall_compile_emptyListsRemoved :
    compile (some (grouped .unset (.value [])).view) none (grouped .unset .unset).declared .defaults =
        [.equals "group_id" (.list [])] ∧
      compile (some (grouped .unset .unset).view) none (grouped .unset .unset).declared .defaults =
        [] ∧
      ¬ ∀ (before after : FilterView) (ranges : Option RangeFilter) (entity : DeclaredType)
        (options : FilterOptions), before.Changed EmptyListRemoved after →
          compile (some after) ranges entity options =
            compile (some before) ranges entity options := by
  refine ⟨rfl, rfl, fun same => ?_⟩
  have removed := (grouped_changed .unset (.value []) (Or.inr rfl) (Or.inl rfl)).view
  cases same _ _ none (grouped .unset .unset).declared .defaults removed

end Groups

end Listing
