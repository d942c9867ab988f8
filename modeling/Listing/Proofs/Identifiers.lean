import Mathlib
import Listing.Proofs.Shadowing

/-!
# What can be asked of identifiers

A field is an identifier because it is marked as one, because it is called `id`, or because its
name ends like that of one.  Whichever it is, the same is asked of it: whether it is there, and
its exact value if it is marked for that.  Fields of filters are judged by the type of the
filter, ranges by the type of the records.

* `isIdentifier_ofDeclaration` brings the three reasons together;
* `compileField_identifier` is the rule for one field in one state;
* `compile_identifiers` is the rule for whole compilations of types that declare no name twice.
-/

namespace Listing

/-! ## Identifiers -/

/-- The declaration is that of an identifier, by its marker or by its name. -/
def Declaration.isIdentifier (d : Declaration) : Bool := d.has .primaryId || isIdLike d.name

/-- An identifier that may be filtered by value is not a primary one for the end of its name,
but remains an identifier for it. -/
theorem isIdentifier_ofDeclaration (d : Declaration) :
    (FieldDescriptor.ofDeclaration d).isIdentifier = d.isIdentifier := by
  simp only [FieldDescriptor.isIdentifier, FieldDescriptor.ofDeclaration, Declaration.isIdentifier,
    isIdLike]
  cases d.has .primaryId <;> cases d.has .filterableId <;> cases hasIdSuffix d.name <;> simp

/-- The criterion of a sentinel. -/
def Sentinel.criterion (name : String) : Sentinel → Criterion
  | .null => .isNull name
  | .notNull => .isNotNull name

theorem compileField_marked (field : FieldDescriptor) (sentinel : Sentinel)
    (options : FilterOptions) :
    compileField field (.marked sentinel) options = some (sentinel.criterion field.name) := by
  cases sentinel <;> rfl

/-- The only criteria on an identifier are that of a sentinel and the exact value, the latter
where the field is marked for it. -/
theorem compileField_identifier {field : FieldDescriptor} {slot : Slot Value}
    {options : FilterOptions} {c : Criterion} (identifier : field.isIdentifier = true)
    (ok : compileField field slot options = some c) :
    (∃ sentinel, slot = .marked sentinel ∧ c = sentinel.criterion field.name) ∨
      field.isFilterableIdentifier = true ∧
        ∃ value, slot = .value value ∧ c = .equals field.name value := by
  cases slot with
  | unset => cases ok
  | isNull => exact Or.inl ⟨.null, rfl, (Option.some.inj ok).symm⟩
  | isNotNull => exact Or.inl ⟨.notNull, rfl, (Option.some.inj ok).symm⟩
  | value v =>
    rw [compileField_value, if_pos identifier] at ok
    split at ok
    · cases ok
    · split at ok
      · rename_i marked
        exact Or.inr ⟨marked, v, rfl, (Option.some.inj ok).symm⟩
      · cases ok

/-! ## Fields of filters -/

section Filters

variable {filter : FilterView} {options : FilterOptions} {d : Declaration}

/-- A criterion on a name that is declared once comes from its declaration. -/
theorem asks_of_mem_compileFilters (distinct : (filter.declared.all.map (·.name)).Nodup)
    (declared : d ∈ filter.declared.all) {c : Criterion} (leaf : c ∈ compileFilters filter options)
    (named : c.field = d.name) : d.asks filter options = some c := by
  have only : c ∈ (compileFilters filter options).forField d.name :=
    List.mem_filter.2 ⟨leaf, decide_eq_true named⟩
  rw [forField_compileFilters_of_distinct distinct declared] at only
  split at only
  · exact Option.mem_toList.1 only
  · cases only

/-- A criterion on an identifier comes from a sentinel, or from the value of one that is meant to be
filtered by. -/
theorem identifier_of_mem_compileFilters (distinct : (filter.declared.all.map (·.name)).Nodup)
    (declared : d ∈ filter.declared.all) (identifier : d.isIdentifier = true) {c : Criterion}
    (leaf : c ∈ compileFilters filter options) (named : c.field = d.name) :
    (∃ sentinel, filter.slot? d.name = some (.marked sentinel) ∧ c = sentinel.criterion d.name) ∨
      d.has .filterableId = true ∧
        ∃ value, filter.slot? d.name = some (.value value) ∧ c = .equals d.name value := by
  have asked := asks_of_mem_compileFilters distinct declared leaf named
  unfold Declaration.asks at asked
  split at asked
  · cases asked
  · obtain ⟨slot, state, ok⟩ := Option.bind_eq_some_iff.1 asked
    rw [← isIdentifier_ofDeclaration] at identifier
    rcases compileField_identifier identifier ok with
      ⟨sentinel, rfl, same⟩ | ⟨marked, value, rfl, same⟩
    · exact Or.inl ⟨sentinel, state, same⟩
    · exact Or.inr ⟨marked, value, state, same⟩

/-- A value on an identifier that is not marked for it contributes nothing. -/
theorem forField_compileFilters_unmarked (distinct : (filter.declared.all.map (·.name)).Nodup)
    (declared : d ∈ filter.declared.all) (identifier : d.isIdentifier = true)
    (unmarked : d.has .filterableId = false) {value : Value}
    (state : filter.slot? d.name = some (.value value)) :
    (compileFilters filter options).forField d.name = [] := by
  rw [forField_compileFilters_of_distinct distinct declared,
    d.asks_of_isIdentifier (by rwa [isIdentifier_ofDeclaration]) unmarked state]
  exact ite_self []

/-- A value on an identifier that counts and is marked for it contributes itself. -/
theorem forField_compileFilters_value (distinct : (filter.declared.all.map (·.name)).Nodup)
    (counted : d ∈ filter.declared.upTo options.inherited) (visible : d.isExcluded = false)
    (identifier : d.isIdentifier = true) (marked : d.has .filterableId = true) {value : Value}
    (state : filter.slot? d.name = some (.value value)) (present : value.isNull = false) :
    (compileFilters filter options).forField d.name = [.equals d.name value] := by
  have declared := (filter.declared.upTo_sublist_all options.inherited).subset counted
  have asked : compileField (.ofDeclaration d) (.value value) options =
      some (.equals d.name value) := by
    rw [compileField_value, if_neg (ne_true_of_eq_false present),
      if_pos ((isIdentifier_ofDeclaration d).trans identifier)]
    exact if_pos marked
  rw [forField_compileFilters_of_distinct distinct declared, if_pos counted, Declaration.asks,
    if_neg (ne_true_of_eq_false visible), state, Option.bind_some, asked]
  rfl

/-- A sentinel contributes itself, on every field that counts. -/
theorem forField_compileFilters_marked (distinct : (filter.declared.all.map (·.name)).Nodup)
    (counted : d ∈ filter.declared.upTo options.inherited) (visible : d.isExcluded = false)
    {sentinel : Sentinel} (state : filter.slot? d.name = some (.marked sentinel)) :
    (compileFilters filter options).forField d.name = [sentinel.criterion d.name] := by
  have declared := (filter.declared.upTo_sublist_all options.inherited).subset counted
  rw [forField_compileFilters_of_distinct distinct declared, if_pos counted, Declaration.asks,
    if_neg (ne_true_of_eq_false visible), state, Option.bind_some, compileField_marked]
  rfl

end Filters

/-! ## Ranges -/

/-- No range is compiled on a visible identifier of the records. -/
theorem field_ne_of_mem_compileRanges {entity : DeclaredType}
    (distinct : (entity.all.map (·.name)).Nodup) {d : Declaration} (declared : d ∈ entity.all)
    (visible : d.isExcluded = false) (identifier : d.isIdentifier = true) {ranges : RangeFilter}
    {c : Criterion} (leaf : c ∈ compileRanges entity ranges) : c.field ≠ d.name := by
  intro named
  have shown : FieldDescriptor.ofDeclaration d ∈ classify entity true :=
    mem_classify.2 ⟨d, declared, visible, rfl⟩
  have found : findField entity d.name true = some (.ofDeclaration d) :=
    findField_of_mem distinct shown
  obtain ⟨passed, -⟩ := exists_compileRanges_iff.1 ⟨c, leaf, named⟩
  rw [found, Option.any_some, isIdentifier_ofDeclaration, identifier] at passed
  cases passed

/-! ## Whole compilations -/

/-- **Identifiers are never matched loosely.**  In a compilation every criterion that a filter
has on an identifier is that of a sentinel or its exact value, the latter exactly where the
field is marked for it; other values contribute nothing, and no range is compiled on an
identifier of the records.  A sentinel contributes itself, whatever its field held before. -/
theorem compile_identifiers (filter : FilterView) (ranges : RangeFilter) (entity : DeclaredType)
    (options : FilterOptions) (distinct : (filter.declared.all.map (·.name)).Nodup)
    (distinctRecord : (entity.all.map (·.name)).Nodup) :
    ∃ regular ranged : Criteria,
      compile (some filter) (some ranges) entity options = regular ++ ranged ∧
      compile (some filter) none entity options = regular ∧
      compile none (some ranges) entity options = ranged ∧
      (∀ d ∈ filter.declared.all, d.isIdentifier = true →
        (∀ c ∈ regular, c.field = d.name →
          (∃ sentinel, filter.slot? d.name = some (.marked sentinel) ∧
            c = sentinel.criterion d.name) ∨
          d.has .filterableId = true ∧
            ∃ value, filter.slot? d.name = some (.value value) ∧ c = .equals d.name value) ∧
        (d.has .filterableId = false →
          ∀ value, filter.slot? d.name = some (.value value) → regular.forField d.name = [])) ∧
      (∀ d ∈ entity.all, d.isExcluded = false → d.isIdentifier = true →
        ∀ c ∈ ranged, c.field ≠ d.name) ∧
      ∀ d ∈ filter.declared.upTo options.inherited, d.isExcluded = false →
        (∀ value, filter.slot? d.name = some (.value value) → value.isNull = false →
          d.isIdentifier = true → d.has .filterableId = true →
            regular.forField d.name = [.equals d.name value]) ∧
        (∀ sentinel, filter.slot? d.name = some (.marked sentinel) →
          regular.forField d.name = [sentinel.criterion d.name]) ∧
        ∀ (before : Filter) (sentinel : Sentinel),
          (before.mark d.name sentinel).map Filter.view = some filter →
            regular.forField d.name = [sentinel.criterion d.name] := by
  refine ⟨compileFilters filter options, compileRanges entity ranges, rfl, List.append_nil _, rfl,
    fun d declared identifier => ⟨fun c leaf named => ?_, fun unmarked value state => ?_⟩,
    fun d declared visible identifier c leaf => ?_, fun d counted visible =>
      ⟨fun value state present identifier marked => ?_, fun sentinel state => ?_,
        fun before sentinel put => ?_⟩⟩
  · exact identifier_of_mem_compileFilters distinct declared identifier leaf named
  · exact forField_compileFilters_unmarked distinct declared identifier unmarked state
  · exact field_ne_of_mem_compileRanges distinctRecord declared visible identifier leaf
  · exact forField_compileFilters_value distinct counted visible identifier marked state present
  · exact forField_compileFilters_marked distinct counted visible state
  · obtain ⟨marked, done, rfl⟩ := Option.map_eq_some_iff.1 put
    exact forField_compileFilters_marked distinct counted visible (Filter.slot?_mark done)

/-- A filter of visits, which are events, by number and branch. -/
def visitFilter : Filter :=
  .extending (.single "Event" [⟨⟨"createdAt", .atom .instant, []⟩, .isNotNull⟩]) "Visit"
    [⟨⟨"id", .atom .text, []⟩, .value "7"⟩,
      ⟨⟨"branchId", .atom .text, [.filterableId]⟩, .value "north"⟩]

/-- A lower bound on the branch. -/
def branchesFrom : RangeFilter :=
  RangeFilter.empty.insert "branchId" ⟨some (.text "east"), none⟩

/-- The number of a visit is passed over, its branch is compared exactly and has no range, and
the time that an event must have is asked for. -/
theorem compile_identifiers_visit :
    (visitFilter.declared.all.map (·.name)).Nodup ∧
      ∃ regular ranged : Criteria,
        compile (some visitFilter.view) (some branchesFrom) visitFilter.declared ⟨true, true⟩ =
          regular ++ ranged ∧
        regular.forField "id" = [] ∧
        regular.forField "branchId" = [.equals "branchId" (.text "north")] ∧
        regular.forField "createdAt" = [.isNotNull "createdAt"] ∧
        ∀ c ∈ ranged, c.field ≠ "branchId" := by
  have distinct : (visitFilter.declared.all.map (·.name)).Nodup := by decide
  obtain ⟨regular, ranged, whole, -, -, identifiers, records, counted⟩ :=
    compile_identifiers visitFilter.view branchesFrom visitFilter.declared ⟨true, true⟩ distinct
      distinct
  refine ⟨distinct, regular, ranged, whole, ?_, ?_, ?_, ?_⟩
  · exact (identifiers ⟨"id", .text, []⟩ (by decide) (by decide)).2 rfl (.text "7") rfl
  · exact (counted ⟨"branchId", .text, [.filterableId]⟩ (by decide) (by decide)).1 (.text "north")
      rfl rfl (by decide) rfl
  · exact (counted ⟨"createdAt", .temporal, []⟩ (by decide) (by decide)).2.1 .notNull rfl
  · exact records ⟨"branchId", .text, [.filterableId]⟩ (by decide) (by decide) (by decide)

end Listing
