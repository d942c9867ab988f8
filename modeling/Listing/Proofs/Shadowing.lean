import Mathlib
import Listing.Proofs.Chains
import Listing.Proofs.Visibility

/-!
# Names declared again

A type may declare a name again that one of its ancestors declares.  A filter then has one
state for the name, that of the nearest declaration, while classification shows every
declaration that is not hidden.  Each of those asks for something on its own, given the one
state, so that a name can get several criteria, and some that its nearest declaration forbids.

* `forField_compileFilters` says what a filter asks for on a name, declaration by declaration;
* `nearestDecides_iff` says for which types the nearest declaration alone decides, and
  `compileFilters_nearest` puts the two together;
* `forField_compileFilters_of_distinct` is the case of a type that declares no name twice.
-/

namespace Listing

/-! ## Criteria on one name -/

/-- The declarations of a name, the nearest first; those of ancestors only on request. -/
def DeclaredType.declarations (t : DeclaredType) (inherited : Bool) (name : String) :
    List Declaration :=
  (t.upTo inherited).filter (·.name = name)

/-- What a declaration makes of the state that a filter has for its name. -/
def Declaration.asks (d : Declaration) (filter : FilterView) (options : FilterOptions) :
    Option Criterion :=
  if d.isExcluded then none
  else (filter.slot? d.name).bind fun slot => compileField (.ofDeclaration d) slot options

theorem Declaration.asks_field {d : Declaration} {filter : FilterView} {options : FilterOptions}
    {c : Criterion} (ok : d.asks filter options = some c) : c.field = d.name := by
  unfold asks at ok
  split at ok
  · cases ok
  · obtain ⟨slot, -, ok⟩ := Option.bind_eq_some_iff.1 ok
    exact compileField_field ok

theorem compileFilters_eq (filter : FilterView) (options : FilterOptions) :
    compileFilters filter options =
      (filter.declared.upTo options.inherited).filterMap fun d => d.asks filter options := by
  unfold compileFilters classify classifyAll
  rw [List.filterMap_map, List.filterMap_filter]
  refine List.filterMap_congr fun d _ => ?_
  unfold Declaration.asks
  cases d.isExcluded <;> rfl

/-- Every declaration of a name asks for what it makes of the one state of the name. -/
theorem forField_compileFilters (filter : FilterView) (options : FilterOptions)
    (name : String) :
    (compileFilters filter options).forField name =
      (filter.declared.declarations options.inherited name).filterMap
        fun d => d.asks filter options := by
  rw [compileFilters_eq, Criteria.forField, DeclaredType.declarations, List.filter_filterMap,
    List.filterMap_filter]
  refine List.filterMap_congr fun d _ => ?_
  cases asked : d.asks filter options with
  | none => simp
  | some c =>
    have named : c.field = d.name := Declaration.asks_field asked
    by_cases same : d.name = name <;> simp [Option.filter, named, same]

/-! ## The nearest declaration -/

/-- What the nearest declaration of a name asks for. -/
def FilterView.nearestAsks (filter : FilterView) (options : FilterOptions) (name : String) :
    Option Criterion :=
  (filter.declared.declarations options.inherited name).head?.bind fun d => d.asks filter options

/-- In every filter of a type the nearest declaration of a name decides which criterion there
is on the name, if there is one. -/
def NearestDecides (schema : Schema) (inherited : Bool) : Prop :=
  ∀ (filter : Filter) (options : FilterOptions),
    filter.schema = schema → options.inherited = inherited →
      ∀ name, (compileFilters filter.view options).forField name =
        (filter.view.nearestAsks options name).toList

/-- A hidden declaration asks for nothing. -/
theorem Declaration.asks_of_isExcluded {d : Declaration} (hidden : d.isExcluded = true)
    (filter : FilterView) (options : FilterOptions) : d.asks filter options = none :=
  if_pos hidden

/-- The declaration of an identifier that is not marked for it makes nothing of a value. -/
theorem Declaration.asks_of_isIdentifier {d : Declaration} {filter : FilterView} {value : Value}
    (identifier : (FieldDescriptor.ofDeclaration d).isIdentifier = true)
    (unmarked : d.has .filterableId = false) (state : filter.slot? d.name = some (.value value))
    (options : FilterOptions) : d.asks filter options = none := by
  have unmarked : ¬ (FieldDescriptor.ofDeclaration d).isFilterableIdentifier = true :=
    ne_true_of_eq_false unmarked
  rw [asks, state, Option.bind_some, compileField_value, if_pos identifier, if_neg unmarked,
    ite_self, ite_self]

/-- The filter of a type that asks for null on every field. -/
def Filter.nulls (schema : Schema) : Filter := schema.map fun field => ⟨field, .isNull⟩

theorem Filter.schema_nulls (schema : Schema) : (Filter.nulls schema).schema = schema := by
  simp [nulls, Filter.schema, Chain.map, Level.map, Function.comp_def]

/-- A name that is declared has a state that asks for null. -/
theorem Filter.slot?_nulls {schema : Schema} {d : Declaration} (declared : d ∈ schema.declared.all) :
    (Filter.nulls schema).slot? d.name = some .isNull := by
  rw [Schema.declared, Chain.all_map] at declared
  obtain ⟨field, member, rfl⟩ := List.mem_map.1 declared
  have cells : (Filter.nulls schema).all = schema.all.map fun field => ⟨field, .isNull⟩ :=
    Chain.all_map _ schema
  rw [slot?, cell?, Chain.find?, cells]
  cases found : (schema.all.map fun field => (⟨field, .isNull⟩ : Cell)).find?
      fun cell => decide (cell.field.name = field.declaration.name) with
  | none =>
    refine absurd (decide_eq_true rfl) (List.find?_eq_none.1 found ⟨field, .isNull⟩ ?_)
    exact List.mem_map_of_mem member
  | some cell =>
    obtain ⟨field', -, rfl⟩ := List.mem_map.1 (List.mem_of_find?_eq_some found)
    rfl

/-- Where every field asks for null, every visible declaration does. -/
theorem asks_nulls {schema : Schema} {d : Declaration} (declared : d ∈ schema.declared.all)
    (options : FilterOptions) :
    d.asks (Filter.nulls schema).view options =
      if d.isExcluded then none else some (.isNull d.name) := by
  have state : (Filter.nulls schema).view.slot? d.name = some .isNull :=
    Filter.slot?_nulls declared
  rw [Declaration.asks, state]
  rfl

/-- The nearest declaration decides exactly if every further declaration of its name is
hidden. -/
theorem nearestDecides_iff {schema : Schema} {inherited : Bool} :
    NearestDecides schema inherited ↔
      ∀ name, ∀ d ∈ (schema.declared.declarations inherited name).tail, d.isExcluded = true := by
  constructor
  -- A filter that asks for null everywhere makes every declaration speak that is not hidden.
  · intro decides name d further
    have only := decides (Filter.nulls schema) ⟨false, inherited⟩ (Filter.schema_nulls schema) rfl
      name
    have declared : (Filter.nulls schema).view.declared = schema.declared :=
      congrArg Schema.declared (Filter.schema_nulls schema)
    rw [forField_compileFilters, FilterView.nearestAsks, declared] at only
    have among : ∀ d ∈ schema.declared.declarations inherited name, d ∈ schema.declared.all :=
      fun d member =>
        (schema.declared.upTo_sublist_all inherited).subset (List.mem_of_mem_filter member)
    cases listed : schema.declared.declarations inherited name with
    | nil => rw [listed] at further; cases further
    | cons nearest others =>
      rw [listed] at further only among
      have none : others.filterMap
          (fun d => d.asks (Filter.nulls schema).view ⟨false, inherited⟩) = [] := by
        cases first : nearest.asks (Filter.nulls schema).view ⟨false, inherited⟩ <;>
          simpa [List.filterMap_cons, first] using only
      have silent := List.filterMap_eq_nil_iff.1 none d further
      rw [asks_nulls (among d (List.mem_cons_of_mem _ further))] at silent
      by_contra visible
      rw [if_neg visible] at silent
      cases silent
  · rintro hidden filter options rfl rfl name
    have hidden := hidden name
    rw [forField_compileFilters, FilterView.nearestAsks]
    change ∀ d ∈ (filter.view.declared.declarations options.inherited name).tail, _ at hidden
    cases listed : filter.view.declared.declarations options.inherited name with
    | nil => rfl
    | cons nearest others =>
      rw [listed] at hidden
      have silent : others.filterMap (fun d => d.asks filter.view options) = [] :=
        List.filterMap_eq_nil_iff.2 fun d member => d.asks_of_isExcluded (hidden d member) _ _
      cases first : nearest.asks filter.view options <;> simp [first, silent]

/-! ## Names declared once -/

theorem filter_name_eq_singleton {ds : List Declaration} (distinct : (ds.map (·.name)).Nodup)
    {d : Declaration} (member : d ∈ ds) : ds.filter (·.name = d.name) = [d] := by
  induction ds with
  | nil => cases member
  | cons first rest ih =>
    obtain ⟨fresh, distinct⟩ := List.nodup_cons.1 distinct
    rcases List.mem_cons.1 member with rfl | later
    · have none : rest.filter (·.name = d.name) = [] := by
        refine List.filter_eq_nil_iff.2 fun d' member => ?_
        simpa using fun same => fresh (List.mem_map.2 ⟨d', member, same⟩)
      simp [none]
    · have other : first.name ≠ d.name :=
        fun same => fresh (List.mem_map.2 ⟨d, later, same.symm⟩)
      simpa [other] using ih distinct later

/-- Where no name is declared twice, nothing is behind the nearest declaration of one. -/
theorem tail_declarations_of_distinct {t : DeclaredType} {inherited : Bool}
    (distinct : ((t.upTo inherited).map (·.name)).Nodup) (name : String) :
    (t.declarations inherited name).tail = [] := by
  cases listed : t.declarations inherited name with
  | nil => rfl
  | cons nearest others =>
    have member : nearest ∈ t.declarations inherited name := listed ▸ List.mem_cons_self
    obtain ⟨declared, named⟩ := List.mem_filter.1 member
    obtain rfl : nearest.name = name := by simpa using named
    have alone : t.declarations inherited nearest.name = [nearest] :=
      filter_name_eq_singleton distinct declared
    rw [listed] at alone
    exact (List.cons.inj alone).2

/-- On a name that is declared once a filter asks for what its declaration makes of the state,
if the declaration counts at all. -/
theorem forField_compileFilters_of_distinct {filter : FilterView} {options : FilterOptions}
    (distinct : (filter.declared.all.map (·.name)).Nodup) {d : Declaration}
    (declared : d ∈ filter.declared.all) :
    (compileFilters filter options).forField d.name =
      if d ∈ filter.declared.upTo options.inherited then (d.asks filter options).toList
      else [] := by
  have sublist := filter.declared.upTo_sublist_all options.inherited
  rw [forField_compileFilters]
  split
  · rename_i counted
    rw [DeclaredType.declarations,
      filter_name_eq_singleton (distinct.sublist (sublist.map _)) counted]
    cases asked : d.asks filter options <;> simp [asked]
  · rename_i notCounted
    have none : filter.declared.declarations options.inherited d.name = [] := by
      refine List.filter_eq_nil_iff.2 fun d' member => ?_
      simp only [decide_eq_true_eq]
      intro same
      have unique := List.inj_on_of_nodup_map distinct (sublist.subset member) declared same
      exact notCounted (unique ▸ member)
    rw [none, List.filterMap_nil]

/-! ## The rule and where it fails -/

/-- **Every visible declaration of a name asks for something**, given the state of the nearest
one.  So the nearest declaration decides exactly on the types where all others of its name are
hidden, among them all types whose ancestors do not count. -/
theorem compileFilters_nearest (schema : Schema) :
    (∀ (filter : Filter) (options : FilterOptions) (name : String),
      (compileFilters filter.view options).forField name =
        (filter.declared.declarations options.inherited name).filterMap
          fun d => d.asks filter.view options) ∧
    (∀ inherited, NearestDecides schema inherited ↔
      ∀ name, ∀ d ∈ (schema.declared.declarations inherited name).tail, d.isExcluded = true) ∧
    ((schema.declared.own.entries.map (·.name)).Nodup → NearestDecides schema false) ∧
    ∀ (d : Declaration) (filter : FilterView) (options : FilterOptions),
      d.isExcluded = true ∨ ((FieldDescriptor.ofDeclaration d).isIdentifier = true ∧
        d.has .filterableId = false ∧ ∃ value, filter.slot? d.name = some (.value value)) →
      d.asks filter options = none := by
  refine ⟨fun filter => forField_compileFilters filter.view, fun _ => nearestDecides_iff,
    fun distinct => ?_, ?_⟩
  · refine nearestDecides_iff.2 fun name d further => ?_
    have own : ((schema.declared.upTo false).map (·.name)).Nodup := distinct
    rw [tail_declarations_of_distinct own name] at further
    cases further
  · rintro d filter options (hidden | ⟨identifier, unmarked, value, state⟩)
    · exact d.asks_of_isExcluded hidden filter options
    · exact d.asks_of_isIdentifier identifier unmarked state options

/-- Assets have a name, and they can be filtered by owner and branch; accounts hide the owner
and do not let the branch be filtered. -/
def sealedAccount : Schema :=
  .extending
    (.single "Asset" [⟨"name", .atom .text, []⟩, ⟨"owner", .atom .text, []⟩,
      ⟨"branch_id", .atom .text, [.filterableId]⟩])
    "Account" [⟨"name", .atom .text, []⟩, ⟨"owner", .atom .text, [.transient]⟩,
      ⟨"branch_id", .atom .text, []⟩]

/-- A filter of accounts by all three. -/
def sealedFilter : Filter :=
  .extending
    (.single "Asset" [⟨⟨"name", .atom .text, []⟩, .unset⟩, ⟨⟨"owner", .atom .text, []⟩, .unset⟩,
      ⟨⟨"branch_id", .atom .text, [.filterableId]⟩, .unset⟩])
    "Account" [⟨⟨"name", .atom .text, []⟩, .value "main"⟩,
      ⟨⟨"owner", .atom .text, [.transient]⟩, .value "ann"⟩,
      ⟨⟨"branch_id", .atom .text, []⟩, .value "north"⟩]

/-- The further declarations ask as well: again for the name, and for the owner and the branch,
which the nearest ones forbid. -/
theorem compileFilters_sealedFilter :
    sealedFilter.schema = sealedAccount ∧
      compileFilters sealedFilter.view ⟨false, true⟩ =
        [.like "name" "%main%" false, .like "name" "%main%" false, .like "owner" "%ann%" false,
          .equals "branch_id" (.text "north")] ∧
      sealedFilter.view.nearestAsks ⟨false, true⟩ "owner" = none ∧
      sealedFilter.view.nearestAsks ⟨false, true⟩ "branch_id" = none ∧
      ¬ NearestDecides sealedAccount true := by
  refine ⟨rfl, rfl, rfl, rfl, fun decides => ?_⟩
  have hidden := nearestDecides_iff.1 decides "owner" ⟨"owner", .text, []⟩ (by decide)
  exact absurd hidden (by decide)

end Listing
