import Mathlib
import Listing.Parameter
import Listing.Proofs.Visibility

/-!
# Documented parameters have an effect

Documentation and compilation look at fields through different predicates: the first at
primary identifiers that are not filterable and at fields that accept ranges, the second at
identifiers of any kind.  They agree all the same, since the name of a field that is an
identifier without being filterable makes it a primary one.

* `FieldParameter` names the parameters that a field can have, with names that tell both the
  field and the parameter;
* `isDescribed_name_iff` says which of them are described;
* `describe_agrees` is the comparison with compilation.
-/

namespace Listing

/-! ## The parameters of a field -/

/-- The parameters that a field can have: for its value and for the two bounds on it. -/
inductive FieldParameter where
  | exact
  | lower
  | upper
  deriving DecidableEq

namespace FieldParameter

/-- The name of a parameter before the name of the field. -/
def opening : FieldParameter → String
  | exact => "filters."
  | lower | upper => "rangeFilters.ranges["

/-- The name of a parameter after the name of the field. -/
def closing : FieldParameter → String
  | exact => ""
  | lower => "].from"
  | upper => "].to"

/-- The name of the parameter for the field with a name. -/
def name (p : FieldParameter) (field : String) : String := p.opening ++ field ++ p.closing

/-- The first character of the names of a parameter. -/
def initial : FieldParameter → Char
  | exact => 'f'
  | lower | upper => 'r'

theorem head?_name (p : FieldParameter) (field : String) :
    (p.name field).toList.head? = some p.initial := by
  rw [name, String.toList_append, String.toList_append]
  cases p <;> rfl

/-- The last character of a name is the last one after the field, if there is one there. -/
theorem getLast?_name {p : FieldParameter} {c : Char}
    (ends : p.closing.toList.getLast? = some c) (field : String) :
    (p.name field).toList.getLast? = some c := by
  rw [name, String.toList_append, List.getLast?_append, ends]
  rfl

/-- The name of a parameter tells the parameter and the field. -/
theorem name_inj {p p' : FieldParameter} {field field' : String} :
    p.name field = p'.name field' ↔ p = p' ∧ field = field' := by
  constructor
  · intro same
    have chars := congrArg String.toList same
    have heads := congrArg List.head? chars
    rw [head?_name, head?_name] at heads
    have lasts := congrArg List.getLast? chars
    cases p <;> cases p'
    case exact.exact | lower.lower | upper.upper =>
      exact ⟨rfl, (String.append_right_inj _).1 ((String.append_left_inj _).1 same)⟩
    case exact.lower | exact.upper | lower.exact | upper.exact =>
      exact absurd (Option.some.inj heads) (by decide)
    case lower.upper =>
      rw [getLast?_name (c := 'm') rfl, getLast?_name (c := 'o') rfl] at lasts
      exact absurd (Option.some.inj lasts) (by decide)
    case upper.lower =>
      rw [getLast?_name (c := 'o') rfl, getLast?_name (c := 'm') rfl] at lasts
      exact absurd (Option.some.inj lasts) (by decide)
  · rintro ⟨rfl, rfl⟩
    rfl

end FieldParameter

/-- The parameters that a classified field has. -/
def FieldDescriptor.parameters (f : FieldDescriptor) : List FieldParameter :=
  if f.isPrimaryIdentifier && !f.isFilterableIdentifier then []
  else if f.isPrimaryIdentifier || !f.acceptsRange then [.exact]
  else [.exact, .lower, .upper]

/-- What is described of a field are its parameters, each under its name. -/
theorem map_name_describeField (f : FieldDescriptor) :
    (describeField f).map (·.name) = f.parameters.map (·.name f.name) := by
  have exact : FieldParameter.exact.name f.name = "filters." ++ f.name := String.append_empty
  unfold describeField FieldDescriptor.parameters
  split
  · rfl
  · split
    · exact congrArg (· :: _) exact.symm
    · exact congrArg (· :: _) exact.symm

theorem FieldDescriptor.nodup_parameters (f : FieldDescriptor) : f.parameters.Nodup := by
  unfold parameters
  split
  · decide
  · split <;> decide

/-- A field can be filtered by value unless it is the primary identifier and not meant to be
filtered by. -/
theorem FieldDescriptor.exact_mem_parameters_iff {f : FieldDescriptor} :
    .exact ∈ f.parameters ↔
      f.isPrimaryIdentifier = false ∨ f.isFilterableIdentifier = true := by
  cases primary : f.isPrimaryIdentifier <;> cases marked : f.isFilterableIdentifier <;>
    cases accepts : f.acceptsRange <;> simp [parameters, primary, marked, accepts]

/-- A field has bounds if it accepts ranges and is not the primary identifier. -/
theorem FieldDescriptor.lower_mem_parameters_iff {f : FieldDescriptor} :
    .lower ∈ f.parameters ↔ f.isPrimaryIdentifier = false ∧ f.acceptsRange = true := by
  cases primary : f.isPrimaryIdentifier <;> cases accepts : f.acceptsRange <;>
    simp [parameters, primary, accepts]

/-- The value of a visible field has a parameter exactly if compilation accepts a value. -/
theorem FieldDescriptor.exact_mem_parameters_iff_of_visible {t : DeclaredType}
    {f : FieldDescriptor} (visible : f ∈ classify t true) :
    .exact ∈ f.parameters ↔ f.isIdentifier = false ∨ f.isFilterableIdentifier = true := by
  obtain ⟨d, -, -, rfl⟩ := mem_classify.1 visible
  rw [exact_mem_parameters_iff]
  constructor
  · rintro (secondary | marked)
    · cases marked : (ofDeclaration d).isFilterableIdentifier with
      | true => exact Or.inr rfl
      | false =>
        refine Or.inl (eq_false_of_ne_true fun identifier => ?_)
        rw [isPrimaryIdentifier_of_isIdentifier identifier marked] at secondary
        cases secondary
    · exact Or.inr marked
  · rintro (other | marked)
    · exact Or.inl (Bool.or_eq_false_iff.1 other).1
    · exact Or.inr marked

/-- A field with parameters for bounds is no identifier. -/
theorem FieldDescriptor.isIdentifier_of_lower_mem_parameters {f : FieldDescriptor}
    (has : .lower ∈ f.parameters) : f.isIdentifier = false := by
  obtain ⟨secondary, accepts⟩ := lower_mem_parameters_iff.1 has
  rw [acceptsRange, Bool.and_eq_true, Bool.not_eq_true'] at accepts
  rw [isIdentifier, secondary, accepts.2, Bool.or_false]

theorem FieldDescriptor.upper_mem_parameters_iff {f : FieldDescriptor} :
    .upper ∈ f.parameters ↔ .lower ∈ f.parameters := by
  unfold parameters
  split
  · simp
  · split <;> simp

/-! ## What is described -/

/-- A parameter with the name is described for the type. -/
def IsDescribed (t : DeclaredType) (name : String) : Prop := name ∈ (describe t).map (·.name)

/-- What is described of a type are the common parameters and those of each visible field. -/
theorem map_name_describe (t : DeclaredType) :
    (describe t).map (·.name) = commonParameters.map (·.name) ++
      (classify t true).flatMap fun f => f.parameters.map (·.name f.name) := by
  rw [describe, List.map_append, List.map_flatMap]
  congr 1
  exact List.flatMap_congr fun f _ => map_name_describeField f

theorem name_notMem_commonParameters (p : FieldParameter) (field : String) :
    p.name field ∉ commonParameters.map (·.name) := by
  intro common
  have heads : (p.name field).toList.head? ∈ [some 'p', some 'o'] := by
    have all : ∀ name ∈ commonParameters.map (·.name),
        name.toList.head? ∈ [some 'p', some 'o'] := by
      decide
    exact all _ common
  rw [FieldParameter.head?_name] at heads
  cases p <;> exact absurd heads (by decide)

/-- A parameter of a field is described if and only if a visible field has it. -/
theorem isDescribed_name_iff {t : DeclaredType} {p : FieldParameter} {field : String} :
    IsDescribed t (p.name field) ↔ ∃ f ∈ classify t true, f.name = field ∧ p ∈ f.parameters := by
  rw [IsDescribed, map_name_describe, List.mem_append, List.mem_flatMap]
  constructor
  · rintro (common | ⟨f, visible, has⟩)
    · exact absurd common (name_notMem_commonParameters p field)
    · obtain ⟨p', owns, same⟩ := List.mem_map.1 has
      obtain ⟨rfl, named⟩ := FieldParameter.name_inj.1 same
      exact ⟨f, visible, named, owns⟩
  · rintro ⟨f, visible, rfl, has⟩
    exact Or.inr ⟨f, visible, List.mem_map_of_mem has⟩

theorem nodup_map_name_describe {t : DeclaredType} (distinct : (t.all.map (·.name)).Nodup) :
    ((describe t).map (·.name)).Nodup := by
  have fields := List.pairwise_map.1 (nodup_map_name_classify distinct true)
  rw [map_name_describe, List.nodup_append']
  refine ⟨by decide, List.nodup_flatMap.2 ⟨?_, ?_⟩, ?_⟩
  · intro f _
    refine f.nodup_parameters.map fun p p' same => ?_
    exact (FieldParameter.name_inj.1 same).1
  · refine fields.imp fun apart => ?_
    intro name has has'
    obtain ⟨p, -, rfl⟩ := List.mem_map.1 has
    obtain ⟨p', -, same⟩ := List.mem_map.1 has'
    exact apart (FieldParameter.name_inj.1 same).2.symm
  · intro name common described
    obtain ⟨f, -, has⟩ := List.mem_flatMap.1 described
    obtain ⟨p, -, rfl⟩ := List.mem_map.1 has
    exact name_notMem_commonParameters p f.name common

/-! ## Comparison with compilation -/

/-- Some value that is not null gives a criterion on the field when it is the state of a filter
of the type and the fields of ancestors count. -/
def IsFilterable (t : DeclaredType) (field : String) : Prop :=
  ∃ (filter : FilterView) (options : FilterOptions) (value : Value),
    filter.declared = t ∧ options.inherited = true ∧
      filter.slot? field = some (.value value) ∧ value.isNull = false ∧
      ∃ c ∈ compileFilters filter options, c.field = field

/-- A described value takes effect in every filter of the type, whatever it is, unless it asks
for nothing. -/
theorem IsDescribed.exists_compileFilters {t : DeclaredType} {field : String}
    (described : IsDescribed t (FieldParameter.exact.name field)) {filter : FilterView}
    (ofType : filter.declared = t) {options : FilterOptions} (inherited : options.inherited = true)
    {value : Value} (state : filter.slot? field = some (.value value))
    (asks : value.asksNothing = false) : ∃ c ∈ compileFilters filter options, c.field = field := by
  obtain ⟨f, visible, named, has⟩ := isDescribed_name_iff.1 described
  have accepted := (f.exact_mem_parameters_iff_of_visible visible).1 has
  rw [exists_compileFilters_iff, ofType, inherited]
  exact ⟨f, visible, named, _, state, isSome_compileField_value asks accepted⟩

/-- The value of a field is described exactly if the field is visible and can be filtered by
value. -/
theorem isDescribed_exact_iff {t : DeclaredType} {field : String} :
    IsDescribed t (FieldParameter.exact.name field) ↔
      (∃ f ∈ classify t true, f.name = field) ∧ IsFilterable t field := by
  constructor
  · intro described
    obtain ⟨f, visible, named, -⟩ := isDescribed_name_iff.1 described
    refine ⟨⟨f, visible, named⟩, ⟨t, fun _ => some (.value (.flag true))⟩, ⟨false, true⟩,
      .flag true, rfl, rfl, rfl, rfl, ?_⟩
    exact described.exists_compileFilters rfl rfl rfl rfl
  · rintro ⟨-, filter, options, value, rfl, inherited, state, present, leaf⟩
    obtain ⟨f, visible, named, slot, state', some⟩ := exists_compileFilters_iff.1 leaf
    rw [inherited] at visible
    obtain rfl := Option.some.inj (state.symm.trans state')
    refine isDescribed_name_iff.2 ⟨f, visible, named, ?_⟩
    rw [f.exact_mem_parameters_iff_of_visible visible]
    exact accepts_of_isSome_compileField_value some

/-- A described bound takes effect in every range of the field that has one. -/
theorem IsDescribed.exists_compileRanges {t : DeclaredType}
    (distinct : (t.all.map (·.name)).Nodup) {field : String}
    (described : IsDescribed t (FieldParameter.lower.name field)) {ranges : RangeFilter}
    {range : Range} (entry : (field, range) ∈ ranges.ranges.entries) (bounded : range.IsBounded) :
    ∃ c ∈ compileRanges t ranges, c.field = field := by
  obtain ⟨f, visible, rfl, has⟩ := isDescribed_name_iff.1 described
  have passed := f.isIdentifier_of_lower_mem_parameters has
  rw [exists_compileRanges_iff, findField_of_mem distinct visible]
  exact ⟨passed, range, entry, bounded⟩

/-- Customers, who are parties. -/
def customer : DeclaredType :=
  .extending (.single "Party" [⟨"createdAt", .temporal, []⟩]) "Customer"
    [⟨"id", .other, []⟩, ⟨"branchId", .other, [.filterableId]⟩, ⟨"firstName", .text, []⟩,
      ⟨"balance", .number false, []⟩]

end Listing
