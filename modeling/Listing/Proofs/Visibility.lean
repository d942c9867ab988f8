import Mathlib
import Listing.Compilation

/-!
# Criteria and visible fields

Which criteria come out of compilation is decided by the fields that classification shows.
This module says once which fields those are and which criteria they give, for everything
that compares compilation with something else.

* `mem_classify` says which declarations are visible;
* `FieldDescriptor.isPrimaryIdentifier_of_isIdentifier` reconciles the two notions of an
  identifier;
* `compileValue_cases` and `compileRange_cases` say what a value and a range can ask for;
* `exists_compileFilters_iff` and `exists_compileRanges_iff` say for which names a filter and
  ranges give criteria.
-/

namespace Listing

/-! ## Visible declarations -/

/-- The visible fields are the declared ones that are not hidden. -/
theorem mem_classify {t : DeclaredType} {inherited : Bool} {f : FieldDescriptor} :
    f ∈ classify t inherited ↔
      ∃ d ∈ t.upTo inherited, d.isExcluded = false ∧ FieldDescriptor.ofDeclaration d = f := by
  simp [classify, classifyAll, and_assoc]

/-- Without ancestors there is less of a chain, in the same order. -/
theorem Chain.upTo_sublist_all {α : Type} (c : Chain α) (inherited : Bool) :
    (c.upTo inherited).Sublist c.all := by
  cases inherited with
  | true => exact List.Sublist.refl c.all
  | false => exact List.sublist_append_left c.own.entries _

/-- Names that are declared once are visible at most once. -/
theorem nodup_map_name_classify {t : DeclaredType} (distinct : (t.all.map (·.name)).Nodup)
    (inherited : Bool) : ((classify t inherited).map (·.name)).Nodup := by
  have names : (classify t inherited).map (·.name) =
      ((t.upTo inherited).filter (!·.isExcluded)).map (·.name) := by
    rw [classify, classifyAll, List.map_map]
    rfl
  rw [names]
  exact distinct.sublist ((List.filter_sublist.trans (t.upTo_sublist_all inherited)).map _)

theorem mem_of_findField {t : DeclaredType} {inherited : Bool} {name : String}
    {f : FieldDescriptor} (found : findField t name inherited = some f) :
    f ∈ classify t inherited ∧ f.name = name :=
  ⟨List.mem_of_find?_eq_some found, by simpa using List.find?_some found⟩

/-- Where no name is declared twice, every visible field is found by its name. -/
theorem findField_of_mem {t : DeclaredType} (distinct : (t.all.map (·.name)).Nodup)
    {inherited : Bool} {f : FieldDescriptor} (visible : f ∈ classify t inherited) :
    findField t f.name inherited = some f := by
  have unique := List.inj_on_of_nodup_map (nodup_map_name_classify distinct inherited)
  cases found : findField t f.name inherited with
  | none => exact absurd (List.find?_eq_none.1 found f visible) (by simp)
  | some g =>
    obtain ⟨visible', named⟩ := mem_of_findField found
    rw [unique visible' visible named]

/-- The name of an identifier makes it primary unless it is marked as filterable. -/
theorem FieldDescriptor.isPrimaryIdentifier_of_isIdentifier {d : Declaration}
    (identifier : (ofDeclaration d).isIdentifier = true)
    (unmarked : (ofDeclaration d).isFilterableIdentifier = false) :
    (ofDeclaration d).isPrimaryIdentifier = true := by
  simp only [ofDeclaration] at unmarked
  simp only [isIdentifier, ofDeclaration, isIdLike, unmarked, Bool.or_eq_true,
    Bool.not_false, Bool.and_true] at identifier ⊢
  rcases identifier with primary | called | suffixed
  · exact primary
  · exact Or.inl (Or.inr called)
  · exact Or.inr suffixed

/-! ## Criteria of filters -/

/-- What a value can ask for: to be one of the items of a list, to be found in a text, or to be
equal. -/
theorem compileValue_cases {field : FieldDescriptor} {options : FilterOptions} {value : Value}
    {c : Criterion} (ok : compileValue field options value = some c) :
    (∃ values, value = .list values ∧ values ≠ [] ∧ c = .isIn field.name values) ∨
      (∃ s, value = .text s ∧ s ≠ "" ∧ field.kind = .text ∧
        c = .like field.name ("%" ++ s ++ "%") options.ignoreCase) ∨
      ∃ v, v.isNull = value.isNull ∧ c = .equals field.name v := by
  unfold compileValue at ok
  split at ok
  · rename_i values
    split_ifs at ok with empty
    exact .inl ⟨values, rfl, by simpa using empty, (Option.some.inj ok).symm⟩
  · rename_i name
    exact .inr (.inr ⟨.text name, rfl, (Option.some.inj ok).symm⟩)
  · rename_i s
    split at ok
    · exact .inr (.inr ⟨_, rfl, (Option.some.inj ok).symm⟩)
    · rename_i textual
      split_ifs at ok with empty
      exact .inr (.inl ⟨s, rfl, empty, textual, (Option.some.inj ok).symm⟩)
    · split_ifs at ok
      exact .inr (.inr ⟨_, rfl, (Option.some.inj ok).symm⟩)
  · exact .inr (.inr ⟨_, rfl, (Option.some.inj ok).symm⟩)

theorem compileValue_field {field : FieldDescriptor} {options : FilterOptions} {value : Value}
    {c : Criterion} (ok : compileValue field options value = some c) : c.field = field.name := by
  obtain ⟨-, -, -, rfl⟩ | ⟨-, -, -, -, rfl⟩ | ⟨-, -, rfl⟩ := compileValue_cases ok <;> rfl

theorem compileField_field {field : FieldDescriptor} {slot : Slot Value}
    {options : FilterOptions} {c : Criterion} (ok : compileField field slot options = some c) :
    c.field = field.name := by
  unfold compileField at ok
  split at ok
  · cases ok; rfl
  · cases ok; rfl
  · cases ok
  · cases ok
  · split at ok
    · split at ok
      · cases ok; rfl
      · cases ok
    · exact compileValue_field ok

theorem compileField_value (field : FieldDescriptor) (value : Value) (options : FilterOptions) :
    compileField field (.value value) options =
      if value.isNull then none
      else if field.isIdentifier then
        if field.isFilterableIdentifier then some (.equals field.name value) else none
      else compileValue field options value := by
  cases value <;> rfl

/-- A filter gives a criterion on a name exactly if the state of the name gives one on some
visible field that has it. -/
theorem exists_compileFilters_iff {filter : FilterView} {options : FilterOptions}
    {name : String} :
    (∃ c ∈ compileFilters filter options, c.field = name) ↔
      ∃ f ∈ classify filter.declared options.inherited, f.name = name ∧
        ∃ slot, filter.slot? name = some slot ∧ (compileField f slot options).isSome = true := by
  simp only [compileFilters, List.mem_filterMap, Option.bind_eq_some_iff]
  constructor
  · rintro ⟨c, ⟨f, visible, slot, state, ok⟩, rfl⟩
    have named := compileField_field ok
    exact ⟨f, visible, named.symm, slot, named ▸ state, by rw [ok]; rfl⟩
  · rintro ⟨f, visible, rfl, slot, state, some⟩
    obtain ⟨c, ok⟩ := Option.isSome_iff_exists.1 some
    exact ⟨c, ⟨f, visible, slot, state, ok⟩, compileField_field ok⟩

/-- The value is null or nothing at all. -/
def Value.asksNothing : Value → Bool
  | null => true
  | list items => items.isEmpty
  | text s => s = ""
  | _ => false

/-- Every value asks for something, unless it is null or nothing at all. -/
theorem isSome_compileValue {field : FieldDescriptor} {options : FilterOptions} {value : Value}
    (asks : value.asksNothing = false) : (compileValue field options value).isSome = true := by
  cases value <;> simp_all [compileValue, Value.asksNothing]
  split <;> simp_all

/-- A value gives a criterion unless it is on an identifier that is not marked for it, as long
as it asks for something. -/
theorem isSome_compileField_value {field : FieldDescriptor} {options : FilterOptions}
    {value : Value} (asks : value.asksNothing = false)
    (accepted : field.isIdentifier = false ∨ field.isFilterableIdentifier = true) :
    (compileField field (.value value) options).isSome = true := by
  have present : value.isNull = false := by
    cases value <;> first | rfl | cases asks
  rw [compileField_value, if_neg (ne_true_of_eq_false present)]
  split
  · rename_i identifier
    rcases accepted with other | marked
    · rw [identifier] at other
      cases other
    · rw [if_pos marked]
      rfl
  · exact isSome_compileValue asks

/-- Of identifiers only those meant to be filtered by are asked for a value. -/
theorem accepts_of_isSome_compileField_value {field : FieldDescriptor} {options : FilterOptions}
    {value : Value} (some : (compileField field (.value value) options).isSome = true) :
    field.isIdentifier = false ∨ field.isFilterableIdentifier = true := by
  by_contra neither
  obtain ⟨identifier, unmarked⟩ := not_or.1 neither
  rw [compileField_value, if_pos (eq_true_of_ne_false identifier), if_neg unmarked, ite_self]
    at some
  cases some

/-! ## Criteria of ranges -/

/-- The range has a bound that is not null. -/
def Range.IsBounded (r : Range) : Prop :=
  (∃ v, r.low = some v ∧ v.isNull = false) ∨ ∃ v, r.high = some v ∧ v.isNull = false

/-- Without ranges there are none to compile. -/
theorem compile_eq_append (filter : Option FilterView) (ranges : Option RangeFilter)
    (entity : DeclaredType) (options : FilterOptions) :
    compile filter ranges entity options =
      (filter.map (compileFilters · options)).getD [] ++ compileRanges entity (ranges.getD .empty) := by
  cases ranges <;> rfl

/-- What a range can ask for: both of its bounds, or the only one. -/
theorem compileRange_cases {name : String} {range : Range} {kind : Option Kind} {c : Criterion}
    (ok : compileRange name range kind = some c) :
    (∃ low high, bound? kind range.low = some low ∧ bound? kind range.high = some high ∧
        c = .between name low high) ∨
      (∃ low, bound? kind range.low = some low ∧ c = .atLeast name low) ∨
      ∃ high, bound? kind range.high = some high ∧ c = .atMost name high := by
  unfold compileRange at ok
  split at ok
  · rename_i low high below above
    exact .inl ⟨low, high, below, above, (Option.some.inj ok).symm⟩
  · rename_i low below _
    exact .inr (.inl ⟨low, below, (Option.some.inj ok).symm⟩)
  · rename_i high _ above
    exact .inr (.inr ⟨high, above, (Option.some.inj ok).symm⟩)
  · cases ok

theorem compileRange_field {name : String} {range : Range} {kind : Option Kind} {c : Criterion}
    (ok : compileRange name range kind = some c) : c.field = name := by
  obtain ⟨-, -, -, -, rfl⟩ | ⟨-, -, rfl⟩ | ⟨-, -, rfl⟩ := compileRange_cases ok <;> rfl

theorem isSome_bound? (kind : Option Kind) {value : Option Value} :
    (bound? kind value).isSome = true ↔ ∃ v, value = some v ∧ v.isNull = false := by
  rw [bound?, Option.isSome_map]
  cases value <;> simp [Option.filter]

theorem isSome_compileRange {name : String} {range : Range} {kind : Option Kind} :
    (compileRange name range kind).isSome = true ↔ range.IsBounded := by
  rw [Range.IsBounded, ← isSome_bound? kind, ← isSome_bound? kind, compileRange]
  cases bound? kind range.low <;> cases bound? kind range.high <;> simp

/-- The criteria of ranges are those of single ranges on names that belong to no identifier. -/
theorem mem_compileRanges {entity : DeclaredType} {ranges : RangeFilter} {c : Criterion} :
    c ∈ compileRanges entity ranges ↔
      ∃ name range, (name, range) ∈ ranges.ranges.entries ∧
        (findField entity name true).any (·.isIdentifier) = false ∧
        compileRange name range ((findField entity name true).map (·.kind)) = some c := by
  simp [compileRanges, findField, List.mem_filterMap]

/-- Ranges give a criterion on a name exactly if a range of the name has a bound and the first
visible field with the name, if there is one, is no identifier. -/
theorem exists_compileRanges_iff {entity : DeclaredType} {ranges : RangeFilter}
    {name : String} :
    (∃ c ∈ compileRanges entity ranges, c.field = name) ↔
      (findField entity name true).any (·.isIdentifier) = false ∧
        ∃ range, (name, range) ∈ ranges.ranges.entries ∧ range.IsBounded := by
  simp only [mem_compileRanges]
  constructor
  · rintro ⟨c, ⟨name', range, entry, passed, ok⟩, rfl⟩
    obtain rfl := compileRange_field ok
    exact ⟨passed, range, entry, isSome_compileRange.1 (by rw [ok]; rfl)⟩
  · rintro ⟨passed, range, entry, bounded⟩
    obtain ⟨c, ok⟩ := Option.isSome_iff_exists.1 (isSome_compileRange.2 bounded)
    exact ⟨c, ⟨name, range, entry, passed, ok⟩, compileRange_field ok⟩

end Listing
