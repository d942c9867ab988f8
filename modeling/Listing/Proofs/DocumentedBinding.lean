import Mathlib
import Listing.Catalogue
import Listing.Proofs.Binding
import Listing.Proofs.Documentation

/-!
# Documented parameters bind

The names of documented parameters are put together by documentation and taken apart by binding.
Both follow one grammar as long as no field has a closing bracket in its name: a documented
parameter sets the component that it names, or is refused by name.

* `isDescribed_cases` lists the documented names;
* `Target.ofName_name` says that binding takes them for what they are;
* `FilterRequest.ofParameters_described` says what a single documented parameter makes of a
  request, and when it is refused.
-/

namespace Listing

/-! ## Documented names -/

/-- The target of a parameter that fields can have. -/
def FieldParameter.target (field : String) : FieldParameter → Target
  | exact => .slot field
  | lower => .bound (field ++ "]" ++ BoundSide.low.ending)
  | upper => .bound (field ++ "]" ++ BoundSide.high.ending)

/-- The parameter of a bound. -/
def BoundSide.parameter : BoundSide → FieldParameter
  | low => .lower
  | high => .upper

theorem FieldParameter.text_target (p : FieldParameter) (field : String) :
    (p.target field).text = p.name field := by
  have low : "]" ++ BoundSide.low.ending = FieldParameter.lower.closing := by decide
  have high : "]" ++ BoundSide.high.ending = FieldParameter.upper.closing := by decide
  cases p with
  | exact => exact String.append_empty.symm
  | lower =>
    change "rangeFilters.ranges[" ++ (field ++ "]" ++ BoundSide.low.ending) = _
    rw [String.append_assoc, low, ← String.append_assoc]
    rfl
  | upper =>
    change "rangeFilters.ranges[" ++ (field ++ "]" ++ BoundSide.high.ending) = _
    rw [String.append_assoc, high, ← String.append_assoc]
    rfl

/-- Binding takes the parameters of fields for what documentation means. -/
theorem Target.ofName_name (p : FieldParameter) (field : String) :
    ofName (p.name field) = p.target field := by
  rw [← p.text_target]
  exact ofName_text (by cases p <;> exact Target.noConfusion)

/-- The name of a bound's parameter means that bound, with all that stands between the brackets. -/
theorem Target.ofName_parameter (side : BoundSide) (field : String) :
    ofName (side.parameter.name field) = .bound (field ++ "]" ++ side.ending) := by
  rw [ofName_name]
  cases side <;> rfl

/-- The first closing bracket ends the name of the field. -/
theorem Text.cutAt?_bound {field : String} (plain : ']' ∉ field.toList) (side : BoundSide) :
    cutAt? ']' (field ++ "]" ++ side.ending) = some (field, side.ending) :=
  cutAt?_append plain side.ending

/-- A documented name is that of a part of the page, of a switch, or of a parameter that a
visible field has. -/
theorem isDescribed_cases {t : DeclaredType} {name : String} (described : IsDescribed t name) :
    (∃ part : PageField, name = (Target.paging part.name).text) ∨
      (∃ s : Switch, name = (Target.switch s.name).text) ∨
        ∃ f ∈ classify t true, ∃ p ∈ f.parameters, name = p.name f.name := by
  rw [IsDescribed, map_name_describe, List.mem_append] at described
  rcases described with common | field
  · have names : commonParameters.map (·.name) =
        [PageField.number, .size, .sortBy, .direction].map (fun part => (Target.paging part.name).text) ++
          [Switch.ignoreCase, .inherited].map fun s => (Target.switch s.name).text := by
      decide
    rw [names, List.mem_append] at common
    rcases common with page | options
    · obtain ⟨part, -, rfl⟩ := List.mem_map.1 page
      exact Or.inl ⟨part, rfl⟩
    · obtain ⟨s, -, rfl⟩ := List.mem_map.1 options
      exact Or.inr (Or.inl ⟨s, rfl⟩)
  · obtain ⟨f, visible, has⟩ := List.mem_flatMap.1 field
    obtain ⟨p, owned, rfl⟩ := List.mem_map.1 has
    exact Or.inr (Or.inr ⟨f, visible, p, owned, rfl⟩)

/-! ## Documented components -/

variable {schema : Schema} {f : FieldDescriptor} {s : Setting} {value : String}

theorem exists_field_of_visible (visible : f ∈ classify schema.declared true) :
    ∃ field, schema.find? (·.name = f.name) = some field := by
  obtain ⟨d, declared, -, rfl⟩ := mem_classify.1 visible
  have declared : d ∈ schema.all.map Field.declaration := Chain.all_map Field.declaration schema ▸ declared
  obtain ⟨field, member, rfl⟩ := List.mem_map.1 declared
  refine Option.isSome_iff_exists.1 (List.find?_isSome.2 ⟨field, member, ?_⟩)
  exact decide_eq_true rfl

theorem exists_findField_of_visible {t : DeclaredType} (visible : f ∈ classify t true) :
    ∃ d, findField t f.name true = some d := by
  refine Option.isSome_iff_exists.1 (List.find?_isSome.2 ⟨f, visible, ?_⟩)
  exact decide_eq_true rfl

theorem IsDescribed.isComponent {name : String} (described : IsDescribed schema.declared name) :
    (Target.ofName name).isComponent schema = true := by
  rcases isDescribed_cases described with ⟨part, rfl⟩ | ⟨s, rfl⟩ | ⟨f, visible, p, -, rfl⟩
  · rw [Target.ofName_text Target.noConfusion]
    cases part <;> rfl
  · rw [Target.ofName_text Target.noConfusion]
    cases s <;> rfl
  · obtain ⟨field, found⟩ := exists_field_of_visible visible
    rw [Target.ofName_name]
    cases p with
    | exact => exact Option.isSome_iff_exists.2 ⟨field, found⟩
    | lower | upper => rfl

/-- A documented bound is one of a visible field. -/
theorem IsDescribed.exists_findField {name field : String} {side : BoundSide}
    (described : IsDescribed schema.declared name)
    (about : Target.ofName name = .bound (field ++ "]" ++ side.ending)) :
    ∃ d, findField schema.declared field true = some d := by
  rcases isDescribed_cases described with ⟨part, rfl⟩ | ⟨s, rfl⟩ | ⟨f, visible, p, -, rfl⟩
  · rw [Target.ofName_text Target.noConfusion] at about
    cases about
  · rw [Target.ofName_text Target.noConfusion] at about
    cases about
  · rw [Target.ofName_name] at about
    cases p with
    | exact => cases about
    | lower | upper =>
      obtain ⟨rfl, -⟩ := BoundSide.name_inj (Target.bound.inj about)
      exact exists_findField_of_visible visible

/-! ## Values of documented parameters -/

/-- A bound on a visible field is read as the kind of the field says, but on truth values, which
have no ranges, as whatever it is. -/
theorem FilterRequest.readBound_of_findField {field : String} {d : FieldDescriptor}
    (found : findField schema.declared field true = some d) (value : String) :
    readBound schema field value =
      if d.kind = .flag then .ok (.infer (Text.trim value))
      else (Value.parseAs d.kind value).mapError Unreadable.message := by
  rw [readBound, found]
  dsimp only
  cases d.kind <;> rfl

/-- The content is what a text says of the component, according to the nearest field and to the
first visible one. -/
def Setting.IsReadFrom (schema : Schema) (value : String) : Setting → Prop
  | slot field state =>
    schema.find? (·.name = field.name) = some field ∧
      ∃ v, field.type.parse value = .ok v ∧ state = .value v
  | bound field _ v => ∃ d, findField schema.declared field true = some d ∧
      if d.kind = .flag then v = .infer (Text.trim value) else Value.parseAs d.kind value = .ok v
  | page part content => part.read value = .ok content
  | switch _ on => FilterRequest.readSwitch value = .ok on

/-- What a parameter sets is what its text says, for a bound by the first visible field of that
name. -/
theorem Setting.isReadFrom_of_read {t : Target} (ok : read schema value t = .ok (some s))
    (visible : ∀ field side v, s = .bound field side v →
      ∃ d, findField schema.declared field true = some d) : s.IsReadFrom schema value := by
  cases reads_of_read ok with
  | slot nearest parsed =>
    obtain rfl := Schema.name_of_find? nearest
    exact ⟨nearest, _, parsed, rfl⟩
  | bound cut parsed sided =>
    obtain ⟨d, first⟩ := visible _ _ _ rfl
    rw [FilterRequest.readBound_of_findField first] at parsed
    refine ⟨d, first, ?_⟩
    split_ifs at parsed ⊢ with flag
    · exact (Except.ok.inj parsed).symm
    · exact mapError_eq_ok.1 parsed
  | page named parsed => exact parsed
  | switch named parsed => exact parsed

namespace FilterRequest

/-- Whether a single parameter is bound. -/
theorem exists_ofParameters_singleton_iff {name : String} (counts : Counts (name, value)) :
    (∃ r, ofParameters schema [(name, value)] = .ok r) ↔
      ∃ o, Setting.read schema value (.ofName name) = .ok o := by
  simp only [ofParameters_eq_ok_iff, List.forall_mem_singleton, exists_and_left, exists_eq',
    and_true]
  exact ⟨fun readable => readable counts, fun some _ => some⟩

theorem exists_ofParameters_slot_iff {name : String} {field : Field}
    (counts : Counts (FieldParameter.exact.name name, value))
    (nearest : schema.find? (·.name = name) = some field) :
    (∃ r, ofParameters schema [(FieldParameter.exact.name name, value)] = .ok r) ↔
      ∃ v, field.type.parse value = .ok v := by
  rw [exists_ofParameters_singleton_iff counts, Target.ofName_name, FieldParameter.target]
  simp only [Setting.read_eq_ok_iff]
  constructor
  · intro some
    obtain ⟨o, reads⟩ := some
    cases reads with
    | slot found parsed =>
      obtain rfl := Option.some.inj (found.symm.trans nearest)
      exact ⟨_, parsed⟩
    | unknown unknown =>
      rw [Target.isComponent, nearest] at unknown
      cases unknown
  · intro accepted
    obtain ⟨v, parsed⟩ := accepted
    exact ⟨_, .slot nearest parsed⟩

/-- A bound binds exactly if the kind of the first visible field reads it, or if that is a flag,
which has no ranges. -/
theorem exists_ofParameters_bound_iff {name : String} {side : BoundSide} {d : FieldDescriptor}
    (counts : Counts (side.parameter.name name, value)) (plain : ']' ∉ name.toList)
    (first : findField schema.declared name true = some d) :
    (∃ r, ofParameters schema [(side.parameter.name name, value)] = .ok r) ↔
      d.kind = .flag ∨ ∃ v, Value.parseAs d.kind value = .ok v := by
  have cut := Text.cutAt?_bound plain side
  have sided : BoundSide.ofName? side.ending = some side := BoundSide.ofName?_eq_some_iff.2 rfl
  have bound := readBound_of_findField first value
  rw [exists_ofParameters_singleton_iff counts, Target.ofName_parameter]
  simp only [Setting.read_eq_ok_iff]
  constructor
  · intro some
    obtain ⟨o, reads⟩ := some
    cases reads with
    | bound found parsed _ =>
      obtain ⟨rfl, rfl⟩ := Prod.mk.inj (Option.some.inj (found.symm.trans cut))
      rw [bound] at parsed
      split_ifs at parsed with flag
      · exact Or.inl flag
      · exact Or.inr ⟨_, mapError_eq_ok.1 parsed⟩
    | unknown unknown => cases unknown
  · intro accepted
    by_cases flag : d.kind = .flag
    · rw [if_pos flag] at bound
      exact ⟨_, .bound cut bound sided⟩
    · obtain ⟨v, parsed⟩ := accepted.resolve_left flag
      rw [if_neg flag, parsed] at bound
      exact ⟨_, .bound cut bound sided⟩

/-- A single documented parameter is refused by name, or sets the component that it names. -/
theorem ofParameters_singleton_cases {name : String} (described : IsDescribed schema.declared name)
    (counts : Counts (name, value)) :
    (∃ message, ofParameters schema [(name, value)] =
        .error (.request (.invalidParameter name value message))) ∨
      ∃ s : Setting, s.target = .ofName name ∧ s.IsOf schema ∧ s.IsReadFrom schema value ∧
        ofParameters schema [(name, value)] = .ok (s.apply schema .empty) := by
  cases outcome : Setting.read schema value (.ofName name) with
  | error message =>
    have refused := bind_of_read_error (ofType_empty schema) counts outcome
    refine Or.inl ⟨message, ?_⟩
    rw [ofParameters, List.foldlM_cons, refused]
    rfl
  | ok o =>
    have known := (Setting.isSome_of_read outcome).trans described.isComponent
    obtain ⟨s, rfl⟩ := Option.isSome_iff_exists.1 known
    have about := Setting.target_of_read outcome
    refine Or.inr ⟨s, about, Setting.isOf_of_read outcome, ?_, ?_⟩
    · refine Setting.isReadFrom_of_read outcome fun field side v bound => ?_
      subst bound
      exact described.exists_findField about.symm
    · refine ofParameters_eq_ok_iff.2 ⟨?_, bound_of_read_some counts outcome _⟩
      exact List.forall_mem_singleton.2 fun _ => ⟨_, outcome⟩

/-- **Every documented parameter binds, and binds only what it names**, if its value fits.  It
fits a field if the nearest field with the name can parse it.  It fits a bound if the kind of the
first visible field with the name can, or if that is a truth value: then the bound is whatever
the text is.  Such bounds are documented where a truth value hides a field with ranges. -/
theorem ofParameters_described (schema : Schema) (plain : ∀ f ∈ schema.all, ']' ∉ f.name.toList)
    (p : ParameterDescriptor) (described : p ∈ describe schema.declared) (value : String)
    (counts : Text.isBlankOnly value = false) :
    let bound := ofParameters schema [(p.name, value)]
    ((∃ message, bound = .error (.request (.invalidParameter p.name value message))) ∨
      ∃ s : Setting, s.name = p.name ∧ s.IsReadFrom schema value ∧
        bound = .ok (s.apply schema .empty) ∧ s.Holds schema (s.apply schema .empty) ∧
        ∀ s' : Setting, s'.name ≠ p.name →
          (s'.Holds schema (s.apply schema .empty) ↔ s'.Holds schema .empty)) ∧
    (∀ name, p.name = FieldParameter.exact.name name →
      ∃ field, schema.find? (·.name = name) = some field ∧
        ((∃ r, bound = .ok r) ↔ ∃ v, field.type.parse value = .ok v)) ∧
    (∀ (side : BoundSide) (name : String), p.name = side.parameter.name name →
      ∃ d, findField schema.declared name true = some d ∧
        ((∃ r, bound = .ok r) ↔ d.kind = .flag ∨ ∃ v, Value.parseAs d.kind value = .ok v)) := by
  intro bound
  have described : IsDescribed schema.declared p.name := List.mem_map_of_mem described
  refine ⟨?_, ?_, ?_⟩
  · refine (ofParameters_singleton_cases described counts).imp_right ?_
    rintro ⟨s, about, declared, read, ok⟩
    have about' : Target.ofName p.name ≠ .nothing := about ▸ s.target_ne_nothing
    have named : s.name = p.name := by rw [Setting.name, about, Target.text_ofName about']
    refine ⟨s, named, read, ok, Setting.holds_apply (ofType_empty schema) declared, ?_⟩
    intro s' apart
    refine Setting.holds_apply_iff fun same => apart ?_
    rw [← named, Setting.name, Setting.name, same]
  · intro name named
    obtain ⟨f, visible, rfl, -⟩ := isDescribed_name_iff.1 (named ▸ described)
    obtain ⟨field, nearest⟩ := exists_field_of_visible visible
    refine ⟨field, nearest, ?_⟩
    subst bound
    rw [named]
    exact exists_ofParameters_slot_iff counts nearest
  · intro side name named
    obtain ⟨f, visible, rfl, -⟩ := isDescribed_name_iff.1 (named ▸ described)
    obtain ⟨d, first⟩ := exists_findField_of_visible visible
    obtain ⟨field, nearest⟩ := exists_field_of_visible visible
    have same : field.name = f.name := Schema.name_of_find? nearest
    have plain : ']' ∉ f.name.toList := same ▸ plain field (List.mem_of_find?_eq_some nearest)
    refine ⟨d, first, ?_⟩
    subst bound
    rw [named]
    exact exists_ofParameters_bound_iff counts plain first

/-- The least population that is asked for. -/
def leastPopulation : String := FieldParameter.lower.name "population"

theorem ofParameters_described_leastPopulation :
    (∀ f ∈ Catalogue.cityFilter.all, ']' ∉ f.name.toList) ∧
      ∃ p ∈ describe Catalogue.cityFilter.declared, p.name = leastPopulation ∧
        ∃ s : Setting, s.name = leastPopulation ∧ s.IsReadFrom Catalogue.cityFilter " 12 " ∧
          ofParameters Catalogue.cityFilter [(leastPopulation, " 12 ")] =
            .ok (s.apply Catalogue.cityFilter .empty) := by
  have plain : ∀ f ∈ Catalogue.cityFilter.all, ']' ∉ f.name.toList := by decide
  have visible : IsDescribed Catalogue.cityFilter.declared leastPopulation :=
    isDescribed_name_iff.2 ⟨.ofDeclaration ⟨"population", .number true, []⟩, by decide⟩
  obtain ⟨p, described, named⟩ := List.mem_map.1 visible
  obtain ⟨either, -, bounds⟩ := ofParameters_described Catalogue.cityFilter plain p described " 12 " rfl
  obtain ⟨d, first, accepts⟩ := bounds .low "population" named
  have kind : d.kind = .number true := by
    cases first
    rfl
  refine ⟨plain, p, described, named, ?_⟩
  rcases either with ⟨message, refused⟩ | ⟨s, about, read, ok, -⟩
  · obtain ⟨r, ok⟩ := accepts.2 (Or.inr ⟨.integer ⟨12, by decide⟩, by rw [kind]; rfl⟩)
    rw [refused] at ok
    cases ok
  · exact ⟨s, about.trans named, read, named ▸ ok⟩

/-- Machines that are active or not, where it was once said how much. -/
def machine : Schema :=
  .extending (.single "Device" [Catalogue.field "active" .double]) "Machine"
    [Catalogue.field "active" Catalogue.flag]

/-- The bounds of what is hidden are documented, and take any text. -/
theorem bound_described_of_hidden :
    (∀ f ∈ machine.all, ']' ∉ f.name.toList) ∧
      IsDescribed machine.declared (FieldParameter.lower.name "active") ∧
      (findField machine.declared "active" true).map (·.kind) = some .flag ∧
      (∃ r, ofParameters machine [(FieldParameter.lower.name "active", "abc")] = .ok r) ∧
      ¬ ∃ v, Value.parseAs .flag "abc" = .ok v := by
  refine ⟨by decide, ?_, by decide, ⟨_, rfl⟩, ?_⟩
  · exact isDescribed_name_iff.2 ⟨.ofDeclaration ⟨"active", .number false, []⟩, by decide⟩
  · rintro ⟨v, accepted⟩
    cases accepted

end FilterRequest

end Listing
