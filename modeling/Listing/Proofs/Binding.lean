import Mathlib
import Listing.Proofs.Settings

/-!
# Binding in two steps

What a parameter sets is read from the parameter alone, whatever is bound already, and set
afterwards.  A parameter that sets nothing may still open a section of the request.

* `Setting.read_eq_ok_iff` says what is read, by the rules `Setting.Reads`, and
  `Setting.target_of_read` that a parameter sets the component that it names;
* `FilterRequest.bind_eq_ok_iff` takes binding apart into the two steps, and
  `FilterRequest.ofParameters_eq_ok_iff` does so for all parameters.
-/

namespace Listing

/-! ## Reading -/

/-- Parameters about the target set something, unless they are refused. -/
def Target.isComponent (schema : Schema) : Target → Bool
  | slot name => (schema.find? (·.name = name)).isSome
  | bound _ => true
  | paging name => (PageField.ofName? name).isSome
  | switch name => (Switch.ofName? name).isSome
  | nothing => false

namespace Setting

/-- What a parameter sets, if its name is that of a component. -/
def read (schema : Schema) (value : String) : Target → Except String (Option Setting)
  | .slot name =>
    match schema.find? (·.name = name) with
    | some field =>
      ((field.type.parse value).mapError Unreadable.message).map fun v =>
        some (.slot field (.value v))
    | none => .ok none
  | .bound rest =>
    match Text.cutAt? ']' rest with
    | none => .error "malformed range parameter"
    | some (field, ending) => do
      let v ← FilterRequest.readBound schema field value
      match BoundSide.ofName? ending with
      | none => .error "expected '.from' or '.to'"
      | some side => return some (.bound field side v)
  | .paging name =>
    match PageField.ofName? name with
    | some part => (part.read value).map fun x => some (.page part x)
    | none => .ok none
  | .switch name =>
    match Switch.ofName? name with
    | some s => (FilterRequest.readSwitch value).map fun on => some (.switch s on)
    | none => .ok none
  | .nothing => .ok none

/-- The rules of reading, one for each kind of component. -/
inductive Reads (schema : Schema) (value : String) : Target → Option Setting → Prop where
  | slot {name : String} {field : Field} {v : field.type.Carrier}
    (nearest : schema.find? (·.name = name) = some field) (parsed : field.type.parse value = .ok v) :
    Reads schema value (.slot name) (some (.slot field (.value v)))
  | bound {rest field ending : String} {side : BoundSide} {v : Value}
    (cut : Text.cutAt? ']' rest = some (field, ending))
    (parsed : FilterRequest.readBound schema field value = .ok v)
    (sided : BoundSide.ofName? ending = some side) :
    Reads schema value (.bound rest) (some (.bound field side v))
  | page {name : String} {part : PageField} {x : part.Content}
    (named : PageField.ofName? name = some part) (parsed : part.read value = .ok x) :
    Reads schema value (.paging name) (some (.page part x))
  | switch {name : String} {s : Switch} {on : Bool} (named : Switch.ofName? name = some s)
    (parsed : FilterRequest.readSwitch value = .ok on) :
    Reads schema value (.switch name) (some (.switch s on))
  | unknown {t : Target} (unknown : t.isComponent schema = false) : Reads schema value t none

variable {schema : Schema} {value : String} {t : Target} {s : Setting} {o : Option Setting}

theorem reads_of_read (ok : read schema value t = .ok o) : Reads schema value t o := by
  cases t with
  | slot name =>
    rw [read] at ok
    split at ok
    · rename_i field nearest
      obtain ⟨v, parsed, rfl⟩ := map_eq_ok.1 ok
      exact .slot nearest (mapError_eq_ok.1 parsed)
    · rename_i missing
      cases ok
      exact .unknown (Option.isSome_eq_false_iff.2 (Option.isNone_iff_eq_none.2 missing))
  | bound rest =>
    rw [read] at ok
    split at ok
    · cases ok
    · rename_i field ending cut
      obtain ⟨v, parsed, made⟩ := bind_eq_ok.1 ok
      split at made
      · cases made
      · rename_i side sided
        cases made
        exact .bound cut parsed sided
  | paging name =>
    rw [read] at ok
    split at ok
    · rename_i part named
      obtain ⟨x, parsed, rfl⟩ := map_eq_ok.1 ok
      exact .page named parsed
    · rename_i missing
      cases ok
      exact .unknown (Option.isSome_eq_false_iff.2 (Option.isNone_iff_eq_none.2 missing))
  | switch name =>
    rw [read] at ok
    split at ok
    · rename_i s named
      obtain ⟨on, parsed, rfl⟩ := map_eq_ok.1 ok
      exact .switch named parsed
    · rename_i missing
      cases ok
      exact .unknown (Option.isSome_eq_false_iff.2 (Option.isNone_iff_eq_none.2 missing))
  | nothing =>
    cases ok
    exact .unknown rfl

theorem read_of_not_isComponent (unknown : t.isComponent schema = false) (value : String) :
    read schema value t = .ok none := by
  cases t with
  | slot name => rw [read, Option.isNone_iff_eq_none.1 (Option.isSome_eq_false_iff.1 unknown)]
  | bound rest => cases unknown
  | paging name => rw [read, Option.isNone_iff_eq_none.1 (Option.isSome_eq_false_iff.1 unknown)]
  | switch name => rw [read, Option.isNone_iff_eq_none.1 (Option.isSome_eq_false_iff.1 unknown)]
  | nothing => rfl

/-- What can be read is what the rules say. -/
theorem read_eq_ok_iff : read schema value t = .ok o ↔ Reads schema value t o := by
  refine ⟨reads_of_read, fun reads => ?_⟩
  cases reads with
  | slot nearest parsed =>
    rw [read, nearest]
    dsimp only
    rw [parsed]
    rfl
  | bound cut parsed sided =>
    rw [read, cut]
    dsimp only
    rw [parsed, sided]
    rfl
  | page named parsed =>
    rw [read, named]
    dsimp only
    rw [parsed]
    rfl
  | switch named parsed =>
    rw [read, named]
    dsimp only
    rw [parsed]
    rfl
  | unknown unknown => exact read_of_not_isComponent unknown value

/-- What is not refused sets something exactly if a component is named. -/
theorem isSome_of_read (ok : read schema value t = .ok o) : o.isSome = t.isComponent schema := by
  cases reads_of_read ok with
  | slot nearest _ => rw [Target.isComponent, nearest]; rfl
  | bound => rfl
  | page named _ => rw [Target.isComponent, named]; rfl
  | switch named _ => rw [Target.isComponent, named]; rfl
  | unknown unknown => exact unknown.symm

/-- A parameter sets the component that it names. -/
theorem target_of_read (ok : read schema value t = .ok (some s)) : s.target = t := by
  cases reads_of_read ok with
  | slot nearest _ => exact congrArg Target.slot (Schema.name_of_find? nearest)
  | bound cut _ sided =>
    obtain ⟨parts, -⟩ := Text.cutAt?_eq_some_iff.1 cut
    refine congrArg Target.bound (String.toList_inj.1 ?_)
    rw [BoundSide.ofName?_eq_some_iff.1 sided, String.toList_append, String.toList_append, parts,
      List.append_assoc]
    rfl
  | page named _ => exact congrArg Target.paging (PageField.ofName?_eq_some_iff.1 named)
  | switch named _ => exact congrArg Target.switch (Switch.ofName?_eq_some_iff.1 named)

theorem isOf_of_read (ok : read schema value t = .ok (some s)) : s.IsOf schema := by
  cases reads_of_read ok with
  | slot nearest _ =>
    obtain rfl := Schema.name_of_find? nearest
    exact nearest
  | bound | page | switch => trivial

end Setting

/-! ## Setting what was read -/

namespace FilterRequest

variable {schema : Schema} {r r' : FilterRequest} {p q : String × String}

/-- A parameter for a field is read by the field's type, and a name of no field is passed over. -/
theorem bindSlot_eq (ofType : r.OfType schema) (name value : String) :
    bindSlot schema name value r =
      match schema.find? (·.name = name) with
      | some field => ((field.type.parse value).mapError Unreadable.message).map fun v =>
          (Setting.slot field (.value v)).apply schema r
      | none => .ok (r.opened schema (.slot name)) := by
  have there := Filter.field_of_cell? (r.filterSoFar schema) name
  rw [ofType] at there
  unfold bindSlot
  dsimp only
  rw [← filterSoFar]
  unfold Filter.assign
  cases found : (r.filterSoFar schema).cell? name with
  | none =>
    rw [found] at there
    rw [← there]
    rfl
  | some cell =>
    have named := Filter.name_of_cell? found
    rw [found] at there
    rw [← there]
    dsimp only [Option.map_some]
    cases cell.field.type.parse value with
    | error fault => rfl
    | ok v =>
      subst named
      rfl

/-- A parameter for the page changes the page as it is so far. -/
theorem bindPaging_eq (name value : String) (r : FilterRequest) :
    bindPaging name value r =
      match PageField.ofName? name with
      | some part => (part.read value).map fun x => { r with page := some (part.set r.pageSoFar x) }
      | none => .ok { r with page := some r.pageSoFar } := by
  cases named : PageField.ofName? name with
  | some part =>
    obtain rfl := PageField.ofName?_eq_some_iff.1 named
    cases part with
    | number | size =>
      change bindPaging _ value r = (readCount value).map _
      unfold bindPaging
      cases readCount value <;> rfl
    | sortBy => rfl
    | direction =>
      change bindPaging _ value r = (SortDirection.read (Text.trim value)).map _
      unfold bindPaging
      cases SortDirection.read (Text.trim value) <;> rfl
  | none =>
    have unnamed : ∀ part : PageField, name ≠ part.name := by
      intro part same
      rw [PageField.ofName?_eq_some_iff.2 same.symm] at named
      cases named
    have number : name ≠ "pageNumber" := unnamed .number
    have size : name ≠ "pageSize" := unnamed .size
    have sortBy : name ≠ "sortBy" := unnamed .sortBy
    have direction : name ≠ "sortDirection" := unnamed .direction
    unfold bindPaging
    rw [if_neg number, if_neg size, if_neg sortBy, if_neg direction]
    rfl

/-- A parameter for a switch changes the switches as they are so far. -/
theorem bindSwitch_eq (name value : String) (r : FilterRequest) :
    bindSwitch name value r =
      match Switch.ofName? name with
      | some s => (readSwitch value).map fun on => { r with options := some (s.set r.optionsSoFar on) }
      | none => .ok { r with options := some r.optionsSoFar } := by
  cases named : Switch.ofName? name with
  | some s =>
    obtain rfl := Switch.ofName?_eq_some_iff.1 named
    dsimp only
    unfold bindSwitch
    cases s with
    | ignoreCase | inherited => cases readSwitch value <;> rfl
  | none =>
    have unnamed : ∀ s : Switch, name ≠ s.name := by
      intro s same
      rw [Switch.ofName?_eq_some_iff.2 same.symm] at named
      cases named
    have ignoreCase : name ≠ "caseInsensitiveStrings" := unnamed .ignoreCase
    have inherited : name ≠ "includeInheritedFields" := unnamed .inherited
    unfold bindSwitch
    rw [if_neg ignoreCase, if_neg inherited]
    rfl

/-- What a parameter sets is read before it is set, and some section is opened in any case. -/
theorem bindTarget_eq (ofType : r.OfType schema) (value : String) (t : Target) :
    bindTarget schema value r t =
      (Setting.read schema value t).map fun
        | some s => s.apply schema r
        | none => r.opened schema t := by
  cases t with
  | slot name =>
    rw [bindTarget, bindSlot_eq ofType, Setting.read]
    cases schema.find? (·.name = name) with
    | none => rfl
    | some field =>
      dsimp only
      cases field.type.parse value <;> rfl
  | bound rest =>
    rw [bindTarget, bindBound, Setting.read]
    cases Text.cutAt? ']' rest with
    | none => rfl
    | some parts =>
      obtain ⟨field, ending⟩ := parts
      dsimp only
      cases readBound schema field value with
      | error message => rfl
      | ok v => cases BoundSide.ofName? ending <;> rfl
  | paging name =>
    rw [bindTarget, bindPaging_eq, Setting.read]
    cases PageField.ofName? name with
    | none => rfl
    | some part =>
      dsimp only
      cases part.read value <;> rfl
  | switch name =>
    rw [bindTarget, bindSwitch_eq, Setting.read]
    cases Switch.ofName? name with
    | none => rfl
    | some s =>
      dsimp only
      cases readSwitch value <;> rfl
  | nothing => rfl

/-- The parameter is not refused: it is passed over, or what it says can be read. -/
def IsReadable (schema : Schema) (p : String × String) : Prop :=
  Counts p → ∃ o, Setting.read schema p.2 (.ofName p.1) = .ok o

/-- The request with a parameter bound that is not refused. -/
def bound (schema : Schema) (r : FilterRequest) (p : String × String) : FilterRequest :=
  if Text.isBlankOnly p.2 then r
  else
    match Setting.read schema p.2 (.ofName p.1) with
    | .ok (some s) => s.apply schema r
    | _ => r.opened schema (.ofName p.1)

/-- A parameter that does not count changes nothing. -/
theorem bound_of_blank (blank : ¬ Counts p) (r : FilterRequest) : r.bound schema p = r :=
  if_pos (eq_true_of_ne_false blank)

theorem bound_of_read_some {s : Setting} (counts : Counts p)
    (ok : Setting.read schema p.2 (.ofName p.1) = .ok (some s)) (r : FilterRequest) :
    r.bound schema p = s.apply schema r := by
  rw [bound, if_neg (ne_true_of_eq_false counts), ok]

/-- A parameter that says nothing may still open a section. -/
theorem bound_of_read_none (counts : Counts p)
    (ok : Setting.read schema p.2 (.ofName p.1) = .ok none) (r : FilterRequest) :
    r.bound schema p = r.opened schema (.ofName p.1) := by
  rw [bound, if_neg (ne_true_of_eq_false counts), ok]

/-- A parameter is passed over, opens a section, or sets the component that it names. -/
theorem bound_cases (schema : Schema) (p : String × String) :
    (∀ r, bound schema r p = r) ∨
      (∀ r, bound schema r p = r.opened schema (.ofName p.1)) ∨
        ∃ s : Setting, s.target = .ofName p.1 ∧ ∀ r, bound schema r p = s.apply schema r := by
  by_cases counts : Counts p
  · cases outcome : Setting.read schema p.2 (.ofName p.1) with
    | error message =>
      refine Or.inr (Or.inl fun r => ?_)
      rw [bound, if_neg (ne_true_of_eq_false counts), outcome]
    | ok o =>
      cases o with
      | none => exact Or.inr (Or.inl (bound_of_read_none counts outcome))
      | some s =>
        exact Or.inr (Or.inr ⟨s, Setting.target_of_read outcome, bound_of_read_some counts outcome⟩)
  · exact Or.inl (bound_of_blank counts)

/-- Which of the three it is can be told from the name if the parameter counts and is not
refused. -/
theorem IsReadable.bound_cases (readable : IsReadable schema p) (counts : Counts p) :
    ((Target.ofName p.1).isComponent schema = false ∧
        ∀ r, bound schema r p = r.opened schema (.ofName p.1)) ∨
      ((Target.ofName p.1).isComponent schema = true ∧
        ∃ s : Setting, s.target = .ofName p.1 ∧ s.IsOf schema ∧
          ∀ r, bound schema r p = s.apply schema r) := by
  obtain ⟨o, ok⟩ := readable counts
  have named := Setting.isSome_of_read ok
  cases o with
  | none => exact Or.inl ⟨named.symm, bound_of_read_none counts ok⟩
  | some s =>
    exact Or.inr ⟨named.symm, s, Setting.target_of_read ok, Setting.isOf_of_read ok,
      bound_of_read_some counts ok⟩

/-- Binding a parameter succeeds exactly if it is not refused. -/
theorem bind_eq_ok_iff (ofType : r.OfType schema) :
    bind schema r p = .ok r' ↔ IsReadable schema p ∧ r.bound schema p = r' := by
  by_cases counts : Counts p
  · have step : bind schema r p = .ok r' ↔ bindTarget schema p.2 r (.ofName p.1) = .ok r' := by
      unfold bind
      dsimp only
      rw [if_neg (ne_true_of_eq_false counts), mapError_eq_ok]
    rw [step, bindTarget_eq ofType, map_eq_ok]
    constructor
    · rintro ⟨o, ok, rfl⟩
      refine ⟨fun _ => ⟨o, ok⟩, ?_⟩
      cases o with
      | none => exact bound_of_read_none counts ok r
      | some s => exact bound_of_read_some counts ok r
    · rintro ⟨readable, rfl⟩
      obtain ⟨o, ok⟩ := readable counts
      refine ⟨o, ok, ?_⟩
      cases o with
      | none => exact (bound_of_read_none counts ok r).symm
      | some s => exact (bound_of_read_some counts ok r).symm
  · have step : bind schema r p = .ok r := if_pos (eq_true_of_ne_false counts)
    rw [step, bound_of_blank counts]
    constructor
    · intro same
      exact ⟨fun absurdly => absurd absurdly counts, Except.ok.inj same⟩
    · rintro ⟨-, rfl⟩
      rfl

/-- A refused parameter is named in the failure, with its value as it was given. -/
theorem bind_of_read_error {message : String} (ofType : r.OfType schema) (counts : Counts p)
    (refused : Setting.read schema p.2 (.ofName p.1) = .error message) :
    bind schema r p = .error (.request (.invalidParameter p.1 p.2 message)) := by
  unfold bind
  dsimp only
  rw [if_neg (ne_true_of_eq_false counts), bindTarget_eq ofType, refused]
  rfl

/-! ### Whatever is bound, the filter stays one of the type -/

theorem OfType.opened (ofType : r.OfType schema) (t : Target) : (r.opened schema t).OfType schema := by
  cases t <;> exact ofType

theorem OfType.apply {s : Setting} (ofType : r.OfType schema) (declared : s.IsOf schema) :
    (s.apply schema r).OfType schema := by
  cases s with
  | slot field state =>
    have there := Filter.field_of_cell? (r.filterSoFar schema) field.name
    rw [ofType, declared] at there
    obtain ⟨cell, found, same⟩ := Option.map_eq_some_iff.1 there
    exact (Filter.schema_replace found same.symm).trans ofType
  | bound | page | switch => exact ofType

/-- Binding a parameter leaves the filter one of its type. -/
theorem OfType.bound (ofType : r.OfType schema) (p : String × String) :
    (r.bound schema p).OfType schema := by
  unfold FilterRequest.bound
  split
  · exact ofType
  · split
    · exact ofType.apply (Setting.isOf_of_read ‹_›)
    · exact ofType.opened _

theorem OfType.foldl_bound (ofType : r.OfType schema) (ps : List (String × String)) :
    (ps.foldl (FilterRequest.bound schema) r).OfType schema := by
  induction ps generalizing r with
  | nil => exact ofType
  | cons p rest ih => exact ih (ofType.bound p)

/-- Binding several parameters succeeds exactly if none of them is refused, and then sets what
they say one after the other. -/
theorem foldlM_bind_eq_ok_iff {ps : List (String × String)} (ofType : r.OfType schema) :
    ps.foldlM (bind schema) r = .ok r' ↔
      (∀ p ∈ ps, IsReadable schema p) ∧ ps.foldl (bound schema) r = r' := by
  induction ps generalizing r with
  | nil => simp [pure, Except.pure]
  | cons p rest ih =>
    rw [List.foldlM_cons, bind_eq_ok, List.forall_mem_cons, List.foldl_cons]
    constructor
    · rintro ⟨next, bound, ok⟩
      obtain ⟨readable, rfl⟩ := (bind_eq_ok_iff ofType).1 bound
      obtain ⟨others, done⟩ := (ih (ofType.bound p)).1 ok
      exact ⟨⟨readable, others⟩, done⟩
    · rintro ⟨⟨readable, others⟩, done⟩
      exact ⟨_, (bind_eq_ok_iff ofType).2 ⟨readable, rfl⟩, (ih (ofType.bound p)).2 ⟨others, done⟩⟩

/-- A request is made of parameters exactly if none of them is refused. -/
theorem ofParameters_eq_ok_iff {ps : List (String × String)} :
    ofParameters schema ps = .ok r ↔
      (∀ p ∈ ps, IsReadable schema p) ∧ ps.foldl (bound schema) empty = r :=
  foldlM_bind_eq_ok_iff (ofType_empty schema)

end FilterRequest

end Listing
