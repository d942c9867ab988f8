import Mathlib
import Listing.Proofs.Chains
import Listing.Proofs.Parameters
import Listing.Proofs.SortedPairs

/-!
# Settings of a request

A request has components that are sent one at a time: the slots of its fields, the bounds of its
ranges, the parts of its page and its two switches.  A setting is one component with a new
content.  It leaves all other components alone, and the names of parameters tell the components
apart.

* `Setting.holds_apply` and `Setting.holds_apply_iff` say what a setting changes and what not;
* `Setting.apply_comm` and `Setting.apply_apply` exchange settings of different components and
  merge those of one.
-/

namespace Listing

/-! ## Names -/

/-- What is behind a beginning is what it was put before. -/
theorem Text.after?_append (start rest : String) : Text.after? start (start ++ rest) = some rest :=
  Text.after?_eq_some_iff.2 rfl

/-- A text with another first character does not have the beginning. -/
theorem Text.after?_append_of_head {start other : String}
    (apart : start.toList.head? ≠ other.toList.head?) (nonempty : start.toList ≠ [])
    (nonempty' : other.toList ≠ []) (rest : String) : Text.after? start (other ++ rest) = none := by
  refine Text.after?_eq_none_of_head ?_ nonempty
  rw [String.toList_append, List.head?_append_of_ne_nil _ nonempty']
  exact apart

namespace Target

/-- The name that is about a target. -/
def text : Target → String
  | slot field => "filters." ++ field
  | bound rest => "rangeFilters.ranges[" ++ rest
  | paging name => "pagination." ++ name
  | switch name => "options." ++ name
  | nothing => ""

/-- A name that is about something is the name of its target. -/
theorem text_ofName {name : String} (about : ofName name ≠ nothing) :
    (ofName name).text = name := by
  unfold ofName at about ⊢
  repeat' split
  · exact (Text.after?_eq_some_iff.1 ‹_›).symm
  · exact (Text.after?_eq_some_iff.1 ‹_›).symm
  · exact (Text.after?_eq_some_iff.1 ‹_›).symm
  · exact (Text.after?_eq_some_iff.1 ‹_›).symm
  · simp_all

/-- A target is what its name is about. -/
theorem ofName_text {t : Target} (some : t ≠ nothing) : ofName t.text = t := by
  cases t with
  | slot field =>
    change ofName ("filters." ++ field) = slot field
    rw [ofName, Text.after?_append]
  | bound rest =>
    change ofName ("rangeFilters.ranges[" ++ rest) = bound rest
    rw [ofName, Text.after?_append_of_head (by decide) (by decide) (by decide),
      Text.after?_append]
  | paging name => exact ofName_eq_paging_iff.2 rfl
  | switch name =>
    change ofName ("options." ++ name) = switch name
    rw [ofName, Text.after?_append_of_head (by decide) (by decide) (by decide),
      Text.after?_append_of_head (by decide) (by decide) (by decide),
      Text.after?_append_of_head (by decide) (by decide) (by decide), Text.after?_append]
  | nothing => exact absurd rfl some

/-- Different names are about different targets. -/
theorem ofName_ne {name name' : String} (apart : name ≠ name') (about : ofName name ≠ nothing) :
    ofName name ≠ ofName name' := by
  intro same
  have about' : ofName name' ≠ nothing := same ▸ about
  exact apart ((text_ofName about).symm.trans ((congrArg text same).trans (text_ofName about')))

end Target

/-- A text is cut at the first place where the character stands. -/
theorem Text.cutAt?_eq_some_iff {c : Char} {s front back : String} :
    Text.cutAt? c s = some (front, back) ↔
      s.toList = front.toList ++ c :: back.toList ∧ c ∉ front.toList := by
  have parts := List.takeWhile_append_dropWhile (p := (· != c)) (l := s.toList)
  unfold cutAt?
  constructor
  · intro cut
    split at cut
    · cases cut
    · rename_i first rest behind
      obtain ⟨rfl, rfl⟩ := Prod.mk.inj (Option.some.inj cut)
      have stops := List.head?_dropWhile_not (· != c) s.toList
      have first : first = c := by simpa [behind] using stops
      rw [behind, first] at parts
      refine ⟨by simpa using parts.symm, fun member => ?_⟩
      rw [String.toList_ofList] at member
      simpa using List.mem_takeWhile_imp member
  · rintro ⟨same, fresh⟩
    have passes : ∀ d ∈ front.toList, (d != c) = true := fun d member =>
      bne_iff_ne.2 (ne_of_mem_of_not_mem member fresh)
    rw [same, List.takeWhile_append_of_pos passes, List.dropWhile_append_of_pos passes]
    simp

theorem Text.cutAt?_eq_none_iff {c : Char} {s : String} : Text.cutAt? c s = none ↔ c ∉ s.toList := by
  unfold cutAt?
  split
  · rename_i nowhere
    refine iff_of_true rfl fun member => ?_
    exact bne_iff_ne.1 (List.dropWhile_eq_nil_iff.1 nowhere c member) rfl
  · rename_i first rest behind
    refine iff_of_false (Option.some_ne_none _) fun missing => missing ?_
    have stops := List.head?_dropWhile_not (· != c) s.toList
    have first : first = c := by simpa [behind] using stops
    rw [← List.takeWhile_append_dropWhile (p := (· != c)) (l := s.toList), behind, first]
    simp

/-- What stands before the first occurrence of a character can be any text without it. -/
theorem Text.cutAt?_append {c : Char} {front : String} (plain : c ∉ front.toList) (back : String) :
    Text.cutAt? c (front ++ String.singleton c ++ back) = some (front, back) := by
  refine cutAt?_eq_some_iff.2 ⟨?_, plain⟩
  rw [String.toList_append, String.toList_append, List.append_assoc, String.toList_singleton]
  rfl

/-! ## Components -/

namespace PageField

/-- What a part of a page can be. -/
def Content : PageField → Type
  | number | size => Count
  | sortBy => Option String
  | direction => SortDirection

def get (page : PageRequest) : (f : PageField) → f.Content
  | number => page.number
  | size => page.size
  | sortBy => page.sortBy
  | direction => page.direction

def set (page : PageRequest) : (f : PageField) → f.Content → PageRequest
  | number, n => { page with number := n }
  | size, n => { page with size := n }
  | sortBy, s => { page with sortBy := s }
  | direction, d => { page with direction := d }

def ofName? (name : String) : Option PageField :=
  [number, size, sortBy, direction].find? (·.name = name)

def read (value : String) : (f : PageField) → Except String f.Content
  | number | size => FilterRequest.readCount value
  | sortBy => .ok (some (Text.trim value))
  | direction => SortDirection.read (Text.trim value)

theorem ofName?_eq_some_iff {name : String} {f : PageField} : ofName? name = some f ↔ f.name = name := by
  constructor
  · intro found
    simpa using List.find?_some found
  · rintro rfl
    cases f <;> rfl

theorem name_inj {f f' : PageField} (same : f.name = f'.name) : f = f' :=
  Option.some.inj ((ofName?_eq_some_iff.2 same).symm.trans (ofName?_eq_some_iff.2 rfl))

end PageField

/-- The options that a client can send. -/
inductive Switch where
  | ignoreCase
  | inherited
  deriving DecidableEq

namespace Switch

/-- The name of a switch among the options. -/
def name : Switch → String
  | ignoreCase => "caseInsensitiveStrings"
  | inherited => "includeInheritedFields"

/-- The state of a switch, if it is sent. -/
def get (options : OptionOverrides) : Switch → Option Bool
  | ignoreCase => options.ignoreCase
  | inherited => options.inherited

def set (options : OptionOverrides) (on : Bool) : Switch → OptionOverrides
  | ignoreCase => { options with ignoreCase := some on }
  | inherited => { options with inherited := some on }

def ofName? (name : String) : Option Switch := [ignoreCase, inherited].find? (·.name = name)

theorem ofName?_eq_some_iff {name : String} {s : Switch} : ofName? name = some s ↔ s.name = name := by
  constructor
  · intro found
    simpa using List.find?_some found
  · rintro rfl
    cases s <;> rfl

theorem name_inj {s s' : Switch} (same : s.name = s'.name) : s = s' :=
  Option.some.inj ((ofName?_eq_some_iff.2 same).symm.trans (ofName?_eq_some_iff.2 rfl))

end Switch

/-- The end of the name of a bound. -/
def BoundSide.ending : BoundSide → String
  | low => ".from"
  | high => ".to"

theorem BoundSide.ofName?_eq_some_iff {name : String} {side : BoundSide} :
    ofName? name = some side ↔ side.ending = name := by
  unfold ofName?
  cases side with
  | low => simp [ending, eq_comm]
  | high =>
    simp only [ending]
    split
    · simp_all
    · simp [eq_comm]

/-- The end of a name tells the side, and what stands before it the field. -/
theorem BoundSide.name_inj {field field' : String} {side side' : BoundSide}
    (same : field ++ "]" ++ side.ending = field' ++ "]" ++ side'.ending) :
    field = field' ∧ side = side' := by
  have last : ∀ (front : String) (side : BoundSide),
      (front ++ side.ending).toList.getLast? = side.ending.toList.getLast? := by
    intro front side
    rw [String.toList_append, List.getLast?_append]
    cases side <;> rfl
  have ends := (last _ side).symm.trans (same ▸ last _ side')
  have sides : side = side' := by
    cases side <;> cases side'
    case low.low | high.high => rfl
    case low.high | high.low => exact absurd ends (by decide)
  subst sides
  exact ⟨(String.append_left_inj _).1 ((String.append_left_inj _).1 same), rfl⟩

/-- A bound of a range. -/
def Range.bound (r : Range) : BoundSide → Option Value
  | .low => r.low
  | .high => r.high

/-- The ranges with a bound set. -/
def RangeFilter.bounded (ranges : RangeFilter) (field : String) (side : BoundSide) (v : Value) :
    RangeFilter :=
  ranges.insert field ((ranges.get field).set side v)

/-- Setting a bound changes the range of its field and no other. -/
theorem RangeFilter.get_bounded (ranges : RangeFilter) (field other : String) (side : BoundSide)
    (v : Value) :
    (ranges.bounded field side v).get other =
      if other = field then (ranges.get field).set side v else ranges.get other := by
  rw [get, bounded, insert, Keyed.get?_insert]
  split <;> rfl

/-- A bound that was set is there. -/
theorem Range.bound_set (r : Range) (side : BoundSide) (v : Value) :
    (r.set side v).bound side = some v := by
  cases side <;> rfl

theorem Range.bound_set_of_ne {side side' : BoundSide} (apart : side ≠ side') (r : Range)
    (v : Value) : (r.set side v).bound side' = r.bound side' := by
  cases side <;> cases side'
  case low.low | high.high => exact absurd rfl apart
  case low.high | high.low => rfl

/-- Bounds on different fields or on different sides can be exchanged. -/
theorem RangeFilter.bounded_comm {field field' : String} {side side' : BoundSide}
    (apart : field = field' → side ≠ side') (ranges : RangeFilter) (v v' : Value) :
    (ranges.bounded field side v).bounded field' side' v' =
      (ranges.bounded field' side' v').bounded field side v := by
  have there := get_bounded ranges field field' side v
  have back := get_bounded ranges field' field side' v'
  by_cases same : field = field'
  · subst same
    rw [if_pos rfl] at there back
    rw [bounded, there, bounded.eq_1 (ranges.bounded _ _ _), back]
    unfold bounded insert
    rw [Keyed.insert_insert, Keyed.insert_insert]
    cases side <;> cases side'
    case low.low | high.high => exact absurd rfl (apart rfl)
    case low.high | high.low => rfl
  · rw [if_neg (Ne.symm same)] at there
    rw [if_neg same] at back
    rw [bounded, there, bounded.eq_1 (ranges.bounded _ _ _), back]
    unfold bounded insert
    rw [Keyed.insert_comm same]

/-- Of two values for one bound, the later one counts. -/
theorem RangeFilter.bounded_bounded (ranges : RangeFilter) (field : String) (side : BoundSide)
    (v v' : Value) :
    (ranges.bounded field side v).bounded field side v' = ranges.bounded field side v' := by
  rw [bounded, get_bounded, if_pos rfl]
  unfold bounded insert
  rw [Keyed.insert_insert]
  cases side <;> rfl

/-- A part of a page that was set is there. -/
theorem PageField.get_set (page : PageRequest) (f : PageField) (x : f.Content) :
    f.get (f.set page x) = x := by
  cases f <;> rfl

/-- The other parts stay as they were. -/
theorem PageField.get_set_of_ne {f f' : PageField} (apart : f ≠ f') (page : PageRequest)
    (x : f.Content) : f'.get (f.set page x) = f'.get page := by
  cases f <;> cases f' <;> first | exact absurd rfl apart | rfl

/-- A switch leaves the other one as it was. -/
theorem Switch.get_set_of_ne {s s' : Switch} (apart : s ≠ s') (options : OptionOverrides)
    (on : Bool) : s'.get (s.set options on) = s'.get options := by
  cases s <;> cases s' <;> first | exact absurd rfl apart | rfl

/-! ## Settings -/

namespace FilterRequest

/-- The filter as binding sees it: that of the request so far, or else a blank one. -/
def filterSoFar (schema : Schema) (r : FilterRequest) : Filter := r.filter.getD (.blank schema)

def rangesSoFar (r : FilterRequest) : RangeFilter := r.ranges.getD .empty

def optionsSoFar (r : FilterRequest) : OptionOverrides := r.options.getD .unsent

/-- The request has a filter of the type, if any. -/
def OfType (schema : Schema) (r : FilterRequest) : Prop := (r.filterSoFar schema).schema = schema

theorem ofType_empty (schema : Schema) : OfType schema empty := Filter.schema_blank schema

/-- The request with the section for a target there, if only with what it has by default. -/
def opened (schema : Schema) (r : FilterRequest) : Target → FilterRequest
  | .slot _ => { r with filter := some (r.filterSoFar schema) }
  | .bound _ => { r with ranges := some r.rangesSoFar }
  | .paging _ => { r with page := some r.pageSoFar }
  | .switch _ => { r with options := some r.optionsSoFar }
  | .nothing => r

end FilterRequest

/-- A component of a request with a new content. -/
inductive Setting where
  | slot (field : Field) (state : Slot field.type.Carrier)
  | bound (field : String) (side : BoundSide) (value : Value)
  | page (part : PageField) (content : part.Content)
  | switch (switch : Switch) (on : Bool)

namespace Setting

/-- The component that is set, as the names of parameters have it. -/
def target : Setting → Target
  | slot field _ => .slot field.name
  | bound field side _ => .bound (field ++ "]" ++ side.ending)
  | page part _ => .paging part.name
  | switch s _ => .switch s.name

/-- The name of the parameters that set the component. -/
def name (s : Setting) : String := s.target.text

/-- Set a component of a request. -/
def apply (schema : Schema) (r : FilterRequest) : Setting → FilterRequest
  | slot field state =>
    { r with filter := some ((r.filterSoFar schema).replace field.name ⟨field, state⟩) }
  | bound field side value => { r with ranges := some (r.rangesSoFar.bounded field side value) }
  | page part content => { r with page := some (part.set r.pageSoFar content) }
  | switch s on => { r with options := some (s.set r.optionsSoFar on) }

/-- The component has the content; sections that are missing count with what they have by
default. -/
def Holds (schema : Schema) (r : FilterRequest) : Setting → Prop
  | slot field state => (r.filterSoFar schema).cell? field.name = some ⟨field, state⟩
  | bound field side value => (r.rangesSoFar.get field).bound side = some value
  | page part content => part.get r.pageSoFar = content
  | switch s on => s.get r.optionsSoFar = some on

/-- The type has the field whose slot is set. -/
def IsOf (schema : Schema) : Setting → Prop
  | slot field _ => schema.find? (·.name = field.name) = some field
  | _ => True

variable {schema : Schema} {r : FilterRequest} {s s' : Setting}

theorem target_ne_nothing (s : Setting) : s.target ≠ .nothing := by
  cases s <;> exact Target.noConfusion

/-- What has been set holds. -/
theorem holds_apply (ofType : r.OfType schema) (declared : s.IsOf schema) :
    s.Holds schema (s.apply schema r) := by
  cases s with
  | slot field state =>
    have there := Filter.field_of_cell? (r.filterSoFar schema) field.name
    rw [ofType, declared] at there
    obtain ⟨cell, found, -⟩ := Option.map_eq_some_iff.1 there
    exact Filter.cell?_replace rfl found
  | bound field side value =>
    have set := RangeFilter.get_bounded r.rangesSoFar field field side value
    rw [if_pos rfl] at set
    change ((r.rangesSoFar.bounded field side value).get field).bound side = some value
    rw [set, Range.bound_set]
  | page part content => exact part.get_set r.pageSoFar content
  | switch s on => cases s <;> rfl

/-- A component has one content. -/
theorem Holds.iff_eq (holds : s.Holds schema r) (same : s.target = s'.target) :
    s'.Holds schema r ↔ s' = s := by
  constructor
  · intro holds'
    cases s <;> cases s'
    case slot.slot field state field' state' =>
      have names : field.name = field'.name := Target.slot.inj same
      have cells := holds.symm.trans ((congrArg _ names).trans holds')
      cases Option.some.inj cells
      rfl
    case bound.bound field side value field' side' value' =>
      obtain ⟨rfl, rfl⟩ := BoundSide.name_inj (Target.bound.inj same)
      cases Option.some.inj (holds.symm.trans holds')
      rfl
    case page.page part content part' content' =>
      obtain rfl := PageField.name_inj (Target.paging.inj same)
      cases holds.symm.trans holds'
      rfl
    case switch.switch s on s' on' =>
      obtain rfl := Switch.name_inj (Target.switch.inj same)
      cases Option.some.inj (holds.symm.trans holds')
      rfl
    all_goals cases same
  · rintro rfl
    exact holds

/-- A setting leaves all other components alone. -/
theorem holds_apply_iff (apart : s.target ≠ s'.target) :
    s'.Holds schema (s.apply schema r) ↔ s'.Holds schema r := by
  cases s <;> cases s'
  case slot.slot field state field' state' =>
    have names : field.name ≠ field'.name := fun same => apart (congrArg Target.slot same)
    have kept : ((r.filterSoFar schema).replace field.name ⟨field, state⟩).cell? field'.name =
        (r.filterSoFar schema).cell? field'.name := Filter.cell?_replace_of_ne names rfl _
    exact Eq.congr_left kept
  case bound.bound field side value field' side' value' =>
    refine Eq.congr_left ?_
    change ((r.rangesSoFar.bounded field side value).get field').bound side' = _
    rw [RangeFilter.get_bounded]
    split
    · rename_i same
      subst same
      exact Range.bound_set_of_ne (fun same => apart (by rw [target, target, same])) _ _
    · rfl
  case page.page part content part' content' =>
    have parts : part ≠ part' := fun same => apart (by rw [target, target, same])
    exact Eq.congr_left (part.get_set_of_ne parts r.pageSoFar content)
  case switch.switch s on s' on' =>
    have switches : s ≠ s' := fun same => apart (by rw [target, target, same])
    exact Eq.congr_left (s.get_set_of_ne switches r.optionsSoFar on)
  all_goals exact Iff.rfl

/-- Settings of different components can be exchanged. -/
theorem apply_comm (apart : s.target ≠ s'.target) (r : FilterRequest) :
    s'.apply schema (s.apply schema r) = s.apply schema (s'.apply schema r) := by
  -- Different sections never meet; within a section the names keep the two apart.
  cases s <;> cases s'
  case slot.slot field state field' state' =>
    have names : field.name ≠ field'.name := fun same => apart (congrArg Target.slot same)
    refine congrArg (fun f => { r with filter := some f }) ?_
    exact Filter.replace_comm names rfl rfl (r.filterSoFar schema)
  case bound.bound field side value field' side' value' =>
    have bounds : field = field' → side ≠ side' := fun same sides =>
      apart (by rw [target, target, same, sides])
    have exchanged := RangeFilter.bounded_comm bounds r.rangesSoFar value value'
    exact congrArg (fun ranges => { r with ranges := some ranges }) exchanged
  case page.page part content part' content' =>
    cases part <;> cases part' <;> first | exact absurd rfl apart | rfl
  case switch.switch s on s' on' =>
    cases s <;> cases s' <;> first | exact absurd rfl apart | rfl
  all_goals rfl

/-- Of two settings of one component the second counts. -/
theorem apply_apply (same : s.target = s'.target) (r : FilterRequest) :
    s'.apply schema (s.apply schema r) = s'.apply schema r := by
  cases s <;> cases s'
  case slot.slot field state field' state' =>
    have names : field.name = field'.name := Target.slot.inj same
    refine congrArg (fun f => { r with filter := some f }) ?_
    change ((r.filterSoFar schema).replace field.name ⟨field, state⟩).replace field'.name _ = _
    have named : (Cell.mk field state).field.name = field.name := rfl
    rw [← names, Filter.replace_replace named]
  case bound.bound field side value field' side' value' =>
    obtain ⟨rfl, rfl⟩ := BoundSide.name_inj (Target.bound.inj same)
    have merged := RangeFilter.bounded_bounded r.rangesSoFar field side value value'
    exact congrArg (fun ranges => { r with ranges := some ranges }) merged
  case page.page part content part' content' =>
    obtain rfl := PageField.name_inj (Target.paging.inj same)
    cases part <;> rfl
  case switch.switch s on s' on' =>
    obtain rfl := Switch.name_inj (Target.switch.inj same)
    cases s <;> rfl
  all_goals cases same

end Setting

end Listing
