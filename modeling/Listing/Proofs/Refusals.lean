import Mathlib
import Listing.Proofs.Binding

/-!
# Parameters that are refused

A parameter is refused for what its own name and text say, whatever is bound before it: the type
of a field, the kind of a bound or a part of the page cannot read the text, or the name of a bound
is not one.  Binding stops at the first parameter that is refused, and its error names this one.

* `Refuses` says which parameters are refused, one rule for each reason, and `refuses_iff` that
  reading fails by these rules;
* `FilterRequest.bind_eq_error_iff` says that the request so far plays no part in it;
* `FilterRequest.ofParameters_refused` is the theorem about all lists of parameters.
-/

namespace Listing

/-! ## Reasons -/

/-- The parameter with a name and a text is refused with a message: by the type of the nearest
field that a slot has, by the kind of the first visible field that a bound has, by a part of the
page, by a switch, or because a bound is not named as one. -/
inductive Refuses (schema : Schema) (value : String) : String → String → Prop where
  | slot {name : String} {field : Field} {fault : Unreadable}
    (nearest : schema.find? (·.name = name) = some field)
    (unreadable : field.type.parse value = .error fault) :
    Refuses schema value ("filters." ++ name) fault.message
  | unclosed {rest : String} (nowhere : ']' ∉ rest.toList) :
    Refuses schema value ("rangeFilters.ranges[" ++ rest) "malformed range parameter"
  | bound {name ending : String} {first : FieldDescriptor} {fault : Unreadable}
    (plain : ']' ∉ name.toList) (found : findField schema.declared name true = some first)
    (ordered : first.kind.isRangeable = true)
    (unreadable : Value.parseAs first.kind value = .error fault) :
    Refuses schema value ("rangeFilters.ranges[" ++ (name ++ "]" ++ ending)) fault.message
  | ending {name ending : String} (plain : ']' ∉ name.toList)
    (readable : ∀ first, findField schema.declared name true = some first →
      first.kind.isRangeable = true → ∃ v, Value.parseAs first.kind value = .ok v)
    (neither : ending ≠ ".from" ∧ ending ≠ ".to") :
    Refuses schema value ("rangeFilters.ranges[" ++ (name ++ "]" ++ ending))
      "expected '.from' or '.to'"
  | page {part : PageField} {message : String} (unreadable : part.read value = .error message) :
    Refuses schema value ("pagination." ++ part.name) message
  | switch {s : Switch} {message : String}
    (unreadable : FilterRequest.readSwitch value = .error message) :
    Refuses schema value ("options." ++ s.name) message

/-! ## Reading fails for these reasons -/

theorem BoundSide.ofName?_eq_none_iff {name : String} :
    ofName? name = none ↔ name ≠ ".from" ∧ name ≠ ".to" := by
  unfold ofName?
  split_ifs with low high
  · exact iff_of_false nofun fun neither => neither.1 low
  · exact iff_of_false nofun fun neither => neither.2 high
  · exact iff_of_true rfl ⟨low, high⟩

namespace FilterRequest

variable {schema : Schema} {name value message : String}

/-- Only bounds on ordered fields are read in a way that can fail. -/
theorem readBound_eq_error_iff :
    readBound schema name value = .error message ↔
      ∃ first fault, findField schema.declared name true = some first ∧
        first.kind.isRangeable = true ∧ Value.parseAs first.kind value = .error fault ∧
        fault.message = message := by
  unfold readBound
  cases found : findField schema.declared name true with
  | none => simp
  | some first =>
    dsimp only
    split_ifs with ordered
    · rw [mapError_eq_error]
      simp [ordered]
    · simp [ordered]

/-- A bound can be read unless the first visible field of its name has a kind with an order that
does not read it. -/
theorem exists_readBound_iff :
    (∃ v, readBound schema name value = .ok v) ↔
      ∀ first, findField schema.declared name true = some first →
        first.kind.isRangeable = true → ∃ v, Value.parseAs first.kind value = .ok v := by
  simp only [exists_eq_ok_iff, ne_eq, readBound_eq_error_iff]
  constructor
  · intro readable first found ordered fault unreadable
    exact readable _ ⟨first, fault, found, ordered, unreadable, rfl⟩
  · rintro readable - ⟨first, fault, found, ordered, unreadable, rfl⟩
    exact readable first found ordered fault unreadable

end FilterRequest

variable {schema : Schema} {name value message : String}

/-- A target fails under the name that it is written with. -/
theorem Setting.read_text {t : Target} (some : t ≠ .nothing)
    (failed : read schema value t = .error message) :
    read schema value (.ofName t.text) = .error message := by
  rwa [Target.ofName_text some]

theorem Refuses.read_eq_error (refuses : Refuses schema value name message) :
    Setting.read schema value (.ofName name) = .error message := by
  cases refuses with
  | @slot name field fault nearest unreadable =>
    refine Setting.read_text (t := .slot name) Target.noConfusion ?_
    rw [Setting.read, nearest]
    dsimp only
    rw [unreadable]
    rfl
  | @unclosed rest nowhere =>
    refine Setting.read_text (t := .bound rest) Target.noConfusion ?_
    rw [Setting.read, Text.cutAt?_eq_none_iff.2 nowhere]
  | @bound name ending first fault plain found ordered unreadable =>
    have cut := Text.cutAt?_append plain ending
    have failed : FilterRequest.readBound schema name value = .error fault.message :=
      FilterRequest.readBound_eq_error_iff.2 ⟨first, fault, found, ordered, unreadable, rfl⟩
    refine Setting.read_text (t := .bound (name ++ "]" ++ ending)) Target.noConfusion ?_
    rw [Setting.read, show Text.cutAt? ']' (name ++ "]" ++ ending) = some (name, ending) from cut]
    dsimp only
    rw [failed]
    rfl
  | @ending name ending plain readable neither =>
    have cut := Text.cutAt?_append plain ending
    obtain ⟨v, read⟩ := FilterRequest.exists_readBound_iff.2 readable
    refine Setting.read_text (t := .bound (name ++ "]" ++ ending)) Target.noConfusion ?_
    rw [Setting.read, show Text.cutAt? ']' (name ++ "]" ++ ending) = some (name, ending) from cut]
    dsimp only
    rw [read, BoundSide.ofName?_eq_none_iff.2 neither]
    rfl
  | @page part message unreadable =>
    refine Setting.read_text (t := .paging part.name) Target.noConfusion ?_
    rw [Setting.read, PageField.ofName?_eq_some_iff.2 rfl]
    dsimp only
    rw [unreadable]
    rfl
  | @switch s message unreadable =>
    refine Setting.read_text (t := .switch s.name) Target.noConfusion ?_
    rw [Setting.read, Switch.ofName?_eq_some_iff.2 rfl]
    dsimp only
    rw [unreadable]
    rfl

/-- What is not read is refused for one of the reasons that there are. -/
theorem refuses_of_read_eq_error
    (failed : Setting.read schema value (.ofName name) = .error message) :
    Refuses schema value name message := by
  have text : Target.ofName name ≠ .nothing → (Target.ofName name).text = name :=
    Target.text_ofName
  generalize Target.ofName name = t at failed text
  cases t with
  | slot field =>
    obtain rfl := text Target.noConfusion
    rw [Setting.read] at failed
    split at failed
    · rename_i field nearest
      obtain ⟨fault, unreadable, rfl⟩ := mapError_eq_error.1 (map_eq_error.1 failed)
      exact .slot nearest unreadable
    · cases failed
  | bound rest =>
    obtain rfl := text Target.noConfusion
    rw [Setting.read] at failed
    split at failed
    · rename_i nowhere
      cases failed
      exact .unclosed (Text.cutAt?_eq_none_iff.1 nowhere)
    · rename_i field ending cut
      obtain ⟨parts, plain⟩ := Text.cutAt?_eq_some_iff.1 cut
      obtain rfl : rest = field ++ "]" ++ ending := by
        refine String.toList_inj.1 ?_
        rw [parts, String.toList_append, String.toList_append, List.append_assoc]
        rfl
      rcases bind_eq_error.1 failed with failed | ⟨v, read, failed⟩
      · obtain ⟨first, fault, found, ordered, unreadable, rfl⟩ :=
          FilterRequest.readBound_eq_error_iff.1 failed
        exact .bound plain found ordered unreadable
      · split at failed
        · rename_i sideless
          cases failed
          exact .ending plain (FilterRequest.exists_readBound_iff.1 ⟨v, read⟩)
            (BoundSide.ofName?_eq_none_iff.1 sideless)
        · cases failed
  | paging member =>
    obtain rfl := text Target.noConfusion
    rw [Setting.read] at failed
    split at failed
    · rename_i part named
      obtain rfl := PageField.ofName?_eq_some_iff.1 named
      exact .page (map_eq_error.1 failed)
    · cases failed
  | switch member =>
    obtain rfl := text Target.noConfusion
    rw [Setting.read] at failed
    split at failed
    · rename_i s named
      obtain rfl := Switch.ofName?_eq_some_iff.1 named
      exact .switch (map_eq_error.1 failed)
    · cases failed
  | nothing => cases failed

/-- What cannot be read is what the rules refuse. -/
theorem refuses_iff :
    Refuses schema value name message ↔
      Setting.read schema value (.ofName name) = .error message :=
  ⟨Refuses.read_eq_error, refuses_of_read_eq_error⟩

/-! ## The first one that is refused -/

/-- Something is sent with the parameter, and it is refused. -/
def IsRefused (schema : Schema) (p : String × String) : Prop :=
  FilterRequest.Counts p ∧ ∃ message, Refuses schema p.2 p.1 message

namespace FilterRequest

variable {r : FilterRequest} {p : String × String} {e : Error} {ps : List (String × String)}

theorem isReadable_iff_not_isRefused : IsReadable schema p ↔ ¬ IsRefused schema p := by
  simp only [IsReadable, IsRefused, refuses_iff, exists_eq_ok_iff, not_and, not_exists, ne_eq]

/-- Whether one parameter fails does not depend on what is bound before it. -/
theorem bind_eq_error_iff (ofType : r.OfType schema) :
    bind schema r p = .error e ↔ Counts p ∧ ∃ message, Refuses schema p.2 p.1 message ∧
      e = .request (.invalidParameter p.1 p.2 message) := by
  constructor
  · intro failed
    have counts : Counts p := by
      by_contra blank
      have step : bind schema r p = .ok r := if_pos (eq_true_of_ne_false blank)
      cases step.symm.trans failed
    cases read : Setting.read schema p.2 (.ofName p.1) with
    | ok o =>
      have bound : bind schema r p = .ok (r.bound schema p) :=
        (bind_eq_ok_iff ofType).2 ⟨fun _ => ⟨o, read⟩, rfl⟩
      cases bound.symm.trans failed
    | error message =>
      refine ⟨counts, message, refuses_iff.2 read, ?_⟩
      exact Except.error.inj (failed.symm.trans (bind_of_read_error ofType counts read))
  · rintro ⟨counts, message, refuses, rfl⟩
    exact bind_of_read_error ofType counts refuses.read_eq_error

/-- A request fails exactly as the first refused parameter does. -/
theorem ofParameters_eq_error_iff :
    ofParameters schema ps = .error e ↔ ∃ front p back message, ps = front ++ p :: back ∧
      (∀ q ∈ front, ¬ IsRefused schema q) ∧ Counts p ∧ Refuses schema p.2 p.1 message ∧
      e = .request (.invalidParameter p.1 p.2 message) := by
  rw [ofParameters, foldlM_eq_error_iff]
  constructor
  · rintro ⟨front, p, back, r, rfl, before, failed⟩
    obtain ⟨readable, rfl⟩ := (foldlM_bind_eq_ok_iff (ofType_empty schema)).1 before
    obtain ⟨counts, message, refuses, rfl⟩ :=
      (bind_eq_error_iff ((ofType_empty schema).foldl_bound front)).1 failed
    exact ⟨front, p, back, message, rfl,
      fun q member => isReadable_iff_not_isRefused.1 (readable q member), counts, refuses, rfl⟩
  · rintro ⟨front, p, back, message, rfl, before, counts, refuses, rfl⟩
    have readable : ∀ q ∈ front, IsReadable schema q := fun q member =>
      isReadable_iff_not_isRefused.2 (before q member)
    refine ⟨front, p, back, _, rfl,
      (foldlM_bind_eq_ok_iff (ofType_empty schema)).2 ⟨readable, rfl⟩, ?_⟩
    exact (bind_eq_error_iff ((ofType_empty schema).foldl_bound front)).2
      ⟨counts, message, refuses, rfl⟩

theorem exists_ofParameters_iff :
    (∃ r, ofParameters schema ps = .ok r) ↔ ∀ p ∈ ps, ¬ IsRefused schema p := by
  simp only [ofParameters_eq_ok_iff, exists_and_left, exists_eq', and_true,
    isReadable_iff_not_isRefused]

/-- A bound that is named as one is not refused if its field is unknown or has no order. -/
theorem not_refuses_bound (side : BoundSide) (plain : ']' ∉ name.toList)
    (unordered : ∀ first, findField schema.declared name true = some first →
      first.kind.isRangeable = false) :
    ¬ Refuses schema value ("rangeFilters.ranges[" ++ (name ++ "]" ++ side.ending)) message := by
  intro refuses
  have cut := Text.cutAt?_append plain side.ending
  obtain ⟨v, parsed⟩ := exists_readBound_iff.2 fun first found ordered =>
    absurd ordered (ne_true_of_eq_false (unordered first found))
  have read : Setting.read schema value (.bound (name ++ "]" ++ side.ending)) =
      .ok (some (.bound name side v)) :=
    Setting.read_eq_ok_iff.2 (.bound cut parsed (BoundSide.ofName?_eq_some_iff.2 rfl))
  rw [← Target.ofName_text (t := .bound (name ++ "]" ++ side.ending)) Target.noConfusion] at read
  cases read.symm.trans refuses.read_eq_error

/-- **Binding fails exactly on the first parameter that is refused**, with an error that names this
one and repeats its text as it was sent.  Whether a parameter is refused is decided by its name and
its text alone.  A bound that is named as one is never refused if its field is unknown or has no
order. -/
theorem ofParameters_refused (schema : Schema) (ps : List (String × String)) :
    ((∃ e, ofParameters schema ps = .error e) ↔ ∃ p ∈ ps, IsRefused schema p) ∧
    (∀ e, ofParameters schema ps = .error e ↔ ∃ front p back message, ps = front ++ p :: back ∧
      (∀ q ∈ front, ¬ IsRefused schema q) ∧ Counts p ∧ Refuses schema p.2 p.1 message ∧
      e = .request (.invalidParameter p.1 p.2 message)) ∧
    ∀ (side : BoundSide) (name value : String), ']' ∉ name.toList →
      (∀ first, findField schema.declared name true = some first →
        first.kind.isRangeable = false) →
      ¬ IsRefused schema ("rangeFilters.ranges[" ++ (name ++ "]" ++ side.ending), value) := by
  refine ⟨?_, fun e => ofParameters_eq_error_iff, fun side name value plain unordered => ?_⟩
  · have bound : (∃ r, ofParameters schema ps = .ok r) ↔ ∀ p ∈ ps, ¬ IsRefused schema p :=
      exists_ofParameters_iff
    rw [exists_eq_ok_iff] at bound
    simpa using not_congr bound
  · rintro ⟨-, message, refuses⟩
    exact not_refuses_bound side plain unordered refuses

end FilterRequest

end Listing
