import Mathlib
import Listing.Proofs.Chains
import Listing.Proofs.Outcomes

/-!
# What becomes of the fields of a filter

The fields of a filter are changed by name, again and again, by texts of parameters and by
sentinels.  A name means its nearest declaration, for every change and whenever the field is read,
so that a field shows what the last change of its name that succeeded asked for.

* `Filter.Change` is a change, `Change.asks` what it asks for of a field, and `Filter.lastAsked`
  picks out of a history the state that a field should have;
* `Change.on_eq` and `Change.answer_eq` say what one change does and answers, and
  `Filter.cell?_after` what all of them did;
* `Filter.after_obeys` is the theorem about all histories.
-/

namespace Listing

namespace Filter

/-- A change of the state of a field, called for by name. -/
inductive Change where
  /-- Set the field to what the text of a parameter says. -/
  | assign (name raw : String)
  /-- Put a sentinel on the field. -/
  | mark (name : String) (sentinel : Sentinel)

namespace Change

/-- The name of the field. -/
def name : Change → String
  | assign name _ | mark name _ => name

/-- The state that the change asks for, if its text can be read for the field. -/
def asks (field : Field) : Change → Except Unreadable (Slot field.type.Carrier)
  | assign _ raw => (field.type.parse raw).map .value
  | mark _ sentinel => .ok (.marked sentinel)

/-- Whether the name means a field, or why the text cannot be read. -/
def answer (f : Filter) : Change → Except Unreadable Bool
  | assign name raw => (f.assign name raw).map Option.isSome
  | mark name sentinel => .ok (f.mark name sentinel).isSome

/-- The filter behind the change. -/
def on (f : Filter) : Change → Filter
  | assign name raw =>
    match f.assign name raw with
    | .ok (some changed) => changed
    | _ => f
  | mark name sentinel => (f.mark name sentinel).getD f

end Change

/-- The filter that changes make of one with every field unset. -/
def after (schema : Schema) (changes : List Change) : Filter :=
  changes.foldl Change.on (blank schema)

/-- What the last change of the name that succeeds on a field asks for; unset if there is none. -/
def lastAsked (field : Field) (name : String) (changes : List Change) :
    Slot field.type.Carrier :=
  (((changes.filter (·.name = name)).filterMap fun c => (c.asks field).toOption).getLast?).getD
    .unset

/-! ## One change -/

namespace Change

variable {f : Filter} {c : Change}

/-- Where the name means nothing, there is nothing to change. -/
theorem on_eq_self_of_none (strange : f.cell? c.name = none) :
    c.on f = f ∧ c.answer f = .ok false := by
  cases c with
  | assign name raw =>
    have nothing : f.assign name raw = .ok none := by
      rw [Filter.assign, show f.cell? name = none from strange]
    rw [on, answer, nothing]
    exact ⟨rfl, rfl⟩
  | mark name sentinel =>
    have nothing : f.mark name sentinel = none := Option.map_eq_none_iff.2 strange
    rw [on, answer, nothing]
    exact ⟨rfl, rfl⟩

/-- Where the name means a field, this field gets the state that the change asks for, unless the
text cannot be read. -/
theorem on_eq {cell : Cell} (found : f.cell? c.name = some cell) :
    c.on f = (match c.asks cell.field with
      | .ok state => f.replace c.name (cell.holding state)
      | .error _ => f) ∧
    c.answer f = (c.asks cell.field).map fun _ => true := by
  cases c with
  | assign name raw =>
    have done : f.assign name raw = (cell.field.type.parse raw).map fun v =>
        some (f.replace name (cell.holding (.value v))) := by
      rw [Filter.assign, show f.cell? name = some cell from found]
    cases read : cell.field.type.parse raw <;>
    · rw [read] at done
      rw [on, answer, done, asks, read]
      exact ⟨rfl, rfl⟩
  | mark name sentinel =>
    have done : f.mark name sentinel = some (f.replace name (cell.holding (.marked sentinel))) := by
      rw [Filter.mark, show f.cell? name = some cell from found]
      rfl
    rw [on, answer, done]
    exact ⟨rfl, rfl⟩

/-- A change keeps the field of every cell. -/
theorem schema_on (f : Filter) (c : Change) : (c.on f).schema = f.schema := by
  cases found : f.cell? c.name with
  | none => rw [(on_eq_self_of_none found).1]
  | some cell =>
    rw [(on_eq found).1]
    split
    · exact schema_replace found rfl
    · rfl

/-- A change leaves everything alone but the nearest field of its name. -/
theorem getElem?_all_on {place : Nat}
    (other : f.all.findIdx? (·.field.name = c.name) ≠ some place) :
    (c.on f).all[place]? = f.all[place]? := by
  cases found : f.cell? c.name with
  | none => rw [(on_eq_self_of_none found).1]
  | some cell =>
    rw [(on_eq found).1]
    split
    · rw [replace, Chain.all_amend]
      exact getElem?_amendFirst_of_ne other
    · rfl

/-- A cell as the change leaves it. -/
def onCell (c : Change) (cell : Cell) : Cell :=
  match c.asks cell.field with
  | .ok state => cell.holding state
  | .error _ => cell

/-- What a name means behind a change: the changed cell if it is the name of the change. -/
theorem cell?_on (f : Filter) (c : Change) (name : String) :
    (c.on f).cell? name =
      if c.name = name then (f.cell? name).map c.onCell else f.cell? name := by
  cases found : f.cell? c.name with
  | none =>
    rw [(on_eq_self_of_none found).1]
    split_ifs with here
    · rw [← here, found]
      rfl
    · rfl
  | some cell =>
    have named : cell.field.name = c.name := name_of_cell? found
    rw [(on_eq found).1]
    split_ifs with here
    · rw [← here, found, Option.map_some, onCell]
      split
      · exact cell?_replace named found
      · exact found
    · split
      · rename_i state _
        have named : (cell.holding state).field.name = c.name := named
        exact cell?_replace_of_ne here named f
      · rfl

/-- A change succeeds unless its name means nothing or its text cannot be read. -/
theorem answer_eq (f : Filter) (c : Change) :
    c.answer f = match f.schema.find? (·.name = c.name) with
      | some field => (c.asks field).map fun _ => true
      | none => .ok false := by
  rw [← field_of_cell?]
  cases found : f.cell? c.name with
  | none => exact (on_eq_self_of_none found).2
  | some cell => exact (on_eq found).2

theorem answer_eq_ok_false_iff (f : Filter) (c : Change) :
    c.answer f = .ok false ↔ f.cell? c.name = none := by
  cases found : f.cell? c.name with
  | none => exact iff_of_true (on_eq_self_of_none found).2 rfl
  | some cell =>
    rw [(on_eq found).2, map_eq_ok]
    exact iff_of_false (fun ⟨_, _, absurd⟩ => nomatch absurd) nofun

/-- A change that does not succeed changes nothing. -/
theorem on_eq_self_of_answer (failed : c.answer f ≠ .ok true) : c.on f = f := by
  cases found : f.cell? c.name with
  | none => exact (on_eq_self_of_none found).1
  | some cell =>
    obtain ⟨same, answered⟩ := on_eq found
    rw [answered] at failed
    rw [same]
    cases read : c.asks cell.field with
    | ok state =>
      rw [read] at failed
      exact absurd rfl failed
    | error fault => rfl

end Change

/-! ## All changes -/

/-- One more change of the name counts if its text can be read for the field. -/
theorem lastAsked_concat (field : Field) (name : String) (changes : List Change) (c : Change) :
    (⟨field, lastAsked field name (changes ++ [c])⟩ : Cell) =
      if c.name = name then c.onCell ⟨field, lastAsked field name changes⟩
      else ⟨field, lastAsked field name changes⟩ := by
  unfold lastAsked
  rw [List.filter_append, List.filter_singleton]
  split_ifs with here
  · rw [decide_eq_true here, cond_true, List.filterMap_append, Change.onCell]
    cases read : c.asks field with
    | ok state =>
      have counts : [c].filterMap (fun c => (c.asks field).toOption) = [state] := by
        rw [List.filterMap_cons, read]
        rfl
      rw [counts, List.getLast?_concat]
      rfl
    | error fault =>
      have nothing : [c].filterMap (fun c => (c.asks field).toOption) = [] := by
        rw [List.filterMap_cons, read]
        rfl
      rw [nothing, List.append_nil]
  · rw [decide_eq_false here, cond_false, List.append_nil]

theorem after_concat (schema : Schema) (changes : List Change) (c : Change) :
    after schema (changes ++ [c]) = c.on (after schema changes) := by
  rw [after, List.foldl_append]
  rfl

theorem schema_after (schema : Schema) (changes : List Change) :
    (after schema changes).schema = schema := by
  induction changes using List.reverseRecOn with
  | nil => exact schema_blank schema
  | append_singleton changes c ih => rw [after_concat, Change.schema_on, ih]

/-- A name means the cell of its nearest field, in the state that was last asked for. -/
theorem cell?_after (schema : Schema) (changes : List Change) (name : String) :
    (after schema changes).cell? name = (schema.find? (·.name = name)).map fun field =>
      ⟨field, lastAsked field name changes⟩ := by
  induction changes using List.reverseRecOn with
  | nil => exact cell?_blank schema name
  | append_singleton changes c ih =>
    rw [after_concat, Change.cell?_on, ih]
    simp only [lastAsked_concat]
    split_ifs
    · rw [Option.map_map]
      rfl
    · rfl

theorem cell?_after_eq_none_iff {schema : Schema} {changes : List Change} {name : String} :
    (after schema changes).cell? name = none ↔ ∀ field ∈ schema.all, field.name ≠ name := by
  rw [cell?_after, Option.map_eq_none_iff, Chain.find?, List.find?_eq_none]
  simp only [decide_eq_true_eq, ne_eq]

/-- **Fields obey their changes.**  Make any changes of a filter whose fields are unset.  Each name
that is declared shows what the last of its changes that succeeded asked for, lowered, and unset if
there was none; the other names show nothing.  One more change succeeds if its name is declared and
its text can be read for the nearest field that has the name, and answers that the name is unknown
exactly for the names that are declared nowhere.  It changes nothing unless it succeeds, and nothing
but this nearest field if it does. -/
theorem after_obeys (schema : Schema) (changes : List Change) :
    (∀ name, (after schema changes).slot? name = (schema.find? (·.name = name)).map fun field =>
        (lastAsked field name changes).map field.type.lower) ∧
      (∀ name, (after schema changes).slot? name = none ↔ ∀ field ∈ schema.all, field.name ≠ name) ∧
      ∀ c : Change,
        let f := after schema changes
        (c.answer f = match schema.find? (·.name = c.name) with
          | some field => (c.asks field).map fun _ => true
          | none => .ok false) ∧
        (c.answer f = .ok false ↔ ∀ field ∈ schema.all, field.name ≠ c.name) ∧
        (c.answer f ≠ .ok true → c.on f = f) ∧
        (c.on f).schema = schema ∧
        ∀ place, f.all.findIdx? (·.field.name = c.name) ≠ some place →
          (c.on f).all[place]? = f.all[place]? := by
  refine ⟨fun name => ?_, fun name => ?_, fun c =>
    ⟨?_, ?_, Change.on_eq_self_of_answer, ?_, fun place => Change.getElem?_all_on⟩⟩
  · rw [slot?, cell?_after, Option.map_map]
    rfl
  · rw [slot?, Option.map_eq_none_iff, cell?_after_eq_none_iff]
  · rw [Change.answer_eq, schema_after]
  · rw [Change.answer_eq_ok_false_iff, cell?_after_eq_none_iff]
  · rw [Change.schema_on, schema_after]

end Filter

end Listing
