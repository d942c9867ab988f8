import Mathlib
import Listing.Filter

/-!
# Entries of a chain of types

A chain is looked up, changed and mapped entry by entry.  All three can be told from the list
of its entries, the nearest first, so that the levels need not be opened again.

* `Chain.all_map` and `Chain.all_amend` say what becomes of that list;
* `Chain.ext_all` says that the list and the shape of a chain are all there is to it, and
  `Chain.amend_comm` and `Chain.amend_amend` exchange and merge changes by it;
* `Chain.find?_amend` says that a changed entry is found again;
* `Filter.slot?_mark` draws the conclusion for sentinels on filters, and `Filter.replace_comm`
  that for cells of different names.
-/

namespace Listing

section Amend

variable {α : Type} {has : α → Bool} {change : α → α}

theorem amendFirst_cons_of_has {a : α} (first : has a = true) (rest : List α) :
    amendFirst has change (a :: rest) = change a :: rest := if_pos first

theorem amendFirst_cons_of_not_has {a : α} (first : has a = false) (rest : List α) :
    amendFirst has change (a :: rest) = a :: amendFirst has change rest :=
  if_neg (ne_true_of_eq_false first)

/-- An entry that is found in front is changed there, and nothing behind. -/
theorem amendFirst_append_of_any {front : List α} (found : front.any has = true)
    (back : List α) : amendFirst has change (front ++ back) = amendFirst has change front ++ back := by
  induction front with
  | nil => cases found
  | cons a front ih =>
    cases first : has a with
    | true => rw [List.cons_append, amendFirst_cons_of_has first, amendFirst_cons_of_has first]; rfl
    | false =>
      rw [List.any_cons, first, Bool.false_or] at found
      rw [List.cons_append, amendFirst_cons_of_not_has first, amendFirst_cons_of_not_has first,
        ih found]
      rfl

/-- If none is found in front, the first one behind is changed. -/
theorem amendFirst_append_of_not_any {front : List α} (missing : front.any has = false)
    (back : List α) : amendFirst has change (front ++ back) = front ++ amendFirst has change back := by
  induction front with
  | nil => rfl
  | cons a front ih =>
    obtain ⟨first, rest⟩ := Bool.or_eq_false_iff.1 missing
    rw [List.cons_append, amendFirst_cons_of_not_has first, ih rest]
    rfl

/-- The changed entry is found in its old place, as long as it keeps the property. -/
theorem find?_amendFirst (keeps : ∀ a, has a = true → has (change a) = true) (entries : List α) :
    (amendFirst has change entries).find? has = (entries.find? has).map change := by
  induction entries with
  | nil => rfl
  | cons a rest ih =>
    cases first : has a with
    | true => simp [amendFirst_cons_of_has first, first, keeps a first]
    | false => simp [amendFirst_cons_of_not_has first, first, ih]

theorem length_amendFirst (entries : List α) :
    (amendFirst has change entries).length = entries.length := by
  induction entries with
  | nil => rfl
  | cons a rest ih =>
    cases first : has a with
    | true => rw [amendFirst_cons_of_has first]; rfl
    | false =>
      rw [amendFirst_cons_of_not_has first]
      exact congrArg (· + 1) ih

/-- A second change of the same entry is made to what the first one left. -/
theorem amendFirst_amendFirst (keeps : ∀ a, has a = true → has (change a) = true)
    (change' : α → α) (entries : List α) :
    amendFirst has change' (amendFirst has change entries) =
      amendFirst has (change' ∘ change) entries := by
  induction entries with
  | nil => rfl
  | cons a rest ih =>
    cases first : has a with
    | true =>
      simp only [amendFirst_cons_of_has first, amendFirst_cons_of_has (keeps a first),
        Function.comp_apply]
    | false => simp only [amendFirst_cons_of_not_has first, ih]

/-- What the change leaves alone stays the same for all entries. -/
theorem map_amendFirst {β : Type} {f : α → β} {entries : List α}
    (same : ∀ a, entries.find? has = some a → f (change a) = f a) :
    (amendFirst has change entries).map f = entries.map f := by
  induction entries with
  | nil => rfl
  | cons a rest ih =>
    cases first : has a with
    | true => simp [amendFirst_cons_of_has first, same a (by simp [first])]
    | false =>
      simp [amendFirst_cons_of_not_has first, ih fun b found => same b (by simp [first, found])]

/-- Wherever the first entry with the property is not, nothing changes. -/
theorem getElem?_amendFirst_of_ne {entries : List α} {place : Nat}
    (other : entries.findIdx? has ≠ some place) :
    (amendFirst has change entries)[place]? = entries[place]? := by
  induction entries generalizing place with
  | nil => rfl
  | cons a rest ih =>
    rw [List.findIdx?_cons] at other
    cases first : has a with
    | true =>
      rw [amendFirst_cons_of_has first]
      cases place with
      | zero => exact absurd (if_pos first) other
      | succ place => rfl
    | false =>
      rw [amendFirst_cons_of_not_has first]
      cases place with
      | zero => rfl
      | succ place =>
        refine ih fun found => other ?_
        rw [if_neg (ne_true_of_eq_false first), found]
        rfl

variable {has' : α → Bool} {change' : α → α}

/-- Entries with a property that excludes the other are found as before. -/
theorem find?_amendFirst_of_apart (keeps : ∀ a, has a = true → has (change a) = true)
    (apart : ∀ a, has a = true → has' a = false) (entries : List α) :
    (amendFirst has change entries).find? has' = entries.find? has' := by
  induction entries with
  | nil => rfl
  | cons a rest ih =>
    cases first : has a with
    | true => simp [amendFirst_cons_of_has first, apart a first, apart _ (keeps a first)]
    | false => simp only [amendFirst_cons_of_not_has first, List.find?_cons, ih]

/-- Changes to entries with properties that exclude each other can be exchanged. -/
theorem amendFirst_comm (keeps : ∀ a, has a = true → has (change a) = true)
    (keeps' : ∀ a, has' a = true → has' (change' a) = true)
    (apart : ∀ a, has a = true → has' a = false) (entries : List α) :
    amendFirst has' change' (amendFirst has change entries) =
      amendFirst has change (amendFirst has' change' entries) := by
  induction entries with
  | nil => rfl
  | cons a rest ih =>
    cases first : has a with
    | true =>
      rw [amendFirst_cons_of_has first, amendFirst_cons_of_not_has (apart a first),
        amendFirst_cons_of_not_has (apart _ (keeps a first)), amendFirst_cons_of_has first]
    | false =>
      rw [amendFirst_cons_of_not_has first]
      cases first' : has' a with
      | true =>
        have other : has (change' a) = false :=
          eq_false_of_ne_true fun both => by simpa [keeps' a first'] using apart _ both
        rw [amendFirst_cons_of_has first', amendFirst_cons_of_has first',
          amendFirst_cons_of_not_has other]
      | false =>
        rw [amendFirst_cons_of_not_has first', amendFirst_cons_of_not_has first',
          amendFirst_cons_of_not_has first, ih]

end Amend

namespace Chain

variable {α β : Type}

/-- The entries of a changed chain are the changed entries. -/
theorem all_map (f : α → β) (c : Chain α) : (c.map f).all = c.all.map f := by
  simp [all, levels, map, Level.map, List.flatMap_map, List.map_flatMap]

/-- Documents list the entries of the furthest ancestor first, but it is the same entries. -/
theorem furthestFirst_perm (f : α → β) (c : Chain α) :
    (c.levels.reverse.flatMap fun l => l.entries.map f).Perm (c.all.map f) := by
  rw [all, List.map_flatMap]
  exact (List.reverse_perm _).flatMap_right _

variable {has : α → Bool} {change : α → α}

/-- Going through the levels is going through all their entries. -/
theorem flatMap_entries_amendLevels (levels : List (Level α)) :
    (amendLevels has change levels).flatMap (·.entries) =
      amendFirst has change (levels.flatMap (·.entries)) := by
  induction levels with
  | nil => rfl
  | cons l rest ih =>
    simp only [amendLevels, List.flatMap_cons]
    split
    · rename_i found
      rw [amendFirst_append_of_any found]
      rfl
    · rename_i missing
      rw [amendFirst_append_of_not_any (eq_false_of_ne_true missing), ← ih]
      rfl

/-- The nearest entry of a chain is the first of the list of its entries. -/
theorem all_amend (c : Chain α) : (c.amend has change).all = amendFirst has change c.all := by
  unfold amend
  split
  · rename_i found
    exact (amendFirst_append_of_any found _).symm
  · rename_i missing
    have others : (amendLevels has change c.ancestors).flatMap (·.entries) =
        amendFirst has change (c.ancestors.flatMap (·.entries)) :=
      flatMap_entries_amendLevels c.ancestors
    calc c.own.entries ++ (amendLevels has change c.ancestors).flatMap (·.entries)
        = c.own.entries ++ amendFirst has change (c.ancestors.flatMap (·.entries)) := by rw [others]
      _ = amendFirst has change c.all :=
        (amendFirst_append_of_not_any (eq_false_of_ne_true missing) _).symm

theorem find?_amend (keeps : ∀ a, has a = true → has (change a) = true) (c : Chain α) :
    (c.amend has change).find? has = (c.find? has).map change := by
  rw [find?, all_amend, find?_amendFirst keeps]
  rfl

/-- What is found after all entries were changed is found before. -/
theorem find?_map (f : α → β) (has : β → Bool) (c : Chain α) :
    (c.map f).find? has = (c.find? (has ∘ f)).map f := by
  rw [find?, all_map, List.find?_map]
  rfl

/-! ### Shapes -/

/-- The types of a chain, each with the number of its entries. -/
def shape (c : Chain α) : List (String × Nat) := c.levels.map fun l => (l.typeName, l.entries.length)

theorem shape_amendLevels (levels : List (Level α)) :
    (amendLevels has change levels).map (fun l => (l.typeName, l.entries.length)) =
      levels.map fun l => (l.typeName, l.entries.length) := by
  induction levels with
  | nil => rfl
  | cons l rest ih =>
    rw [amendLevels]
    split
    · rw [List.map_cons, List.map_cons, length_amendFirst]
    · rw [List.map_cons, List.map_cons, ih]

theorem levels_amend (c : Chain α) :
    (c.amend has change).levels = amendLevels has change c.levels := by
  unfold amend levels
  rw [amendLevels]
  split <;> rfl

/-- Changing an entry changes no type and no number of entries. -/
theorem shape_amend (c : Chain α) : (c.amend has change).shape = c.shape := by
  rw [shape, levels_amend, shape_amendLevels]
  rfl

theorem shape_map (f : α → β) (c : Chain α) : (c.map f).shape = c.shape := by
  simp [shape, levels, map, Level.map]

/-- A list of levels is known from their types, their lengths and all their entries. -/
theorem levels_ext {levels levels' : List (Level α)}
    (shape : levels.map (fun l => (l.typeName, l.entries.length)) =
      levels'.map fun l => (l.typeName, l.entries.length))
    (all : levels.flatMap (·.entries) = levels'.flatMap (·.entries)) : levels = levels' := by
  induction levels generalizing levels' with
  | nil =>
    cases levels' with
    | nil => rfl
    | cons l rest => cases shape
  | cons l rest ih =>
    cases levels' with
    | nil => cases shape
    | cons l' rest' =>
      obtain ⟨first, others⟩ := List.cons.inj shape
      obtain ⟨typeName, length⟩ := Prod.mk.inj first
      obtain ⟨entries, behind⟩ := List.append_inj all length
      obtain ⟨name, own⟩ := l
      obtain ⟨name', own'⟩ := l'
      obtain rfl : name = name' := typeName
      obtain rfl : own = own' := entries
      rw [ih others behind]

/-- A chain is known from its shape and all its entries. -/
theorem ext_all {c c' : Chain α} (shape : c.shape = c'.shape) (all : c.all = c'.all) : c = c' := by
  obtain ⟨own, ancestors⟩ := c
  obtain ⟨own', ancestors'⟩ := c'
  obtain ⟨rfl, rfl⟩ := List.cons.inj (levels_ext shape all)
  rfl

theorem map_map {γ : Type} (f : α → β) (g : β → γ) (c : Chain α) :
    (c.map f).map g = c.map (g ∘ f) := by
  simp [map, Level.map]

/-- A change that leaves every entry alone leaves the chain alone. -/
theorem map_eq_self {f : α → α} {c : Chain α} (same : ∀ a ∈ c.all, f a = a) : c.map f = c := by
  refine ext_all (shape_map f c) ?_
  rw [all_map, List.map_congr_left same, List.map_id'']
  exact fun _ => rfl

/-- A second change of the same entry is made to what the first one left. -/
theorem amend_amend (keeps : ∀ a, has a = true → has (change a) = true) (change' : α → α)
    (c : Chain α) :
    (c.amend has change).amend has change' = c.amend has (change' ∘ change) := by
  refine ext_all ?_ ?_
  · rw [shape_amend, shape_amend, shape_amend]
  · rw [all_amend, all_amend, all_amend, amendFirst_amendFirst keeps]

/-- What a change leaves alone can be read off the chain before it. -/
theorem map_amend {f : α → β} {c : Chain α}
    (same : ∀ a, c.find? has = some a → f (change a) = f a) : (c.amend has change).map f = c.map f := by
  refine ext_all ?_ ?_
  · rw [shape_map, shape_map, shape_amend]
  · rw [all_map, all_map, all_amend, map_amendFirst same]

variable {has' : α → Bool} {change' : α → α}

/-- Entries with a property that excludes the other are found in the chain as before. -/
theorem find?_amend_of_apart (keeps : ∀ a, has a = true → has (change a) = true)
    (apart : ∀ a, has a = true → has' a = false) (c : Chain α) :
    (c.amend has change).find? has' = c.find? has' := by
  rw [find?, all_amend, find?_amendFirst_of_apart keeps apart]
  rfl

/-- Changes to entries with properties that exclude each other can be exchanged. -/
theorem amend_comm (keeps : ∀ a, has a = true → has (change a) = true)
    (keeps' : ∀ a, has' a = true → has' (change' a) = true)
    (apart : ∀ a, has a = true → has' a = false) (c : Chain α) :
    (c.amend has change).amend has' change' = (c.amend has' change').amend has change := by
  refine ext_all ?_ ?_
  · rw [shape_amend, shape_amend, shape_amend, shape_amend]
  · rw [all_amend, all_amend, all_amend, all_amend, amendFirst_comm keeps keeps' apart]

end Chain

/-- The field that a name means has the name. -/
theorem Schema.name_of_find? {schema : Schema} {name : String} {field : Field}
    (nearest : schema.find? (·.name = name) = some field) : field.name = name := by
  simpa using List.find?_some nearest

namespace Filter

/-- The cell that a name means is one of a field of that name. -/
theorem name_of_cell? {f : Filter} {name : String} {cell : Cell}
    (found : f.cell? name = some cell) : cell.field.name = name := by
  simpa using List.find?_some found

theorem mem_of_cell? {f : Filter} {name : String} {cell : Cell} (found : f.cell? name = some cell) :
    cell ∈ f.all := List.mem_of_find?_eq_some found

theorem schema_blank (schema : Schema) : (blank schema).schema = schema := by
  rw [blank, Filter.schema, Chain.map_map]
  exact Chain.map_eq_self fun _ _ => rfl

theorem cell?_blank (schema : Schema) (name : String) :
    (blank schema).cell? name = (schema.find? (·.name = name)).map Cell.blank :=
  Chain.find?_map Cell.blank _ schema

/-- The cell that a name means is one of the field that it means. -/
theorem field_of_cell? (f : Filter) (name : String) :
    (f.cell? name).map Cell.field = f.schema.find? (·.name = name) := by
  rw [Filter.schema, Chain.find?_map]
  rfl

/-- The cell that was put in place of another one is found. -/
theorem cell?_replace {f : Filter} {name : String} {cell old : Cell} (named : cell.field.name = name)
    (found : f.cell? name = some old) : (f.replace name cell).cell? name = some cell := by
  have amended : (f.replace name cell).cell? name = (f.cell? name).map fun _ => cell := by
    refine Chain.find?_amend (fun _ _ => ?_) f
    exact decide_eq_true named
  rw [amended, found]
  rfl

section Replace

variable {name name' : String} {cell cell' : Cell}

theorem named_apart (apart : name ≠ name') :
    ∀ c : Cell, decide (c.field.name = name) = true → decide (c.field.name = name') = false := by
  intro c named
  exact decide_eq_false fun named' => apart ((of_decide_eq_true named).symm.trans named')

theorem cell?_replace_of_ne (apart : name ≠ name') (named : cell.field.name = name) (f : Filter) :
    (f.replace name cell).cell? name' = f.cell? name' := by
  refine Chain.find?_amend_of_apart (fun _ _ => ?_) (named_apart apart) f
  exact decide_eq_true named

/-- Cells of different names can be replaced in any order. -/
theorem replace_comm (apart : name ≠ name') (named : cell.field.name = name)
    (named' : cell'.field.name = name') (f : Filter) :
    (f.replace name cell).replace name' cell' = (f.replace name' cell').replace name cell := by
  refine Chain.amend_comm (fun _ _ => ?_) (fun _ _ => ?_) (named_apart apart) f
  · exact decide_eq_true named
  · exact decide_eq_true named'

theorem replace_replace (named : cell.field.name = name) (f : Filter) :
    (f.replace name cell).replace name cell' = f.replace name cell' := by
  refine Chain.amend_amend (fun _ _ => ?_) (fun _ => cell') f
  exact decide_eq_true named

/-- A filter keeps its schema when a cell is replaced by one of the same field. -/
theorem schema_replace {f : Filter} {old : Cell} (found : f.cell? name = some old)
    (same : cell.field = old.field) : (f.replace name cell).schema = f.schema := by
  refine Chain.map_amend fun c first => ?_
  obtain rfl : old = c := Option.some.inj (found.symm.trans first)
  exact same

end Replace

/-- Whatever a field held, a sentinel on it is its state from then on. -/
theorem slot?_mark {f marked : Filter} {name : String} {sentinel : Sentinel}
    (done : f.mark name sentinel = some marked) :
    marked.slot? name = some (.marked sentinel) := by
  obtain ⟨cell, found, rfl⟩ := Option.map_eq_some_iff.1 done
  have named := name_of_cell? found
  have held : (f.replace name (cell.holding (.marked sentinel))).cell? name =
      some (cell.holding (.marked sentinel)) := cell?_replace named found
  rw [slot?, held]
  cases sentinel <;> rfl

end Filter

end Listing
