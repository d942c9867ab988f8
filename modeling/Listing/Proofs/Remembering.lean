import Mathlib
import Listing.Catalogue
import Listing.Classification.Memo

/-!
# Remembered classifications

A memo is asked for the classifications of types again and again, with and without inherited
fields, and some of the types extend others that it is asked for as well.  What it has remembered
never shows: a type yields its own visible fields and behind them, on request, those that its
parent yields.

* `Chain.all_eq_append` tells the entries of a type from those of its parent, and
  `classify_eq_append` the classified fields;
* `ClassificationMemo.IsSound` is what every call keeps of a memo, by
  `ClassificationMemo.classify_of_isSound`;
* `ClassificationMemo.classifyEach_transparent` is the theorem about all sequences of calls.
-/

namespace Listing

/-! ## A type and its parent -/

/-- The entries of a type are its own and behind them those of its parent. -/
theorem Chain.all_eq_append {α : Type} (c : Chain α) :
    c.all = c.own.entries ++ (c.parent?.map all).getD [] := by
  obtain ⟨own, ancestors⟩ := c
  cases ancestors <;> rfl

theorem classifyAll_append (ds ds' : List Declaration) :
    classifyAll (ds ++ ds') = classifyAll ds ++ classifyAll ds' := by
  simp only [classifyAll, List.filter_append, List.map_append]

/-- The classified fields of a type are its own and behind them, on request, those of its parent
with all inherited ones. -/
theorem classify_eq_append (t : DeclaredType) (inherited : Bool) :
    classify t inherited = classifyAll t.own.entries ++
      if inherited then (t.parent?.map fun p => classify p true).getD [] else [] := by
  cases inherited with
  | false => exact (List.append_nil _).symm
  | true =>
    have levels : classify t true =
        classifyAll (t.own.entries ++ (t.parent?.map Chain.all).getD []) :=
      congrArg classifyAll t.all_eq_append
    rw [levels, classifyAll_append, if_pos rfl]
    cases t.parent? <;> rfl

/-- Types as they are registered: each under a name of its own, and with the type that it
extends. -/
structure IsRegistry (registered : DeclaredType → Prop) : Prop where
  eq_of_name : ∀ t t', registered t → registered t' → t.own.typeName = t'.own.typeName → t = t'
  parent : ∀ t p, registered t → t.parent? = some p → registered p

namespace ClassificationMemo

variable {registered : DeclaredType → Prop} {m : ClassificationMemo}

/-! ## One call -/

/-- What a memo holds for a registered type is the classification of this type. -/
def IsSound (registered : DeclaredType → Prop) (m : ClassificationMemo) : Prop :=
  ∀ t inherited fields, registered t →
    m.known.lookup (t.own.typeName, inherited) = some fields → fields = Listing.classify t inherited

theorem isSound_empty : empty.IsSound registered := fun _ _ _ _ found => nomatch found

/-- A call returns the classification, whether it finds it or makes it, and the memo stays sound. -/
theorem classify_of_isSound (registry : IsRegistry registered) (sound : m.IsSound registered)
    {t : DeclaredType} (known : registered t) (inherited : Bool) :
    (m.classify t inherited).1 = Listing.classify t inherited ∧
      (m.classify t inherited).2.IsSound registered := by
  cases found : m.known.lookup (t.own.typeName, inherited) with
  | some fields =>
    have remembered : m.classify t inherited = (fields, m) := by simp only [classify, found]
    rw [remembered]
    exact ⟨sound t inherited fields known found, sound⟩
  | none =>
    have made : m.classify t inherited = (Listing.classify t inherited,
        ⟨((t.own.typeName, inherited), Listing.classify t inherited) :: m.known⟩) := by
      simp only [classify, found]
    rw [made]
    refine ⟨rfl, fun t' inherited' fields known' found' => ?_⟩
    rw [List.lookup_cons] at found'
    split at found'
    · -- The entry just made may be found for another call, but only for one of the same type.
      rename_i same
      obtain ⟨sameName, rfl⟩ := Prod.mk.inj (eq_of_beq same)
      obtain rfl := registry.eq_of_name t' t known' known sameName
      exact (Option.some.inj found').symm
    · exact sound t' inherited' fields known' found'

/-! ## Sequences of calls -/

/-- The memo after a sequence of calls. -/
def after (calls : List (DeclaredType × Bool)) : ClassificationMemo := (empty.classifyEach calls).2

/-- A sequence of calls returns the classifications, one after the other, and leaves a sound
memo. -/
theorem classifyEach_of_isSound (registry : IsRegistry registered) (sound : m.IsSound registered)
    {calls : List (DeclaredType × Bool)} (known : ∀ call ∈ calls, registered call.1) :
    (m.classifyEach calls).1 = calls.map (fun call => Listing.classify call.1 call.2) ∧
      (m.classifyEach calls).2.IsSound registered := by
  induction calls generalizing m with
  | nil => exact ⟨rfl, sound⟩
  | cons call rest ih =>
    obtain ⟨first, others⟩ := List.forall_mem_cons.1 known
    obtain ⟨returned, kept⟩ := classify_of_isSound registry sound first call.2
    obtain ⟨returnedLater, keptLater⟩ := ih kept others
    exact ⟨congrArg₂ List.cons returned returnedLater, keptLater⟩

/-- After any calls, a classification is the one that is made without a memo. -/
theorem classify_after (registry : IsRegistry registered) {calls : List (DeclaredType × Bool)}
    (known : ∀ call ∈ calls, registered call.1) {t : DeclaredType} (here : registered t)
    (inherited : Bool) : ((after calls).classify t inherited).1 = Listing.classify t inherited :=
  have sound := (classifyEach_of_isSound registry isSound_empty known).2
  (classify_of_isSound registry sound here inherited).1

/-- **Remembering does not show.**  Take any two sequences of calls for registered types.  The
calls of the one return, each by itself, what they would return after the other.  After either of
them, a type yields its own declarations without the excluded ones, in their order and classified
one by one, and behind them, if inherited fields are requested, what its parent yields with
inherited fields after the other sequence. -/
theorem classifyEach_transparent (registry : IsRegistry registered)
    {calls calls' : List (DeclaredType × Bool)} (known : ∀ call ∈ calls, registered call.1)
    (known' : ∀ call ∈ calls', registered call.1) :
    (empty.classifyEach calls).1 =
        calls.map (fun call => ((after calls').classify call.1 call.2).1) ∧
      ∀ t, registered t →
        (∀ inherited, ((after calls).classify t inherited).1 =
          (t.own.entries.filter (!·.isExcluded)).map .ofDeclaration ++
            if inherited then (t.parent?.map fun p => ((after calls').classify p true).1).getD []
            else []) ∧
        ((after calls).classify t true).1 = ((after calls').classify t false).1 ++
          (t.parent?.map fun p => ((after calls).classify p true).1).getD [] := by
  have parents {history : List (DeclaredType × Bool)} (all : ∀ call ∈ history, registered call.1)
      {t : DeclaredType} (here : registered t) :
      t.parent?.map (fun p => ((after history).classify p true).1) =
        t.parent?.map fun p => Listing.classify p true :=
    Option.map_congr fun p extended =>
      classify_after registry all (registry.parent t p here extended) true
  refine ⟨?_, fun t here => ⟨fun inherited => ?_, ?_⟩⟩
  · rw [(classifyEach_of_isSound registry isSound_empty known).1]
    exact List.map_congr_left fun call member =>
      (classify_after registry known' (known call member) call.2).symm
  · rw [classify_after registry known here, parents known' here, classify_eq_append]
    rfl
  · rw [classify_after registry known here, classify_after registry known' here,
      parents known here, classify_eq_append t true]
    rfl

/-- The filters of orders and the two types that they extend. -/
def orderFilters : List DeclaredType :=
  [Catalogue.orderFilter.declared, Catalogue.auditFilter.declared, Catalogue.rootFilter.declared]

theorem isRegistry_orderFilters : IsRegistry (· ∈ orderFilters) := by
  have parents : ∀ t ∈ orderFilters, ∀ p ∈ t.parent?, p ∈ orderFilters := by
    refine List.forall_mem_cons.2 ⟨?_, List.forall_mem_cons.2 ⟨?_, List.forall_mem_singleton.2 ?_⟩⟩
    · rintro p ⟨⟩
      exact List.mem_cons_of_mem _ List.mem_cons_self
    · rintro p ⟨⟩
      exact List.mem_cons_of_mem _ (List.mem_cons_of_mem _ List.mem_cons_self)
    · rintro p ⟨⟩
  have names : (orderFilters.map fun t => t.own.typeName).Nodup := by decide
  exact ⟨fun t t' here here' => List.inj_on_of_nodup_map names here here',
    fun t p here extended => parents t here p extended⟩

/-- An ancestor is classified first, then the type that extends it, with either choice and twice;
what is remembered of one of them is not taken for another. -/
theorem classifyEach_transparent_orderFilters :
    let audit := Catalogue.auditFilter.declared
    let order := Catalogue.orderFilter.declared
    let calls := [(audit, true), (order, true), (audit, false), (order, false), (order, true)]
    (∀ call ∈ calls, call.1 ∈ orderFilters) ∧
      ((empty.classifyEach calls).1.map List.length = [6, 19, 4, 13, 19]) ∧
      ((after calls).classify order true).1 = ((after []).classify order false).1 ++
        ((after calls).classify audit true).1 := by
  intro audit order calls
  have known : ∀ call ∈ calls, call.1 ∈ orderFilters := by
    simp [calls, audit, order, orderFilters]
  have nothing : ∀ call ∈ ([] : List (DeclaredType × Bool)), call.1 ∈ orderFilters := nofun
  obtain ⟨-, yields⟩ := classifyEach_transparent isRegistry_orderFilters known nothing
  exact ⟨known, by decide, (yields order List.mem_cons_self).2⟩

end ClassificationMemo

end Listing
