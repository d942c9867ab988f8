import Mathlib
import Listing.Catalogue
import Listing.Proofs.Binding

/-!
# Parameters in another order

Parameters of different names can be bound in any order, since each reads what it sets on its
own and sets it without touching what the others do.  Of several parameters with one name the
last one that counts is the only one that matters.

* `foldl_eq_of_filter_eq` rearranges a run of steps whose keys decide whether they commute;
* `FilterRequest.bound_comm` and `FilterRequest.bound_bound` are the two laws of one step;
* `FilterRequest.ofParameters_rearranged` draws the conclusions.
-/

namespace Listing

/-! ## Runs of steps with keys -/

section Steps

variable {α κ σ : Type} {key : α → κ} {step : σ → α → σ}

/-- A step can be taken before others that have other keys. -/
theorem foldl_cons_of_apart
    (comm : ∀ s a b, key a ≠ key b → step (step s a) b = step (step s b) a) {a : α}
    {front : List α} (apart : ∀ b ∈ front, key b ≠ key a) (back : List α) (s : σ) :
    (front ++ a :: back).foldl step s = (front ++ back).foldl step (step s a) := by
  induction front generalizing s with
  | nil => rfl
  | cons b front ih =>
    obtain ⟨first, others⟩ := List.forall_mem_cons.1 apart
    calc (front ++ a :: back).foldl step (step s b)
        = (front ++ back).foldl step (step (step s b) a) := ih others _
      _ = (front ++ back).foldl step (step (step s a) b) := by rw [comm s b a first]

/-- Runs come to the same if they have the same steps of each key in the same order. -/
theorem foldl_eq_of_filter_eq [DecidableEq κ]
    (comm : ∀ s a b, key a ≠ key b → step (step s a) b = step (step s b) a) {as bs : List α}
    (same : ∀ k, bs.filter (key · = k) = as.filter (key · = k)) (s : σ) :
    bs.foldl step s = as.foldl step s := by
  induction as generalizing bs s with
  | nil =>
    cases bs with
    | nil => rfl
    | cons b rest => simpa using same (key b)
  | cons a rest ih =>
    have first := same (key a)
    rw [List.filter_cons_of_pos (by simp)] at first
    obtain ⟨front, back, rfl, apart, -, behind⟩ := List.filter_eq_cons_iff.1 first
    have apart : ∀ b ∈ front, key b ≠ key a := by simpa using apart
    rw [foldl_cons_of_apart comm apart, List.foldl_cons]
    refine ih (fun k => ?_) _
    have both := same k
    rw [List.filter_append, List.filter_cons, List.filter_cons] at both
    rw [List.filter_append]
    split at both
    · rename_i here
      obtain rfl : key a = k := of_decide_eq_true here
      have none : front.filter (key · = key a) = [] := by simpa [List.filter_eq_nil_iff] using apart
      rw [none, List.nil_append] at both ⊢
      exact (List.cons.inj both).2
    · exact both

end Steps

namespace FilterRequest

variable {schema : Schema} {p q : String × String}

/-! ## Two parameters -/

/-- Opening a section and setting something can be exchanged. -/
theorem opened_apply (t : Target) (s : Setting) (r : FilterRequest) :
    (s.apply schema r).opened schema t = s.apply schema (r.opened schema t) := by
  cases t <;> cases s <;> rfl

theorem opened_opened (t t' : Target) (r : FilterRequest) :
    (r.opened schema t).opened schema t' = (r.opened schema t').opened schema t := by
  cases t <;> cases t' <;> rfl

theorem opened_idem (t : Target) (r : FilterRequest) :
    (r.opened schema t).opened schema t = r.opened schema t := by
  cases t <;> rfl

/-- Parameters of different names can be exchanged. -/
theorem bound_comm (apart : p.1 ≠ q.1) (r : FilterRequest) :
    (r.bound schema p).bound schema q = (r.bound schema q).bound schema p := by
  rcases bound_cases schema p with first | first | ⟨s, named, first⟩ <;>
    rcases bound_cases schema q with second | second | ⟨s', named', second⟩ <;>
      simp only [first, second]
  · exact opened_opened _ _ r
  · exact (opened_apply _ s' r).symm
  · exact opened_apply _ s r
  · have about : Target.ofName p.1 ≠ .nothing := named ▸ s.target_ne_nothing
    refine Setting.apply_comm ?_ r
    rw [named, named']
    exact Target.ofName_ne apart about

/-- Of two parameters with one name the second makes up for the first if it counts. -/
theorem bound_bound (same : p.1 = q.1) (counts : Counts q) (readable : IsReadable schema p)
    (readable' : IsReadable schema q) (r : FilterRequest) :
    (r.bound schema p).bound schema q = r.bound schema q := by
  by_cases blank : ¬ Counts p
  · rw [bound_of_blank blank]
  · rcases readable.bound_cases (not_not.1 blank) with ⟨unknown, first⟩ | ⟨known, s, named, -, first⟩ <;>
      rcases readable'.bound_cases counts with ⟨unknown', second⟩ | ⟨known', s', named', -, second⟩
    · rw [first, second, second, same, opened_idem]
    · rw [same, known'] at unknown
      cases unknown
    · rw [same, unknown'] at known
      cases known
    · rw [first, second, second]
      exact Setting.apply_apply (named.trans (same ▸ named'.symm)) r

/-- A parameter makes no difference if one with its name follows that counts. -/
theorem foldl_bound_of_superseded {back : List (String × String)}
    (readable : IsReadable schema p) (others : ∀ q ∈ back, IsReadable schema q)
    (later : ∃ q ∈ back, Counts q ∧ q.1 = p.1) (r : FilterRequest) :
    back.foldl (bound schema) (r.bound schema p) = back.foldl (bound schema) r := by
  induction back generalizing r with
  | nil =>
    obtain ⟨q, member, -⟩ := later
    cases member
  | cons b rest ih =>
    obtain ⟨first, others⟩ := List.forall_mem_cons.1 others
    rw [List.foldl_cons, List.foldl_cons]
    by_cases here : Counts b ∧ b.1 = p.1
    · rw [bound_bound here.2.symm here.1 readable first]
    -- Otherwise the parameter waits until the next one is bound.
    · have waits : (r.bound schema p).bound schema b = (r.bound schema b).bound schema p := by
        by_cases counts : Counts b
        · exact bound_comm (fun same => here ⟨counts, same.symm⟩) r
        · rw [bound_of_blank counts, bound_of_blank counts]
      have later : ∃ q ∈ rest, Counts q ∧ q.1 = p.1 := by
        obtain ⟨q, member, supersedes⟩ := later
        rcases List.mem_cons.1 member with rfl | member
        · exact absurd supersedes here
        · exact ⟨q, member, supersedes⟩
      rw [waits, ih others later]

/-! ## What holds after binding -/

section Holds

variable {r r' : FilterRequest} {s s' : Setting}

/-- What has been set stays so when a section is opened. -/
theorem holds_opened_iff (t : Target) : s.Holds schema (r.opened schema t) ↔ s.Holds schema r := by
  cases t <;> cases s <;> exact Iff.rfl

theorem not_holds_of_unknown (ofType : r.OfType schema) (unknown : s.target.isComponent schema = false) :
    ¬ s.Holds schema r := by
  intro holds
  cases s with
  | slot field state =>
    have there := Filter.field_of_cell? (r.filterSoFar schema) field.name
    rw [ofType, show (r.filterSoFar schema).cell? field.name = _ from holds] at there
    rw [Setting.target, Target.isComponent, ← there] at unknown
    cases unknown
  | bound field side value => cases unknown
  | page part content =>
    rw [Setting.target, Target.isComponent, PageField.ofName?_eq_some_iff.2 rfl] at unknown
    cases unknown
  | switch s on =>
    rw [Setting.target, Target.isComponent, Switch.ofName?_eq_some_iff.2 rfl] at unknown
    cases unknown

/-- A parameter leaves the components alone that it does not name. -/
theorem holds_bound_iff_of_ne (apart : s.target ≠ .ofName p.1) :
    s.Holds schema (r.bound schema p) ↔ s.Holds schema r := by
  rcases bound_cases schema p with skips | opens | ⟨s', named, sets⟩
  · rw [skips]
  · rw [opens, holds_opened_iff]
  · rw [sets, Setting.holds_apply_iff (named ▸ apart.symm)]

/-- Parameters of other names neither set a component nor change it. -/
theorem holds_foldl_bound_iff {ps : List (String × String)}
    (apart : ∀ q ∈ ps, Counts q → s.target ≠ .ofName q.1) :
    s.Holds schema (ps.foldl (bound schema) r) ↔ s.Holds schema r := by
  induction ps generalizing r with
  | nil => exact Iff.rfl
  | cons q rest ih =>
    obtain ⟨first, others⟩ := List.forall_mem_cons.1 apart
    rw [List.foldl_cons, ih others]
    by_cases counts : Counts q
    · exact holds_bound_iff_of_ne (first counts)
    · rw [bound_of_blank counts]

/-- What a parameter makes of the component that it names does not depend on the request. -/
theorem holds_bound_congr (ofType : r.OfType schema) (ofType' : r'.OfType schema)
    (readable : IsReadable schema p) (counts : Counts p) (named : s.target = .ofName p.1) :
    s.Holds schema (r.bound schema p) ↔ s.Holds schema (r'.bound schema p) := by
  rcases readable.bound_cases counts with ⟨unknown, opens⟩ | ⟨-, s', named', declared, sets⟩
  · rw [← named] at unknown
    rw [opens, opens]
    exact iff_of_false (not_holds_of_unknown (ofType.opened _) unknown)
      (not_holds_of_unknown (ofType'.opened _) unknown)
  · rw [sets, sets]
    have same : s'.target = s.target := named'.trans named.symm
    exact ((Setting.holds_apply ofType declared).iff_eq same).trans
      ((Setting.holds_apply ofType' declared).iff_eq same).symm

end Holds

/-! ## All parameters -/

/-- The same parameters in another order, in which those with one name keep theirs. -/
structure IsRearranged (ps qs : List (String × String)) : Prop where
  perm : qs.Perm ps
  order : ∀ name, qs.filter (·.1 = name) = ps.filter (·.1 = name)

/-- **Binding does not depend on the order of parameters with different names**, and of those
with one name the last one that counts decides alone: the others can be left out, and the
component that it names is as it would be without any other parameter. -/
theorem ofParameters_rearranged (schema : Schema) (ps : List (String × String)) (r : FilterRequest)
    (ok : ofParameters schema ps = .ok r) :
    (∀ qs, IsRearranged ps qs → ofParameters schema qs = .ok r) ∧
    (∀ front p back, ps = front ++ p :: back → (∃ q ∈ back, Counts q ∧ q.1 = p.1) →
      ofParameters schema (front ++ back) = .ok r) ∧
    (∀ front p back, ps = front ++ p :: back → Counts p → (∀ q ∈ back, Counts q → q.1 ≠ p.1) →
      ∃ alone, ofParameters schema [p] = .ok alone ∧
        ∀ s : Setting, s.name = p.1 → (s.Holds schema r ↔ s.Holds schema alone)) := by
  obtain ⟨readable, rfl⟩ := ofParameters_eq_ok_iff.1 ok
  refine ⟨fun qs rearranged => ?_, ?_, ?_⟩
  · refine ofParameters_eq_ok_iff.2 ⟨fun q member => readable q (rearranged.perm.mem_iff.1 member), ?_⟩
    exact foldl_eq_of_filter_eq (fun r p q apart => bound_comm apart r) rearranged.order empty
  · rintro front p back rfl later
    have others : ∀ q ∈ front ++ back, IsReadable schema q := by
      intro q member
      refine readable q ?_
      simp only [List.mem_append, List.mem_cons] at member ⊢
      exact member.imp_right Or.inr
    refine ofParameters_eq_ok_iff.2 ⟨others, ?_⟩
    rw [List.foldl_append, List.foldl_append, List.foldl_cons]
    exact (foldl_bound_of_superseded (readable p (by simp))
      (fun q member => others q (List.mem_append_right _ member)) later _).symm
  · rintro front p back rfl counts last
    have readable : IsReadable schema p := readable p (by simp)
    refine ⟨empty.bound schema p, ofParameters_eq_ok_iff.2 ⟨by simpa using readable, rfl⟩, ?_⟩
    intro s named
    have about : s.target = .ofName p.1 := by
      rw [← named, Setting.name, Target.ofName_text s.target_ne_nothing]
    rw [List.foldl_append, List.foldl_cons, holds_foldl_bound_iff ?_]
    · exact holds_bound_congr ((ofType_empty schema).foldl_bound front) (ofType_empty schema)
        readable counts about
    · intro q member counts same
      have about' : Target.ofName q.1 ≠ .nothing := same ▸ s.target_ne_nothing
      refine last q member counts ?_
      rw [← Target.text_ofName about', ← same, ← named, Setting.name]

/-- Two names of a product and its number. -/
def renamed : List (String × String) :=
  [("filters.name", "plum"), ("filters.sku", "7"), ("filters.name", " pear ")]

/-- The number last. -/
def renamedFirst : List (String × String) :=
  [("filters.name", "plum"), ("filters.name", " pear "), ("filters.sku", "7")]

theorem isRearranged_renamed : IsRearranged renamed renamedFirst where
  perm := (List.Perm.swap _ _ _).cons _
  order := by
    intro name
    unfold renamed renamedFirst
    by_cases first : "filters.name" = name
    · subst first
      decide
    · simp [List.filter_cons, first]

theorem ofParameters_rearranged_renamed :
    IsRearranged renamed renamedFirst ∧
      ∃ r, ofParameters Catalogue.legacy.schema renamed = .ok r ∧
        ofParameters Catalogue.legacy.schema renamedFirst = .ok r ∧
        ofParameters Catalogue.legacy.schema
          [("filters.sku", "7"), ("filters.name", " pear ")] = .ok r ∧
        (Setting.slot (Catalogue.field "name" Catalogue.text) (.value " pear ")).Holds
          Catalogue.legacy.schema r := by
  have ok : ∃ r, ofParameters Catalogue.legacy.schema renamed = .ok r := ⟨_, rfl⟩
  obtain ⟨r, ok⟩ := ok
  obtain ⟨order, superseded, last⟩ := ofParameters_rearranged Catalogue.legacy.schema renamed r ok
  refine ⟨isRearranged_renamed, r, ok, order _ isRearranged_renamed, ?_, ?_⟩
  · exact superseded [] _ _ rfl ⟨("filters.name", " pear "), by decide, rfl, rfl⟩
  · obtain ⟨alone, bound, same⟩ := last [_, _] ("filters.name", " pear ") [] rfl rfl (by simp)
    rw [same _ rfl]
    cases bound
    rfl

end FilterRequest

end Listing
