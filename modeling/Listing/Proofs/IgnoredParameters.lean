import Mathlib
import Listing.Proofs.Binding
import Listing.Proofs.PageDefaults
import Listing.Proofs.Visibility

/-!
# Parameters that are passed over

Blank parameters and those with unknown names set nothing, but an unknown name behind a known
beginning still opens a section of the request.  A blank filter, no ranges and unsent options ask
for nothing, so that criteria and options do not tell such a section from a missing one.  A page
does: one that is opened is the page that binding has by default, and a missing one is the page
that the listing has by default.

* `FilterRequest.complete` opens all sections, and `FilterRequest.complete_foldl_bound` says that
  two runs which differ in what is passed over agree then;
* `EntityListing.criteria_complete` says that criteria look no further;
* `EntityListing.ofParameters_withIgnored` compares two requests.
-/

namespace Listing

/-! ## What is passed over -/

/-- The name is that of a parameter that requests with filters of the type have. -/
def IsKnown (schema : Schema) (name : String) : Prop :=
  (∃ f ∈ schema.all, name = "filters." ++ f.name) ∨
    (∃ rest, name = "rangeFilters.ranges[" ++ rest) ∨
    (∃ part : PageField, name = part.parameter) ∨
    ∃ s : Switch, name = "options." ++ s.name

/-- The parameter is blank or has an unknown name. -/
def IsIgnorable (schema : Schema) (p : String × String) : Prop :=
  FilterRequest.Counts p → ¬ IsKnown schema p.1

/-- The second list has all that is in the first, and among it parameters to be passed over. -/
inductive WithIgnored (schema : Schema) : List (String × String) → List (String × String) → Prop where
  | nil : WithIgnored schema [] []
  | keep {ps qs : List (String × String)} (p : String × String) (others : WithIgnored schema ps qs) :
    WithIgnored schema (p :: ps) (p :: qs)
  | insert {ps qs : List (String × String)} {p : String × String} (ignorable : IsIgnorable schema p)
    (others : WithIgnored schema ps qs) : WithIgnored schema ps (p :: qs)

variable {schema : Schema} {ps qs : List (String × String)}

theorem WithIgnored.sublist (more : WithIgnored schema ps qs) : ps.Sublist qs := by
  induction more with
  | nil => exact List.Sublist.slnil
  | keep p _ ih => exact ih.cons_cons p
  | insert _ _ ih => exact ih.cons _

/-- The known names are those of components. -/
theorem isKnown_iff {name : String} :
    IsKnown schema name ↔ (Target.ofName name).isComponent schema = true := by
  constructor
  · have about : ∀ t : Target, t ≠ .nothing → name = t.text → Target.ofName name = t := by
      intro t some same
      rw [same, Target.ofName_text some]
    rintro (⟨f, member, same⟩ | ⟨rest, same⟩ | ⟨part, same⟩ | ⟨s, same⟩)
    · rw [about (.slot f.name) Target.noConfusion same]
      exact List.find?_isSome.2 ⟨f, member, decide_eq_true rfl⟩
    · rw [about (.bound rest) Target.noConfusion same]
      rfl
    · rw [about (.paging part.name) Target.noConfusion same]
      cases part <;> rfl
    · rw [about (.switch s.name) Target.noConfusion same]
      cases s <;> rfl
  · intro known
    have text : Target.ofName name ≠ .nothing → name = (Target.ofName name).text := fun about =>
      (Target.text_ofName about).symm
    generalize Target.ofName name = t at text known
    cases t with
    | slot field =>
      obtain ⟨f, member, named⟩ := List.find?_isSome.1 known
      exact Or.inl ⟨f, member, of_decide_eq_true named ▸ text Target.noConfusion⟩
    | bound rest => exact Or.inr (Or.inl ⟨rest, text Target.noConfusion⟩)
    | paging member =>
      obtain ⟨part, named⟩ := Option.isSome_iff_exists.1 known
      obtain rfl := PageField.ofName?_eq_some_iff.1 named
      exact Or.inr (Or.inr (Or.inl ⟨part, text Target.noConfusion⟩))
    | switch member =>
      obtain ⟨s, named⟩ := Option.isSome_iff_exists.1 known
      obtain rfl := Switch.ofName?_eq_some_iff.1 named
      exact Or.inr (Or.inr (Or.inr ⟨s, text Target.noConfusion⟩))
    | nothing => cases known

instance (schema : Schema) (name : String) : Decidable (IsKnown schema name) :=
  decidable_of_iff _ isKnown_iff.symm

instance (p : String × String) : Decidable (FilterRequest.Counts p) :=
  inferInstanceAs (Decidable (Text.isBlankOnly p.2 = false))

instance (schema : Schema) (p : String × String) : Decidable (IsIgnorable schema p) :=
  inferInstanceAs (Decidable (FilterRequest.Counts p → ¬ IsKnown schema p.1))

/-- What is to be passed over is read as nothing. -/
theorem IsIgnorable.read {p : String × String} (ignorable : IsIgnorable schema p)
    (counts : FilterRequest.Counts p) : Setting.read schema p.2 (.ofName p.1) = .ok none := by
  refine Setting.read_of_not_isComponent (eq_false_of_ne_true fun known => ?_) p.2
  exact ignorable counts (isKnown_iff.2 known)

/-! ## Sections -/

namespace FilterRequest

/-- The request with all its sections there. -/
def complete (schema : Schema) (r : FilterRequest) : FilterRequest :=
  ⟨some (r.filterSoFar schema), some r.rangesSoFar, some r.pageSoFar, some r.optionsSoFar⟩

theorem complete_opened (t : Target) (r : FilterRequest) :
    (r.opened schema t).complete schema = r.complete schema := by
  cases t <;> rfl

/-- When all sections are there, opening one changes nothing. -/
theorem opened_complete (t : Target) (r : FilterRequest) :
    (r.complete schema).opened schema t = r.complete schema := by
  cases t <;> rfl

theorem complete_apply (s : Setting) (r : FilterRequest) :
    (s.apply schema r).complete schema = s.apply schema (r.complete schema) := by
  cases s <;> rfl

theorem complete_bound (p : String × String) (r : FilterRequest) :
    (r.bound schema p).complete schema = (r.complete schema).bound schema p := by
  rcases bound_cases schema p with skips | opens | ⟨s, -, sets⟩
  · rw [skips, skips]
  · rw [opens, opens, complete_opened, opened_complete]
  · rw [sets, sets, complete_apply]

/-- What is passed over leaves no trace where all sections are there. -/
theorem complete_bound_of_isIgnorable {p : String × String} (ignorable : IsIgnorable schema p)
    (r : FilterRequest) : (r.bound schema p).complete schema = r.complete schema := by
  by_cases counts : Counts p
  · rw [bound_of_read_none counts (ignorable.read counts), complete_opened]
  · rw [bound_of_blank counts]

/-- Parameters to be passed over add sections at most. -/
theorem complete_foldl_bound (more : WithIgnored schema ps qs) {r r' : FilterRequest}
    (same : r'.complete schema = r.complete schema) :
    (qs.foldl (bound schema) r').complete schema = (ps.foldl (bound schema) r).complete schema := by
  induction more generalizing r r' with
  | nil => exact same
  | keep p _ ih =>
    refine ih ?_
    rw [complete_bound, complete_bound, same]
  | insert ignorable _ ih =>
    refine ih ?_
    rw [complete_bound_of_isIgnorable ignorable, same]

/-- No parameter to be passed over is refused. -/
theorem isReadable_of_withIgnored (more : WithIgnored schema ps qs)
    (readable : ∀ p ∈ ps, IsReadable schema p) : ∀ q ∈ qs, IsReadable schema q := by
  induction more with
  | nil => exact readable
  | keep p _ ih =>
    obtain ⟨first, others⟩ := List.forall_mem_cons.1 readable
    exact List.forall_mem_cons.2 ⟨first, ih others⟩
  | insert ignorable _ ih =>
    exact List.forall_mem_cons.2 ⟨fun counts => ⟨none, ignorable.read counts⟩, ih readable⟩

/-- Switches that say nothing leave those of the listing as they are. -/
theorem effectiveOptions_complete (r : FilterRequest) (base : FilterOptions) :
    (r.complete schema).effectiveOptions base = r.effectiveOptions base := by
  unfold effectiveOptions complete optionsSoFar
  cases r.options <;> rfl

end FilterRequest

/-! ## What sections ask for -/

theorem Filter.slot?_blank (schema : Schema) (name : String) :
    (Filter.blank schema).slot? name = (schema.find? (·.name = name)).map fun _ => .unset := by
  rw [slot?, cell?_blank, Option.map_map]
  rfl

/-- A filter that says nothing asks for nothing. -/
theorem compileFilters_blank (schema : Schema) (options : FilterOptions) :
    compileFilters (Filter.blank schema).view options = [] := by
  refine List.filterMap_eq_nil_iff.2 fun field _ => ?_
  refine Option.bind_eq_none_iff.2 fun slot state => ?_
  change (Filter.blank schema).slot? field.name = some slot at state
  rw [Filter.slot?_blank] at state
  obtain ⟨-, -, rfl⟩ := Option.map_eq_some_iff.1 state
  rfl

namespace EntityListing

variable {μ : Type → Type} {δ : Type}

/-- Added sections change no criterion. -/
theorem criteria_complete (l : EntityListing μ δ) (r : FilterRequest) :
    l.criteria (r.complete schema) = l.criteria r := by
  unfold criteria
  rw [FilterRequest.effectiveOptions_complete]
  unfold FilterRequest.complete FilterRequest.filterSoFar FilterRequest.rangesSoFar compile
  congr 1
  · cases r.filter with
    | none => exact compileFilters_blank schema _
    | some f => rfl
  · cases r.ranges <;> rfl

/-- The page of a request depends on its section for the page alone. -/
theorem page_congr (l : EntityListing μ δ) {r r' : FilterRequest} (same : r.page = r'.page) :
    l.page r = l.page r' := by
  unfold page
  rw [same]

/-- The page section is there if and only if some parameter of the page is. -/
theorem page_eq_of_ofParameters {r : FilterRequest}
    (ok : FilterRequest.ofParameters schema ps = .ok r) :
    (AsksForPage ps → r.page = some r.pageSoFar) ∧ (¬ AsksForPage ps → r.page = none) := by
  obtain ⟨asked, -⟩ := FilterRequest.page_ofParameters ok
  rw [← asked, FilterRequest.pageSoFar]
  cases r.page with
  | none => exact ⟨fun some => absurd some Bool.false_ne_true, fun _ => rfl⟩
  | some page => exact ⟨fun _ => rfl, fun none => absurd rfl none⟩

/-- A request that asks for a page and for nothing about it. -/
def anyPage : FilterRequest := { FilterRequest.empty with page := some .defaults }

/-- **What parameters that are passed over change.**  The request is bound all the same, and asks
for the same criteria and the same options.  It asks for the same page if there are parameters of
the page besides, or none at all; otherwise only if the page by default is the same for binding
and for the listing. -/
theorem ofParameters_withIgnored (l : EntityListing μ δ) (schema : Schema)
    (ps qs : List (String × String)) (r : FilterRequest)
    (ok : FilterRequest.ofParameters schema ps = .ok r) (more : WithIgnored schema ps qs) :
    ∃ r', FilterRequest.ofParameters schema qs = .ok r' ∧
      l.criteria r' = l.criteria r ∧
      (∀ base, r'.effectiveOptions base = r.effectiveOptions base) ∧
      ((l.page r').toPageable = (l.page r).toPageable ↔
        (AsksForPage qs → ¬ AsksForPage ps →
          (l.page anyPage).toPageable = (l.page .empty).toPageable)) := by
  obtain ⟨readable, bound⟩ := FilterRequest.ofParameters_eq_ok_iff.1 ok
  have ok' := FilterRequest.ofParameters_eq_ok_iff.2
    ⟨FilterRequest.isReadable_of_withIgnored more readable, rfl⟩
  have empty : FilterRequest.empty.complete schema = FilterRequest.empty.complete schema := rfl
  have same := FilterRequest.complete_foldl_bound more empty
  rw [bound] at same
  generalize qs.foldl (FilterRequest.bound schema) .empty = r' at same ok'
  refine ⟨r', ok', ?_, fun base => ?_, ?_⟩
  · rw [← criteria_complete l r', same, criteria_complete]
  · rw [← r'.effectiveOptions_complete base, same, FilterRequest.effectiveOptions_complete]
  · have pages : r'.pageSoFar = r.pageSoFar := Option.some.inj (congrArg FilterRequest.page same)
    have asked := page_eq_of_ofParameters ok
    have asked' := page_eq_of_ofParameters ok'
    by_cases asks : AsksForPage ps
    · obtain ⟨p, member, sends⟩ := asks
      have asks' : AsksForPage qs := ⟨p, more.sublist.subset member, sends⟩
      have sections : r'.page = r.page := by
        rw [asked'.1 asks', asked.1 ⟨p, member, sends⟩, pages]
      refine iff_of_true ?_ fun _ unasked => absurd ⟨p, member, sends⟩ unasked
      rw [page_congr l sections]
    · have missing : r.page = FilterRequest.empty.page := asked.2 asks
      rw [page_congr l missing]
      by_cases asks' : AsksForPage qs
      · have opened : r'.page = anyPage.page := by
          rw [asked'.1 asks', pages, FilterRequest.pageSoFar, missing]
          rfl
        rw [page_congr l opened]
        exact ⟨fun same _ _ => same, fun same => same asks' asks⟩
      · have missing' : r'.page = FilterRequest.empty.page := asked'.2 asks'
        rw [page_congr l missing']
        exact iff_of_true rfl fun absurdly => absurd absurdly asks'

/-- The records by name, among parameters that mean nothing. -/
def byNameAmongOthers : List (String × String) :=
  [("filters.colour", "red"), ("pagination.page", "1"), ("pagination.sortBy", "name"),
    ("filters.name", " "), ("options.page", "true")]

theorem withIgnored_byNameAmongOthers :
    WithIgnored Catalogue.legacy.schema byName byNameAmongOthers :=
  .insert (by decide) (.insert (by decide) (.keep _ (.insert (by decide) (.insert (by decide) .nil))))

/-- Next to a parameter of the page they change nothing. -/
theorem ofParameters_withIgnored_byName :
    FilterRequest.ofParameters Catalogue.legacy.schema byName = .ok byNameRequest ∧
      WithIgnored Catalogue.legacy.schema byName byNameAmongOthers ∧
      ∃ r, FilterRequest.ofParameters Catalogue.legacy.schema byNameAmongOthers = .ok r ∧
        pairwiseListing.criteria r = pairwiseListing.criteria byNameRequest ∧
        (pairwiseListing.page r).toPageable = (pairwiseListing.page byNameRequest).toPageable := by
  have ok : FilterRequest.ofParameters Catalogue.legacy.schema byName = .ok byNameRequest := rfl
  obtain ⟨r, ok', criteria, -, page⟩ := ofParameters_withIgnored pairwiseListing
    Catalogue.legacy.schema byName byNameAmongOthers byNameRequest ok withIgnored_byNameAmongOthers
  refine ⟨ok, withIgnored_byNameAmongOthers, r, ok', criteria, page.2 fun _ unasked => ?_⟩
  exact absurd (isSent_byName_iff.2 rfl).asksForPage unasked

/-- A part of the page that does not exist. -/
def strayPage : List (String × String) := [("pagination.page", "1")]

/-- Where pages of two records are configured, it makes them pages of ten. -/
theorem page_strayPage_ne :
    WithIgnored Catalogue.legacy.schema [] strayPage ∧
      FilterRequest.ofParameters Catalogue.legacy.schema [] = .ok .empty ∧
      FilterRequest.ofParameters Catalogue.legacy.schema strayPage = .ok anyPage ∧
      (pairwiseListing.page anyPage).toPageable ≠ (pairwiseListing.page .empty).toPageable :=
  ⟨.insert (by decide) .nil, rfl, rfl, by decide⟩

end EntityListing

end Listing
