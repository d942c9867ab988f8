import Mathlib
import Listing.Proofs.Paging
import Listing.Proofs.Parameters

/-!
# Where the page defaults of a configuration apply

A configuration says how large pages are and which way they are sorted where the client does
not.  Binding does not know the configuration: the first parameter of the page that counts
makes the request ask for a page of ten records in descending order, and what the client leaves
out stays like that.  So the configuration applies to requests without any parameter of the
page, and its direction, which matters only with a field to sort by, to none.

* `FilterRequest.page_ofParameters` says what page parameters ask for;
* `EntityListing.run_congr_engine` says that a listing asks its engine for no other page;
* `EntityListing.defaultsApply_iff` says where the page is as the configuration wants it.
-/

namespace Listing

/-! ## The page that parameters ask for -/

/-- A part of the page is sent. -/
def PageField.IsSent (f : PageField) (parameters : List (String × String)) : Prop :=
  ∃ p ∈ parameters, FilterRequest.Counts p ∧ p.1 = f.parameter

/-- Some parameter of the page is sent. -/
def AsksForPage (parameters : List (String × String)) : Prop :=
  ∃ p ∈ parameters, FilterRequest.Counts p ∧ FilterRequest.IsPaging p

theorem PageField.IsSent.asksForPage {f : PageField} {parameters : List (String × String)}
    (sent : f.IsSent parameters) : AsksForPage parameters := by
  obtain ⟨p, member, counts, named⟩ := sent
  exact ⟨p, member, counts, f.name, named⟩

namespace FilterRequest

variable {schema : Schema}

/-- A run of parameters asks for a page as soon as one of them does, and keeps every part that
none of them sends.  The last field sent to sort by is the one that stays. -/
theorem page_foldlM {parameters : List (String × String)} {r r' : FilterRequest}
    (ok : parameters.foldlM (bind schema) r = .ok r') :
    (r'.page.isSome = true ↔ r.page.isSome = true ∨ AsksForPage parameters) ∧
      (∀ f : PageField, ¬ f.IsSent parameters → f.Agrees r'.pageSoFar r.pageSoFar) ∧
      (PageField.sortBy.IsSent parameters →
        ∃ p ∈ parameters, Counts p ∧ p.1 = PageField.sortBy.parameter ∧
          r'.pageSoFar.sortBy = some (Text.trim p.2)) := by
  induction parameters generalizing r with
  | nil =>
    cases ok
    refine ⟨by simp [AsksForPage], fun f _ => PageField.Agrees.refl _ f, ?_⟩
    rintro ⟨p, member, -⟩
    cases member
  | cons first rest ih =>
    rw [List.foldlM_cons] at ok
    obtain ⟨next, bound, ok⟩ := bind_eq_ok.1 ok
    obtain ⟨asked, kept, sorted⟩ := page_bind bound
    obtain ⟨askedLater, keptLater, sortedLater⟩ := ih ok
    refine ⟨?_, fun f unsent => ?_, fun sent => ?_⟩
    · rw [askedLater, asked, or_assoc]
      simp only [AsksForPage, List.exists_mem_cons_iff]
    · have none : ¬ f.IsSent rest := fun ⟨p, member, sends⟩ =>
        unsent ⟨p, List.mem_cons_of_mem _ member, sends⟩
      exact (keptLater f none).trans
        (kept f fun sends => unsent ⟨first, List.mem_cons_self, sends⟩)
    -- The last one counts: the first one stays only if none behind it sends a field again.
    · by_cases later : PageField.sortBy.IsSent rest
      · obtain ⟨p, member, last⟩ := sortedLater later
        exact ⟨p, List.mem_cons_of_mem _ member, last⟩
      · obtain ⟨p, member, counts, named⟩ := sent
        rcases List.mem_cons.1 member with rfl | member
        · have stays : r'.pageSoFar.sortBy = next.pageSoFar.sortBy := keptLater .sortBy later
          exact ⟨p, List.mem_cons_self, counts, named, stays.trans (sorted counts named)⟩
        · exact absurd ⟨p, member, counts, named⟩ later

/-- What is not sent is as binding has it by default. -/
theorem page_ofParameters {parameters : List (String × String)} {r : FilterRequest}
    (ok : ofParameters schema parameters = .ok r) :
    (r.page.isSome = true ↔ AsksForPage parameters) ∧
      (∀ f : PageField, ¬ f.IsSent parameters → f.Agrees r.pageSoFar .defaults) ∧
      (PageField.sortBy.IsSent parameters →
        ∃ p ∈ parameters, Counts p ∧ p.1 = PageField.sortBy.parameter ∧
          r.pageSoFar.sortBy = some (Text.trim p.2)) := by
  obtain ⟨asked, kept, sorted⟩ := page_foldlM ok
  exact ⟨by simpa [empty] using asked, kept, sorted⟩

end FilterRequest

/-! ## The page that an engine is asked for -/

theorem FilterConfig.pageSize_of_validate {config : FilterConfig} (valid : config.validate = .ok ()) :
    1 ≤ config.pagination.pageSize.val ∧
      config.pagination.pageSize.val ≤ config.pagination.maxPageSize.val := by
  unfold validate at valid
  dsimp only at valid
  split at valid
  · cases valid
  · split at valid
    · cases valid
    · omega

/-- A field that something is left of is what a store sorts by. -/
theorem PageRequest.sort_toPageable {page : PageRequest} {text : String}
    (sortBy : page.sortBy = some (Text.trim text)) (more : Text.isBlankOnly text = false) :
    page.toPageable.sort = some ⟨Text.trim text, page.direction⟩ := by
  have more : decide (Text.trim text ≠ "") = true := decide_eq_true (Text.trim_ne_empty more)
  rw [toPageable, sortBy, Option.map_some, Text.trim_trim, Option.filter_some, more]
  rfl

namespace EntityListing

variable {μ : Type → Type} {δ : Type}

/-- What a listing takes over from the configuration of its factory. -/
theorem listing_eq_ok {factory : Factory μ} {entity : RecordType} {mapper : Record → δ}
    {options : Option FilterOptions} {l : EntityListing μ δ}
    (made : factory.listing entity mapper options = .ok l) :
    l.defaultPage = factory.config.defaultPage ∧
      l.maxPageSize = factory.config.pagination.maxPageSize := by
  unfold Factory.listing at made
  split at made
  · cases made
  · cases made
    exact ⟨rfl, rfl⟩

/-- A listing asks its engine for the page of the request and for no other. -/
theorem run_congr_engine [Monad μ] (l : EntityListing μ δ) (r : FilterRequest) (engine : Engine μ)
    (select : engine.select l.entity (l.criteria r) (l.page r).toPageable =
      l.engine.select l.entity (l.criteria r) (l.page r).toPageable)
    (count : engine.count l.entity (l.criteria r) = l.engine.count l.entity (l.criteria r)) :
    { l with engine := engine }.run r = l.run r := by
  have same : ({ l with engine := engine }.page r).validate = (l.page r).validate := rfl
  unfold run paginate
  dsimp only
  rw [same]
  cases (l.page r).validate with
  | error e => rfl
  | ok room =>
    change (engine.select l.entity (l.criteria r) (l.page r).toPageable >>= fun _ =>
      engine.count l.entity (l.criteria r) >>= _) = _
    rw [select, count]
    rfl

/-- The page is as a configuration wants it where the client does not say. -/
structure DefaultsApply (config : FilterConfig) (parameters : List (String × String))
    (page : Pageable) : Prop where
  /-- The size is the configured one if none is sent. -/
  size : ¬ PageField.size.IsSent parameters → page.size = config.pagination.pageSize
  /-- So is the direction, if there is a field to sort by. -/
  direction : PageField.sortBy.IsSent parameters → ¬ PageField.direction.IsSent parameters →
    ∃ field, page.sort = some ⟨field, config.pagination.direction⟩

section

variable {config : FilterConfig} {l : EntityListing μ δ} {schema : Schema}
  {parameters : List (String × String)} {r : FilterRequest}

/-- Without a parameter of the page the configuration applies. -/
theorem page_of_not_asksForPage (valid : config.validate = .ok ())
    (byDefault : l.defaultPage = config.defaultPage)
    (most : l.maxPageSize = config.pagination.maxPageSize)
    (bound : FilterRequest.ofParameters schema parameters = .ok r)
    (unasked : ¬ AsksForPage parameters) :
    (l.page r).toPageable = ⟨PageRequest.defaults.number, config.pagination.pageSize, none⟩ := by
  have none : r.page = none := by
    rw [← Option.not_isSome_iff_eq_none, (FilterRequest.page_ofParameters bound).1]
    exact unasked
  have small := (FilterConfig.pageSize_of_validate valid).2
  have fits : ¬ config.pagination.maxPageSize.val < config.defaultPage.size.val := by
    exact Nat.not_lt.2 small
  unfold page
  rw [none, byDefault, most]
  dsimp only [Option.getD_none]
  rw [if_neg fits]
  rfl

theorem asked_of_asksForPage (bound : FilterRequest.ofParameters schema parameters = .ok r)
    (asks : AsksForPage parameters) : l.asked r = r.pageSoFar := by
  obtain ⟨page, some⟩ :=
    Option.isSome_iff_exists.1 ((FilterRequest.page_ofParameters bound).1.2 asks)
  rw [asked, FilterRequest.pageSoFar, some]
  rfl

/-- With a parameter of the page a size that is not sent is ten, or the greatest there is. -/
theorem size_page_of_asksForPage (most : l.maxPageSize = config.pagination.maxPageSize)
    (bound : FilterRequest.ofParameters schema parameters = .ok r) (asks : AsksForPage parameters)
    (unsent : ¬ PageField.size.IsSent parameters) :
    (l.page r).toPageable.size.val = min 10 config.pagination.maxPageSize.val := by
  have ten : r.pageSoFar.size = PageRequest.defaults.size :=
    (FilterRequest.page_ofParameters bound).2.1 .size unsent
  have size := val_size_page l r
  rw [asked_of_asksForPage bound asks, ten, most] at size
  exact size

/-- A direction that is not sent is descending, whatever the configuration says. -/
theorem sort_page_of_isSent (bound : FilterRequest.ofParameters schema parameters = .ok r)
    (sent : PageField.sortBy.IsSent parameters) (unsent : ¬ PageField.direction.IsSent parameters) :
    ∃ p ∈ parameters, FilterRequest.Counts p ∧ p.1 = PageField.sortBy.parameter ∧
      (l.page r).toPageable.sort = some ⟨Text.trim p.2, .descending⟩ := by
  obtain ⟨-, kept, sorted⟩ := FilterRequest.page_ofParameters bound
  obtain ⟨p, member, counts, named, sortBy⟩ := sorted sent
  have direction : r.pageSoFar.direction = PageRequest.defaults.direction :=
    kept .direction unsent
  refine ⟨p, member, counts, named, ?_⟩
  rw [sort_page, asked_of_asksForPage bound sent.asksForPage,
    PageRequest.sort_toPageable sortBy counts, direction]
  rfl

end

/-- **Where the page defaults of a configuration apply.**  They do exactly as far as they agree
with those of binding, which hold as soon as a parameter of the page is sent: ten records and a
descending order. -/
theorem defaultsApply_iff [Monad μ] (factory : Factory μ) (entity : RecordType)
    (mapper : Record → δ) (options : Option FilterOptions) (l : EntityListing μ δ)
    (schema : Schema) (parameters : List (String × String)) (r : FilterRequest)
    (valid : factory.config.validate = .ok ())
    (made : factory.listing entity mapper options = .ok l)
    (bound : FilterRequest.ofParameters schema parameters = .ok r) :
    let defaults := factory.config.pagination
    let page := (l.page r).toPageable
    (∀ engine : Engine μ,
      engine.select l.entity (l.criteria r) page = l.engine.select l.entity (l.criteria r) page →
      engine.count l.entity (l.criteria r) = l.engine.count l.entity (l.criteria r) →
        { l with engine := engine }.run r = l.run r) ∧
    (¬ AsksForPage parameters → page.size = defaults.pageSize ∧ page.sort = none) ∧
    (AsksForPage parameters → ¬ PageField.size.IsSent parameters →
      page.size.val = min 10 defaults.maxPageSize.val) ∧
    (PageField.sortBy.IsSent parameters → ¬ PageField.direction.IsSent parameters →
      ∃ p ∈ parameters, FilterRequest.Counts p ∧ p.1 = PageField.sortBy.parameter ∧
        page.sort = some ⟨Text.trim p.2, .descending⟩) ∧
    (DefaultsApply factory.config parameters page ↔
      (AsksForPage parameters → ¬ PageField.size.IsSent parameters →
        min 10 defaults.maxPageSize.val = defaults.pageSize.val) ∧
      (PageField.sortBy.IsSent parameters → ¬ PageField.direction.IsSent parameters →
        defaults.direction = .descending)) := by
  intro defaults page
  obtain ⟨byDefault, most⟩ := listing_eq_ok made
  have plain := page_of_not_asksForPage valid byDefault most bound
  have sized := size_page_of_asksForPage most bound
  have sorted := sort_page_of_isSent (l := l) bound
  refine ⟨run_congr_engine l r, fun unasked => ?_, sized, sorted, fun applies => ⟨?_, ?_⟩,
    fun ⟨sizes, directions⟩ => ⟨fun unsent => ?_, fun sent unsent => ?_⟩⟩
  · exact ⟨congrArg Pageable.size (plain unasked), congrArg Pageable.sort (plain unasked)⟩
  · intro asks unsent
    rw [← sized asks unsent, applies.size unsent]
  · intro sent unsent
    obtain ⟨field, configured⟩ := applies.direction sent unsent
    obtain ⟨p, -, -, -, descending⟩ := sorted sent unsent
    exact congrArg SortOrder.direction (Option.some.inj (configured.symm.trans descending))
  · by_cases asks : AsksForPage parameters
    · exact Subtype.ext ((sized asks unsent).trans (sizes asks unsent))
    · exact congrArg Pageable.size (plain asks)
  · obtain ⟨p, -, -, -, descending⟩ := sorted sent unsent
    exact ⟨Text.trim p.2, (directions sent unsent).symm ▸ descending⟩

/-- Pages of two records in ascending order. -/
def pairwise : FilterConfig := ⟨.defaults, ⟨.saturating 2, .ascending, .saturating 100⟩⟩

/-- The records by name. -/
def byName : List (String × String) := [("pagination.sortBy", "name")]

/-- A listing of the products of a store that is configured so. -/
def pairwiseListing : EntityListing (ReaderT Store Option) Record :=
  ⟨Store.engine id, Catalogue.legacy, id, pairwise.options, pairwise.defaultPage,
    pairwise.pagination.maxPageSize⟩

/-- The request by name that is bound from the parameters. -/
def byNameRequest : FilterRequest :=
  { FilterRequest.empty with page := some { PageRequest.defaults with sortBy := some "name" } }

/-- The factory that makes the listing. -/
def pairwiseFactory : Factory (ReaderT Store Option) :=
  (Factory.withConfig pairwise).initialized (Store.engine id)

theorem isSent_byName_iff {f : PageField} : f.IsSent byName ↔ f = .sortBy := by
  constructor
  · rintro ⟨p, member, -, named⟩
    obtain rfl := List.mem_singleton.1 member
    cases f with
    | sortBy => rfl
    | number | size | direction => exact absurd named (by decide)
  · rintro rfl
    exact ⟨_, List.mem_singleton_self _, rfl, rfl⟩

/-- Who sorts by name gets ten records in descending order. -/
theorem defaultsApply_iff_pairwise :
    pairwiseFactory.config.validate = .ok () ∧
      pairwiseFactory.listing Catalogue.legacy id none = .ok pairwiseListing ∧
      FilterRequest.ofParameters Catalogue.legacy.schema byName = .ok byNameRequest ∧
      (pairwiseListing.page byNameRequest).toPageable.size.val = 10 ∧
      ∃ field, (pairwiseListing.page byNameRequest).toPageable.sort = some ⟨field, .descending⟩ := by
  have valid : pairwiseFactory.config.validate = .ok () := rfl
  have made : pairwiseFactory.listing Catalogue.legacy id none = .ok pairwiseListing := rfl
  have bound : FilterRequest.ofParameters Catalogue.legacy.schema byName = .ok byNameRequest := rfl
  have sent : PageField.sortBy.IsSent byName := isSent_byName_iff.2 rfl
  have noSize : ¬ PageField.size.IsSent byName := fun s => absurd (isSent_byName_iff.1 s) (by decide)
  have noDirection : ¬ PageField.direction.IsSent byName :=
    fun s => absurd (isSent_byName_iff.1 s) (by decide)
  obtain ⟨-, -, sized, sorted, -⟩ := defaultsApply_iff pairwiseFactory Catalogue.legacy id none
    pairwiseListing Catalogue.legacy.schema byName byNameRequest valid made bound
  obtain ⟨p, -, -, -, descending⟩ := sorted sent noDirection
  exact ⟨valid, made, bound, sized sent.asksForPage noSize, _, descending⟩

/-- The configuration has two records on a page, and asks for an ascending order. -/
theorem not_defaultsApply_pairwise :
    pairwise.validate = .ok () ∧
      FilterRequest.ofParameters Catalogue.legacy.schema byName = .ok byNameRequest ∧
      ¬ DefaultsApply pairwise byName (pairwiseListing.page byNameRequest).toPageable := by
  refine ⟨rfl, rfl, fun applies => ?_⟩
  have noSize : ¬ PageField.size.IsSent byName := fun s => absurd (isSent_byName_iff.1 s) (by decide)
  exact absurd (applies.size noSize) (by decide)

end EntityListing

end Listing
