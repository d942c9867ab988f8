import Listing.Compilation
import Listing.Config
import Listing.Engine
import Listing.Request

/-!
# Listings of an entity

A factory holds a configuration and, once it is initialized, the engine that answers.
It makes listings: a listing compiles the requests for one type of records, has the
engine fetch the page and count the records, and maps the records for the client.

* `EntityListing.criteria` and `EntityListing.page` are what a request means for the engine;
* `EntityListing.run` answers a request.
-/

namespace Listing

/-- A configuration, and the engine once there is one. -/
structure Factory (μ : Type → Type) where
  config : FilterConfig
  engine? : Option (Engine μ)

/-- The listing of one type of records, mapped to `δ` for clients. -/
structure EntityListing (μ : Type → Type) (δ : Type) where
  engine : Engine μ
  entity : RecordType
  mapper : Record → δ
  options : FilterOptions
  defaultPage : PageRequest
  maxPageSize : Count

namespace Factory

variable {μ : Type → Type} {δ : Type}

/-- A factory without an engine. -/
def withConfig (config : FilterConfig) : Factory μ := ⟨config, none⟩

/-- The factory has an engine. -/
def isInitialized (f : Factory μ) : Bool := f.engine?.isSome

/-- Register an engine; only the first one counts. -/
def initialized (f : Factory μ) (engine : Engine μ) : Factory μ :=
  { f with engine? := f.engine?.or (some engine) }

/-- Make the listing of a type of records, with the options of the configuration unless
others are given. -/
def listing (f : Factory μ) (entity : RecordType) (mapper : Record → δ)
    (options : Option FilterOptions) : Except Error (EntityListing μ δ) :=
  match f.engine? with
  | none => .error (.config .notInitialized)
  | some engine =>
    .ok ⟨engine, entity, mapper, options.getD f.config.options, f.config.defaultPage,
      f.config.pagination.maxPageSize⟩

end Factory

namespace EntityListing

variable {μ : Type → Type} {δ : Type}

/-- The criteria of a request; options that it sends count for more than those of the
listing. -/
def criteria (l : EntityListing μ δ) (r : FilterRequest) : Criteria :=
  compile (r.filter.map Filter.view) r.ranges l.entity.declared (r.effectiveOptions l.options)

/-- The page of a request, cut down to the greatest size. -/
def page (l : EntityListing μ δ) (r : FilterRequest) : PageRequest :=
  let page := r.page.getD l.defaultPage
  if l.maxPageSize.val < page.size.val then { page with size := l.maxPageSize } else page

/-- Answer a request. -/
def run [Monad μ] (l : EntityListing μ δ) (r : FilterRequest) : μ (Except Error (Page δ)) :=
  let criteria := l.criteria r
  paginate (l.page r) l.mapper (l.engine.select l.entity criteria)
    (l.engine.count l.entity criteria)

end EntityListing

end Listing
