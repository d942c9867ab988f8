import Listing.Filter
import Listing.Options
import Listing.Page
import Listing.Range

/-!
# Requests

A request bundles all that a client can send for one listing: the state of a filter,
ranges, a page and options.  Each part may be missing.
-/

namespace Listing

/-- All that a client can send for one listing. -/
structure FilterRequest where
  filter : Option Filter
  ranges : Option RangeFilter
  page : Option PageRequest
  options : Option OptionOverrides

namespace FilterRequest

/-- Nothing sent. -/
def empty : FilterRequest := ⟨none, none, none, none⟩

/-- The request with every option overridden. -/
def withOptions (r : FilterRequest) (o : FilterOptions) : FilterRequest :=
  { r with options := some (.ofOptions o) }

/-- The request with the given overrides in place of its own. -/
def withOverrides (r : FilterRequest) (o : OptionOverrides) : FilterRequest :=
  { r with options := some o }

/-- The options in effect on top of others. -/
def effectiveOptions (r : FilterRequest) (base : FilterOptions) : FilterOptions :=
  match r.options with
  | some o => o.apply base
  | none => base

/-- A part of a request, or null. -/
def partDoc {α : Type} (toDoc : α → Doc) : Option α → Doc
  | some a => toDoc a
  | none => .null

/-- The document of a request. -/
def toDoc (r : FilterRequest) : Doc :=
  .ofMembers [("filters", partDoc Filter.encode r.filter),
    ("rangeFilters", partDoc RangeFilter.toDoc r.ranges),
    ("pagination", partDoc PageRequest.toDoc r.page),
    ("options", partDoc OptionOverrides.toDoc r.options)]

/-- Read a request with a filter of some type. -/
def decoder (schema : Schema) : Decoder FilterRequest :=
  Decoder.structured "FilterRequest"
    [.setting "filters" .optional (Decoder.optional (Filter.decode schema)) fun f r =>
        { r with filter := f },
     .setting "rangeFilters" .optional (Decoder.optional RangeFilter.decoder) fun rs r =>
        { r with ranges := rs },
     .setting "pagination" .optional (Decoder.optional PageRequest.decoder) fun p r =>
        { r with page := p },
     .setting "options" .optional (Decoder.optional OptionOverrides.decoder) fun o r =>
        { r with options := o }]
    empty

end FilterRequest

end Listing
