import Listing.Count
import Listing.Error
import Listing.Text.Blank

/-!
# Pages

A client asks for a page by number and size, perhaps sorted.  The store gets the
part of the records that this means, and the client gets it back with the totals.

* `PageRequest.toPageable` is what the store is asked for;
* `Pageable.offset` counts the records before the page;
* `paginate` fetches a page and counts all records, and puts the two together.
-/

namespace Listing

/-- Which way records are sorted. -/
inductive SortDirection where
  | ascending
  | descending
  deriving DecidableEq, Repr

namespace SortDirection

/-- The keyword of a direction. -/
def text : SortDirection → String
  | ascending => "ASC"
  | descending => "DESC"

/-- The directions in order. -/
def all : List SortDirection := [ascending, descending]

/-- Read a direction in any case, with blanks around it. -/
def read (raw : String) : Except String SortDirection :=
  let word := String.ofList ((Text.trim raw).toList.map Text.asciiUpper)
  match all.find? (·.text = word) with
  | some d => .ok d
  | none => .error s!"'{raw}' is not a sort direction (ASC or DESC)"

/-- Read a direction from a document, where it is written exactly. -/
def decoder : Decoder SortDirection := (Decoder.choice ["ASC", "DESC"]).map all.get

end SortDirection

/-- A page as a client asks for it. -/
structure PageRequest where
  /-- The number of the page, counted from nought. -/
  number : Count
  size : Count
  sortBy : Option String
  direction : SortDirection
  deriving DecidableEq

/-- A field to sort by, and the direction. -/
structure SortOrder where
  field : String
  direction : SortDirection
  deriving DecidableEq, Repr

/-- A page as a store is asked for it. -/
structure Pageable where
  number : Count
  size : Count
  sort : Option SortOrder
  deriving DecidableEq

namespace PageRequest

/-- The first page of ten records, unsorted. -/
def defaults : PageRequest := ⟨⟨0, by decide⟩, ⟨10, by decide⟩, none, .descending⟩

/-- A page has room for something. -/
def validate (r : PageRequest) : Except Error Unit :=
  if r.size.val = 0 then
    .error (.request (.invalidFields [⟨"page_size", "page size must be at least 1"⟩]))
  else .ok ()

/-- The page that a store is asked for; a blank field to sort by is none. -/
def toPageable (r : PageRequest) : Pageable where
  number := r.number
  size := r.size
  sort := ((r.sortBy.map Text.trim).filter (· ≠ "")).map fun field => ⟨field, r.direction⟩

/-- The document of a page request. -/
def toDoc (r : PageRequest) : Doc :=
  .ofMembers [("pageNumber", r.number.toDoc), ("pageSize", r.size.toDoc),
    ("sortBy", .ofString? r.sortBy), ("sortDirection", .string r.direction.text)]

/-- Read a page request; what is missing has its default. -/
def decoder : Decoder PageRequest :=
  Decoder.structured "PaginationRequest"
    [.setting "pageNumber" .defaulted Count.decoder fun n r => { r with number := n },
     .setting "pageSize" .defaulted Count.decoder fun n r => { r with size := n },
     .setting "sortBy" .defaulted (Decoder.optional Decoder.string) fun s r =>
        { r with sortBy := s },
     .setting "sortDirection" .defaulted SortDirection.decoder fun d r => { r with direction := d }]
    defaults

end PageRequest

namespace Pageable

/-- The number of records before the page. -/
def offset (p : Pageable) : Count := .saturating (p.number.val * p.size.val)

/-- The records keep the order in which they are stored. -/
def isUnsorted (p : Pageable) : Bool := p.sort.isNone

/-- The document of a page as a store is asked for it. -/
def toDoc (p : Pageable) : Doc :=
  .ofMembers [("page_number", p.number.toDoc), ("page_size", p.size.toDoc),
    ("sort", match p.sort with
      | some s => .ofMembers [("field", .string s.field), ("direction", .string s.direction.text)]
      | none => .null)]

end Pageable

/-- A page as a client gets it. -/
structure Page (α : Type) where
  content : List α
  /-- The number of all records there are. -/
  totalElements : Count
  totalPages : Count
  currentPage : Count

namespace Page

variable {α β : Type}

/-- The number of pages of a size that hold a number of records. -/
def pagesFor (total size : Nat) : Nat := (total + size - 1) / size

/-- A page with some content; a size of nought counts as one. -/
def of (content : List α) (total size current : Count) : Page α :=
  ⟨content, total, .saturating (pagesFor total.val (max size.val 1)), current⟩

/-- Apply a function to the content. -/
def map (f : α → β) (p : Page α) : Page β := { p with content := p.content.map f }

/-- The document of a page. -/
def toDoc (item : α → Doc) (p : Page α) : Doc :=
  .ofMembers [("content", .ofList (p.content.map item)), ("totalElements", p.totalElements.toDoc),
    ("totalPages", p.totalPages.toDoc), ("currentPage", p.currentPage.toDoc)]

/-- Nothing on no page. -/
def blank : Page α := ⟨[], ⟨0, by decide⟩, ⟨0, by decide⟩, ⟨0, by decide⟩⟩

/-- Read a page. -/
def decoder (item : Decoder α) : Decoder (Page α) :=
  Decoder.structured "PaginationResponse"
    [.setting "content" .required (Decoder.list item) fun xs p => { p with content := xs },
     .setting "totalElements" .required Count.decoder fun n p => { p with totalElements := n },
     .setting "totalPages" .required Count.decoder fun n p => { p with totalPages := n },
     .setting "currentPage" .required Count.decoder fun n p => { p with currentPage := n }]
    blank

end Page

/-- Fetch a page, count all records, and put the two together.  A request without room is
refused before either; when both fail, the failure of fetching is reported. -/
def paginate {μ : Type → Type} [Monad μ] {α β : Type} (request : PageRequest) (mapper : α → β)
    (fetch : Pageable → μ (Except Failure (List α))) (count : μ (Except Failure Count)) :
    μ (Except Error (Page β)) := do
  match request.validate with
  | .error e => return .error e
  | .ok () =>
    let fetched ← fetch request.toPageable
    let counted ← count
    match fetched, counted with
    | .error failure, _ => return .error failure.toError
    | _, .error failure => return .error failure.toError
    | .ok content, .ok total =>
      return .ok ((Page.of content total request.size request.number).map mapper)

end Listing
