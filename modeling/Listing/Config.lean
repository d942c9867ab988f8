import Listing.Options
import Listing.Page
import Listing.Text.Cut
import Listing.Yaml.Node

/-!
# Configuration

A configuration sets the options of filters and the defaults of pages.  It is
written in YAML; what is missing has its default, and what is unknown is passed over.

* `FilterConfig.ofYaml` reads and validates a configuration;
* `FilterConfig.defaultPage` is the page of a request that asks for none.
-/

namespace Listing

/-- The defaults of pages. -/
structure PaginationDefaults where
  /-- The size of pages for which a client sends none. -/
  pageSize : Count
  direction : SortDirection
  /-- The greatest size that a client gets. -/
  maxPageSize : Count
  deriving DecidableEq

/-- A configuration. -/
structure FilterConfig where
  options : FilterOptions
  pagination : PaginationDefaults
  deriving DecidableEq

namespace PaginationDefaults

/-- The size and the direction of the page that a client gets without asking, and at most a
hundred records. -/
def defaults : PaginationDefaults :=
  ⟨PageRequest.defaults.size, PageRequest.defaults.direction, ⟨100, by decide⟩⟩

/-- The document of page defaults. -/
def toDoc (p : PaginationDefaults) : Doc :=
  .ofMembers [("page_size", p.pageSize.toDoc), ("sort_direction", .string p.direction.text),
    ("max_page_size", p.maxPageSize.toDoc)]

/-- Read page defaults. -/
def decoder : Decoder PaginationDefaults :=
  Decoder.structured "PaginationDefaults"
    [.setting "page_size" .defaulted Count.decoder fun n p => { p with pageSize := n },
     .setting "sort_direction" .defaulted SortDirection.decoder fun d p =>
        { p with direction := d },
     .setting "max_page_size" .defaulted Count.decoder fun n p => { p with maxPageSize := n }]
    defaults

end PaginationDefaults

namespace FilterConfig

/-- Everything as it is by default. -/
def defaults : FilterConfig := ⟨.defaults, .defaults⟩

/-- The document of a configuration. -/
def toDoc (c : FilterConfig) : Doc :=
  .ofMembers [("default_options", c.options.toDoc), ("pagination", c.pagination.toDoc)]

/-- Read a configuration from a document. -/
def decoder : Decoder FilterConfig :=
  Decoder.structured "FilterConfig"
    [.setting "default_options" .defaulted FilterOptions.decoder fun o c => { c with options := o },
     .setting "pagination" .defaulted PaginationDefaults.decoder fun p c =>
        { c with pagination := p }]
    defaults

/-- The page defaults can be used: pages hold something, and not more than they may. -/
def validate (c : FilterConfig) : Except ConfigError Unit :=
  let size := c.pagination.pageSize.val
  let most := c.pagination.maxPageSize.val
  if most = 0 then
    .error (.invalidValue "pagination.max_page_size" (toString most) "must be at least 1")
  else if size = 0 ∨ most < size then
    .error (.invalidValue "pagination.page_size" (toString size)
      s!"must be between 1 and {most}")
  else .ok ()

/-- The page of a request that asks for none. -/
def defaultPage (c : FilterConfig) : PageRequest :=
  { PageRequest.defaults with
    size := c.pagination.pageSize, direction := c.pagination.direction }

end FilterConfig

/-! ## Reading from YAML -/

namespace Yaml

/-- The truth value of a plain scalar. -/
def flag? : Node → Option Bool
  | .scalar _ true text =>
    if ["true", "True", "TRUE"].contains text then some true
    else if ["false", "False", "FALSE"].contains text then some false
    else none
  | _ => none

/-- The number that digits of a base write, if there are any and all are such digits. -/
def digitsIn? (base : Nat) (cs : List Char) : Option Nat :=
  if cs.isEmpty then none
  else cs.foldlM (fun n c => (Text.hexValue? c).bind fun d =>
    if d < base then some (base * n + d) else none) 0

/-- The number behind one of the marks for a base. -/
def based? (cs : List Char) : Option Nat :=
  match cs with
  | '0' :: 'x' :: rest => digitsIn? 16 rest
  | '0' :: 'o' :: rest => digitsIn? 8 rest
  | '0' :: 'b' :: rest => digitsIn? 2 rest
  | '0' :: _ :: _ => none
  | cs => digitsIn? 10 cs

/-- The count of a plain scalar: decimal without noughts in front, or behind the mark of a
base; a plus may stand before it. -/
def count? : Node → Option Count
  | .scalar _ true text =>
    let cs := text.toList
    let cs := if cs.head? = some '+' then cs.tail else cs
    (based? cs).bind fun n => if h : n < 18446744073709551616 then some ⟨n, h⟩ else none
  | _ => none

/-- The names of nothing. -/
def nullNames : List String := ["", "~", "null", "Null", "NULL"]

/-- The direction that a scalar names, or that the tag of an empty one does. -/
def direction? : Node → Option SortDirection
  | .scalar tag plain text =>
    match tag.bind (Text.after? "!") with
    | some name => if plain && nullNames.contains text then named name else none
    | none => named text
  | _ => none
where
  /-- The direction with a name. -/
  named (name : String) : Option SortDirection := SortDirection.all.find? (·.text = name)

/-- The members of a structure by name; one that is not written has none. -/
def members? : Node → Option (List (String × Node))
  | .mapping entries => entries.mapM fun
    | (.scalar _ _ name, v) => some (name, v)
    | _ => none
  | .scalar _ true "" => some []
  | _ => none

/-- Read the members of a structure with a reading for every name it knows, each of which may
come once. -/
def fill? {σ : Type} (readings : List (String × (σ → Node → Option σ))) (start : σ)
    (n : Node) : Option σ := do
  let ms ← members? n
  let known := (ms.map Prod.fst).filter fun name => (readings.lookup name).isSome
  if !known.Nodup then none
  else ms.foldlM (fun s m => match readings.lookup m.1 with
    | some reading => reading s m.2
    | none => some s) start

/-- Read options. -/
def options? (n : Node) : Option FilterOptions :=
  fill?
    [("caseInsensitiveStrings", fun o n => (flag? n).map fun b => { o with ignoreCase := b }),
     ("includeInheritedFields", fun o n => (flag? n).map fun b => { o with inherited := b })]
    FilterOptions.defaults n

/-- Read page defaults. -/
def pagination? (n : Node) : Option PaginationDefaults :=
  fill?
    [("page_size", fun p n => (count? n).map fun c => { p with pageSize := c }),
     ("sort_direction", fun p n => (direction? n).map fun d => { p with direction := d }),
     ("max_page_size", fun p n => (count? n).map fun c => { p with maxPageSize := c })]
    PaginationDefaults.defaults n

/-- Read a configuration. -/
def config? (n : Node) : Option FilterConfig :=
  fill?
    [("default_options", fun c n => (options? n).map fun o => { c with options := o }),
     ("pagination", fun c n => (pagination? n).map fun p => { c with pagination := p })]
    FilterConfig.defaults n

end Yaml

namespace FilterConfig

/-- Read a configuration without looking whether it can be used. -/
def readYaml (text : String) : Option FilterConfig := do
  match ← Yaml.read? text with
  | .empty => return .defaults
  | .document n => Yaml.config? n

/-- Read a configuration from a text, which may be that of a file. -/
def ofYaml (file : Option String) (text : String) : Except Error FilterConfig :=
  match readYaml text with
  | none => .error (.config (.unparsable file "not a filter configuration"))
  | some c =>
    match c.validate with
    | .ok () => .ok c
    | .error e => .error (.config e)

end FilterConfig

end Listing
