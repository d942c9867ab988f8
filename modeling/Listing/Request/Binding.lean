import Listing.Classification
import Listing.Request
import Listing.Value.Reading

/-!
# Binding parameters

A request is bound from named parameters, one after the other:

* `filters.<field>` sets the slot of a field;
* `rangeFilters.ranges[<field>].from` and `….to` set a bound;
* `pagination.pageNumber`, `.pageSize`, `.sortBy` and `.sortDirection` set the page;
* `options.caseInsensitiveStrings` and `.includeInheritedFields` set a switch.

Other parameters and blank ones are passed over.  The first parameter whose text
does not fit stops the binding with an error that names it.
-/

namespace Listing

/-- What the name of a parameter is about. -/
inductive Target where
  | slot (field : String)
  /-- A bound, named by what follows the opening bracket. -/
  | bound (rest : String)
  | paging (name : String)
  | switch (name : String)
  | nothing
  deriving DecidableEq, Repr

/-- What a name is about. -/
def Target.ofName (name : String) : Target :=
  match Text.after? "filters." name with
  | some field => slot field
  | none =>
    match Text.after? "rangeFilters.ranges[" name with
    | some rest => bound rest
    | none =>
      match Text.after? "pagination." name with
      | some name => paging name
      | none =>
        match Text.after? "options." name with
        | some name => switch name
        | none => nothing

/-- Which bound the end of a parameter's name means. -/
inductive BoundSide where
  | low
  | high
  deriving DecidableEq, Repr

/-- The bound that the part of a name behind the bracket means. -/
def BoundSide.ofName? (name : String) : Option BoundSide :=
  if name = ".from" then some low else if name = ".to" then some high else none

/-- The range with one bound set. -/
def Range.set (r : Range) (side : BoundSide) (v : Value) : Range :=
  match side with
  | .low => { r with low := some v }
  | .high => { r with high := some v }

namespace FilterRequest

/-- Read a truth value, without the blanks around it. -/
def readSwitch (value : String) : Except String Bool :=
  match readFlag? (Text.trim value) with
  | some b => .ok b
  | none => .error "provided string was not `true` or `false`"

/-- Read a count, without the blanks around it. -/
def readCount (value : String) : Except String Count :=
  (Count.read (Text.trim value)).mapError IntegerFault.message

/-- Set the slot of a field; a field that the type does not have is passed over. -/
def bindSlot (schema : Schema) (field value : String) (r : FilterRequest) :
    Except String FilterRequest :=
  let filter := r.filter.getD (.blank schema)
  match filter.assign field value with
  | .ok changed => .ok { r with filter := some (changed.getD filter) }
  | .error fault => .error fault.message

/-- Read a bound: as the kind of the field says if that is ordered, or else as whatever the
text most specifically is. -/
def readBound (schema : Schema) (field value : String) : Except String Value :=
  match findField schema.declared field true with
  | some descriptor =>
    if descriptor.kind.isRangeable then
      (Value.parseAs descriptor.kind value).mapError Unreadable.message
    else .ok (.infer (Text.trim value))
  | none => .ok (.infer (Text.trim value))

/-- Set a bound. -/
def bindBound (schema : Schema) (rest value : String) (r : FilterRequest) :
    Except String FilterRequest := do
  match Text.cutAt? ']' rest with
  | none => .error "malformed range parameter"
  | some (field, ending) =>
    let bound ← readBound schema field value
    match BoundSide.ofName? ending with
    | none => .error "expected '.from' or '.to'"
    | some side =>
      let ranges := r.ranges.getD .empty
      return { r with ranges := some (ranges.insert field ((ranges.get field).set side bound)) }

/-- Set a part of the page; another name only asks for a page. -/
def bindPaging (name value : String) (r : FilterRequest) : Except String FilterRequest := do
  let page := r.page.getD .defaults
  let page ←
    if name = "pageNumber" then
      pure { page with number := ← readCount value }
    else if name = "pageSize" then
      pure { page with size := ← readCount value }
    else if name = "sortBy" then
      pure { page with sortBy := some (Text.trim value) }
    else if name = "sortDirection" then
      pure { page with direction := ← SortDirection.read (Text.trim value) }
    else pure page
  return { r with page := some page }

/-- Set a switch; another name only asks for options. -/
def bindSwitch (name value : String) (r : FilterRequest) : Except String FilterRequest := do
  let options := r.options.getD .unsent
  let options ←
    if name = "caseInsensitiveStrings" then
      pure { options with ignoreCase := some (← readSwitch value) }
    else if name = "includeInheritedFields" then
      pure { options with inherited := some (← readSwitch value) }
    else pure options
  return { r with options := some options }

/-- Bind one parameter to what it is about. -/
def bindTarget (schema : Schema) (value : String) (r : FilterRequest) :
    Target → Except String FilterRequest
  | .slot field => bindSlot schema field value r
  | .bound rest => bindBound schema rest value r
  | .paging name => bindPaging name value r
  | .switch name => bindSwitch name value r
  | .nothing => .ok r

/-- Bind one parameter. -/
def bind (schema : Schema) (r : FilterRequest) (parameter : String × String) :
    Except Error FilterRequest :=
  let (name, value) := parameter
  if Text.isBlankOnly value then .ok r
  else (bindTarget schema value r (.ofName name)).mapError fun message =>
    .request (.invalidParameter name value message)

/-- Bind a request from parameters. -/
def ofParameters (schema : Schema) (parameters : List (String × String)) :
    Except Error FilterRequest :=
  parameters.foldlM (bind schema) empty

end FilterRequest

end Listing
