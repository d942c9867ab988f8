import Listing.Classification
import Listing.Text.Blank
import Listing.Text.Case
import Listing.Value

/-!
# Documented parameters

Every parameter that a listing takes is described in the manner of an interface
description: where it is carried, what it means and which values it has.

* `describe` lists the parameters of a type of filters;
* `customize` puts them in place of the query parameters of an operation.
-/

namespace Listing

/-- Where a parameter is carried. -/
inductive ParameterLocation where
  | query
  | path
  | header
  | cookie
  deriving DecidableEq, Repr

/-- The type of the values of a parameter. -/
inductive SchemaType where
  | string
  | integer
  | number
  | boolean
  deriving DecidableEq, Repr

/-- The values of a parameter. -/
structure ParameterSchema where
  type : SchemaType
  format : Option String
  /-- The only values, if there are only some. -/
  choices : Option (List String)
  description : Option String
  default : Option Json

/-- A parameter. -/
structure ParameterDescriptor where
  name : String
  location : ParameterLocation
  description : Option String
  required : Bool
  schema : ParameterSchema

/-- A member of a document that is left out where there is nothing. -/
def optionalMember {α : Type} (name : String) (toDoc : α → Doc) : Option α → List (String × Doc)
  | some a => [(name, toDoc a)]
  | none => []

namespace ParameterLocation

/-- All locations. -/
def all : List ParameterLocation := [query, path, header, cookie]

/-- The name of a location. -/
def text : ParameterLocation → String
  | query => "query"
  | path => "path"
  | header => "header"
  | cookie => "cookie"

/-- Read a location from a document. -/
def decoder : Decoder ParameterLocation :=
  (Decoder.choice ["query", "path", "header", "cookie"]).map all.get

end ParameterLocation

namespace SchemaType

/-- All types. -/
def all : List SchemaType := [string, integer, number, boolean]

/-- The name of a type. -/
def text : SchemaType → String
  | string => "string"
  | integer => "integer"
  | number => "number"
  | boolean => "boolean"

/-- Read a type from a document. -/
def decoder : Decoder SchemaType :=
  (Decoder.choice ["string", "integer", "number", "boolean"]).map all.get

end SchemaType

namespace ParameterSchema

/-- Values of a type without further remarks. -/
def of (type : SchemaType) : ParameterSchema := ⟨type, none, none, none, none⟩

/-- How the values of lists are written. -/
def collectionDescription : String := "Comma-separated values for collection/array filtering"

/-- The values for fields of a kind. -/
def forKind : Kind → ParameterSchema
  | .choice names => { of .string with choices := some names }
  | .text | .other => of .string
  | .number true => of .integer
  | .number false => of .number
  | .flag => of .boolean
  | .temporal => { of .string with format := some "date-time" }
  | .collection | .array => { of .string with description := some collectionDescription }

/-- The same values with a default. -/
def withDefault (s : ParameterSchema) (j : Json) : ParameterSchema := { s with default := some j }

/-- The document of a schema. -/
def toDoc (s : ParameterSchema) : Doc :=
  .ofMembers (("type", .string s.type.text) ::
    optionalMember "format" .string s.format ++
    optionalMember "enum" (fun names => .ofList (names.map .string)) s.choices ++
    optionalMember "description" .string s.description ++
    optionalMember "default" Json.toDoc s.default)

/-- Read a schema. -/
def decoder : Decoder ParameterSchema :=
  Decoder.structured "ParameterSchema"
    [.setting "type" .required SchemaType.decoder fun t s => { s with type := t },
     .setting "format" .defaulted (Decoder.optional Decoder.string) fun f s =>
        { s with format := f },
     .setting "enum" .defaulted (Decoder.optional (Decoder.list Decoder.string)) fun ns s =>
        { s with choices := ns },
     .setting "description" .defaulted (Decoder.optional Decoder.string) fun d s =>
        { s with description := d },
     .setting "default" .defaulted (Decoder.optional Decoder.json) fun j s =>
        { s with default := j }]
    (of .string)

end ParameterSchema

namespace ParameterDescriptor

/-- A parameter of a query that may be left out. -/
def query (name description : String) (schema : ParameterSchema) : ParameterDescriptor :=
  ⟨name, .query, some description, false, schema⟩

/-- The parameter is carried in the query. -/
def isQuery (p : ParameterDescriptor) : Bool := p.location = .query

/-- The document of a parameter. -/
def toDoc (p : ParameterDescriptor) : Doc :=
  .ofMembers ([("name", .string p.name), ("in", .string p.location.text)] ++
    optionalMember "description" .string p.description ++
    [("required", .flag p.required), ("schema", p.schema.toDoc)])

/-- Read a parameter. -/
def decoder : Decoder ParameterDescriptor :=
  Decoder.structured "ParameterDescriptor"
    [.setting "name" .required Decoder.string fun n p => { p with name := n },
     .setting "in" .required ParameterLocation.decoder fun l p => { p with location := l },
     .setting "description" .defaulted (Decoder.optional Decoder.string) fun d p =>
        { p with description := d },
     .setting "required" .defaulted Decoder.flag fun b p => { p with required := b },
     .setting "schema" .required ParameterSchema.decoder fun s p => { p with schema := s }]
    ⟨"", .query, none, false, .of .string⟩

end ParameterDescriptor

/-! ## The words of a name -/

/-- A blank behind a word, unless there is none or one. -/
def breakWord (written : List Char) : List Char :=
  match written with
  | [] => []
  | c :: _ => if c = ' ' then written else ' ' :: written

/-- Write one character of a name behind what is written, of which the last character comes
first. -/
def writeWord (written : List Char) (c : Char) : List Char :=
  if c = '_' then breakWord written
  else if Text.isUpper c then (Text.lowerChar c).reverse ++ breakWord written
  else c :: written

/-- The words of a name, which start at capitals and behind underscores, in small letters. -/
def toWords (name : String) : String :=
  Text.trimEnd (String.ofList (name.toList.foldl writeWord []).reverse)

/-! ## The parameters of a filter -/

/-- A whole number as a default. -/
def wholeDefault (n : Wide) : Json := .number (.whole n)

/-- The parameters that every listing takes. -/
def commonParameters : List ParameterDescriptor :=
  [.query "pagination.pageNumber" "Page number (0-based)"
      ((ParameterSchema.of .integer).withDefault (wholeDefault ⟨0, by decide⟩)),
   .query "pagination.pageSize" "Number of items per page"
      ((ParameterSchema.of .integer).withDefault (wholeDefault ⟨10, by decide⟩)),
   .query "pagination.sortBy" "Field to sort by" (.of .string),
   .query "pagination.sortDirection" "Sort direction (ASC or DESC)"
      ((ParameterSchema.of .string).withDefault (.string "DESC")),
   .query "options.caseInsensitiveStrings" "Enable case-insensitive string filtering"
      ((ParameterSchema.of .boolean).withDefault (.flag false)),
   .query "options.includeInheritedFields" "Include fields from parent types"
      ((ParameterSchema.of .boolean).withDefault (.flag false))]

/-- The parameters of a field: its value, and two bounds where it accepts ranges.  A primary
identifier has none unless it is marked as filterable, and then no bounds. -/
def describeField (f : FieldDescriptor) : List ParameterDescriptor :=
  if f.isPrimaryIdentifier && !f.isFilterableIdentifier then []
  else
    let words := toWords f.name
    let schema := ParameterSchema.forKind f.kind
    let exact :=
      ParameterDescriptor.query ("filters." ++ f.name) ("Exact filter for " ++ words) schema
    if f.isPrimaryIdentifier || !f.acceptsRange then [exact]
    else
      [exact,
       .query ("rangeFilters.ranges[" ++ f.name ++ "].from") ("Filter " ++ words ++ " from value")
         schema,
       .query ("rangeFilters.ranges[" ++ f.name ++ "].to") ("Filter " ++ words ++ " to value")
         schema]

/-- The parameters that a listing with a type of filters takes. -/
def describe (t : DeclaredType) : List ParameterDescriptor :=
  commonParameters ++ (classify t true).flatMap describeField

/-- Put the parameters of a type of filters in place of the query parameters; without a type
the parameters stay as they are. -/
def customize (existing : List ParameterDescriptor) : Option DeclaredType → List ParameterDescriptor
  | none => existing
  | some t => existing.filter (!·.isQuery) ++ describe t

end Listing
