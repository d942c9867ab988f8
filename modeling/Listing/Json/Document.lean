import Listing.Json.Value

/-!
# JSON documents

A document is what a JSON text says, in the order in which it says it: members keep
their order and may repeat a name, and a number may be of single precision.  Where
a text stops being JSON the document says so in place, so that whoever reads the
document from front to back meets the first of several faults first.

* `Doc.malformation?` is the first thing that keeps a text from being JSON at all, and
  `Doc.refusal?` the first that keeps it from having a value;
* `Doc.toJson` is the value of a document if all its parts have one;
* `Json.toDoc` is the document of a value.
-/

namespace Listing

/-- Why a text is not JSON, or no value although it is JSON. -/
inductive Malformation where
  | endInList | endInObject | endInString | endInValue
  | colonExpected | listMarkExpected | objectMarkExpected | wordExpected | valueExpected
  | badEscape | badNumber | numberRange | controlCharacter | keyExpected
  | loneSurrogate | hexEscapeEnd | trailingComma | trailingText | tooDeep
  deriving DecidableEq, Repr

/-- The wording of a malformation. -/
def Malformation.message : Malformation → String
  | endInList => "EOF while parsing a list"
  | endInObject => "EOF while parsing an object"
  | endInString => "EOF while parsing a string"
  | endInValue => "EOF while parsing a value"
  | colonExpected => "expected `:`"
  | listMarkExpected => "expected `,` or `]`"
  | objectMarkExpected => "expected `,` or `\x7d`"
  | wordExpected => "expected ident"
  | valueExpected => "expected value"
  | badEscape => "invalid escape"
  | badNumber => "invalid number"
  | numberRange => "number out of range"
  | controlCharacter => "control character (\\u0000-\\u001F) found while parsing a string"
  | keyExpected => "key must be a string"
  | loneSurrogate => "lone leading surrogate in hex escape"
  | hexEscapeEnd => "unexpected end of hex escape"
  | trailingComma => "trailing comma"
  | trailingText => "trailing characters"
  | tooDeep => "recursion limit exceeded"

/-- A JSON document. -/
inductive Doc where
  | null
  | flag (b : Bool)
  | number (n : Json.Number)
  /-- A number of single precision, written with the digits that suffice for it. -/
  | single (x : Single) (finite : x.isFinite = true)
  | string (s : String)
  /-- A list, and why the text stops being JSON behind its last item if it does. -/
  | list (items : List Doc) (stop : Option Malformation)
  /-- An object, and why the text stops being JSON behind its last member if it does. -/
  | object (members : List (String × Doc)) (stop : Option Malformation)
  /-- Text that may be passed over, as `inner` says, but has no value. -/
  | refused (cause : Malformation) (inner : Doc)
  /-- A member whose name has no value, with what the member holds. -/
  | unnamed (cause : Malformation) (held : Doc)
  /-- The place where the text stops being JSON. -/
  | broken (cause : Malformation)
  deriving Inhabited

namespace Doc

mutual

/-- Why the text of a document that is passed over is not JSON. -/
def malformation? : Doc → Option Malformation
  | list items stop => (itemsMalformation? items).or stop
  | object members stop => (membersMalformation? members).or stop
  | refused _ inner => malformation? inner
  | unnamed _ held => malformation? held
  | broken cause => some cause
  | _ => none

/-- The first malformation among items. -/
def itemsMalformation? : List Doc → Option Malformation
  | [] => none
  | d :: rest => (malformation? d).or (itemsMalformation? rest)

/-- The first malformation among members. -/
def membersMalformation? : List (String × Doc) → Option Malformation
  | [] => none
  | (_, d) :: rest => (malformation? d).or (membersMalformation? rest)

end

mutual

/-- Why a document has no value. -/
def refusal? : Doc → Option Malformation
  | list items stop => (itemsRefusal? items).or stop
  | object members stop => (membersRefusal? members).or stop
  | refused cause _ => some cause
  | unnamed cause _ => some cause
  | broken cause => some cause
  | _ => none

/-- The first refusal among items. -/
def itemsRefusal? : List Doc → Option Malformation
  | [] => none
  | d :: rest => (refusal? d).or (itemsRefusal? rest)

/-- The first refusal among members. -/
def membersRefusal? : List (String × Doc) → Option Malformation
  | [] => none
  | (_, d) :: rest => (refusal? d).or (membersRefusal? rest)

end

mutual

/-- The value of a document; a part that has none counts as null. -/
def value : Doc → Json
  | null => .null
  | flag b => .flag b
  | number n => .number n
  | single x _ => .ofDouble x.convert
  | string s => .string s
  | list items _ => .array (itemValues items)
  | object members _ => .ofMembers (memberValues members)
  | _ => .null

/-- The values of items. -/
def itemValues : List Doc → List Json
  | [] => []
  | d :: rest => value d :: itemValues rest

/-- The values of members. -/
def memberValues : List (String × Doc) → List (String × Json)
  | [] => []
  | (k, d) :: rest => (k, value d) :: memberValues rest

end

/-- The value of a document all parts of which have one. -/
def toJson (d : Doc) : Except Malformation Json :=
  match d.refusal? with
  | some cause => .error cause
  | none => .ok d.value

/-- A list without faults. -/
def ofList (items : List Doc) : Doc := list items none

/-- An object without faults. -/
def ofMembers (members : List (String × Doc)) : Doc := object members none

/-- A finite double, or null. -/
def ofDouble (x : Double) : Doc :=
  if h : x.isFinite = true then number (.real x h) else null

/-- A finite single, or null. -/
def ofSingle (x : Single) : Doc := if h : x.isFinite = true then single x h else null

/-- A text or null. -/
def ofString? : Option String → Doc
  | some s => string s
  | none => null

end Doc

namespace Json

mutual

/-- The document of a value. -/
def toDoc : Json → Doc
  | null => .null
  | flag b => .flag b
  | number n => .number n
  | string s => .string s
  | array items => .list (itemsToDoc items) none
  | object members => .object (membersToDoc members) none

/-- The documents of items. -/
def itemsToDoc : List Json → List Doc
  | [] => []
  | j :: rest => toDoc j :: itemsToDoc rest

/-- The documents of members. -/
def membersToDoc : List (String × Json) → List (String × Doc)
  | [] => []
  | (k, j) :: rest => (k, toDoc j) :: membersToDoc rest

end

end Json

end Listing
