import Listing.Field.Atom
import Listing.Text.Cut

/-!
# Field types

The types that fields of filters and records are declared with: ordered scalars,
floating-point numbers, JSON values, and optional values, lists, sets and arrays of
these.  Two families of sets are left out: those whose values come in no fixed order, so
that no list stands for them, and sorted ones of anything but scalars, that is, of optional
values, lists or sets.

* `FieldType.Carrier` is the type of the values;
* `FieldType.lower` turns a value into a field value;
* `FieldType.parse` reads a value from a parameter, where commas separate the
  values of lists, sets and arrays;
* `FieldType.encode` and `FieldType.decode` exchange values with documents.
-/

namespace Listing

/-- The type of a field. -/
inductive FieldType where
  | atom (a : Atom)
  | single
  | double
  | document
  | optional (item : FieldType)
  /-- A list of any length. -/
  | list (item : FieldType)
  /-- A sorted set of scalars; there are no other sets here. -/
  | set (item : Atom)
  /-- A sequence in one piece, of any length. -/
  | slice (item : FieldType)
  /-- A sequence in one piece, of a fixed length. -/
  | tuple (item : FieldType) (length : Nat)
  deriving DecidableEq, Repr

namespace FieldType

/-- The values of a type. -/
abbrev Carrier : FieldType → Type
  | atom a => a.Carrier
  | single => Single
  | double => Double
  | document => Json
  | optional t => Option (Carrier t)
  | list t => List (Carrier t)
  | set a => a.Set
  | slice t => List (Carrier t)
  | tuple t n => { xs : List (Carrier t) // xs.length = n }

/-- The kind of the values; an optional value has the kind of what it may hold. -/
def kind : FieldType → Kind
  | atom a => a.kind
  | single | double => .number false
  | document => .other
  | optional t => t.kind
  | list _ | set _ => .collection
  | slice _ | tuple _ _ => .array

/-- The field value of a value. -/
def lower : (t : FieldType) → t.Carrier → Value
  | atom a, x => a.lower x
  | single, x => .real x.convert
  | double, x => .real x
  | document, j => .document j
  | optional _, none => .null
  | optional t, some x => lower t x
  | list t, xs => .list (xs.map (lower t))
  | set a, xs => .list (xs.val.map a.lower)
  | slice t, xs => .list (xs.map (lower t))
  | tuple t _, xs => .list (xs.val.map (lower t))

/-! ## Parameters -/

/-- The values of a comma-separated text; blank ones are left out. -/
def elements (raw : String) : List String :=
  ((Text.pieces ',' raw).map Text.trim).filter fun piece => piece ≠ ""

/-- Read the values of a comma-separated text. -/
def parseElements {α : Type} (parse : String → Except Unreadable α) (raw : String) :
    Except Unreadable (List α) :=
  (elements raw).mapM parse

/-- Read a sorted set from a comma-separated text, by any order. -/
def parseSet {α : Type} (compare : α → α → Ordering) [Std.TransCmp compare]
    (parse : String → Except Unreadable α) (raw : String) : Except Unreadable (Sorted compare) :=
  (parseElements parse raw).map (Sorted.ofList compare)

/-- Read a sequence of a fixed length from a comma-separated text. -/
def parseTuple {α : Type} (n : Nat) (parse : String → Except Unreadable α) (raw : String) :
    Except Unreadable { xs : List α // xs.length = n } := do
  let xs ← parseElements parse raw
  if h : xs.length = n then .ok ⟨xs, h⟩ else .error (.count n xs.length)

/-- Read a value from a parameter. -/
def parse : (t : FieldType) → String → Except Unreadable t.Carrier
  | atom a, raw => a.parse raw
  | single, raw => (Binary.read (Text.trim raw)).mapError (.number raw)
  | double, raw => (Binary.read (Text.trim raw)).mapError (.number raw)
  | document, raw =>
    match Json.read raw with
    | .ok j => .ok j
    | .error _ => .ok (.string raw)
  | optional t, raw => if raw = "" then .ok none else (parse t raw).map some
  | list t, raw => parseElements (parse t) raw
  | set a, raw => parseSet a.compare a.parse raw
  | slice t, raw => parseElements (parse t) raw
  | tuple t n, raw => parseTuple n (parse t) raw

/-! ## Documents -/

/-- The document of a value. -/
def encode : (t : FieldType) → t.Carrier → Doc
  | atom a, x => a.encode x
  | single, x => .ofSingle x
  | double, x => .ofDouble x
  | document, j => j.toDoc
  | optional _, none => .null
  | optional t, some x => encode t x
  | list t, xs => .ofList (xs.map (encode t))
  | set a, xs => .ofList (xs.val.map a.encode)
  | slice t, xs => .ofList (xs.map (encode t))
  | tuple t _, xs => .ofList (xs.val.map (encode t))

/-- Read a value from a document. -/
def decode : (t : FieldType) → Decoder t.Carrier
  | atom a => a.decode
  | single => Decoder.single
  | double => Decoder.double
  | document => Decoder.json
  | optional t => Decoder.optional (decode t)
  | list t => Decoder.list (decode t)
  | set a => (Decoder.list a.decode).map (Sorted.ofList a.compare)
  | slice t => Decoder.list (decode t)
  | tuple t n => Decoder.tuple (decode t) n

/-- Without a value an optional field of a record is empty; other fields must have one. -/
def absent? : (t : FieldType) → Option t.Carrier
  | optional _ => some none
  | _ => none

end FieldType

end Listing
