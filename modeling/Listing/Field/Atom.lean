import Listing.Sorted
import Listing.Value.Reading

/-!
# Ordered scalar types

The scalar types whose values have a total order of their own, so that sets of them
can be kept sorted.  Every value has a key, a list of integers, and the order of the
values is the lexicographic order of the keys.

* `Atom.lower` turns a value of an atom into a field value;
* `Atom.parse` reads one from a parameter, `Atom.decode` from a document;
* `Atom.Set` is a set of values, sorted.
-/

namespace Listing

/-- An ordered scalar type. -/
inductive Atom where
  | integer (w : IntegerWidth)
  | text
  | flag
  | uuid
  /-- A moment of world time. -/
  | instant
  /-- A moment of the time of some place. -/
  | localTime
  | date
  /-- One of several names. -/
  | choice (names : List String)
  deriving DecidableEq, Repr

namespace Atom

/-- The values of a scalar type. -/
abbrev Carrier : Atom → Type
  | integer w => Bounded w
  | text => String
  | flag => Bool
  | uuid => Uuid
  | instant => Moment
  | localTime => Moment
  | date => Date
  | choice names => Fin names.length

/-- What kind of values a scalar type has. -/
def kind : Atom → Kind
  | integer _ => .number true
  | text => .text
  | flag => .flag
  | uuid => .other
  | instant | localTime | date => .temporal
  | choice names => .choice names

/-! ## Order -/

/-- The key by which values are ordered; two values have one key only if they are equal. -/
def key : (a : Atom) → a.Carrier → List Int
  | integer _, n => [n.val]
  | text, s => s.toList.map fun c => (c.toNat : Int)
  | flag, b => [if b then 1 else 0]
  | uuid, u => u.key
  | instant, m => m.key
  | localTime, m => m.key
  | date, d => d.key
  | choice _, i => [(i.val : Int)]

/-- The order of the values. -/
def compare (a : Atom) (x y : a.Carrier) : Ordering := Ord.compare (a.key x) (a.key y)

instance (a : Atom) : Std.TransCmp a.compare where
  eq_swap := Std.OrientedOrd.eq_swap
  isLE_trans := Std.TransOrd.isLE_trans

/-! ## Field values -/

/-- The field value of a value. -/
def lower : (a : Atom) → a.Carrier → Value
  | integer _, n => .ofInt n.val
  | text, s => .text s
  | flag, b => .flag b
  | uuid, u => .uuid u
  | instant, m => .instant m
  | localTime, m => .instant m
  | date, d => .instant (.startOf d)
  | choice names, i => .choice names[i]

/-! ## Parameters -/

/-- Read a value from a parameter.  Texts are taken as they are; for the others blanks
around the text do not count. -/
def parse : (a : Atom) → String → Except Unreadable a.Carrier
  | integer w, raw => (w.read (Text.trim raw)).mapError (.integer raw)
  | text, raw => .ok raw
  | flag, raw =>
    match readFlag? (Text.trim raw) with
    | some b => .ok b
    | none => .error (.flag raw)
  | uuid, raw => (Uuid.read (Text.trim raw)).mapError (.uuid raw)
  | instant, raw => readMoment (Text.trim raw)
  | localTime, raw => readMoment (Text.trim raw)
  | date, raw => (Date.readPlain (Text.trim raw)).mapError (.date raw)
  | choice names, raw =>
    let name := Text.trim raw
    match names.finIdxOf? name with
    | some i => .ok i
    | none => .error (.choice name names)
where
  /-- Read a moment in any form. -/
  readMoment (raw : String) : Except Unreadable Moment :=
    match Moment.readAny? raw with
    | some m => .ok m
    | none => .error (.moment raw)

/-! ## Documents -/

/-- The document of a value. -/
def encode : (a : Atom) → a.Carrier → Doc
  | integer _, n => .number (.whole n.wide)
  | text, s => .string s
  | flag, b => .flag b
  | uuid, u => .string u.text
  | instant, m => .string m.zuluText
  | localTime, m => .string m.localText
  | date, d => .string d.text
  | choice names, i => .string names[i]

/-- Read a value from a document. -/
def decode : (a : Atom) → Decoder a.Carrier
  | integer w => Decoder.integer w
  | text => Decoder.string
  | flag => Decoder.flag
  | uuid => Value.uuidDecoder
  | instant => Value.instantDecoder
  | localTime => Decoder.parsed "a formatted date and time string" fun s =>
      (Moment.readLocal s).mapError TimeFault.message
  | date => Decoder.parsed "a formatted date string" fun s =>
      (Date.readLoose s).mapError TimeFault.message
  | choice names => Decoder.parsed "a string" fun s =>
      match names.finIdxOf? s with
      | some i => .ok i
      | none => .error (Unreadable.choice s names).message

/-! ## Sets -/

/-- A set of values, in increasing order. -/
abbrev Set (a : Atom) : Type := Sorted a.compare

end Atom

end Listing
