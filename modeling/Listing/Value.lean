import Listing.Json.Decoding
import Listing.Text.Enclosed
import Listing.Time.Reading
import Listing.Uuid

/-!
# Field values

A value is what a filter compares with and what a record holds, once its declared
type no longer matters.

* `Value.compare` orders values of compatible kinds: whole and real numbers with
  each other, texts with the names of choices, and identifiers with texts that
  write one;
* `Value.looselyEquals` is equality across such kinds, carried through lists;
* `Value.display` writes a value the way a statement would;
* `Value.toDoc` and `Value.decoder` exchange values with documents, where times,
  identifiers and choices become texts.  A document does not say which kind of value
  it is: the kinds are tried in turn, and the first that it suits is taken.
-/

namespace Listing

/-- A field value. -/
inductive Value where
  | text (s : String)
  | integer (n : Bounded .signed64)
  | real (x : Double)
  | flag (b : Bool)
  | uuid (u : Uuid)
  /-- A moment of world time. -/
  | instant (m : Moment)
  /-- The name of a choice. -/
  | choice (name : String)
  | list (items : List Value)
  | null
  | document (j : Json)
  deriving Inhabited

namespace Value

/-- The text of a text or a choice. -/
def text? : Value → Option String
  | text s | choice s => some s
  | _ => none

/-- The number of an integer. -/
def integer? : Value → Option (Bounded .signed64)
  | integer n => some n
  | _ => none

/-- The items of a list. -/
def items? : Value → Option (List Value)
  | list items => some items
  | _ => none

/-- The value is null. -/
def isNull : Value → Bool
  | null => true
  | _ => false

/-- A number as a double, in which large integers are rounded. -/
def double? : Value → Option Double
  | integer n => some (.ofInt n.val)
  | real x => some x
  | _ => none

/-! ## Comparison -/

/-- How an identifier compares with a text, if the text writes an identifier. -/
def compareUuid (u : Uuid) (s : String) : Option Ordering :=
  match Uuid.read s with
  | .ok v => some (Ord.compare u v)
  | .error _ => none

/-- How two values compare, if they are of compatible kinds. -/
def compare (a b : Value) : Option Ordering :=
  match a, b with
  | integer m, integer n => some (Ord.compare m.val n.val)
  | flag a, flag b => some (Ord.compare a b)
  | uuid u, uuid v => some (Ord.compare u v)
  | instant a, instant b => some (Ord.compare a b)
  | document a, document b => if a.same b then some .eq else none
  | uuid u, text s | uuid u, choice s => compareUuid u s
  | text s, uuid u | choice s, uuid u => (compareUuid u s).map Ordering.swap
  | text s, text t | text s, choice t | choice s, text t | choice s, choice t =>
    some (Ord.compare s t)
  | a, b =>
    match a.double?, b.double? with
    | some x, some y => x.compare? y
    | _, _ => none

mutual

/-- Equality across compatible kinds; lists are equal item by item. -/
def looselyEquals : Value → Value → Bool
  | list xs, list ys => allEqual xs ys
  | a, b => a.compare b == some .eq

/-- Two lists of equal length with equal items. -/
def allEqual : List Value → List Value → Bool
  | [], [] => true
  | x :: xs, y :: ys => looselyEquals x y && allEqual xs ys
  | _, _ => false

end

/-! ## Texts -/

/-- A double in full, without an exponent. -/
def doubleText : Double → String
  | .nan => "NaN"
  | .number negative code =>
    if code.val = BinaryFormat.double.infinity then Decimal.signed negative "inf"
    else (Shortest.decimal .double .up negative code.val).positional

mutual

/-- A value as a literal of a statement. -/
def display : Value → String
  | text s | choice s => Text.enclosed '\'' s
  | integer n => toString n.val
  | real x => doubleText x
  | flag b => toString b
  | uuid u => "'" ++ u.text ++ "'"
  | instant m => "'" ++ m.offsetText ++ "'"
  | list items => "(" ++ ", ".intercalate (displayAll items) ++ ")"
  | null => "NULL"
  | document j => "'" ++ j.text ++ "'"

/-- The literals of a list. -/
def displayAll : List Value → List String
  | [] => []
  | v :: rest => display v :: displayAll rest

end

/-! ## Documents -/

mutual

/-- The document of a value. -/
def toDoc : Value → Doc
  | text s | choice s => .string s
  | integer n => .number (.whole n.wide)
  | real x => .ofDouble x
  | flag b => .flag b
  | uuid u => .string u.text
  | instant m => .string m.zuluText
  | list items => .list (allToDoc items) none
  | null => .null
  | document j => j.toDoc

/-- The documents of a list. -/
def allToDoc : List Value → List Doc
  | [] => []
  | v :: rest => toDoc v :: allToDoc rest

end

/-- A whole number, rounded if it is beyond the signed ones of 64 bits. -/
def ofInt (n : Int) : Value :=
  if h : IntegerWidth.signed64.Holds n then integer ⟨n, h⟩ else real (.ofInt n)

/-! ## Reading documents -/

/-- Read an identifier from its text. -/
def uuidDecoder : Decoder Uuid := Decoder.parsed "a formatted UUID string" fun s =>
  (Uuid.read s).mapError fun fault => "UUID parsing failed: " ++ fault.message

/-- Read a moment of world time from its text. -/
def instantDecoder : Decoder Moment :=
  Decoder.parsed "an RFC 3339 formatted date and time string" fun s =>
    (Moment.readWorld s).mapError TimeFault.message

/-- What each case of a value makes of a document that has been set aside, in the order in which
the cases are tried; `items` is what is read of the items of a list. -/
def attempts (d : Doc) (items : Except Fault (List Value)) : List (Except Fault Value) :=
  [(Decoder.string .buffer d).map text,
   (Decoder.integer .signed64 .buffer d).map integer,
   (Decoder.double .buffer d).map real,
   (Decoder.flag .buffer d).map flag,
   (uuidDecoder .buffer d).map uuid,
   (instantDecoder .buffer d).map instant,
   (Decoder.string .buffer d).map choice,
   items.map list,
   (Decoder.unit .buffer d).map fun _ => null,
   (Decoder.json .buffer d).map document]

/-- The value of the first attempt that succeeds. -/
def firstSuccess (attempts : List (Except Fault Value)) : Except Fault Value :=
  match attempts.findSome? Except.toOption with
  | some v => .ok v
  | none => Fault.here (.other "data did not match any variant of untagged enum FieldValue")

mutual

/-- Read a document that has been set aside as the first case that it suits. -/
def readUntagged : Doc → Except Fault Value
  | .list ds stop => firstSuccess (attempts (.list ds stop) (readAllUntagged ds))
  | d => firstSuccess (attempts d (Decoder.mismatch d "a sequence"))

/-- Read the items of a list. -/
def readAllUntagged : List Doc → Except Fault (List Value)
  | [] => .ok []
  | d :: rest => do
    let v ← readUntagged d
    return v :: (← readAllUntagged rest)

end

/-- Read a value when no type is declared: the document is set aside as a whole, and then it is
the first case that it suits. -/
def decoder : Decoder Value := fun m d => do
  let _ ← Decoder.json m d
  readUntagged d

end Value

end Listing
