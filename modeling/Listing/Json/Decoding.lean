import Listing.Json.Printing
import Listing.Json.Reading
import Listing.Number.Integer
import Listing.Text.Literal

/-!
# Typed readings of documents

A decoder takes a document apart from front to back into a value of some type.  It
stops at the first thing wrong, which is either that the text is not JSON or that
what it says does not suit the type; in the latter case the fault says where.

* `Decoder.integer`, `Decoder.list`, … are the decoders of plain values;
* `Member` and `Decoder.structured` are those of structures, whose members come in
  any order by name, or all in order without names.
-/

namespace Listing

/-- Where a document comes from.  It decides how a list with too many items is refused. -/
inductive Medium where
  /-- Straight from a text. -/
  | text
  /-- From a part of a text that was set aside as a whole. -/
  | buffer
  /-- From a stored value. -/
  | tree
  deriving DecidableEq, Repr

/-- One step on the way into a document. -/
inductive Step where
  | member (name : String)
  | item (place : Nat)
  deriving DecidableEq, Repr

/-- The steps on the way into a document, the outermost first. -/
abbrev Path : Type := List Step

/-- The steps with points between them. -/
def Path.text : Path → String
  | [] => ""
  | .item i :: rest => s!"[{i}]" ++ after rest
  | .member name :: rest => name ++ after rest
where
  /-- The steps behind another one. -/
  after : Path → String
  | [] => ""
  | .item i :: rest => s!"[{i}]" ++ after rest
  | .member name :: rest => "." ++ name ++ after rest

/-- Why what a document says does not suit a type. -/
inductive Unsuitable where
  | type (found expected : String)
  | value (found expected : String)
  | length (found : Nat) (expected : String)
  | variant (found : String) (known : List String)
  | missing (name : String)
  | duplicate (name : String)
  | other (message : String)
  deriving DecidableEq, Repr

/-- The alternatives of a choice. -/
def alternatives (names : List String) : String :=
  match names.map fun n => s!"`{n}`" with
  | [] => "there are no variants"
  | [a] => s!"expected {a}"
  | [a, b] => s!"expected {a} or {b}"
  | names => "expected one of " ++ ", ".intercalate names

/-- The wording of an unsuitable document. -/
def Unsuitable.message : Unsuitable → String
  | type found expected => s!"invalid type: {found}, expected {expected}"
  | value found expected => s!"invalid value: {found}, expected {expected}"
  | length found expected => s!"invalid length {found}, expected {expected}"
  | variant found known => s!"unknown variant `{found}`, {alternatives known}"
  | missing name => s!"missing field `{name}`"
  | duplicate name => s!"duplicate field `{name}`"
  | other message => message

/-- Why a document could not be decoded. -/
inductive Fault where
  | malformed (cause : Malformation)
  | unsuitable (path : Path) (cause : Unsuitable)
  deriving DecidableEq, Repr

namespace Fault

/-- The same fault seen from one step further out. -/
def under (step : Step) : Fault → Fault
  | unsuitable path cause => unsuitable (step :: path) cause
  | fault => fault

/-- The same fault without its place. -/
def placeless : Fault → Fault
  | unsuitable _ cause => unsuitable [] cause
  | fault => fault

/-- The wording of a fault, without its place. -/
def message : Fault → String
  | malformed cause => cause.message
  | unsuitable _ cause => cause.message

/-- An unsuitable document right here. -/
def here {α : Type} (cause : Unsuitable) : Except Fault α := .error (unsuitable [] cause)

/-- Fail if there is a malformation. -/
def stopping (stop : Option Malformation) : Except Fault Unit :=
  match stop with
  | some cause => .error (malformed cause)
  | none => .ok ()

end Fault

/-- Decode inside a part, so that faults say which. -/
def within {α : Type} (step : Step) (outcome : Except Fault α) : Except Fault α :=
  outcome.mapError (·.under step)

/-- What a fault says was found. -/
def Doc.found : Doc → Except Fault String
  | null => .ok "null"
  | flag b => .ok s!"boolean `{b}`"
  | number (.whole n) => .ok s!"integer `{n.val}`"
  | number (.real x _) => .ok s!"floating point `{Json.doubleText x}`"
  | single x _ => .ok s!"floating point `{Json.singleText x}`"
  | string s => .ok s!"string {Text.quoted s}"
  | list _ _ => .ok "sequence"
  | object _ _ => .ok "map"
  | refused cause _ => .error (.malformed cause)
  | unnamed cause _ => .error (.malformed cause)
  | broken cause => .error (.malformed cause)

/-- An integer of any width is a whole number that a document can hold. -/
def Bounded.wide {w : IntegerWidth} (n : Bounded w) : Wide :=
  ⟨n.val, by
    have h := n.property
    cases w <;> simp only [IntegerWidth.Holds, IntegerWidth.least, IntegerWidth.greatest] at h <;>
      omega⟩

/-- A reading of documents as values of a type. -/
abbrev Decoder (α : Type) : Type := Medium → Doc → Except Fault α

namespace Decoder

variable {α β : Type}

/-- A document of another type than the expected one. -/
def mismatch (d : Doc) (expected : String) : Except Fault α := do
  Fault.here (.type (← d.found) expected)

/-- Apply a function to what is decoded. -/
def map (f : α → β) (decoder : Decoder α) : Decoder β := fun m d => (decoder m d).map f

/-! ## Plain values -/

/-- A boolean. -/
def flag : Decoder Bool := fun _ d =>
  match d with
  | .flag b => .ok b
  | d => mismatch d "a boolean"

/-- A text. -/
def string : Decoder String := fun _ d =>
  match d with
  | .string s => .ok s
  | d => mismatch d "a string"

/-- A text that is read further; a fault of that reading has its own wording. -/
def parsed (expected : String) (read : String → Except String α) : Decoder α := fun _ d =>
  match d with
  | .string s =>
    match read s with
    | .ok a => .ok a
    | .error message => Fault.here (.other message)
  | d => mismatch d expected

/-- An integer of a width. -/
def integer (w : IntegerWidth) : Decoder (Bounded w) := fun _ d =>
  match d with
  | .number (.whole n) =>
    if h : w.Holds n.val then .ok ⟨n.val, h⟩
    else Fault.here (.value s!"integer `{n.val}`" w.label)
  | d => mismatch d w.label

/-- A double; whole numbers are rounded. -/
def double : Decoder Double := fun _ d =>
  match d with
  | .number (.whole n) => .ok (.ofInt n.val)
  | .number (.real x _) => .ok x
  | .single x _ => .ok x.convert
  | d => mismatch d "f64"

/-- A single; other numbers are rounded. -/
def single : Decoder Single := fun _ d =>
  match d with
  | .number (.whole n) => .ok (.ofInt n.val)
  | .number (.real x _) => .ok x.convert
  | .single x _ => .ok x
  | d => mismatch d "f32"

/-- Any value. -/
def json : Decoder Json := fun _ d => d.toJson.mapError .malformed

/-- Null or something. -/
def optional (decoder : Decoder α) : Decoder (Option α) := fun m d =>
  match d with
  | .null => .ok none
  | d => (decoder m d).map some

/-! ## Lists -/

/-- Decode items, the first of which has the given place. -/
def items (decoder : Decoder α) (medium : Medium) : (place : Nat) → List Doc → Except Fault (List α)
  | _, [] => .ok []
  | place, d :: rest => do
    let a ← within (.item place) (decoder medium d)
    return a :: (← items decoder medium (place + 1) rest)

/-- A list of any length. -/
def list (decoder : Decoder α) : Decoder (List α) := fun m d =>
  match d with
  | .list ds stop => do
    let as ← items decoder m 0 ds
    Fault.stopping stop
    return as
  | d => mismatch d "a sequence"

/-- A number of elements. -/
def elements (n : Nat) : String := if n = 1 then "1 element" else s!"{n} elements"

/-- A list that has been decoded up to its `taken`th item must end there. -/
def ending (m : Medium) (taken total : Nat) (stop : Option Malformation) : Except Fault Unit :=
  if total ≤ taken then Fault.stopping stop
  else match m with
    | .text => .error (.malformed .trailingText)
    | .buffer => Fault.here (.length total (elements taken ++ " in sequence"))
    | .tree => Fault.here (.length total "fewer elements in array")

/-- How a list of a fixed length is called. -/
def arrayName (n : Nat) : String := if n = 0 then "an empty array" else s!"an array of length {n}"

/-- A list of exactly `n` items. -/
def tuple (decoder : Decoder α) (n : Nat) : Decoder { as : List α // as.length = n } := fun m d =>
  match d with
  | .list ds stop => do
    let as ← items decoder m 0 (ds.take n)
    if h : as.length = n then
      ending m n ds.length stop
      return ⟨as, h⟩
    else
      Fault.stopping stop
      Fault.here (.length as.length (arrayName n))
  | d => mismatch d (arrayName n)

/-! ## Choices -/

/-- The place of a name among the known ones. -/
def choiceNamed (names : List String) (name : String) : Except Fault (Fin names.length) :=
  match names.finIdxOf? name with
  | some i => .ok i
  | none => Fault.here (.variant name names)

/-- Nothing but null. -/
def unit : Decoder Unit := fun _ d =>
  match d with
  | .null => .ok ()
  | d => mismatch d "unit"

/-- One of several names, alone or as the name of the only member of an object that holds
null. -/
def choice (names : List String) : Decoder (Fin names.length) := fun m d =>
  match d with
  | .string s => choiceNamed names s
  | .object [] stop =>
    match m with
    | .text => .error (.malformed (stop.getD .valueExpected))
    | _ => Fault.here (.value "map" "map with a single key")
  | .object ((name, held) :: rest) stop =>
    if m = .text ∨ rest.isEmpty then do
      match held with
      | .unnamed cause _ => .error (.malformed cause)
      | _ =>
        let i ← choiceNamed names name
        within (.member name) (unit m held)
        if rest.isEmpty then Fault.stopping stop else .error (.malformed .valueExpected)
        return i
    else Fault.here (.value "map" "map with a single key")
  | d =>
    match m with
    | .text => do
      let _ ← d.found
      .error (.malformed .valueExpected)
    | _ => mismatch d "string or map"

end Decoder

/-! ## Structures -/

/-- What a structure without a member does. -/
inductive Presence where
  /-- The member must be there. -/
  | required
  /-- Without the member the structure keeps what it starts with, unless its members come
  without names. -/
  | optional
  /-- Without the member the structure keeps what it starts with. -/
  | defaulted
  deriving DecidableEq, Repr

/-- A member of a structure under construction. -/
structure Member (σ : Type) where
  name : String
  presence : Presence
  read : Decoder (σ → σ)

/-- A member that sets a part of the structure. -/
def Member.setting {σ α : Type} (name : String) (presence : Presence) (decoder : Decoder α)
    (set : α → σ → σ) : Member σ := ⟨name, presence, decoder.map set⟩

/-- A structure under construction, with the names of the members it has and the members
that are none of its own. -/
structure Filling (σ : Type) where
  state : σ
  seen : List String
  others : List (String × Doc)

namespace Decoder

variable {σ : Type}

/-- Pass over a member that is not decoded here.  If it is set aside for later, it must have
a value. -/
def passOver (settingAside : Bool) (d : Doc) : Except Fault Unit :=
  if settingAside then do
    let _ ← json .text d
  else Fault.stopping d.malformation?

/-- Take one member in. -/
def takeMember (members : List (Member σ)) (settingAside : Bool) (m : Medium) (f : Filling σ) :
    String × Doc → Except Fault (Filling σ)
  | (_, .unnamed cause _) => .error (.malformed cause)
  | (name, d) =>
    match members.find? (·.name == name) with
    | some member =>
      if name ∈ f.seen then Fault.here (.duplicate name)
      else do
        let set ← within (.member name) (member.read m d)
        return { f with state := set f.state, seen := name :: f.seen }
    | none => do
      passOver settingAside d
      return { f with others := f.others ++ [(name, d)] }

/-- No required member is missing. -/
def complete (members : List (Member σ)) (seen : List String) : Except Fault Unit :=
  match members.find? fun m => m.presence = .required ∧ m.name ∉ seen with
  | some m => Fault.here (.missing m.name)
  | none => .ok ()

/-- Take members in by name. -/
def named (members : List (Member σ)) (settingAside : Bool) (start : σ) (m : Medium)
    (entries : List (String × Doc)) (stop : Option Malformation) : Except Fault (Filling σ) := do
  let f ← entries.foldlM (takeMember members settingAside m) ⟨start, [], []⟩
  Fault.stopping stop
  complete members f.seen
  return f

/-- Take members in by their order, the first of which has the given place. -/
def ordered (name : String) (total : Nat) (m : Medium) (stop : Option Malformation) :
    (place : Nat) → List (Member σ) → List Doc → σ → Except Fault σ
  | _, [], _, state => .ok state
  | place, member :: members, [], state => do
    Fault.stopping stop
    if member.presence = .defaulted then
      ordered name total m stop (place + 1) members [] state
    else Fault.here (.length place s!"struct {name} with {elements total}")
  | place, member :: members, d :: ds, state => do
    let set ← within (.item place) (member.read m d)
    ordered name total m stop (place + 1) members ds (set state)

/-- A structure, as an object or as a list of its members in order. -/
def structured (name : String) (members : List (Member σ)) (start : σ) : Decoder σ := fun m d =>
  match d with
  | .object entries stop => (named members false start m entries stop).map (·.state)
  | .list ds stop => do
    let state ← ordered name members.length m stop 0 members ds start
    ending m members.length ds.length stop
    return state
  | d => mismatch d s!"struct {name}"

end Decoder

/-- Decode a whole text. -/
def Decoder.fromText {α : Type} (decoder : Decoder α) (s : String) : Except Fault α := do
  let (d, stop) := Doc.read s
  let a ← decoder .text d
  Fault.stopping stop
  return a

/-- Decode a stored value. -/
def Decoder.fromTree {α : Type} (decoder : Decoder α) (j : Json) : Except Fault α :=
  decoder .tree j.toDoc

end Listing
