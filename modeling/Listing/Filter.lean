import Listing.Declaration
import Listing.Slot

/-!
# Filters

A filter holds a slot for every field of its type and of the types that this one
extends.  Slots are read and set by name; a name declared more than once on the
chain means the nearest declaration.

* `Filter.slot?` reads a slot as a field value;
* `Filter.assign` and `Filter.mark` set the slot of a name;
* `Filter.encode` and `Filter.decode` exchange filters with documents, in which the
  slots of the ancestors stand on one level with the others.
-/

namespace Listing

/-- A field of a filter with its state. -/
structure Cell where
  field : Field
  slot : Slot field.type.Carrier

namespace Cell

/-- The field with an unset slot. -/
def blank (f : Field) : Cell := ⟨f, .unset⟩

/-- The state of the field in terms of field values. -/
def lowered (c : Cell) : Slot Value := c.slot.map c.field.type.lower

/-- The same field with another state. -/
def holding (c : Cell) (slot : Slot c.field.type.Carrier) : Cell := ⟨c.field, slot⟩

/-- The member of a document for the field. -/
def encode (c : Cell) : String × Doc := (c.field.name, c.slot.encode c.field.type.encode)

end Cell

/-- The state of a filter: a cell for every field of its type and of its ancestors. -/
abbrev Filter : Type := Chain Cell

namespace Filter

/-- The filter of a type with every slot unset. -/
def blank (schema : Schema) : Filter := schema.map Cell.blank

/-- The fields of a filter. -/
def schema (f : Filter) : Schema := f.map Cell.field

/-- The declarations of the fields. -/
def declared (f : Filter) : DeclaredType := f.schema.declared

/-- The cell that a name means. -/
def cell? (f : Filter) (name : String) : Option Cell := f.find? (·.field.name = name)

/-- The state of the field that a name means. -/
def slot? (f : Filter) (name : String) : Option (Slot Value) := (f.cell? name).map Cell.lowered

/-- The filter with another cell where the name is. -/
def replace (f : Filter) (name : String) (cell : Cell) : Filter :=
  f.amend (·.field.name = name) fun _ => cell

/-- Set the slot of a name to what the text of a parameter says; none if the name means
nothing. -/
def assign (f : Filter) (name raw : String) : Except Unreadable (Option Filter) :=
  match f.cell? name with
  | none => .ok none
  | some cell =>
    (cell.field.type.parse raw).map fun v => some (f.replace name (cell.holding (.value v)))

/-- Put a sentinel on the slot of a name; none if the name means nothing. -/
def mark (f : Filter) (name : String) (sentinel : Sentinel) : Option Filter :=
  (f.cell? name).map fun cell => f.replace name (cell.holding (.marked sentinel))

/-! ## Documents -/

/-- The members of a filter, those of the furthest ancestor first. -/
def encode (f : Filter) : Doc :=
  .ofMembers (f.levels.reverse.flatMap fun l => l.entries.map Cell.encode)

/-- The members of a level under construction, one for each of its cells. -/
def memberAt (place : Nat) (field : Field) : Member (List Cell) :=
  ⟨field.name, .defaulted, (Slot.decode field.type.decode).map fun slot cells =>
    cells.set place ⟨field, slot⟩⟩

/-- The members of a level. -/
def members (fields : List Field) : List (Member (List Cell)) :=
  fields.zipIdx.map fun (field, place) => memberAt place field

/-- Read the cells of the levels of a type that extends others, each level taking the
members that no level before it has taken. -/
def decodeLevels : List (Level Field) → Medium → Doc → Except Fault (List (Level Cell))
  | [], _, _ => .ok []
  | l :: rest, m, d => do
    let start := l.entries.map Cell.blank
    match d with
    | .object entries stop =>
      let f ← Decoder.named (members l.entries) (!rest.isEmpty) start m entries stop
      let others ← (decodeLevels rest .buffer (.ofMembers f.others)).mapError Fault.placeless
      return ⟨l.typeName, f.state⟩ :: others
    | d => Decoder.mismatch d s!"struct {l.typeName}"

/-- Read a filter of a type.  A type that extends none may also be given as a list. -/
def decode (schema : Schema) : Decoder Filter := fun m d =>
  match schema.ancestors with
  | [] =>
    let l := schema.own
    (Decoder.structured l.typeName (members l.entries) (l.entries.map Cell.blank) m d).map
      (Chain.single l.typeName ·)
  | ancestors => do
    match ← decodeLevels (schema.own :: ancestors) m d with
    | own :: ancestors => return ⟨own, ancestors⟩
    | [] => return blank schema

end Filter

end Listing
