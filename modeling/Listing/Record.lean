import Listing.Declaration

/-!
# Records

A record holds a value for every field of its type and of the types that this one
extends.  Records are stored as documents in a table that their type names, and are
read back from there.
-/

namespace Listing

/-- A field of a record with its value. -/
structure Attribute where
  field : Field
  value : field.type.Carrier

namespace Attribute

/-- The field value. -/
def lowered (a : Attribute) : Value := a.field.type.lower a.value

/-- The member of a document for the field. -/
def encode (a : Attribute) : String × Doc := (a.field.name, a.field.type.encode a.value)

end Attribute

/-- A record: a value for every field of its type and of its ancestors. -/
abbrev Record : Type := Chain Attribute

/-- A type of records, the table that holds them, and how many bytes a record takes up in memory. -/
structure RecordType where
  schema : Schema
  table : String
  size : Nat

namespace RecordType

/-- The declarations of the fields. -/
def declared (t : RecordType) : DeclaredType := t.schema.declared

end RecordType

namespace Record

/-- The field value of the field that a name means. -/
def value? (r : Record) (name : String) : Option Value :=
  (r.find? (·.field.name = name)).map Attribute.lowered

/-- The fields of a record. -/
def schema (r : Record) : Schema := r.map Attribute.field

/-! ## Documents -/

/-- The members of a record, those of the furthest ancestor first. -/
def encode (r : Record) : Doc :=
  .ofMembers (r.levels.reverse.flatMap fun l => l.entries.map Attribute.encode)

/-- A field of a record under construction: its value once it has one. -/
structure Draft where
  field : Field
  value : Option field.type.Carrier

/-- The drafts of fields before anything is known of them: an optional field is empty. -/
def drafts (fields : List Field) : List Draft := fields.map fun f => ⟨f, f.type.absent?⟩

/-- The member that gives the field at a place its value. -/
def memberAt (place : Nat) (field : Field) : Member (List Draft) :=
  ⟨field.name, if field.type.absent?.isSome then .optional else .required,
    (field.type.decode).map fun v ds => ds.set place ⟨field, some v⟩⟩

/-- The members of a level. -/
def members (fields : List Field) : List (Member (List Draft)) :=
  fields.zipIdx.map fun (field, place) => memberAt place field

/-- The attributes of drafts, all of which must have a value. -/
def finish (ds : List Draft) : Except Fault (List Attribute) :=
  ds.mapM fun d =>
    match d.value with
    | some v => .ok ⟨d.field, v⟩
    | none => Fault.here (.missing d.field.name)

/-- Read the attributes of the levels of a type that extends others, each level taking the
members that no level before it has taken. -/
def decodeLevels : List (Level Field) → Medium → Doc → Except Fault (List (Level Attribute))
  | [], _, _ => .ok []
  | l :: rest, m, d => do
    match d with
    | .object entries stop =>
      let f ← Decoder.named (members l.entries) (!rest.isEmpty) (drafts l.entries) m entries stop
      let own ← finish f.state
      let others ← (decodeLevels rest .buffer (.ofMembers f.others)).mapError Fault.placeless
      return ⟨l.typeName, own⟩ :: others
    | d => Decoder.mismatch d s!"struct {l.typeName}"

/-- Read a record of a type.  A type that extends none may also be given as a list. -/
def decode (schema : Schema) : Decoder Record := fun m d =>
  match schema.ancestors with
  | [] => do
    let l := schema.own
    let ds ← Decoder.structured l.typeName (members l.entries) (drafts l.entries) m d
    return .single l.typeName (← finish ds)
  | ancestors => do
    match ← decodeLevels (schema.own :: ancestors) m d with
    | own :: ancestors => return ⟨own, ancestors⟩
    | [] => return .single schema.own.typeName []

end Record

end Listing
