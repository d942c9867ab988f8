import Listing.Chain
import Listing.Field.FieldType

/-!
# Declarations

A field is declared with a name, a type and markers.  What classification and
documentation need to know of it is its declaration: the name, the kind and the
markers.
-/

namespace Listing

/-- What can be said of a field when it is declared. -/
inductive Marker where
  /-- The field identifies the record. -/
  | primaryId
  /-- The field is an identifier but may be filtered by exact value. -/
  | filterableId
  /-- The field is neither filtered nor documented. -/
  | transient
  deriving DecidableEq, Repr

/-- The name, kind and markers of a field. -/
structure Declaration where
  name : String
  kind : Kind
  markers : List Marker
  deriving DecidableEq, Repr

/-- The field carries a marker. -/
def Declaration.has (d : Declaration) (m : Marker) : Bool := d.markers.contains m

/-- A field of a filter or a record. -/
structure Field where
  name : String
  type : FieldType
  markers : List Marker
  deriving DecidableEq, Repr

/-- The declaration of a field. -/
def Field.declaration (f : Field) : Declaration := ⟨f.name, f.type.kind, f.markers⟩

/-- The declarations of a type and its ancestors. -/
abbrev DeclaredType : Type := Chain Declaration

/-- The fields of a type and its ancestors. -/
abbrev Schema : Type := Chain Field

/-- The declarations of the fields of a schema. -/
def Schema.declared (s : Schema) : DeclaredType := s.map Field.declaration

end Listing
