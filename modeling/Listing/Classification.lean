import Listing.Declaration

/-!
# Classification of fields

Which predicates a field accepts follows from its declaration and its name.  A field
called `id`, or with a name that ends like one of an identifier, is an identifier:
it is never matched by pattern or range, and by value only if it is marked for that.
Transient fields and the markers of serialized versions are no fields at all for
filters.

* `classify` lists the classified fields of a type, with those of its ancestors on
  request;
* `findField` is the first of them with a name.
-/

namespace Listing

/-- What classification finds out about a field. -/
structure FieldDescriptor where
  name : String
  kind : Kind
  isPrimaryIdentifier : Bool
  isFilterableIdentifier : Bool
  isIdLikeByName : Bool
  isRangeable : Bool
  deriving DecidableEq, Repr

/-- A name that ends in `Id` or `_id` and consists of more than that. -/
def hasIdSuffix (name : String) : Bool :=
  let cs := name.toList
  (['I', 'd'].isSuffixOf cs && 2 < cs.length) || (['_', 'i', 'd'].isSuffixOf cs && 3 < cs.length)

/-- A name that identifiers have. -/
def isIdLike (name : String) : Bool := name = "id" || hasIdSuffix name

namespace FieldDescriptor

/-- Classify a declared field. -/
def ofDeclaration (d : Declaration) : FieldDescriptor where
  name := d.name
  kind := d.kind
  isPrimaryIdentifier :=
    d.has .primaryId || d.name = "id" || (hasIdSuffix d.name && !d.has .filterableId)
  isFilterableIdentifier := d.has .filterableId
  isIdLikeByName := isIdLike d.name
  isRangeable := d.kind.isRangeable

/-- The field identifies a record, this one or another one. -/
def isIdentifier (f : FieldDescriptor) : Bool := f.isPrimaryIdentifier || f.isIdLikeByName

/-- The kind and the name of the field allow ranges. -/
def acceptsRange (f : FieldDescriptor) : Bool := f.isRangeable && !f.isIdLikeByName

end FieldDescriptor

/-- The names under which types mark the version of their serialized form. -/
def versionMarkers : List String := ["serialVersionUID", "serial_version_uid"]

/-- The field is no field for filters. -/
def Declaration.isExcluded (d : Declaration) : Bool :=
  d.has .transient || versionMarkers.contains d.name

/-- Classify declared fields, without the excluded ones. -/
def classifyAll (ds : List Declaration) : List FieldDescriptor :=
  (ds.filter (!·.isExcluded)).map .ofDeclaration

/-- The classified fields of a type, and on request those of its ancestors after them. -/
def classify (t : DeclaredType) (inherited : Bool) : List FieldDescriptor :=
  classifyAll (t.upTo inherited)

/-- The first classified field with a name. -/
def findField (t : DeclaredType) (name : String) (inherited : Bool) : Option FieldDescriptor :=
  (classify t inherited).find? (·.name = name)

end Listing
