import Listing.Classification
import Listing.Criteria
import Listing.Filter
import Listing.Options
import Listing.Range
import Listing.Value.Reading

/-!
# Compilation

A filter and a map of ranges are compiled into criteria.  Every visible field of the
filter contributes at most one criterion, in the order of declaration; then every
range contributes at most one, in the order of names.

* `compileField` decides what the state of one field asks for;
* `compileRanges` resolves ranges against the fields of the records, passes over
  identifiers, and reads textual bounds as numbers or times where the field has them.
-/

namespace Listing

/-- What compilation sees of a filter: its declarations, and the states of its fields by
name.  A state that cannot be read counts for nothing. -/
structure FilterView where
  declared : DeclaredType
  slot? : String → Option (Slot Value)

/-- What compilation sees of a filter. -/
def Filter.view (f : Filter) : FilterView := ⟨f.declared, f.slot?⟩

/-- What a value on a field that is no identifier asks for.  Texts on textual fields are
looked for inside the stored text, the names of choices are compared as texts, and an
empty list or text asks for nothing. -/
def compileValue (field : FieldDescriptor) (options : FilterOptions) (value : Value) :
    Option Criterion :=
  match value with
  | .list values => if values.isEmpty then none else some (.isIn field.name values)
  | .choice name => some (.equals field.name (.text name))
  | .text s =>
    match field.kind with
    | .choice _ => some (.equals field.name (.text s))
    | .text =>
      if s = "" then none else some (.like field.name ("%" ++ s ++ "%") options.ignoreCase)
    | _ => if s = "" then none else some (.equals field.name (.text s))
  | value => some (.equals field.name value)

/-- What the state of a field asks for.  A sentinel is obeyed on every field, a value on an
identifier only where the field is marked for it. -/
def compileField (field : FieldDescriptor) (slot : Slot Value) (options : FilterOptions) :
    Option Criterion :=
  match slot with
  | .isNull => some (.isNull field.name)
  | .isNotNull => some (.isNotNull field.name)
  | .unset | .value .null => none
  | .value value =>
    if field.isIdentifier then
      if field.isFilterableIdentifier then some (.equals field.name value) else none
    else compileValue field options value

/-- The criteria of a filter. -/
def compileFilters (filter : FilterView) (options : FilterOptions) : Criteria :=
  (classify filter.declared options.inherited).filterMap fun field =>
    (filter.slot? field.name).bind fun slot => compileField field slot options

/-- A textual bound on a field with ordered values is read as one, if it can be. -/
def coerceBound (kind : Option Kind) (value : Value) : Value :=
  match kind, value with
  | some kind, .text raw =>
    if kind.isRangeable then
      match Value.parseAs kind raw with
      | .ok v => v
      | .error _ => value
    else value
  | _, _ => value

/-- A bound that is there and not null. -/
def bound? (kind : Option Kind) (value : Option Value) : Option Value :=
  (value.filter (!·.isNull)).map (coerceBound kind)

/-- What a range asks for. -/
def compileRange (name : String) (range : Range) (kind : Option Kind) : Option Criterion :=
  match bound? kind range.low, bound? kind range.high with
  | some low, some high => some (.between name low high)
  | some value, none => some (.atLeast name value)
  | none, some value => some (.atMost name value)
  | none, none => none

/-- The criteria of ranges on records of a type.  A name that no visible field has is taken
as it is. -/
def compileRanges (entity : DeclaredType) (ranges : RangeFilter) : Criteria :=
  let fields := classify entity true
  ranges.ranges.entries.filterMap fun (name, range) =>
    let descriptor := fields.find? (·.name = name)
    if descriptor.any (·.isIdentifier) then none
    else compileRange name range (descriptor.map (·.kind))

/-- The criteria of a filter and of ranges, either of which may be missing. -/
def compile (filter : Option FilterView) (ranges : Option RangeFilter) (entity : DeclaredType)
    (options : FilterOptions) : Criteria :=
  (filter.map (compileFilters · options)).getD [] ++
    (ranges.map (compileRanges entity)).getD []

end Listing
