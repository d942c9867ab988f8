import Listing.Value

/-!
# Ranges

A range bounds a field from below, from above, or on both sides; the bounds belong
to it.  A request carries ranges for any number of fields, sorted by name.
-/

namespace Listing

/-- The bounds on a field. -/
structure Range where
  low : Option Value
  high : Option Value

namespace Range

/-- No bound. -/
def unbounded : Range := ⟨none, none⟩

/-- The document of a bound. -/
def boundDoc : Option Value → Doc
  | some v => v.toDoc
  | none => .null

/-- The document of a range. -/
def toDoc (r : Range) : Doc := .ofMembers [("from", boundDoc r.low), ("to", boundDoc r.high)]

/-- Read a range. -/
def decoder : Decoder Range :=
  Decoder.structured "Range"
    [.setting "from" .defaulted (Decoder.optional Value.decoder) fun v r => { r with low := v },
     .setting "to" .defaulted (Decoder.optional Value.decoder) fun v r => { r with high := v }]
    unbounded

end Range

/-- A map of fields to ranges. -/
structure RangeFilter where
  ranges : Keyed Range

/-- Decode the members of an object into a sorted list; the last with a name counts. -/
def Decoder.keyed {α : Type} (decoder : Decoder α) : Decoder (Keyed α) := fun m d =>
  match d with
  | .object entries stop => do
    let read (kept : Keyed α) : String × Doc → Except Fault (Keyed α)
      | (_, .unnamed cause _) => .error (.malformed cause)
      | (name, held) => do return kept.insert name (← within (.member name) (decoder m held))
    let kept ← entries.foldlM read Keyed.empty
    Fault.stopping stop
    return kept
  | d => mismatch d "a map"

namespace RangeFilter

/-- No ranges. -/
def empty : RangeFilter := ⟨.empty⟩

/-- Set the range of a field. -/
def insert (r : RangeFilter) (field : String) (range : Range) : RangeFilter :=
  ⟨r.ranges.insert field range⟩

/-- The range of a field, unbounded if there is none. -/
def get (r : RangeFilter) (field : String) : Range := (r.ranges.get? field).getD .unbounded

/-- The document of ranges. -/
def toDoc (r : RangeFilter) : Doc :=
  .ofMembers [("ranges",
    .ofMembers (r.ranges.entries.map fun (name, range) => (name, range.toDoc)))]

/-- Read ranges. -/
def decoder : Decoder RangeFilter :=
  Decoder.structured "RangeFilter"
    [.setting "ranges" .defaulted (Decoder.keyed Range.decoder) fun ranges _ => ⟨ranges⟩]
    empty

end RangeFilter

end Listing
