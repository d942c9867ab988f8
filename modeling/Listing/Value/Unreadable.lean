import Listing.Number.Decimal
import Listing.Number.Integer
import Listing.Text.Literal
import Listing.Time.Reading
import Listing.Uuid

/-!
# Unreadable parameters

Why the text of a parameter is no value of a type, and how that is said.
-/

namespace Listing

/-- Why a text is no value of a type. -/
inductive Unreadable where
  | integer (raw : String) (fault : IntegerFault)
  | number (raw : String) (fault : DecimalFault)
  | flag (raw : String)
  | moment (raw : String)
  | date (raw : String) (fault : TimeFault)
  | uuid (raw : String) (fault : Uuid.Fault)
  /-- None of the names of a choice. -/
  | choice (raw : String) (names : List String)
  /-- Too many or too few values. -/
  | count (expected found : Nat)
  deriving DecidableEq, Repr

/-- The wording. -/
def Unreadable.message : Unreadable → String
  | integer raw fault => s!"'{raw}' is not an integer: " ++ fault.message
  | number raw fault => s!"'{raw}' is not a number: " ++ fault.message
  | flag raw => s!"'{raw}' is not a boolean: provided string was not `true` or `false`"
  | moment raw => s!"'{raw}' is not a date-time"
  | date raw fault => s!"'{raw}' is not a date: " ++ fault.message
  | uuid raw fault => s!"'{raw}' is not a UUID: " ++ fault.message
  | choice raw names => s!"'{raw}' is not one of " ++ Text.quotedList names
  | count expected found => s!"expected {expected} comma-separated values, got {found}"

/-- Read one of the two truth values. -/
def readFlag? (s : String) : Option Bool :=
  if s = "true" then some true else if s = "false" then some false else none

end Listing
