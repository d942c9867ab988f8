import Listing.Json.Decoding

/-!
# Slots

A slot is the state of one field of a filter: unset, a value to compare with, or one
of the two sentinels that ask for null and for anything but null.  Each new state
replaces the one before.  In a document a slot is its value; the other three states
are null there, and null is read as unset.
-/

namespace Listing

/-- The two sentinels. -/
inductive Sentinel where
  | null
  | notNull
  deriving DecidableEq, Repr

/-- The state of a field of a filter. -/
inductive Slot (α : Type) where
  | unset
  | value (a : α)
  | isNull
  | isNotNull
  deriving DecidableEq, Repr

namespace Slot

variable {α β : Type}

/-- The slot asks for nothing. -/
def isUnset : Slot α → Bool
  | unset => true
  | _ => false

/-- The value of a slot that holds one. -/
def value? : Slot α → Option α
  | value a => some a
  | _ => none

/-- The slot with a sentinel on it. -/
def marked : Sentinel → Slot α
  | .null => isNull
  | .notNull => isNotNull

/-- Apply a function to the value. -/
def map (f : α → β) : Slot α → Slot β
  | unset => unset
  | value a => value (f a)
  | isNull => isNull
  | isNotNull => isNotNull

/-- The document of a slot. -/
def encode (value : α → Doc) : Slot α → Doc
  | .value a => value a
  | _ => .null

/-- Read a slot from a document. -/
def decode (value : Decoder α) : Decoder (Slot α) :=
  (Decoder.optional value).map fun
    | some a => .value a
    | none => unset

end Slot

end Listing
