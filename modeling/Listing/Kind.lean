/-!
# Kinds

The kind of a declared field says which predicates make sense on it: texts are
matched by pattern, numbers and times by range, lists by membership, and everything
by equality.
-/

namespace Listing

/-- What a declared field holds. -/
inductive Kind where
  | text
  | number (integral : Bool)
  | flag
  | temporal
  /-- One of several names. -/
  | choice (names : List String)
  /-- A collection of any size. -/
  | collection
  /-- A sequence in one piece. -/
  | array
  | other
  deriving DecidableEq, Repr

/-- Numbers and times are ordered. -/
def Kind.isRangeable : Kind → Bool
  | number _ | temporal => true
  | _ => false

end Listing
