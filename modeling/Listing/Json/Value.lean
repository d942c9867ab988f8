import Listing.Keyed
import Listing.Number.Binary

/-!
# JSON values

A JSON value as data, whatever its text was: numbers are whole numbers of 64 bits or
finite double-precision numbers, and the members of an object are sorted by name,
each name once.

* `Json.same` is the equality of values, for which the two noughts are one number
  and a whole number differs from every real one;
* `Json.ofMembers` makes an object of members in any order, the last of a name
  counting.
-/

namespace Listing

/-- The whole numbers that a document can hold exactly: those of 64 bits, signed or not. -/
abbrev Wide : Type := { n : Int // -9223372036854775808 ≤ n ∧ n < 18446744073709551616 }

/-- A number of a document. -/
inductive Json.Number where
  | whole (n : Wide)
  | real (x : Double) (finite : x.isFinite = true)

/-- A JSON value. -/
inductive Json where
  | null
  | flag (b : Bool)
  | number (n : Json.Number)
  | string (s : String)
  | array (items : List Json)
  | object (members : List (String × Json))
  deriving Inhabited

namespace Json

/-- The equality of numbers. -/
def Number.same : Number → Number → Bool
  | whole m, whole n => m.val == n.val
  | real x _, real y _ => x.compare? y == some .eq
  | _, _ => false

mutual

/-- The equality of values. -/
def same : Json → Json → Bool
  | null, null => true
  | flag a, flag b => a == b
  | number m, number n => m.same n
  | string s, string t => s == t
  | array xs, array ys => sameItems xs ys
  | object xs, object ys => sameMembers xs ys
  | _, _ => false

/-- The equality of lists of values. -/
def sameItems : List Json → List Json → Bool
  | [], [] => true
  | x :: xs, y :: ys => same x y && sameItems xs ys
  | _, _ => false

/-- The equality of lists of members. -/
def sameMembers : List (String × Json) → List (String × Json) → Bool
  | [], [] => true
  | (k, x) :: xs, (l, y) :: ys => k == l && same x y && sameMembers xs ys
  | _, _ => false

end

/-- An object of members in any order, of which the last with a name counts. -/
def ofMembers (members : List (String × Json)) : Json :=
  object (members.foldl (fun ms m => insertEntry m.1 m.2 ms) [])

/-- A whole number as a double. -/
def Number.toDouble : Number → Double
  | whole n => .ofInt n.val
  | real x _ => x

/-- A finite double as a value, anything else as null. -/
def ofDouble (x : Double) : Json :=
  if h : x.isFinite = true then number (.real x h) else null

end Json

end Listing
