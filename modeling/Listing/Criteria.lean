import Listing.Pattern.Expression
import Listing.Record

/-!
# Criteria

A criterion is a predicate on one field, and criteria are a conjunction of them; the
empty conjunction holds of every record.

* `Criterion.holds` tells whether a criterion holds of a stored value;
* `Criteria.matcher` prepares criteria for many records, reading every pattern once;
* `Criteria.display` and `Criteria.toDoc` show them as a condition and as a document.
-/

namespace Listing

/-- A predicate on one field. -/
inductive Criterion where
  | equals (field : String) (value : Value)
  /-- The text of the field suits a pattern. -/
  | like (field pattern : String) (ignoreCase : Bool)
  /-- The field, or one of its items, is one of several values. -/
  | isIn (field : String) (values : List Value)
  | between (field : String) (low high : Value)
  | atLeast (field : String) (value : Value)
  | atMost (field : String) (value : Value)
  | isNull (field : String)
  | isNotNull (field : String)

namespace Criterion

/-- The field that a criterion is about. -/
def field : Criterion → String
  | equals f _ | like f _ _ | isIn f _ | between f _ _ | atLeast f _ | atMost f _
  | isNull f | isNotNull f => f

/-- The pattern of a criterion that has one. -/
def pattern? : Criterion → Option Pattern
  | like _ pattern ignoreCase => Pattern.compile? pattern ignoreCase
  | _ => none

/-- The first value is at least the second. -/
def notBelow (a b : Value) : Bool :=
  match a.compare b with
  | some .gt | some .eq => true
  | _ => false

/-- The first value is at most the second. -/
def notAbove (a b : Value) : Bool :=
  match a.compare b with
  | some .lt | some .eq => true
  | _ => false

/-- The value, or one of its items, is loosely equal to one of several values. -/
def isOneOf (stored : Value) (values : List Value) : Bool :=
  match stored.items? with
  | some items => items.any fun item => values.any item.looselyEquals
  | none => values.any stored.looselyEquals

/-- A criterion, whose pattern is already read, holds of a value that is not null. -/
def holdsOf (c : Criterion) (pattern : Option Pattern) (stored : Value) : Bool :=
  match c with
  | isNull _ => false
  | isNotNull _ => true
  | equals _ value => stored.looselyEquals value
  | like _ _ _ =>
    match stored.text?, pattern with
    | some s, some p => p.accepts s
    | _, _ => false
  | isIn _ values => isOneOf stored values
  | between _ low high => notBelow stored low && notAbove stored high
  | atLeast _ value => notBelow stored value
  | atMost _ value => notAbove stored value

/-- A criterion, whose pattern is already read, holds of a stored value.  Of a value that
is null or absent only the criterion that asks for null does. -/
def evaluate (c : Criterion) (pattern : Option Pattern) : Option Value → Bool
  | none | some .null => match c with
    | isNull _ => true
    | _ => false
  | some stored => c.holdsOf pattern stored

/-- A criterion holds of a stored value. -/
def holds (c : Criterion) (stored : Option Value) : Bool := c.evaluate c.pattern? stored

/-! ## Texts -/

/-- A criterion as a condition; where case does not count, both sides are in small letters. -/
def display : Criterion → String
  | equals f v => f ++ " = " ++ v.display
  | like f p false => f ++ " LIKE " ++ (Value.text p).display
  | like f p true => "LOWER(" ++ f ++ ") LIKE " ++ (Value.text (Text.lowerCase p)).display
  | isIn f vs => f ++ " IN " ++ (Value.list vs).display
  | between f low high => f ++ " BETWEEN " ++ low.display ++ " AND " ++ high.display
  | atLeast f v => f ++ " >= " ++ v.display
  | atMost f v => f ++ " <= " ++ v.display
  | isNull f => f ++ " IS NULL"
  | isNotNull f => f ++ " IS NOT NULL"

/-- The name of the predicate. -/
def operator : Criterion → String
  | equals _ _ => "equals"
  | like _ _ _ => "like"
  | isIn _ _ => "in"
  | between _ _ _ => "between"
  | atLeast _ _ => "greater_or_equal"
  | atMost _ _ => "less_or_equal"
  | isNull _ => "is_null"
  | isNotNull _ => "is_not_null"

/-- What a criterion says besides its predicate and its field. -/
def operands : Criterion → List (String × Doc)
  | equals _ v | atLeast _ v | atMost _ v => [("value", v.toDoc)]
  | like _ p ignoreCase => [("pattern", .string p), ("case_insensitive", .flag ignoreCase)]
  | isIn _ vs => [("values", (Value.list vs).toDoc)]
  | between _ low high => [("from", low.toDoc), ("to", high.toDoc)]
  | isNull _ | isNotNull _ => []

/-- The document of a criterion. -/
def toDoc (c : Criterion) : Doc :=
  .ofMembers (("op", .string c.operator) :: ("field", .string c.field) :: c.operands)

end Criterion

/-- A conjunction of criteria. -/
abbrev Criteria : Type := List Criterion

/-- Criteria with their patterns already read. -/
abbrev Matcher : Type := List (Criterion × Option Pattern)

/-- All criteria of a matcher hold of a record given by its fields' values. -/
def Matcher.accepts (m : Matcher) (value? : String → Option Value) : Bool :=
  m.all fun (c, pattern) => c.evaluate pattern (value? c.field)

namespace Criteria

/-- Prepare criteria for many records. -/
def matcher (cs : Criteria) : Matcher := cs.map fun c => (c, c.pattern?)

/-- All criteria hold of a record given by its fields' values. -/
def accepts (cs : Criteria) (value? : String → Option Value) : Bool := cs.matcher.accepts value?

/-- The criteria about a field. -/
def forField (cs : Criteria) (field : String) : Criteria := cs.filter (·.field = field)

/-- Criteria as one condition. -/
def display : Criteria → String
  | [] => "TRUE"
  | cs => " AND ".intercalate (cs.map Criterion.display)

/-- The document of criteria. -/
def toDoc (cs : Criteria) : Doc := .ofList (cs.map Criterion.toDoc)

end Criteria

end Listing
