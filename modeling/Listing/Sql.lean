import Listing.Criteria
import Listing.Page
import Listing.Text.Enclosed

/-!
# Statements

Criteria become the condition of a statement, in which placeholders stand for the
values.  Field names are quoted identifiers, so that no name can end one; values
never enter the text.

* `Sql.renderWhere` gives the condition and the values for its placeholders;
* `Sql.renderPage` gives the order and the limits that select a page.

What a server makes of the statements is left out.
-/

namespace Listing

/-- The databases whose statements are written. -/
inductive SqlDialect where
  | postgres
  | mysql
  deriving DecidableEq, Repr

/-- A condition and the values for its placeholders, in their order. -/
structure SqlFragment where
  sql : String
  params : List Value

namespace SqlDialect

/-- The character around identifiers. -/
def quoteMark : SqlDialect → Char
  | postgres => '"'
  | mysql => '\x60'

/-- An identifier between quotes, those inside it doubled. -/
def quote (d : SqlDialect) (identifier : String) : String := Text.enclosed d.quoteMark identifier

/-- The placeholder of the value with a place, counted from one. -/
def placeholder : SqlDialect → Nat → String
  | postgres, place => "$" ++ toString place
  | mysql, _ => "?"

end SqlDialect

namespace Sql

/-- What is written while the values bound so far are kept, in the order of their placeholders. -/
abbrev Rendering : Type → Type := StateM (List Value)

/-- Bind a value behind the ones before it, and write its placeholder. -/
def bindValue (d : SqlDialect) (v : Value) : Rendering String := fun bound =>
  (d.placeholder (bound.length + 1), bound ++ [v])

/-- Write the condition of a criterion. -/
def render (d : SqlDialect) (c : Criterion) : Rendering String := do
  let column := d.quote c.field
  match c with
  | .equals _ v => return column ++ " = " ++ (← bindValue d v)
  | .like _ pattern false => return column ++ " LIKE " ++ (← bindValue d (.text pattern))
  | .like _ pattern true =>
    let placeholder ← bindValue d (.text pattern)
    match d with
    | .postgres => return column ++ " ILIKE " ++ placeholder
    | .mysql => return "LOWER(" ++ column ++ ") LIKE LOWER(" ++ placeholder ++ ")"
  | .isIn _ vs => return column ++ " IN (" ++ ", ".intercalate (← vs.mapM (bindValue d)) ++ ")"
  | .between _ low high =>
    let first ← bindValue d low
    let second ← bindValue d high
    return column ++ " BETWEEN " ++ first ++ " AND " ++ second
  | .atLeast _ v => return column ++ " >= " ++ (← bindValue d v)
  | .atMost _ v => return column ++ " <= " ++ (← bindValue d v)
  | .isNull _ => return column ++ " IS NULL"
  | .isNotNull _ => return column ++ " IS NOT NULL"

/-- Criteria as a condition; without any the condition is always true. -/
def renderWhere (cs : Criteria) (d : SqlDialect) : SqlFragment :=
  if cs.isEmpty then ⟨"TRUE", []⟩
  else
    let (texts, bound) := (cs.mapM (render d)).run []
    ⟨" AND ".intercalate texts, bound⟩

/-- The order and the limits of a page. -/
def renderPage (p : Pageable) (d : SqlDialect) : String :=
  let order := match p.sort with
    | some s => " ORDER BY " ++ d.quote s.field ++ " " ++ s.direction.text
    | none => ""
  order ++ " LIMIT " ++ toString p.size.val ++ " OFFSET " ++ toString p.offset.val

end Sql

end Listing
