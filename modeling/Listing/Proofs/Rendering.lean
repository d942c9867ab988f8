import Mathlib
import Listing.Sql

/-!
# Texts and values of statements

Values are bound one after another while a condition is written.  Each criterion binds values of
its own, and what it writes depends on how many have been bound before it and on nothing else.

* `Sql.params` are the values that a criterion binds, and `Sql.condition` what it writes behind
  others; `Sql.render_eq` says so;
* `Sql.renderWhere_eq` says what criteria write and bind together.
-/

namespace Listing

/-- The placeholders of several values in a row. -/
def SqlDialect.placeholders (d : SqlDialect) : (place count : Nat) → List String
  | _, 0 => []
  | place, count + 1 => d.placeholder place :: placeholders d (place + 1) count

namespace Sql

/-- The values that a criterion binds. -/
def params : Criterion → List Value
  | .equals _ v | .atLeast _ v | .atMost _ v => [v]
  | .like _ pattern _ => [.text pattern]
  | .isIn _ vs => vs
  | .between _ low high => [low, high]
  | .isNull _ | .isNotNull _ => []

/-- The condition of a criterion, the first of whose values has a place. -/
def condition (d : SqlDialect) (place : Nat) (c : Criterion) : String :=
  let column := d.quote c.field
  match c with
  | .equals _ _ => column ++ " = " ++ d.placeholder place
  | .like _ _ false => column ++ " LIKE " ++ d.placeholder place
  | .like _ _ true =>
    match d with
    | .postgres => column ++ " ILIKE " ++ d.placeholder place
    | .mysql => "LOWER(" ++ column ++ ") LIKE LOWER(" ++ d.placeholder place ++ ")"
  | .isIn _ vs => column ++ " IN (" ++ ", ".intercalate (d.placeholders place vs.length) ++ ")"
  | .between _ _ _ =>
    column ++ " BETWEEN " ++ d.placeholder place ++ " AND " ++ d.placeholder (place + 1)
  | .atLeast _ _ => column ++ " >= " ++ d.placeholder place
  | .atMost _ _ => column ++ " <= " ++ d.placeholder place
  | .isNull _ => column ++ " IS NULL"
  | .isNotNull _ => column ++ " IS NOT NULL"

/-- The conditions of criteria, the first of whose values has a place. -/
def conditions (d : SqlDialect) : (place : Nat) → Criteria → List String
  | _, [] => []
  | place, c :: cs => condition d place c :: conditions d (place + (params c).length) cs

/-- Several values are bound in their order, with the placeholders behind those before them. -/
theorem mapM_bindValue (d : SqlDialect) (vs bound : List Value) :
    vs.mapM (bindValue d) bound = (d.placeholders (bound.length + 1) vs.length, bound ++ vs) := by
  induction vs generalizing bound with
  | nil =>
    rw [List.append_nil]
    rfl
  | cons v vs ih =>
    have later := ih (bound ++ [v])
    rw [List.length_append, List.length_singleton, List.append_assoc] at later
    rw [List.mapM_cons]
    simp only [bind, StateT.bind, bindValue, later]
    rfl

/-- A criterion writes its condition, and binds its values behind those before. -/
theorem render_eq (d : SqlDialect) (c : Criterion) (bound : List Value) :
    render d c bound = (condition d (bound.length + 1) c, bound ++ params c) := by
  cases c with
  | isIn field vs =>
    simp only [render, bind, StateT.bind, mapM_bindValue]
    rfl
  | like field pattern anyCase => cases anyCase <;> cases d <;> rfl
  | between field low high =>
    simp only [render, bind, StateT.bind, bindValue, List.length_append, List.length_singleton,
      List.append_assoc]
    rfl
  | isNull field | isNotNull field =>
    rw [params, List.append_nil]
    rfl
  | equals field v | atLeast field v | atMost field v => rfl

/-- Criteria rendered one after the other have their conditions in a row and bind their values in a
row. -/
theorem mapM_render (d : SqlDialect) (cs : Criteria) (bound : List Value) :
    cs.mapM (render d) bound =
      (conditions d (bound.length + 1) cs, bound ++ cs.flatMap params) := by
  induction cs generalizing bound with
  | nil =>
    rw [List.flatMap_nil, List.append_nil]
    rfl
  | cons c cs ih =>
    have later := ih (bound ++ params c)
    rw [List.length_append, List.append_assoc, Nat.add_right_comm] at later
    rw [List.mapM_cons, List.flatMap_cons, conditions]
    simp only [bind, StateT.bind, render_eq, later]
    rfl

/-- Criteria write their conditions, and bind the values of one behind those of another. -/
theorem renderWhere_eq (cs : Criteria) (d : SqlDialect) :
    renderWhere cs d = ⟨if cs.isEmpty then "TRUE" else " AND ".intercalate (conditions d 1 cs),
      cs.flatMap params⟩ := by
  cases cs with
  | nil => rfl
  | cons c cs =>
    have all := mapM_render d (c :: cs) []
    rw [renderWhere, StateT.run, all]
    rfl

theorem sql_renderWhere_cons (c : Criterion) (cs : Criteria) (d : SqlDialect) :
    (renderWhere (c :: cs) d).sql = " AND ".intercalate (conditions d 1 (c :: cs)) :=
  congrArg SqlFragment.sql (renderWhere_eq (c :: cs) d)

/-- The values stand beside the text in their order. -/
theorem params_renderWhere (cs : Criteria) (d : SqlDialect) :
    (renderWhere cs d).params = cs.flatMap params :=
  congrArg SqlFragment.params (renderWhere_eq cs d)

end Sql

end Listing
