import Mathlib
import Listing.Proofs.Tokens

/-!
# Names in statements

Names of fields come from clients, in conditions and as what a page is sorted by, and may hold any
quotes.  They delimit themselves: from a quoted name and what follows it both can be told, and a
database that reads a statement finds the names that were written and no others.

* `SqlDialect.namesIn` reads the names of a statement;
* `Sql.quoteMark_notMem_operands` says that no quote stands in the rest of a condition;
* `Sql.namesIn_renderWhere` and `Sql.namesIn_renderPage` find the names of whole statements;
* `SqlDialect.quote_delimits` brings both sides together.
-/

namespace Listing

/-- The names of a statement, from left to right, unless it ends inside one. -/
def SqlDialect.namesIn (d : SqlDialect) (statement : String) : Option (List String) :=
  Sql.quotedTexts d.quoteMark .between statement.toList

namespace Sql

/-! ## Quotes outside names -/

section Quotes

variable (d : SqlDialect)

/-- A plain text has no quotes in it. -/
theorem quoteMark_notMem_of_isPlain {text : List Char} (plain : isPlain d text = true) :
    d.quoteMark ∉ text := by
  intro member
  have other := List.all_eq_true.1 plain _ member
  simp at other

theorem quoteMark_notMem_digits (n : Nat) : d.quoteMark ∉ (toString n).toList :=
  quoteMark_notMem_of_isPlain d (isPlain_digits d isDigit_of_mem_toString)

theorem quoteMark_notMem_placeholder (place : Nat) :
    d.quoteMark ∉ (d.placeholder place).toList := by
  obtain ⟨digits, all, written⟩ := exists_toList_placeholder d place
  rw [written, List.mem_cons, not_or]
  exact ⟨(placeholderMark_ne_quoteMark d).symm,
    quoteMark_notMem_of_isPlain d (isPlain_digits d all)⟩

theorem quoteMark_notMem_furtherPlaceholders (place count : Nat) :
    d.quoteMark ∉ furtherPlaceholders d place count := by
  induction count generalizing place with
  | zero => exact quoteMark_notMem_of_isPlain d (isPlain_closing d)
  | succ count ih =>
    have comma : d.quoteMark ≠ ',' := by cases d <;> decide
    have blank : d.quoteMark ≠ ' ' := by cases d <;> decide
    simp only [furtherPlaceholders, List.mem_cons, List.mem_append, not_or]
    exact ⟨comma, blank, quoteMark_notMem_placeholder d place, ih (place + 1)⟩

/-- Behind the name of its field there is no quote in a condition. -/
theorem quoteMark_notMem_operands (place : Nat) (c : Criterion) :
    d.quoteMark ∉ (operands d place c).toList := by
  have single := quoteMark_notMem_placeholder d
  have closing : d.quoteMark ∉ ")".toList := quoteMark_notMem_of_isPlain d (isPlain_closing d)
  cases c with
  | equals | atLeast | atMost => exact single place
  | like field pattern anyCase =>
    cases anyCase with
    | false => exact single place
    | true =>
      cases d with
      | postgres => exact single place
      | mysql =>
        rw [operands, String.toList_append, List.mem_append, not_or]
        exact ⟨single place, closing⟩
  | isIn field vs =>
    rw [operands]
    cases vs.length with
    | zero => exact closing
    | succ count =>
      rw [toList_intercalate_placeholders, List.mem_append, not_or]
      exact ⟨single place, quoteMark_notMem_furtherPlaceholders d (place + 1) count⟩
  | between field low high =>
    simp only [operands, String.toList_append, List.mem_append, not_or]
    exact ⟨⟨single place, quoteMark_notMem_of_isPlain d (isPlain_conjunction d)⟩,
      single (place + 1)⟩
  | isNull | isNotNull => exact List.not_mem_nil

end Quotes

/-! ## Names of whole statements -/

section Names

variable {d : SqlDialect}

/-- A condition has the name of its field and no other. -/
theorem quotedTexts_condition_append (place : Nat) (c : Criterion) (rest : List Char) :
    quotedTexts d.quoteMark .between ((condition d place c).toList ++ rest) =
      (quotedTexts d.quoteMark .between rest).map (c.field :: ·) := by
  have opens := quoteMark_notMem_of_isPlain d (isPlain_opening d (predicate c))
  have keywords := quoteMark_notMem_of_isPlain d (isPlain_keyword d (predicate c))
  have values := quoteMark_notMem_operands d place c
  rw [toList_condition_append, quotedTexts_append opens, SqlDialect.quote,
    quotedTexts_enclosed_append c.field (head?_keyword_append_ne d _ _),
    quotedTexts_append keywords, quotedTexts_append values]

/-- The names in further conditions are those of their criteria. -/
theorem quotedTexts_continued (place : Nat) (cs : Criteria) :
    quotedTexts d.quoteMark .between (continued d place cs) = some (cs.map (·.field)) := by
  induction cs generalizing place with
  | nil => rfl
  | cons c cs ih =>
    have conjunction := quoteMark_notMem_of_isPlain d (isPlain_conjunction d)
    rw [continued_cons, quotedTexts_append conjunction, quotedTexts_condition_append, ih]
    rfl

/-- The names in a condition are those of its criteria, in their order. -/
theorem namesIn_renderWhere (cs : Criteria) :
    d.namesIn (renderWhere cs d).sql = some (cs.map (·.field)) := by
  cases cs with
  | nil => cases d <;> decide
  | cons c cs =>
    rw [SqlDialect.namesIn, sql_renderWhere_cons, toList_intercalate_conditions,
      quotedTexts_condition_append, quotedTexts_continued]
    rfl

/-- The limits of a page, which follow its order. -/
def limits (p : Pageable) : String :=
  " LIMIT " ++ toString p.size.val ++ " OFFSET " ++ toString p.offset.val

theorem quoteMark_notMem_limits (p : Pageable) : d.quoteMark ∉ (limits p).toList := by
  have limit : d.quoteMark ∉ " LIMIT ".toList := by cases d <;> decide
  have offset : d.quoteMark ∉ " OFFSET ".toList := by cases d <;> decide
  have digits := quoteMark_notMem_digits d
  simp only [limits, String.toList_append, List.mem_append, not_or]
  exact ⟨⟨⟨limit, digits _⟩, offset⟩, digits _⟩

theorem quoteMark_notMem_direction (s : SortOrder) :
    d.quoteMark ∉ (" " ++ s.direction.text).toList := by
  cases d <;> cases s.direction <;> decide

/-- There is no name in the limits of a page. -/
theorem quotedTexts_limits (p : Pageable) :
    quotedTexts d.quoteMark .between (limits p).toList = some [] := by
  rw [← List.append_nil (limits p).toList, quotedTexts_append (quoteMark_notMem_limits p)]
  rfl

/-- The order of a page has the name that it is sorted by and no other. -/
theorem namesIn_renderPage (p : Pageable) :
    d.namesIn (renderPage p d) = some (p.sort.toList.map (·.field)) := by
  cases sorted : p.sort with
  | none =>
    have written : renderPage p d = limits p := by
      simp [renderPage, limits, sorted, String.append_assoc]
    rw [SqlDialect.namesIn, written]
    exact quotedTexts_limits p
  | some s =>
    have written : (renderPage p d).toList = " ORDER BY ".toList ++ ((d.quote s.field).toList ++
        ((" " ++ s.direction.text).toList ++ (limits p).toList)) := by
      simp [renderPage, limits, sorted, String.toList_append]
    have keyword : d.quoteMark ∉ " ORDER BY ".toList := by cases d <;> decide
    have ends : ((" " ++ s.direction.text).toList ++ (limits p).toList).head? ≠
        some d.quoteMark := by
      have blank : ((" " ++ s.direction.text).toList ++ (limits p).toList).head? = some ' ' := by
        rw [String.toList_append]
        rfl
      rw [blank]
      cases d <;> decide
    rw [SqlDialect.namesIn, written, quotedTexts_append keyword, SqlDialect.quote,
      quotedTexts_enclosed_append s.field ends, quotedTexts_append (quoteMark_notMem_direction s),
      quotedTexts_limits]
    rfl

end Names

end Sql

/-- **Quoted names delimit themselves.**  What is quoted and what follows it can both be told from
the text, if no further quote follows; and in the statements of either dialect exactly the names of
the fields that are asked for, or that a page is sorted by, are read as names, whatever quotes they
hold. -/
theorem SqlDialect.quote_delimits (d : SqlDialect) :
    (∀ a b s t : String, s.toList.head? ≠ some d.quoteMark → t.toList.head? ≠ some d.quoteMark →
      d.quote a ++ s = d.quote b ++ t → a = b ∧ s = t) ∧
    (∀ cs : Criteria, d.namesIn (Sql.renderWhere cs d).sql = some (cs.map (·.field))) ∧
    ∀ p : Pageable, d.namesIn (Sql.renderPage p d) = some (p.sort.toList.map (·.field)) := by
  refine ⟨fun a b s t ends ends' same => ?_, Sql.namesIn_renderWhere, Sql.namesIn_renderPage⟩
  have texts := congrArg String.toList same
  rw [String.toList_append, String.toList_append] at texts
  obtain ⟨names, rests⟩ := quote_append_inj ends ends' texts
  exact ⟨names, String.toList_inj.1 rests⟩

/-- A name that tries to end early and to go on with a condition of its own. -/
def hostileName : String := "a\" = \"\"; --\""

/-- It is read as one name, before a direction as well as in a condition. -/
theorem SqlDialect.quote_delimits_hostileName :
    " DESC".toList.head? ≠ some postgres.quoteMark ∧
      postgres.quote hostileName ++ " DESC" = postgres.quote "a\" = \"\"; --\"" ++ " DESC" ∧
      hostileName = "a\" = \"\"; --\"" ∧
      postgres.namesIn (Sql.renderWhere [.isNull hostileName, .isNull "b"] .postgres).sql =
        some [hostileName, "b"] := by
  have ends : " DESC".toList.head? ≠ some postgres.quoteMark := by decide
  have same : postgres.quote hostileName ++ " DESC" =
      postgres.quote "a\" = \"\"; --\"" ++ " DESC" := by decide
  obtain ⟨delimits, conditions, -⟩ := postgres.quote_delimits
  exact ⟨ends, same, (delimits _ _ _ _ ends ends same).1, conditions _⟩

/-- Written out, every quote of it stands twice. -/
example : SqlDialect.postgres.quote hostileName = "\"a\"\" = \"\"\"\"; --\"\"\"" := by decide

end Listing
