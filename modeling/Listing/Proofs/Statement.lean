import Mathlib
import Listing.Proofs.Rendering

/-!
# Conditions of statements can be read back

The names of fields come from clients, so a name may hold quotes, placeholders and
conjunctions, and `BETWEEN` has a conjunction of its own.  This module shows that nothing of
that matters: outside quoted names a condition has exactly one placeholder for every value,
in their order, and from the condition and the values the criteria can be told.  The text alone
tells the form of the criteria, and the values leave no trace in it.

* `Text.doubled_append_inj` finds the end of a quoted name;
* `Sql.placeholdersIn` looks for placeholders outside quoted names;
* `Sql.Predicate` names what a criterion asks, apart from its field and its values, and
  `Sql.condition_eq` takes the condition of a criterion apart accordingly;
* `Sql.condition_append_inj` cancels the condition of a criterion in front of others;
* `Criterion.SameForm` relates criteria that differ in their values alone;
* `Sql.renderWhere_lossless` says what the text and the values together tell of criteria, and
  `Sql.renderWhere_sameForm` what the text tells alone.
-/

namespace Listing

/-! ## Quoted names -/

theorem Text.doubled_cons_self (quote : Char) (cs : List Char) :
    Text.doubled quote (quote :: cs) = quote :: quote :: Text.doubled quote cs := by
  simp [Text.doubled]

theorem Text.doubled_cons_of_ne {quote c : Char} (other : c ≠ quote) (cs : List Char) :
    Text.doubled quote (c :: cs) = c :: Text.doubled quote cs := by
  simp [Text.doubled, other]

/-- The end of a quoted text can be told from a quote inside it, as long as no further quote
follows. -/
theorem Text.doubled_append_inj {quote : Char} {rest rest' : List Char}
    (ends : rest.head? ≠ some quote) (ends' : rest'.head? ≠ some quote) :
    ∀ {cs cs' : List Char},
      Text.doubled quote cs ++ quote :: rest = Text.doubled quote cs' ++ quote :: rest' →
      cs = cs' ∧ rest = rest'
  | [], [], same => ⟨rfl, (List.cons.inj same).2⟩
  | [], c :: cs', same => by
    by_cases h : c = quote
    · subst h
      rw [Text.doubled_cons_self] at same
      exact absurd (congrArg List.head? (List.cons.inj same).2) ends
    · rw [Text.doubled_cons_of_ne h] at same
      exact absurd (List.cons.inj same).1.symm h
  | c :: cs, [], same => by
    by_cases h : c = quote
    · subst h
      rw [Text.doubled_cons_self] at same
      exact absurd (congrArg List.head? (List.cons.inj same).2.symm) ends'
    · rw [Text.doubled_cons_of_ne h] at same
      exact absurd (List.cons.inj same).1 h
  | c :: cs, c' :: cs', same => by
    by_cases h : c = quote <;> by_cases h' : c' = quote
    · subst h h'
      rw [Text.doubled_cons_self, Text.doubled_cons_self] at same
      obtain ⟨rfl, rfl⟩ :=
        Text.doubled_append_inj ends ends' (List.cons.inj (List.cons.inj same).2).2
      exact ⟨rfl, rfl⟩
    · subst h
      rw [Text.doubled_cons_self, Text.doubled_cons_of_ne h'] at same
      exact absurd (List.cons.inj same).1.symm h'
    · subst h'
      rw [Text.doubled_cons_self, Text.doubled_cons_of_ne h] at same
      exact absurd (List.cons.inj same).1 h
    · rw [Text.doubled_cons_of_ne h, Text.doubled_cons_of_ne h'] at same
      obtain ⟨rfl, tail⟩ := List.cons.inj same
      obtain ⟨rfl, rfl⟩ := Text.doubled_append_inj ends ends' tail
      exact ⟨rfl, rfl⟩

/-- A name is written with its quotes doubled, between two more. -/
theorem SqlDialect.toList_quote (d : SqlDialect) (name : String) (rest : List Char) :
    (d.quote name).toList ++ rest =
      d.quoteMark :: (Text.doubled d.quoteMark name.toList ++ d.quoteMark :: rest) := by
  simp [SqlDialect.quote, Text.enclosed]

theorem SqlDialect.head?_quote_append (d : SqlDialect) (name : String) (rest : List Char) :
    ((d.quote name).toList ++ rest).head? = some d.quoteMark := by
  rw [SqlDialect.toList_quote, List.head?_cons]

/-- A quoted name can be cancelled in front of anything but a further quote. -/
theorem SqlDialect.quote_append_inj {d : SqlDialect} {name name' : String}
    {rest rest' : List Char} (ends : rest.head? ≠ some d.quoteMark)
    (ends' : rest'.head? ≠ some d.quoteMark)
    (same : (d.quote name).toList ++ rest = (d.quote name').toList ++ rest') :
    name = name' ∧ rest = rest' := by
  rw [SqlDialect.toList_quote, SqlDialect.toList_quote] at same
  obtain ⟨names, rests⟩ := Text.doubled_append_inj ends ends' (List.cons.inj same).2
  exact ⟨String.toList_inj.1 names, rests⟩

/-! ## Criteria of one form -/

/-- The criteria ask the same of the same field, of as many values, whatever these are. -/
inductive Criterion.SameForm : Criterion → Criterion → Prop where
  | equals (field : String) (v v' : Value) : SameForm (.equals field v) (.equals field v')
  | like (field pattern pattern' : String) (anyCase : Bool) :
    SameForm (.like field pattern anyCase) (.like field pattern' anyCase)
  | isIn (field : String) {vs vs' : List Value} (counts : vs.length = vs'.length) :
    SameForm (.isIn field vs) (.isIn field vs')
  | between (field : String) (low low' high high' : Value) :
    SameForm (.between field low high) (.between field low' high')
  | atLeast (field : String) (v v' : Value) : SameForm (.atLeast field v) (.atLeast field v')
  | atMost (field : String) (v v' : Value) : SameForm (.atMost field v) (.atMost field v')
  | isNull (field : String) : SameForm (.isNull field) (.isNull field)
  | isNotNull (field : String) : SameForm (.isNotNull field) (.isNotNull field)

/-! ## Placeholders outside quoted names -/

/-- The character with which placeholders start. -/
def SqlDialect.placeholderMark : SqlDialect → Char
  | postgres => '$'
  | mysql => '?'

namespace Sql

/-- The placeholders of a text from left to right, the text starting inside a quoted name or
outside.  A quote that is written twice leaves the name and enters it again. -/
def placeholdersIn (d : SqlDialect) : (inName : Bool) → List Char → List String
  | _, [] => []
  | true, c :: rest => placeholdersIn d (c != d.quoteMark) rest
  | false, c :: rest =>
    if c = d.quoteMark then placeholdersIn d true rest
    else if c = d.placeholderMark then
      String.ofList (c :: rest.takeWhile Char.isDigit) :: placeholdersIn d false rest
    else placeholdersIn d false rest

/-- The text has no character that starts a name or a placeholder. -/
def isPlain (d : SqlDialect) (text : List Char) : Bool :=
  text.all fun c => c != d.quoteMark && c != d.placeholderMark

theorem placeholdersIn_plain_append {d : SqlDialect} {text : List Char} (rest : List Char)
    (plain : isPlain d text = true) :
    placeholdersIn d false (text ++ rest) = placeholdersIn d false rest := by
  induction text with
  | nil => rfl
  | cons c text ih =>
    rw [isPlain, List.all_cons, Bool.and_eq_true, Bool.and_eq_true, bne_iff_ne,
      bne_iff_ne] at plain
    obtain ⟨⟨noQuote, noMark⟩, later⟩ := plain
    rw [List.cons_append, placeholdersIn, if_neg noQuote, if_neg noMark]
    exact ih later

/-- What stands in a name is passed over up to the quote that ends it. -/
theorem placeholdersIn_doubled_append (d : SqlDialect) (cs rest : List Char) :
    placeholdersIn d true (Text.doubled d.quoteMark cs ++ d.quoteMark :: rest) =
      placeholdersIn d false rest := by
  induction cs with
  | nil => simp [Text.doubled, placeholdersIn]
  | cons c cs ih =>
    by_cases h : c = d.quoteMark
    · subst h
      rw [Text.doubled_cons_self]
      simpa [placeholdersIn] using ih
    · rw [Text.doubled_cons_of_ne h, List.cons_append, placeholdersIn, bne_iff_ne.2 h]
      exact ih

/-- There are no placeholders in a name. -/
theorem placeholdersIn_quote_append (d : SqlDialect) (name : String) (rest : List Char) :
    placeholdersIn d false ((d.quote name).toList ++ rest) = placeholdersIn d false rest := by
  rw [SqlDialect.toList_quote, placeholdersIn, if_pos rfl, placeholdersIn_doubled_append]

/-- The text does not start with a digit, which would go on with a placeholder before it. -/
def EndsNumber (rest : List Char) : Prop := ∀ c ∈ rest.head?, c.isDigit = false

theorem takeWhile_isDigit_append {digits rest : List Char}
    (all : ∀ c ∈ digits, c.isDigit = true) (ends : EndsNumber rest) :
    (digits ++ rest).takeWhile Char.isDigit = digits := by
  rw [List.takeWhile_append_of_pos all]
  cases rest with
  | nil => simp
  | cons c rest => simp [ends c rfl]

theorem isPlain_digits (d : SqlDialect) {digits : List Char}
    (all : ∀ c ∈ digits, c.isDigit = true) : isPlain d digits = true := by
  refine List.all_eq_true.2 fun c member => ?_
  rw [Bool.and_eq_true, bne_iff_ne, bne_iff_ne]
  constructor <;> rintro rfl <;> cases d <;> exact absurd (all _ member) (by decide)

theorem isDigit_of_mem_toString {n : Nat} :
    ∀ c ∈ (toString n).toList, c.isDigit = true := by
  intro c member
  rw [Nat.toString_eq_repr, Nat.repr, String.toList_ofList] at member
  exact Nat.isDigit_of_mem_toDigits (by decide) (by decide) member

/-- A placeholder is its mark with digits behind it, if there are any. -/
theorem exists_toList_placeholder (d : SqlDialect) (place : Nat) :
    ∃ digits : List Char, (∀ c ∈ digits, c.isDigit = true) ∧
      (d.placeholder place).toList = d.placeholderMark :: digits := by
  cases d with
  | mysql => exact ⟨[], by simp, by simp [SqlDialect.placeholder, SqlDialect.placeholderMark]⟩
  | postgres =>
    refine ⟨(toString place).toList, isDigit_of_mem_toString, ?_⟩
    rw [SqlDialect.placeholder, String.toList_append]
    rfl

theorem placeholderMark_ne_quoteMark (d : SqlDialect) : d.placeholderMark ≠ d.quoteMark := by
  cases d <;> decide

/-- A placeholder is found as it was written, as long as no digit follows it. -/
theorem placeholdersIn_placeholder_append {d : SqlDialect} (place : Nat) {rest : List Char}
    (ends : EndsNumber rest) :
    placeholdersIn d false ((d.placeholder place).toList ++ rest) =
      d.placeholder place :: placeholdersIn d false rest := by
  obtain ⟨digits, all, written⟩ := exists_toList_placeholder d place
  have skipped := placeholdersIn_plain_append rest (isPlain_digits d all)
  rw [written, List.cons_append, placeholdersIn, if_neg (placeholderMark_ne_quoteMark d),
    if_pos rfl, takeWhile_isDigit_append all ends, skipped, ← written, String.ofList_toList]

/-! ## The parts of a condition -/

/-- What a criterion asks, apart from its field and its values. -/
inductive Predicate where
  | equals
  | like (anyCase : Bool)
  | isIn
  | between
  | atLeast
  | atMost
  | isNull
  | isNotNull
  deriving DecidableEq

def predicate : Criterion → Predicate
  | .equals _ _ => .equals
  | .like _ _ anyCase => .like anyCase
  | .isIn _ _ => .isIn
  | .between _ _ _ => .between
  | .atLeast _ _ => .atLeast
  | .atMost _ _ => .atMost
  | .isNull _ => .isNull
  | .isNotNull _ => .isNotNull

/-- The criterion with a field, a predicate and values that fit the predicate. -/
def assemble (field : String) : Predicate → List Value → Option Criterion
  | .equals, [v] => some (.equals field v)
  | .like anyCase, [.text pattern] => some (.like field pattern anyCase)
  | .isIn, vs => some (.isIn field vs)
  | .between, [low, high] => some (.between field low high)
  | .atLeast, [v] => some (.atLeast field v)
  | .atMost, [v] => some (.atMost field v)
  | .isNull, [] => some (.isNull field)
  | .isNotNull, [] => some (.isNotNull field)
  | _, _ => none

/-- A criterion is put together from what it asks and the values that it binds. -/
theorem assemble_params (c : Criterion) :
    assemble c.field (predicate c) (params c) = some c := by
  cases c <;> rfl

/-- Field, predicate and values are all there is to a criterion. -/
theorem criterion_ext {c c' : Criterion} (fields : c.field = c'.field)
    (predicates : predicate c = predicate c') (values : params c = params c') : c = c' := by
  have built := assemble_params c
  rw [fields, predicates, values, assemble_params c'] at built
  exact (Option.some.inj built).symm

/-- Criteria are of one form if they ask the same of one field and of as many values. -/
theorem sameForm_iff {c c' : Criterion} :
    c.SameForm c' ↔ c.field = c'.field ∧ predicate c = predicate c' ∧
      (params c).length = (params c').length := by
  constructor
  · intro form
    cases form with
    | isIn field count => exact ⟨rfl, rfl, count⟩
    | _ => exact ⟨rfl, rfl, rfl⟩
  · rintro ⟨fields, predicates, counts⟩
    cases c <;> cases c' <;>
      simp only [predicate, reduceCtorEq, Predicate.like.injEq] at predicates <;>
      simp only [Criterion.field] at fields <;> subst fields
    case isIn.isIn => exact .isIn _ counts
    case like.like =>
      subst predicates
      exact .like ..
    all_goals constructor

/-- The text of a condition before the name of the field. -/
def opening (d : SqlDialect) : Predicate → String
  | .like true => match d with
    | .postgres => ""
    | .mysql => "LOWER("
  | _ => ""

/-- The text of a condition between the name of the field and its placeholders. -/
def keyword (d : SqlDialect) : Predicate → String
  | .equals => " = "
  | .like false => " LIKE "
  | .like true => match d with
    | .postgres => " ILIKE "
    | .mysql => ") LIKE LOWER("
  | .isIn => " IN ("
  | .between => " BETWEEN "
  | .atLeast => " >= "
  | .atMost => " <= "
  | .isNull => " IS NULL"
  | .isNotNull => " IS NOT NULL"

/-- The text of a condition from its first placeholder on. -/
def operands (d : SqlDialect) (place : Nat) : Criterion → String
  | .equals _ _ | .like _ _ false | .atLeast _ _ | .atMost _ _ => d.placeholder place
  | .like _ _ true => match d with
    | .postgres => d.placeholder place
    | .mysql => d.placeholder place ++ ")"
  | .isIn _ vs => ", ".intercalate (d.placeholders place vs.length) ++ ")"
  | .between _ _ _ => d.placeholder place ++ " AND " ++ d.placeholder (place + 1)
  | .isNull _ | .isNotNull _ => ""

/-- A condition is written in four parts, of which only the second depends on the field. -/
theorem condition_eq (d : SqlDialect) (place : Nat) (c : Criterion) :
    condition d place c =
      opening d (predicate c) ++ d.quote c.field ++ keyword d (predicate c) ++
        operands d place c := by
  rcases c with _ | ⟨field, pattern, _ | _⟩ <;> cases d <;>
    simp [condition, predicate, opening, keyword, operands, String.append_assoc]

theorem toList_condition_append (d : SqlDialect) (place : Nat) (c : Criterion)
    (rest : List Char) :
    (condition d place c).toList ++ rest =
      (opening d (predicate c)).toList ++ ((d.quote c.field).toList ++
        ((keyword d (predicate c)).toList ++ ((operands d place c).toList ++ rest))) := by
  simp [condition_eq, String.toList_append, List.append_assoc]

/-- The placeholders of a list behind another one, up to the closing parenthesis. -/
def furtherPlaceholders (d : SqlDialect) : (place count : Nat) → List Char
  | _, 0 => [')']
  | place, count + 1 =>
    ',' :: ' ' :: ((d.placeholder place).toList ++ furtherPlaceholders d (place + 1) count)

/-- The placeholders of a list are the first and the further ones. -/
theorem toList_intercalate_placeholders (d : SqlDialect) (place count : Nat) :
    (", ".intercalate (d.placeholders place (count + 1)) ++ ")").toList =
      (d.placeholder place).toList ++ furtherPlaceholders d (place + 1) count := by
  induction count generalizing place with
  | zero => simp [SqlDialect.placeholders, furtherPlaceholders]
  | succ count ih =>
    have later := ih (place + 1)
    rw [SqlDialect.placeholders] at later ⊢
    rw [SqlDialect.placeholders, String.intercalate_cons_cons, furtherPlaceholders, ← later]
    simp [String.toList_append]

/-! ## Placeholders of a condition -/

/-- What stands before a name is plain. -/
theorem isPlain_opening (d : SqlDialect) (p : Predicate) :
    isPlain d (opening d p).toList = true := by
  rcases p with _ | (_ | _) | _ | _ | _ | _ | _ | _ <;> cases d <;> decide

theorem isPlain_keyword (d : SqlDialect) (p : Predicate) :
    isPlain d (keyword d p).toList = true := by
  rcases p with _ | (_ | _) | _ | _ | _ | _ | _ | _ <;> cases d <;> decide

theorem isPlain_closing (d : SqlDialect) : isPlain d [')'] = true := by
  cases d <;> decide

theorem isPlain_conjunction (d : SqlDialect) : isPlain d " AND ".toList = true := by
  cases d <;> decide

/-- No placeholder goes on where another one or the end of a list follows. -/
theorem endsNumber_furtherPlaceholders_append (d : SqlDialect) (place count : Nat)
    (rest : List Char) : EndsNumber (furtherPlaceholders d place count ++ rest) := by
  cases count <;> simp [furtherPlaceholders, EndsNumber]

/-- The further placeholders of a list are read in their order. -/
theorem placeholdersIn_furtherPlaceholders_append (d : SqlDialect) (place count : Nat)
    (rest : List Char) :
    placeholdersIn d false (furtherPlaceholders d place count ++ rest) =
      d.placeholders place count ++ placeholdersIn d false rest := by
  induction count generalizing place with
  | zero => exact placeholdersIn_plain_append rest (isPlain_closing d)
  | succ count ih =>
    have comma : isPlain d [',', ' '] = true := by cases d <;> decide
    have ends := endsNumber_furtherPlaceholders_append d (place + 1) count rest
    calc
      _ = placeholdersIn d false ([',', ' '] ++ ((d.placeholder place).toList ++
            (furtherPlaceholders d (place + 1) count ++ rest))) := by
        simp [furtherPlaceholders]
      _ = _ := by
        rw [placeholdersIn_plain_append _ comma, placeholdersIn_placeholder_append place ends,
          ih, SqlDialect.placeholders, List.cons_append]

/-- The placeholders of a criterion are read in their order, one for each of its values. -/
theorem placeholdersIn_operands_append (d : SqlDialect) (place : Nat) (c : Criterion)
    {rest : List Char} (ends : EndsNumber rest) :
    placeholdersIn d false ((operands d place c).toList ++ rest) =
      d.placeholders place (params c).length ++ placeholdersIn d false rest := by
  have single := placeholdersIn_placeholder_append (d := d) place ends
  have closing := placeholdersIn_plain_append rest (isPlain_closing d)
  cases c with
  | equals | atLeast | atMost => exact single
  | like field pattern anyCase =>
    cases anyCase with
    | false => exact single
    | true =>
      cases d with
      | postgres => exact single
      | mysql =>
        have ends' : EndsNumber (')' :: rest) := by simp [EndsNumber]
        rw [operands, String.toList_append, List.append_assoc]
        refine (placeholdersIn_placeholder_append place ends').trans ?_
        exact congrArg _ closing
  | isIn field vs =>
    rw [operands, params]
    cases vs.length with
    | zero =>
      rw [SqlDialect.placeholders]
      exact closing
    | succ count =>
      have ends' := endsNumber_furtherPlaceholders_append d (place + 1) count rest
      rw [toList_intercalate_placeholders, List.append_assoc,
        placeholdersIn_placeholder_append place ends',
        placeholdersIn_furtherPlaceholders_append, SqlDialect.placeholders, List.cons_append]
  | between field low high =>
    have ends' : EndsNumber
        (" AND ".toList ++ ((d.placeholder (place + 1)).toList ++ rest)) := by
      simp [EndsNumber]
    rw [operands, String.toList_append, String.toList_append, List.append_assoc,
      List.append_assoc, placeholdersIn_placeholder_append place ends',
      placeholdersIn_plain_append _ (isPlain_conjunction d),
      placeholdersIn_placeholder_append (place + 1) ends]
    rfl
  | isNull | isNotNull => rfl

/-- A condition has one placeholder for every value that its criterion binds. -/
theorem placeholdersIn_condition_append (d : SqlDialect) (place : Nat) (c : Criterion)
    {rest : List Char} (ends : EndsNumber rest) :
    placeholdersIn d false ((condition d place c).toList ++ rest) =
      d.placeholders place (params c).length ++ placeholdersIn d false rest := by
  rw [toList_condition_append, placeholdersIn_plain_append _ (isPlain_opening d _),
    placeholdersIn_quote_append, placeholdersIn_plain_append _ (isPlain_keyword d _),
    placeholdersIn_operands_append d place c ends]

/-! ## Cancelling a condition -/

/-- No keyword is the beginning of another one, so the predicate can be told from the text
after the name. -/
theorem keyword_append_inj {d : SqlDialect} {p p' : Predicate} {rest rest' : List Char}
    (same : (keyword d p).toList ++ rest = (keyword d p').toList ++ rest') :
    p = p' ∧ rest = rest' := by
  have apart : ∀ {p p' : Predicate}, (keyword d p).toList <+: (keyword d p').toList → p = p' := by
    intro p p' prefixed
    revert prefixed
    rcases p with _ | (_ | _) | _ | _ | _ | _ | _ | _ <;>
      rcases p' with _ | (_ | _) | _ | _ | _ | _ | _ | _ <;> cases d <;> decide
  have prefixed : (keyword d p).toList <+: (keyword d p').toList ++ rest' := ⟨rest, same⟩
  obtain rfl : p = p' := by
    rcases List.prefix_or_prefix_of_prefix prefixed (List.prefix_append _ rest') with
      shorter | longer
    · exact apart shorter
    · exact (apart longer).symm
  exact ⟨rfl, List.append_cancel_left same⟩

theorem opening_eq_or (d : SqlDialect) (p : Predicate) :
    opening d p = "" ∨ opening d p = "LOWER(" := by
  rcases p with _ | (_ | _) | _ | _ | _ | _ | _ | _ <;> cases d <;> simp [opening]

/-- What stands before a name can be told from the name by the quote that starts the name. -/
theorem opening_append_inj {d : SqlDialect} {p p' : Predicate} {rest rest' : List Char}
    (starts : rest.head? = some d.quoteMark) (starts' : rest'.head? = some d.quoteMark)
    (same : (opening d p).toList ++ rest = (opening d p').toList ++ rest') : rest = rest' := by
  have apart : 'L' ≠ d.quoteMark := by cases d <;> decide
  have heads := congrArg List.head? same
  rcases opening_eq_or d p with none | lower <;> rcases opening_eq_or d p' with none' | lower'
  · rwa [none, none'] at same
  · rw [none, lower'] at heads
    exact absurd (Option.some.inj (starts.symm.trans heads)).symm apart
  · rw [lower, none'] at heads
    exact absurd (Option.some.inj (heads.trans starts')) apart
  · rw [lower, lower'] at same
    exact List.append_cancel_left same

/-- A name ends where it ends, since no quote follows. -/
theorem head?_keyword_append_ne (d : SqlDialect) (p : Predicate) (rest : List Char) :
    ((keyword d p).toList ++ rest).head? ≠ some d.quoteMark := by
  rcases p with _ | (_ | _) | _ | _ | _ | _ | _ | _ <;> cases d <;>
    simp [keyword, SqlDialect.quoteMark]

/-- The further placeholders tell how many they are, and what follows them. -/
theorem furtherPlaceholders_append_inj {d : SqlDialect} {place count count' : Nat}
    {rest rest' : List Char}
    (same : furtherPlaceholders d place count ++ rest =
      furtherPlaceholders d place count' ++ rest') : count = count' ∧ rest = rest' := by
  induction count generalizing place count' with
  | zero =>
    cases count' with
    | zero => exact ⟨rfl, List.append_cancel_left same⟩
    | succ count' => simp [furtherPlaceholders] at same
  | succ count ih =>
    cases count' with
    | zero => simp [furtherPlaceholders] at same
    | succ count' =>
      simp only [furtherPlaceholders, List.cons_append, List.append_assoc, List.cons.injEq,
        true_and] at same
      obtain ⟨rfl, rests⟩ := ih (List.append_cancel_left same)
      exact ⟨rfl, rests⟩

theorem listedPlaceholders_append_inj {d : SqlDialect} {place count count' : Nat}
    {rest rest' : List Char}
    (same : (", ".intercalate (d.placeholders place count) ++ ")").toList ++ rest =
      (", ".intercalate (d.placeholders place count') ++ ")").toList ++ rest') :
    count = count' ∧ rest = rest' := by
  -- Only an empty list starts with the closing parenthesis.
  have mark : d.placeholderMark ≠ ')' := by cases d <;> decide
  obtain ⟨digits, -, written⟩ := exists_toList_placeholder d place
  have empty : (", ".intercalate (d.placeholders place 0) ++ ")").toList = [')'] := by
    simp [SqlDialect.placeholders]
  rcases count with _ | count <;> rcases count' with _ | count'
  · exact ⟨rfl, List.append_cancel_left same⟩
  · rw [empty, toList_intercalate_placeholders, written] at same
    exact absurd (List.head_eq_of_cons_eq same).symm mark
  · rw [empty, toList_intercalate_placeholders, written] at same
    exact absurd (List.head_eq_of_cons_eq same) mark
  · rw [toList_intercalate_placeholders, toList_intercalate_placeholders, List.append_assoc,
      List.append_assoc] at same
    obtain ⟨rfl, rests⟩ := furtherPlaceholders_append_inj (List.append_cancel_left same)
    exact ⟨rfl, rests⟩

/-- The placeholders of criteria with one predicate tell how many values they bind. -/
theorem operands_append_inj {d : SqlDialect} {place : Nat} {c c' : Criterion}
    {rest rest' : List Char} (predicates : predicate c = predicate c')
    (same : (operands d place c).toList ++ rest = (operands d place c').toList ++ rest') :
    (params c).length = (params c').length ∧ rest = rest' := by
  cases c <;> cases c' <;> simp only [predicate, reduceCtorEq, Predicate.like.injEq] at predicates
  case isIn.isIn => exact listedPlaceholders_append_inj same
  case like.like =>
    subst predicates
    rename_i anyCase _ _
    cases anyCase <;> exact ⟨rfl, List.append_cancel_left same⟩
  all_goals exact ⟨rfl, List.append_cancel_left same⟩

/-- A condition can be cancelled in front of others: its field, its predicate and the number
of its values are in the text. -/
theorem condition_append_inj {d : SqlDialect} {place : Nat} {c c' : Criterion}
    {rest rest' : List Char}
    (same : (condition d place c).toList ++ rest = (condition d place c').toList ++ rest') :
    c.field = c'.field ∧ predicate c = predicate c' ∧
      (params c).length = (params c').length ∧ rest = rest' := by
  rw [toList_condition_append, toList_condition_append] at same
  have names := opening_append_inj (SqlDialect.head?_quote_append d _ _)
    (SqlDialect.head?_quote_append d _ _) same
  obtain ⟨fields, keywords⟩ := SqlDialect.quote_append_inj
    (head?_keyword_append_ne d _ _) (head?_keyword_append_ne d _ _) names
  obtain ⟨predicates, operators⟩ := keyword_append_inj keywords
  obtain ⟨counts, rests⟩ := operands_append_inj predicates operators
  exact ⟨fields, predicates, counts, rests⟩

/-! ## Whole conditions -/

/-- The conditions of criteria behind others, each with the conjunction before it. -/
def continued (d : SqlDialect) : (place : Nat) → Criteria → List Char
  | _, [] => []
  | place, c :: cs =>
    " AND ".toList ++ ((condition d place c).toList ++ continued d (place + (params c).length) cs)

theorem continued_nil (d : SqlDialect) (place : Nat) : continued d place [] = [] := rfl

theorem continued_cons (d : SqlDialect) (place : Nat) (c : Criterion) (cs : Criteria) :
    continued d place (c :: cs) = " AND ".toList ++
      ((condition d place c).toList ++ continued d (place + (params c).length) cs) := rfl

/-- Joined conditions are the first and the further ones. -/
theorem toList_intercalate_conditions (d : SqlDialect) (place : Nat) (c : Criterion)
    (cs : Criteria) :
    (" AND ".intercalate (conditions d place (c :: cs))).toList =
      (condition d place c).toList ++ continued d (place + (params c).length) cs := by
  induction cs generalizing place c with
  | nil => simp [conditions, continued_nil]
  | cons c' cs ih =>
    have later := ih (place + (params c).length) c'
    rw [conditions] at later
    rw [conditions, conditions, String.intercalate_cons_cons, String.toList_append,
      String.toList_append, later, continued_cons, List.append_assoc]

/-- No placeholder goes on into a further condition. -/
theorem endsNumber_continued (d : SqlDialect) (place : Nat) (cs : Criteria) :
    EndsNumber (continued d place cs) := by
  cases cs <;> simp [continued_nil, continued_cons, EndsNumber]

/-- Placeholders in a row can be counted in two parts. -/
theorem placeholders_add (d : SqlDialect) (place m n : Nat) :
    d.placeholders place (m + n) = d.placeholders place m ++ d.placeholders (place + m) n := by
  induction m generalizing place with
  | zero => simp [SqlDialect.placeholders]
  | succ m ih =>
    rw [Nat.succ_add, SqlDialect.placeholders, SqlDialect.placeholders, ih, List.cons_append,
      Nat.add_assoc, Nat.add_comm 1 m]

theorem placeholders_eq_map_range (d : SqlDialect) (place n : Nat) :
    d.placeholders place n = (List.range n).map fun k => d.placeholder (place + k) := by
  induction n with
  | zero => rfl
  | succ n ih =>
    rw [placeholders_add, ih, List.range_succ, List.map_append]
    rfl

/-- The placeholders of further conditions are read in their order, one for each value. -/
theorem placeholdersIn_continued (d : SqlDialect) (place : Nat) (cs : Criteria) :
    placeholdersIn d false (continued d place cs) =
      d.placeholders place (cs.flatMap params).length := by
  induction cs generalizing place with
  | nil => rfl
  | cons c cs ih =>
    rw [continued_cons, placeholdersIn_plain_append _ (isPlain_conjunction d),
      placeholdersIn_condition_append d place c (endsNumber_continued d _ cs), ih,
      List.flatMap_cons, List.length_append, placeholders_add]

/-- Every value has one placeholder outside quoted names, in the order of the values. -/
theorem placeholdersIn_renderWhere (cs : Criteria) (d : SqlDialect) :
    placeholdersIn d false (renderWhere cs d).sql.toList =
      (List.range (cs.flatMap params).length).map fun k => d.placeholder (k + 1) := by
  simp only [Nat.add_comm _ 1, ← placeholders_eq_map_range]
  cases cs with
  | nil => cases d <;> decide
  | cons c cs =>
    rw [sql_renderWhere_cons, toList_intercalate_conditions,
      placeholdersIn_condition_append d 1 c (endsNumber_continued d _ cs),
      placeholdersIn_continued, List.flatMap_cons, List.length_append, placeholders_add]

/-- Criteria that are written the same have the same form, one by one: no condition can be taken
for more or fewer than one. -/
theorem sameForm_of_continued {d : SqlDialect} {place : Nat} {c c' : Criterion}
    {cs cs' : Criteria}
    (same : (condition d place c).toList ++ continued d (place + (params c).length) cs =
      (condition d place c').toList ++ continued d (place + (params c').length) cs') :
    List.Forall₂ Criterion.SameForm (c :: cs) (c' :: cs') := by
  obtain ⟨fields, predicates, counts, rests⟩ := condition_append_inj same
  refine .cons (sameForm_iff.2 ⟨fields, predicates, counts⟩) ?_
  rw [counts] at rests
  rcases cs with _ | ⟨next, cs⟩ <;> rcases cs' with _ | ⟨next', cs'⟩
  · exact .nil
  · simp [continued_nil, continued_cons] at rests
  · simp [continued_nil, continued_cons] at rests
  · exact sameForm_of_continued (List.append_cancel_left rests)

/-- Criteria of one form that bind the same values are the same: the form tells how many of the
values belong to each of them. -/
theorem criteria_ext {cs cs' : Criteria} (forms : List.Forall₂ Criterion.SameForm cs cs')
    (values : cs.flatMap params = cs'.flatMap params) : cs = cs' := by
  induction forms with
  | nil => rfl
  | cons form _ ih =>
    obtain ⟨fields, predicates, counts⟩ := sameForm_iff.1 form
    rw [List.flatMap_cons, List.flatMap_cons] at values
    obtain ⟨own, others⟩ := List.append_inj values counts
    rw [criterion_ext fields predicates own, ih others]

/-- No condition can be taken for the text of no criteria. -/
theorem intercalate_conditions_ne (d : SqlDialect) (place : Nat) (c : Criterion)
    (cs : Criteria) : " AND ".intercalate (conditions d place (c :: cs)) ≠ "TRUE" := by
  intro always
  have heads := congrArg (fun text => text.toList.head?) always
  rw [toList_intercalate_conditions, toList_condition_append] at heads
  rcases opening_eq_or d (predicate c) with none | lower
  · rw [none, SqlDialect.toList_quote] at heads
    exact absurd (Option.some.inj heads) (by cases d <;> decide)
  · rw [lower] at heads
    exact absurd (Option.some.inj heads) (by decide)

/-- Conditions with one text belong to criteria of one form. -/
theorem sameForm_of_sql_renderWhere {cs cs' : Criteria} {d : SqlDialect}
    (sqls : (renderWhere cs d).sql = (renderWhere cs' d).sql) :
    List.Forall₂ Criterion.SameForm cs cs' := by
  rcases cs with _ | ⟨c, cs⟩ <;> rcases cs' with _ | ⟨c', cs'⟩
  · exact .nil
  · exact absurd sqls.symm (sql_renderWhere_cons c' cs' d ▸ intercalate_conditions_ne d 1 c' cs')
  · exact absurd sqls (sql_renderWhere_cons c cs d ▸ intercalate_conditions_ne d 1 c cs)
  · have texts := congrArg String.toList sqls
    rw [sql_renderWhere_cons, sql_renderWhere_cons, toList_intercalate_conditions,
      toList_intercalate_conditions] at texts
    exact sameForm_of_continued texts

theorem renderWhere_inj {cs cs' : Criteria} {d : SqlDialect}
    (sqls : (renderWhere cs d).sql = (renderWhere cs' d).sql)
    (values : (renderWhere cs d).params = (renderWhere cs' d).params) : cs = cs' :=
  criteria_ext (sameForm_of_sql_renderWhere sqls) (by simpa only [params_renderWhere] using values)

/-- A condition has exactly the placeholders of its values, numbered from one where they are
numbered, whatever the names in it hold; and no other criteria have its text and its values. -/
theorem renderWhere_lossless (d : SqlDialect) (cs : Criteria) :
    (renderWhere cs d).params = cs.flatMap params ∧
      placeholdersIn d false (renderWhere cs d).sql.toList =
        (List.range (renderWhere cs d).params.length).map (fun k => d.placeholder (k + 1)) ∧
      ∀ cs' : Criteria, ((renderWhere cs' d).sql = (renderWhere cs d).sql ∧
        (renderWhere cs' d).params = (renderWhere cs d).params) ↔ cs' = cs := by
  have bound := params_renderWhere cs d
  refine ⟨bound, bound ▸ placeholdersIn_renderWhere cs d, fun cs' => ⟨?_, ?_⟩⟩
  · rintro ⟨sqls, values⟩
    exact renderWhere_inj sqls values
  · rintro rfl
    exact ⟨rfl, rfl⟩

/-- A name that looks like the end of a condition stays a name. -/
example : placeholdersIn .postgres false
    (renderWhere [.equals "a\" = $7 AND \"b" (.flag true), .isIn "c" []] .postgres).sql.toList =
      ["$1"] := by decide

/-! ## Texts without values -/

/-- A condition depends on the form of its criterion alone. -/
theorem condition_congr {c c' : Criterion} (form : c.SameForm c') (d : SqlDialect) (place : Nat) :
    condition d place c = condition d place c' := by
  cases form with
  | isIn field counts => simp only [condition, Criterion.field, counts]
  | like field pattern pattern' anyCase => cases anyCase <;> rfl
  | _ => rfl

/-- Criteria of one form use up the same places, so that the ones behind them are written alike
as well. -/
theorem conditions_congr {cs cs' : Criteria} (forms : List.Forall₂ Criterion.SameForm cs cs')
    (d : SqlDialect) (place : Nat) : conditions d place cs = conditions d place cs' := by
  induction forms generalizing place with
  | nil => rfl
  | cons form _ ih =>
    obtain ⟨-, -, counts⟩ := sameForm_iff.1 form
    rw [conditions, conditions, condition_congr form, counts, ih]

/-- Criteria of the same form have the same text. -/
theorem sql_renderWhere_congr {cs cs' : Criteria}
    (forms : List.Forall₂ Criterion.SameForm cs cs') (d : SqlDialect) :
    (renderWhere cs d).sql = (renderWhere cs' d).sql := by
  rw [renderWhere_eq, renderWhere_eq, conditions_congr forms]
  cases forms <;> rfl

/-- **The text of a condition shows the form of its criteria and nothing of their values.**  Two
conditions have one text exactly if their criteria differ in nothing but values, and the values
stand beside the text in their order. -/
theorem renderWhere_sameForm (d : SqlDialect) (cs cs' : Criteria) :
    ((renderWhere cs d).sql = (renderWhere cs' d).sql ↔ List.Forall₂ Criterion.SameForm cs cs') ∧
      (renderWhere cs d).params = cs.flatMap params :=
  ⟨⟨sameForm_of_sql_renderWhere, fun forms => sql_renderWhere_congr forms d⟩,
    params_renderWhere cs d⟩

/-- A value that looks like the end of a statement stays out of it. -/
example : (renderWhere [.equals "name" (.text "x'; DROP TABLE t; --")] .postgres).sql =
    "\"name\" = $1" := by decide

end Sql

end Listing
