import Mathlib
import Listing.Proofs.Statement
import Listing.Proofs.TypedBounds

/-!
# The form of compiled criteria

Whatever the states of a filter and the bounds of ranges are, compilation makes criteria that can
be asked of a database.  No list of values is empty and no value to compare with is null; the
criteria of ranges come behind all others, in the order of the names of their fields; and a text is
looked for on a textual field only.  So no statement has an empty list in it, and null is bound
nowhere but inside a list.

* `Criterion.WellFormed` says what holds of each criterion, and `Criteria.Arranged` what holds of
  their order;
* `Sql.hasEmptyList` looks for empty lists outside quoted names, and `Sql.hasEmptyList_renderWhere`
  says when there is one;
* `Sql.null_of_params` says which criteria bind null;
* `compile_wellFormed` is the conclusion for whole compilations.
-/

namespace Listing

/-! ## Each criterion -/

/-- The pattern looks for the text that a filter has on a visible textual field, which is no
identifier. -/
def Searched (filter : Option FilterView) (inherited : Bool) (name pattern : String) : Prop :=
  ∃ view ∈ filter, ∃ field ∈ classify view.declared inherited, ∃ s : String,
    field.name = name ∧ field.kind = .text ∧ field.isIdentifier = false ∧
      view.slot? name = some (.value (.text s)) ∧ s ≠ "" ∧ pattern = "%" ++ s ++ "%"

namespace Criterion

/-- Lists are not empty, values are not null, and patterns come from texts of the filter. -/
def WellFormed (filter : Option FilterView) (options : FilterOptions) : Criterion → Prop
  | equals _ v | atLeast _ v | atMost _ v => v.isNull = false
  | between _ low high => low.isNull = false ∧ high.isNull = false
  | isIn _ vs => vs ≠ []
  | like name pattern ignoreCase =>
    ignoreCase = options.ignoreCase ∧ Searched filter options.inherited name pattern
  | isNull _ | isNotNull _ => True

/-- The criterion is that of a range. -/
def isRange : Criterion → Bool
  | between _ _ _ | atLeast _ _ | atMost _ _ => true
  | _ => false

end Criterion

/-- The criteria of ranges come behind all others, and their names increase. -/
structure Criteria.Arranged (cs : Criteria) : Prop where
  apart : cs.filter (!·.isRange) ++ cs.filter (·.isRange) = cs
  increasing : ((cs.filter (·.isRange)).map Criterion.field).Pairwise (· < ·)

section Filters

variable {view : FilterView} {options : FilterOptions} {field : FieldDescriptor} {c : Criterion}

/-- A value of a visible field asks for a criterion that is well formed, and is none of a range. -/
theorem wellFormed_of_compileValue {v : Value} (present : v.isNull = false)
    (visible : field ∈ classify view.declared options.inherited)
    (other : field.isIdentifier = false) (state : view.slot? field.name = some (.value v))
    (ok : compileValue field options v = some c) :
    c.WellFormed (some view) options ∧ c.isRange = false := by
  obtain ⟨vs, -, filled, rfl⟩ | ⟨s, rfl, given, textual, rfl⟩ | ⟨w, same, rfl⟩ :=
    compileValue_cases ok
  · exact ⟨filled, rfl⟩
  · have searched : Searched (some view) options.inherited field.name ("%" ++ s ++ "%") :=
      ⟨view, rfl, field, visible, s, rfl, textual, other, state, given, rfl⟩
    exact ⟨⟨rfl, searched⟩, rfl⟩
  · exact ⟨same.trans present, rfl⟩

theorem wellFormed_of_compileField {slot : Slot Value}
    (visible : field ∈ classify view.declared options.inherited)
    (state : view.slot? field.name = some slot) (ok : compileField field slot options = some c) :
    c.WellFormed (some view) options ∧ c.isRange = false := by
  cases slot with
  | unset => cases ok
  | isNull => cases ok; exact ⟨trivial, rfl⟩
  | isNotNull => cases ok; exact ⟨trivial, rfl⟩
  | value v =>
    rw [compileField_value] at ok
    split_ifs at ok with null identifier
    · cases ok
      exact ⟨eq_false_of_ne_true null, rfl⟩
    · exact wellFormed_of_compileValue (eq_false_of_ne_true null) visible
        (eq_false_of_ne_true identifier) state ok

/-- All criteria of a filter are well formed. -/
theorem wellFormed_of_mem_compileFilters (leaf : c ∈ compileFilters view options) :
    c.WellFormed (some view) options ∧ c.isRange = false := by
  obtain ⟨field, visible, asked⟩ := List.mem_filterMap.1 leaf
  obtain ⟨slot, state, ok⟩ := Option.bind_eq_some_iff.1 asked
  exact wellFormed_of_compileField visible state ok

end Filters

section Ranges

variable {entity : DeclaredType} {ranges : RangeFilter} {c : Criterion}

theorem isNull_of_bound? {kind : Option Kind} {value : Option Value} {v : Value}
    (bounded : bound? kind value = some v) : v.isNull = false := by
  obtain ⟨w, present, rfl⟩ := Option.map_eq_some_iff.1 bounded
  rw [isNull_coerceBound]
  simpa using (Option.filter_eq_some_iff.1 present).2

/-- All criteria of ranges are well formed, whatever the filter. -/
theorem wellFormed_of_mem_compileRanges (filter : Option FilterView) (options : FilterOptions)
    (leaf : c ∈ compileRanges entity ranges) :
    c.WellFormed filter options ∧ c.isRange = true := by
  obtain ⟨name, range, -, -, ok⟩ := mem_compileRanges.1 leaf
  obtain ⟨low, high, below, above, rfl⟩ | ⟨low, below, rfl⟩ | ⟨high, above, rfl⟩ :=
    compileRange_cases ok
  · exact ⟨⟨isNull_of_bound? below, isNull_of_bound? above⟩, rfl⟩
  · exact ⟨isNull_of_bound? below, rfl⟩
  · exact ⟨isNull_of_bound? above, rfl⟩

/-- The criteria of ranges come in the order of the names. -/
theorem increasing_compileRanges (entity : DeclaredType) (ranges : RangeFilter) :
    ((compileRanges entity ranges).map Criterion.field).Pairwise (· < ·) := by
  rw [List.pairwise_map, compileRanges, List.pairwise_filterMap]
  refine ranges.ranges.increasing.imp ?_
  intro entry entry' less c ok c' ok'
  have named {name : String} {range : Range} {c : Criterion}
      (ok : (if (findField entity name true).any (·.isIdentifier) then none
        else compileRange name range ((findField entity name true).map (·.kind))) = some c) :
      c.field = name := by
    split_ifs at ok
    exact compileRange_field ok
  rw [named ok, named ok']
  exact less

end Ranges

/-! ## All criteria -/

section All

variable (filter : Option FilterView) (ranges : Option RangeFilter) (entity : DeclaredType)
  (options : FilterOptions)

/-- What a filter asks for has no criteria of ranges in it, and what ranges ask for no others. -/
theorem exists_compile_eq_append :
    ∃ regular ranged, compile filter ranges entity options = regular ++ ranged ∧
      (∀ c ∈ regular, c.WellFormed filter options ∧ c.isRange = false) ∧
      (∀ c ∈ ranged, c.WellFormed filter options ∧ c.isRange = true) ∧
      (ranged.map Criterion.field).Pairwise (· < ·) := by
  refine ⟨_, _, compile_eq_append filter ranges entity options, ?_,
    fun c leaf => wellFormed_of_mem_compileRanges filter options leaf,
    increasing_compileRanges entity _⟩
  cases filter with
  | none => exact nofun
  | some view => exact fun c leaf => wellFormed_of_mem_compileFilters leaf

theorem wellFormed_of_mem_compile {c : Criterion}
    (leaf : c ∈ compile filter ranges entity options) : c.WellFormed filter options := by
  obtain ⟨regular, ranged, parts, first, second, -⟩ :=
    exists_compile_eq_append filter ranges entity options
  rw [parts] at leaf
  exact (List.mem_append.1 leaf).elim (fun leaf => (first c leaf).1) fun leaf => (second c leaf).1

theorem arranged_compile : (compile filter ranges entity options).Arranged := by
  obtain ⟨regular, ranged, parts, first, second, increasing⟩ :=
    exists_compile_eq_append filter ranges entity options
  have none : regular.filter (·.isRange) = [] :=
    List.filter_eq_nil_iff.2 fun c leaf => ne_true_of_eq_false (first c leaf).2
  have all : ranged.filter (·.isRange) = ranged :=
    List.filter_eq_self.2 fun c leaf => (second c leaf).2
  have none' : ranged.filter (!·.isRange) = [] :=
    List.filter_eq_nil_iff.2 fun c leaf => by simp [(second c leaf).2]
  have all' : regular.filter (!·.isRange) = regular :=
    List.filter_eq_self.2 fun c leaf => by simp [(first c leaf).2]
  rw [parts]
  constructor
  · rw [List.filter_append, List.filter_append, none, all, none', all', List.append_nil,
      List.nil_append]
  · rwa [List.filter_append, none, all, List.nil_append]

end All

/-! ## Empty lists in statements -/

/-- The criterion asks for one of no values. -/
def Criterion.isInNone : Criterion → Bool
  | isIn _ vs => vs.isEmpty
  | _ => false

namespace Sql

/-- The text has an empty list in it, the text starting inside a quoted name or outside.  What is
in names does not count. -/
def hasEmptyList (d : SqlDialect) : (inName : Bool) → List Char → Bool
  | _, [] => false
  | true, c :: rest => hasEmptyList d (c != d.quoteMark) rest
  | false, c :: rest =>
    if c = d.quoteMark then hasEmptyList d true rest
    else (c == '(' && rest.head? == some ')') || hasEmptyList d false rest

/-- The text has no character that starts a name or a list. -/
def opensNothing (d : SqlDialect) (text : List Char) : Bool :=
  text.all fun c => c != d.quoteMark && c != '('

/-- A text that starts no name and no list does not matter. -/
theorem hasEmptyList_append {d : SqlDialect} {text : List Char} (plain : opensNothing d text = true)
    (rest : List Char) : hasEmptyList d false (text ++ rest) = hasEmptyList d false rest := by
  induction text with
  | nil => rfl
  | cons c text ih =>
    rw [opensNothing, List.all_cons, Bool.and_eq_true, Bool.and_eq_true, bne_iff_ne,
      bne_iff_ne] at plain
    obtain ⟨⟨noQuote, noList⟩, later⟩ := plain
    rw [List.cons_append, hasEmptyList, if_neg noQuote, beq_false_of_ne noList]
    exact ih later

/-- A list is empty if it ends where it starts. -/
theorem hasEmptyList_open (d : SqlDialect) (rest : List Char) :
    hasEmptyList d false ('(' :: rest) = (rest.head? == some ')' || hasEmptyList d false rest) := by
  have other : '(' ≠ d.quoteMark := by cases d <;> decide
  rw [hasEmptyList, if_neg other]
  rfl

/-- What stands in a name does not matter, quotes in it included. -/
theorem hasEmptyList_doubled_append (d : SqlDialect) (cs rest : List Char) :
    hasEmptyList d true (Text.doubled d.quoteMark cs ++ d.quoteMark :: rest) =
      hasEmptyList d false rest := by
  induction cs with
  | nil => simp [Text.doubled, hasEmptyList]
  | cons c cs ih =>
    by_cases h : c = d.quoteMark
    · subst h
      rw [Text.doubled_cons_self]
      simpa [hasEmptyList] using ih
    · rw [Text.doubled_cons_of_ne h, List.cons_append, hasEmptyList, bne_iff_ne.2 h]
      exact ih

/-- There are no lists in a name. -/
theorem hasEmptyList_quote_append (d : SqlDialect) (name : String) (rest : List Char) :
    hasEmptyList d false ((d.quote name).toList ++ rest) = hasEmptyList d false rest := by
  rw [SqlDialect.toList_quote, hasEmptyList, if_pos rfl, hasEmptyList_doubled_append]

theorem opensNothing_append (d : SqlDialect) (text rest : List Char) :
    opensNothing d (text ++ rest) = (opensNothing d text && opensNothing d rest) :=
  List.all_append

/-- A placeholder starts no name and no list. -/
theorem opensNothing_placeholder (d : SqlDialect) (place : Nat) :
    opensNothing d (d.placeholder place).toList = true := by
  obtain ⟨digits, all, written⟩ := exists_toList_placeholder d place
  rw [written, opensNothing, List.all_cons, Bool.and_eq_true]
  refine ⟨by cases d <;> decide, List.all_eq_true.2 fun c member => ?_⟩
  rw [Bool.and_eq_true, bne_iff_ne, bne_iff_ne]
  constructor <;> rintro rfl <;> cases d <;> exact absurd (all _ member) (by decide)

theorem opensNothing_furtherPlaceholders (d : SqlDialect) (place count : Nat) :
    opensNothing d (furtherPlaceholders d place count) = true := by
  induction count generalizing place with
  | zero => cases d <;> rfl
  | succ count ih =>
    have comma : opensNothing d [',', ' '] = true := by cases d <;> decide
    have split : furtherPlaceholders d place (count + 1) = [',', ' '] ++
        ((d.placeholder place).toList ++ furtherPlaceholders d (place + 1) count) := rfl
    rw [split, opensNothing_append, opensNothing_append, comma, opensNothing_placeholder, ih]
    rfl

theorem opensNothing_operands (d : SqlDialect) (place : Nat) (c : Criterion) :
    opensNothing d (operands d place c).toList = true := by
  have single := opensNothing_placeholder d place
  have closing : opensNothing d [')'] = true := by cases d <;> decide
  cases c with
  | equals | atLeast | atMost => exact single
  | like field pattern anyCase =>
    cases anyCase with
    | false => exact single
    | true =>
      cases d with
      | postgres => exact single
      | mysql =>
        rw [operands, String.toList_append, opensNothing_append, single]
        exact closing
  | isIn field vs =>
    rw [operands]
    cases vs.length with
    | zero =>
      rw [SqlDialect.placeholders]
      exact closing
    | succ count =>
      rw [toList_intercalate_placeholders, opensNothing_append, single,
        opensNothing_furtherPlaceholders]
      rfl
  | between field low high =>
    have conjunction : opensNothing d " AND ".toList = true := by cases d <;> decide
    rw [operands, String.toList_append, String.toList_append, opensNothing_append,
      opensNothing_append, single, conjunction, opensNothing_placeholder]
    rfl
  | isNull | isNotNull => rfl

/-- What starts with a placeholder does not end a list. -/
theorem head?_placeholder_append (d : SqlDialect) (place : Nat) (rest : List Char) :
    (((d.placeholder place).toList ++ rest).head? == some ')') = false := by
  obtain ⟨digits, -, written⟩ := exists_toList_placeholder d place
  rw [written]
  cases d <;> rfl

theorem hasEmptyList_opening_append (d : SqlDialect) (p : Predicate) {rest : List Char}
    (name : rest.head? = some d.quoteMark) :
    hasEmptyList d false ((opening d p).toList ++ rest) = hasEmptyList d false rest := by
  have lower : opensNothing d "LOWER".toList = true := by cases d <;> decide
  rcases opening_eq_or d p with none | called
  · rw [none]
    rfl
  · have parts : "LOWER(".toList ++ rest = "LOWER".toList ++ '(' :: rest := rfl
    rw [called, parts, hasEmptyList_append lower, hasEmptyList_open, name]
    cases d <;> rfl

/-- Only the keyword of a list starts a list, and only a pattern without regard to case starts a
function. -/
theorem opensNothing_keyword (d : SqlDialect) {p : Predicate} (single : p ≠ .isIn)
    (cased : p ≠ .like true) : opensNothing d (keyword d p).toList = true := by
  rcases p with _ | (_ | _) | _ | _ | _ | _ | _ | _
  case isIn => exact absurd rfl single
  case like.true => exact absurd rfl cased
  all_goals cases d <;> decide

/-- Behind a name there is an empty list exactly if the criterion asks for one of no values. -/
theorem hasEmptyList_keyword_append (d : SqlDialect) (place : Nat) (c : Criterion)
    (rest : List Char) :
    hasEmptyList d false ((keyword d (predicate c)).toList ++
        ((operands d place c).toList ++ rest)) =
      (c.isInNone || hasEmptyList d false rest) := by
  have values := hasEmptyList_append (opensNothing_operands d place c) rest
  have plain (single : predicate c ≠ .isIn) (cased : predicate c ≠ .like true) :
      hasEmptyList d false ((keyword d (predicate c)).toList ++
        ((operands d place c).toList ++ rest)) = hasEmptyList d false rest :=
    (hasEmptyList_append (opensNothing_keyword d single cased) _).trans values
  cases c with
  | isIn field vs =>
    have member : opensNothing d " IN ".toList = true := by cases d <;> decide
    have parts (text : List Char) :
        (keyword d .isIn).toList ++ text = " IN ".toList ++ '(' :: text := by cases d <;> rfl
    rw [predicate, parts, hasEmptyList_append member, hasEmptyList_open, values]
    congr 1
    rw [operands, Criterion.isInNone]
    cases vs with
    | nil =>
      rw [List.length_nil, SqlDialect.placeholders]
      rfl
    | cons v vs =>
      rw [List.length_cons, toList_intercalate_placeholders, List.append_assoc]
      exact head?_placeholder_append d place _
  | like field pattern anyCase =>
    cases anyCase with
    | false => exact plain (by simp [predicate]) (by simp [predicate])
    | true =>
      cases d with
      | postgres =>
        have plain : opensNothing .postgres (keyword .postgres (.like true)).toList = true := by
          decide
        exact (hasEmptyList_append plain _).trans values
      | mysql =>
        have called : opensNothing .mysql ") LIKE LOWER".toList = true := by decide
        have parts (text : List Char) : (keyword .mysql (.like true)).toList ++ text =
            ") LIKE LOWER".toList ++ '(' :: text := rfl
        rw [predicate, parts, hasEmptyList_append called, hasEmptyList_open, values, operands,
          String.toList_append, List.append_assoc, head?_placeholder_append]
        rfl
  | _ => exact plain (by simp [predicate]) (by simp [predicate])

/-- A condition has an empty list in it exactly if the criterion asks for one of no values. -/
theorem hasEmptyList_condition_append (d : SqlDialect) (place : Nat) (c : Criterion)
    (rest : List Char) :
    hasEmptyList d false ((condition d place c).toList ++ rest) =
      (c.isInNone || hasEmptyList d false rest) := by
  rw [toList_condition_append,
    hasEmptyList_opening_append d _ (SqlDialect.head?_quote_append d _ _),
    hasEmptyList_quote_append, hasEmptyList_keyword_append]

theorem hasEmptyList_continued (d : SqlDialect) (place : Nat) (cs : Criteria) :
    hasEmptyList d false (continued d place cs) = cs.any Criterion.isInNone := by
  have conjunction : opensNothing d " AND ".toList = true := by cases d <;> decide
  induction cs generalizing place with
  | nil => rfl
  | cons c cs ih =>
    rw [continued_cons, hasEmptyList_append conjunction, hasEmptyList_condition_append, ih,
      List.any_cons]

/-- There is an empty list in a condition exactly if one of the criteria asks for one of no
values. -/
theorem hasEmptyList_renderWhere (cs : Criteria) (d : SqlDialect) :
    hasEmptyList d false (renderWhere cs d).sql.toList = cs.any Criterion.isInNone := by
  cases cs with
  | nil => cases d <;> decide
  | cons c cs =>
    rw [sql_renderWhere_cons, toList_intercalate_conditions, hasEmptyList_condition_append,
      hasEmptyList_continued, List.any_cons]

/-- A name that looks like an empty list is none. -/
example : hasEmptyList .mysql false
    (renderWhere [.like "a IN ()" "%b%" true, .isIn "c" [.flag true]] .mysql).sql.toList = false ∧
      hasEmptyList .mysql false (renderWhere [.isIn "c" []] .mysql).sql.toList = true := by
  decide

/-! ## Null among the values of statements -/

/-- Every value that is bound is one of the values of one criterion. -/
theorem exists_params_eq {cs : Criteria} {front back : List Value} {v : Value}
    (bound : cs.flatMap params = front ++ v :: back) :
    ∃ before c after values values', cs = before ++ c :: after ∧
      params c = values ++ v :: values' ∧ front = before.flatMap params ++ values ∧
        back = values' ++ after.flatMap params := by
  induction cs generalizing front with
  | nil => simp at bound
  | cons c cs ih =>
    rw [List.flatMap_cons] at bound
    rcases List.append_eq_append_iff.1 bound with ⟨later, rfl, rest⟩ | ⟨own, values, rest⟩
    · obtain ⟨before, c', after, values, values', rfl, held, rfl, rfl⟩ := ih rest
      exact ⟨c :: before, c', after, values, values', rfl, held, by simp, rfl⟩
    · cases own with
      | nil =>
        have later : cs.flatMap params = [] ++ v :: back := rest.symm
        obtain ⟨before, c', after, inner, inner', rfl, held, place, rfl⟩ := ih later
        refine ⟨c :: before, c', after, inner, inner', rfl, held, ?_, rfl⟩
        rw [List.flatMap_cons, values, List.append_assoc, ← place, List.append_nil,
          List.append_nil]
      | cons w own =>
        obtain ⟨rfl, rfl⟩ := List.cons.inj rest
        exact ⟨[], c, cs, front, own, rfl, values, rfl, rfl⟩

/-- Where criteria are well formed, null is bound inside a list only. -/
theorem null_of_params {filter : Option FilterView} {options : FilterOptions} {cs : Criteria}
    (wellFormed : ∀ c ∈ cs, c.WellFormed filter options) {front back : List Value}
    (bound : cs.flatMap params = front ++ .null :: back) :
    ∃ before field items items' after,
      cs = before ++ .isIn field (items ++ .null :: items') :: after ∧
        front = before.flatMap params ++ items ∧ back = items' ++ after.flatMap params := by
  obtain ⟨before, c, after, items, items', rfl, held, rfl, rfl⟩ := exists_params_eq bound
  have sound := wellFormed c (List.mem_append_right _ List.mem_cons_self)
  have null : Value.null ∈ params c := held ▸ List.mem_append_right _ List.mem_cons_self
  cases c with
  | isIn field vs =>
    obtain rfl : vs = items ++ .null :: items' := held
    exact ⟨before, field, items, items', after, rfl, rfl, rfl⟩
  | equals _ v | atLeast _ v | atMost _ v =>
    obtain rfl := List.mem_singleton.1 null
    cases sound
  | between _ low high =>
    rcases List.mem_pair.1 null with rfl | rfl
    · cases sound.1
    · cases sound.2
  | like _ pattern _ => cases List.mem_singleton.1 null
  | isNull | isNotNull => cases null

end Sql

/-- **Compiled criteria are well formed.**  They have no empty list and no null to compare with,
patterns only for texts on textual fields, and the criteria of ranges, in the order of their names,
behind all others.  So the statements that are made of them have no empty list, and null is bound
in them only as one of the values of a list. -/
theorem compile_wellFormed (filter : Option FilterView) (ranges : Option RangeFilter)
    (entity : DeclaredType) (options : FilterOptions) :
    (∀ c ∈ compile filter ranges entity options, c.WellFormed filter options) ∧
      (compile filter ranges entity options).Arranged ∧
      ∀ d : SqlDialect,
        Sql.hasEmptyList d false
            (Sql.renderWhere (compile filter ranges entity options) d).sql.toList = false ∧
          ∀ front back, (Sql.renderWhere (compile filter ranges entity options) d).params =
              front ++ .null :: back →
            ∃ before field items items' after, compile filter ranges entity options =
                before ++ .isIn field (items ++ .null :: items') :: after ∧
              front = before.flatMap Sql.params ++ items ∧
                back = items' ++ after.flatMap Sql.params := by
  have wellFormed (c : Criterion) (leaf : c ∈ compile filter ranges entity options) :
      c.WellFormed filter options :=
    wellFormed_of_mem_compile filter ranges entity options leaf
  refine ⟨wellFormed, arranged_compile filter ranges entity options, fun d => ⟨?_, ?_⟩⟩
  · rw [Sql.hasEmptyList_renderWhere, List.any_eq_false]
    intro c leaf
    cases c with
    | isIn field vs =>
      have filled : vs ≠ [] := wellFormed _ leaf
      simpa [Criterion.isInNone] using filled
    | _ => exact Bool.false_ne_true
  · intro front back bound
    rw [Sql.params_renderWhere] at bound
    exact Sql.null_of_params wellFormed bound

end Listing
