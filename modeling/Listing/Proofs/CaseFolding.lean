import Mathlib
import Listing.Catalogue
import Listing.Proofs.SlotChanges
import Listing.Proofs.TextSearch

/-!
# Searching without regard to case

Whether case counts is a matter of the criteria on patterns and of no others.  Where it does not,
such a criterion holds of more texts, and of a text exactly if it holds of those that differ from
it in case alone; the pattern may differ so as well.  For no wildcard has another case, so that a
text which can be cut as one of two patterns says can be cut as the other one does, at the same
places.

* `Text.Alike` says which texts differ in case alone, and `Text.eq_of_folded_eq` that wildcards
  never do;
* `Pattern.isCut_of_alike` and `Pattern.isCut_anyCase` say what becomes of the cuts of a text;
* `compile_anyCase` says what the switch makes of criteria, and `compileFilters_recased` what a
  change of case in a filter does;
* `compile_ignoreCase` is the conclusion for whole compilations.
-/

namespace Listing

/-! ## Texts that differ in case alone -/

namespace Text

/-- A character is not moved to one that lies before all places to which characters are moved. -/
theorem eq_of_shifted_eq {shifts : List Shift} {c d : Char} (positive : 0 < d.toNat)
    (before : ∀ s ∈ shifts, (d.toNat : Int) < s.1 + s.2.2.2) (moved : shifted shifts c = d) :
    c = d := by
  unfold shifted at moved
  split at moved
  · rename_i s found
    have holds : s.span.contains c.toNat = true := by simpa using List.find?_some found
    have start : s.1 ≤ c.toNat := by
      simp only [Span.contains, Bool.and_eq_true, decide_eq_true_eq] at holds
      exact holds.1.1
    have target := before s (List.mem_of_find?_eq_some found)
    have place := congrArg Char.toNat moved
    rw [Char.toNat_ofNat] at place
    split at place <;> omega
  · exact moved

/-- Small letters and what comes behind them are all that other characters are folded to. -/
theorem le_of_mem_foldShifts : ∀ s ∈ foldShifts, (97 : Int) ≤ s.1 + s.2.2.2 := by
  decide +kernel

/-- A wildcard is a case of itself alone. -/
theorem eq_of_folded_eq {c wildcard : Char} (sign : wildcard = '%' ∨ wildcard = '_')
    (same : folded c = folded wildcard) : c = wildcard := by
  have stays : folded wildcard = wildcard := by rcases sign with rfl | rfl <;> decide
  have small : 0 < wildcard.toNat ∧ wildcard.toNat < 97 := by
    rcases sign with rfl | rfl <;> decide
  rw [stays] at same
  unfold folded at same
  split_ifs at same with ascii capital
  · -- A small letter comes behind both wildcards.
    have place := congrArg Char.toNat same
    simp only [Bool.and_eq_true, decide_eq_true_eq, Char.le_def, UInt32.le_iff_toNat_le] at capital
    have low : 65 ≤ c.toNat := capital.1
    rw [Char.toNat_ofNat] at place
    split at place <;> omega
  · exact same
  · refine eq_of_shifted_eq small.1 (fun s member => ?_) same
    have target := le_of_mem_foldShifts s member
    omega

/-- Two texts whose characters are, one by one, equal up to simple case folding. -/
def Alike (s t : List Char) : Prop := s.map folded = t.map folded

instance (s t : List Char) : Decidable (Alike s t) :=
  inferInstanceAs (Decidable (s.map folded = t.map folded))

theorem alike_append_iff {front back t : List Char} :
    Alike (front ++ back) t ↔ ∃ front' back', t = front' ++ back' ∧ Alike front front' ∧
      Alike back back' := by
  rw [Alike, List.map_append, eq_comm, List.map_eq_append_iff]
  simp only [Alike, eq_comm]

/-- A text in another case has another case of the first character in front. -/
theorem alike_cons_iff {c : Char} {cs t : List Char} :
    Alike (c :: cs) t ↔ ∃ c' cs', t = c' :: cs' ∧ folded c = folded c' ∧ Alike cs cs' := by
  rw [Alike, List.map_cons, eq_comm, List.map_eq_cons_iff]
  simp only [Alike, eq_comm]

theorem alike_nil_iff {t : List Char} : Alike [] t ↔ t = [] := by
  rw [Alike, List.map_nil, eq_comm, List.map_eq_nil_iff]

theorem alike_singleton_iff {c : Char} {t : List Char} :
    Alike [c] t ↔ ∃ c', t = [c'] ∧ folded c = folded c' := by
  simp [alike_cons_iff, alike_nil_iff]

end Text

open Text (Alike folded)

/-! ## Cuts of such texts -/

namespace Pattern

/-- Where case does not count, a character stands for every part that differs in case from one for
which another case of the character stands. -/
theorem covers_of_alike {c c' : Char} {part part' : List Char} (cased : folded c = folded c')
    (alike : Alike part part') (covers : Covers true c part) : Covers true c' part' := by
  by_cases percent : c' = '%'
  · subst percent
    trivial
  by_cases underscore : c' = '_'
  · subst underscore
    obtain rfl := Text.eq_of_folded_eq (.inr rfl) cased
    obtain ⟨d, rfl⟩ := covers
    obtain ⟨d', rfl, -⟩ := Text.alike_singleton_iff.1 alike
    exact ⟨d', rfl⟩
  · have plain : c ≠ '%' ∧ c ≠ '_' := by
      refine ⟨fun sign => percent ?_, fun sign => underscore ?_⟩
      · exact Text.eq_of_folded_eq (.inl rfl) (sign ▸ cased.symm)
      · exact Text.eq_of_folded_eq (.inr rfl) (sign ▸ cased.symm)
    obtain ⟨d, rfl, stands⟩ := (covers_of_plain plain.1 plain.2).1 covers
    obtain ⟨d', rfl, other⟩ := Text.alike_singleton_iff.1 alike
    have same : folded c = folded d := by
      rcases stands with rfl | ⟨-, same⟩
      · rfl
      · exact beq_iff_eq.1 same
    refine (covers_of_plain percent underscore).2 ⟨d', rfl, .inr ⟨rfl, beq_iff_eq.2 ?_⟩⟩
    exact cased.symm.trans (same.trans other)

/-- Where case does not count, the cuts of a text are those of every text that differs from it in
case alone. -/
theorem isCut_of_alike {cs cs' text text' : List Char} (pattern : Alike cs cs')
    (texts : Alike text text') (cut : IsCut true cs text) : IsCut true cs' text' := by
  induction cs generalizing cs' text text' with
  | nil =>
    obtain rfl := Text.alike_nil_iff.1 pattern
    obtain rfl := isCut_nil.1 cut
    exact isCut_nil.2 (Text.alike_nil_iff.1 texts)
  | cons c cs ih =>
    obtain ⟨c', cs', rfl, first, later⟩ := Text.alike_cons_iff.1 pattern
    obtain ⟨part, rest, rfl, covers, cut⟩ := isCut_cons.1 cut
    obtain ⟨part', rest', rfl, alike, others⟩ := Text.alike_append_iff.1 texts
    exact isCut_cons.2 ⟨part', rest', rfl, covers_of_alike first alike covers, ih later others cut⟩

/-- What a character stands for where case counts it stands for where it does not. -/
theorem covers_anyCase {c : Char} {part : List Char} (covers : Covers false c part) :
    Covers true c part := by
  rw [covers_iff_standsFor] at covers ⊢
  cases kind : Piece.ofChar c with
  | anyText => trivial
  | anyChar =>
    rw [kind] at covers
    exact covers
  | exactly c' =>
    rw [kind] at covers
    obtain ⟨d, rfl, same⟩ := covers
    obtain equal | ⟨regarded, -⟩ := same_iff.1 same
    · exact ⟨d, rfl, same_iff.2 (.inl equal)⟩
    · cases regarded

/-- A cut that regards case is one that does not. -/
theorem isCut_anyCase {cs text : List Char} (cut : IsCut false cs text) : IsCut true cs text := by
  obtain ⟨parts, whole, covered⟩ := cut
  exact ⟨parts, whole, covered.imp fun _ _ => covers_anyCase⟩

end Pattern

/-! ## Criteria that differ in case alone -/

namespace Criterion

/-- The criterion is one on the pattern of a text. -/
def isLike : Criterion → Bool
  | like _ _ _ => true
  | _ => false

/-- The criterion without regard to case. -/
def anyCase : Criterion → Criterion
  | like f p _ => like f p true
  | c => c

theorem field_anyCase (c : Criterion) : c.anyCase.field = c.field := by
  cases c <;> rfl

/-- A criterion holds of no fewer values when it disregards case. -/
theorem holds_anyCase {c : Criterion} {stored : Option Value} (holds : c.holds stored = true) :
    c.anyCase.holds stored = true := by
  cases c with
  | like f p ignoreCase =>
    cases ignoreCase with
    | true => exact holds
    | false =>
      obtain ⟨s, text, cut⟩ := holds_like_iff.1 holds
      exact holds_like_iff.2 ⟨s, text, Pattern.isCut_anyCase cut⟩
  | _ => exact holds

end Criterion

/-- The same value, or texts or names of choices that differ in case alone. -/
inductive Value.Recased : Value → Value → Prop
  | same (v : Value) : Recased v v
  | text {s t : String} (alike : Alike s.toList t.toList) : Recased (.text s) (.text t)
  | choice {s t : String} (alike : Alike s.toList t.toList) : Recased (.choice s) (.choice t)

theorem Value.Recased.symm {v w : Value} (recased : v.Recased w) : w.Recased v := by
  cases recased with
  | same v => exact .same v
  | text alike => exact .text alike.symm
  | choice alike => exact .choice alike.symm

namespace Criterion

/-- A value that suits a pattern without regard to case still suits it when the case of either is
changed. -/
theorem suits_of_recased {p q : String} (patterns : Alike p.toList q.toList)
    {stored stored' : Option Value} (recased : Option.Rel Value.Recased stored stored')
    (suits : Suits p true stored) : Suits q true stored' := by
  obtain ⟨s, held, cut⟩ := suits
  cases recased with
  | none => rcases held with held | held <;> cases held
  | some recased =>
    cases recased with
    | same v => exact ⟨s, held, Pattern.isCut_of_alike patterns rfl cut⟩
    | @text s' t alike =>
      obtain rfl : s' = s := by simpa using held
      exact ⟨t, .inl rfl, Pattern.isCut_of_alike patterns alike cut⟩
    | @choice s' t alike =>
      obtain rfl : s' = s := by simpa using held
      exact ⟨t, .inr rfl, Pattern.isCut_of_alike patterns alike cut⟩

/-- Where case does not count, a criterion on a pattern holds of a value exactly if the criterion on
another case of the pattern holds of another case of the value. -/
theorem holds_like_of_recased (f : String) {p q : String} (patterns : Alike p.toList q.toList)
    {stored stored' : Option Value} (recased : Option.Rel Value.Recased stored stored') :
    (like f p true).holds stored = (like f q true).holds stored' := by
  have back : Option.Rel Value.Recased stored' stored := by
    cases recased with
    | none => exact .none
    | some recased => exact .some recased.symm
  rw [Bool.eq_iff_iff, holds_like_iff, holds_like_iff]
  exact ⟨suits_of_recased patterns recased, suits_of_recased patterns.symm back⟩

end Criterion

/-! ## What the switch makes of criteria -/

/-- For the state of one field the switch changes a criterion on a pattern and no other. -/
theorem compileField_anyCase (field : FieldDescriptor) (slot : Slot Value) (inherited : Bool) :
    compileField field slot ⟨true, inherited⟩ =
      (compileField field slot ⟨false, inherited⟩).map Criterion.anyCase := by
  have compiled (v : Value) : compileValue field ⟨true, inherited⟩ v =
      (compileValue field ⟨false, inherited⟩ v).map Criterion.anyCase := by
    unfold compileValue
    repeat' split
    all_goals rfl
  unfold compileField
  repeat' split
  all_goals first | rfl | exact compiled _

theorem compileFilters_anyCase (filter : FilterView) (inherited : Bool) :
    compileFilters filter ⟨true, inherited⟩ =
      (compileFilters filter ⟨false, inherited⟩).map Criterion.anyCase := by
  unfold compileFilters
  rw [List.map_filterMap]
  refine List.filterMap_congr fun field _ => ?_
  cases filter.slot? field.name with
  | none => rfl
  | some slot => exact compileField_anyCase field slot inherited

/-- There are no patterns among the criteria of ranges. -/
theorem anyCase_of_mem_compileRanges {entity : DeclaredType} {ranges : RangeFilter} {c : Criterion}
    (leaf : c ∈ compileRanges entity ranges) : c.anyCase = c := by
  obtain ⟨name, range, -, -, ok⟩ := mem_compileRanges.1 leaf
  obtain ⟨-, -, -, -, rfl⟩ | ⟨-, -, rfl⟩ | ⟨-, -, rfl⟩ := compileRange_cases ok <;> rfl

/-- The switch changes the criteria on patterns and nothing else. -/
theorem compile_anyCase (filter : Option FilterView) (ranges : Option RangeFilter)
    (entity : DeclaredType) (inherited : Bool) :
    compile filter ranges entity ⟨true, inherited⟩ =
      (compile filter ranges entity ⟨false, inherited⟩).map Criterion.anyCase := by
  have unchanged : (compileRanges entity (ranges.getD .empty)).map Criterion.anyCase =
      compileRanges entity (ranges.getD .empty) :=
    (List.map_congr_left fun c leaf => anyCase_of_mem_compileRanges leaf).trans (List.map_id' _)
  rw [compile_eq_append, compile_eq_append, List.map_append, unchanged]
  cases filter with
  | none => rfl
  | some filter => exact congrArg (· ++ _) (compileFilters_anyCase filter inherited)

/-! ## Changes of case -/

/-- The value of a state changes in case alone. -/
def SlotRecased (before after : Slot Value) : Prop :=
  ∃ v w, before = .value v ∧ after = .value w ∧ v.Recased w

/-- Two filters of one type that differ in the state of one field, and there in case alone. -/
structure FilterView.RecasedAt (field : String) (before after : FilterView) : Prop where
  changed : before.Changed SlotRecased after
  others (name : String) : name ≠ field → after.slot? name = before.slot? name

/-- Two records that differ in the value of one field, and there in case alone. -/
structure StoredRecasedAt (field : String) (before after : String → Option Value) : Prop where
  changed : Option.Rel Value.Recased (before field) (after field)
  others (name : String) : name ≠ field → after name = before name

/-- The same criterion; or one on the pattern of a field, in another case; or one of another kind
on that field, in place of which there may be any. -/
inductive Criterion.Recased (field : String) : Criterion → Criterion → Prop
  | same (c : Criterion) : Recased field c c
  | like {p q : String} (ignoreCase : Bool) (alike : Alike p.toList q.toList) :
      Recased field (.like field p ignoreCase) (.like field q ignoreCase)
  | other {c c' : Criterion} (named : c.field = field) (kind : c.isLike = false) :
      Recased field c c'

theorem Criterion.Recased.refl_option (field : String) (c : Option Criterion) :
    Option.Rel (Criterion.Recased field) c c := by
  cases c with
  | none => exact .none
  | some c => exact .some (.same c)

/-- A change of case leaves a text empty or not empty. -/
theorem eq_empty_of_alike {s t : String} (alike : Alike s.toList t.toList) : s = "" ↔ t = "" := by
  have length : s.toList.length = t.toList.length := by
    simpa using congrArg List.length alike
  rw [← String.toList_eq_nil_iff, ← String.toList_eq_nil_iff, ← List.length_eq_zero_iff, length,
    List.length_eq_zero_iff]

theorem Value.Recased.isNull_eq {v w : Value} (recased : v.Recased w) : w.isNull = v.isNull := by
  cases recased <;> rfl

section Recased

variable {v w : Value}

/-- A value in another case asks for the same, or for another case of a pattern. -/
theorem compileValue_recased (recased : v.Recased w) (field : FieldDescriptor)
    (options : FilterOptions) :
    Option.Rel (Criterion.Recased field.name) (compileValue field options v)
      (compileValue field options w) := by
  cases recased with
  | same v => exact Criterion.Recased.refl_option _ _
  | choice alike => exact .some (.other rfl rfl)
  | @text s t alike =>
    have empty : s = "" ↔ t = "" := eq_empty_of_alike alike
    have around : Alike ("%" ++ s ++ "%").toList ("%" ++ t ++ "%").toList := by
      simp only [String.toList_append, Alike, List.map_append]
      rw [alike]
    unfold compileValue
    cases field.kind with
    | choice names => exact .some (.other rfl rfl)
    | text =>
      simp only [empty]
      split
      · exact .none
      · exact .some (.like _ around)
    | _ =>
      simp only [empty]
      split
      · exact .none
      · exact .some (.other rfl rfl)

theorem compileField_recased (recased : v.Recased w) (field : FieldDescriptor)
    (options : FilterOptions) :
    Option.Rel (Criterion.Recased field.name) (compileField field (.value v) options)
      (compileField field (.value w) options) := by
  rw [compileField_value, compileField_value, recased.isNull_eq]
  split_ifs
  · exact .none
  · exact .some (.other rfl rfl)
  · exact .none
  · exact compileValue_recased recased field options

variable {field : String} {before after : FilterView}

theorem asks_recased (recased : before.RecasedAt field after) (d : Declaration)
    (options : FilterOptions) :
    Option.Rel (Criterion.Recased field) (d.asks before options) (d.asks after options) := by
  rcases recased.changed.state d.name with same | ⟨old, new, state, state', v, w, rfl, rfl, cased⟩
  · rw [Declaration.asks_congr same]
    exact Criterion.Recased.refl_option _ _
  · by_cases named : d.name = field
    · unfold Declaration.asks
      rw [state, state', ← named]
      split
      · exact .none
      · exact compileField_recased cased (.ofDeclaration d) options
    · rw [Declaration.asks_congr (recased.others d.name named)]
      exact Criterion.Recased.refl_option _ _

/-- A change of case in a filter leaves as many criteria, in the same order. -/
theorem compileFilters_recased (recased : before.RecasedAt field after) (options : FilterOptions) :
    List.Forall₂ (Criterion.Recased field) (compileFilters before options)
      (compileFilters after options) := by
  rw [compileFilters_eq, compileFilters_eq, recased.changed.declared]
  refine List.rel_filterMap (R := Eq) (fun d d' same => ?_) (List.forall₂_refl _)
  exact same ▸ asks_recased recased d options

end Recased

/-- A change of case on one field changes the compiled criteria on that field alone, one by one. -/
theorem compile_recased {field : String} {before after : Option FilterView}
    (recased : Option.Rel (FilterView.RecasedAt field) before after) (ranges : Option RangeFilter)
    (entity : DeclaredType) (options : FilterOptions) :
    List.Forall₂ (Criterion.Recased field) (compile before ranges entity options)
      (compile after ranges entity options) := by
  rw [compile_eq_append, compile_eq_append]
  refine List.rel_append ?_ (List.forall₂_same.2 fun c _ => .same c)
  cases recased with
  | none => exact .nil
  | some recased => exact compileFilters_recased recased options

section Accepts

variable {field : String} {value? value?' : String → Option Value}

/-- A criterion on a pattern, and every criterion on another field, holds before a change of case
exactly if it holds after it. -/
theorem holds_of_recased {c c' : Criterion} (recased : c.Recased field c')
    (stored : StoredRecasedAt field value? value?')
    (pattern : c.field = field → ∃ p, c = .like field p true) :
    c.holds (value? c.field) = c'.holds (value?' c'.field) := by
  cases recased with
  | same =>
    by_cases named : c.field = field
    · obtain ⟨p, rfl⟩ := pattern named
      exact Criterion.holds_like_of_recased field rfl stored.changed
    · rw [stored.others c.field named]
  | @like p q ignoreCase alike =>
    obtain ⟨p', same⟩ := pattern rfl
    cases same
    exact Criterion.holds_like_of_recased field alike stored.changed
  | other named kind =>
    obtain ⟨p, rfl⟩ := pattern named
    cases kind

/-- Criteria that on one field are all on patterns, without regard to case, hold of a record exactly
if they hold of it after a change of case on this field. -/
theorem accepts_of_recased {cs cs' : Criteria}
    (recased : List.Forall₂ (Criterion.Recased field) cs cs')
    (stored : StoredRecasedAt field value? value?')
    (patterns : ∀ c ∈ cs, c.field = field → ∃ p, c = .like field p true) :
    cs.accepts value? = cs'.accepts value?' := by
  rw [Criteria.accepts, Criteria.accepts, Criteria.accepts_matcher, Criteria.accepts_matcher]
  induction recased with
  | nil => rfl
  | @cons c c' cs cs' first _ ih =>
    rw [List.all_cons, List.all_cons, ih fun c later => patterns c (List.mem_cons_of_mem _ later),
      holds_of_recased first stored (patterns c List.mem_cons_self)]

end Accepts

/-- **Disregarding case only widens.**  A record that criteria hold of where case counts is one that
they hold of where it does not.  And there, on a field whose criteria are all on patterns, neither
the case of the filter's text nor that of the record's makes a difference. -/
theorem compile_ignoreCase (entity : DeclaredType) (ranges : Option RangeFilter)
    (inherited : Bool) :
    (∀ (filter : Option FilterView) (value? : String → Option Value),
      (compile filter ranges entity ⟨false, inherited⟩).accepts value? = true →
        (compile filter ranges entity ⟨true, inherited⟩).accepts value? = true) ∧
    ∀ (before after : Option FilterView) (value? value?' : String → Option Value) (field : String),
      (∀ c ∈ (compile before ranges entity ⟨true, inherited⟩).forField field, c.isLike = true) →
      Option.Rel (FilterView.RecasedAt field) before after → StoredRecasedAt field value? value?' →
        (compile before ranges entity ⟨true, inherited⟩).accepts value? =
          (compile after ranges entity ⟨true, inherited⟩).accepts value?' := by
  constructor
  · intro filter value? accepts
    rw [compile_anyCase]
    rw [Criteria.accepts, Criteria.accepts_matcher, List.all_eq_true] at accepts ⊢
    intro c leaf
    obtain ⟨c, regarded, rfl⟩ := List.mem_map.1 leaf
    rw [Criterion.field_anyCase]
    exact Criterion.holds_anyCase (accepts c regarded)
  · intro before after value? value?' field likes recased stored
    have criteria := compile_recased recased ranges entity ⟨true, inherited⟩
    refine accepts_of_recased criteria stored fun c leaf named => ?_
    have like := likes c (List.mem_filter.2 ⟨leaf, decide_eq_true named⟩)
    rw [compile_anyCase] at leaf
    obtain ⟨c, -, rfl⟩ := List.mem_map.1 leaf
    cases c with
    | like f p ignoreCase =>
      obtain rfl : f = field := named
      exact ⟨p, rfl⟩
    | _ => cases like

section Scales

open Catalogue

/-- A filter of thermometers by their scale. -/
def scaleFilter (scale : String) : Filter :=
  .single "ThermometerFilter" [⟨field "scale" text, .value scale⟩]

/-- A thermometer with a scale. -/
def thermometer (scale : String) : Record := .single "Thermometer" [⟨field "scale" text, scale⟩]

/-- The scale may be written in another case. -/
theorem recasedAt_scaleFilter {scale scale' : String} (alike : Alike scale.toList scale'.toList) :
    (scaleFilter scale).view.RecasedAt "scale" (scaleFilter scale').view where
  changed := by
    have changed : (scaleFilter scale).Changed SlotRecased (scaleFilter scale') :=
      ⟨rfl, .cons (.inr ⟨rfl, .text scale, .text scale', rfl, rfl, .text alike⟩) .nil⟩
    exact changed.view
  others name other := by
    have strange (s : String) : (scaleFilter s).view.slot? name = none := by
      simp [scaleFilter, Filter.view, Filter.slot?, Filter.cell?, Chain.find?, Chain.all,
        Chain.single, Chain.levels, field, other.symm]
    rw [strange, strange]

theorem storedRecasedAt_thermometer {scale scale' : String}
    (alike : Alike scale.toList scale'.toList) :
    StoredRecasedAt "scale" (thermometer scale).value? (thermometer scale').value? where
  changed := .some (.text alike)
  others name other := by
    have strange (s : String) : (thermometer s).value? name = none := by
      simp [thermometer, Record.value?, Chain.find?, Chain.all, Chain.single, Chain.levels, field,
        other.symm]
    rw [strange, strange]

/-- The sign for kelvins is a case of the letter k, and the long s is one of the letter s. -/
theorem compile_ignoreCase_kelvin :
    (compile (some (scaleFilter "Kelvin").view) none (thermometer "").schema.declared
        ⟨true, true⟩).accepts (thermometer "Degrees Kelvin").value? = true ∧
      (compile (some (scaleFilter "\u212Aelvin").view) none (thermometer "").schema.declared
        ⟨true, true⟩).accepts (thermometer "DEGREE\u017F KELVIN").value? = true := by
  have regarded : (compile (some (scaleFilter "Kelvin").view) none
      (thermometer "").schema.declared ⟨false, true⟩).accepts
        (thermometer "Degrees Kelvin").value? = true := by
    decide +kernel
  have widened := (compile_ignoreCase (thermometer "").schema.declared none true).1 _ _ regarded
  have sign : Alike "Kelvin".toList "\u212Aelvin".toList := by decide +kernel
  have letters : Alike "Degrees Kelvin".toList "DEGREE\u017F KELVIN".toList := by decide +kernel
  refine ⟨widened, ((compile_ignoreCase _ none true).2 (some (scaleFilter "Kelvin").view)
    _ _ _ "scale" ?_ (.some (recasedAt_scaleFilter sign))
    (storedRecasedAt_thermometer letters)).symm.trans widened⟩
  decide +kernel

end Scales

end Listing
