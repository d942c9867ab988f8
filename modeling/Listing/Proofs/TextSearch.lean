import Mathlib
import Listing.Catalogue
import Listing.Compilation
import Listing.Proofs.PatternTranslation
import Listing.Proofs.Queries

/-!
# Texts looked for in texts

A criterion on the pattern of a text holds of the stored texts that can be cut into parts, one
for every character of the pattern.  What the value of a textual field asks for is such a
criterion, with a percent sign on either side of the value: the stored text has in it a part that
the value describes.  That is the value itself as long as the value has no wildcard of its own;
those that a client sends are not taken for themselves.

* `Pattern.IsCut` says what a pattern means, and `Pattern.accepts_ofString_iff` that matching
  decides it;
* `Criterion.like_iff_isCut` is the conclusion for criteria, alone and among others;
* `compileField_text_iff` says when a textual value is looked for as it is.
-/

namespace Listing

namespace Pattern

/-! ## Cuts of a text -/

/-- The part of a text that a character of a pattern stands for. -/
def Covers (ignoreCase : Bool) : Char → List Char → Prop
  | '%', _ => True
  | '_', part => ∃ d, part = [d]
  | c, part => ∃ d, part = [d] ∧ (d = c ∨ ignoreCase = true ∧ Text.sameFolded c d = true)

/-- The text can be cut into parts that the characters of a pattern stand for, in their order. -/
def IsCut (ignoreCase : Bool) (pattern text : List Char) : Prop :=
  ∃ parts : List (List Char), parts.flatten = text ∧ List.Forall₂ (Covers ignoreCase) pattern parts

variable {ignoreCase : Bool}

/-- A character that is no wildcard stands for itself, or for its other cases if case does not
count. -/
theorem covers_of_plain {c : Char} (percent : c ≠ '%') (underscore : c ≠ '_') {part : List Char} :
    Covers ignoreCase c part ↔
      ∃ d, part = [d] ∧ (d = c ∨ ignoreCase = true ∧ Text.sameFolded c d = true) := by
  unfold Covers
  split
  · exact absurd rfl percent
  · exact absurd rfl underscore
  · exact Iff.rfl

theorem same_iff {c d : Char} :
    same ignoreCase c d = true ↔ d = c ∨ ignoreCase = true ∧ Text.sameFolded c d = true := by
  cases ignoreCase with
  | false =>
    rw [same, if_neg Bool.false_ne_true, beq_iff_eq]
    refine ⟨fun equal => .inl equal.symm, fun alike => ?_⟩
    exact alike.elim Eq.symm fun folded => absurd folded.1 Bool.false_ne_true
  | true =>
    simp only [same, if_true, true_and]
    refine ⟨Or.inr, fun alike => alike.elim (fun equal => ?_) id⟩
    exact equal ▸ beq_self_eq_true _

/-- What a character stands for is what its piece stands for. -/
theorem covers_iff_standsFor {c : Char} {part : List Char} :
    Covers ignoreCase c part ↔ (Piece.ofChar c).StandsFor ignoreCase part := by
  unfold Piece.ofChar
  split_ifs with percent underscore
  · subst percent
    exact Iff.rfl
  · subst underscore
    exact Iff.rfl
  · rw [covers_of_plain percent underscore, Piece.StandsFor]
    simp only [same_iff]

theorem isCut_nil {text : List Char} : IsCut ignoreCase [] text ↔ text = [] := by
  constructor
  · rintro ⟨parts, rfl, cut⟩
    rw [List.forall₂_nil_left_iff.1 cut]
    rfl
  · rintro rfl
    exact ⟨[], rfl, .nil⟩

theorem isCut_cons {c : Char} {cs text : List Char} :
    IsCut ignoreCase (c :: cs) text ↔
      ∃ part rest, text = part ++ rest ∧ Covers ignoreCase c part ∧ IsCut ignoreCase cs rest := by
  constructor
  · rintro ⟨parts, rfl, cut⟩
    obtain ⟨part, parts, first, later, rfl⟩ := List.forall₂_cons_left_iff.1 cut
    exact ⟨part, parts.flatten, rfl, first, parts, rfl, later⟩
  · rintro ⟨part, -, rfl, first, parts, rfl, later⟩
    exact ⟨part :: parts, rfl, .cons first later⟩

/-- A pattern describes just the texts that can be cut as it says. -/
theorem describes_iff_isCut {cs text : List Char} :
    Describes ignoreCase (cs.map Piece.ofChar) text ↔ IsCut ignoreCase cs text := by
  induction cs generalizing text with
  | nil => exact isCut_nil.symm
  | cons c cs ih =>
    rw [isCut_cons, List.map_cons, Describes]
    simp only [ih, covers_iff_standsFor]

/-- Matching decides whether the text can be cut. -/
theorem accepts_ofString_iff {pattern s : String} :
    (ofString pattern ignoreCase).accepts s = true ↔ IsCut ignoreCase pattern.toList s.toList :=
  accepts_iff.trans describes_iff_isCut

/-! ## Patterns with anything around them -/

theorem isCut_percent {text : List Char} : IsCut ignoreCase ['%'] text := by
  refine isCut_cons.2 ⟨text, [], (List.append_nil text).symm, trivial, isCut_nil.2 rfl⟩

/-- Patterns one after the other cut texts one after the other. -/
theorem isCut_append {cs cs' text : List Char} :
    IsCut ignoreCase (cs ++ cs') text ↔
      ∃ front back, text = front ++ back ∧ IsCut ignoreCase cs front ∧
        IsCut ignoreCase cs' back := by
  induction cs generalizing text with
  | nil => simp [isCut_nil]
  | cons c cs ih =>
    rw [List.cons_append, isCut_cons]
    simp only [ih, isCut_cons]
    constructor
    · rintro ⟨part, -, rfl, first, front, back, rfl, cut, cut'⟩
      exact ⟨part ++ front, back, (List.append_assoc ..).symm, ⟨part, front, rfl, first, cut⟩, cut'⟩
    · rintro ⟨-, back, rfl, ⟨part, front, rfl, first, cut⟩, cut'⟩
      exact ⟨part, front ++ back, List.append_assoc .., first, front, back, rfl, cut, cut'⟩

/-- Between percent signs a pattern describes the texts that have in them what it describes. -/
theorem isCut_around {cs text : List Char} :
    IsCut ignoreCase (['%'] ++ cs ++ ['%']) text ↔
      ∃ part, part <:+: text ∧ IsCut ignoreCase cs part := by
  simp only [isCut_append]
  constructor
  · rintro ⟨-, back, rfl, ⟨front, part, rfl, -, cut⟩, -⟩
    exact ⟨part, ⟨front, back, rfl⟩, cut⟩
  · rintro ⟨part, ⟨front, back, rfl⟩, cut⟩
    exact ⟨front ++ part, back, rfl, ⟨front, part, rfl, isCut_percent, cut⟩, isCut_percent⟩

/-! ## Patterns without wildcards -/

/-- The characters of a pattern that are no wildcards stand for themselves. -/
def IsPlain (cs : List Char) : Prop := '%' ∉ cs ∧ '_' ∉ cs

/-- Where case counts, a pattern without wildcards describes nothing but itself. -/
theorem isCut_iff_eq_of_isPlain {cs text : List Char} (plain : IsPlain cs) :
    IsCut false cs text ↔ text = cs := by
  induction cs generalizing text with
  | nil => exact isCut_nil
  | cons c cs ih =>
    obtain ⟨percent, underscore⟩ := plain
    rw [List.mem_cons, not_or] at percent underscore
    rw [isCut_cons]
    simp only [covers_of_plain (Ne.symm percent.1) (Ne.symm underscore.1),
      ih ⟨percent.2, underscore.2⟩]
    simp

/-- A text without percent signs and underscores that a pattern describes: the percent signs
stand for nothing in it, and the underscores for some letter. -/
def exemplar (cs : List Char) : List Char :=
  cs.flatMap fun c => if c = '%' then [] else if c = '_' then ['a'] else [c]

theorem isPlain_exemplar (cs : List Char) : IsPlain (exemplar cs) := by
  have each : ∀ d ∈ exemplar cs, d ≠ '%' ∧ d ≠ '_' := by
    intro d member
    obtain ⟨c, -, from_c⟩ := List.mem_flatMap.1 member
    split_ifs at from_c with percent underscore
    · cases from_c
    · obtain rfl := List.mem_singleton.1 from_c
      decide
    · obtain rfl := List.mem_singleton.1 from_c
      exact ⟨percent, underscore⟩
  exact ⟨fun member => (each _ member).1 rfl, fun member => (each _ member).2 rfl⟩

/-- The exemplar of a pattern is one of the texts that it describes. -/
theorem isCut_exemplar (cs : List Char) : IsCut false cs (exemplar cs) := by
  induction cs with
  | nil => exact isCut_nil.2 rfl
  | cons c cs ih =>
    refine isCut_cons.2 ⟨_, exemplar cs, List.flatMap_cons, ?_, ih⟩
    rw [covers_iff_standsFor, Piece.ofChar]
    split_ifs
    · trivial
    · exact ⟨'a', rfl⟩
    · exact ⟨c, rfl, beq_self_eq_true c⟩

/-- A pattern is found in all texts that it describes parts of, and in no others, only if it has
no wildcards. -/
theorem isPlain_iff_infix {cs : List Char} :
    (∀ text, (∃ part, part <:+: text ∧ IsCut false cs part) ↔ cs <:+: text) ↔ IsPlain cs := by
  constructor
  · intro same
    have found : cs <:+: exemplar cs :=
      (same (exemplar cs)).1 ⟨exemplar cs, List.infix_rfl, isCut_exemplar cs⟩
    exact (isPlain_exemplar cs).imp (mt (found.subset ·)) (mt (found.subset ·))
  · intro plain text
    simp only [isCut_iff_eq_of_isPlain plain, exists_eq_right]

end Pattern

/-! ## Criteria on the pattern of a text -/

namespace Criterion

/-- The value is a text, or the name of a choice, that can be cut as the pattern says. -/
def Suits (pattern : String) (ignoreCase : Bool) (stored : Option Value) : Prop :=
  ∃ s, (stored = some (.text s) ∨ stored = some (.choice s)) ∧
    Pattern.IsCut ignoreCase pattern.toList s.toList

/-- A criterion on a pattern holds of the texts and names that suit it. -/
theorem holds_like_iff {field pattern : String} {ignoreCase : Bool} {stored : Option Value} :
    (like field pattern ignoreCase).holds stored = true ↔ Suits pattern ignoreCase stored := by
  have matched (s : String) :
      (like field pattern ignoreCase).holds (some (.text s)) =
        (Pattern.ofString pattern ignoreCase).accepts s := by
    rw [holds, pattern?, Pattern.compile?_eq]
    rfl
  have named (s : String) : (like field pattern ignoreCase).holds (some (.choice s)) =
      (like field pattern ignoreCase).holds (some (.text s)) := rfl
  cases stored with
  | none => simp [holds, evaluate, Suits]
  | some v =>
    cases v with
    | text s => simp [matched, Pattern.accepts_ofString_iff, Suits]
    | choice s => simp [named, matched, Pattern.accepts_ofString_iff, Suits]
    | _ => simp [holds, evaluate, holdsOf, Value.text?, Suits]

/-- **A criterion on the pattern of a text means what the pattern says**: it holds of the stored
texts and names of choices that can be cut into parts, one for every character of the pattern, and
of no other value, alone and wherever it stands among the criteria of a matcher. -/
theorem like_iff_isCut (field pattern : String) (ignoreCase : Bool) :
    (∀ stored, (like field pattern ignoreCase).holds stored = true ↔
        Suits pattern ignoreCase stored) ∧
      ∀ (before after : Criteria) (value? : String → Option Value),
        Matcher.accepts (Criteria.matcher (before ++ like field pattern ignoreCase :: after))
            value? = true ↔
          Suits pattern ignoreCase (value? field) ∧
            Matcher.accepts (Criteria.matcher (before ++ after)) value? = true := by
  refine ⟨fun stored => holds_like_iff, fun before after value? => ?_⟩
  have alone : (like field pattern ignoreCase).holds (value? field) = true ↔
      Suits pattern ignoreCase (value? field) := holds_like_iff
  rw [Criteria.accepts_matcher, Criteria.accepts_matcher, List.all_append, List.all_append,
    List.all_cons, ← alone]
  simp only [Bool.and_eq_true]
  exact and_left_comm

end Criterion

/-! ## Values of textual fields -/

/-- A text asks for its own pattern, with a percent sign before it and one behind. -/
theorem compileField_text {field : FieldDescriptor} (textual : field.kind = .text)
    (other : field.isIdentifier = false) {v : String} (given : v ≠ "") (options : FilterOptions) :
    compileField field (.value (.text v)) options =
      some (.like field.name ("%" ++ v ++ "%") options.ignoreCase) := by
  simp [compileField, compileValue, textual, other, given]

/-- **What a textual value is looked for as.**  Where case counts, a text that is not empty, on a
textual field that is no identifier, is found in the stored texts that have in them a part which
it describes as a pattern; those are the texts that have it in them as it is if and only if it has
no wildcards. -/
theorem compileField_text_iff {field : FieldDescriptor} (textual : field.kind = .text)
    (other : field.isIdentifier = false) {v : String} (given : v ≠ "") {options : FilterOptions}
    (sensitive : options.ignoreCase = false) :
    ∃ c, compileField field (.value (.text v)) options = some c ∧
      (∀ s, c.holds (some (.text s)) = true ↔
        ∃ part, part <:+: s.toList ∧ Pattern.IsCut false v.toList part) ∧
      ((∀ s, c.holds (some (.text s)) = true ↔ v.toList <:+: s.toList) ↔
        '%' ∉ v.toList ∧ '_' ∉ v.toList) := by
  have found (s : String) :
      (Criterion.like field.name ("%" ++ v ++ "%") false).holds (some (.text s)) = true ↔
        ∃ part, part <:+: s.toList ∧ Pattern.IsCut false v.toList part := by
    rw [Criterion.holds_like_iff, ← Pattern.isCut_around]
    simp [Criterion.Suits]
  refine ⟨_, compileField_text textual other given options, ?_⟩
  rw [sensitive]
  refine ⟨found, Iff.trans ?_ Pattern.isPlain_iff_infix⟩
  simp only [found]
  exact ⟨fun all text => by simpa using all (String.ofList text), fun all s => all s.toList⟩

section Share

/-- The name of a product, as a filter sees it. -/
def nameField : FieldDescriptor :=
  .ofDeclaration (Catalogue.field "name" Catalogue.text).declaration

theorem compileField_text_iff_share :
    nameField.kind = .text ∧ nameField.isIdentifier = false ∧ "50%" ≠ "" ∧
      ∃ c, compileField nameField (.value (.text "50%")) ⟨false, true⟩ = some c ∧
        (∀ s, c.holds (some (.text s)) = true ↔
          ∃ part, part <:+: s.toList ∧ Pattern.IsCut false "50%".toList part) ∧
        ((∀ s, c.holds (some (.text s)) = true ↔ "50%".toList <:+: s.toList) ↔
          '%' ∉ "50%".toList ∧ '_' ∉ "50%".toList) := by
  have textual : nameField.kind = .text := rfl
  have other : nameField.isIdentifier = false := by decide
  exact ⟨textual, other, by decide, compileField_text_iff textual other (by decide) rfl⟩

/-- A share of 50% is found in a weight of 500 grams, which does not have it in it. -/
theorem holds_share_of_weight :
    compileField nameField (.value (.text "50%")) ⟨false, true⟩ =
        some (.like "name" "%50%%" false) ∧
      (Criterion.like "name" "%50%%" false).holds (some (.text "500 g")) = true ∧
      ¬ "50%".toList <:+: "500 g".toList := by
  refine ⟨rfl, ?_, by decide⟩
  refine Criterion.holds_like_iff.2
    ⟨"500 g", .inl rfl, [[], ['5'], ['0'], [], "0 g".toList], rfl, ?_⟩
  exact .cons trivial (.cons ⟨'5', rfl, .inl rfl⟩ (.cons ⟨'0', rfl, .inl rfl⟩
    (.cons trivial (.cons trivial .nil))))

end Share

end Listing
