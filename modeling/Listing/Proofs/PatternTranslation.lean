import Mathlib
import Listing.Pattern.Expression
import Listing.Proofs.Parameters
import Listing.Proofs.PatternMatching

/-!
# What the expression of a pattern describes

The translation of a pattern collects the characters that stand for themselves and writes them
down when a percent sign, an underscore or the end is reached.  It makes no difference to write
each of them down at once, so that the expression is that of the single characters, one after the
other; and what is read from it, between the beginning and the end, are the pieces of the pattern
again, whatever its characters would mean in an expression.

* `Pattern.toList_expression` is the expression, character by character;
* `Pattern.readPieces_translated` is what is read of it;
* `Pattern.compile?_eq` concludes that a pattern is matched as it is written.
-/

namespace Listing.Pattern

/-! ## The expression, character by character -/

/-- What one character of a pattern becomes in the expression. -/
def translatedChar (c : Char) : List Char :=
  if c = '%' then ['.', '*'] else if c = '_' then ['.'] else literalChar c

theorem toList_literal_push (s : String) (c : Char) :
    (literal (s.push c)).toList = (literal s).toList ++ literalChar c := by
  simp [literal]

/-- One character more of a pattern adds its own translation, whether it is collected or written at
once. -/
theorem toList_flushed_push (t : Translation) (c : Char) :
    (t.push c).flushed.toList = t.flushed.toList ++ translatedChar c := by
  unfold Translation.push translatedChar
  split_ifs
  · simp [Translation.flushed, literal]
  · simp [Translation.flushed, literal]
  · simp only [Translation.flushed, String.toList_append, toList_literal_push, List.append_assoc]

theorem toList_flushed_foldl (cs : List Char) (t : Translation) :
    (cs.foldl Translation.push t).flushed.toList =
      t.flushed.toList ++ cs.flatMap translatedChar := by
  induction cs generalizing t with
  | nil => simp
  | cons c cs ih =>
    rw [List.foldl_cons, ih, toList_flushed_push, List.flatMap_cons, List.append_assoc]

/-- The expression is the opening, the translation of every character, and the end of the text. -/
theorem toList_expression (s : String) (ignoreCase : Bool) :
    (expression s ignoreCase).toList =
      (opening ignoreCase).toList ++ (s.toList.flatMap translatedChar ++ ['$']) := by
  rw [expression, String.toList_append, toList_flushed_foldl]
  simp [Translation.flushed, literal]

/-! ## Reading it -/

/-- A point is not taken for one that is repeated: a star of the pattern has a backslash. -/
theorem head?_translated_ne (cs : List Char) :
    (cs.flatMap translatedChar ++ ['$']).head? ≠ some '*' := by
  intro star
  cases cs with
  | nil => cases star
  | cons c cs =>
    rw [List.flatMap_cons, translatedChar] at star
    split_ifs at star
    · cases star
    · cases star
    · unfold literalChar at star
      split_ifs at star with meant
      · cases star
      · obtain rfl := Option.some.inj star
        exact meant (by decide)

/-- A point that no star follows is any character. -/
theorem readPieces_point {rest : List Char} (single : rest.head? ≠ some '*') :
    readPieces ('.' :: rest) = (readPieces rest).map (.anyChar :: ·) := by
  rw [readPieces]
  rintro rest rfl
  exact single rfl

/-- A character that means nothing but itself is read as itself, with a backslash or without. -/
theorem readPieces_literalChar (c : Char) {rest : List Char} (more : rest ≠ []) :
    readPieces (literalChar c ++ rest) = (readPieces rest).map (.exactly c :: ·) := by
  unfold literalChar
  split_ifs with meant
  · simp [readPieces, meant]
  · have plain : c ≠ '.' ∧ c ≠ '\\' ∧ c ≠ '$' := by
      refine ⟨?_, ?_, ?_⟩ <;> rintro rfl <;> exact meant (by decide)
    rw [List.singleton_append, readPieces, if_neg meant]
    all_goals simp_all

/-- What was translated is read as the pieces of the pattern. -/
theorem readPieces_translated (cs : List Char) :
    readPieces (cs.flatMap translatedChar ++ ['$']) = some (cs.map Piece.ofChar) := by
  induction cs with
  | nil => rfl
  | cons c cs ih =>
    rw [List.flatMap_cons, List.append_assoc, List.map_cons, translatedChar, Piece.ofChar]
    split_ifs
    · exact (congrArg (Option.map (.anyText :: ·)) ih).trans rfl
    · rw [List.singleton_append, readPieces_point (head?_translated_ne cs), ih]
      rfl
    · rw [readPieces_literalChar c (by simp), ih]
      rfl

theorem body?_expression (s : String) (ignoreCase : Bool) :
    body? ignoreCase (expression s ignoreCase) = some (s.toList.flatMap translatedChar ++ ['$']) :=
  Text.dropStart?_eq_some_iff.2 (toList_expression s ignoreCase)

/-- The expression of a pattern in which case counts lacks the switch for case. -/
theorem body?_expression_of_case (s : String) : body? true (expression s false) = none := by
  rw [body?, toList_expression]
  simp [opening, Text.dropStart?]

/-- The expression of a pattern describes what the pattern says, and there is always one. -/
theorem compile?_eq (s : String) (ignoreCase : Bool) :
    compile? s ignoreCase = some (ofString s ignoreCase) := by
  have read := congrArg (Option.map fun pieces => Pattern.mk pieces ignoreCase)
    (readPieces_translated s.toList)
  rw [compile?, ofExpression?]
  cases ignoreCase with
  | true =>
    rw [body?_expression]
    exact read
  | false =>
    rw [body?_expression_of_case, body?_expression]
    exact read

end Listing.Pattern
