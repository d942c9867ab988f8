import Listing.Pattern
import Listing.Text.Cut

/-!
# Patterns as regular expressions

Texts are not matched against a pattern as it is written, but against a regular expression
into which it is translated.  There a percent sign becomes `.*` and an underscore `.`, and
all that stands between them is collected and written down in one go, with a backslash
before every character to which regular expressions give a meaning.  The expression is
bound to both ends of the text, and its points stand for line breaks too.

The expressions are read by a library of which three things are assumed: that it accepts
each of them, however long, that they mean there what they mean everywhere, and that, where
case does not count, two characters are one if `Text.sameFolded` says so.  `ofExpression?`
stands for that library.

* `Pattern.expression` is the translation;
* `Pattern.ofExpression?` is what an expression of this form describes, and `Pattern.compile?`
  puts the two together.
-/

namespace Listing.Pattern

/-! ## Writing -/

/-- The characters to which regular expressions give a meaning. -/
def operators : List Char :=
  ['\\', '.', '+', '*', '?', '(', ')', '|', '[', ']', '\x7b', '\x7d', '^', '$', '#', '&', '-', '~']

/-- One character that means nothing but itself. -/
def literalChar (c : Char) : List Char := if c ∈ operators then ['\\', c] else [c]

/-- A text in which every character means nothing but itself. -/
def literal (s : String) : String := String.ofList (s.toList.flatMap literalChar)

/-- A translation under way: the expression written so far, and the text collected since. -/
structure Translation where
  written : String
  collected : String

namespace Translation

/-- The expression with the collected text written down. -/
def flushed (t : Translation) : String := t.written ++ literal t.collected

/-- Translate one more character of the pattern. -/
def push (t : Translation) (c : Char) : Translation :=
  if c = '%' then ⟨t.flushed ++ ".*", ""⟩
  else if c = '_' then ⟨t.flushed ++ ".", ""⟩
  else ⟨t.written, t.collected.push c⟩

end Translation

/-- How an expression begins: with the switch for case, where case does not count, with that
for line breaks, and with the start of the text. -/
def opening (ignoreCase : Bool) : String := (if ignoreCase then "(?i)" else "") ++ "(?s)^"

/-- The expression for the pattern that a text writes. -/
def expression (s : String) (ignoreCase : Bool) : String :=
  (s.toList.foldl Translation.push ⟨opening ignoreCase, ""⟩).flushed ++ "$"

/-! ## Reading -/

/-- The pieces of an expression up to the end of the text; none if there is more in it than
points, points repeated at will, and characters that mean nothing but themselves. -/
def readPieces : List Char → Option (List Piece)
  | [] => none
  | '.' :: '*' :: rest => (readPieces rest).map (.anyText :: ·)
  | '.' :: rest => (readPieces rest).map (.anyChar :: ·)
  | '\\' :: c :: rest =>
    if c ∈ operators then (readPieces rest).map (.exactly c :: ·) else none
  | ['$'] => some []
  | c :: rest => if c ∈ operators then none else (readPieces rest).map (.exactly c :: ·)

/-- What stands behind the beginning of an expression that has the given switch for case. -/
def body? (ignoreCase : Bool) (e : String) : Option (List Char) :=
  Text.dropStart? (opening ignoreCase).toList e.toList

/-- The pattern that an expression describes, by the standard meaning of its parts. -/
def ofExpression? (e : String) : Option Pattern :=
  match body? true e, body? false e with
  | some body, _ => (readPieces body).map (⟨·, true⟩)
  | none, some body => (readPieces body).map (⟨·, false⟩)
  | none, none => none

/-- The pattern that a text writes, taken from its expression. -/
def compile? (s : String) (ignoreCase : Bool) : Option Pattern :=
  ofExpression? (expression s ignoreCase)

end Listing.Pattern
