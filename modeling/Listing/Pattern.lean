import Listing.Text.Case

/-!
# Patterns

A pattern describes texts as statements do after `LIKE`: a percent sign stands for
any text at all, an underscore for any single character, and every other character
for itself, or also for those that differ from it in case alone.

A library matches the texts, by regular expressions.  It is assumed to accept those for the
patterns and to give them their standard meaning, which is that of the patterns here, with
simple case folding where case does not count.

Matching goes through the pattern piece by piece and keeps all the ways in which
the text can go on behind the pieces passed, each once and the longest first; so it
takes time proportional to the product of the lengths.
-/

namespace Listing

/-- A piece of a pattern. -/
inductive Piece where
  /-- Any text. -/
  | anyText
  /-- Any character. -/
  | anyChar
  /-- One character. -/
  | exactly (c : Char)
  deriving DecidableEq, Repr

/-- A pattern, and whether case counts in it. -/
structure Pattern where
  pieces : List Piece
  ignoreCase : Bool
  deriving DecidableEq, Repr

namespace Piece

/-- The piece that a character of a pattern stands for. -/
def ofChar (c : Char) : Piece :=
  if c = '%' then anyText else if c = '_' then anyChar else exactly c

end Piece

/-- All ends of a list, from the list itself to the empty one. -/
def tails {α : Type} : List α → List (List α)
  | [] => [[]]
  | a :: rest => (a :: rest) :: tails rest

namespace Pattern

/-- The pattern that a text writes. -/
def ofString (s : String) (ignoreCase : Bool) : Pattern :=
  ⟨s.toList.map Piece.ofChar, ignoreCase⟩

/-- Two characters count as one. -/
def same (ignoreCase : Bool) (c d : Char) : Bool :=
  if ignoreCase then Text.sameFolded c d else c == d

/-- What follows a character that suits a test. -/
def behind? (suits : Char → Bool) : List Char → Option (List Char)
  | [] => none
  | c :: rest => if suits c then some rest else none

/-- The ways in which a text can go on behind a piece, given those before it. -/
def advance (ignoreCase : Bool) (rests : List (List Char)) : Piece → List (List Char)
  | .anyText =>
    match rests with
    | [] => []
    | longest :: _ => tails longest
  | .anyChar => rests.filterMap (behind? fun _ => true)
  | .exactly c => rests.filterMap (behind? (same ignoreCase c))

/-- The pattern describes the whole text. -/
def accepts (p : Pattern) (s : String) : Bool :=
  (p.pieces.foldl (advance p.ignoreCase) [s.toList]).any List.isEmpty

end Pattern

end Listing
