/-!
# Spans of characters

Properties and mappings of characters are kept as short lists of spans.  A span
`(first, last, step)` stands for `first`, `first + step`, … up to `last`; a shift
`(first, last, step, offset)` moves each character of its span by `offset`.
-/

namespace Listing.Text

/-- Evenly spaced code points: the first, the last, and the distance between neighbours. -/
abbrev Span := Nat × Nat × Nat

/-- A span whose characters all move by one offset. -/
abbrev Shift := Nat × Nat × Nat × Int

/-- The code point lies on the span. -/
def Span.contains (s : Span) (n : Nat) : Bool :=
  s.1 ≤ n && n ≤ s.2.1 && (n - s.1) % s.2.2 == 0

/-- The character lies on one of the spans. -/
def onSpan (spans : List Span) (c : Char) : Bool := spans.any (·.contains c.toNat)

/-- The span that a shift moves. -/
def Shift.span (s : Shift) : Span := (s.1, s.2.1, s.2.2.1)

/-- Where the first shift that holds the character takes it; a character on none stays. -/
def shifted (shifts : List Shift) (c : Char) : Char :=
  match shifts.find? (·.span.contains c.toNat) with
  | some s => Char.ofNat ((c.toNat : Int) + s.2.2.2).toNat
  | none => c

end Listing.Text
