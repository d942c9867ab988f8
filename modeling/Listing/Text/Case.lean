import Listing.Text.CaseTable

/-!
# Letter case

Three notions of case are needed.  `Text.lowerCase` writes a text in small
letters in full, where a capital sigma at the end of a word becomes the final
form `ς` and U+0130 becomes two characters.  `Text.isUpper` is the property
`Uppercase`.  `Text.sameFolded` compares single characters up to simple case
folding, under which `ſ` is an `s` and U+0130 is equal to itself alone; it is
assumed that texts are matched with patterns up to just this.
-/

namespace Listing.Text

/-- A character with the property `Uppercase`. -/
def isUpper (c : Char) : Bool :=
  if c.toNat < 128 then 'A' ≤ c && c ≤ 'Z' else onSpan upperSpans c

/-- The small form of a single character, without regard to its surroundings. -/
def lowerChar (c : Char) : List Char :=
  if c.toNat < 128 then
    [if 'A' ≤ c && c ≤ 'Z' then Char.ofNat (c.toNat + 32) else c]
  else if c.toNat = 0x130 then ['i', Char.ofNat 0x307]
  else [shifted lowerShifts c]

/-- Past the case-ignorable characters, the next one is cased. -/
def casedAhead (cs : List Char) : Bool :=
  match cs.dropWhile (onSpan caseIgnorableSpans) with
  | c :: _ => onSpan casedSpans c
  | [] => false

/-- A capital sigma ends a word when a cased character stands before it and none after it. -/
def endsWord (before after : List Char) : Bool := casedAhead before && !casedAhead after

/-- Small letters for `cs`, where `before` holds the characters already passed, the
nearest first. -/
def lowerAfter (before : List Char) : List Char → List Char
  | [] => []
  | c :: rest =>
    (if c = 'Σ' then [if endsWord before rest then 'ς' else 'σ'] else lowerChar c) ++
      lowerAfter (c :: before) rest

/-- A text in small letters. -/
def lowerCase (s : String) : String := String.ofList (lowerAfter [] s.toList)

/-- The representative of a character among those that differ from it in case alone. -/
def folded (c : Char) : Char :=
  if c.toNat < 128 then
    if 'A' ≤ c && c ≤ 'Z' then Char.ofNat (c.toNat + 32) else c
  else shifted foldShifts c

/-- Two characters are equal up to simple case folding. -/
def sameFolded (c d : Char) : Bool := folded c == folded d

end Listing.Text
