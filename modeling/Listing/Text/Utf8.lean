/-!
# Characters from bytes

Bytes are read as UTF-8.  Where they do not encode a character, the longest part
that could have begun one is replaced by U+FFFD, and reading goes on behind it;
so every list of bytes has a text.
-/

namespace Listing.Text

/-- The character that stands for bytes that encode none. -/
def replacement : Char := Char.ofNat 0xFFFD

/-- A byte that continues a character. -/
def isTail (b : Nat) : Bool := 0x80 ≤ b && b ≤ 0xBF

/-- How a first byte goes on: the number of bytes that follow it, the bits of the
character that it carries, and the bounds of the second byte. -/
def lead? (b : Nat) : Option (Nat × Nat × Nat × Nat) :=
  if 0xC2 ≤ b && b ≤ 0xDF then some (1, b - 0xC0, 0x80, 0xBF)
  else if b == 0xE0 then some (2, 0, 0xA0, 0xBF)
  else if b == 0xED then some (2, b - 0xE0, 0x80, 0x9F)
  else if 0xE1 ≤ b && b ≤ 0xEF then some (2, b - 0xE0, 0x80, 0xBF)
  else if b == 0xF0 then some (3, 0, 0x90, 0xBF)
  else if b == 0xF4 then some (3, b - 0xF0, 0x80, 0x8F)
  else if 0xF1 ≤ b && b ≤ 0xF3 then some (3, b - 0xF0, 0x80, 0xBF)
  else none

/-- Read on inside a character that still owes `owed` bytes, the next of them between
`low` and `high`; a byte out of bounds gives the replacement and stays unread. -/
def tailOf : (owed bits low high : Nat) → List UInt8 → Char × List UInt8
  | 0, bits, _, _, rest => (Char.ofNat bits, rest)
  | _ + 1, _, _, _, [] => (replacement, [])
  | owed + 1, bits, low, high, b :: rest =>
    if low ≤ b.toNat ∧ b.toNat ≤ high then
      tailOf owed (bits * 64 + (b.toNat - 0x80)) 0x80 0xBF rest
    else (replacement, b :: rest)

theorem tailOf_length (owed bits low high : Nat) (bytes : List UInt8) :
    (tailOf owed bits low high bytes).2.length ≤ bytes.length := by
  induction owed generalizing bits low high bytes with
  | zero => simp [tailOf]
  | succ owed ih =>
    cases bytes with
    | nil => simp [tailOf]
    | cons b rest =>
      simp only [tailOf]
      split
      · exact Nat.le_succ_of_le (ih ..)
      · exact Nat.le_refl _

/-- The first character of a list of bytes, and the bytes behind it. -/
def nextChar (b : UInt8) (rest : List UInt8) : Char × List UInt8 :=
  if b.toNat < 0x80 then (Char.ofNat b.toNat, rest)
  else match lead? b.toNat with
    | some (owed, bits, low, high) => tailOf owed bits low high rest
    | none => (replacement, rest)

theorem nextChar_length (b : UInt8) (rest : List UInt8) :
    (nextChar b rest).2.length ≤ rest.length := by
  unfold nextChar
  split
  · exact Nat.le_refl _
  · split
    · exact tailOf_length ..
    · exact Nat.le_refl _

/-- The characters that a list of bytes encodes. -/
def ofUtf8 : List UInt8 → List Char
  | [] => []
  | b :: rest => (nextChar b rest).1 :: ofUtf8 (nextChar b rest).2
termination_by bytes => bytes.length
decreasing_by exact Nat.lt_succ_of_le (nextChar_length b rest)

end Listing.Text
