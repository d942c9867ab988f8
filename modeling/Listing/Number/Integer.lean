import Listing.Text.Digits

/-!
# Integers of a fixed width

An integer width bounds the whole numbers a field can hold.  `IntegerWidth.read`
reads decimal text digit by digit and stops at the first thing wrong: a character
that is no digit, or the digit with which the number leaves the width.
-/

namespace Listing

/-- The widths a declared integer can have; the unsigned ones start at nought. -/
inductive IntegerWidth where
  | signed16 | signed32 | signed64 | unsigned16 | unsigned32 | unsigned64
  deriving DecidableEq, Repr

namespace IntegerWidth

/-- Widths with negative numbers. -/
def isSigned : IntegerWidth → Bool
  | signed16 | signed32 | signed64 => true
  | unsigned16 | unsigned32 | unsigned64 => false

/-- The least number of a width. -/
def least : IntegerWidth → Int
  | signed16 => -32768
  | signed32 => -2147483648
  | signed64 => -9223372036854775808
  | unsigned16 | unsigned32 | unsigned64 => 0

/-- The greatest number of a width. -/
def greatest : IntegerWidth → Int
  | signed16 => 32767
  | signed32 => 2147483647
  | signed64 => 9223372036854775807
  | unsigned16 => 65535
  | unsigned32 => 4294967295
  | unsigned64 => 18446744073709551615

/-- The short name of a width, as error messages give it. -/
def label : IntegerWidth → String
  | signed16 => "i16"
  | signed32 => "i32"
  | signed64 => "i64"
  | unsigned16 => "u16"
  | unsigned32 => "u32"
  | unsigned64 => "u64"

/-- The number lies within the width. -/
abbrev Holds (w : IntegerWidth) (n : Int) : Prop := w.least ≤ n ∧ n ≤ w.greatest

end IntegerWidth

/-- The whole numbers within a width. -/
abbrev Bounded (w : IntegerWidth) : Type := { n : Int // w.Holds n }

/-- Why a text is no integer of a width. -/
inductive IntegerFault where
  /-- There is no text. -/
  | empty
  /-- A character is no digit, or a sign stands alone or where the width has none. -/
  | digit
  /-- The number is above the greatest. -/
  | tooLarge
  /-- The number is below the least. -/
  | tooSmall
  deriving DecidableEq, Repr

/-- The wording of an integer fault. -/
def IntegerFault.message : IntegerFault → String
  | empty => "cannot parse integer from empty string"
  | digit => "invalid digit found in string"
  | tooLarge => "number too large to fit in target type"
  | tooSmall => "number too small to fit in target type"

namespace IntegerWidth

/-- Append a digit to a number, away from nought. -/
def push (negative : Bool) (n : Int) (digit : Nat) : Int :=
  if negative then 10 * n - digit else 10 * n + digit

/-- Read digits on top of the number `n` read so far. -/
def readDigits (w : IntegerWidth) (negative : Bool) (n : Int) (inWidth : w.Holds n) :
    List Char → Except IntegerFault (Bounded w)
  | [] => .ok ⟨n, inWidth⟩
  | c :: rest =>
    if Text.isDigit c then
      let next := push negative n (Text.digitValue c)
      if h : w.Holds next then readDigits w negative next h rest
      else .error (if negative then .tooSmall else .tooLarge)
    else .error .digit

theorem holds_zero (w : IntegerWidth) : w.Holds 0 := by cases w <;> decide

/-- Read an optional sign and at least one digit; a minus needs a width with negative
numbers. -/
def readChars (w : IntegerWidth) : List Char → Except IntegerFault (Bounded w)
  | [] => .error .empty
  | ['+'] | ['-'] => .error .digit
  | '+' :: rest => w.readDigits false 0 w.holds_zero rest
  | '-' :: rest =>
    if w.isSigned then w.readDigits true 0 w.holds_zero rest else .error .digit
  | cs => w.readDigits false 0 w.holds_zero cs

/-- Read an integer of the width. -/
def read (w : IntegerWidth) (s : String) : Except IntegerFault (Bounded w) :=
  w.readChars s.toList

end IntegerWidth

end Listing
