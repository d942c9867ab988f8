import Listing.Number.Binary
import Listing.Text.Digits

/-!
# Decimal numbers

A decimal is a coefficient and a power of ten.  `Decimal.read` reads decimal text
in positional or exponent notation, also the names of the infinities and of a
datum that is not a number; `Binary.ofDecimal` is the nearest binary number.
-/

namespace Listing

/-- The number `coefficient · 10 ^ exponent`, with a sign. -/
structure Decimal where
  negative : Bool
  coefficient : Nat
  exponent : Int
  deriving DecidableEq, Repr

/-- The binary number nearest to a decimal.  Beyond a decimal magnitude of
`2 ^ exponentBits` digits on either side the answer is infinity or nought without
any power of ten being formed. -/
def Binary.ofDecimal {f : BinaryFormat} (d : Decimal) : Binary f :=
  let limit : Int := Nat.pow 2 f.exponentBits
  let magnitude : Int := d.exponent + (Nat.toDigits 10 d.coefficient).length
  if d.coefficient = 0 then zero d.negative
  else if limit < magnitude then infinite d.negative
  else if magnitude < -limit then zero d.negative
  else if 0 ≤ d.exponent then ofRatio d.negative (d.coefficient * Nat.pow 10 d.exponent.toNat) 1
  else ofRatio d.negative d.coefficient (Nat.pow 10 (-d.exponent).toNat)

/-- Why a text is no number. -/
inductive DecimalFault where
  /-- There is no text. -/
  | empty
  /-- The text is not in one of the notations. -/
  | malformed
  deriving DecidableEq, Repr

/-- The wording of a decimal fault. -/
def DecimalFault.message : DecimalFault → String
  | empty => "cannot parse float from empty string"
  | malformed => "invalid float literal"

/-- What the text of a number denotes. -/
inductive Numeral where
  | nan
  | infinite (negative : Bool)
  | decimal (d : Decimal)
  deriving DecidableEq, Repr

namespace Numeral

/-- The digits at the front, and the rest. -/
def digits (cs : List Char) : List Char × List Char :=
  (cs.takeWhile Text.isDigit, cs.dropWhile Text.isDigit)

/-- An exponent part that takes up the whole text: nothing, or `e` in either case, an
optional sign and at least one digit. -/
def readExponent? : List Char → Option Int
  | [] => some 0
  | c :: rest =>
    if c = 'e' ∨ c = 'E' then
      let (negative, ds) := match rest with
        | '+' :: r => (false, r)
        | '-' :: r => (true, r)
        | r => (false, r)
      if ds.isEmpty || !ds.all Text.isDigit then none
      else
        let n : Int := Text.digitsValue ds
        some (if negative then -n else n)
    else none

/-- Digits with an optional point among, before or behind them, then an exponent part. -/
def readMagnitude? (negative : Bool) (cs : List Char) : Option Decimal :=
  let (whole, rest) := digits cs
  let (fraction, rest) := match rest with
    | '.' :: r => digits r
    | r => ([], r)
  if whole.isEmpty && fraction.isEmpty then none
  else (readExponent? rest).map fun e =>
    ⟨negative, Text.digitsValue (whole ++ fraction), e - fraction.length⟩

/-- The names of the special data, in any case. -/
def readName? (negative : Bool) (cs : List Char) : Option Numeral :=
  let name := String.ofList (cs.map Text.asciiLower)
  if name = "inf" ∨ name = "infinity" then some (infinite negative)
  else if name = "nan" then some nan
  else none

/-- Read what follows the sign. -/
def readUnsigned (negative : Bool) (cs : List Char) : Except DecimalFault Numeral :=
  match readMagnitude? negative cs with
  | some d => .ok (decimal d)
  | none => match readName? negative cs with
    | some n => .ok n
    | none => .error .malformed

/-- Read a number with an optional sign. -/
def read (s : String) : Except DecimalFault Numeral :=
  match s.toList with
  | [] => .error .empty
  | '+' :: rest => readUnsigned false rest
  | '-' :: rest => readUnsigned true rest
  | cs => readUnsigned false cs

end Numeral

/-- The binary number nearest to what a text denotes. -/
def Binary.ofNumeral {f : BinaryFormat} : Numeral → Binary f
  | .nan => .nan
  | .infinite negative => infinite negative
  | .decimal d => ofDecimal d

/-- Read a binary number. -/
def Binary.read {f : BinaryFormat} (s : String) : Except DecimalFault (Binary f) :=
  (Numeral.read s).map ofNumeral

end Listing
