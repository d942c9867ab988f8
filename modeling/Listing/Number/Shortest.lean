import Listing.Number.Decimal

/-!
# Shortest decimals

The shortest decimal of a binary number has the fewest digits among the decimals
that read back as the number, and is the nearest to it among those.  A decimal of
`n` digits is a point of a grid of powers of ten; if any point of the grid reads
back, one of the two neighbours of the number does, so only those two are tried.

* `Shortest.decimal` finds the digits; which of two equally near decimals it takes
  is a parameter;
* `Decimal.positional` writes a decimal without an exponent, `Decimal.compact`
  with one where the number is very large or very small.
-/

namespace Listing

/-- Which way a number halfway between two shortest decimals goes. -/
inductive TieRule where
  /-- To the decimal with the even last digit. -/
  | even
  /-- To the decimal with the greater magnitude. -/
  | up
  deriving DecidableEq, Repr

namespace Shortest

/-- A magnitude `centre / den` with the ends of the interval that reads back as it, all
over one denominator; `closed` says whether the ends belong to the interval. -/
structure Interval where
  low : Nat
  centre : Nat
  high : Nat
  den : Nat
  closed : Bool

/-- The interval of a positive finite code.  Everything is doubled so that midpoints
between neighbouring codes are whole. -/
def Interval.ofCode (f : BinaryFormat) (code : Nat) : Interval where
  low := f.units (code - 1) + f.units code
  centre := 2 * f.units code
  high := f.units code + f.units (code + 1)
  den := 2 * Nat.pow 2 f.depth
  closed := code % 2 = 0

/-- The grid point `n` over `scale` lies in the interval. -/
def Interval.holds (i : Interval) (n scale : Nat) : Bool :=
  if i.closed then i.low * scale ≤ n * i.den && n * i.den ≤ i.high * scale
  else i.low * scale < n * i.den && n * i.den < i.high * scale

/-- The nearer of the two neighbours of the centre on the grid of the given scale,
among those that lie in the interval. -/
def Interval.onGrid? (i : Interval) (tie : TieRule) (scale : Nat) : Option Nat :=
  let below := i.centre * scale / i.den
  let excess := i.centre * scale % i.den
  match i.holds below scale, i.holds (below + 1) scale with
  | true, true =>
    if 2 * excess < i.den then some below
    else if i.den < 2 * excess then some (below + 1)
    else match tie with
      | .even => if below % 2 = 0 then some below else some (below + 1)
      | .up => some (below + 1)
  | true, false => some below
  | false, true => some (below + 1)
  | false, false => none

/-- How many decimal digits a positive number has. -/
def digitCount (n : Nat) : Nat := (Nat.toDigits 10 n).length

/-- The place of the leading digit of `num / den`: nought for the units, negative
behind the point.  Below one the place is `-m` for the least `m` with
`den ≤ num * 10 ^ m`, and `10 ^ m` exceeds `(den - 1) / num` exactly when it has
fewer digits than `10 ^ m`. -/
def leadingPlace (num den : Nat) : Int :=
  if den ≤ num then (digitCount (num / den) : Int) - 1
  else -(digitCount ((den - 1) / num) : Int)

/-- The interval in units of `10 ^ place`. -/
def Interval.inPlace (i : Interval) (place : Int) : Interval :=
  if 0 ≤ place then { i with den := i.den * Nat.pow 10 place.toNat }
  else
    let scale := Nat.pow 10 (-place).toNat
    { i with low := i.low * scale, centre := i.centre * scale, high := i.high * scale }

/-- Drop trailing noughts, `fuel` of them at most. -/
def strip : (fuel : Nat) → (coefficient : Nat) → (exponent : Int) → Nat × Int
  | 0, n, e => (n, e)
  | fuel + 1, n, e => if n % 10 = 0 ∧ n ≠ 0 then strip fuel (n / 10) (e + 1) else (n, e)

/-- Try grids of more and more digits, `fuel` of them at most. -/
def search (i : Interval) (tie : TieRule) : (fuel digits : Nat) → Option (Nat × Nat)
  | 0, _ => none
  | fuel + 1, digits =>
    match i.onGrid? tie (Nat.pow 10 digits) with
    | some n => some (n, digits)
    | none => search i tie fuel (digits + 1)

/-- The shortest decimal of a positive finite code.  Eighteen significant digits are more
than any code of sixty-four bits needs. -/
def ofCode (f : BinaryFormat) (tie : TieRule) (code : Nat) : Nat × Int :=
  let i := Interval.ofCode f code
  let place := leadingPlace i.centre i.den
  match search (i.inPlace place) tie 18 0 with
  | some (n, digits) => strip (digits + 1) n (place - digits)
  | none => (0, 0)

/-- The shortest decimal that reads back as a finite number. -/
def decimal (f : BinaryFormat) (tie : TieRule) (negative : Bool) (code : Nat) : Decimal :=
  if code = 0 then ⟨negative, 0, 0⟩
  else
    let (coefficient, exponent) := ofCode f tie code
    ⟨negative, coefficient, exponent⟩

end Shortest

namespace Decimal

/-- A minus in front of negative numbers. -/
def signed (negative : Bool) (body : String) : String := if negative then "-" ++ body else body

/-- The digits of a coefficient. -/
def digitText (n : Nat) : List Char := Nat.toDigits 10 n

/-- The whole part and the digits behind the point, without an exponent. -/
def split (d : Decimal) : List Char × List Char :=
  let ds := digitText d.coefficient
  if 0 ≤ d.exponent then
    (if d.coefficient = 0 then ds else ds ++ List.replicate d.exponent.toNat '0', [])
  else
    let places := (-d.exponent).toNat
    if places < ds.length then (ds.take (ds.length - places), ds.drop (ds.length - places))
    else (['0'], List.replicate (places - ds.length) '0' ++ ds)

/-- A decimal without an exponent; whole numbers have no point. -/
def positional (d : Decimal) : String :=
  let (whole, fraction) := d.split
  signed d.negative
    (String.ofList (if fraction.isEmpty then whole else whole ++ '.' :: fraction))

/-- Where a compact decimal changes to exponent notation: the places of the leading digit
from `lowest` to `highest` are written without an exponent. -/
structure Window where
  lowest : Int
  highest : Int

/-- The place of the leading digit. -/
def place (d : Decimal) : Int := d.exponent + (digitText d.coefficient).length - 1

/-- A decimal whose whole part always has a point behind it, and which goes over to an
exponent outside the window. -/
def compact (w : Window) (d : Decimal) : String :=
  if d.coefficient = 0 then signed d.negative "0.0"
  else if w.lowest ≤ d.place ∧ d.place ≤ w.highest then
    let (whole, fraction) := d.split
    signed d.negative
      (String.ofList (whole ++ '.' :: (if fraction.isEmpty then ['0'] else fraction)))
  else
    let mantissa := match digitText d.coefficient with
      | [] => []
      | [c] => [c]
      | c :: rest => c :: '.' :: rest
    let exponent := (if d.place < 0 then "e-" else "e+") ++ toString d.place.natAbs
    signed d.negative (String.ofList mantissa ++ exponent)

end Decimal

end Listing
