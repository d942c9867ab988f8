/-!
# Binary floating-point numbers

A datum of a binary interchange format is either not a number, or a sign and a
code.  The code counts the representable magnitudes from nought upwards, so that
the order of the numbers is the order of their codes, and rounding upwards past a
power of two needs no special case.

* `Binary.key?` places every number, the infinities included, on the integers;
* `BinaryFormat.units` gives the magnitude of a code as a multiple of the least
  positive number of the format;
* `BinaryFormat.nearest` is the code nearest to a ratio, ties going to the even code.
-/

namespace Listing

/-- A binary format: how many bits a code spends on the fraction and on the exponent. -/
structure BinaryFormat where
  fractionBits : Nat
  exponentBits : Nat
  deriving DecidableEq, Repr

namespace BinaryFormat

/-- The format of 32 bits. -/
def single : BinaryFormat := ⟨23, 8⟩

/-- The format of 64 bits. -/
def double : BinaryFormat := ⟨52, 11⟩

/-- The code of infinity: the greatest exponent with an empty fraction. -/
def infinity (f : BinaryFormat) : Nat := (Nat.pow 2 f.exponentBits - 1) * Nat.pow 2 f.fractionBits

/-- The least positive number of the format is one over two to this power. -/
def depth (f : BinaryFormat) : Nat := Nat.pow 2 (f.exponentBits - 1) + f.fractionBits - 2

/-- The magnitude of a code, counted in least positive numbers. -/
def units (f : BinaryFormat) (code : Nat) : Nat :=
  let exponent := code / Nat.pow 2 f.fractionBits
  let fraction := code % Nat.pow 2 f.fractionBits
  if exponent = 0 then fraction
  else (fraction + Nat.pow 2 f.fractionBits) * Nat.pow 2 (exponent - 1)

/-- `num / den` rounded to a whole number, a half going to the even neighbour. -/
def roundToEven (num den : Nat) : Nat :=
  let q := num / den
  let r := num % den
  if 2 * r < den then q
  else if den < 2 * r then q + 1
  else if q % 2 = 0 then q else q + 1

/-- The code whose magnitude is nearest to `num / den`, where `den` is positive; what
lies beyond the greatest finite magnitude goes to infinity. -/
def nearest (f : BinaryFormat) (num den : Nat) : Nat :=
  let scaled := num * Nat.pow 2 f.depth
  let drop := Nat.log2 (scaled / den) - f.fractionBits
  let code := drop * Nat.pow 2 f.fractionBits + roundToEven scaled (den * Nat.pow 2 drop)
  min code f.infinity

/-- The product of two finite magnitudes, rounded. -/
def product (f : BinaryFormat) (a b : Nat) : Nat :=
  f.nearest (f.units a * f.units b) (Nat.pow 2 (2 * f.depth))

/-- The quotient of a finite magnitude by a positive finite one, rounded. -/
def quotient (f : BinaryFormat) (a b : Nat) : Nat := f.nearest (f.units a) (f.units b)

end BinaryFormat

/-- A datum of a binary format. -/
inductive Binary (f : BinaryFormat) where
  /-- Not a number. -/
  | nan
  /-- The magnitude of a code, the code of infinity included, with a sign. -/
  | number (negative : Bool) (code : Fin (f.infinity + 1))
  deriving DecidableEq

/-- Data of 32 bits. -/
abbrev Single := Binary .single

/-- Data of 64 bits. -/
abbrev Double := Binary .double

namespace Binary

variable {f : BinaryFormat}

/-- The place of a number among all numbers; both noughts stand at nought. -/
def key? : Binary f → Option Int
  | nan => none
  | number negative code => some (if negative then -(code.val : Int) else code.val)

/-- The numerical order, which does not place a datum that is not a number. -/
def compare? (a b : Binary f) : Option Ordering :=
  match a.key?, b.key? with
  | some x, some y => some (compare x y)
  | _, _ => none

/-- A number other than the infinities. -/
def isFinite : Binary f → Bool
  | nan => false
  | number _ code => code.val < f.infinity

/-- A signed code, cut off at infinity. -/
def ofCode (negative : Bool) (code : Nat) : Binary f :=
  number negative ⟨min code f.infinity, Nat.lt_succ_of_le (Nat.min_le_right ..)⟩

/-- The infinities. -/
def infinite (negative : Bool) : Binary f := ofCode negative f.infinity

/-- The noughts. -/
def zero (negative : Bool) : Binary f := ofCode negative 0

/-- The number nearest to `num / den`, with a sign. -/
def ofRatio (negative : Bool) (num den : Nat) : Binary f := ofCode negative (f.nearest num den)

/-- The number nearest to an integer; nought gives the positive one. -/
def ofInt (n : Int) : Binary f := ofRatio (decide (n < 0)) n.natAbs 1

/-- The bits of a datum as one number, none for data that are not numbers, which have
many. -/
def bits? : Binary f → Option Nat
  | nan => none
  | number negative code =>
    some (code.val + if negative then Nat.pow 2 (f.fractionBits + f.exponentBits) else 0)

/-- The datum with the given bits. -/
def ofBits (bits : Nat) : Binary f :=
  let sign := Nat.pow 2 (f.fractionBits + f.exponentBits)
  let code := bits % sign
  if code ≤ f.infinity then ofCode (decide (sign ≤ bits)) code else nan

/-- The same number in another format, rounded where that format is coarser. -/
def convert {g : BinaryFormat} : Binary f → Binary g
  | nan => nan
  | number negative code =>
    if code.val = f.infinity then infinite negative
    else ofRatio negative (f.units code.val) (Nat.pow 2 f.depth)

/-- The same magnitude with the given sign. -/
def withSign (negative : Bool) : Binary f → Binary f
  | nan => nan
  | number _ code => number negative code

end Binary

end Listing
