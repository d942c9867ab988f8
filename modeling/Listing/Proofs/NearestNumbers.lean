import Mathlib
import Listing.Proofs.Precision

/-!
# The nearest number

Rounding goes to the nearest number of a format, and where two are equally near, to the one with
the even code.  It stays below the middle between its number and the next one and above the middle
between this and the one before, which is all that is needed to compare distances.

* `BinaryFormat.distance_nearest_le` says that no number is nearer to a ratio, and
  `BinaryFormat.eq_or_dvd_nearest` which others can be as near;
* `Binary.IsNearest` is the property of numbers, signs included, and `Binary.isNearest_ofInt` says
  that integers are rounded by it.
-/

namespace Listing

namespace BinaryFormat

variable {f : BinaryFormat} {num den : Nat}

/-! ## Middles -/

/-- In the middle between two numbers, rounding ends at an even one. -/
theorem dvd_roundToEven_of_middle {q : Nat} (some : 0 < den)
    (middle : 2 * num = (2 * q + 1) * den) : 2 ∣ roundToEven num den := by
  have whole := Nat.div_add_mod num den
  rw [Nat.add_mul, Nat.mul_assoc, Nat.mul_comm q den] at middle
  have same : num / den = q := Nat.div_eq_of_lt_le (by rw [Nat.mul_comm]; omega)
    (by rw [Nat.succ_mul, Nat.mul_comm]; omega)
  have rest : 2 * (num % den) = den := by
    rw [same] at whole
    omega
  unfold roundToEven
  simp only [rest, Nat.lt_irrefl, if_false]
  split_ifs with even
  · exact Nat.dvd_of_mod_eq_zero even
  · omega

/-- In the middle between two neighbours rounding goes to the one with the even code. -/
theorem dvd_nearest_of_middle {code : Nat} (some : 0 < den) (fraction : f.fractionBits ≠ 0)
    (middle : 2 * (num * 2 ^ f.depth) = (f.units code + f.units (code + 1)) * den) :
    2 ∣ f.nearest num den := by
  obtain ⟨b, q, high, low, -, here, next⟩ := f.exists_place code
  rw [here, next] at middle
  rw [nearest_eq]
  generalize num * 2 ^ f.depth = v at middle ⊢
  have room := Nat.two_pow_pos b
  have reached : q * 2 ^ b ≤ v / den := by
    rw [Nat.le_div_iff_mul_le some]
    nlinarith
  have short : v / den < 2 ^ (f.fractionBits + 1 + b) := by
    rw [Nat.div_lt_iff_lt_mul some, Nat.pow_add]
    have top := Nat.mul_le_mul_right (2 ^ b * den) (Nat.succ_le_of_lt high)
    nlinarith [Nat.mul_pos room some]
  have places : f.beyond (v / den) = b :=
    le_antisymm (beyond_le_of_lt short) (le_beyond_of_le high low reached)
  have rounded : 2 ∣ roundToEven v (den * 2 ^ b) := by
    refine dvd_roundToEven_of_middle (q := q) (Nat.mul_pos some room) ?_
    calc 2 * v = (q * 2 ^ b + (q + 1) * 2 ^ b) * den := middle
      _ = (2 * q + 1) * (den * 2 ^ b) := by ring
  have even : 2 ∣ 2 ^ f.fractionBits := dvd_pow_self 2 fraction
  rw [places]
  rcases min_choice (b * 2 ^ f.fractionBits + roundToEven v (den * 2 ^ b)) f.infinity with
    finite | infinite
  · rw [finite]
    exact (even.mul_left b).add rounded
  · rw [infinite]
    exact even.mul_left _

/-- A ratio is not above the middle between what it is rounded to and the next number, and not
below the middle between this and the number before. -/
theorem nearest_between (some : 0 < den) (finite : f.nearest num den < f.infinity) :
    2 * (num * 2 ^ f.depth) ≤
        (f.units (f.nearest num den) + f.units (f.nearest num den + 1)) * den ∧
      ∀ code, f.nearest num den = code + 1 →
        (f.units code + f.units (code + 1)) * den ≤ 2 * (num * 2 ^ f.depth) := by
  refine ⟨?_, fun code same => ?_⟩
  · by_contra above
    exact (lt_nearest some finite (Nat.lt_of_not_le above)).false
  · by_contra below
    have le := nearest_le (Nat.lt_of_not_le below)
    omega

/-! ## Distances -/

/-- How far a ratio is from the magnitude of a code, in parts of least positive numbers. -/
def distance (f : BinaryFormat) (num den code : Nat) : Nat :=
  ((num * 2 ^ f.depth : Nat) - (f.units code * den : Nat) : Int).natAbs

/-- Any other number is further away than the one that a ratio is rounded to, or the ratio is in the
middle between two neighbours. -/
theorem distance_cases (some : 0 < den) (finite : f.nearest num den < f.infinity) (code : Nat) :
    code = f.nearest num den ∨ f.distance num den (f.nearest num den) < f.distance num den code ∨
      f.distance num den (f.nearest num den) = f.distance num den code ∧
        ∃ lower, 2 * (num * 2 ^ f.depth) = (f.units lower + f.units (lower + 1)) * den := by
  obtain ⟨below, above⟩ := nearest_between some finite
  have less {a b : Nat} (lt : a < b) : f.units a * den < f.units b * den :=
    Nat.mul_lt_mul_of_pos_right (f.units_strictMono lt) some
  have le {a b : Nat} (le : a ≤ b) : f.units a * den ≤ f.units b * den :=
    Nat.mul_le_mul_right den (f.units_strictMono.monotone le)
  simp only [Nat.add_mul] at below above ⊢
  rcases Nat.lt_trichotomy code (f.nearest num den) with lower | same | higher
  · obtain ⟨before, last⟩ : ∃ before, f.nearest num den = before + 1 :=
      Nat.exists_eq_succ_of_ne_zero (Nat.ne_zero_of_lt lower)
    have middle := above before last
    have first : f.units code * den ≤ f.units before * den := le (by omega)
    have second : f.units before * den < f.units (before + 1) * den := less (Nat.lt_succ_self _)
    have further : f.distance num den (before + 1) < f.distance num den code ∨
        f.distance num den (before + 1) = f.distance num den code ∧
          2 * (num * 2 ^ f.depth) = f.units before * den + f.units (before + 1) * den := by
      rw [last] at below
      unfold distance
      omega
    rw [last]
    exact Or.inr (further.imp_right fun near => ⟨near.1, before, near.2⟩)
  · exact Or.inl same
  · have first : f.units (f.nearest num den + 1) * den ≤ f.units code * den := le higher
    have second : f.units (f.nearest num den) * den < f.units (f.nearest num den + 1) * den :=
      less (Nat.lt_succ_self _)
    have further : f.distance num den (f.nearest num den) < f.distance num den code ∨
        f.distance num den (f.nearest num den) = f.distance num den code ∧
          2 * (num * 2 ^ f.depth) = f.units (f.nearest num den) * den +
            f.units (f.nearest num den + 1) * den := by
      unfold distance
      omega
    exact Or.inr (further.imp_right fun near => ⟨near.1, _, near.2⟩)

/-- No number is nearer to a ratio than the one that it is rounded to. -/
theorem distance_nearest_le (some : 0 < den) (finite : f.nearest num den < f.infinity)
    (code : Nat) : f.distance num den (f.nearest num den) ≤ f.distance num den code := by
  rcases distance_cases some finite code with rfl | less | ⟨same, -⟩
  · exact Nat.le_refl _
  · exact less.le
  · exact same.le

/-- If another number is as near, the ratio is rounded to an even code. -/
theorem eq_or_dvd_nearest (some : 0 < den) (fraction : f.fractionBits ≠ 0)
    (finite : f.nearest num den < f.infinity) {code : Nat}
    (near : f.distance num den code = f.distance num den (f.nearest num den)) :
    code = f.nearest num den ∨ 2 ∣ f.nearest num den := by
  rcases distance_cases some finite code with same | less | ⟨-, lower, middle⟩
  · exact Or.inl same
  · omega
  · exact Or.inr (dvd_nearest_of_middle some fraction middle)

end BinaryFormat

namespace Binary

open BinaryFormat

variable {f : BinaryFormat}

/-! ## Numbers with signs -/

/-- A number counted in least positive numbers; what is not a number counts as nought. -/
def units : Binary f → Int
  | nan => 0
  | number negative code => if negative then -(f.units code.val : Int) else f.units code.val

/-- The code of the magnitude is even. -/
def HasEvenCode : Binary f → Prop
  | nan => False
  | number _ code => 2 ∣ code.val

/-- How far an integer is from a number, in least positive numbers. -/
def distance (x : Binary f) (n : Int) : Nat := (n * 2 ^ f.depth - x.units).natAbs

/-- A finite number is nearest to an integer: no finite number is nearer, and if another one is as
near, its own code is even. -/
structure IsNearest (x : Binary f) (n : Int) : Prop where
  finite : x.isFinite = true
  least : ∀ y : Binary f, y.isFinite = true → x.distance n ≤ y.distance n
  even : ∀ y : Binary f, y.isFinite = true → y.distance n = x.distance n →
    y.units = x.units ∨ x.HasEvenCode

theorem natAbs_mul_pow (n : Int) (k : Nat) :
    ((n.natAbs * 2 ^ k : Nat) : Int) = (n * 2 ^ k).natAbs := by
  rw [Int.natAbs_mul, Int.natAbs_pow]
  rfl

/-- Whatever its sign is, a number is as far from an integer as their magnitudes are or further. -/
theorem distance_le (n : Int) (negative : Bool) (code : Fin (f.infinity + 1)) :
    f.distance n.natAbs 1 code.val ≤ (number negative code).distance n := by
  unfold distance BinaryFormat.distance units
  rw [natAbs_mul_pow]
  cases negative <;> simp only [Nat.mul_one, if_true, Bool.false_eq_true, if_false] <;> omega

/-- An integer is as far from a number with its sign as their magnitudes are. -/
theorem distance_ofInt (n : Int) :
    (ofInt n : Binary f).distance n = f.distance n.natAbs 1 (f.nearest n.natAbs 1) := by
  have finite : f.nearest n.natAbs 1 ≤ f.infinity := nearest_le_infinity _ _
  unfold ofInt ofRatio ofCode distance BinaryFormat.distance units
  rw [natAbs_mul_pow]
  simp only [min_eq_left finite, Nat.mul_one, decide_eq_true_eq]
  split_ifs with negative
  · have below : n * 2 ^ f.depth < 0 := Int.mul_neg_of_neg_of_pos negative (by positivity)
    omega
  · have above : 0 ≤ n * 2 ^ f.depth := Int.mul_nonneg (by omega) (by positivity)
    omega

/-- No finite number is nearer to an integer than the one that it is rounded to. -/
theorem distance_ofInt_le {n : Int} (finite : f.nearest n.natAbs 1 < f.infinity) {y : Binary f}
    (proper : y.isFinite = true) : (ofInt n : Binary f).distance n ≤ y.distance n := by
  cases y with
  | nan => cases proper
  | number negative code =>
    calc (ofInt n : Binary f).distance n = f.distance n.natAbs 1 (f.nearest n.natAbs 1) :=
          distance_ofInt n
      _ ≤ f.distance n.natAbs 1 code.val := distance_nearest_le Nat.one_pos finite code.val
      _ ≤ (number negative code).distance n := distance_le n negative code

theorem units_eq_or_eq_neg (negative negative' : Bool) (code : Fin (f.infinity + 1)) :
    (number negative code).units = (number negative' code).units ∨
      (number negative code).units = -(number negative' code).units := by
  cases negative <;> cases negative' <;> simp [units]

theorem units_zero (negative : Bool) : (zero negative : Binary f).units = 0 := by
  have nought : f.units 0 = 0 := units_of_lt (Nat.two_pow_pos _)
  simp [zero, ofCode, units, nought]

/-- Integers are rounded to the nearest number, if it is finite. -/
theorem isNearest_ofInt (fraction : f.fractionBits ≠ 0) {n : Int}
    (finite : f.nearest n.natAbs 1 < f.infinity) : (ofInt n : Binary f).IsNearest n := by
  have code : (ofInt n : Binary f) = number (decide (n < 0))
      ⟨f.nearest n.natAbs 1, finite.trans (Nat.lt_succ_self _)⟩ :=
    ofRatio_eq_number_iff.2 ⟨rfl, rfl⟩
  refine ⟨?_, fun y proper => distance_ofInt_le finite proper, fun y proper near => ?_⟩
  · rw [code]
    exact decide_eq_true finite
  cases y with
  | nan => cases proper
  | number negative c =>
    have magnitudes := distance_le n negative c
    rw [near, distance_ofInt] at magnitudes
    rcases eq_or_dvd_nearest Nat.one_pos fraction finite
      (magnitudes.antisymm (distance_nearest_le Nat.one_pos finite c.val)) with same | even
    · -- With the other sign the number is as near only if it is nought.
      left
      have nought : (ofInt n : Binary f).distance n ≤ (zero false : Binary f).distance n :=
        distance_ofInt_le finite (decide_eq_true (lt_of_le_of_lt (Nat.min_le_left _ _)
          (Nat.zero_lt_of_lt finite)))
      rw [distance, distance, units_zero] at nought
      rw [distance, distance] at near
      rw [code] at near nought ⊢
      obtain rfl : c = ⟨f.nearest n.natAbs 1, finite.trans (Nat.lt_succ_self _)⟩ := Fin.ext same
      rcases units_eq_or_eq_neg negative (decide (n < 0)) _ with equal | opposite
      · exact equal
      · rw [opposite] at near ⊢
        omega
    · right
      rw [code]
      exact even

end Binary

end Listing
