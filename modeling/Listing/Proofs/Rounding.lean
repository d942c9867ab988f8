import Mathlib
import Listing.Number.Binary

/-!
# Rounding what needs none

A magnitude that a format holds is rounded to itself, whichever ratio it is given as.  So a
finite number of single precision becomes the double of the same magnitude, and this one becomes
the number of single precision again.

* `BinaryFormat.Holds` says which magnitudes a format holds, counted in least positive numbers;
* `BinaryFormat.nearest_of_holds` is the rounding of those;
* `Binary.convert_convert` concludes it for single and double precision.
-/

namespace Listing

namespace BinaryFormat

variable {f : BinaryFormat}

/-! ## Magnitudes that a format holds -/

/-- How many binary places of a magnitude are beyond the fraction. -/
def beyond (f : BinaryFormat) (v : Nat) : Nat := v.log2 - f.fractionBits

/-- A magnitude, counted in least positive numbers, is nought in all places beyond the
fraction. -/
def Holds (f : BinaryFormat) (v : Nat) : Prop := 2 ^ f.beyond v ∣ v

/-- The code of a magnitude that the format holds. -/
def codeOf (f : BinaryFormat) (v : Nat) : Nat :=
  f.beyond v * 2 ^ f.fractionBits + v / 2 ^ f.beyond v

theorem lt_of_beyond_eq_zero {v : Nat} (none : f.beyond v = 0) : v < 2 ^ (f.fractionBits + 1) := by
  rcases Nat.eq_zero_or_pos v with rfl | some
  · exact Nat.two_pow_pos _
  · exact (Nat.log2_lt some.ne').1 (by unfold beyond at none; omega)

theorem div_beyond_lt (v : Nat) : v / 2 ^ f.beyond v < 2 ^ (f.fractionBits + 1) := by
  rw [Nat.div_lt_iff_lt_mul (Nat.two_pow_pos _), ← Nat.pow_add]
  exact Nat.lt_log2_self.trans_le (Nat.pow_le_pow_right (by decide) (by unfold beyond; omega))

/-- If there are places beyond, the fraction is full without them. -/
theorem le_div_beyond {v : Nat} (some : f.beyond v ≠ 0) :
    2 ^ f.fractionBits ≤ v / 2 ^ f.beyond v := by
  have great : v ≠ 0 := by
    rintro rfl
    exact some (by simp [beyond])
  rw [Nat.le_div_iff_mul_le (Nat.two_pow_pos _), ← Nat.pow_add]
  exact (Nat.pow_le_pow_right (by decide) (by unfold beyond at *; omega)).trans
    (Nat.log2_self_le great)

/-- A short number has no more places beyond than it is shifted by. -/
theorem beyond_mul_le {w : Nat} (small : w < 2 ^ (f.fractionBits + 1)) (k : Nat) :
    f.beyond (w * 2 ^ k) ≤ k := by
  rcases Nat.eq_zero_or_pos w with rfl | some
  · simp [beyond]
  · have great : w * 2 ^ k ≠ 0 := (Nat.mul_pos some (Nat.two_pow_pos k)).ne'
    have places : (w * 2 ^ k).log2 < f.fractionBits + 1 + k := by
      rw [Nat.log2_lt great, Nat.pow_add]
      exact Nat.mul_lt_mul_of_pos_right small (Nat.two_pow_pos k)
    unfold beyond
    omega

/-- A fraction stays held however often it is doubled. -/
theorem holds_mul {w : Nat} (small : w < 2 ^ (f.fractionBits + 1)) (k : Nat) :
    f.Holds (w * 2 ^ k) :=
  (Nat.pow_dvd_pow 2 (beyond_mul_le small k)).trans (Nat.dvd_mul_left _ _)

/-! ## Codes of magnitudes -/

theorem units_of_lt {code : Nat} (small : code < 2 ^ f.fractionBits) : f.units code = code := by
  simp only [units, Nat.pow_eq]
  rw [Nat.div_eq_of_lt small, if_pos rfl, Nat.mod_eq_of_lt small]

/-- The code of a doubled fraction has the number of doublings as its exponent. -/
theorem units_add {b q : Nat} (low : 2 ^ f.fractionBits ≤ q) (high : q < 2 ^ (f.fractionBits + 1)) :
    f.units (b * 2 ^ f.fractionBits + q) = q * 2 ^ b := by
  have room := Nat.two_pow_pos f.fractionBits
  rw [Nat.pow_succ] at high
  have exponent : (b * 2 ^ f.fractionBits + q) / 2 ^ f.fractionBits = b + 1 := by
    rw [Nat.mul_comm, Nat.mul_add_div room, Nat.div_eq_of_lt_le (by omega : 1 * _ ≤ q) (by omega)]
  have fraction : (b * 2 ^ f.fractionBits + q) % 2 ^ f.fractionBits + 2 ^ f.fractionBits = q := by
    rw [Nat.mul_comm, Nat.mul_add_mod, Nat.mod_eq_sub_mod low, Nat.mod_eq_of_lt (by omega)]
    omega
  simp only [units, Nat.pow_eq]
  rw [exponent, fraction, if_neg (Nat.succ_ne_zero b), Nat.add_sub_cancel]

/-- Behind the codes of the least exponent, a code is that of a doubled fraction. -/
theorem exists_eq_add {code : Nat} (great : 2 ^ f.fractionBits ≤ code) :
    ∃ b q, 2 ^ f.fractionBits ≤ q ∧ q < 2 ^ (f.fractionBits + 1) ∧
      code = b * 2 ^ f.fractionBits + q := by
  have room := Nat.two_pow_pos f.fractionBits
  have fraction := Nat.mod_lt code room
  obtain ⟨b, exponent⟩ : ∃ b, code / 2 ^ f.fractionBits = b + 1 :=
    Nat.exists_eq_succ_of_ne_zero (Nat.div_pos great room).ne'
  refine ⟨b, code % 2 ^ f.fractionBits + 2 ^ f.fractionBits, by omega, by rw [Nat.pow_succ]; omega,
    ?_⟩
  conv_lhs => rw [← Nat.div_add_mod code (2 ^ f.fractionBits), exponent]
  ring

/-- The magnitude of every code is a doubled fraction. -/
theorem units_eq (f : BinaryFormat) (code : Nat) :
    ∃ w k, w < 2 ^ (f.fractionBits + 1) ∧ k * 2 ^ f.fractionBits ≤ code ∧
      f.units code = w * 2 ^ k := by
  rcases Nat.lt_or_ge code (2 ^ f.fractionBits) with less | great
  · exact ⟨code, 0, less.trans (Nat.pow_lt_pow_right (by decide) (by omega)), by simp,
      by simp [units_of_lt less]⟩
  · obtain ⟨b, q, low, high, rfl⟩ := exists_eq_add great
    exact ⟨q, b, high, Nat.le_add_right _ _, units_add low high⟩

/-- A held magnitude is that of its code. -/
theorem units_codeOf {v : Nat} (held : f.Holds v) : f.units (f.codeOf v) = v := by
  by_cases none : f.beyond v = 0
  · have small : v < 2 ^ (f.fractionBits + 1) := lt_of_beyond_eq_zero none
    rw [codeOf, none, Nat.zero_mul, Nat.zero_add, Nat.pow_zero, Nat.div_one]
    rcases Nat.lt_or_ge v (2 ^ f.fractionBits) with less | low
    · exact units_of_lt less
    · simpa using units_add (b := 0) low small
  · rw [codeOf, units_add (le_div_beyond none) (div_beyond_lt v), Nat.div_mul_cancel held]

/-- A full fraction has as many places beyond as it is shifted by. -/
theorem beyond_mul {b q : Nat} (low : 2 ^ f.fractionBits ≤ q)
    (high : q < 2 ^ (f.fractionBits + 1)) : f.beyond (q * 2 ^ b) = b := by
  have some : q ≠ 0 := (Nat.lt_of_lt_of_le (Nat.two_pow_pos _) low).ne'
  have great : q * 2 ^ b ≠ 0 := Nat.mul_ne_zero some (Nat.two_pow_pos b).ne'
  have atLeast : f.fractionBits + b ≤ (q * 2 ^ b).log2 := by
    rw [Nat.le_log2 great, Nat.pow_add]
    exact Nat.mul_le_mul_right _ low
  have atMost : (q * 2 ^ b).log2 < f.fractionBits + 1 + b := by
    rw [Nat.log2_lt great, Nat.pow_add]
    exact Nat.mul_lt_mul_of_pos_right high (Nat.two_pow_pos b)
  unfold beyond
  omega

/-- The codes of magnitudes are the only ones. -/
theorem codeOf_units (code : Nat) : f.codeOf (f.units code) = code := by
  rcases Nat.lt_or_ge code (2 ^ f.fractionBits) with less | great
  · have none : f.beyond code = 0 := by
      rcases Nat.eq_zero_or_pos code with rfl | some
      · simp [beyond]
      · have places := (Nat.log2_lt some.ne').2 less
        unfold beyond
        omega
    rw [units_of_lt less, codeOf, none]
    simp
  · obtain ⟨b, q, low, high, rfl⟩ := exists_eq_add great
    rw [units_add low high, codeOf, beyond_mul low high,
      Nat.mul_div_cancel q (Nat.two_pow_pos b)]

theorem codeOf_mul_lt {w : Nat} (small : w < 2 ^ (f.fractionBits + 1)) (k : Nat) :
    f.codeOf (w * 2 ^ k) < (k + 2) * 2 ^ f.fractionBits := by
  have rest := f.div_beyond_lt (w * 2 ^ k)
  have few : f.beyond (w * 2 ^ k) ≤ k := beyond_mul_le small k
  have doubled := Nat.mul_le_mul_right (2 ^ f.fractionBits) few
  rw [Nat.pow_succ] at rest
  rw [codeOf, Nat.add_mul]
  omega

/-! ## Rounding -/

theorem roundToEven_mul {q den : Nat} (some : 0 < den) : roundToEven (q * den) den = q := by
  simp [roundToEven, Nat.mul_div_cancel _ some, some]

/-- A held magnitude is rounded to its own code. -/
theorem nearest_of_holds {num den v : Nat} (some : 0 < den) (held : f.Holds v)
    (exact : num * 2 ^ f.depth = v * den) : f.nearest num den = min (f.codeOf v) f.infinity := by
  have whole : v * den = v / 2 ^ f.beyond v * (den * 2 ^ f.beyond v) := by
    rw [Nat.mul_left_comm, Nat.div_mul_cancel held, Nat.mul_comm]
  have even : roundToEven (v * den) (den * 2 ^ f.beyond v) = v / 2 ^ f.beyond v := by
    rw [whole]
    exact roundToEven_mul (Nat.mul_pos some (Nat.two_pow_pos _))
  unfold nearest
  simp only [Nat.pow_eq]
  rw [exact, Nat.mul_div_cancel v some]
  exact congrArg (fun rounded => min (f.beyond v * 2 ^ f.fractionBits + rounded) f.infinity) even

end BinaryFormat

namespace Binary

open BinaryFormat

/-! ## Conversions -/

/-- A number whose magnitude the other format holds is converted to that magnitude. -/
theorem convert_of_holds {f g : BinaryFormat} (negative : Bool) (code : Fin (f.infinity + 1))
    (finite : code.val < f.infinity) {v : Nat} (held : g.Holds v)
    (small : g.codeOf v < g.infinity)
    (exact : f.units code.val * 2 ^ g.depth = v * 2 ^ f.depth) :
    (number negative code : Binary f).convert =
      (number negative ⟨g.codeOf v, small.trans (Nat.lt_succ_self _)⟩ : Binary g) := by
  rw [convert, if_neg finite.ne, ofRatio, Nat.pow_eq,
    nearest_of_holds (Nat.two_pow_pos _) held exact]
  simp [ofCode, small.le]

/-- A finite number of single precision is a double and, as that, the same number of single
precision. -/
theorem convert_convert {x : Single} (finite : x.isFinite = true) :
    (x.convert : Double).isFinite = true ∧ ((x.convert : Double).convert : Single) = x := by
  cases x with
  | nan => cases finite
  | number negative code =>
    have finite : code.val < BinaryFormat.single.infinity := of_decide_eq_true finite
    -- The least double is `2 ^ 925` times as small as the least number of single precision, so
    -- that the same magnitude is doubled as often more.
    obtain ⟨w, k, small, exponent, units⟩ := BinaryFormat.single.units_eq code.val
    have fits : w < 2 ^ (BinaryFormat.double.fractionBits + 1) :=
      small.trans (Nat.pow_lt_pow_right (by decide) (by decide))
    have few : k < 255 := by
      have below : k * 2 ^ 23 < 255 * 2 ^ 23 := exponent.trans_lt finite
      omega
    have below : BinaryFormat.double.codeOf (w * 2 ^ (k + 925)) < BinaryFormat.double.infinity := by
      have room : (k + 925 + 2) * 2 ^ 52 < 2047 * 2 ^ 52 := by omega
      exact (codeOf_mul_lt fits _).trans room
    have deeper : BinaryFormat.single.units code.val * 2 ^ BinaryFormat.double.depth =
        w * 2 ^ (k + 925) * 2 ^ BinaryFormat.single.depth := by
      have depths : k + BinaryFormat.double.depth = k + 925 + BinaryFormat.single.depth := rfl
      rw [units, Nat.mul_assoc, Nat.mul_assoc, ← Nat.pow_add, ← Nat.pow_add, depths]
    have held : BinaryFormat.double.Holds (w * 2 ^ (k + 925)) := holds_mul fits _
    have heldBefore : BinaryFormat.single.Holds (BinaryFormat.single.units code.val) :=
      units ▸ holds_mul small k
    rw [convert_of_holds negative code finite held below deeper]
    refine ⟨decide_eq_true below, ?_⟩
    rw [convert_of_holds negative ⟨_, below.trans (Nat.lt_succ_self _)⟩ below heldBefore
      ((codeOf_units _).trans_lt finite)
      ((congrArg (· * 2 ^ BinaryFormat.single.depth) (units_codeOf held)).trans deeper.symm)]
    simp only [codeOf_units]

end Binary

end Listing
