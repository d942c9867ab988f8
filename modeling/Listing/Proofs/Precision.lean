import Mathlib
import Listing.Number.Decimal
import Listing.Proofs.LoweredOrder

/-!
# The same number in single and in double precision

Between two neighbouring numbers of single precision there are doubles, and the point in the
middle between the two is one of them.  So a ratio whose nearest double happens to be a number of
single precision lies between the middles on both sides of that number, and is nearest to it in
single precision as well.  Of other ratios nothing like this can be said.

* `BinaryFormat.lt_nearest` and `BinaryFormat.nearest_le` say what a ratio above or below the middle
  between two neighbours is rounded to;
* `Binary.ofRatio_of_eq_convert` is the conclusion for ratios;
* `Binary.ofDecimal_eq` says of which ratio a decimal is, however large its exponent is.
-/

namespace Listing

namespace BinaryFormat

variable {f : BinaryFormat} {num den num' den' : Nat}

/-! ## Ratios in other terms -/

theorem roundToEven_mul_right {k : Nat} (some : 0 < k) (num den : Nat) :
    roundToEven (num * k) (den * k) = roundToEven num den := by
  simp only [roundToEven, Nat.mul_div_mul_right _ _ some, Nat.mul_mod_mul_right, ← Nat.mul_assoc,
    Nat.mul_lt_mul_right some]

theorem nearest_mul_right {k : Nat} (some : 0 < k) (num den : Nat) :
    f.nearest (num * k) (den * k) = f.nearest num den := by
  rw [nearest_eq, nearest_eq, Nat.mul_right_comm num k, Nat.mul_div_mul_right _ _ some,
    Nat.mul_right_comm den k, roundToEven_mul_right some]

/-- A greater ratio is not rounded to a smaller number, in whatever terms it is given. -/
theorem nearest_le_nearest (some : 0 < den) (some' : 0 < den') (le : num * den' ≤ num' * den) :
    f.nearest num den ≤ f.nearest num' den' := by
  rw [← nearest_mul_right some' num den, ← nearest_mul_right some num' den', Nat.mul_comm den' den]
  exact nearest_mono le _

theorem nearest_le_infinity (num den : Nat) : f.nearest num den ≤ f.infinity := by
  rw [nearest_eq]
  exact Nat.min_le_right _ _

/-! ## Neighbours -/

/-- The magnitudes of a code and of the next one are neighbouring fractions, doubled equally
often. -/
theorem exists_place (f : BinaryFormat) (code : Nat) :
    ∃ b q, q < 2 ^ (f.fractionBits + 1) ∧ (b = 0 ∨ 2 ^ f.fractionBits ≤ q) ∧
      code = b * 2 ^ f.fractionBits + q ∧ f.units code = q * 2 ^ b ∧
      f.units (code + 1) = (q + 1) * 2 ^ b := by
  have double : 2 ^ (f.fractionBits + 1) = 2 ^ f.fractionBits * 2 := pow_succ 2 _
  have room := Nat.two_pow_pos f.fractionBits
  rcases Nat.lt_or_ge code (2 ^ f.fractionBits) with less | great
  · refine ⟨0, code, by omega, Or.inl rfl, by omega, by simp [units_of_lt less], ?_⟩
    rcases Nat.lt_or_ge (code + 1) (2 ^ f.fractionBits) with less' | great'
    · simp [units_of_lt less']
    · have next := units_add (b := 0) great' (by omega)
      rwa [Nat.zero_mul, Nat.zero_add] at next
  · obtain ⟨b, q, low, high, rfl⟩ := exists_eq_add great
    refine ⟨b, q, high, Or.inr low, rfl, units_add low high, ?_⟩
    rcases Nat.lt_or_ge (q + 1) (2 ^ (f.fractionBits + 1)) with less' | great'
    · exact units_add (low.trans (Nat.le_succ q)) less'
    -- Behind the greatest fraction comes the least one of the next exponent.
    · have last : q + 1 = 2 ^ (f.fractionBits + 1) := by omega
      have next : b * 2 ^ f.fractionBits + q + 1 =
          (b + 1) * 2 ^ f.fractionBits + 2 ^ f.fractionBits := by
        rw [Nat.succ_mul]
        omega
      rw [next, units_add (Nat.le_refl _) (by omega), last, double, Nat.pow_succ]
      ring

/-- Greater codes stand for greater numbers. -/
theorem units_strictMono (f : BinaryFormat) : StrictMono f.units := by
  refine strictMono_nat_of_lt_succ fun code => ?_
  obtain ⟨b, q, -, -, -, here, next⟩ := f.exists_place code
  rw [here, next]
  exact Nat.mul_lt_mul_of_pos_right (Nat.lt_succ_self q) (Nat.two_pow_pos b)

/-- Different magnitudes that the format holds are not rounded to the same number. -/
theorem nearest_lt_nearest_of_holds {v v' : Nat} (some : 0 < den) (some' : 0 < den')
    (held : f.Holds v) (held' : f.Holds v') (exact : num * 2 ^ f.depth = v * den)
    (exact' : num' * 2 ^ f.depth = v' * den') (less : v < v') (finite : f.codeOf v < f.infinity) :
    f.nearest num den < f.nearest num' den' := by
  rw [nearest_of_holds some held exact, nearest_of_holds some' held' exact']
  have codes : f.codeOf v < f.codeOf v' := by
    refine f.units_strictMono.lt_iff_lt.1 ?_
    rwa [units_codeOf held, units_codeOf held']
  omega

/-! ## Middles between neighbours -/

/-- A number that is short enough has only so many places beyond the fraction. -/
theorem beyond_le_of_lt {v b : Nat} (short : v < 2 ^ (f.fractionBits + 1 + b)) :
    f.beyond v ≤ b := by
  rcases Nat.eq_zero_or_pos v with none | great
  · simp [none, beyond]
  · have length := (Nat.log2_lt great.ne').2 short
    unfold beyond
    omega

theorem le_beyond_of_le {v b q : Nat} (high : q < 2 ^ (f.fractionBits + 1))
    (low : b = 0 ∨ 2 ^ f.fractionBits ≤ q) (reached : q * 2 ^ b ≤ v) : b ≤ f.beyond v := by
  rcases low with rfl | low
  · exact Nat.zero_le _
  · exact (beyond_mul low high).symm.le.trans (beyond_mono reached)

theorem lt_roundToEven {q : Nat} (some : 0 < den) (above : (2 * q + 1) * den < 2 * num) :
    q < roundToEven num den := by
  rcases Nat.lt_or_ge q (num / den) with less | le
  · exact less.trans_le (le_roundToEven num den)
  · have whole := Nat.div_add_mod num den
    have part := Nat.mod_lt num some
    have same : num / den = q := by
      by_contra other
      have below := Nat.mul_le_mul_left den (Nat.succ_le_of_lt (lt_of_le_of_ne le other))
      rw [Nat.mul_succ] at below
      rw [Nat.add_mul, Nat.mul_assoc, Nat.mul_comm q den] at above
      omega
    have rest : den < 2 * (num % den) := by
      rw [same] at whole
      rw [Nat.add_mul, Nat.mul_assoc, Nat.mul_comm q den] at above
      omega
    simp only [roundToEven, same]
    rw [if_neg (by omega), if_pos rest]
    exact Nat.lt_succ_self q

/-- Before the middle, rounding goes down. -/
theorem roundToEven_le_of_lt {q : Nat} (below : 2 * num < (2 * q + 1) * den) :
    roundToEven num den ≤ q := by
  have some : 0 < den := Nat.pos_of_mul_pos_left (Nat.zero_lt_of_lt below)
  have whole := Nat.div_add_mod num den
  rw [Nat.add_mul, Nat.mul_assoc, Nat.mul_comm q den] at below
  have le : num / den ≤ q := by
    by_contra other
    have above := Nat.mul_le_mul_left den (Nat.succ_le_of_lt (Nat.lt_of_not_le other))
    rw [Nat.mul_succ] at above
    omega
  rcases le.lt_or_eq with less | same
  · exact (roundToEven_le num den).trans less
  · have rest : 2 * (num % den) < den := by
      rw [same] at whole
      omega
    simp only [roundToEven, same]
    rw [if_pos rest]

/-- A ratio above the middle between two neighbours is not rounded to the lower one. -/
theorem lt_nearest {code : Nat} (some : 0 < den) (finite : code < f.infinity)
    (above : (f.units code + f.units (code + 1)) * den < 2 * (num * 2 ^ f.depth)) :
    code < f.nearest num den := by
  obtain ⟨b, q, high, low, place, here, next⟩ := f.exists_place code
  rw [here, next] at above
  rw [nearest_eq]
  generalize num * 2 ^ f.depth = v at above ⊢
  have reached : q * 2 ^ b ≤ v / den := by
    rw [Nat.le_div_iff_mul_le some]
    nlinarith
  have places : b ≤ f.beyond (v / den) := le_beyond_of_le high low reached
  refine lt_min ?_ finite
  rcases places.lt_or_eq with further | same
  · -- With a greater exponent the least fraction is enough.
    have great : 2 ^ f.fractionBits ≤ roundToEven v (den * 2 ^ f.beyond (v / den)) := by
      refine le_trans ?_ (le_roundToEven _ _)
      rw [← Nat.div_div_eq_div_mul]
      exact le_div_beyond (by omega)
    have apart := Nat.mul_le_mul_right (2 ^ f.fractionBits) (Nat.succ_le_of_lt further)
    rw [Nat.succ_mul] at apart
    rw [Nat.pow_succ] at high
    omega
  · rw [← same, place]
    refine Nat.add_lt_add_left (lt_roundToEven (Nat.mul_pos some (Nat.two_pow_pos b)) ?_) _
    calc (2 * q + 1) * (den * 2 ^ b) = (q * 2 ^ b + (q + 1) * 2 ^ b) * den := by ring
      _ < 2 * v := above

/-- A ratio below the middle between two neighbours is not rounded to the upper one. -/
theorem nearest_le {code : Nat}
    (below : 2 * (num * 2 ^ f.depth) < (f.units code + f.units (code + 1)) * den) :
    f.nearest num den ≤ code := by
  obtain ⟨b, q, high, low, place, here, next⟩ := f.exists_place code
  rw [here, next] at below
  rw [nearest_eq]
  generalize num * 2 ^ f.depth = v at below ⊢
  have some : 0 < den := Nat.pos_of_mul_pos_left (Nat.zero_lt_of_lt below)
  have short : v / den < 2 ^ (f.fractionBits + 1 + b) := by
    rw [Nat.div_lt_iff_lt_mul some, Nat.pow_add]
    have top := Nat.mul_le_mul_right (2 ^ b) (Nat.succ_le_of_lt high)
    nlinarith
  have places : f.beyond (v / den) ≤ b := beyond_le_of_lt short
  refine (Nat.min_le_left _ _).trans ?_
  rw [place]
  rcases places.lt_or_eq with fewer | same
  · -- With a smaller exponent not even the greatest fraction is too much.
    have great : 2 ^ f.fractionBits ≤ q := low.resolve_left (by omega)
    have small : roundToEven v (den * 2 ^ f.beyond (v / den)) ≤ 2 ^ (f.fractionBits + 1) := by
      refine (roundToEven_le _ _).trans ?_
      rw [← Nat.div_div_eq_div_mul]
      exact f.div_beyond_lt (v / den)
    have apart := Nat.mul_le_mul_right (2 ^ f.fractionBits) (Nat.succ_le_of_lt fewer)
    rw [Nat.succ_mul] at apart
    rw [Nat.pow_succ] at small
    omega
  · rw [same]
    refine Nat.add_le_add_left (roundToEven_le_of_lt ?_) _
    calc 2 * v < (q * 2 ^ b + (q + 1) * 2 ^ b) * den := below
      _ = (2 * q + 1) * (den * 2 ^ b) := by ring

/-! ## Doubles between numbers of single precision -/

/-- Fractions of few places, doubled or halved, are not rounded to the same double. -/
theorem nearest_double_lt {w k w' k' : Nat} (small : w < 2 ^ 53) (small' : w' < 2 ^ 53)
    (few : k ≤ 1000) (less : w * 2 ^ k < w' * 2 ^ k') :
    double.nearest (w * 2 ^ k) (2 ^ 150) < double.nearest (w' * 2 ^ k') (2 ^ 150) := by
  have exact (w k : Nat) : w * 2 ^ k * 2 ^ double.depth = w * 2 ^ (k + 924) * 2 ^ 150 := by
    have depths : k + double.depth = k + 924 + 150 := rfl
    rw [Nat.mul_assoc, Nat.mul_assoc, ← Nat.pow_add, ← Nat.pow_add, depths]
  have deeper : w * 2 ^ (k + 924) < w' * 2 ^ (k' + 924) := by
    rw [Nat.pow_add, Nat.pow_add, ← Nat.mul_assoc, ← Nat.mul_assoc]
    exact Nat.mul_lt_mul_of_pos_right less (Nat.two_pow_pos 924)
  have held : double.Holds (w * 2 ^ (k + 924)) := holds_mul small _
  have held' : double.Holds (w' * 2 ^ (k' + 924)) := holds_mul small' _
  have room : (k + 924 + 2) * 2 ^ 52 ≤ 2047 * 2 ^ 52 := by omega
  have finite : double.codeOf (w * 2 ^ (k + 924)) < double.infinity :=
    (codeOf_mul_lt (f := double) small _).trans_le room
  exact nearest_lt_nearest_of_holds (Nat.two_pow_pos _) (Nat.two_pow_pos _) held held' (exact w k)
    (exact w' k') deeper finite

/-- The middle between two neighbours of single precision is another double. -/
theorem nearest_double_middle {code : Nat} (finite : code < single.infinity) :
    double.nearest (single.units code) (2 ^ single.depth) <
        double.nearest (single.units code + single.units (code + 1)) (2 ^ 150) ∧
      double.nearest (single.units code + single.units (code + 1)) (2 ^ 150) <
        double.nearest (single.units (code + 1)) (2 ^ single.depth) := by
  obtain ⟨b, q, high, -, place, here, next⟩ := single.exists_place code
  have short : q < 2 ^ 24 := high
  have few : b < 255 := by
    have below : b * 2 ^ 23 + q < 255 * 2 ^ 23 := place ▸ finite
    omega
  have halves (n : Nat) : double.nearest n (2 ^ single.depth) = double.nearest (n * 2) (2 ^ 150) :=
    (nearest_mul_right (by decide : 0 < 2) n (2 ^ single.depth)).symm
  have middle : q * 2 ^ b + (q + 1) * 2 ^ b = (2 * q + 1) * 2 ^ b := by ring
  have doubled (n : Nat) : n * 2 ^ b * 2 = n * 2 ^ (b + 1) := by rw [Nat.pow_succ, Nat.mul_assoc]
  have room := Nat.two_pow_pos b
  rw [halves, halves, here, next, middle, doubled, doubled]
  constructor
  · refine nearest_double_lt (by omega) (by omega) (by omega) ?_
    rw [Nat.pow_succ]
    nlinarith
  · refine nearest_double_lt (by omega) (by omega) (by omega) ?_
    rw [Nat.pow_succ]
    nlinarith

/-- A ratio whose nearest double is a finite number of single precision is nearest to it there. -/
theorem nearest_single_of_nearest_double {code : Nat} (some : 0 < den)
    (finite : code < single.infinity)
    (same : double.nearest num den = double.nearest (single.units code) (2 ^ single.depth)) :
    single.nearest num den = code := by
  refine le_antisymm (nearest_le ?_) ?_
  · by_contra above
    have reached := (nearest_double_middle finite).1
    rw [← same] at reached
    refine reached.not_ge (nearest_le_nearest (Nat.two_pow_pos _) some ?_)
    have doubled : (2 : Nat) ^ 150 = 2 * 2 ^ single.depth := rfl
    rw [doubled]
    linarith
  · cases code with
    | zero => exact Nat.zero_le _
    | succ code =>
      have before : code < single.infinity := Nat.lt_of_succ_lt finite
      refine Nat.succ_le_of_lt (lt_nearest some before ?_)
      by_contra below
      have reached := (nearest_double_middle before).2
      rw [← same] at reached
      refine reached.not_ge (nearest_le_nearest some (Nat.two_pow_pos _) ?_)
      have doubled : (2 : Nat) ^ 150 = 2 * 2 ^ single.depth := rfl
      rw [doubled]
      linarith

/-- Where the two formats end: 2^128 is infinite in single precision alone, and the powers of ten
that decimals are compared with are infinite in their formats, and one part in as many is zero. -/
theorem nearest_limits :
    (double.nearest (2 ^ 128) 1 < double.infinity ∧
      single.nearest (2 ^ 128) 1 = single.infinity) ∧
    (single.nearest (10 ^ 2 ^ single.exponentBits) 1 = single.infinity ∧
      single.nearest 1 (10 ^ 2 ^ single.exponentBits) = 0) ∧
    double.nearest (10 ^ 2 ^ double.exponentBits) 1 = double.infinity ∧
      double.nearest 1 (10 ^ 2 ^ double.exponentBits) = 0 := by
  decide +kernel

/-- A ratio that is infinite in double precision is so in single precision. -/
theorem nearest_single_of_infinite (some : 0 < den)
    (infinite : double.nearest num den = double.infinity) :
    single.nearest num den = single.infinity := by
  refine le_antisymm (nearest_le_infinity _ _) ?_
  rcases Nat.le_total (num * 1) (2 ^ 128 * den) with le | ge
  · have finite : double.nearest (2 ^ 128) 1 < double.infinity := nearest_limits.1.1
    exact absurd (nearest_le_nearest some Nat.one_pos le) (by rw [infinite]; exact finite.not_ge)
  · have infinite : single.nearest (2 ^ 128) 1 = single.infinity := nearest_limits.1.2
    exact infinite.symm.le.trans (nearest_le_nearest Nat.one_pos some ge)

end BinaryFormat

namespace Binary

open BinaryFormat

variable {f : BinaryFormat} {num den : Nat}

/-! ## Ratios and decimals -/

/-- Ratios are rounded to one number if their signs and their nearest codes are the same. -/
theorem ofRatio_eq_ofRatio_iff {negative negative' : Bool} {num' den' : Nat} :
    (ofRatio negative num den : Binary f) = ofRatio negative' num' den' ↔
      negative = negative' ∧ f.nearest num den = f.nearest num' den' := by
  simp [ofRatio, ofCode, nearest_le_infinity]

theorem ofRatio_eq_infinite_iff {negative sign : Bool} :
    (ofRatio negative num den : Binary f) = infinite sign ↔
      negative = sign ∧ f.nearest num den = f.infinity := by
  simp [ofRatio, infinite, ofCode, nearest_le_infinity]

/-- A ratio is rounded to the number that its nearest code stands for. -/
theorem ofRatio_eq_number_iff {negative sign : Bool} {code : Fin (f.infinity + 1)} :
    (ofRatio negative num den : Binary f) = number sign code ↔
      negative = sign ∧ f.nearest num den = code.val := by
  simp [ofRatio, ofCode, nearest_le_infinity, Fin.ext_iff]

/-- A ratio that is a number of single precision when it is rounded to a double is rounded to this
number in single precision. -/
theorem ofRatio_of_eq_convert {negative : Bool} (some : 0 < den) {s : Single}
    (same : (ofRatio negative num den : Double) = s.convert) :
    (ofRatio negative num den : Single) = s := by
  cases s with
  | nan => cases same
  | number sign code =>
    rw [convert] at same
    rw [ofRatio_eq_number_iff]
    split at same
    · rename_i last
      obtain ⟨signs, infinite⟩ := ofRatio_eq_infinite_iff.1 same
      exact ⟨signs, (nearest_single_of_infinite some infinite).trans last.symm⟩
    · rename_i other
      obtain ⟨signs, nearest⟩ := ofRatio_eq_ofRatio_iff.1 same
      have finite : code.val < BinaryFormat.single.infinity :=
        lt_of_le_of_ne (Nat.le_of_lt_succ code.isLt) other
      exact ⟨signs, nearest_single_of_nearest_double some finite nearest⟩

end Binary

/-- The ratio that a decimal is, without its sign. -/
def Decimal.ratio (d : Decimal) : Nat × Nat :=
  (d.coefficient * 10 ^ d.exponent.toNat, 10 ^ (-d.exponent).toNat)

theorem Decimal.ratio_pos (d : Decimal) : 0 < d.ratio.2 := Nat.pow_pos (by decide)

/-- The powers of ten around a number with a certain count of digits. -/
theorem pow_length_toDigits {n : Nat} (some : n ≠ 0) :
    10 ^ ((Nat.toDigits 10 n).length - 1) ≤ n ∧ n < 10 ^ (Nat.toDigits 10 n).length := by
  have digits : 0 < (Nat.toDigits 10 n).length := List.length_pos_iff.2 Nat.toDigits_ne_nil
  refine ⟨?_, (Nat.length_toDigits_le_iff (by decide) digits).1 le_rfl⟩
  rcases Nat.eq_zero_or_pos ((Nat.toDigits 10 n).length - 1) with one | more
  · rw [one]
    exact Nat.pos_of_ne_zero some
  · by_contra less
    have short := (Nat.length_toDigits_le_iff (by decide) more).2 (Nat.lt_of_not_le less)
    omega

namespace Binary

open BinaryFormat

variable {f : BinaryFormat}

/-- Decimals that are not formed because of their magnitude are rounded to what they are taken
for, if the power of ten at the limit is. -/
theorem ofDecimal_eq (reached : f.nearest (10 ^ 2 ^ f.exponentBits) 1 = f.infinity)
    (vanished : f.nearest 1 (10 ^ 2 ^ f.exponentBits) = 0) (d : Decimal) :
    (ofDecimal d : Binary f) = ofRatio d.negative d.ratio.1 d.ratio.2 := by
  unfold ofDecimal
  simp only [Nat.pow_eq]
  generalize 2 ^ f.exponentBits = limit at reached vanished ⊢
  have nought (num : Nat) (low : num * 10 ^ limit ≤ d.ratio.2) : f.nearest num d.ratio.2 = 0 := by
    refine Nat.le_zero.1 (vanished ▸ nearest_le_nearest d.ratio_pos (Nat.pow_pos (by decide)) ?_)
    rwa [Nat.one_mul]
  split_ifs with none large small whole
  · have vanishes := nought 0 (by rw [Nat.zero_mul]; exact Nat.zero_le _)
    rw [Decimal.ratio, none, Nat.zero_mul, ofRatio, zero]
    exact congrArg (ofCode d.negative) vanishes.symm
  · have great := (pow_length_toDigits none).1
    refine (ofRatio_eq_infinite_iff.2 ⟨rfl, le_antisymm (nearest_le_infinity _ _) ?_⟩).symm
    refine reached.symm.le.trans (nearest_le_nearest Nat.one_pos d.ratio_pos ?_)
    calc 10 ^ limit * d.ratio.2 = 10 ^ (limit + (-d.exponent).toNat) := (Nat.pow_add ..).symm
      _ ≤ 10 ^ ((Nat.toDigits 10 d.coefficient).length - 1 + d.exponent.toNat) :=
          Nat.pow_le_pow_right (by decide) (by omega)
      _ = 10 ^ ((Nat.toDigits 10 d.coefficient).length - 1) * 10 ^ d.exponent.toNat :=
          Nat.pow_add ..
      _ ≤ d.ratio.1 * 1 := by rw [Nat.mul_one]; exact Nat.mul_le_mul_right _ great
  · have few := (pow_length_toDigits none).2.le
    refine congrArg (ofCode d.negative) (nought _ ?_).symm
    calc d.ratio.1 * 10 ^ limit
        ≤ 10 ^ (Nat.toDigits 10 d.coefficient).length * 10 ^ d.exponent.toNat * 10 ^ limit :=
          Nat.mul_le_mul_right _ (Nat.mul_le_mul_right _ few)
      _ = 10 ^ ((Nat.toDigits 10 d.coefficient).length + d.exponent.toNat + limit) := by
          rw [Nat.pow_add, Nat.pow_add]
      _ ≤ d.ratio.2 := Nat.pow_le_pow_right (by decide) (by omega)
  · have one : (-d.exponent).toNat = 0 := by omega
    rw [Decimal.ratio, one]
    rfl
  · have one : d.exponent.toNat = 0 := by omega
    rw [Decimal.ratio, one, Nat.pow_zero, Nat.mul_one]

theorem ofDecimal_single (d : Decimal) :
    (ofDecimal d : Single) = ofRatio d.negative d.ratio.1 d.ratio.2 :=
  ofDecimal_eq nearest_limits.2.1.1 nearest_limits.2.1.2 d

theorem ofDecimal_double (d : Decimal) :
    (ofDecimal d : Double) = ofRatio d.negative d.ratio.1 d.ratio.2 :=
  ofDecimal_eq nearest_limits.2.2.1 nearest_limits.2.2.2 d

/-- A numeral that is a number of single precision as a double is this number in single
precision. -/
theorem ofNumeral_of_eq_convert {n : Numeral} {s : Single}
    (same : (ofNumeral n : Double) = s.convert) : (ofNumeral n : Single) = s := by
  cases n with
  | nan =>
    cases s with
    | nan => rfl
    | number sign code =>
      rw [convert] at same
      split at same <;> cases same
  | infinite negative =>
    -- The infinities are what a large number is rounded to.
    have reached : BinaryFormat.double.nearest (10 ^ 2 ^ BinaryFormat.double.exponentBits) 1 =
        BinaryFormat.double.infinity := nearest_limits.2.2.1
    have double : (infinite negative : Double) = ofRatio negative _ 1 :=
      (ofRatio_eq_infinite_iff.2 ⟨rfl, reached⟩).symm
    have single : (infinite negative : Single) = ofRatio negative _ 1 :=
      (ofRatio_eq_infinite_iff.2 ⟨rfl, nearest_single_of_infinite Nat.one_pos reached⟩).symm
    exact single.trans (ofRatio_of_eq_convert Nat.one_pos (double.symm.trans same))
  | decimal d =>
    rw [ofNumeral, ofDecimal_double] at same
    rw [ofNumeral, ofDecimal_single]
    exact ofRatio_of_eq_convert d.ratio_pos same

end Binary

end Listing
