import Mathlib
import Listing.Field.Atom
import Listing.Proofs.Rounding
import Listing.Proofs.SelfMatch
import Listing.Proofs.Sorting

/-!
# The order of values in their fields

A value of an ordered scalar type is compared as a field value, which no longer knows the type.
The order is the same for all types but two: choices are ordered by their names and not by their
places, and unsigned integers beyond the signed ones of 64 bits are kept as doubles.  Rounding keeps
the order, so that these integers are never put the wrong way round, but it makes some of them
equal.  Nothing is said here of an integer that is not beyond, and is kept as it is, beside one that
is kept as the double to which the former would be rounded.

* `BinaryFormat.nearest_mono` says that rounding keeps the order, and `Binary.compare?_ofInt` what
  becomes of the order of whole numbers;
* `Atom.compare_text` is the order of texts by the numbers of their characters;
* `Atom.compare_lower` is the conclusion for all types.
-/

namespace Listing

/-! ## Rounding keeps the order -/

namespace BinaryFormat

variable {f : BinaryFormat}

/-- Rounding does not go below the quotient. -/
theorem le_roundToEven (num den : Nat) : num / den ≤ roundToEven num den := by
  simp only [roundToEven]
  split_ifs <;> omega

theorem roundToEven_le (num den : Nat) : roundToEven num den ≤ num / den + 1 := by
  simp only [roundToEven]
  split_ifs <;> omega

/-- A greater numerator is not rounded to less. -/
theorem roundToEven_mono {num num' : Nat} (more : num ≤ num') (den : Nat) :
    roundToEven num den ≤ roundToEven num' den := by
  have quotients : num / den ≤ num' / den := Nat.div_le_div_right more
  rcases quotients.lt_or_eq with less | same
  · exact (roundToEven_le num den).trans (less.trans_le (le_roundToEven num' den))
  · -- With the same quotient, the greater number has the greater remainder.
    have remainders : num % den ≤ num' % den := by
      have whole := Nat.div_add_mod num den
      have whole' := Nat.div_add_mod num' den
      rw [← same] at whole'
      omega
    simp only [roundToEven, ← same]
    split_ifs <;> omega

/-- A greater number has no fewer places beyond the fraction. -/
theorem beyond_mono {v w : Nat} (more : v ≤ w) : f.beyond v ≤ f.beyond w := by
  refine Nat.sub_le_sub_right ?_ f.fractionBits
  rcases Nat.eq_zero_or_pos v with rfl | some
  · exact Nat.zero_le _
  · exact (Nat.le_log2 (some.trans_le more).ne').2 ((Nat.log2_self_le some.ne').trans more)

/-- The code of a ratio, by the places that are dropped from it and the rounded rest. -/
theorem nearest_eq (num den : Nat) :
    f.nearest num den =
      min (f.beyond (num * 2 ^ f.depth / den) * 2 ^ f.fractionBits +
          roundToEven (num * 2 ^ f.depth) (den * 2 ^ f.beyond (num * 2 ^ f.depth / den)))
        f.infinity := by
  simp only [nearest, Nat.pow_eq]
  rfl

/-- A greater ratio is not rounded to a smaller number. -/
theorem nearest_mono {num num' : Nat} (more : num ≤ num') (den : Nat) :
    f.nearest num den ≤ f.nearest num' den := by
  have scaled : num * 2 ^ f.depth ≤ num' * 2 ^ f.depth := Nat.mul_le_mul_right _ more
  rw [nearest_eq, nearest_eq]
  generalize num * 2 ^ f.depth = v at scaled ⊢
  generalize num' * 2 ^ f.depth = w at scaled ⊢
  refine min_le_min_right _ ?_
  have places : f.beyond (v / den) ≤ f.beyond (w / den) := beyond_mono (Nat.div_le_div_right scaled)
  rcases places.lt_or_eq with fewer | same
  -- With a greater exponent, the least fraction is not below the greatest one before it.
  · have low : roundToEven v (den * 2 ^ f.beyond (v / den)) ≤ 2 ^ (f.fractionBits + 1) := by
      refine (roundToEven_le _ _).trans ?_
      rw [← Nat.div_div_eq_div_mul]
      exact f.div_beyond_lt (v / den)
    have high : 2 ^ f.fractionBits ≤ roundToEven w (den * 2 ^ f.beyond (w / den)) := by
      refine le_trans ?_ (le_roundToEven _ _)
      rw [← Nat.div_div_eq_div_mul]
      exact le_div_beyond (by omega)
    have apart := Nat.mul_le_mul_right (2 ^ f.fractionBits) (Nat.succ_le_of_lt fewer)
    rw [Nat.succ_mul] at apart
    rw [Nat.pow_succ] at low
    omega
  · rw [same]
    exact Nat.add_le_add_left (roundToEven_mono scaled _) _

end BinaryFormat

namespace Binary

variable {f : BinaryFormat}

theorem ofInt_of_nonneg {n : Int} (positive : 0 ≤ n) :
    (ofInt n : Binary f) = ofCode false (f.nearest n.natAbs 1) := by
  rw [ofInt, ofRatio, decide_eq_false (by omega)]

/-- Numbers without a sign compare as their codes do. -/
theorem compare?_ofCode (c d : Nat) :
    (ofCode false c : Binary f).compare? (ofCode false d) =
      some (compare (min c f.infinity : Int) (min d f.infinity)) := by
  simp [compare?, key?, ofCode]

/-- Of two whole numbers that are not rounded to the same, the smaller one stays below. -/
theorem compare?_ofInt_of_lt {m n : Int} (positive : 0 ≤ m) (less : m < n)
    (apart : (ofInt m : Binary f) ≠ ofInt n) :
    (ofInt m : Binary f).compare? (ofInt n) = some .lt := by
  have codes : min (f.nearest m.natAbs 1) f.infinity ≤ min (f.nearest n.natAbs 1) f.infinity :=
    min_le_min_right _ (BinaryFormat.nearest_mono (by omega) 1)
  rw [ofInt_of_nonneg positive, ofInt_of_nonneg (by omega)] at apart ⊢
  have other : min (f.nearest m.natAbs 1) f.infinity ≠ min (f.nearest n.natAbs 1) f.infinity :=
    fun same => apart (by simp only [ofCode, same])
  rw [compare?_ofCode, Int.compare_eq_lt.2 (by omega)]

/-- Whole numbers that are not negative compare as doubles as they do themselves, unless they are
rounded to the same. -/
theorem compare?_ofInt {m n : Int} (first : 0 ≤ m) (second : 0 ≤ n) :
    (ofInt m : Binary f).compare? (ofInt n) =
      some (if (ofInt m : Binary f) = ofInt n then .eq else compare m n) := by
  split_ifs with same
  · have self : ∀ c : Int, compare c c = .eq := fun _ => Std.ReflCmp.compare_self
    rw [same, ofInt_of_nonneg second, compare?_ofCode, self]
  · rcases lt_trichotomy m n with less | rfl | more
    · rw [compare?_ofInt_of_lt first less same, Int.compare_eq_lt.2 less]
    · exact absurd rfl same
    · rw [← compare?_swap, compare?_ofInt_of_lt second more (Ne.symm same),
        Int.compare_eq_gt.2 more]
      rfl

end Binary

/-! ## Whole numbers as field values -/

namespace Value

/-- Integers that are kept as they are compare as themselves. -/
theorem compare_ofInt_of_holds {m n : Int} (first : IntegerWidth.signed64.Holds m)
    (second : IntegerWidth.signed64.Holds n) :
    (ofInt m).compare (ofInt n) = some (Ord.compare m n) := by
  rw [ofInt, ofInt, dif_pos first, dif_pos second]
  rfl

/-- Once one of two whole numbers is a double, both are compared as doubles. -/
theorem compare_ofInt_of_not_holds {m n : Int}
    (wide : ¬ (IntegerWidth.signed64.Holds m ∧ IntegerWidth.signed64.Holds n)) :
    (ofInt m).compare (ofInt n) = (Binary.ofInt m : Double).compare? (Binary.ofInt n) := by
  unfold ofInt
  split_ifs with first second second
  · exact absurd ⟨first, second⟩ wide
  all_goals rfl

end Value

/-! ## Keys -/

theorem compare_cons_cons (m n : Int) (ms ns : List Int) :
    compare (m :: ms) (n :: ns) = (compare m n).then (compare ms ns) := by
  simp [List.compare_eq_compareLex]

theorem compare_singleton (m n : Int) : compare [m] [n] = compare m n := by
  rw [compare_cons_cons]
  cases compare m n <;> rfl

theorem compare_toNat_eq_lt_iff {c d : Char} :
    compare (c.toNat : Int) (d.toNat : Int) = .lt ↔ c < d := by
  rw [compare_lt_iff_lt, Int.ofNat_lt]
  exact Iff.rfl

/-- Texts are ordered by the numbers of their characters. -/
theorem compare_toNats_eq_lt_iff {cs ds : List Char} :
    compare (cs.map fun c => (c.toNat : Int)) (ds.map fun c => (c.toNat : Int)) = .lt ↔
      cs < ds := by
  induction cs generalizing ds with
  | nil => cases ds <;> simp
  | cons c cs ih =>
    cases ds with
    | nil => simp
    | cons d ds =>
      rw [List.map_cons, List.map_cons, compare_cons_cons, Ordering.then_eq_lt, ih,
        compare_toNat_eq_lt_iff, List.cons_lt_cons_iff, Std.compare_eq_iff_eq, Int.ofNat_inj,
        Char.toNat_inj]

namespace Atom

/-- Different values have different keys. -/
theorem key_injective (a : Atom) {x y : a.Carrier} (same : a.key x = a.key y) : x = y := by
  cases a with
  | integer w => exact Subtype.ext (List.cons.inj same).1
  | text =>
    refine String.toList_inj.1 ((List.map_inj_right fun c d equal => ?_).1 same)
    exact Char.toNat_inj.1 (Int.ofNat_inj.1 equal)
  | flag => cases x <;> cases y <;> first | rfl | cases same
  | uuid =>
    cases x
    cases y
    simp_all [key, Uuid.key]
  | instant | localTime =>
    obtain ⟨⟨⟩, ⟨⟩⟩ := x
    obtain ⟨⟨⟩, ⟨⟩⟩ := y
    simp_all [key, Moment.key, Date.key, TimeOfDay.key]
  | date =>
    cases x
    cases y
    simp_all [key, Date.key]
  | choice names => exact Fin.ext (Int.ofNat_inj.1 (List.cons.inj same).1)

/-- Only equal values compare as equal. -/
theorem compare_eq_eq_iff (a : Atom) {x y : a.Carrier} : a.compare x y = .eq ↔ x = y := by
  rw [compare, Std.compare_eq_iff_eq]
  exact ⟨a.key_injective, congrArg a.key⟩

/-- The order of texts is that of their characters' numbers. -/
theorem compare_text (s t : String) : Atom.text.compare s t = Ord.compare s t := by
  have less : Atom.text.compare s t = .lt ↔ s < t :=
    compare_toNats_eq_lt_iff.trans String.lt_iff_toList_lt.symm
  have equal : Atom.text.compare s t = .eq ↔ s = t := Atom.text.compare_eq_eq_iff
  change _ = compareOfLessAndEq s t
  unfold compareOfLessAndEq
  split_ifs with below same
  · exact less.2 below
  · exact equal.2 same
  · cases order : Atom.text.compare s t with
    | lt => exact absurd (less.1 order) below
    | eq => exact absurd (equal.1 order) same
    | gt => rfl

/-- A date as the moment at which it starts has the same place among others. -/
theorem compare_startOf (d e : Date) :
    Ord.compare (Moment.startOf d) (Moment.startOf e) = Atom.date.compare d e := by
  change Ord.compare (d.key ++ TimeOfDay.midnight.key) (e.key ++ TimeOfDay.midnight.key) =
    Ord.compare d.key e.key
  have rest : Ord.compare TimeOfDay.midnight.key TimeOfDay.midnight.key = .eq :=
    Std.ReflCmp.compare_self
  simp only [Date.key, List.cons_append, List.nil_append, compare_cons_cons, rest]
  rfl

/-! ## Values of ordered scalar types -/

/-- Two unsigned integers beyond the signed ones of 64 bits are rounded to the same double, though
they are not the same. -/
def Merges : (a : Atom) → a.Carrier → a.Carrier → Prop
  | integer .unsigned64, x, y =>
    x ≠ y ∧ 9223372036854775807 < x.val ∧ 9223372036854775807 < y.val ∧
      (Binary.ofInt x.val : Double) = Binary.ofInt y.val
  | _, _, _ => False

/-- Of two unsigned integers that are rounded to the same double, only the second is beyond the
signed ones of 64 bits, so that the first is kept as it is and the second as the double. -/
def Straddles : (a : Atom) → a.Carrier → a.Carrier → Prop
  | integer .unsigned64, x, y =>
    x.val ≤ 9223372036854775807 ∧ 9223372036854775807 < y.val ∧
      (Binary.ofInt x.val : Double) = Binary.ofInt y.val
  | _, _, _ => False

theorem compare_integer {w : IntegerWidth} (x y : Bounded w) :
    (integer w).compare x y = Ord.compare x.val y.val :=
  compare_singleton x.val y.val

/-- The signed integers of 64 bits include those of every other width but one. -/
theorem holds_signed64_of_ne {w : IntegerWidth} (narrow : w ≠ .unsigned64) (x : Bounded w) :
    IntegerWidth.signed64.Holds x.val := by
  have within := x.property
  cases w with
  | unsigned64 => exact absurd rfl narrow
  | _ =>
    simp only [IntegerWidth.Holds, IntegerWidth.least, IntegerWidth.greatest] at within ⊢
    omega

/-- Unsigned integers of 64 bits compare as integers if both are kept as such, and as doubles
otherwise. -/
theorem compare_lower_unsigned64 (x y : Bounded .unsigned64) :
    ((integer .unsigned64).lower x).compare ((integer .unsigned64).lower y) =
      some (if x.val ≤ 9223372036854775807 ∧ y.val ≤ 9223372036854775807 then
          Ord.compare x.val y.val
        else if (Binary.ofInt x.val : Double) = Binary.ofInt y.val then .eq
        else Ord.compare x.val y.val) := by
  have first : 0 ≤ x.val := x.property.1
  have second : 0 ≤ y.val := y.property.1
  rw [lower, lower]
  split_ifs with narrow same
  · refine Value.compare_ofInt_of_holds ?_ ?_ <;>
      simp only [IntegerWidth.Holds, IntegerWidth.least, IntegerWidth.greatest] <;> omega
  all_goals
    rw [Value.compare_ofInt_of_not_holds fun both => narrow ⟨both.1.2, both.2.2⟩,
      Binary.compare?_ofInt first second]
  · rw [if_pos same]
  · rw [if_neg same]

/-- The order of the values is kept, unless two of them are merged. -/
theorem compare_lower_of_not_merges {a : Atom} (ordered : ∀ names, a ≠ .choice names)
    {x y : a.Carrier} (level : ¬ (a.Straddles x y ∨ a.Straddles y x)) (apart : ¬ a.Merges x y) :
    (a.lower x).compare (a.lower y) = some (a.compare x y) := by
  cases a with
  | integer w =>
    rw [compare_integer]
    by_cases wide : w = .unsigned64
    · subst wide
      rw [compare_lower_unsigned64]
      split_ifs with narrow same
      · rfl
      · have equal : x = y := by
          by_contra other
          rcases le_or_gt x.val 9223372036854775807 with first | first
          · exact level (.inl ⟨first, by omega, same⟩)
          rcases le_or_gt y.val 9223372036854775807 with second | second
          · exact level (.inr ⟨second, first, same.symm⟩)
          · exact apart ⟨other, first, second, same⟩
        have self : Ord.compare y.val y.val = .eq := Std.ReflCmp.compare_self
        rw [equal, self]
      · rfl
    · exact Value.compare_ofInt_of_holds (holds_signed64_of_ne wide x) (holds_signed64_of_ne wide y)
  | text => exact congrArg some (compare_text x y).symm
  | flag => cases x <;> cases y <;> rfl
  | uuid | instant | localTime => rfl
  | date => exact congrArg some (compare_startOf x y)
  | choice names => exact absurd rfl (ordered names)

theorem compare_lower_of_merges {a : Atom} {x y : a.Carrier} (merged : a.Merges x y) :
    (a.lower x).compare (a.lower y) = some .eq := by
  unfold Merges at merged
  split at merged
  · obtain ⟨-, beyond, -, same⟩ := merged
    rw [compare_lower_unsigned64, if_neg fun both => by omega, if_pos same]
  · exact merged.elim

theorem items?_lower (a : Atom) (x : a.Carrier) : (a.lower x).items? = none := by
  cases a with
  | integer w =>
    rw [lower, Value.ofInt]
    split <;> rfl
  | _ => rfl

/-- **What becomes of the order of values in their fields.**  For all ordered scalar types but
choices, two values compare as field values as they do themselves, with one exception: unsigned
integers beyond the signed ones of 64 bits compare as equal if they are rounded to the same double.
Hence values are loosely equal only if they are the same or merged like this, and none is ever taken
for greater than one that it is less than. -/
theorem compare_lower (a : Atom) (ordered : ∀ names, a ≠ .choice names) (x y : a.Carrier)
    (level : ¬ (a.Straddles x y ∨ a.Straddles y x)) :
    (¬ a.Merges x y → (a.lower x).compare (a.lower y) = some (a.compare x y)) ∧
      (a.Merges x y → (a.lower x).compare (a.lower y) = some .eq) ∧
      ((a.lower x).looselyEquals (a.lower y) = true ↔ x = y ∨ a.Merges x y) := by
  refine ⟨compare_lower_of_not_merges ordered level, compare_lower_of_merges, ?_⟩
  rw [Value.looselyEquals_of_single (a.items?_lower x), beq_iff_eq]
  by_cases merged : a.Merges x y
  · exact iff_of_true (compare_lower_of_merges merged) (.inr merged)
  · rw [compare_lower_of_not_merges ordered level merged, Option.some.injEq, a.compare_eq_eq_iff]
    exact (or_iff_left merged).symm

/-- The least unsigned integer beyond the signed ones of 64 bits. -/
def beyondSigned : Bounded .unsigned64 := ⟨9223372036854775808, by decide⟩

/-- The one after it. -/
def afterBeyondSigned : Bounded .unsigned64 := ⟨9223372036854775809, by decide⟩

theorem compare_lower_beyondSigned :
    (∀ names, integer .unsigned64 ≠ .choice names) ∧
      ¬ ((integer .unsigned64).Straddles beyondSigned afterBeyondSigned ∨
        (integer .unsigned64).Straddles afterBeyondSigned beyondSigned) ∧
      (integer .unsigned64).Merges beyondSigned afterBeyondSigned ∧
      ((integer .unsigned64).lower beyondSigned).compare
        ((integer .unsigned64).lower afterBeyondSigned) = some .eq := by
  have ordered : ∀ names, integer .unsigned64 ≠ .choice names := fun _ same => nomatch same
  have level : ¬ ((integer .unsigned64).Straddles beyondSigned afterBeyondSigned ∨
      (integer .unsigned64).Straddles afterBeyondSigned beyondSigned) := by
    rintro (⟨within, -⟩ | ⟨within, -⟩) <;> exact absurd within (by decide)
  have merged : (integer .unsigned64).Merges beyondSigned afterBeyondSigned := by
    refine ⟨by decide, by decide, by decide, ?_⟩
    decide +kernel
  exact ⟨ordered, level, merged, (compare_lower _ ordered _ _ level).2.1 merged⟩

/-- Two unsigned integers, of which one is less than the other, are equal as field values. -/
theorem compare_lower_ne_compare :
    (integer .unsigned64).compare beyondSigned afterBeyondSigned = .lt ∧
      ((integer .unsigned64).lower beyondSigned).compare
          ((integer .unsigned64).lower afterBeyondSigned) ≠
        some ((integer .unsigned64).compare beyondSigned afterBeyondSigned) := by
  have less : (integer .unsigned64).compare beyondSigned afterBeyondSigned = .lt := by decide
  have equal : ((integer .unsigned64).lower beyondSigned).compare
      ((integer .unsigned64).lower afterBeyondSigned) = some .eq := by
    rw [compare_lower_unsigned64, if_neg (by decide), if_pos (by decide +kernel)]
  refine ⟨less, ?_⟩
  rw [less, equal]
  decide

end Atom

end Listing
