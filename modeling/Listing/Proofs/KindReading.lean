import Mathlib
import Listing.Field.FieldType
import Listing.Proofs.Moments
import Listing.Proofs.Precision

/-!
# Values of a type, read by its kind

The text of a field is read by the type of the field where it is a value to compare with, and by
the kind of the type where it is a bound.  A kind knows neither the width of integers nor the
precision of numbers, and takes dates for moments.  What the type reads the kind reads as well, as
the same value, but for unsigned integers beyond the signed ones of 64 bits and for numbers of
single precision, which become doubles.

* `IntegerWidth.read_of_read` reads an integer in another width;
* `Moment.readAny?_of_readPlain` reads a date as the moment at which it starts;
* `FieldType.parseAs_of_parse` is the theorem about all types.
-/

namespace Listing

/-! ## Integers of another width -/

namespace IntegerWidth

/-- The first number lies between nought and the second one, among the negative numbers or among
the others. -/
def OnWay : Bool → Int → Int → Prop
  | true, m, n => n ≤ m ∧ m ≤ 0
  | false, m, n => 0 ≤ m ∧ m ≤ n

variable {w w' : IntegerWidth} {negative : Bool} {m n : Int}

/-- A width that holds a number holds all that are passed on the way to it. -/
theorem OnWay.holds (way : OnWay negative m n) (held : w.Holds n) : w.Holds m := by
  have nought := w.holds_zero
  cases negative with
  | false => exact ⟨nought.1.trans way.1, way.2.trans held.2⟩
  | true => exact ⟨held.1.trans way.1, way.2.trans nought.2⟩

theorem OnWay.self (way : OnWay negative m n) : OnWay negative n n := by
  cases negative with
  | false => exact ⟨way.1.trans way.2, le_rfl⟩
  | true => exact ⟨le_rfl, way.1.trans way.2⟩

theorem OnWay.trans {n' : Int} (way : OnWay negative m n) (further : OnWay negative n n') :
    OnWay negative m n' := by
  cases negative with
  | false => exact ⟨way.1, way.2.trans further.2⟩
  | true => exact ⟨further.1.trans way.1, way.2⟩

theorem onWay_push (start : OnWay negative m m) (digit : Nat) :
    OnWay negative m (push negative m digit) := by
  cases negative with
  | false =>
    refine ⟨start.1, ?_⟩
    have positive : 0 ≤ m := start.1
    change m ≤ 10 * m + digit
    omega
  | true =>
    refine ⟨?_, start.2⟩
    have negative : m ≤ 0 := start.2
    change 10 * m - digit ≤ m
    omega

/-- A digit more is read if the number stays within the width, and the rest after it. -/
theorem readDigits_cons_eq_ok_iff {inWidth : w.Holds m} {c : Char} {rest : List Char}
    {n : Bounded w} :
    w.readDigits negative m inWidth (c :: rest) = .ok n ↔
      Text.isDigit c = true ∧ ∃ next : w.Holds (push negative m (Text.digitValue c)),
        w.readDigits negative _ next rest = .ok n := by
  rw [readDigits]
  dsimp only
  split_ifs with digit next
  · exact ⟨fun read => ⟨digit, next, read⟩, fun ⟨_, _, read⟩ => read⟩
  · simp [next]
  · simp [digit]

/-- Every digit leads away from nought, so that what has been read lies on the way to the end. -/
theorem onWay_of_readDigits {inWidth : w.Holds m} {cs : List Char} {n : Bounded w}
    (start : OnWay negative m m) (read : w.readDigits negative m inWidth cs = .ok n) :
    OnWay negative m n.val := by
  induction cs generalizing m with
  | nil =>
    obtain rfl := Except.ok.inj read
    exact start
  | cons c rest ih =>
    obtain ⟨-, next, read⟩ := readDigits_cons_eq_ok_iff.1 read
    have way := onWay_push start (Text.digitValue c)
    exact way.trans (ih way.self read)

/-- Digits that make up a number of both widths are read in both. -/
theorem readDigits_of_readDigits {inWidth : w.Holds m} {cs : List Char} {n : Bounded w}
    (start : OnWay negative m m) (read : w.readDigits negative m inWidth cs = .ok n)
    (inWidth' : w'.Holds m) (held : w'.Holds n.val) :
    w'.readDigits negative m inWidth' cs = .ok ⟨n.val, held⟩ := by
  induction cs generalizing m with
  | nil =>
    obtain rfl := Except.ok.inj read
    rfl
  | cons c rest ih =>
    obtain ⟨digit, next, read⟩ := readDigits_cons_eq_ok_iff.1 read
    have way := onWay_push start (Text.digitValue c)
    -- The other width holds the end and nought, hence what is read on the way.
    have next' : w'.Holds (push negative m (Text.digitValue c)) :=
      (onWay_of_readDigits way.self read).holds held
    exact readDigits_cons_eq_ok_iff.2 ⟨digit, next', ih way.self read next'⟩

/-- What one width reads another one reads as well, if it has signs and holds the number. -/
theorem read_of_read {s : String} {n : Bounded w} (signs : w'.isSigned = true)
    (read : w.read s = .ok n) (held : w'.Holds n.val) : w'.read s = .ok ⟨n.val, held⟩ := by
  have start (negative : Bool) : OnWay negative 0 0 := by
    cases negative <;> exact ⟨le_rfl, le_rfl⟩
  unfold IntegerWidth.read readChars at read ⊢
  split at read
  · cases read
  · cases read
  · cases read
  · exact readDigits_of_readDigits (start false) read _ held
  · split at read
    · rw [if_pos signs]
      exact readDigits_of_readDigits (start true) read _ held
    · cases read
  · exact readDigits_of_readDigits (start false) read _ held

end IntegerWidth

/-! ## Dates as moments -/

/-- A whole text is read by a layout if nothing is left of it. -/
theorem TimeLayout.readAll_eq_ok_iff {parts : List Part} {s : String} {ns : Numbers} :
    readAll parts s = .ok ns ↔ read parts .unread s.toList = .ok (ns, []) := by
  constructor
  · intro whole
    obtain ⟨⟨ns', rest⟩, read, ends⟩ := bind_eq_ok.1 whole
    cases rest with
    | cons c rest => cases ends
    | nil =>
      cases ends
      exact read
  · intro read
    exact bind_eq_ok.2 ⟨_, read, rfl⟩

/-- A longer layout is left with nothing behind what a text is read along. -/
theorem TimeLayout.readAll_append {front back : List Part} {s : String} {ns : Numbers}
    {fault : TimeFault} (whole : readAll front s = .ok ns) (failed : read back ns [] = .error fault) :
    readAll (front ++ back) s = .error fault := by
  rw [readAll, read_append, readAll_eq_ok_iff.1 whole]
  exact bind_eq_error.2 (Or.inl failed)

namespace Moment

open TimeLayout

/-- The text of a plain date is no moment in the strict form, since it ends too early. -/
theorem readStrict_of_readAll {s : String} {ns : Numbers} (whole : readAll plainDate s = .ok ns) :
    ∃ fault, readStrict s = .error fault := by
  unfold readStrict
  dsimp only
  rw [readAll_eq_ok_iff.1 whole]
  split <;> exact ⟨_, rfl⟩

/-- The forms with a time of day do not fit a date, so that the last one is left. -/
theorem readAny?_of_readPlain {s : String} {d : Date} (read : Date.readPlain s = .ok d) :
    readAny? s = some (startOf d) := by
  obtain ⟨ns, whole, -⟩ := bind_eq_ok.1 read
  obtain ⟨fault, strict⟩ := readStrict_of_readAll whole
  have dated : readAll (plainDate ++ [.mark 'T'] ++ plainTime ++ [.fraction]) s =
      .error .tooShort := by
    rw [List.append_assoc, List.append_assoc]
    exact readAll_append whole rfl
  have spaced : readAll (plainDate ++ [.blanks] ++ plainTime) s = .error .tooShort := by
    rw [List.append_assoc]
    exact readAll_append whole rfl
  unfold readAny? localForms
  rw [List.map_cons, List.map_cons, List.map_nil, strict, dated, spaced, read]
  rfl

end Moment

/-! ## Numbers -/

namespace Binary

variable {f : BinaryFormat}

/-- Numbers that compare as equal are the same, but for the sign of nought. -/
theorem eq_or_zero_of_compare?_eq {x y : Binary f} (same : x.compare? y = some .eq) :
    x = y ∨ ∃ negative, x = zero negative := by
  cases x with
  | nan => cases same
  | number negative code =>
    cases y with
    | nan => cases same
    | number sign place =>
      have places : (if negative then -(code.val : Int) else code.val) =
          if sign then -(place.val : Int) else place.val :=
        Std.compare_eq_iff_eq.1 (Option.some.inj same)
      by_cases signs : negative = sign
      · subst signs
        have codes : code.val = place.val := by
          cases negative <;> simp only [if_true, Bool.false_eq_true, if_false] at places <;> omega
        exact Or.inl (congrArg (number negative) (Fin.ext codes))
      · have codes : code.val = 0 := by
          cases negative <;> cases sign <;>
            simp only [if_true, Bool.false_eq_true, if_false, not_true_eq_false] at places signs <;>
            omega
        exact Or.inr ⟨negative, by simp [zero, ofCode, Fin.ext_iff, codes]⟩

theorem exists_convert_zero (negative : Bool) :
    ∃ s : Single, (zero negative : Double) = s.convert :=
  ⟨zero negative, by cases negative <;> decide +kernel⟩

/-- A numeral compares as equal in both precisions exactly if it is a number of single precision
as a double, and then it is the same number. -/
theorem compare?_ofNumeral_iff {n : Numeral}
    (number : ((ofNumeral n : Single).convert : Double) ≠ .nan) :
    ((ofNumeral n : Double).compare? (ofNumeral n : Single).convert = some .eq ↔
        (ofNumeral n : Double) = (ofNumeral n : Single).convert) ∧
      ((ofNumeral n : Double) = (ofNumeral n : Single).convert ↔
        ∃ s : Single, (ofNumeral n : Double) = s.convert) := by
  have representable : (∃ s : Single, (ofNumeral n : Double) = s.convert) →
      (ofNumeral n : Double) = (ofNumeral n : Single).convert := by
    rintro ⟨s, same⟩
    rw [ofNumeral_of_eq_convert same, same]
  refine ⟨⟨fun equal => ?_, fun same => ?_⟩, fun same => ⟨_, same⟩, representable⟩
  · rcases eq_or_zero_of_compare?_eq equal with same | ⟨negative, nought⟩
    · exact same
    · obtain ⟨s, same⟩ := exists_convert_zero negative
      exact representable ⟨s, nought.trans same⟩
  · rw [same]
    exact compare?_self number

end Binary

/-! ## All types -/

namespace Value

variable {raw : String}

theorem parseAs_integer_of_read {n : Bounded .signed64}
    (read : IntegerWidth.signed64.read (Text.trim raw) = .ok n) :
    parseAs (.number true) raw = .ok (integer n) := by
  unfold parseAs
  dsimp only
  rw [read]
  rfl

/-- A text that is read as a numeral is the double nearest to it. -/
theorem parseAs_number_of_read {n : Numeral} (read : Numeral.read (Text.trim raw) = .ok n) :
    parseAs (.number false) raw = .ok (real (Binary.ofNumeral n)) := by
  unfold parseAs Binary.read
  dsimp only
  rw [read]
  rfl

theorem parseAs_temporal_of_readAny? {m : Moment}
    (read : Moment.readAny? (Text.trim raw) = some m) :
    parseAs .temporal raw = .ok (instant m) := by
  unfold parseAs
  dsimp only
  rw [read]

end Value

namespace Atom

theorem readAny?_of_readMoment {s : String} {m : Moment} (read : parse.readMoment s = .ok m) :
    Moment.readAny? s = some m := by
  unfold parse.readMoment at read
  split at read
  · rename_i found
    rw [found, Except.ok.inj read]
  · cases read

/-- The value is an integer beyond the signed ones of 64 bits. -/
def IsBeyondSigned : (a : Atom) → a.Carrier → Prop
  | integer .unsigned64, n => 9223372036854775807 < n.val
  | _, _ => False

/-- Integers of any width are held by the signed ones of 64 bits, unless they are beyond them. -/
theorem holds_signed64_of_not_isBeyondSigned {w : IntegerWidth} {n : Bounded w}
    (narrow : ¬ (integer w).IsBeyondSigned n) : IntegerWidth.signed64.Holds n.val := by
  by_cases wide : w = .unsigned64
  · subst wide
    have low : 0 ≤ n.val := n.property.1
    exact ⟨le_trans (by decide) low, Int.not_lt.1 narrow⟩
  · exact holds_signed64_of_ne wide n

/-- The kind of an atom with an order reads the very value that the atom reads. -/
theorem parseAs_kind {a : Atom} {raw : String} {v : a.Carrier}
    (ordered : a.kind.isRangeable = true) (read : a.parse raw = .ok v)
    (narrow : ¬ a.IsBeyondSigned v) : Value.parseAs a.kind raw = .ok (a.lower v) := by
  cases a with
  | integer w =>
    have held := holds_signed64_of_not_isBeyondSigned narrow
    have lowered : (integer w).lower v = .integer ⟨v.val, held⟩ := dif_pos held
    rw [parse, mapError_eq_ok] at read
    rw [lowered]
    exact Value.parseAs_integer_of_read (IntegerWidth.read_of_read rfl read held)
  | instant | localTime =>
    rw [parse] at read
    exact Value.parseAs_temporal_of_readAny? (readAny?_of_readMoment read)
  | date =>
    rw [parse, mapError_eq_ok] at read
    exact Value.parseAs_temporal_of_readAny? (Moment.readAny?_of_readPlain read)
  | text | flag | uuid | choice => cases ordered

theorem isNull_lower (a : Atom) (v : a.Carrier) : (a.lower v).isNull = false := by
  cases a with
  | integer w =>
    rw [lower, Value.ofInt]
    split <;> rfl
  | _ => rfl

end Atom

namespace FieldType

/-- A scalar type whose values have an order. -/
def isOrderedScalar : FieldType → Bool
  | atom a => a.kind.isRangeable
  | single | double => true
  | _ => false

/-- The value is an integer beyond the signed ones of 64 bits. -/
def IsBeyondSigned : (t : FieldType) → t.Carrier → Prop
  | atom a, v => a.IsBeyondSigned v
  | _, _ => False

variable {t : FieldType} {raw : String} {v : t.Carrier}

/-- An ordered scalar is stored as a proper value, unless it is not a number. -/
theorem isProper_lower (ordered : t.isOrderedScalar = true) (number : t.lower v ≠ .real .nan) :
    (t.lower v).isProper = true := by
  have scalar : (t.lower v).items? = none ∧ (t.lower v).isNull = false := by
    cases t with
    | atom a => exact ⟨a.items?_lower v, a.isNull_lower v⟩
    | single => exact ⟨rfl, rfl⟩
    | double => exact ⟨rfl, rfl⟩
    | _ => cases ordered
  generalize t.lower v = x at number scalar
  cases x with
  | real x => exact decide_eq_true fun nan => number (nan ▸ rfl)
  | list items => cases scalar.1
  | null => cases scalar.2
  | _ => rfl

/-- The kind of any other type reads the very value that the type reads. -/
theorem parseAs_of_ne_single (ordered : t.isOrderedScalar = true) (other : t ≠ .single)
    (read : t.parse raw = .ok v) (narrow : ¬ t.IsBeyondSigned v) :
    Value.parseAs t.kind raw = .ok (t.lower v) := by
  cases t with
  | atom a => exact Atom.parseAs_kind ordered read narrow
  | double =>
    obtain ⟨n, numeral, rfl⟩ := map_eq_ok.1 (mapError_eq_ok.1 read)
    exact Value.parseAs_number_of_read numeral
  | single => exact absurd rfl other
  | _ => cases ordered

/-- **What an ordered type reads its kind reads as well**, as the same value.  The exceptions are
unsigned integers beyond the signed ones of 64 bits, and numbers of single precision: these are
read as the same value exactly if the double that the kind reads is one of single precision. -/
theorem parseAs_of_parse (ordered : t.isOrderedScalar = true) (read : t.parse raw = .ok v)
    (number : t.lower v ≠ .real .nan) (narrow : ¬ t.IsBeyondSigned v) :
    ∃ x, Value.parseAs t.kind raw = .ok x ∧
      (x.looselyEquals (t.lower v) = true ↔ x = t.lower v) ∧
      (x = t.lower v ↔ (t = .single → ∃ s : Single, x = .real s.convert)) := by
  by_cases precise : t = .single
  · subst precise
    obtain ⟨n, numeral, rfl⟩ := map_eq_ok.1 (mapError_eq_ok.1 read)
    have present : ((Binary.ofNumeral n : Single).convert : Double) ≠ .nan := fun nan =>
      number (congrArg Value.real nan)
    obtain ⟨equal, same⟩ := Binary.compare?_ofNumeral_iff present
    refine ⟨_, Value.parseAs_number_of_read numeral, ?_, ?_⟩
    · rw [Value.looselyEquals_of_single rfl, beq_iff_eq]
      exact equal.trans (Iff.of_eq (Value.real.injEq _ _)).symm
    · refine (Iff.of_eq (Value.real.injEq _ _)).trans (same.trans ?_)
      simp only [forall_const, Value.real.injEq]
  · refine ⟨_, parseAs_of_ne_single ordered precise read narrow, ?_, ?_⟩
    · exact iff_of_true (Value.looselyEquals_self _ (isProper_lower ordered number)) rfl
    · exact iff_of_true rfl fun same => absurd same precise

/-- A half, in single precision. -/
def half : Single := Binary.ofDecimal ⟨false, 5, -1⟩

theorem parseAs_of_parse_half :
    single.isOrderedScalar = true ∧ single.parse "0.5" = .ok half ∧
      single.lower half ≠ .real .nan ∧ ¬ single.IsBeyondSigned half ∧
      ∃ x, Value.parseAs single.kind "0.5" = .ok x ∧ x.looselyEquals (single.lower half) = true := by
  have read : single.parse "0.5" = .ok half := rfl
  have convert : (Binary.ofDecimal ⟨false, 5, -1⟩ : Double) = half.convert := by decide +kernel
  have number : single.lower half ≠ .real .nan := fun nan =>
    absurd (Value.real.inj nan) (by decide +kernel)
  have bound : Value.parseAs single.kind "0.5" = .ok (.real half.convert) :=
    congrArg (fun x => Except.ok (Value.real x)) convert
  obtain ⟨x, parsed, equal, same⟩ := parseAs_of_parse rfl read number id
  obtain rfl : x = .real half.convert := Except.ok.inj (parsed.symm.trans bound)
  exact ⟨rfl, read, number, id, _, parsed, equal.2 (same.2 fun _ => ⟨half, rfl⟩)⟩

/-- An unsigned integer that its kind does not read, and a number of single precision that its kind
reads as another one. -/
theorem not_forall_parseAs_of_parse :
    ((atom (.integer .unsigned64)).parse "9223372036854775808" = .ok Atom.beyondSigned ∧
        Value.parseAs (.number true) "9223372036854775808" =
          .error (.integer "9223372036854775808" .tooLarge)) ∧
      (single.parse "0.1" = .ok (Binary.ofDecimal ⟨false, 1, -1⟩) ∧
        Value.parseAs (.number false) "0.1" = .ok (.real (Binary.ofDecimal ⟨false, 1, -1⟩)) ∧
        (Value.real (Binary.ofDecimal ⟨false, 1, -1⟩)).looselyEquals
          (single.lower (Binary.ofDecimal ⟨false, 1, -1⟩)) = false) ∧
      ¬ ∀ (t : FieldType) (raw : String) (v : t.Carrier), t.isOrderedScalar = true →
        t.parse raw = .ok v → t.lower v ≠ .real .nan →
          ∃ x, Value.parseAs t.kind raw = .ok x ∧ x.looselyEquals (t.lower v) = true := by
  have wide : (atom (.integer .unsigned64)).lower Atom.beyondSigned ≠ .real .nan := fun nan =>
    absurd (Value.real.inj nan) (by decide +kernel)
  have read : (atom (.integer .unsigned64)).parse "9223372036854775808" = .ok Atom.beyondSigned := rfl
  have refused : Value.parseAs (.number true) "9223372036854775808" =
      .error (.integer "9223372036854775808" .tooLarge) := rfl
  have precise : single.parse "0.1" = .ok (Binary.ofDecimal ⟨false, 1, -1⟩) := rfl
  have doubled : Value.parseAs (.number false) "0.1" =
      .ok (.real (Binary.ofDecimal ⟨false, 1, -1⟩)) := rfl
  refine ⟨⟨read, refused⟩, ⟨precise, doubled, by decide +kernel⟩, fun same => ?_⟩
  obtain ⟨x, parsed, -⟩ := same _ _ _ rfl read wide
  cases refused.symm.trans parsed

end FieldType

end Listing
