import Mathlib
import Listing.Uuid

/-!
# Numbers written with a least width

Dates, times and identifiers are written as numbers with noughts in front.  Digits alone are
written, as many as the width says if the number is small enough, and they read as the number.

* `Text.digitsValue_padded`, `Text.isDigit_of_mem_padded` and `Text.length_padded` say it of
  decimal numbers;
* `Uuid.hexNumber?_paddedHex` and `Text.length_paddedHex` say it of hexadecimal ones;
* `Uuid.read_text` concludes that an identifier reads back from its text.
-/

namespace Listing

/-- What holds of the first characters, counted by their numbers, holds of each of them. -/
@[elab_as_elim]
theorem Text.of_toNat_lt {bound : Nat} {motive : Char → Prop} (c : Char) (low : c.toNat < bound)
    (all : ∀ n < bound, motive (Char.ofNat n)) : motive c :=
  Char.ofNat_toNat c ▸ all c.toNat low

/-! ## Decimal numbers -/

namespace Text

theorem isDigit_of_mem_padded {width n : Nat} {c : Char}
    (member : c ∈ (padded width n).toList) : isDigit c = true := by
  rw [padded, String.toList_ofList] at member
  rcases List.mem_append.1 member with nought | digit
  · rw [List.eq_of_mem_replicate nought]
    decide
  · exact Nat.isDigit_of_mem_toDigits (by decide) (by decide) digit

/-- The digits of a number have its value, whatever noughts are in front. -/
theorem digitsValue_padded (width n : Nat) : digitsValue (padded width n).toList = n := by
  change Nat.ofDigitChars 10 (padded width n).toList 0 = n
  rw [padded, String.toList_ofList, Nat.ofDigitChars_append, Nat.ofDigitChars_replicate_zero,
    Nat.mul_zero, Nat.ofDigitChars_ten_toDigits]

/-- A number that fits is padded to just the width. -/
theorem length_padded {width n : Nat} (some : 0 < width) (small : n < 10 ^ width) :
    (padded width n).toList.length = width := by
  have short := (Nat.length_toDigits_le_iff (by decide : 1 < 10) some).2 small
  rw [padded, String.toList_ofList, List.length_append, List.length_replicate]
  omega

theorem padded_ne_nil (width n : Nat) : (padded width n).toList ≠ [] := by
  rw [padded, String.toList_ofList]
  exact List.append_ne_nil_of_right_ne_nil _ Nat.toDigits_ne_nil

/-! ## Hexadecimal numbers -/

theorem hexValue?_digitChar {d : Nat} (small : d < 16) : hexValue? d.digitChar = some d := by
  have all : ∀ d < 16, hexValue? (Nat.digitChar d) = some d := by decide
  exact all d small

/-- A number that fits is padded to just the width, with hexadecimal digits as well. -/
theorem length_paddedHex {width n : Nat} (some : 0 < width) (small : n < 16 ^ width) :
    (paddedHex width n).toList.length = width := by
  have short := (Nat.length_toDigits_le_iff (by decide : 1 < 16) some).2 small
  rw [paddedHex, String.toList_ofList, List.length_append, List.length_replicate]
  omega

end Text

namespace Uuid

/-- One digit more makes a number sixteen times as large and adds the digit. -/
theorem hexNumber?_append_digitChar {cs : List Char} {n d : Nat} (front : hexNumber? cs = some n)
    (small : d < 16) : hexNumber? (cs ++ [d.digitChar]) = some (16 * n + d) := by
  obtain ⟨ds, read, value⟩ := Option.map_eq_some_iff.1 front
  rw [hexNumber?, List.mapM_append, read]
  simp [Text.hexValue?_digitChar small, value]

/-- A number is read from its hexadecimal digits. -/
theorem hexNumber?_toDigits (n : Nat) : hexNumber? (Nat.toDigits 16 n) = some n := by
  induction n using Nat.strong_induction_on with
  | _ n ih =>
    rw [Nat.toDigits_eq_if (by decide)]
    split
    · rename_i small
      simp [hexNumber?, Text.hexValue?_digitChar small]
    · rename_i great
      have front := ih (n / 16) (by omega)
      rw [hexNumber?_append_digitChar front (Nat.mod_lt n (by decide)), Nat.div_add_mod]

theorem hexNumber?_replicate_append (count : Nat) {cs : List Char} {n : Nat}
    (rest : hexNumber? cs = some n) : hexNumber? (List.replicate count '0' ++ cs) = some n := by
  induction count with
  | zero => exact rest
  | succ count ih =>
    obtain ⟨ds, read, value⟩ := Option.map_eq_some_iff.1 ih
    have nought : Text.hexValue? '0' = some 0 := by decide
    rw [List.replicate_succ, List.cons_append, hexNumber?, List.mapM_cons, nought, read]
    simpa using value

/-- The digits of a number have its value, whatever noughts are in front. -/
theorem hexNumber?_paddedHex (width n : Nat) :
    hexNumber? (Text.paddedHex width n).toList = some n := by
  rw [Text.paddedHex, String.toList_ofList]
  exact hexNumber?_replicate_append _ (hexNumber?_toDigits n)

theorem isSome_hexValue?_of_mem {cs : List Char} {n : Nat} (read : hexNumber? cs = some n) {c : Char}
    (member : c ∈ cs) : (Text.hexValue? c).isSome = true := by
  obtain ⟨ds, digits, -⟩ := Option.map_eq_some_iff.1 read
  clear read
  induction cs generalizing ds with
  | nil => cases member
  | cons first rest ih =>
    rw [List.mapM_cons] at digits
    obtain ⟨d, value, digits⟩ := Option.bind_eq_some_iff.1 digits
    obtain ⟨ds, later, -⟩ := Option.bind_eq_some_iff.1 digits
    rcases List.mem_cons.1 member with rfl | member
    · rw [value]
      rfl
    · exact ih member ds later

/-! ## Identifiers -/

/-- Groups of digits are all the digits, in their order. -/
theorem flatten_grouped {lengths : List Nat} {cs : List Char} (fits : cs.length = lengths.sum) :
    (grouped lengths cs).flatten = cs := by
  induction lengths generalizing cs with
  | nil => exact (List.eq_nil_of_length_eq_zero fits).symm
  | cons n lengths ih =>
    rw [grouped, List.flatten_cons, ih (by rw [List.length_drop, fits, List.sum_cons]; omega),
      List.take_append_drop]

/-- Groups have the lengths that are asked for. -/
theorem map_length_grouped {lengths : List Nat} {cs : List Char} (fits : lengths.sum ≤ cs.length) :
    (grouped lengths cs).map List.length = lengths := by
  induction lengths generalizing cs with
  | nil => rfl
  | cons n lengths ih =>
    rw [List.sum_cons] at fits
    rw [grouped, List.map_cons, ih (by rw [List.length_drop]; omega), List.length_take,
      Nat.min_eq_left (by omega)]

/-- A hexadecimal digit begins neither a brace nor the name of the scheme. -/
theorem no_frame_of_hexValue? {c : Char} (digit : (Text.hexValue? c).isSome = true) :
    c ≠ '\x7b' ∧ Text.asciiLower c ≠ 'u' := by
  have low : c.toNat < 128 := by
    have below : ∀ d : Char, c ≤ d → c.toNat ≤ d.toNat := fun d le => UInt32.le_iff_toNat_le.1 le
    unfold Text.hexValue? at digit
    split at digit
    · rename_i decimal
      have le := below '9' (of_decide_eq_true (Bool.and_eq_true_iff.1 decimal).2)
      exact le.trans_lt (by decide)
    · split at digit
      · rename_i small
        exact (below 'f' small.2).trans_lt (by decide)
      · split at digit
        · rename_i capital
          exact (below 'F' capital.2).trans_lt (by decide)
        · cases digit
  revert digit
  exact Text.of_toNat_lt c low (by decide)

/-- A text that begins with a digit has neither braces nor a prefix. -/
theorem framed_cons {c : Char} (digit : (Text.hexValue? c).isSome = true) (rest : List Char) :
    framed (c :: rest) = ⟨c :: rest, 0, true⟩ := by
  obtain ⟨brace, scheme⟩ := no_frame_of_hexValue? digit
  have unbraced : unbraced? (c :: rest) = none := by
    unfold unbraced?
    split
    · rename_i same
      exact absurd (List.cons.inj same).1 brace
    · rfl
  have unschemed : unschemed? (c :: rest) = none := by
    refine if_neg fun same => scheme ?_
    have heads := congrArg List.head? same
    exact Option.some.inj heads
  rw [framed, unbraced, unschemed]

/-- An identifier is read from the text that it is written as. -/
theorem read_text (u : Uuid) : read u.text = .ok u := by
  have read : hexNumber? (Text.paddedHex 32 u.bits).toList = some u.bits :=
    hexNumber?_paddedHex 32 u.bits
  have length : (Text.paddedHex 32 u.bits).toList.length = 32 :=
    Text.length_paddedHex (by decide) u.bits_lt
  have digit : ∀ c ∈ (Text.paddedHex 32 u.bits).toList, (Text.hexValue? c).isSome = true :=
    fun c => isSome_hexValue?_of_mem read
  have written : u.text.toList =
      ['-'].intercalate (grouped groupLengths (Text.paddedHex 32 u.bits).toList) := by
    rw [text, String.toList_intercalate, List.map_map]
    simp [Function.comp_def]
  -- From here on only these facts about the digits count, not how they were written.
  generalize (Text.paddedHex 32 u.bits).toList = cs at read length digit written
  have flat : (grouped groupLengths cs).flatten = cs := flatten_grouped length
  have lengths : (grouped groupLengths cs).map List.length = groupLengths :=
    map_length_grouped length.ge
  have split : u.text.toList.splitOn '-' = grouped groupLengths cs := by
    rw [written]
    refine List.splitOn_intercalate '-' (fun group member hyphen => ?_) (List.cons_ne_nil _ _)
    have among : '-' ∈ cs := flat ▸ List.mem_flatten_of_mem member hyphen
    exact absurd (digit _ among) (by decide)
  have hyphen : '-' ∈ u.text.toList := by
    rw [written]
    simp [groupLengths, grouped, List.intercalate]
  have notBare : ofDigits? u.text.toList = none := by
    cases bare : hexNumber? u.text.toList with
    | none => simp [ofDigits?, bare]
    | some n => exact absurd (isSome_hexValue?_of_mem bare hyphen) (by decide)
  have digits : ofDigits? cs = some u := by
    rw [ofDigits?, if_pos length, read, Option.bind_some, dif_pos u.bits_lt]
  have framed : (framed u.text.toList).body = u.text.toList := by
    cases cs with
    | nil => cases length
    | cons c rest =>
      obtain ⟨tail, begins⟩ : ∃ tail, u.text.toList = c :: tail := ⟨_, written⟩
      rw [begins, framed_cons (digit c List.mem_cons_self)]
  have groups : ofGroups? u.text.toList = some u := by
    rw [ofGroups?, split, if_pos lengths, flat, digits]
  rw [Uuid.read, notBare, framed, groups]
  rfl

end Uuid

end Listing
