import Mathlib
import Listing.Json.Printing
import Listing.Json.Reading
import Listing.Proofs.Moments
import Listing.Proofs.Numerals

/-!
# Strings and numbers read from a text

What is written for a string is scanned as this string, whatever characters it has, and scanning
stops at its closing quote.  A number that is read from a text of its own is also read where
something follows it that cannot belong to it; whole numbers are always read from their texts.

* `Json.Reading.scan_stringText` is the reading of a string, character by character;
* `Json.Reading.number_append` is the reading of a number with something behind it;
* `Json.Number.rereads_whole` says that whole numbers come back.
-/

namespace Listing

/-- What is taken from the front is not longer for what follows, if that begins with a stop. -/
theorem takeWhile_append_of_stop {α : Type} {has : α → Bool} (front : List α) {rest : List α}
    (stop : ∀ a ∈ rest.head?, has a = false) :
    (front ++ rest).takeWhile has = front.takeWhile has := by
  induction front with
  | nil =>
    have nothing : ∀ a ∈ ([] : List α), has a = true := nofun
    exact takeWhile_append_of_ends nothing stop
  | cons a front ih => rw [List.cons_append, List.takeWhile_cons, List.takeWhile_cons, ih]

theorem dropWhile_append_of_stop {α : Type} {has : α → Bool} (front : List α) {rest : List α}
    (stop : ∀ a ∈ rest.head?, has a = false) :
    (front ++ rest).dropWhile has = front.dropWhile has ++ rest := by
  induction front with
  | nil => exact dropWhile_of_ends stop
  | cons a front ih =>
    rw [List.cons_append, List.dropWhile_cons, List.dropWhile_cons]
    split_ifs
    · exact ih
    · rfl

namespace Json.Reading

/-! ## Strings -/

theorem scan_plain {c : Char} (quote : c ≠ '"') (backslash : c ≠ '\\') (high : ¬ c.toNat < 32)
    (p : Progress) (cs : List Char) : scan p (c :: cs) = scan (p.push c) cs := by
  rw [scan, if_neg high]
  · exact quote
  all_goals
    intros
    contradiction

/-- A letter behind a backslash stands for a character, if no number follows it. -/
theorem scan_letter {c d : Char} (stands : escape? c = some d) (numbered : c ≠ 'u') (p : Progress)
    (cs : List Char) : scan p ('\\' :: c :: cs) = scan (p.push d) cs := by
  rw [scan, stands]
  · exact fun _ _ _ _ _ same _ => numbered same
  · exact numbered

theorem hexFour?_of_hexNumber? {a b c d : Char} {n : Nat}
    (read : Uuid.hexNumber? [a, b, c, d] = some n) : hexFour? a b c d = some n := by
  obtain ⟨ds, digits, rfl⟩ := Option.map_eq_some_iff.1 read
  simp only [List.mapM_cons, List.mapM_nil, Option.pure_def, Option.bind_eq_bind,
    Option.bind_eq_some_iff, Option.some.injEq] at digits
  obtain ⟨w, first, _, ⟨x, second, _, ⟨y, third, _, ⟨z, fourth, _, rfl, rfl⟩, rfl⟩, rfl⟩, rfl⟩ :=
    digits
  rw [hexFour?, first, second, third, fourth]
  refine congrArg some ?_
  simp only [List.foldl_cons, List.foldl_nil]
  omega

/-- A control character is scanned from its number. -/
theorem scan_number {c : Char} (low : c.toNat < 32) (taken cs : List Char) :
    scan ⟨taken, none, none⟩ ('\\' :: 'u' :: (Text.paddedHex 4 c.toNat).toList ++ cs) =
      scan ⟨c :: taken, none, none⟩ cs := by
  have small : c.toNat < 16 ^ 4 := by omega
  obtain ⟨a, b, d, e, written⟩ := List.length_eq_four.1 (Text.length_paddedHex (by decide) small)
  have read : hexFour? a b d e = some c.toNat :=
    hexFour?_of_hexNumber? (written ▸ Uuid.hexNumber?_paddedHex 4 c.toNat)
  have pushed : Progress.pushUnit ⟨taken, none, none⟩ c.toNat = ⟨c :: taken, none, none⟩ := by
    rw [Progress.pushUnit]
    dsimp only
    rw [if_neg (by omega), if_neg (by omega), Char.ofNat_toNat]
  rw [written]
  change scan _ ('\\' :: 'u' :: a :: b :: d :: e :: cs) = _
  rw [scan.eq_4, read, ← pushed]

/-- A character is scanned from what is written for it. -/
theorem scan_escaped (c : Char) (taken cs : List Char) :
    scan ⟨taken, none, none⟩ (escaped c ++ cs) = scan ⟨c :: taken, none, none⟩ cs := by
  have named {n : Nat} (code : c.toNat = n) : some (Char.ofNat n) = some c :=
    congrArg some (code ▸ c.ofNat_toNat)
  have letter {d : Char} (stands : escape? d = some c) (numbered : d ≠ 'u') :
      scan ⟨taken, none, none⟩ ('\\' :: d :: cs) = scan ⟨c :: taken, none, none⟩ cs :=
    scan_letter stands numbered _ cs
  unfold escaped
  split_ifs with quote backslash backspace feed line carriage tab low
  · exact letter (quote.symm ▸ rfl) (by decide)
  · exact letter (backslash.symm ▸ rfl) (by decide)
  · exact letter (named backspace) (by decide)
  · exact letter (named feed) (by decide)
  · exact letter (line ▸ rfl) (by decide)
  · exact letter (carriage ▸ rfl) (by decide)
  · exact letter (tab ▸ rfl) (by decide)
  · exact scan_number low taken cs
  · exact scan_plain quote backslash low _ cs

/-- A string is scanned up to its closing quote. -/
theorem scan_flatMap_escaped (cs taken rest : List Char) :
    scan ⟨taken, none, none⟩ (cs.flatMap escaped ++ '"' :: rest) =
      ⟨.ok (String.ofList (taken.reverse ++ cs)), .ok rest⟩ := by
  induction cs generalizing taken with
  | nil =>
    rw [List.append_nil]
    rfl
  | cons c cs ih =>
    rw [List.flatMap_cons, List.append_assoc, scan_escaped, ih, List.reverse_cons,
      List.append_assoc, List.singleton_append]

/-- The text of a string behind its opening quote, and what comes next. -/
theorem scan_stringText (s : String) (rest : List Char) :
    scan .start (s.toList.flatMap escaped ++ '"' :: rest) = ⟨.ok s, .ok rest⟩ := by
  refine (scan_flatMap_escaped s.toList [] rest).trans ?_
  rw [List.reverse_nil, List.nil_append, String.ofList_toList]

/-- A string is written with its characters escaped, between quotes. -/
theorem toList_stringText (s : String) :
    (stringText s).toList = '"' :: (s.toList.flatMap escaped ++ ['"']) := by
  simp [stringText]

/-! ## Numbers with something behind them -/

/-- The text ends, or goes on with a character that cannot belong to a number. -/
def EndsNumber (rest : List Char) : Prop :=
  ∀ c ∈ rest.head?, c = ',' ∨ c = ']' ∨ c = '\x7d'

section Behind

variable {cs left rest : List Char}

/-- What ends a number is neither a digit nor a point nor the mark of an exponent. -/
theorem EndsNumber.foreign {c : Char} (ends : EndsNumber rest) (first : c ∈ rest.head?) :
    Text.isDigit c = false ∧ c ≠ '.' ∧ c ≠ 'e' ∧ c ≠ 'E' := by
  rcases ends c first with rfl | rfl | rfl <;> decide

/-- Digits are read the same before the end of a number. -/
theorem digits_append {ds : List Char} (ends : EndsNumber rest)
    (read : digits cs = .ok (ds, left)) :
    digits (cs ++ rest) = .ok (ds, left ++ rest) := by
  have stop : ∀ c ∈ rest.head?, Text.isDigit c = false := fun c first => (ends.foreign first).1
  cases cs with
  | nil => cases read
  | cons c cs =>
    rw [digits] at read
    rw [List.cons_append, digits, ← List.cons_append]
    split_ifs at read ⊢ with digit
    obtain ⟨rfl, rfl⟩ := Prod.mk.inj (Except.ok.inj read)
    rw [takeWhile_append_of_stop _ stop, dropWhile_append_of_stop _ stop]

theorem ne_nil_of_digits {read : List Char × List Char} (ok : digits cs = .ok read) : cs ≠ [] := by
  rintro rfl
  cases ok

theorem fraction_append {ds : Option (List Char)} (ends : EndsNumber rest)
    (read : fraction cs = .ok (ds, left)) : fraction (cs ++ rest) = .ok (ds, left ++ rest) := by
  cases cs with
  | nil =>
    obtain ⟨rfl, rfl⟩ := Prod.mk.inj (Except.ok.inj read)
    refine fraction.eq_2 rest fun front point => ?_
    exact (ends.foreign (point ▸ rfl)).2.1 rfl
  | cons c cs =>
    by_cases point : c = '.'
    · subst point
      obtain ⟨taken, digits, same⟩ := map_eq_ok.1 (fraction.eq_1 cs ▸ read)
      obtain ⟨rfl, rfl⟩ := Prod.mk.inj same
      exact map_eq_ok.2 ⟨_, digits_append ends digits, rfl⟩
    · have other (cs : List Char) : fraction (c :: cs) = .ok (none, c :: cs) :=
        fraction.eq_2 _ fun _ same => point (List.cons.inj same).1
      rw [other] at read
      obtain ⟨rfl, rfl⟩ := Prod.mk.inj (Except.ok.inj read)
      exact other (cs ++ rest)

/-- The sign of an exponent, and what follows it. -/
def signed : List Char → Bool × List Char
  | '+' :: cs => (false, cs)
  | '-' :: cs => (true, cs)
  | cs => (false, cs)

theorem signed_append (some : (signed cs).2 ≠ []) :
    signed (cs ++ rest) = ((signed cs).1, (signed cs).2 ++ rest) := by
  cases cs with
  | nil => exact absurd rfl some
  | cons c cs =>
    by_cases plus : c = '+'
    · subst plus
      rfl
    · by_cases minus : c = '-'
      · subst minus
        rfl
      · simp [signed, plus, minus]

theorem exponent_cons {c : Char} (mark : c = 'e' ∨ c = 'E') (cs : List Char) :
    exponent (c :: cs) = (digits (signed cs).2).map fun (ds, rest) =>
      (some (if (signed cs).1 then -(Text.digitsValue ds : Int) else Text.digitsValue ds), rest) :=
  (if_pos mark).trans rfl

theorem exponent_append {e : Option Int} (ends : EndsNumber rest)
    (read : exponent cs = .ok (e, left)) : exponent (cs ++ rest) = .ok (e, left ++ rest) := by
  cases cs with
  | nil =>
    obtain ⟨rfl, rfl⟩ := Prod.mk.inj (Except.ok.inj read)
    cases rest with
    | nil => rfl
    | cons c rest =>
      obtain ⟨-, -, small, capital⟩ := ends.foreign rfl
      exact if_neg (not_or.2 ⟨small, capital⟩)
  | cons c cs =>
    by_cases mark : c = 'e' ∨ c = 'E'
    · rw [exponent_cons mark] at read
      rw [List.cons_append, exponent_cons mark]
      obtain ⟨taken, digits, same⟩ := map_eq_ok.1 read
      obtain ⟨rfl, rfl⟩ := Prod.mk.inj same
      rw [signed_append (ne_nil_of_digits digits)]
      exact map_eq_ok.2 ⟨_, digits_append ends digits, rfl⟩
    · have other (cs : List Char) : exponent (c :: cs) = .ok (none, c :: cs) := if_neg mark
      rw [other] at read
      obtain ⟨rfl, rfl⟩ := Prod.mk.inj (Except.ok.inj read)
      exact other (cs ++ rest)

/-- The sign of a number, and what follows it. -/
def unsigned : List Char → Bool × List Char
  | '-' :: cs => (true, cs)
  | cs => (false, cs)

theorem unsigned_append (some : (unsigned cs).2 ≠ []) :
    unsigned (cs ++ rest) = ((unsigned cs).1, (unsigned cs).2 ++ rest) := by
  cases cs with
  | nil => exact absurd rfl some
  | cons c cs =>
    by_cases minus : c = '-'
    · subst minus
      rfl
    · simp [unsigned, minus]

/-- The figures of a number, step by step: a sign, digits, a fraction and an exponent. -/
theorem figures_eq (cs : List Char) :
    figures cs = (do
      let (whole, rest) ← digits (unsigned cs).2
      if whole.head? = some '0' ∧ 1 < whole.length then .error .badNumber
      let (fraction, rest) ← fraction rest
      let (exponent, rest) ← exponent rest
      return (⟨(unsigned cs).1, whole, fraction, exponent⟩, rest)) := by
  unfold figures unsigned
  rfl

/-- A number is scanned part by part, and every part may go on up to the next one. -/
theorem figures_append {f : Figures} (ends : EndsNumber rest)
    (read : figures cs = .ok (f, left)) : figures (cs ++ rest) = .ok (f, left ++ rest) := by
  rw [figures_eq] at read ⊢
  obtain ⟨⟨whole, behind⟩, first, read⟩ := bind_eq_ok.1 read
  rw [unsigned_append (ne_nil_of_digits first)]
  refine bind_eq_ok.2 ⟨_, digits_append ends first, ?_⟩
  dsimp only at read ⊢
  split_ifs at read ⊢
  · cases read
  · obtain ⟨⟨ds, behind⟩, second, read⟩ := bind_eq_ok.1 read
    obtain ⟨⟨e, behind⟩, third, read⟩ := bind_eq_ok.1 read
    obtain ⟨rfl, rfl⟩ := Prod.mk.inj (Except.ok.inj read)
    refine bind_eq_ok.2 ⟨_, fraction_append ends second, ?_⟩
    exact bind_eq_ok.2 ⟨_, exponent_append ends third, rfl⟩

/-- A number that was read as a whole text is read the same before the end of a number. -/
theorem number_append {n : Json.Number} (ends : EndsNumber rest)
    (read : number cs = (.number n, some left)) :
    number (cs ++ rest) = (.number n, some (left ++ rest)) := by
  unfold number at read ⊢
  split at read
  · cases read
  · rename_i f behind scanned
    rw [figures_append ends scanned]
    dsimp only
    split at read
    · obtain ⟨⟨⟩, ⟨⟩⟩ := Prod.mk.inj read
      rfl
    · cases read

/-- A number begins with its sign or with a digit. -/
theorem head_of_number {n : Json.Number} (read : number cs = (.number n, some left)) :
    ∃ c front, cs = c :: front ∧ (c = '-' ∨ Text.isDigit c = true) := by
  cases cs with
  | nil => cases read
  | cons c cs =>
    refine ⟨c, cs, rfl, ?_⟩
    by_contra other
    obtain ⟨minus, digit⟩ := not_or.1 other
    have wrong : figures (c :: cs) = .error .badNumber := by
      unfold figures
      simp [minus, digits, digit]
      rfl
    rw [number, wrong] at read
    cases read

end Behind

/-! ## Whole numbers -/

/-- No digit is in front that could be left out. -/
theorem head?_toDigits {n : Nat} (front : (Nat.toDigits 10 n).head? = some '0') : n = 0 := by
  induction n using Nat.strong_induction_on with
  | _ n ih =>
    rw [Nat.toDigits_eq_if (by decide)] at front
    split_ifs at front with small
    · have digit : ∀ d < 10, Nat.digitChar d = '0' → d = 0 := by decide
      exact digit n small (Option.some.inj front)
    · rw [List.head?_append_of_ne_nil _ Nat.toDigits_ne_nil] at front
      have := ih (n / 10) (by omega) front
      omega

/-- The digits of a number of 64 bits can all be taken in. -/
theorem accumulate_eq (n : Nat) (cs : List Char)
    (small : Nat.ofDigitChars 10 cs n < 18446744073709551616) :
    accumulate n cs = (Nat.ofDigitChars 10 cs n, []) := by
  induction cs generalizing n with
  | nil => rfl
  | cons c cs ih =>
    rw [Nat.ofDigitChars_cons] at small ⊢
    have grows : 10 * n + Text.digitValue c ≤
        Nat.ofDigitChars 10 cs (10 * n + (c.toNat - '0'.toNat)) := by
      rw [Nat.ofDigitChars_eq_ofDigitChars_zero]
      exact (Nat.le_mul_of_pos_left _ (by positivity)).trans (Nat.le_add_right _ _)
    exact (if_pos (grows.trans_lt small)).trans (ih _ small)

/-- A whole number is read as itself, if it is no nought with a sign. -/
theorem wholeNumber_eq {negative : Bool} {n : Nat} {m : Wide} (nought : negative = true → n ≠ 0)
    (same : (if negative then -(n : Int) else n) = m.val) :
    wholeNumber negative n = .ok (.whole m) := by
  unfold wholeNumber
  dsimp only
  rw [if_neg fun both => nought both.1 both.2, dif_pos (same ▸ m.property)]
  exact congrArg (Except.ok ∘ Json.Number.whole) (Subtype.ext same)

/-- The digits of a number, perhaps behind a sign, are read as a whole number. -/
theorem number_toDigits {negative : Bool} {n : Nat} {cs : List Char}
    (written : unsigned cs = (negative, Nat.toDigits 10 n)) (small : n < 18446744073709551616)
    {m : Json.Number} (value : wholeNumber negative n = .ok m) :
    number cs = (.number m, some []) := by
  have all : ∀ c ∈ Nat.toDigits 10 n, Text.isDigit c = true := fun c member =>
    Nat.isDigit_of_mem_toDigits (by decide) (by decide) member
  have read : digits (Nat.toDigits 10 n) = .ok (Nat.toDigits 10 n, []) := by
    cases front : Nat.toDigits 10 n with
    | nil => exact absurd front Nat.toDigits_ne_nil
    | cons c cs => 
      rw [front] at all
      rw [digits, if_pos (all c List.mem_cons_self), List.takeWhile_eq_self_iff.2 all,
        List.dropWhile_eq_nil_iff.2 all]
  have first : ¬ ((Nat.toDigits 10 n).head? = some '0' ∧ 1 < (Nat.toDigits 10 n).length) := by
    rintro ⟨nought, long⟩
    rw [head?_toDigits nought] at long
    exact absurd long (by decide)
  have scanned : figures cs = .ok (⟨negative, Nat.toDigits 10 n, none, none⟩, []) := by
    rw [figures_eq, written]
    refine bind_eq_ok.2 ⟨_, read, ?_⟩
    dsimp only
    rw [if_neg first]
    rfl
  have taken : accumulate 0 (Nat.toDigits 10 n) = (n, []) := by
    have eq := accumulate_eq 0 (Nat.toDigits 10 n)
    rw [Nat.ofDigitChars_ten_toDigits] at eq
    exact eq small
  have valued : Figures.value ⟨negative, Nat.toDigits 10 n, none, none⟩ = .ok m := by
    unfold Figures.value
    rw [taken]
    exact value
  unfold number
  rw [scanned]
  dsimp only
  rw [valued]

end Json.Reading

/-- The number is read from its text. -/
def Json.Number.Rereads (n : Json.Number) : Prop :=
  Json.Reading.number n.text.toList = (.number n, some [])

open Json.Reading in
/-- Whole numbers are. -/
theorem Json.Number.rereads_whole (n : Wide) : (whole n).Rereads := by
  obtain ⟨n, low, high⟩ := n
  cases n with
  | ofNat n =>
    have digits : (whole ⟨.ofNat n, low, high⟩).text.toList = Nat.toDigits 10 n :=
      String.toList_ofList
    have positive : unsigned (Nat.toDigits 10 n) = (false, Nat.toDigits 10 n) := by
      refine unsigned.eq_2 _ fun cs minus => ?_
      have digit := Nat.isDigit_of_mem_toDigits (by decide) (by decide)
        (minus ▸ List.mem_cons_self : '-' ∈ Nat.toDigits 10 n)
      exact absurd digit (by decide)
    rw [Rereads, digits]
    exact number_toDigits positive (Int.ofNat_lt.1 high) (wholeNumber_eq nofun rfl)
  | negSucc n =>
    have digits : (whole ⟨.negSucc n, low, high⟩).text.toList = '-' :: Nat.toDigits 10 (n + 1) := by
      change ("-" ++ String.ofList (Nat.toDigits 10 (n + 1))).toList = _
      rw [String.toList_append, String.toList_ofList, String.toList_ofList]
      rfl
    rw [Rereads, digits]
    exact number_toDigits rfl (by omega) (wholeNumber_eq (fun _ => Nat.succ_ne_zero n) rfl)

end Listing
