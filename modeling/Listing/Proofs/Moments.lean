import Mathlib
import Listing.Proofs.Numerals
import Listing.Proofs.Outcomes
import Listing.Time.Reading

/-!
# Dates and times read back

Dates and moments are stored as texts and read along layouts.  What is written for a date, a
local moment or a moment of world time is read as that again, whatever the year is and also for
leap seconds.

* `TimeLayout.number_padded` and `TimeLayout.number_year` read one number, and
  `TimeLayout.read_date` and `TimeLayout.read_time` a date and a time, with anything behind them
  that cannot belong to them;
* `Date.readLoose_text`, `Moment.readLocal_localText` and `Moment.readWorld_zuluText` are the
  conclusions for whole texts, and `Moment.readAny?_zuluText` is one for parameters, in the years
  that are written with four digits.
-/

namespace Listing

theorem takeWhile_append_of_ends {α : Type} {has : α → Bool} {front rest : List α}
    (all : ∀ a ∈ front, has a = true) (ends : ∀ a ∈ rest.head?, has a = false) :
    (front ++ rest).takeWhile has = front := by
  rw [List.takeWhile_append_of_pos all]
  cases rest with
  | nil => simp
  | cons a rest => simp [ends a rfl]

theorem dropWhile_of_ends {α : Type} {has : α → Bool} {rest : List α}
    (ends : ∀ a ∈ rest.head?, has a = false) : rest.dropWhile has = rest := by
  cases rest with
  | nil => rfl
  | cons a rest => rw [List.dropWhile_cons_of_neg (by simp [ends a rfl])]

theorem Text.isBlank_of_isDigit {c : Char} (digit : Text.isDigit c = true) :
    Text.isBlank c = false := by
  have high : c.toNat ≤ 57 :=
    UInt32.le_iff_toNat_le.1 (of_decide_eq_true (Bool.and_eq_true_iff.1 digit).2)
  revert digit
  exact Text.of_toNat_lt c (Nat.lt_succ_of_le high) (by decide)

theorem monthLength_le (year : Int) (month : Nat) : monthLength year month ≤ 31 := by
  unfold monthLength
  split_ifs <;> decide

@[simp] theorem Date.ofParts?_self (d : Date) : Date.ofParts? d.year d.month d.day = some d := by
  rw [Date.ofParts?, dif_pos d.inYears, dif_pos d.inMonths, dif_pos d.inDays]

@[simp] theorem TimeOfDay.ofParts?_self (t : TimeOfDay) :
    TimeOfDay.ofParts? t.hour t.minute t.second t.nanosecond = some t :=
  dif_pos ⟨t.hour_le, t.minute_le, t.second_le, t.nanosecond_lt⟩

namespace TimeLayout

/-! ## Numbers -/

/-- No digit comes next. -/
def EndsDigits (rest : List Char) : Prop := ∀ c ∈ rest.head?, Text.isDigit c = false

/-- As many digits as the width allows are read, if no digit follows them. -/
theorem digits_append (width : Option Nat) {cs rest : List Char} (some : cs ≠ [])
    (all : ∀ c ∈ cs, Text.isDigit c = true) (ends : EndsDigits rest)
    (fits : ∀ w ∈ width, cs.length ≤ w) (small : Text.digitsValue cs ≤ ceiling) :
    digits width (cs ++ rest) = .ok (Text.digitsValue cs, rest) := by
  have run : (cs ++ rest).takeWhile Text.isDigit = cs := takeWhile_append_of_ends all ends
  cases cs with
  | nil => exact absurd rfl some
  | cons c cs =>
    rw [List.cons_append] at run ⊢
    unfold digits
    dsimp only
    rw [if_pos (all c List.mem_cons_self), run, ← List.cons_append]
    cases width with
    | none =>
      dsimp only
      rw [if_pos small, List.drop_left]
    | some w =>
      simp only [List.take_of_length_le (fits w rfl), if_pos small, List.drop_left]

/-- Blanks may be passed over before a number, but there are none. -/
theorem dropWhile_isBlank_padded (width n : Nat) (rest : List Char) :
    ((Text.padded width n).toList ++ rest).dropWhile Text.isBlank =
      (Text.padded width n).toList ++ rest := by
  refine dropWhile_of_ends fun c first => ?_
  rw [List.head?_append_of_ne_nil _ (Text.padded_ne_nil width n)] at first
  exact Text.isBlank_of_isDigit (Text.isDigit_of_mem_padded (List.mem_of_mem_head? first))

/-- A padded number is read back, if it has as many digits as may be read and no other follows. -/
theorem digits_padded {width limit : Nat} (n : Nat) {rest : List Char} (some : 0 < width)
    (small : n < 10 ^ width) (fits : width ≤ limit) (low : n ≤ ceiling) (ends : EndsDigits rest) :
    digits (.some limit) ((Text.padded width n).toList ++ rest) = .ok (n, rest) := by
  have fits : ∀ w ∈ Option.some limit, (Text.padded width n).toList.length ≤ w := by
    rintro w ⟨⟩
    exact (Text.length_padded some small).trans_le fits
  have read := digits_append (.some limit) (Text.padded_ne_nil width n)
    (fun c => Text.isDigit_of_mem_padded) ends fits ((Text.digitsValue_padded width n).trans_le low)
  rwa [Text.digitsValue_padded] at read

/-- The numbers with another one for a unit. -/
def Numbers.put (ns : Numbers) (n : Nat) : Unit → Numbers
  | .year => { ns with year := n }
  | .month => { ns with month := n }
  | .day => { ns with day := n }
  | .hour => { ns with hour := n }
  | .minute => { ns with minute := n }
  | .second => { ns with second := n }

/-- The least and the greatest number of a unit that is written with two digits. -/
def Unit.bounds : Unit → Nat × Nat
  | .year => (0, 99)
  | .month => (1, 12)
  | .day => (1, 31)
  | .hour => (0, 23)
  | .minute => (0, 59)
  | .second => (0, 60)

/-- A number of two digits is read into its unit. -/
theorem number_padded {unit : Unit} {n : Nat} {rest : List Char} (notYear : unit ≠ .year)
    (low : unit.bounds.1 ≤ n) (high : n ≤ unit.bounds.2) (ends : EndsDigits rest) (ns : Numbers) :
    number unit ns ((Text.padded 2 n).toList ++ rest) = .ok (ns.put n unit, rest) := by
  have small : n < 100 := high.trans_lt (by cases unit <;> decide)
  have read := digits_padded n (by decide) small (Nat.le_refl 2) (by unfold ceiling; omega) ends
  unfold number
  rw [dropWhile_isBlank_padded]
  cases unit with
  | year => exact absurd rfl notYear
  | month | day | hour | minute | second =>
    exact bind_eq_ok.2 ⟨_, read, bind_eq_ok.2 ⟨n, if_pos ⟨low, high⟩, rfl⟩⟩

theorem year_digits {c : Char} (digit : Text.isDigit c = true) (cs : List Char) :
    year (c :: cs) = (digits (some 4) (c :: cs)).map fun (n, rest) => ((n : Int), rest) := by
  unfold year
  split
  · rename_i same
    exact absurd ((List.cons.inj same).1 ▸ digit) (by decide)
  · rename_i same
    exact absurd ((List.cons.inj same).1 ▸ digit) (by decide)
  · rfl

/-- A year is read without a sign if it is written so, and with one otherwise. -/
theorem number_year {y : Int} (inYears : -262143 ≤ y ∧ y ≤ 262142) {rest : List Char}
    (ends : EndsDigits rest) (ns : Numbers) :
    number .year ns ((Date.yearText y).toList ++ rest) = .ok ({ ns with year := y }, rest) := by
  have low : y.natAbs ≤ ceiling := by unfold ceiling; omega
  have held : -2147483648 ≤ y ∧ y < 2147483648 := by omega
  have unbounded : digits none ((Text.padded 4 y.natAbs).toList ++ rest) = .ok (y.natAbs, rest) := by
    have read := digits_append none (Text.padded_ne_nil 4 y.natAbs)
      (fun c => Text.isDigit_of_mem_padded) ends (by rintro w ⟨⟩)
      ((Text.digitsValue_padded 4 y.natAbs).trans_le low)
    rwa [Text.digitsValue_padded] at read
  have read : year (((Date.yearText y).toList ++ rest).dropWhile Text.isBlank) = .ok (y, rest) := by
    unfold Date.yearText
    dsimp only
    -- Four digits stand without a sign; with one there may be more, and all of them are read.
    split
    · rename_i four
      have read := digits_padded y.natAbs (by decide) (by omega) (Nat.le_refl 4) low ends
      rw [dropWhile_isBlank_padded]
      cases written : (Text.padded 4 y.natAbs).toList with
      | nil => exact absurd written (Text.padded_ne_nil 4 y.natAbs)
      | cons c cs =>
        have digit : Text.isDigit c = true :=
          Text.isDigit_of_mem_padded (written ▸ List.mem_cons_self)
        rw [written, List.cons_append] at read
        rw [List.cons_append, year_digits digit, read]
        exact congrArg (fun n => Except.ok (n, rest)) (by omega)
    · have signed (c : Char) (blank : Text.isBlank c = false) (cs : List Char) :
          (([c] ++ cs) ++ rest).dropWhile Text.isBlank = c :: (cs ++ rest) :=
        dropWhile_of_ends (by rintro d ⟨⟩; exact blank)
      have minus : "-".toList = ['-'] := rfl
      have plus : "+".toList = ['+'] := rfl
      split
      · rw [String.toList_append, minus, signed '-' (by decide), year, unbounded]
        exact congrArg (fun n => Except.ok (n, rest)) (by omega)
      · rw [String.toList_append, plus, signed '+' (by decide), year, unbounded]
        exact congrArg (fun n => Except.ok (n, rest)) (by omega)
  exact bind_eq_ok.2 ⟨_, read, if_pos held⟩

/-! ## Layouts -/

/-- Behind a number reading goes on with what the number has left. -/
theorem read_number {unit : Unit} {parts : List Part} {ns : Numbers} {cs : List Char} :
    read (.number unit :: parts) ns cs =
      number unit ns cs >>= fun (ns, rest) => read parts ns rest := rfl

/-- A mark stands for itself. -/
theorem read_mark_cons {parts : List Part} {ns : Numbers} {c d : Char} {rest : List Char} :
    read (.mark c :: parts) ns (d :: rest) =
      if c = d then read parts ns rest else .error .invalid := rfl

theorem read_blanks {parts : List Part} {ns : Numbers} {cs : List Char}
    (solid : ∀ c ∈ cs.head?, Text.isBlank c = false) :
    read (.blanks :: parts) ns cs = read parts ns cs :=
  congrArg (read parts ns) (dropWhile_of_ends solid)

theorem read_point {parts : List Part} {ns : Numbers} {cs : List Char} :
    read (.fraction :: parts) ns ('.' :: cs) =
      fraction cs >>= fun (n, rest) => read parts { ns with nanosecond := n } rest := rfl

/-- Without a point there is no fraction. -/
theorem read_pointless {parts : List Part} {ns : Numbers} {cs : List Char}
    (none : ∀ c ∈ cs.head?, c ≠ '.') : read (.fraction :: parts) ns cs = read parts ns cs := by
  cases cs with
  | nil => rfl
  | cons c cs =>
    rw [read]
    rintro rest same
    exact none c rfl (List.cons.inj same).1

/-- A layout that continues another one reads what that has left. -/
theorem read_append (front back : List Part) (ns : Numbers) (cs : List Char) :
    read (front ++ back) ns cs = read front ns cs >>= fun (ns, rest) => read back ns rest := by
  induction front generalizing ns cs with
  | nil => rfl
  | cons part front ih =>
    rw [List.cons_append]
    cases part with
    | number unit =>
      rw [read_number, read_number, bind_assoc]
      exact congrArg _ (funext fun (ns, rest) => ih ns rest)
    | blanks => exact ih ns _
    | mark c =>
      cases cs with
      | nil => rfl
      | cons d rest =>
        rw [read_mark_cons, read_mark_cons]
        split
        · exact ih ns rest
        · rfl
    | fraction =>
      by_cases none : ∀ c ∈ cs.head?, c ≠ '.'
      · rw [read_pointless none, read_pointless none, ih]
      · obtain ⟨c, first, rfl⟩ : ∃ c ∈ cs.head?, c = '.' := by simpa using none
        obtain ⟨rest, rfl⟩ := List.head?_eq_some_iff.1 first
        rw [read_point, read_point, bind_assoc]
        exact congrArg _ (funext fun (n, rest) => ih _ rest)

theorem read_mark {parts : List Part} {ns : Numbers} {c : Char} (blank : Text.isBlank c = false)
    {rest : List Char} : read (.blanks :: .mark c :: parts) ns (c :: rest) = read parts ns rest := by
  rw [read_blanks (by rintro d ⟨⟩; exact blank), read_mark_cons, if_pos rfl]

/-- A number that a mark follows, with blanks allowed between them. -/
theorem read_marked {unit : Unit} {parts : List Part} {ns ns' : Numbers} {c : Char}
    {text rest : List Char} (digit : Text.isDigit c = false) (blank : Text.isBlank c = false)
    (first : EndsDigits (c :: rest) → number unit ns (text ++ c :: rest) = .ok (ns', c :: rest)) :
    read (.number unit :: .blanks :: .mark c :: parts) ns (text ++ c :: rest) =
      read parts ns' rest := by
  rw [read_number, first (by rintro d ⟨⟩; exact digit)]
  exact read_mark blank

/-- A number that a mark follows at once. -/
theorem read_number_mark {unit : Unit} {parts : List Part} {ns ns' : Numbers} {c : Char}
    {text rest : List Char} (digit : Text.isDigit c = false)
    (first : EndsDigits (c :: rest) → number unit ns (text ++ c :: rest) = .ok (ns', c :: rest)) :
    read (.number unit :: .mark c :: parts) ns (text ++ c :: rest) = read parts ns' rest := by
  rw [read_number, first (by rintro d ⟨⟩; exact digit)]
  exact if_pos rfl

/-! ## Dates -/

/-- The numbers of a date. -/
def Numbers.ofDate (d : Date) : Numbers := ⟨d.year, d.month, d.day, 0, 0, 0, 0⟩

theorem Numbers.date_ofDate (d : Date) : (Numbers.ofDate d).date = .ok d := by
  unfold Numbers.date Numbers.ofDate
  rw [Date.ofParts?_self]

/-- A date is written as its three numbers with hyphens between them. -/
theorem toList_dateText_append (d : Date) (rest : List Char) :
    d.text.toList ++ rest = (Date.yearText d.year).toList ++ '-' ::
      ((Text.padded 2 d.month).toList ++ '-' :: ((Text.padded 2 d.day).toList ++ rest)) := by
  simp [Date.text]

/-- A date is read from its text, whatever follows, unless it is another digit. -/
theorem read_date (d : Date) (rest : List Char) (ends : EndsDigits rest) :
    read looseDate .unread (d.text.toList ++ rest) = .ok (.ofDate d, rest) := by
  have high : d.day ≤ 31 := d.inDays.2.trans (monthLength_le d.year d.month)
  rw [toList_dateText_append, looseDate,
    read_marked (by decide) (by decide) fun ends => number_year d.inYears ends _,
    read_marked (by decide) (by decide) fun ends =>
      number_padded (by decide) d.inMonths.1 d.inMonths.2 ends _,
    read_number, number_padded (by decide) d.inDays.1 high ends]
  rfl

/-- It is also read if no blanks are allowed between its parts. -/
theorem read_plainDate (d : Date) (rest : List Char) (ends : EndsDigits rest) :
    read plainDate .unread (d.text.toList ++ rest) = .ok (.ofDate d, rest) := by
  have high : d.day ≤ 31 := d.inDays.2.trans (monthLength_le d.year d.month)
  rw [toList_dateText_append, plainDate,
    read_number_mark (by decide) fun ends => number_year d.inYears ends _,
    read_number_mark (by decide) fun ends =>
      number_padded (by decide) d.inMonths.1 d.inMonths.2 ends _,
    read_number, number_padded (by decide) d.inDays.1 high ends]
  rfl

/-! ## Times -/

/-- Neither a digit nor a point nor a blank comes next. -/
def EndsTime (rest : List Char) : Prop :=
  ∀ c ∈ rest.head?, Text.isDigit c = false ∧ c ≠ '.' ∧ Text.isBlank c = false

/-- Digits behind a point count as billionths. -/
theorem fraction_padded {width n : Nat} {rest : List Char} (some : 0 < width) (nine : width ≤ 9)
    (small : n < 10 ^ width) (ends : EndsDigits rest) :
    fraction ((Text.padded width n).toList ++ rest) = .ok (n * 10 ^ (9 - width), rest) := by
  have low : n ≤ ceiling := by
    have bound := small.trans_le (Nat.pow_le_pow_right (by decide : 0 < 10) nine)
    unfold ceiling
    omega
  have run : ((Text.padded width n).toList ++ rest).takeWhile Text.isDigit =
      (Text.padded width n).toList :=
    takeWhile_append_of_ends (fun c => Text.isDigit_of_mem_padded) ends
  refine bind_eq_ok.2 ⟨_, digits_padded n some small nine low ends, ?_⟩
  dsimp only
  rw [run, Text.length_padded some small, dropWhile_of_ends ends]
  rfl

/-- The fraction of a second is read from its text. -/
theorem read_fractionText {n : Nat} (small : n < 1000000000) {parts : List Part} {rest : List Char}
    (ends : EndsTime rest) {ns : Numbers} (unset : ns.nanosecond = 0) :
    read (.fraction :: parts) ns ((TimeOfDay.fractionText n).toList ++ rest) =
      read parts { ns with nanosecond := n } rest := by
  have noDigit : EndsDigits rest := fun c first => (ends c first).1
  have point {width m : Nat} (some : 0 < width) (nine : width ≤ 9) (small : m < 10 ^ width)
      (same : m * 10 ^ (9 - width) = n) :
      read (.fraction :: parts) ns (("." ++ Text.padded width m).toList ++ rest) =
        read parts { ns with nanosecond := n } rest := by
    rw [String.toList_append]
    change (fraction ((Text.padded width m).toList ++ rest) >>= _) = _
    rw [fraction_padded some nine small noDigit, same]
    rfl
  unfold TimeOfDay.fractionText
  split_ifs with none thousandths millionths
  · rw [String.toList_empty, List.nil_append, read_pointless fun c first => (ends c first).2.1]
    cases ns
    cases unset
    rw [none]
  · exact point (by decide) (by decide) (by omega) (by omega)
  · exact point (by decide) (by decide) (by omega) (by omega)
  · exact point (by decide) (by decide) (by omega) (by omega)

/-- A fraction begins with a point, if there is one, so that no digit of it is read before. -/
theorem endsDigits_fractionText {n : Nat} {rest : List Char} (ends : EndsTime rest) :
    EndsDigits ((TimeOfDay.fractionText n).toList ++ rest) := by
  unfold TimeOfDay.fractionText
  split_ifs
  · exact fun c first => (ends c first).1
  all_goals
    rw [String.toList_append]
    rintro c ⟨⟩
    decide

/-- The numbers of a moment. -/
def Numbers.ofMoment (m : Moment) : Numbers :=
  ⟨m.date.year, m.date.month, m.date.day, m.time.hour, m.time.minute, m.time.second,
    m.time.nanosecond⟩

theorem Numbers.moment_ofMoment (m : Moment) : (Numbers.ofMoment m).moment = .ok m := by
  refine bind_eq_ok.2 ⟨m.date, Numbers.date_ofDate m.date, ?_⟩
  unfold Numbers.ofMoment
  dsimp only
  rw [TimeOfDay.ofParts?_self]
  rfl

/-- A time is written as its three numbers with colons between them, and its fraction. -/
theorem toList_timeText_append (t : TimeOfDay) (rest : List Char) :
    t.text.toList ++ rest = (Text.padded 2 t.hour).toList ++ ':' ::
      ((Text.padded 2 t.minute).toList ++ ':' :: ((Text.padded 2 t.second).toList ++
        ((TimeOfDay.fractionText t.nanosecond).toList ++ rest))) := by
  simp [TimeOfDay.text]

/-- A time is read from its text, whatever follows, unless it could belong to the time. -/
theorem read_time (m : Moment) (rest : List Char) (ends : EndsTime rest) :
    read looseTime (.ofDate m.date) (m.time.text.toList ++ rest) = .ok (.ofMoment m, rest) := by
  rw [toList_timeText_append, looseTime,
    read_marked (by decide) (by decide) fun ends =>
      number_padded (by decide) (Nat.zero_le _) m.time.hour_le ends _,
    read_marked (by decide) (by decide) fun ends =>
      number_padded (by decide) (Nat.zero_le _) m.time.minute_le ends _,
    read_number,
    number_padded (by decide) (Nat.zero_le _) m.time.second_le (endsDigits_fractionText ends)]
  refine (read_fractionText m.time.nanosecond_lt ends rfl).trans ?_
  rw [read_blanks fun c first => (ends c first).2.2]
  rfl

/-- It is also read if no blanks are allowed between its parts. -/
theorem read_plainTime (m : Moment) (rest : List Char) (ends : EndsTime rest) :
    read (plainTime ++ [.fraction]) (.ofDate m.date) (m.time.text.toList ++ rest) =
      .ok (.ofMoment m, rest) := by
  rw [toList_timeText_append]
  change read [.number .hour, .mark ':', .number .minute, .mark ':', .number .second, .fraction]
    _ _ = _
  rw [read_number_mark (by decide) fun ends =>
      number_padded (by decide) (Nat.zero_le _) m.time.hour_le ends _,
    read_number_mark (by decide) fun ends =>
      number_padded (by decide) (Nat.zero_le _) m.time.minute_le ends _,
    read_number,
    number_padded (by decide) (Nat.zero_le _) m.time.second_le (endsDigits_fractionText ends)]
  exact (read_fractionText m.time.nanosecond_lt ends rfl).trans rfl

theorem separator_mark (rest : List Char) : separator ('T' :: rest) = .ok rest := by
  rw [separator, if_pos (.inl rfl)]

/-! ## The places of digits -/

/-- Numbers below a hundred are written with two digits. -/
theorem exists_padded_two {n : Nat} (small : n < 100) :
    ∃ a b, (Text.padded 2 n).toList = [a, b] ∧ Text.isDigit a = true ∧ Text.isDigit b = true := by
  obtain ⟨a, b, written⟩ := List.length_eq_two.1 (Text.length_padded (by decide : 0 < 2) small)
  have digit : ∀ c ∈ [a, b], Text.isDigit c = true := fun c member =>
    Text.isDigit_of_mem_padded (written ▸ member)
  exact ⟨a, b, written, by simpa using digit⟩

/-- Numbers below ten thousand are written with four digits. -/
theorem exists_padded_four {n : Nat} (small : n < 10000) :
    ∃ a b c d, (Text.padded 4 n).toList = [a, b, c, d] ∧ Text.isDigit a = true ∧
      Text.isDigit b = true ∧ Text.isDigit c = true ∧ Text.isDigit d = true := by
  obtain ⟨a, b, c, d, written⟩ :=
    List.length_eq_four.1 (Text.length_padded (by decide : 0 < 4) small)
  have digit : ∀ e ∈ [a, b, c, d], Text.isDigit e = true := fun e member =>
    Text.isDigit_of_mem_padded (written ▸ member)
  exact ⟨a, b, c, d, written, by simpa using digit⟩

end TimeLayout

open TimeLayout

/-! ## Whole texts -/

/-- A date is read from its text. -/
theorem Date.readLoose_text (d : Date) : Date.readLoose d.text = .ok d := by
  have date := read_date d [] (by rintro c ⟨⟩)
  rw [List.append_nil] at date
  have parts : read (looseDate ++ [.blanks]) .unread d.text.toList = .ok (.ofDate d, []) := by
    rw [read_append]
    exact bind_eq_ok.2 ⟨_, date, rfl⟩
  exact bind_eq_ok.2 ⟨_, bind_eq_ok.2 ⟨_, parts, rfl⟩, Numbers.date_ofDate d⟩

namespace Moment

/-- Reading a moment as a plain date stops where the time begins. -/
theorem read_date_of_localText (m : Moment) (rest : List Char) :
    read looseDate .unread (m.localText.toList ++ rest) =
      .ok (.ofDate m.date, 'T' :: (m.time.text.toList ++ rest)) := by
  have ends : EndsDigits ('T' :: (m.time.text.toList ++ rest)) := by
    rintro c ⟨⟩
    decide
  rw [← read_date m.date _ ends]
  simp [localText]

/-- A local moment is read from its text. -/
theorem readLocal_localText (m : Moment) : readLocal m.localText = .ok m := by
  have date := read_date_of_localText m []
  have time := read_time m [] (by rintro c ⟨⟩)
  rw [List.append_nil] at date
  have parts : read (looseDate ++ [.blanks, .mark 'T'] ++ looseTime) .unread m.localText.toList =
      .ok (.ofMoment m, []) := by
    rw [List.append_assoc, read_append]
    exact bind_eq_ok.2 ⟨_, date, (read_mark (by decide)).trans time⟩
  exact bind_eq_ok.2 ⟨_, bind_eq_ok.2 ⟨_, parts, rfl⟩, Numbers.moment_ofMoment m⟩

/-- World time without an offset is the moment itself. -/
theorem toWorld_zero (m : Moment) : toWorld m 0 = .ok m := by
  have hour := m.time.hour_le
  have minute := m.time.minute_le
  have total : (m.time.hour * 60 + m.time.minute - 0 : Int) =
      ((m.time.hour * 60 + m.time.minute : Nat) : Int) := by push_cast; omega
  have inDay : (((m.time.hour * 60 + m.time.minute : Nat) : Int) % 1440).toNat =
      m.time.hour * 60 + m.time.minute := by omega
  have hours : (m.time.hour * 60 + m.time.minute) / 60 = m.time.hour := by omega
  have minutes : (m.time.hour * 60 + m.time.minute) % 60 = m.time.minute := by omega
  have same : m.earlier? 0 = some m := by
    unfold earlier?
    dsimp only
    rw [total, inDay, if_neg (by omega), if_neg (by omega), hours, minutes, TimeOfDay.ofParts?_self]
  rw [toWorld, if_pos (by decide), same]

theorem toList_zuluText (m : Moment) : m.zuluText.toList = m.localText.toList ++ ['Z'] := by
  simp [zuluText]

/-- A moment of world time is read from its text. -/
theorem readWorld_zuluText (m : Moment) : readWorld m.zuluText = .ok m := by
  have date := read_date_of_localText m ['Z']
  have time := read_time m ['Z'] (by rintro c ⟨⟩; decide)
  rw [← toList_zuluText] at date
  have offset : readOffset ['Z'] = .ok 0 := rfl
  exact bind_eq_ok.2 ⟨_, date, bind_eq_ok.2 ⟨_, separator_mark _, bind_eq_ok.2 ⟨_, time,
    bind_eq_ok.2 ⟨_, offset, bind_eq_ok.2 ⟨_, Numbers.moment_ofMoment m, toWorld_zero m⟩⟩⟩⟩⟩

/-- In the years that have four digits the numbers of a text have their places. -/
theorem digitsAt_localText {m : Moment} (years : 0 ≤ m.date.year ∧ m.date.year ≤ 9999)
    (rest : List Char) :
    digitsAt [0, 1, 2, 3, 5, 6, 8, 9, 11, 12, 14, 15, 17, 18] (m.localText.toList ++ rest) =
      true := by
  have month := m.date.inMonths.2
  have day := m.date.inDays.2.trans (monthLength_le m.date.year m.date.month)
  have hour := m.time.hour_le
  have minute := m.time.minute_le
  have second := m.time.second_le
  obtain ⟨a, b, c, d, year, years'⟩ := exists_padded_four (n := m.date.year.natAbs) (by omega)
  obtain ⟨e, f, month, months⟩ := exists_padded_two (n := m.date.month) (by omega)
  obtain ⟨g, h, day, days⟩ := exists_padded_two (n := m.date.day) (by omega)
  obtain ⟨i, j, hour, hours⟩ := exists_padded_two (n := m.time.hour) (by omega)
  obtain ⟨k, l, minute, minutes⟩ := exists_padded_two (n := m.time.minute) (by omega)
  obtain ⟨p, q, second, seconds⟩ := exists_padded_two (n := m.time.second) (by omega)
  have written : m.localText.toList ++ rest = [a, b, c, d, '-', e, f, '-', g, h, 'T', i, j, ':',
      k, l, ':', p, q] ++ (TimeOfDay.fractionText m.time.nanosecond).toList ++ rest := by
    simp [localText, Date.text, Date.yearText, if_pos years, TimeOfDay.text, year, month, day,
      hour, minute, second]
  rw [written]
  simp [digitsAt, years', months, days, hours, minutes, seconds]

/-- A moment of world time is read from its text in the strict form. -/
theorem readStrict_zuluText {m : Moment} (years : 0 ≤ m.date.year ∧ m.date.year ≤ 9999) :
    readStrict m.zuluText = .ok m := by
  have placed := digitsAt_localText years ['Z']
  have dated : EndsDigits ('T' :: (m.time.text.toList ++ ['Z'])) := by
    rintro c ⟨⟩
    decide
  have date := read_plainDate m.date _ dated
  have time := read_plainTime m ['Z'] (by rintro c ⟨⟩; decide)
  have parts : m.localText.toList ++ ['Z'] =
      m.date.text.toList ++ 'T' :: (m.time.text.toList ++ ['Z']) := by
    simp [localText]
  unfold readStrict
  dsimp only
  rw [toList_zuluText, placed, parts]
  exact bind_eq_ok.2 ⟨_, date, bind_eq_ok.2 ⟨_, separator_mark _, bind_eq_ok.2 ⟨_, time,
    bind_eq_ok.2 ⟨(0, []), rfl, bind_eq_ok.2 ⟨_, Numbers.moment_ofMoment m, toWorld_zero m⟩⟩⟩⟩⟩

/-- A moment of the years that have four digits is read from its own text. -/
theorem readAny?_zuluText {m : Moment} (years : 0 ≤ m.date.year ∧ m.date.year ≤ 9999) :
    readAny? m.zuluText = some m := by
  unfold readAny?
  rw [readStrict_zuluText years]
  rfl

end Moment

end Listing
