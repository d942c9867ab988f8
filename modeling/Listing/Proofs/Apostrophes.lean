import Mathlib
import Listing.Json.Printing
import Listing.Proofs.Numerals
import Listing.Proofs.Tokens
import Listing.Value

/-!
# Apostrophes in texts

Of the texts that stand for values most cannot have an apostrophe: numbers are solid, that is they
could be words of a statement, and so are identifiers and moments.  In the text of a document an
apostrophe stands as it is, since only other characters are escaped there.

* `Sql.Solid` says that a text could be part of a word;
* `Value.isWord_doubleText` says that a number is one word, whatever its digits;
* `Uuid.apostrophe_notMem_text` and `Moment.apostrophe_notMem_offsetText` are about the texts that
  stand between apostrophes as they are;
* `Json.apostrophe_mem_text_iff` says where the apostrophes of a document are.
-/

namespace Listing

/-! ## Solid texts -/

namespace Sql

theorem solid_append {quote : Char} {front back : List Char} (first : Solid quote front)
    (later : Solid quote back) : Solid quote (front ++ back) :=
  List.forall_mem_append.2 ⟨first, later⟩

theorem solid_of_all {quote : Char} {cs : List Char} (all : cs.all (isWordChar quote) = true) :
    Solid quote cs :=
  List.all_eq_true.1 all

/-- The quote itself is not in a solid text. -/
theorem Solid.notMem {quote : Char} {cs : List Char} (solid : Solid quote cs) : quote ∉ cs := by
  intro member
  have other := solid _ member
  simp [isWordChar] at other

/-- A solid text is a word unless it is empty. -/
theorem isWord_ofList {quote : Char} {cs : List Char} (some : cs ≠ []) (solid : Solid quote cs) :
    IsWord quote (String.ofList cs) := by
  constructor
  · intro empty
    have none := congrArg String.toList empty
    rw [String.toList_ofList] at none
    exact some none
  · rwa [String.toList_ofList]

theorem isWordChar_of_isDigit {c : Char} (digit : c.isDigit = true) : isWordChar '\'' c = true := by
  by_contra other
  simp only [isWordChar, isMark, Bool.and_eq_true, bne_iff_ne, Bool.not_eq_true',
    Bool.or_eq_false_iff, beq_eq_false_iff_ne, not_and_or, not_not] at other
  rcases other with (rfl | rfl) | (rfl | rfl) | rfl <;> cases digit

/-- The digits of a number are solid. -/
theorem solid_toDigits (n : Nat) : Solid '\'' (Nat.toDigits 10 n) := fun _ member =>
  isWordChar_of_isDigit (Nat.isDigit_of_mem_toDigits (by decide) (by decide) member)

theorem solid_replicate (n : Nat) : Solid '\'' (List.replicate n '0') := by
  intro c member
  rw [List.eq_of_mem_replicate member]
  decide

theorem solid_padded (width n : Nat) : Solid '\'' (Text.padded width n).toList := fun _ member =>
  isWordChar_of_isDigit (Text.isDigit_of_mem_padded member)

end Sql

open Sql (Solid IsWord isWord_ofList solid_append solid_of_all solid_toDigits solid_replicate
  solid_padded)

/-! ## Numbers -/

/-- A natural number is one word. -/
theorem isWord_toString_nat (n : Nat) : IsWord '\'' (toString n) :=
  isWord_ofList Nat.toDigits_ne_nil (solid_toDigits n)

/-- An integer is one word, its sign included. -/
theorem isWord_toString_int (n : Int) : IsWord '\'' (toString n) := by
  cases n with
  | ofNat n => exact isWord_toString_nat n
  | negSucc n =>
    have minus : Solid '\'' "-".toList := solid_of_all (by decide)
    have digits := isWord_toString_nat (n + 1)
    have written : toString (Int.negSucc n) = "-" ++ toString (n + 1) := rfl
    rw [written]
    constructor
    · exact fun empty => digits.some (String.append_eq_empty_iff.1 empty).2
    · rw [String.toList_append]
      exact solid_append minus digits.solid

namespace Decimal

/-- Digits stand on either side of the point, and in front of it there is one at least. -/
theorem solid_split (d : Decimal) :
    Solid '\'' d.split.1 ∧ Solid '\'' d.split.2 ∧ d.split.1 ≠ [] := by
  have digits : Solid '\'' (digitText d.coefficient) := solid_toDigits _
  have some : digitText d.coefficient ≠ [] := Nat.toDigits_ne_nil
  have nought : Solid '\'' ['0'] := solid_replicate 1
  unfold split
  dsimp only
  split
  · refine ⟨?_, List.forall_mem_nil _, ?_⟩
    · split
      · exact digits
      · exact solid_append digits (solid_replicate _)
    · split
      · exact some
      · exact List.append_ne_nil_of_left_ne_nil some _
  · split
    · rename_i few
      refine ⟨fun c member => digits c (List.mem_of_mem_take member),
        fun c member => digits c (List.mem_of_mem_drop member), fun none => ?_⟩
      have length := congrArg List.length none
      rw [List.length_take, List.length_nil] at length
      omega
    · exact ⟨nought, solid_append (solid_replicate _) digits, List.cons_ne_nil _ _⟩

theorem solid_signed (negative : Bool) {body : String} (solid : Solid '\'' body.toList) :
    Solid '\'' (signed negative body).toList := by
  have minus : Solid '\'' "-".toList := solid_of_all (by decide)
  cases negative with
  | false => exact solid
  | true =>
    rw [signed, if_pos rfl, String.toList_append]
    exact solid_append minus solid

theorem isWord_signed (negative : Bool) {body : String} (word : IsWord '\'' body) :
    IsWord '\'' (signed negative body) := by
  refine ⟨?_, solid_signed negative word.solid⟩
  cases negative with
  | false => exact word.some
  | true => exact fun empty => word.some (String.append_eq_empty_iff.1 empty).2

/-- A decimal with a point is one word. -/
theorem isWord_positional (d : Decimal) : IsWord '\'' d.positional := by
  have parts := d.solid_split
  have point : Solid '\'' ['.'] := solid_of_all (by decide)
  unfold positional
  generalize d.split = split at parts ⊢
  obtain ⟨whole, fraction, some⟩ := parts
  refine isWord_signed _ ?_
  split
  · exact isWord_ofList some whole
  · exact isWord_ofList (List.append_ne_nil_of_left_ne_nil some _)
      (solid_append whole (solid_append point fraction))

/-- A decimal is solid in its compact form, with an exponent or without. -/
theorem solid_compact (w : Window) (d : Decimal) : Solid '\'' (d.compact w).toList := by
  obtain ⟨whole, fraction, -⟩ := d.solid_split
  have nought : Solid '\'' ['0'] := solid_replicate 1
  have point : Solid '\'' ['.'] := solid_of_all (by decide)
  have behind : Solid '\'' (if d.split.2.isEmpty then ['0'] else d.split.2) := by
    split
    · exact nought
    · exact fraction
  have digits : Solid '\'' (digitText d.coefficient) := solid_toDigits _
  unfold compact
  split
  · exact solid_signed _ (solid_of_all (by decide))
  · split
    · refine solid_signed _ ?_
      rw [String.toList_ofList]
      exact solid_append whole (solid_append point behind)
    · refine solid_signed _ ?_
      rw [String.toList_append, String.toList_append, String.toList_ofList]
      refine solid_append ?_ (solid_append ?_ (isWord_toString_nat _).solid)
      · split
        · exact List.forall_mem_nil _
        · rename_i single
          rwa [single] at digits
        · rename_i c rest _ several
          rw [several] at digits
          obtain ⟨first, later⟩ := List.forall_mem_cons.1 digits
          have leading : Solid '\'' [c] := List.forall_mem_singleton.2 first
          exact solid_append leading (solid_append point later)
      · split
        · exact solid_of_all (by decide)
        · exact solid_of_all (by decide)

end Decimal

/-- A double is one word, whatever its digits, and so are those that are no numbers. -/
theorem Value.isWord_doubleText (x : Double) : IsWord '\'' (Value.doubleText x) := by
  cases x with
  | nan => exact ⟨by decide, solid_of_all (by decide)⟩
  | number negative code =>
    rw [Value.doubleText]
    split
    · exact Decimal.isWord_signed _ ⟨by decide, solid_of_all (by decide)⟩
    · exact Decimal.isWord_positional _

/-! ## Identifiers and moments -/

/-- What is in none of the texts between separators comes from the separators. -/
theorem mem_intercalate_iff {separator : List Char} {parts : List (List Char)} {c : Char}
    (other : c ∉ separator) : c ∈ separator.intercalate parts ↔ ∃ part ∈ parts, c ∈ part := by
  induction parts with
  | nil => simp
  | cons part parts ih =>
    cases parts with
    | nil => simp
    | cons next parts =>
      rw [List.intercalate_cons_cons, List.mem_append, List.mem_append, ih]
      simp [other]

/-- There are no apostrophes among hexadecimal digits. -/
theorem apostrophe_notMem_paddedHex (width n : Nat) :
    '\'' ∉ (Text.paddedHex width n).toList := by
  intro member
  have digit := Uuid.isSome_hexValue?_of_mem (Uuid.hexNumber?_paddedHex width n) member
  exact absurd digit (by decide)

/-- The text of an identifier has no apostrophe. -/
theorem Uuid.apostrophe_notMem_text (u : Uuid) : '\'' ∉ u.text.toList := by
  have hyphen : '\'' ∉ "-".toList := by decide
  have length : (Text.paddedHex 32 u.bits).toList.length = groupLengths.sum :=
    Text.length_paddedHex (by decide) u.bits_lt
  rw [text, String.toList_intercalate, mem_intercalate_iff hyphen]
  intro within
  obtain ⟨part, member, inside⟩ := within
  obtain ⟨group, groups, rfl⟩ := List.mem_map.1 (List.map_map .. ▸ member)
  rw [Function.comp_apply, String.toList_ofList] at inside
  refine apostrophe_notMem_paddedHex 32 u.bits ?_
  rw [← flatten_grouped length]
  exact List.mem_flatten_of_mem groups inside

/-- The text of a moment has no apostrophe. -/
theorem Moment.apostrophe_notMem_offsetText (m : Moment) : '\'' ∉ m.offsetText.toList := by
  have numbers : ∀ width n, '\'' ∉ (Text.padded width n).toList := fun width n =>
    (solid_padded width n).notMem
  have fraction : ∀ n, '\'' ∉ (TimeOfDay.fractionText n).toList := by
    intro n
    unfold TimeOfDay.fractionText
    split_ifs <;> simp [numbers]
  have year : ∀ y, '\'' ∉ (Date.yearText y).toList := by
    intro y
    unfold Date.yearText
    dsimp only
    split_ifs <;> simp [numbers]
  simp [offsetText, localText, Date.text, TimeOfDay.text, numbers, fraction, year]

/-! ## Documents -/

namespace Json

mutual

/-- The strings of a document and the names of its members. -/
def strings : Json → List String
  | string s => [s]
  | array items => itemStrings items
  | object members => memberStrings members
  | null | flag _ | number _ => []

/-- The strings of items. -/
def itemStrings : List Json → List String
  | [] => []
  | j :: rest => strings j ++ itemStrings rest

/-- The names and the strings of members. -/
def memberStrings : List (String × Json) → List String
  | [] => []
  | (k, j) :: rest => k :: (strings j ++ memberStrings rest)

end

/-- No escape has an apostrophe, and no apostrophe is escaped. -/
theorem apostrophe_mem_escaped (c : Char) : '\'' ∈ escaped c ↔ '\'' = c := by
  constructor
  · intro member
    unfold escaped at member
    have code := apostrophe_notMem_paddedHex 4 c.toNat
    split_ifs at member
    case neg => exact List.mem_singleton.1 member
    all_goals simp [code] at member
  · rintro rfl
    decide

/-- Escaping neither adds apostrophes to a string nor removes them. -/
theorem apostrophe_mem_stringText (s : String) :
    '\'' ∈ (stringText s).toList ↔ '\'' ∈ s.toList := by
  simp [stringText, apostrophe_mem_escaped]

/-- The text of a number in a document has no apostrophe. -/
theorem Number.apostrophe_notMem_text (n : Number) : '\'' ∉ n.text.toList := by
  cases n with
  | whole n => exact (isWord_toString_int n.val).solid.notMem
  | real x finite =>
    rw [text, doubleText.eq_def]
    split
    · decide
    · exact (Decimal.solid_compact _ _).notMem

/-- An apostrophe between brackets is one of the parts that stand there. -/
theorem apostrophe_mem_list {parts : List String} {before after : String}
    (opens : '\'' ∉ before.toList) (closes : '\'' ∉ after.toList) :
    '\'' ∈ (before ++ ",".intercalate parts ++ after).toList ↔
      ∃ part ∈ parts, '\'' ∈ part.toList := by
  have comma : '\'' ∉ ",".toList := by decide
  rw [String.toList_append, String.toList_append, String.toList_intercalate, List.mem_append,
    List.mem_append, mem_intercalate_iff comma]
  simp [opens, closes]

mutual

/-- In the text of a document the apostrophes are those of its strings and of the names of its
members. -/
theorem apostrophe_mem_text_iff :
    ∀ j : Json, '\'' ∈ j.toDoc.text.toList ↔ ∃ s ∈ j.strings, '\'' ∈ s.toList
  | null => by simp [toDoc, Doc.text, strings]
  | flag b => by cases b <;> decide
  | number n => by simp [toDoc, Doc.text, strings, n.apostrophe_notMem_text]
  | string s => by simp [toDoc, Doc.text, strings, apostrophe_mem_stringText]
  | array items => by
    rw [toDoc, Doc.text, apostrophe_mem_list (by decide) (by decide), strings]
    exact apostrophe_mem_itemTexts items
  | object members => by
    rw [toDoc, Doc.text, apostrophe_mem_list (by decide) (by decide), strings]
    exact apostrophe_mem_memberTexts members

theorem apostrophe_mem_itemTexts :
    ∀ items : List Json, (∃ t ∈ Doc.itemTexts (itemsToDoc items), '\'' ∈ t.toList) ↔
      ∃ s ∈ itemStrings items, '\'' ∈ s.toList
  | [] => by simp [itemsToDoc, Doc.itemTexts, itemStrings]
  | j :: rest => by
    simp only [itemsToDoc, Doc.itemTexts, itemStrings, List.mem_cons, List.mem_append, or_and_right,
      exists_or, exists_eq_left, apostrophe_mem_text_iff j, apostrophe_mem_itemTexts rest]

theorem apostrophe_mem_memberTexts :
    ∀ members : List (String × Json), (∃ t ∈ Doc.memberTexts (membersToDoc members),
      '\'' ∈ t.toList) ↔ ∃ s ∈ memberStrings members, '\'' ∈ s.toList
  | [] => by simp [membersToDoc, Doc.memberTexts, memberStrings]
  | (k, j) :: rest => by
    have colon : '\'' ∉ ":".toList := by decide
    simp only [membersToDoc, Doc.memberTexts, memberStrings, List.mem_cons, List.mem_append,
      or_and_right, exists_or, exists_eq_left, String.toList_append, apostrophe_mem_stringText,
      colon, or_false, or_assoc, apostrophe_mem_text_iff j, apostrophe_mem_memberTexts rest]

end

end Json

end Listing
