import Mathlib
import Listing.Parameter
import Listing.Proofs.Numerals

/-!
# The words of names

A field is described in the words of its name.  They are found in one pass over the name that only
looks at the last character written, so that underscores in a row, capitals behind underscores and
underscores at either end have to come out right without being looked for.

* `Divided` says that a text is divided in two parts at one of its characters, whatever else is
  left out of the parts;
* `Spells` is what holds of the characters written so far: they spell the name, and their blanks
  stand where the name has underscores and capitals;
* `Spells.writeWord` is one step, `spells_foldl` the whole pass;
* `toWords_wellSpaced` concludes for the words of ASCII identifiers.
-/

namespace Listing

/-! ## Names and words -/

/-- A character of ASCII identifiers. -/
def isNameChar (c : Char) : Bool := c.isAlphanum || c == '_'

/-- An underscore or a capital, where a word of a name ends. -/
def endsWord (c : Char) : Bool := c == '_' || Text.isUpper c

/-- The letters and digits of a name, capitals made small. -/
def spelling (name : List Char) : List Char := (name.filter (· != '_')).map Text.asciiLower

/-- Words without the blanks between them. -/
def unspaced (words : List Char) : List Char := words.filter (· != ' ')

/-- The text has one of the characters `cuts` behind the part that is read as `front`, and from that
character on it is read as `back`. -/
def Divided (cuts : Char → Bool) (read : List Char → List Char) (text front back : List Char) :
    Prop :=
  ∃ p c q, text = p ++ c :: q ∧ cuts c = true ∧ read p = front ∧ read (c :: q) = back

section Characters

variable {c : Char}

theorem toNat_lt_of_isNameChar (named : isNameChar c = true) : c.toNat < 128 := by
  simp only [isNameChar, Char.isAlphanum, Char.isAlpha, Char.isUpper, Char.isLower, Char.isDigit,
    Bool.or_eq_true, Bool.and_eq_true, decide_eq_true_eq, beq_iff_eq, ge_iff_le,
    UInt32.le_iff_toNat_le] at named
  rcases named with ((capital | small) | digit) | rfl
  · exact capital.2.trans_lt (by decide)
  · exact small.2.trans_lt (by decide)
  · exact digit.2.trans_lt (by decide)
  · decide

theorem lowerChar_of_isNameChar (named : isNameChar c = true) :
    Text.lowerChar c = [Text.asciiLower c] := by
  have low := toNat_lt_of_isNameChar named
  revert named
  exact Text.of_toNat_lt c low (by decide)

theorem asciiLower_of_not_endsWord (named : isNameChar c = true) (within : endsWord c = false) :
    Text.asciiLower c = c := by
  have low := toNat_lt_of_isNameChar named
  revert named within
  exact Text.of_toNat_lt c low (by decide)

theorem isBlank_of_isNameChar (named : isNameChar c = true) : Text.isBlank c = false := by
  have low := toNat_lt_of_isNameChar named
  revert named
  exact Text.of_toNat_lt c low (by decide)

/-- A capital made small is a character of names that ends no word. -/
theorem isNameChar_asciiLower (named : isNameChar c = true) (letter : c ≠ '_') :
    isNameChar (Text.asciiLower c) = true ∧ endsWord (Text.asciiLower c) = false := by
  have low := toNat_lt_of_isNameChar named
  revert named letter
  exact Text.of_toNat_lt c low (by decide)

end Characters

theorem spelling_append (front back : List Char) :
    spelling (front ++ back) = spelling front ++ spelling back := by
  simp [spelling]

/-- Words without blanks can be taken part by part. -/
theorem unspaced_append (front back : List Char) :
    unspaced (front ++ back) = unspaced front ++ unspaced back :=
  List.filter_append ..

theorem spelling_underscore : spelling ['_'] = [] := rfl

theorem spelling_letter {c : Char} (letter : c ≠ '_') : spelling [c] = [Text.asciiLower c] := by
  simp [spelling, letter]

theorem unspaced_letter {c : Char} (letter : c ≠ ' ') : unspaced [c] = [c] := by
  simp [unspaced, letter]

/-! ## Divided texts -/

section Divided

variable {cuts : Char → Bool} {read : List Char → List Char}

theorem not_divided_nil (front back : List Char) : ¬ Divided cuts read [] front back := by
  intro divided
  obtain ⟨p, c, q, whole, -⟩ := divided
  exact List.append_ne_nil_of_right_ne_nil p (List.cons_ne_nil c q) whole.symm

/-- A text with one more character is divided where it was without it, or at that character. -/
theorem divided_concat (append : ∀ xs ys, read (xs ++ ys) = read xs ++ read ys)
    {text : List Char} {c : Char} {front back : List Char} :
    Divided cuts read (text ++ [c]) front back ↔
      (∃ rest, back = rest ++ read [c] ∧ Divided cuts read text front rest) ∨
        cuts c = true ∧ front = read text ∧ back = read [c] := by
  constructor
  · intro divided
    obtain ⟨p, d, q, whole, cut, rfl, rfl⟩ := divided
    rcases List.eq_nil_or_concat q with rfl | ⟨q, last, rfl⟩
    · obtain ⟨rfl, single⟩ := List.append_inj' whole rfl
      obtain rfl := List.singleton_inj.1 single
      exact Or.inr ⟨cut, rfl, rfl⟩
    · rw [List.concat_eq_append, ← List.cons_append, ← List.append_assoc] at whole
      obtain ⟨rfl, single⟩ := List.append_inj' whole rfl
      obtain rfl := List.singleton_inj.1 single
      refine Or.inl ⟨read (d :: q), ?_, p, d, q, rfl, cut, rfl, rfl⟩
      rw [List.concat_eq_append, ← List.cons_append, append]
  · intro cases
    rcases cases with ⟨rest, rfl, p, d, q, rfl, cut, rfl, rfl⟩ | ⟨cut, rfl, rfl⟩
    · refine ⟨p, d, q ++ [c], List.append_assoc .., cut, rfl, ?_⟩
      rw [← List.cons_append, append]
    · exact ⟨text, c, [], rfl, cut, rfl, rfl⟩

end Divided

/-- In a name an underscore divides what is before it from nothing yet. -/
theorem divided_underscore {name front back : List Char} :
    Divided endsWord spelling (name ++ ['_']) front back ↔
      Divided endsWord spelling name front back ∨ front = spelling name ∧ back = [] := by
  have ends : endsWord '_' = true := by decide
  simp [divided_concat spelling_append, spelling_underscore, ends]

/-- A letter in the middle of a word of a name divides nothing. -/
theorem divided_within {name front back : List Char} {c : Char} (within : endsWord c = false) :
    Divided endsWord spelling (name ++ [c]) front back ↔
      ∃ rest, back = rest ++ spelling [c] ∧ Divided endsWord spelling name front rest := by
  simp [divided_concat spelling_append, within]

/-- Words are divided at a blank behind them. -/
theorem divided_blank {words front back : List Char} :
    Divided (· == ' ') unspaced (words ++ [' ']) front back ↔
      Divided (· == ' ') unspaced words front back ∨ front = unspaced words ∧ back = [] := by
  have left : unspaced [' '] = [] := by decide
  simp [divided_concat unspaced_append, left]

/-- Words are not divided at a letter. -/
theorem divided_letter {words front back : List Char} {c : Char} (notBlank : c ≠ ' ') :
    Divided (· == ' ') unspaced (words ++ [c]) front back ↔
      ∃ rest, back = rest ++ [c] ∧ Divided (· == ' ') unspaced words front rest := by
  simp [divided_concat unspaced_append, unspaced_letter notBlank, notBlank]

/-! ## What is written of a name -/

/-- What is written of a name, the last character first: no capital, no underscore, no blank at the
start, behind another blank or other than the plain one; the letters are those of the name; and the
blanks stand between letters where the name has an underscore or a capital between them. -/
structure Spells (name written : List Char) : Prop where
  plain : ∀ c ∈ written, endsWord c = false ∧ (Text.isBlank c = true → c = ' ')
  starts : written.getLast? ≠ some ' '
  single : written.IsChain fun c d => c = ' ' → d ≠ ' '
  letters : unspaced written.reverse = spelling name
  divided : ∀ front back, Divided (· == ' ') unspaced written.reverse front back ↔
    front ≠ [] ∧ Divided endsWord spelling name front back

namespace Spells

variable {name written : List Char} {c : Char}

theorem nil : Spells [] [] where
  plain := List.forall_mem_nil _
  starts := by simp
  single := List.isChain_nil
  letters := rfl
  divided front back := by
    simp only [List.reverse_nil, not_divided_nil, and_false]

/-- A letter goes on with the word, or begins one. -/
theorem letter (spells : Spells name written) (named : isNameChar c = true)
    (within : endsWord c = false) : Spells (name ++ [c]) (c :: written) := by
  have blank : Text.isBlank c = false := isBlank_of_isNameChar named
  have notBlank : c ≠ ' ' := by
    rintro rfl
    cases blank
  have notUnderscore : c ≠ '_' := by
    rintro rfl
    cases within
  have spelled : spelling [c] = [c] := by
    rw [spelling_letter notUnderscore, asciiLower_of_not_endsWord named within]
  constructor
  case plain =>
    refine List.forall_mem_cons.2 ⟨⟨within, fun isBlank => ?_⟩, spells.plain⟩
    rw [blank] at isBlank
    cases isBlank
  case starts =>
    cases written with
    | nil => simpa using notBlank
    | cons d written =>
      rw [List.getLast?_cons_cons]
      exact spells.starts
  case single =>
    exact List.isChain_cons.2 ⟨fun d _ isBlank => absurd isBlank notBlank, spells.single⟩
  case letters =>
    rw [List.reverse_cons, unspaced_append, unspaced_letter notBlank, spells.letters,
      spelling_append, spelled]
  case divided =>
    intro front back
    rw [List.reverse_cons, divided_letter notBlank, divided_within within, spelled]
    simp only [spells.divided]
    constructor
    · intro here
      obtain ⟨rest, rfl, some, divided⟩ := here
      exact ⟨some, rest, rfl, divided⟩
    · intro here
      obtain ⟨some, rest, rfl, divided⟩ := here
      exact ⟨rest, rfl, some, divided⟩

/-- At an underscore a word ends, unless there is none or a blank behind it already. -/
theorem underscore (spells : Spells name written) :
    Spells (name ++ ['_']) (breakWord written) := by
  have spelled : spelling (name ++ ['_']) = spelling name := by
    rw [spelling_append, spelling_underscore, List.append_nil]
  obtain ⟨plain, starts, single, letters, divided⟩ := spells
  rcases written with _ | ⟨c, written⟩
  · refine ⟨plain, starts, single, letters.trans spelled.symm, fun front back => ?_⟩
    have none : spelling name = [] := letters.symm
    rw [breakWord, divided, divided_underscore, none]
    constructor
    · intro here
      exact ⟨here.1, Or.inl here.2⟩
    · intro here
      obtain ⟨some, divided | ⟨rfl, -⟩⟩ := here
      · exact ⟨some, divided⟩
      · exact absurd rfl some
  · by_cases blank : c = ' '
    · subst blank
      rw [breakWord, if_pos rfl]
      refine ⟨plain, starts, single, letters.trans spelled.symm, fun front back => ?_⟩
      -- The blank that is there already stands for the underscore as well.
      have last := divided (spelling name) []
      have ends : Divided (· == ' ') unspaced (' ' :: written).reverse (spelling name) [] := by
        rw [List.reverse_cons, divided_blank, ← letters, List.reverse_cons, unspaced_append]
        exact Or.inr ⟨by simp [unspaced], rfl⟩
      rw [divided, divided_underscore]
      constructor
      · intro here
        exact ⟨here.1, Or.inl here.2⟩
      · intro here
        obtain ⟨some, divided | ⟨rfl, rfl⟩⟩ := here
        · exact ⟨some, divided⟩
        · exact last.1 ends
    · have broken : breakWord (c :: written) = ' ' :: c :: written := if_neg blank
      rw [broken]
      constructor
      case plain => exact List.forall_mem_cons.2 ⟨by decide, plain⟩
      case starts => rwa [List.getLast?_cons_cons]
      case single =>
        refine List.isChain_cons.2 ⟨fun d head _ => ?_, single⟩
        obtain rfl := Option.some.inj head
        exact blank
      case letters =>
        rw [List.reverse_cons, unspaced_append, letters, spelled]
        exact List.append_nil _
      case divided =>
        intro front back
        have some : unspaced (c :: written).reverse ≠ [] := by
          rw [List.reverse_cons, unspaced_append, unspaced_letter blank]
          exact List.append_ne_nil_of_right_ne_nil _ (List.cons_ne_nil _ _)
        rw [List.reverse_cons, divided_blank, divided, divided_underscore, ← letters]
        constructor
        · intro here
          rcases here with ⟨before, divided⟩ | ⟨rfl, rfl⟩
          · exact ⟨before, Or.inl divided⟩
          · exact ⟨some, Or.inr ⟨rfl, rfl⟩⟩
        · intro here
          obtain ⟨before, divided | last⟩ := here
          · exact Or.inl ⟨before, divided⟩
          · exact Or.inr last

/-- A capital counts as an underscore and the small letter behind it. -/
theorem capital (spells : Spells name written) (named : isNameChar c = true)
    (letter : c ≠ '_') (ends : endsWord c = true) :
    Spells (name ++ [c]) (Text.asciiLower c :: breakWord written) := by
  obtain ⟨named', within⟩ := isNameChar_asciiLower named letter
  have notUnderscore : Text.asciiLower c ≠ '_' := by
    intro same
    rw [same] at within
    cases within
  have spelled : spelling [Text.asciiLower c] = spelling [c] := by
    rw [spelling_letter notUnderscore, spelling_letter letter,
      asciiLower_of_not_endsWord named' within]
  obtain ⟨plain, starts, single, letters, divided⟩ := spells.underscore.letter named' within
  refine ⟨plain, starts, single, ?_, fun front back => ?_⟩
  · rw [letters, spelling_append, spelling_append, spelled, spelling_underscore, List.append_nil,
      spelling_append]
  · rw [divided, divided_within within, divided_concat spelling_append, spelled, ends]
    simp only [divided_underscore, true_and]
    refine and_congr_right fun _ => ?_
    constructor
    · intro here
      obtain ⟨rest, rfl, divided | ⟨rfl, rfl⟩⟩ := here
      · exact Or.inl ⟨rest, rfl, divided⟩
      · exact Or.inr ⟨rfl, rfl⟩
    · intro here
      rcases here with ⟨rest, rfl, divided⟩ | ⟨rfl, rfl⟩
      · exact ⟨rest, rfl, Or.inl divided⟩
      · exact ⟨[], rfl, Or.inr ⟨rfl, rfl⟩⟩

/-- One character of a name, whichever it is. -/
theorem writeWord (spells : Spells name written) (named : isNameChar c = true) :
    Spells (name ++ [c]) (writeWord written c) := by
  unfold Listing.writeWord
  split
  · rename_i underscore
    subst underscore
    exact spells.underscore
  · rename_i letter
    split
    · rename_i upper
      rw [lowerChar_of_isNameChar named]
      exact spells.capital named letter (by simp [endsWord, upper])
    · rename_i notUpper
      exact spells.letter named (by simp [endsWord, letter, notUpper])

end Spells

/-- What is written of a whole name spells it. -/
theorem spells_foldl {name : List Char} (ascii : ∀ c ∈ name, isNameChar c = true) :
    Spells name (name.foldl writeWord []) := by
  induction name using List.reverseRecOn with
  | nil => exact Spells.nil
  | append_singleton name c ih =>
    obtain ⟨before, last⟩ := List.forall_mem_append.1 ascii
    rw [List.foldl_append, List.foldl_cons, List.foldl_nil]
    exact (ih before).writeWord (last c List.mem_cons_self)

/-! ## Words -/

/-- At most one blank is cut off at the end. -/
theorem Spells.dropWhile {name written : List Char} (spells : Spells name written) :
    ∃ kept, written.dropWhile Text.isBlank = kept ∧ kept.head? ≠ some ' ' ∧
      (written = kept ∨ written = ' ' :: kept) := by
  obtain ⟨plain, -, single, -, -⟩ := spells
  have stays : ∀ {kept : List Char}, (∀ c ∈ kept, Text.isBlank c = true → c = ' ') →
      kept.head? ≠ some ' ' → kept.dropWhile Text.isBlank = kept := by
    intro kept only letter
    rcases kept with _ | ⟨c, kept⟩
    · rfl
    · refine List.dropWhile_cons_of_neg fun blank => letter ?_
      rw [List.head?_cons, only c List.mem_cons_self blank]
  rcases written with _ | ⟨c, written⟩
  · exact ⟨[], rfl, by simp, Or.inl rfl⟩
  · by_cases blank : c = ' '
    · subst blank
      have letter : written.head? ≠ some ' ' := fun head =>
        (List.isChain_cons.1 single).1 ' ' head rfl rfl
      refine ⟨written, ?_, letter, Or.inr rfl⟩
      rw [List.dropWhile_cons_of_pos (by decide)]
      exact stays (fun c member => (plain c (List.mem_cons_of_mem _ member)).2) letter
    · have letter : (c :: written).head? ≠ some ' ' := fun head => blank (Option.some.inj head)
      exact ⟨c :: written, stays (fun c member => (plain c member).2) letter, letter, Or.inl rfl⟩

/-- Words that spell a name: there are no capitals, no underscores and no blanks but plain ones,
none of them at an end or beside another; without the blanks the words are the name without
underscores in small letters; and a blank stands between two letters exactly where the name has an
underscore or a capital between them, the capital being the later of the two. -/
structure WellSpaced (name words : List Char) : Prop where
  plain : ∀ c ∈ words, c ≠ '_' ∧ Text.isUpper c = false ∧ (Text.isBlank c = true → c = ' ')
  starts : words.head? ≠ some ' '
  ends : words.getLast? ≠ some ' '
  single : ¬ [' ', ' '] <:+: words
  letters : unspaced words = spelling name
  divided : ∀ front back, Divided (· == ' ') unspaced words front back ↔
    front ≠ [] ∧ back ≠ [] ∧ Divided endsWord spelling name front back

/-- Behind the last blank of words there is a letter. -/
theorem ne_nil_of_divided {words front back : List Char} (ends : words.getLast? ≠ some ' ')
    (divided : Divided (· == ' ') unspaced words front back) : back ≠ [] := by
  rcases List.eq_nil_or_concat words with rfl | ⟨words, last, rfl⟩
  · exact absurd divided (not_divided_nil front back)
  · rw [List.concat_eq_append, List.getLast?_concat] at ends
    rw [List.concat_eq_append, divided_letter fun blank => ends (congrArg some blank)] at divided
    obtain ⟨rest, rfl, -⟩ := divided
    exact List.append_ne_nil_of_right_ne_nil _ (List.cons_ne_nil _ _)

/-- Cutting the blanks off behind what is written leaves well-spaced words. -/
theorem Spells.wellSpaced {name written : List Char} (spells : Spells name written) :
    WellSpaced name (written.dropWhile Text.isBlank).reverse := by
  obtain ⟨kept, cut, letter, written_eq⟩ := spells.dropWhile
  obtain ⟨plain, starts, single, letters, divided⟩ := spells
  rw [cut]
  have ends : kept.reverse.getLast? ≠ some ' ' := by rwa [List.getLast?_reverse]
  have suffix : kept <:+ written := by
    rcases written_eq with rfl | rfl
    · exact List.suffix_rfl
    · exact List.suffix_cons ..
  constructor
  case plain =>
    intro c member
    obtain ⟨within, blank⟩ := plain c (suffix.subset (List.mem_reverse.1 member))
    simp only [endsWord, Bool.or_eq_false_iff, beq_eq_false_iff_ne] at within
    exact ⟨within.1, within.2, blank⟩
  case starts =>
    rw [List.head?_reverse]
    intro last
    refine starts ?_
    rcases written_eq with rfl | rfl
    · exact last
    · rw [List.getLast?_cons, last]
      rfl
  case ends => exact ends
  case single =>
    intro twice
    have turned : [' ', ' '].reverse <:+: kept.reverse := twice
    have within : [' ', ' '] <:+: written := (List.reverse_infix.1 turned).trans suffix.isInfix
    have apart := single.infix within
    exact (List.isChain_cons_cons.1 apart).1 rfl rfl
  case letters =>
    rcases written_eq with rfl | rfl
    · exact letters
    · rw [← letters, List.reverse_cons, unspaced_append]
      exact (List.append_nil _).symm
  case divided =>
    intro front back
    rw [and_left_comm, ← divided]
    rcases written_eq with rfl | rfl
    · exact ⟨fun here => ⟨ne_nil_of_divided ends here, here⟩, And.right⟩
    · rw [List.reverse_cons, divided_blank]
      constructor
      · intro here
        exact ⟨ne_nil_of_divided ends here, Or.inl here⟩
      · intro here
        obtain ⟨some, divided | ⟨-, rfl⟩⟩ := here
        · exact divided
        · exact absurd rfl some

/-- The words of a name are written from the back, one character at a time, and trimmed. -/
theorem toList_toWords (name : String) :
    (toWords name).toList = ((name.toList.foldl writeWord []).dropWhile Text.isBlank).reverse := by
  simp [toWords, Text.trimEnd, Text.trimRight]

/-- Where no word ends, everything is written as it is. -/
theorem foldl_writeWord_of_plain {cs : List Char} (written : List Char)
    (plain : ∀ c ∈ cs, c ≠ '_' ∧ Text.isUpper c = false) :
    cs.foldl writeWord written = cs.reverse ++ written := by
  induction cs generalizing written with
  | nil => rfl
  | cons c cs ih =>
    obtain ⟨⟨notUnderscore, notUpper⟩, later⟩ := List.forall_mem_cons.1 plain
    have step : writeWord written c = c :: written := by
      rw [writeWord, if_neg notUnderscore, if_neg (ne_true_of_eq_false notUpper)]
    rw [List.foldl_cons, step, ih _ later, List.reverse_cons, List.append_assoc]
    rfl

/-- Well-spaced words are their own words. -/
theorem WellSpaced.toWords_eq {name : List Char} {words : String}
    (spaced : WellSpaced name words.toList) : toWords words = words := by
  have written : words.toList.foldl writeWord [] = words.toList.reverse := by
    rw [foldl_writeWord_of_plain [] fun c member => ⟨(spaced.plain c member).1,
      (spaced.plain c member).2.1⟩, List.append_nil]
  have kept : words.toList.reverse.dropWhile Text.isBlank = words.toList.reverse := by
    refine List.dropWhile_eq_self_iff.2 fun some blank => spaced.ends ?_
    have member := List.head_mem (List.ne_nil_of_length_pos some)
    rw [← List.head?_reverse, List.head?_eq_some_head (List.ne_nil_of_length_pos some)]
    rw [List.getElem_zero] at blank
    rw [(spaced.plain _ (List.mem_reverse.1 member)).2.2 blank]
  rw [← String.toList_inj, toList_toWords, written, kept, List.reverse_reverse]

/-- **The words of an identifier are clean and lose no letter.**  They are well spaced, with a blank
wherever the name has an underscore or a capital between two letters and nowhere else, and to look
for words in them finds them again. -/
theorem toWords_wellSpaced (name : String) (ascii : ∀ c ∈ name.toList, isNameChar c = true) :
    WellSpaced name.toList (toWords name).toList ∧ toWords (toWords name) = toWords name := by
  have spaced : WellSpaced name.toList (toWords name).toList := by
    rw [toList_toWords]
    exact (spells_foldl ascii).wellSpaced
  exact ⟨spaced, spaced.toWords_eq⟩

/-- Underscores at the ends and in a row, and a row of capitals. -/
theorem toWords_createdAtUTC :
    (∀ c ∈ "__createdAt__UTC_".toList, isNameChar c = true) ∧
      toWords "__createdAt__UTC_" = "created at u t c" ∧
      WellSpaced "__createdAt__UTC_".toList "created at u t c".toList ∧
      toWords "created at u t c" = "created at u t c" := by
  have ascii : ∀ c ∈ "__createdAt__UTC_".toList, isNameChar c = true :=
    List.all_eq_true.1 (by decide)
  have words : toWords "__createdAt__UTC_" = "created at u t c" := by decide
  have spaced := toWords_wellSpaced "__createdAt__UTC_" ascii
  rw [words] at spaced
  exact ⟨ascii, words, spaced⟩

end Listing
