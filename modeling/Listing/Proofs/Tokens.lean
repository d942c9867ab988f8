import Mathlib
import Listing.Proofs.Statement

/-!
# The parts of a statement

A database reads a statement from left to right and takes it apart: texts between quotes, marks of
punctuation, and words, which are everything else between blanks.  A quote that stands twice inside
quotes is part of the text, so whether a quote ends a text is known one character later.  The quote
is a parameter; values stand between apostrophes and names between the quotes of a dialect.

* `Sql.tokens` is this reading, and `Sql.quotedTexts` the texts between quotes that it finds;
* `Sql.tokens_enclosed_append` finds an enclosed text again, whatever quotes are in it;
* `Sql.tokens_word_append` finds a word again;
* `Sql.count_of_tokens` says where all the quotes of a statement are.
-/

namespace Listing.Sql

/-- A part of a statement. -/
inductive Token where
  /-- A text between quotes, with those inside it written once. -/
  | quoted (s : String)
  | word (s : String)
  | mark (c : Char)
  deriving DecidableEq

/-- A mark of punctuation. -/
def isMark (c : Char) : Bool := c == '(' || c == ')' || c == ','

/-- A character that goes on with a word. -/
def isWordChar (quote c : Char) : Bool := c != quote && c != ' ' && !isMark c

/-- What a reader is in, with the characters read of it, the last one first. -/
inductive Reader where
  | between
  | inWord (read : List Char)
  | inQuotes (read : List Char)
  /-- Behind a quote inside quotes, which ends the text unless another one follows. -/
  | behindQuote (read : List Char)

namespace Reader

/-- The parts that are complete when the statement ends; it does not end inside quotes. -/
def ended : Reader → Option (List Token)
  | between => some []
  | inWord read => some [.word (String.ofList read.reverse)]
  | inQuotes _ => none
  | behindQuote read => some [.quoted (String.ofList read.reverse)]

/-- The parts that a character completes between others, and what it begins. -/
def start (quote c : Char) : List Token × Reader :=
  if c = quote then ([], inQuotes [])
  else if c = ' ' then ([], between)
  else if isMark c then ([.mark c], between)
  else ([], inWord [c])

/-- The parts that a character completes, and what the reader is in behind it. -/
def next (quote : Char) : Reader → Char → List Token × Reader
  | between, c => start quote c
  | inWord read, c =>
    if isWordChar quote c then ([], inWord (c :: read))
    else (.word (String.ofList read.reverse) :: (start quote c).1, (start quote c).2)
  | inQuotes read, c => ([], if c = quote then behindQuote read else inQuotes (c :: read))
  | behindQuote read, c =>
    if c = quote then ([], inQuotes (c :: read))
    else (.quoted (String.ofList read.reverse) :: (start quote c).1, (start quote c).2)

end Reader

/-- The parts of a text, unless it ends inside quotes. -/
def tokens (quote : Char) : Reader → List Char → Option (List Token)
  | r, [] => r.ended
  | r, c :: cs => (tokens quote (r.next quote c).2 cs).map ((r.next quote c).1 ++ ·)

section Reading

variable {quote : Char} {rest : List Char}

/-- A part that the next character does not go on with is complete. -/
theorem tokens_of_stop {r : Reader} {ts : List Token} (ended : r.ended = some ts)
    (stops : ∀ c ∈ rest.head?,
      r.next quote c = (ts ++ (Reader.start quote c).1, (Reader.start quote c).2)) :
    tokens quote r rest = (tokens quote .between rest).map (ts ++ ·) := by
  cases rest with
  | nil =>
    rw [tokens, tokens, ended]
    simp [Reader.ended]
  | cons c rest =>
    rw [tokens, tokens, stops c rfl, Reader.next, Option.map_map]
    simp only [Function.comp_def, List.append_assoc]

/-- Inside quotes a text is read up to the quote that ends it. -/
theorem tokens_doubled (cs read : List Char) :
    tokens quote (.inQuotes read) (Text.doubled quote cs ++ quote :: rest) =
      tokens quote (.behindQuote (cs.reverse ++ read)) rest := by
  induction cs generalizing read with
  | nil => simp [Text.doubled, tokens, Reader.next]
  | cons c cs ih =>
    rw [List.reverse_cons, List.append_assoc, List.singleton_append, ← ih (c :: read)]
    by_cases h : c = quote
    · subst h
      rw [Text.doubled_cons_self]
      simp [tokens, Reader.next]
    · rw [Text.doubled_cons_of_ne h]
      simp [tokens, Reader.next, h]

/-- A text between quotes is found as it is, unless one more quote follows it. -/
theorem tokens_enclosed_append (s : String) (ends : rest.head? ≠ some quote) :
    tokens quote .between ((Text.enclosed quote s).toList ++ rest) =
      (tokens quote .between rest).map (.quoted s :: ·) := by
  have opened : tokens quote .between ((Text.enclosed quote s).toList ++ rest) =
      tokens quote (.inQuotes []) (Text.doubled quote s.toList ++ quote :: rest) := by
    simp [Text.enclosed, tokens, Reader.next, Reader.start]
  have ended : (Reader.behindQuote s.toList.reverse).ended = some [.quoted s] := by
    simp [Reader.ended]
  rw [opened, tokens_doubled, List.append_nil]
  refine tokens_of_stop ended fun c head => ?_
  have other : c ≠ quote := by
    rintro rfl
    exact ends head
  simp [Reader.next, other]

/-- The text could be part of a word: no character of it ends one. -/
def Solid (quote : Char) (cs : List Char) : Prop := ∀ c ∈ cs, isWordChar quote c = true

/-- The text is a word, with something in it. -/
structure IsWord (quote : Char) (w : String) : Prop where
  some : w ≠ ""
  solid : Solid quote w.toList

theorem start_of_isWordChar {c : Char} (plain : isWordChar quote c = true) :
    Reader.start quote c = ([], .inWord [c]) := by
  simp only [isWordChar, Bool.and_eq_true, bne_iff_ne, Bool.not_eq_true'] at plain
  obtain ⟨⟨notQuote, notBlank⟩, notMark⟩ := plain
  rw [Reader.start, if_neg notQuote, if_neg notBlank, if_neg (ne_true_of_eq_false notMark)]

theorem tokens_inWord_append {cs : List Char} (read : List Char)
    (solid : Solid quote cs) :
    tokens quote (.inWord read) (cs ++ rest) =
      tokens quote (.inWord (cs.reverse ++ read)) rest := by
  induction cs generalizing read with
  | nil => rfl
  | cons c cs ih =>
    obtain ⟨first, later⟩ := List.forall_mem_cons.1 solid
    rw [List.cons_append, tokens, Reader.next, if_pos first, ih _ later]
    simp

/-- A word is found as it is, if what follows does not go on with it. -/
theorem tokens_word_append {w : String} (word : IsWord quote w)
    (ends : ∀ c ∈ rest.head?, isWordChar quote c = false) :
    tokens quote .between (w.toList ++ rest) =
      (tokens quote .between rest).map (.word w :: ·) := by
  obtain ⟨some, solid⟩ := word
  obtain ⟨c, cs, written⟩ := List.exists_cons_of_ne_nil (mt String.toList_eq_nil_iff.1 some)
  rw [written] at solid
  obtain ⟨first, later⟩ := List.forall_mem_cons.1 solid
  have opened : tokens quote .between (w.toList ++ rest) =
      tokens quote (.inWord w.toList.reverse) rest := by
    rw [written, List.cons_append, tokens, Reader.next, start_of_isWordChar first,
      tokens_inWord_append [c] later]
    simp
  have ended : (Reader.inWord w.toList.reverse).ended = Option.some [.word w] := by
    simp [Reader.ended]
  rw [opened]
  refine tokens_of_stop ended fun c head => ?_
  rw [Reader.next, if_neg (ne_true_of_eq_false (ends c head))]
  simp

/-! ## Quotes -/

/-- How many quotes a part is written with. -/
def Token.quotes (quote : Char) : Token → Nat
  | quoted s => 2 + 2 * s.toList.count quote
  | word _ | mark _ => 0

/-- How many quotes parts are written with. -/
def quotesIn (quote : Char) (ts : List Token) : Nat := (ts.map (·.quotes quote)).sum

theorem quotesIn_cons (t : Token) (ts : List Token) :
    quotesIn quote (t :: ts) = t.quotes quote + quotesIn quote ts :=
  rfl

/-- The quotes of parts are counted one part after the other. -/
theorem quotesIn_append (ts ts' : List Token) :
    quotesIn quote (ts ++ ts') = quotesIn quote ts + quotesIn quote ts' := by
  simp [quotesIn]

/-- How many quotes have been read of a part that is not complete. -/
def Reader.quotes (quote : Char) : Reader → Nat
  | inQuotes read => 1 + 2 * read.count quote
  | behindQuote read => 2 + 2 * read.count quote
  | between | inWord _ => 0

theorem quotes_start (c : Char) :
    quotesIn quote (Reader.start quote c).1 + (Reader.start quote c).2.quotes quote =
      if c = quote then 1 else 0 := by
  unfold Reader.start
  split_ifs <;> rfl

/-- Every character that is read counts in what it completes or in what is not complete. -/
theorem quotes_next (r : Reader) (c : Char) :
    quotesIn quote (r.next quote c).1 + (r.next quote c).2.quotes quote =
      r.quotes quote + if c = quote then 1 else 0 := by
  have started := @quotes_start quote c
  cases r with
  | between => rw [Reader.next, started, Reader.quotes, Nat.zero_add]
  | inWord read =>
    by_cases plain : isWordChar quote c = true
    · have other : c ≠ quote := by
        rintro rfl
        simp [isWordChar] at plain
      rw [Reader.next, if_pos plain, if_neg other]
      rfl
    · rw [Reader.next, if_neg plain, quotesIn_cons, Token.quotes, Nat.zero_add, started,
        Reader.quotes, Nat.zero_add]
  | inQuotes read =>
    by_cases h : c = quote
    · subst h
      simp only [Reader.next, if_pos, Reader.quotes, quotesIn, List.map_nil, List.sum_nil]
      omega
    · simp [Reader.next, Reader.quotes, quotesIn, h]
  | behindQuote read =>
    by_cases h : c = quote
    · subst h
      simp only [Reader.next, if_pos, Reader.quotes, quotesIn, List.map_nil, List.sum_nil,
        List.count_cons_self]
      omega
    · rw [Reader.next, if_neg h, quotesIn_cons, Nat.add_assoc, started, Token.quotes,
        String.toList_ofList, List.count_reverse, Reader.quotes]

/-- The quotes of a text are around its quoted parts and, written twice, inside them. -/
theorem count_of_tokens {r : Reader} {cs : List Char} {ts : List Token}
    (ok : tokens quote r cs = some ts) :
    r.quotes quote + cs.count quote = quotesIn quote ts := by
  induction cs generalizing r ts with
  | nil =>
    cases r with
    | inQuotes read => cases ok
    | between | inWord read | behindQuote read =>
      obtain rfl := Option.some.inj ok
      simp [Reader.quotes, Token.quotes, quotesIn]
  | cons c cs ih =>
    obtain ⟨later, read, rfl⟩ := Option.map_eq_some_iff.1 ok
    have rest := ih read
    have step := @quotes_next quote r c
    rw [quotesIn_append, ← rest, List.count_cons]
    simp only [beq_iff_eq]
    omega

/-! ## Quoted texts -/

/-- The text of a quoted part. -/
def Token.quoted? : Token → Option String
  | quoted s => some s
  | word _ | mark _ => none

/-- The texts between quotes, from left to right. -/
def quotedTexts (quote : Char) (r : Reader) (cs : List Char) : Option (List String) :=
  (tokens quote r cs).map (·.filterMap Token.quoted?)

/-- One character more hands out the quoted texts that it completes. -/
theorem quotedTexts_cons (r : Reader) (c : Char) (cs : List Char) :
    quotedTexts quote r (c :: cs) =
      (quotedTexts quote (r.next quote c).2 cs).map
        ((r.next quote c).1.filterMap Token.quoted? ++ ·) := by
  simp only [quotedTexts, tokens, Option.map_map, Function.comp_def, List.filterMap_append]

/-- A word that is not complete brings no quoted text. -/
theorem quotedTexts_inWord (read cs : List Char) :
    quotedTexts quote (.inWord read) cs = quotedTexts quote .between cs := by
  induction cs generalizing read with
  | nil => rfl
  | cons c cs ih =>
    rw [quotedTexts_cons, quotedTexts_cons, Reader.next, Reader.next]
    split
    · rename_i plain
      rw [start_of_isWordChar plain, ih, ih]
    · rfl

theorem quotedTexts_cons_of_ne {c : Char} (other : c ≠ quote) (cs : List Char) :
    quotedTexts quote .between (c :: cs) = quotedTexts quote .between cs := by
  rw [quotedTexts_cons, Reader.next, Reader.start, if_neg other]
  split_ifs
  · exact Option.map_id'
  · exact Option.map_id'
  · rw [quotedTexts_inWord]
    exact Option.map_id'

/-- A text without quotes brings no quoted text. -/
theorem quotedTexts_append {cs : List Char} (none : quote ∉ cs) :
    quotedTexts quote .between (cs ++ rest) = quotedTexts quote .between rest := by
  induction cs with
  | nil => rfl
  | cons c cs ih =>
    rw [List.mem_cons, not_or] at none
    rw [List.cons_append, quotedTexts_cons_of_ne (Ne.symm none.1), ih none.2]

/-- An enclosed text is read as itself, unless a quote follows. -/
theorem quotedTexts_enclosed_append (s : String) (ends : rest.head? ≠ some quote) :
    quotedTexts quote .between ((Text.enclosed quote s).toList ++ rest) =
      (quotedTexts quote .between rest).map (s :: ·) := by
  rw [quotedTexts, quotedTexts, tokens_enclosed_append s ends, Option.map_map, Option.map_map]
  rfl

end Reading

end Listing.Sql
