import Mathlib
import Listing.Proofs.Apostrophes
import Listing.Proofs.Literals

/-!
# Displayed values

A value is displayed as a literal of a statement, and read as one again: numbers, truth values and
null are bare words, and everything else but a list stands between apostrophes.  Texts and names of
choices have their own apostrophes doubled, and identifiers and moments have none.  Documents may
have some in their strings and in the names of their members, where they are not doubled, and those
are what the law depends on.

* `Value.literal` is the literal that a value is, and `Value.documents` the documents in it;
* `Value.tokens_display_append` takes a displayed value apart, if its documents have no apostrophes;
* `Value.count_display` counts the apostrophes of a displayed value, whatever its documents;
* `Value.read_display_iff` concludes which values are read again as they are.
-/

namespace Listing

open Sql (IsWord isMark isWordChar quotesIn quotesIn_append quotesIn_cons)

/-! ## Texts between apostrophes -/

namespace Text

/-- A text without quotes has none to be doubled. -/
theorem doubled_eq_self {quote : Char} {cs : List Char} (none : quote ∉ cs) :
    doubled quote cs = cs := by
  induction cs with
  | nil => rfl
  | cons c cs ih =>
    rw [List.mem_cons, not_or] at none
    rw [doubled_cons_of_ne (Ne.symm none.1), ih none.2]

/-- A text without apostrophes is written between them as it is. -/
theorem enclosed_eq_append {s : String} (none : '\'' ∉ s.toList) :
    enclosed '\'' s = "'" ++ s ++ "'" := by
  apply String.toList_inj.1
  simp [enclosed, doubled_eq_self none]

/-- Every quote is written twice. -/
theorem count_doubled (quote : Char) (cs : List Char) :
    (doubled quote cs).count quote = 2 * cs.count quote := by
  induction cs with
  | nil => rfl
  | cons c cs ih =>
    by_cases h : c = quote
    · subst h
      rw [doubled_cons_self, List.count_cons_self, List.count_cons_self, List.count_cons_self, ih]
      omega
    · rw [doubled_cons_of_ne h, List.count_cons_of_ne h, List.count_cons_of_ne h, ih]

end Text

/-! ## Marks and blanks -/

namespace Sql

variable {c : Char} {rest : List Char}

theorem isWordChar_of_isMark (mark : isMark c = true) : isWordChar '\'' c = false := by
  simp [isWordChar, mark]

theorem ne_apostrophe_of_isMark (mark : isMark c = true) : c ≠ '\'' := by
  rintro rfl
  cases mark

/-- A mark is a part of its own. -/
theorem tokens_mark (mark : isMark c = true) :
    tokens '\'' .between (c :: rest) = (tokens '\'' .between rest).map (.mark c :: ·) := by
  have notBlank : c ≠ ' ' := by
    rintro rfl
    cases mark
  rw [tokens, Reader.next, Reader.start, if_neg (ne_apostrophe_of_isMark mark), if_neg notBlank,
    if_pos mark]
  rfl

theorem tokens_blank : tokens '\'' .between (' ' :: rest) = tokens '\'' .between rest :=
  Option.map_id'

end Sql

namespace Value

/-! ## The literal of a value -/

mutual

/-- The literal that a value is. -/
def literal : Value → Literal
  | text s | choice s => .quoted s
  | integer n => .bare (toString n.val)
  | real x => .bare (doubleText x)
  | flag b => .bare (toString b)
  | uuid u => .quoted u.text
  | instant m => .quoted m.offsetText
  | list items => .list (literals items)
  | null => .bare "NULL"
  | document j => .quoted j.text

/-- The literals of items. -/
def literals : List Value → List Literal
  | [] => []
  | v :: rest => literal v :: literals rest

end

mutual

/-- The documents of a value, those of the items of its lists among them. -/
def documents : Value → List Json
  | document j => [j]
  | list items => itemDocuments items
  | text _ | integer _ | real _ | flag _ | uuid _ | instant _ | choice _ | null => []

/-- The documents of items. -/
def itemDocuments : List Value → List Json
  | [] => []
  | v :: rest => documents v ++ itemDocuments rest

end

/-! ## Lists -/

/-- The text of a list behind one of its items. -/
def furtherText : List Value → List Char
  | [] => [')']
  | v :: vs => ',' :: ' ' :: (v.display.toList ++ furtherText vs)

/-- A list is written as its first item and the further ones, in brackets. -/
theorem toList_display_list (v : Value) (vs : List Value) :
    (list (v :: vs)).display.toList = '(' :: (v.display.toList ++ furtherText vs) := by
  have later : ∀ (v : Value) (vs : List Value),
      (", ".intercalate (displayAll (v :: vs)) ++ ")").toList =
        v.display.toList ++ furtherText vs := by
    intro v vs
    induction vs generalizing v with
    | nil => simp [displayAll, furtherText]
    | cons next vs ih =>
      have behind := ih next
      rw [displayAll] at behind ⊢
      rw [displayAll, String.intercalate_cons_cons, furtherText, ← behind]
      simp [String.toList_append]
  rw [display, String.append_assoc, String.toList_append, later]
  rfl

/-- Behind an item a mark follows, which goes on with no word and no quoted text. -/
theorem isMark_head?_furtherText (vs : List Value) (rest : List Char) :
    ∀ c ∈ (furtherText vs ++ rest).head?, isMark c = true := by
  rintro c head
  cases vs with
  | nil =>
    obtain rfl := Option.some.inj head
    decide
  | cons v vs =>
    obtain rfl := Option.some.inj head
    decide

/-! ## The parts of a displayed value -/

theorem isWord_toString_flag (b : Bool) : IsWord '\'' (toString b) := by
  cases b with
  | false => exact ⟨by decide, Sql.solid_of_all (by decide)⟩
  | true => exact ⟨by decide, Sql.solid_of_all (by decide)⟩

theorem isWord_null : IsWord '\'' "NULL" := ⟨by decide, Sql.solid_of_all (by decide)⟩

section Parts

variable {rest : List Char} (ends : ∀ c ∈ rest.head?, isMark c = true)

include ends

/-- A word that ends where a mark follows is one part. -/
theorem tokens_word {w : String} (word : IsWord '\'' w) :
    Sql.tokens '\'' .between (w.toList ++ rest) =
      (Sql.tokens '\'' .between rest).map ((Literal.bare w).tokens ++ ·) :=
  Sql.tokens_word_append word fun c head => Sql.isWordChar_of_isMark (ends c head)

/-- A text between apostrophes is one part, whatever is in it. -/
theorem tokens_enclosed (s : String) :
    Sql.tokens '\'' .between ((Text.enclosed '\'' s).toList ++ rest) =
      (Sql.tokens '\'' .between rest).map ((Literal.quoted s).tokens ++ ·) :=
  Sql.tokens_enclosed_append s fun head => Sql.ne_apostrophe_of_isMark (ends _ head) rfl

/-- A text without apostrophes need not be changed between them. -/
theorem tokens_plain {s : String} (none : '\'' ∉ s.toList) :
    Sql.tokens '\'' .between (("'" ++ s ++ "'").toList ++ rest) =
      (Sql.tokens '\'' .between rest).map ((Literal.quoted s).tokens ++ ·) := by
  rw [← Text.enclosed_eq_append none]
  exact tokens_enclosed ends s

end Parts

mutual

/-- The parts of a displayed value are those of its literal, as long as its documents have no
apostrophes. -/
theorem tokens_display_append {rest : List Char} (ends : ∀ c ∈ rest.head?, isMark c = true) :
    ∀ v : Value, (∀ j ∈ v.documents, '\'' ∉ j.text.toList) →
      Sql.tokens '\'' .between (v.display.toList ++ rest) =
        (Sql.tokens '\'' .between rest).map (v.literal.tokens ++ ·)
  | text s, _ | choice s, _ => tokens_enclosed ends s
  | integer n, _ => tokens_word ends (isWord_toString_int n.val)
  | real x, _ => tokens_word ends (isWord_doubleText x)
  | flag b, _ => tokens_word ends (isWord_toString_flag b)
  | uuid u, _ => tokens_plain ends u.apostrophe_notMem_text
  | instant m, _ => tokens_plain ends m.apostrophe_notMem_offsetText
  | null, _ => tokens_word ends isWord_null
  | document j, free => tokens_plain ends (free j (List.mem_singleton_self j))
  | list [], _ => by
    change Sql.tokens '\'' .between ('(' :: ')' :: rest) = _
    rw [Sql.tokens_mark (by decide), Sql.tokens_mark (by decide), Option.map_map]
    rfl
  | list (v :: vs), free => by
    obtain ⟨first, later⟩ := List.forall_mem_append.1 free
    rw [toList_display_list, List.cons_append, List.append_assoc, Sql.tokens_mark (by decide),
      tokens_display_append (isMark_head?_furtherText vs rest) v first,
      tokens_furtherText_append rest vs later, Option.map_map, Option.map_map, literal, literals,
      Literal.tokens, Literal.itemTokens]
    simp only [Function.comp_def, List.cons_append, List.append_assoc]

/-- The further items of a list are read as further literals, by induction on them. -/
theorem tokens_furtherText_append (rest : List Char) :
    ∀ vs : List Value, (∀ j ∈ itemDocuments vs, '\'' ∉ j.text.toList) →
      Sql.tokens '\'' .between (furtherText vs ++ rest) =
        (Sql.tokens '\'' .between rest).map (Literal.furtherTokens (literals vs) ++ ·)
  | [], _ => Sql.tokens_mark (by decide)
  | v :: vs, free => by
    obtain ⟨first, later⟩ := List.forall_mem_append.1 free
    rw [furtherText, List.cons_append, List.cons_append, List.append_assoc,
      Sql.tokens_mark (by decide), Sql.tokens_blank,
      tokens_display_append (isMark_head?_furtherText vs rest) v first,
      tokens_furtherText_append rest vs later, Option.map_map, Option.map_map, literals,
      Literal.furtherTokens]
    simp only [Function.comp_def, List.cons_append, List.append_assoc]

end

/-! ## The apostrophes of a displayed value -/

/-- How many apostrophes the texts of documents have. -/
def apostrophes (js : List Json) : Nat := (js.map (·.text.toList.count '\'')).sum

theorem apostrophes_append (js js' : List Json) :
    apostrophes (js ++ js') = apostrophes js + apostrophes js' := by
  simp [apostrophes]

theorem count_between (cs : List Char) :
    ('\'' :: cs ++ ['\'']).count '\'' = 2 + cs.count '\'' := by
  rw [List.count_append, List.count_cons_self, List.count_singleton_self]
  omega

/-- A text between apostrophes has as many of them as it is written with. -/
theorem count_enclosed (s : String) :
    (Text.enclosed '\'' s).toList.count '\'' + apostrophes [] =
      quotesIn '\'' (Literal.quoted s).tokens := by
  rw [Text.enclosed, String.toList_ofList, count_between, Text.count_doubled]
  rfl

theorem count_plain {s : String} (none : '\'' ∉ s.toList) :
    ("'" ++ s ++ "'").toList.count '\'' + apostrophes [] =
      quotesIn '\'' (Literal.quoted s).tokens := by
  rw [← Text.enclosed_eq_append none]
  exact count_enclosed s

/-- A word has no apostrophes. -/
theorem count_word {w : String} (word : IsWord '\'' w) :
    w.toList.count '\'' + apostrophes [] = quotesIn '\'' (Literal.bare w).tokens :=
  List.count_eq_zero.2 word.solid.notMem

mutual

/-- A displayed value has as many apostrophes as its literal is written with, but for those that
are in its documents, which are written once and not twice. -/
theorem count_display : ∀ v : Value,
    v.display.toList.count '\'' + apostrophes v.documents = quotesIn '\'' v.literal.tokens
  | text s | choice s => count_enclosed s
  | integer n => count_word (isWord_toString_int n.val)
  | real x => count_word (isWord_doubleText x)
  | flag b => count_word (isWord_toString_flag b)
  | uuid u => count_plain u.apostrophe_notMem_text
  | instant m => count_plain m.apostrophe_notMem_offsetText
  | null => count_word isWord_null
  | document j => by
    rw [display, String.toList_append, String.toList_append]
    change ('\'' :: j.text.toList ++ ['\'']).count '\'' + (j.text.toList.count '\'' + 0) =
      2 + 2 * j.text.toList.count '\'' + 0
    rw [count_between]
    omega
  | list [] => rfl
  | list (v :: vs) => by
    have first := count_display v
    have later := count_furtherText vs
    rw [toList_display_list, documents, itemDocuments, literal, literals, Literal.tokens,
      Literal.itemTokens, apostrophes_append, quotesIn_cons, quotesIn_append, ← first, ← later,
      Sql.Token.quotes, List.count_cons_of_ne (by decide), List.count_append]
    omega

/-- The further items of a list are counted like the first, each with its own documents. -/
theorem count_furtherText : ∀ vs : List Value,
    (furtherText vs).count '\'' + apostrophes (itemDocuments vs) =
      quotesIn '\'' (Literal.furtherTokens (literals vs))
  | [] => rfl
  | v :: vs => by
    have first := count_display v
    have later := count_furtherText vs
    rw [furtherText, itemDocuments, literals, Literal.furtherTokens, apostrophes_append,
      quotesIn_cons, quotesIn_append, ← first, ← later, Sql.Token.quotes,
      List.count_cons_of_ne (by decide), List.count_cons_of_ne (by decide), List.count_append]
    omega

end

/-! ## Reading displayed values -/

/-- Documents have no apostrophes together if none of them has one. -/
theorem apostrophes_eq_zero_iff {js : List Json} :
    apostrophes js = 0 ↔ ∀ j ∈ js, '\'' ∉ j.text.toList := by
  rw [apostrophes, List.sum_eq_zero_iff]
  simp [List.count_eq_zero]

/-- **A displayed value is read as its own literal**, the items of lists included, exactly if no
string of a document in it and no name of a member there has an apostrophe. -/
theorem read_display_iff (v : Value) :
    Literal.read v.display = some v.literal ↔
      ∀ j ∈ v.documents, ∀ s ∈ j.strings, '\'' ∉ s.toList := by
  have texts : (∀ j ∈ v.documents, ∀ s ∈ j.strings, '\'' ∉ s.toList) ↔
      ∀ j ∈ v.documents, '\'' ∉ j.text.toList := by
    refine forall₂_congr fun j _ => ?_
    rw [Json.text, Json.apostrophe_mem_text_iff]
    simp
  rw [texts]
  constructor
  · intro read
    obtain ⟨ts, took, built⟩ := Option.bind_eq_some_iff.1 read
    obtain rfl := Literal.ofTokens?_eq_some_iff.1 built
    have counted := Sql.count_of_tokens took
    have displayed := v.count_display
    rw [← apostrophes_eq_zero_iff]
    change 0 + v.display.toList.count '\'' = quotesIn '\'' v.literal.tokens at counted
    omega
  · intro free
    have ends : ∀ c ∈ ([] : List Char).head?, isMark c = true := by simp
    have took := tokens_display_append ends v free
    rw [List.append_nil] at took
    rw [Literal.read, took]
    exact Literal.ofTokens?_eq_some_iff.2 (List.append_nil _)

-- The item of this list is read as two.
example : Literal.read (list [.document (.string "a', 'b")]).display =
    some (.list [.quoted "\"a", .quoted "b\""]) := by
  rfl

/-- A document with an apostrophe need not be read at all. -/
theorem not_forall_read_display :
    (document (.string "it's")).display = "'\"it's\"'" ∧ Literal.read "'\"it's\"'" = none ∧
      ¬ ∀ v : Value, Literal.read v.display = some v.literal := by
  have display : (document (.string "it's")).display = "'\"it's\"'" := by decide
  have unread : Literal.read "'\"it's\"'" = none := by decide
  refine ⟨display, unread, fun all => ?_⟩
  have read := all (document (.string "it's"))
  rw [display, unread] at read
  cases read

end Value

end Listing
