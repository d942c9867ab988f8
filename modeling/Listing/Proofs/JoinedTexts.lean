import Mathlib
import Listing.Field.FieldType
import Listing.Proofs.LoweredOrder
import Listing.Proofs.Outcomes
import Listing.Proofs.Parameters
import Listing.Proofs.SortedSets

/-!
# Values between commas

A text of several values is cut at its commas, blanks around the pieces do not count, and blank
pieces are left out.  So values come back from their texts with commas between, as long as no text
has a comma of its own, or nothing but blanks, or blanks around it; and what is put around and
between them does not matter.

* `Text.Spread` puts texts among blanks, and `FieldType.Lists` says that a text lists values;
* `FieldType.elements_intercalate` finds the texts again;
* `FieldType.parseElements_eq_error_iff` says how reading fails: as it does at the first piece that
  is not read;
* `FieldType.parse_collections` concludes for lists, slices, tuples and sets.
-/

namespace Listing

/-! ## Blanks around texts -/

namespace Text

theorem trimLeft_append {before : List Char} (blank : before.all isBlank = true)
    (cs : List Char) : trimLeft (before ++ cs) = trimLeft cs :=
  List.dropWhile_append_of_pos (List.all_eq_true.1 blank)

theorem trimRight_append {after : List Char} (blank : after.all isBlank = true) (cs : List Char) :
    trimRight (cs ++ after) = trimRight cs := by
  have turned : after.reverse.all isBlank = true := by rwa [List.all_reverse]
  rw [trimRight, List.reverse_append, List.dropWhile_append_of_pos (List.all_eq_true.1 turned)]
  rfl

/-- Blanks at the end make no difference for trimming at both ends. -/
theorem trimChars_append {after : List Char} (blank : after.all isBlank = true) (cs : List Char) :
    trimChars (cs ++ after) = trimChars cs := by
  unfold trimChars
  by_cases more : (cs.dropWhile isBlank).isEmpty = true
  · have none : after.dropWhile isBlank = [] :=
      List.dropWhile_eq_nil_iff.2 (List.all_eq_true.1 blank)
    rw [trimLeft, List.dropWhile_append, if_pos more, none, trimLeft, List.isEmpty_iff.1 more]
  · rw [trimLeft, List.dropWhile_append, if_neg more]
    exact trimRight_append blank _

/-- Blanks around a text are cut off with those that it begins and ends with. -/
theorem trim_append {before after : String} (front : isBlankOnly before = true)
    (back : isBlankOnly after = true) (s : String) : trim (before ++ s ++ after) = trim s := by
  unfold trim
  rw [String.toList_append, String.toList_append, trimChars_append back, trimChars,
    trimLeft_append front]
  rfl

theorem trim_eq_empty_iff {s : String} : trim s = "" ↔ isBlankOnly s = true := by
  constructor
  · intro empty
    by_contra more
    exact trim_ne_empty (eq_false_of_ne_true more) empty
  · intro blank
    have around : trim (s ++ "" ++ "") = "" := trim_append blank rfl ""
    rwa [String.append_empty, String.append_empty] at around

/-- A text is cut at a character into the pieces that it was joined of. -/
theorem pieces_intercalate {separator : Char} {ps : List String} (some : ps ≠ [])
    (whole : ∀ p ∈ ps, separator ∉ p.toList) :
    pieces separator ((String.singleton separator).intercalate ps) = ps := by
  rw [pieces, String.toList_intercalate, String.toList_singleton,
    List.splitOn_intercalate separator (by simpa using whole) (by simpa using some), List.map_map]
  simp

/-- Pieces that hold texts in their order, each with blanks around it, and between them pieces of
blanks alone. -/
inductive Spread : List String → List String → Prop where
  | nil : Spread [] []
  | blank {texts ps : List String} {blanks : String} (blank : isBlankOnly blanks = true) :
    Spread texts ps → Spread texts (blanks :: ps)
  | text {texts ps : List String} {before after s : String} (front : isBlankOnly before = true)
    (back : isBlankOnly after = true) :
    Spread texts ps → Spread (s :: texts) ((before ++ s ++ after) :: ps)

/-- The text is one of its own: there is something in it, and it neither has a comma nor a blank at
one of its ends. -/
structure IsItem (s : String) : Prop where
  some : s ≠ ""
  whole : ',' ∉ s.toList
  bare : trim s = s

theorem comma_notMem_of_isBlankOnly {s : String} (blank : isBlankOnly s = true) :
    ',' ∉ s.toList :=
  fun member => absurd (List.all_eq_true.1 blank _ member) (by decide)

namespace Spread

variable {texts ps : List String}

/-- No piece has a comma, if no text has. -/
theorem comma_notMem (spread : Spread texts ps) (items : ∀ s ∈ texts, IsItem s) :
    ∀ p ∈ ps, ',' ∉ p.toList := by
  induction spread with
  | nil => exact List.forall_mem_nil _
  | blank blank _ ih =>
    exact List.forall_mem_cons.2 ⟨comma_notMem_of_isBlankOnly blank, ih items⟩
  | text front back _ ih =>
    obtain ⟨first, others⟩ := List.forall_mem_cons.1 items
    refine List.forall_mem_cons.2 ⟨?_, ih others⟩
    simp only [String.toList_append, List.mem_append, not_or]
    exact ⟨⟨comma_notMem_of_isBlankOnly front, first.whole⟩, comma_notMem_of_isBlankOnly back⟩

/-- What is left of the pieces are the texts. -/
theorem filter_map_trim (spread : Spread texts ps) (items : ∀ s ∈ texts, IsItem s) :
    (ps.map trim).filter (fun piece => piece ≠ "") = texts := by
  induction spread with
  | nil => rfl
  | blank blank _ ih =>
    rw [List.map_cons, trim_eq_empty_iff.2 blank, List.filter_cons_of_neg (by simp)]
    exact ih items
  | text front back _ ih =>
    obtain ⟨first, others⟩ := List.forall_mem_cons.1 items
    rw [List.map_cons, trim_append front back, first.bare,
      List.filter_cons_of_pos (by simpa using first.some), ih others]

end Spread

end Text

namespace FieldType

variable {α : Type}

/-- Texts that were joined are found again. -/
theorem elements_intercalate {texts ps : List String} (spread : Text.Spread texts ps)
    (items : ∀ s ∈ texts, Text.IsItem s) : elements (",".intercalate ps) = texts := by
  unfold elements
  by_cases some : ps = []
  -- Of no pieces the empty text is joined, which has one.
  · subst some
    cases spread
    rfl
  · have cut : Text.pieces ',' (",".intercalate ps) = ps :=
      Text.pieces_intercalate some (spread.comma_notMem items)
    rw [cut, spread.filter_map_trim items]

/-- The text is an item that stands for a value. -/
structure Writes (parse : String → Except Unreadable α) (s : String) (x : α) : Prop extends
  Text.IsItem s where
  reads : parse s = .ok x

/-- The text lists values: it joins texts that stand for them, with blanks around. -/
def Lists (parse : String → Except Unreadable α) (raw : String) (xs : List α) : Prop :=
  ∃ texts ps, List.Forall₂ (Writes parse) texts xs ∧ Text.Spread texts ps ∧ raw = ",".intercalate ps

section Lists

variable {parse : String → Except Unreadable α} {raw : String} {xs : List α}

/-- What a text lists is read from it. -/
theorem Lists.parseElements_eq (lists : Lists parse raw xs) :
    parseElements parse raw = .ok xs := by
  obtain ⟨texts, ps, written, spread, rfl⟩ := lists
  have both : List.Forall₂ (fun s x => Text.IsItem s ∧ parse s = .ok x) texts xs :=
    written.imp fun _ _ writes => ⟨writes.toIsItem, writes.reads⟩
  obtain ⟨items, reads⟩ := (List.forall₂_and_left texts xs).1 both
  rw [parseElements, elements_intercalate spread items]
  exact mapM_eq_ok_iff_forall₂.2 reads

/-- A text that lists values is read as a set of just these values, up to what the order calls
equal. -/
theorem Lists.exists_parseSet (lists : Lists parse raw xs) (compare : α → α → Ordering)
    [Std.TransCmp compare] : ∃ s, parseSet compare parse raw = .ok s ∧
      (∀ x ∈ s.val, x ∈ xs) ∧ ∀ x ∈ xs, ∃ y ∈ s.val, compare x y = .eq := by
  refine ⟨.ofList compare xs, ?_, fun x => Sorted.mem_ofList, fun x => Sorted.exists_mem_ofList⟩
  rw [parseSet, lists.parseElements_eq]
  rfl

/-- A tuple is read of as many values as it has places. -/
theorem Lists.parseTuple_eq_ok (lists : Lists parse raw xs) {n : Nat} (length : xs.length = n) :
    parseTuple n parse raw = .ok ⟨xs, length⟩ := by
  rw [parseTuple, lists.parseElements_eq]
  exact dif_pos length

/-- Of any other number of values it is refused. -/
theorem Lists.parseTuple_eq_error (lists : Lists parse raw xs) {n : Nat} (length : xs.length ≠ n) :
    parseTuple n parse raw = .error (.count n xs.length) := by
  rw [parseTuple, lists.parseElements_eq]
  exact dif_neg length

end Lists

section Failures

variable {parse : String → Except Unreadable α} {raw : String}

/-- Reading fails as it does at the first piece that is neither blank nor read. -/
theorem parseElements_eq_error_iff {e : Unreadable} :
    parseElements parse raw = .error e ↔ ∃ front piece back,
      Text.pieces ',' raw = front ++ piece :: back ∧
        (∀ p ∈ front, Text.isBlankOnly p = false → ∃ x, parse (Text.trim p) = .ok x) ∧
        Text.isBlankOnly piece = false ∧ parse (Text.trim piece) = .error e := by
  unfold parseElements elements
  induction Text.pieces ',' raw with
  | nil => simp [pure, Except.pure]
  | cons piece rest ih =>
    rw [exists_first_cons, ← ih, List.map_cons]
    cases blank : Text.isBlankOnly piece with
    | true =>
      rw [Text.trim_eq_empty_iff.2 blank, List.filter_cons_of_neg (by simp)]
      simp
    | false =>
      rw [List.filter_cons_of_pos (by simpa using Text.trim_ne_empty blank), mapM_cons_eq_error]
      simp

/-- The elements of a text are its pieces between commas that are not blank, trimmed. -/
theorem mem_elements_iff {s : String} :
    s ∈ elements raw ↔
      ∃ piece ∈ Text.pieces ',' raw, Text.isBlankOnly piece = false ∧ Text.trim piece = s := by
  rw [elements, List.mem_filter, List.mem_map, decide_eq_true_eq]
  constructor
  · intro found
    obtain ⟨⟨piece, member, rfl⟩, some⟩ := found
    exact ⟨piece, member, eq_false_of_ne_true (mt Text.trim_eq_empty_iff.2 some), rfl⟩
  · intro found
    obtain ⟨piece, member, some, rfl⟩ := found
    exact ⟨⟨piece, member, rfl⟩, Text.trim_ne_empty some⟩

/-- Reading fails exactly if there is a piece that is neither blank nor read. -/
theorem exists_parseElements_eq_error_iff :
    (∃ e, parseElements parse raw = .error e) ↔
      ∃ piece ∈ Text.pieces ',' raw, Text.isBlankOnly piece = false ∧
        ∃ e, parse (Text.trim piece) = .error e := by
  constructor
  · intro refused
    obtain ⟨e, failed⟩ := refused
    obtain ⟨front, piece, back, cut, -, some, failed⟩ := parseElements_eq_error_iff.1 failed
    exact ⟨piece, cut ▸ List.mem_append_right _ List.mem_cons_self, some, e, failed⟩
  · intro found
    obtain ⟨piece, member, some, e, failed⟩ := found
    cases read : parseElements parse raw with
    | error e => exact ⟨e, rfl⟩
    | ok xs =>
      obtain ⟨x, ok⟩ := exists_ok_of_mapM read (mem_elements_iff.2 ⟨piece, member, some, rfl⟩)
      rw [failed] at ok
      cases ok

end Failures

/-- **Collections come back from texts with commas.**  A list and a slice are read as the values
that a text lists, a tuple if it has as many places as there are values, and else is refused with
both numbers, and a set has each of the values once, in whatever order they are compared.  Of any
text a list is refused exactly if one of its pieces is, blank ones apart, and as the first of them
is. -/
theorem parse_collections :
    (∀ (t : FieldType) raw xs, Lists t.parse raw xs →
      (list t).parse raw = .ok xs ∧ (slice t).parse raw = .ok xs ∧
        (∀ n, (∀ length : xs.length = n, (tuple t n).parse raw = .ok ⟨xs, length⟩) ∧
          (xs.length ≠ n → ∃ e, (tuple t n).parse raw = .error e ∧
            e.message = s!"expected {n} comma-separated values, got {xs.length}")) ∧
        ∀ (compare : t.Carrier → t.Carrier → Ordering) [Std.TransCmp compare],
          ∃ s, parseSet compare t.parse raw = .ok s ∧ (∀ x ∈ s.val, x ∈ xs) ∧
            ∀ x ∈ xs, ∃ y ∈ s.val, compare x y = .eq) ∧
    (∀ (a : Atom) raw xs, Lists a.parse raw xs →
      ∃ s, (set a).parse raw = .ok s ∧ ∀ x, x ∈ s.val ↔ x ∈ xs) ∧
    ∀ (t : FieldType) raw,
      ((∃ e, (list t).parse raw = .error e) ↔ ∃ piece ∈ Text.pieces ',' raw,
        Text.isBlankOnly piece = false ∧ ∃ e, t.parse (Text.trim piece) = .error e) ∧
      ∀ e, (list t).parse raw = .error e ↔ ∃ front piece back,
        Text.pieces ',' raw = front ++ piece :: back ∧
          (∀ p ∈ front, Text.isBlankOnly p = false → ∃ x, t.parse (Text.trim p) = .ok x) ∧
          Text.isBlankOnly piece = false ∧ t.parse (Text.trim piece) = .error e := by
  refine ⟨fun t raw xs lists => ?_, fun a raw xs lists => ?_, fun t raw => ?_⟩
  · refine ⟨lists.parseElements_eq, lists.parseElements_eq, fun n => ⟨?_, fun length => ?_⟩,
      fun compare _ => lists.exists_parseSet compare⟩
    · exact lists.parseTuple_eq_ok
    · exact ⟨_, lists.parseTuple_eq_error length, rfl⟩
  · obtain ⟨s, read, only, each⟩ := lists.exists_parseSet a.compare
    refine ⟨s, read, fun x => ⟨only x, fun member => ?_⟩⟩
    obtain ⟨y, kept, same⟩ := each x member
    obtain rfl := a.compare_eq_eq_iff.1 same
    exact kept
  · exact ⟨exists_parseElements_eq_error_iff, fun e => parseElements_eq_error_iff⟩

theorem lists_paddedNumbers :
    Lists (atom (.integer .signed32)).parse " 2 ,, 1,2"
      [⟨2, by decide⟩, ⟨1, by decide⟩, ⟨2, by decide⟩] := by
  have two : Writes (atom (.integer .signed32)).parse "2" ⟨2, by decide⟩ :=
    ⟨⟨by decide, by decide, by decide⟩, rfl⟩
  have one : Writes (atom (.integer .signed32)).parse "1" ⟨1, by decide⟩ :=
    ⟨⟨by decide, by decide, by decide⟩, rfl⟩
  have none : Text.isBlankOnly "" = true := rfl
  have blank : Text.isBlankOnly " " = true := by decide
  have spread : Text.Spread ["2", "1", "2"]
      [" " ++ "2" ++ " ", "", " " ++ "1" ++ "", "" ++ "2" ++ ""] :=
    .text blank blank (.blank none (.text blank none (.text none none .nil)))
  exact ⟨_, _, .cons two (.cons one (.cons two .nil)), spread, by decide⟩

theorem parse_paddedNumbers :
    Lists (atom (.integer .signed32)).parse " 2 ,, 1,2"
      [⟨2, by decide⟩, ⟨1, by decide⟩, ⟨2, by decide⟩] ∧
    (list (atom (.integer .signed32))).parse " 2 ,, 1,2" =
      .ok [⟨2, by decide⟩, ⟨1, by decide⟩, ⟨2, by decide⟩] ∧
    (∃ e, (tuple (atom (.integer .signed32)) 2).parse " 2 ,, 1,2" = .error e ∧
      e.message = "expected 2 comma-separated values, got 3") ∧
    ∃ s, (set (.integer .signed32)).parse " 2 ,, 1,2" = .ok s ∧
      ∀ x, x ∈ s.val ↔ x ∈ [⟨2, by decide⟩, ⟨1, by decide⟩, ⟨2, by decide⟩] := by
  obtain ⟨collections, sets, -⟩ := parse_collections
  obtain ⟨read, -, tuples, -⟩ := collections (atom (.integer .signed32)) _ _ lists_paddedNumbers
  have refused := (tuples 2).2 (by decide)
  exact ⟨lists_paddedNumbers, read, refused, sets (.integer .signed32) _ _ lists_paddedNumbers⟩

end FieldType

end Listing
