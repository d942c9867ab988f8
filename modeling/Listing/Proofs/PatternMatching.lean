import Mathlib
import Listing.Pattern

/-!
# Texts that a pattern describes

A pattern describes a text that can be cut into as many parts as it has pieces, each part one
that the piece stands for.  The matcher decides this without trying out where to cut: the ways
in which the text can go on behind the pieces passed are ends of the text, and the longest one
comes first, which has all the others in it.

* `Pattern.mem_advance_iff` says what one piece makes of those ways;
* `Pattern.accepts_iff` says that the matcher is right;
* `Pattern.accepts_around` finds every text in itself.
-/

namespace Listing

/-- A piece stands for a part of a text. -/
def Piece.StandsFor (ignoreCase : Bool) : Piece → List Char → Prop
  | anyText, _ => True
  | anyChar, part => ∃ c, part = [c]
  | exactly c, part => ∃ d, part = [d] ∧ Pattern.same ignoreCase c d = true

namespace Pattern

/-- Pieces stand for the parts of a text, one after the other. -/
def Describes (ignoreCase : Bool) : List Piece → List Char → Prop
  | [], text => text = []
  | p :: pieces, text =>
    ∃ part rest, text = part ++ rest ∧ p.StandsFor ignoreCase part ∧ Describes ignoreCase pieces rest

/-! ## Ends of a text -/

/-- Ends of one text, the longest first. -/
abbrev Nested (rests : List (List Char)) : Prop := rests.Pairwise fun longer shorter => shorter <:+ longer

theorem mem_tails_iff {text rest : List Char} : rest ∈ tails text ↔ rest <:+ text := by
  induction text with
  | nil => simp [tails]
  | cons c text ih => rw [tails, List.mem_cons, ih, List.suffix_cons_iff]

theorem nested_tails (text : List Char) : Nested (tails text) := by
  induction text with
  | nil => simp [tails]
  | cons c text ih =>
    refine List.pairwise_cons.2 ⟨fun rest member => ?_, ih⟩
    exact (mem_tails_iff.1 member).trans (List.suffix_cons c text)

/-- Something is behind a character exactly if that suits the test. -/
theorem behind?_eq_some_iff {suits : Char → Bool} {text rest : List Char} :
    behind? suits text = some rest ↔ ∃ c, suits c = true ∧ text = c :: rest := by
  cases text with
  | nil => simp [behind?]
  | cons c text => by_cases passes : suits c = true <;> simp [behind?, passes]

/-- What follows one character of each of several ends is nested like them. -/
theorem nested_filterMap_behind? {rests : List (List Char)} (nested : Nested rests)
    (suits : Char → Bool) : Nested (rests.filterMap (behind? suits)) := by
  refine nested.filterMap _ fun longer shorter within rest after rest' after' => ?_
  obtain ⟨c, -, rfl⟩ := behind?_eq_some_iff.1 after
  obtain ⟨c', -, rfl⟩ := behind?_eq_some_iff.1 after'
  rcases List.suffix_cons_iff.1 within with same | below
  · exact (List.cons.inj same).2 ▸ List.suffix_refl rest
  · exact (List.suffix_cons c' rest').trans below

/-- Advancing by a piece keeps the longest end first. -/
theorem nested_advance {rests : List (List Char)} (nested : Nested rests) (ignoreCase : Bool)
    (p : Piece) : Nested (advance ignoreCase rests p) := by
  cases p with
  | anyText =>
    cases rests with
    | nil => exact List.Pairwise.nil
    | cons longest others => exact nested_tails longest
  | anyChar => exact nested_filterMap_behind? nested _
  | exactly c => exact nested_filterMap_behind? nested _

/-! ## Matching -/

theorem mem_filterMap_behind?_iff {suits : Char → Bool} {rests : List (List Char)}
    {rest : List Char} :
    rest ∈ rests.filterMap (behind? suits) ↔ ∃ c, suits c = true ∧ c :: rest ∈ rests := by
  simp only [List.mem_filterMap, behind?_eq_some_iff]
  constructor
  · rintro ⟨text, member, c, passes, rfl⟩
    exact ⟨c, passes, member⟩
  · rintro ⟨c, passes, member⟩
    exact ⟨_, member, c, passes, rfl⟩

/-- Behind a piece a text goes on as it does behind a part that the piece stands for. -/
theorem mem_advance_iff {rests : List (List Char)} (nested : Nested rests) {ignoreCase : Bool}
    {p : Piece} {rest : List Char} :
    rest ∈ advance ignoreCase rests p ↔
      ∃ part, p.StandsFor ignoreCase part ∧ part ++ rest ∈ rests := by
  cases p with
  | anyText =>
    cases rests with
    | nil => simp [advance]
    | cons longest others =>
      obtain ⟨first, -⟩ := List.pairwise_cons.1 nested
      rw [advance, mem_tails_iff]
      constructor
      · rintro ⟨part, whole⟩
        exact ⟨part, trivial, whole ▸ List.mem_cons_self⟩
      -- Whichever end goes on like that, the longest one does.
      · rintro ⟨part, -, member⟩
        rcases List.mem_cons.1 member with whole | member
        · exact ⟨part, whole⟩
        · exact (List.suffix_append part rest).trans (first _ member)
  | anyChar =>
    rw [advance, mem_filterMap_behind?_iff]
    constructor
    · rintro ⟨c, -, member⟩
      exact ⟨[c], ⟨c, rfl⟩, member⟩
    · rintro ⟨part, ⟨c, rfl⟩, member⟩
      exact ⟨c, rfl, member⟩
  | exactly c =>
    rw [advance, mem_filterMap_behind?_iff]
    constructor
    · rintro ⟨d, same, member⟩
      exact ⟨[d], ⟨d, rfl, same⟩, member⟩
    · rintro ⟨part, ⟨d, rfl, same⟩, member⟩
      exact ⟨d, same, member⟩

/-- The ends that are left behind pieces are those of texts that the pieces describe. -/
theorem mem_foldl_advance_iff {ignoreCase : Bool} {pieces : List Piece} {rests : List (List Char)}
    (nested : Nested rests) {rest : List Char} :
    rest ∈ pieces.foldl (advance ignoreCase) rests ↔
      ∃ text, Describes ignoreCase pieces text ∧ text ++ rest ∈ rests := by
  induction pieces generalizing rests with
  | nil => simp [Describes]
  | cons p pieces ih =>
    rw [List.foldl_cons, ih (nested_advance nested ignoreCase p)]
    simp only [mem_advance_iff nested, Describes]
    constructor
    · rintro ⟨text, described, part, stands, member⟩
      exact ⟨part ++ text, ⟨part, text, rfl, stands, described⟩, by rwa [List.append_assoc]⟩
    · rintro ⟨-, ⟨part, text, rfl, stands, described⟩, member⟩
      exact ⟨text, described, part, stands, by rwa [← List.append_assoc]⟩

/-- The matcher accepts exactly the texts that the pattern describes. -/
theorem accepts_iff {p : Pattern} {s : String} :
    p.accepts s = true ↔ Describes p.ignoreCase p.pieces s.toList := by
  have nested : Nested [s.toList] := List.pairwise_singleton _ _
  rw [accepts, List.any_eq_true]
  constructor
  · rintro ⟨rest, reached, ends⟩
    obtain rfl := List.isEmpty_iff.1 ends
    obtain ⟨text, described, member⟩ := (mem_foldl_advance_iff nested).1 reached
    rw [List.append_nil] at member
    exact List.mem_singleton.1 member ▸ described
  · intro described
    refine ⟨[], (mem_foldl_advance_iff nested).2 ⟨s.toList, described, ?_⟩, rfl⟩
    rw [List.append_nil]
    exact List.mem_singleton_self _

/-! ## Texts in themselves -/

/-- Pieces one after the other describe texts one after the other. -/
theorem describes_append {ignoreCase : Bool} {pieces pieces' : List Piece} {text text' : List Char}
    (first : Describes ignoreCase pieces text) (second : Describes ignoreCase pieces' text') :
    Describes ignoreCase (pieces ++ pieces') (text ++ text') := by
  induction pieces generalizing text with
  | nil =>
    obtain rfl : text = [] := first
    exact second
  | cons p pieces ih =>
    obtain ⟨part, rest, rfl, stands, described⟩ := first
    exact ⟨part, rest ++ text', by rw [List.append_assoc], stands, ih described⟩

/-- The piece that a character writes stands for the character, be it a percent sign. -/
theorem standsFor_ofChar (ignoreCase : Bool) (c : Char) :
    (Piece.ofChar c).StandsFor ignoreCase [c] := by
  unfold Piece.ofChar
  split
  · trivial
  · split
    · exact ⟨c, rfl⟩
    · exact ⟨c, rfl, by cases ignoreCase <;> simp [same, Text.sameFolded]⟩

theorem describes_map_ofChar (ignoreCase : Bool) (text : List Char) :
    Describes ignoreCase (text.map Piece.ofChar) text := by
  induction text with
  | nil => rfl
  | cons c text ih => exact ⟨[c], text, rfl, standsFor_ofChar ignoreCase c, ih⟩

/-- A text is found in itself, whatever its characters mean in a pattern. -/
theorem accepts_around (s : String) (ignoreCase : Bool) :
    (ofString ("%" ++ s ++ "%") ignoreCase).accepts s = true := by
  have anything : Describes ignoreCase [Piece.anyText] [] := ⟨[], [], rfl, trivial, rfl⟩
  have pieces : (ofString ("%" ++ s ++ "%") ignoreCase).pieces =
      [Piece.anyText] ++ s.toList.map Piece.ofChar ++ [Piece.anyText] := by
    rw [ofString, String.toList_append, String.toList_append, List.map_append, List.map_append]
    rfl
  have within := describes_append anything (describes_map_ofChar ignoreCase s.toList)
  have around := describes_append within anything
  rw [List.nil_append, List.append_nil] at around
  rw [accepts_iff, pieces]
  exact around

end Pattern

end Listing
