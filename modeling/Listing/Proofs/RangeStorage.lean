import Mathlib
import Listing.Catalogue
import Listing.Proofs.RangeDocuments
import Listing.Proofs.TypedBounds

/-!
# Ranges, stored and read back

In a document a bound forgets what kind of value it is, and a moment comes back as a text.
Compilation finds the kind again where the field of the records declares it, so that it makes the
same of ranges that have been through a document.

* `Value.Bounds` are the bounds of a field of numbers or of times;
* `bound?_stored` says that the kind makes of such a bound what it makes of the one that is read
  for it, and `compileRanges_stored` says it of all ranges;
* `RangeFilter.compileRanges_readBack` concludes it for ranges that are read from their document,
  from what is kept of it or from its text.
-/

namespace Listing

/-! ## Moments as texts -/

/-- A text without blanks at its ends is trimmed already. -/
theorem Text.trim_eq_self {s : String} (front : ∀ c ∈ s.toList.head?, isBlank c = false)
    (back : ∀ c ∈ s.toList.reverse.head?, isBlank c = false) : trim s = s := by
  rw [trim, trimChars, trimLeft, dropWhile_of_ends front, trimRight, dropWhile_of_ends back,
    List.reverse_reverse, String.ofList_toList]

/-- A moment begins with a digit and ends with a letter. -/
theorem Moment.trim_zuluText {m : Moment} (years : 0 ≤ m.date.year ∧ m.date.year ≤ 9999) :
    Text.trim m.zuluText = m.zuluText := by
  have begins : ∃ rest, m.zuluText.toList = (Text.padded 4 m.date.year.natAbs).toList ++ rest := by
    simp only [zuluText, localText, Date.text, Date.yearText, if_pos years, String.toList_append,
      List.append_assoc]
    exact ⟨_, rfl⟩
  obtain ⟨rest, begins⟩ := begins
  refine Text.trim_eq_self (fun c first => ?_) (fun c last => ?_)
  · rw [begins, List.head?_append_of_ne_nil _ (Text.padded_ne_nil 4 _)] at first
    exact Text.isBlank_of_isDigit (Text.isDigit_of_mem_padded (List.mem_of_mem_head? first))
  · rw [toList_zuluText, List.reverse_append] at last
    cases last
    decide

/-- A moment is read from its text as a parameter is. -/
theorem Moment.parseAs_zuluText {m : Moment} (years : 0 ≤ m.date.year ∧ m.date.year ≤ 9999) :
    Value.parseAs .temporal m.zuluText = .ok (.instant m) := by
  unfold Value.parseAs
  dsimp only
  rw [trim_zuluText years, readAny?_zuluText years]

/-! ## Bounds of a kind -/

/-- The value can bound a field of numbers or of times: it is null, a text or a value of the kind,
which a document can hold. -/
inductive Value.Bounds : Kind → Value → Prop where
  | null {kind : Kind} (ordered : kind.isRangeable = true) : Bounds kind .null
  | text {kind : Kind} (ordered : kind.isRangeable = true) (s : String) : Bounds kind (.text s)
  | integer {integral : Bool} (n : Bounded .signed64) : Bounds (.number integral) (.integer n)
  | real {integral : Bool} {x : Double} (finite : x.isFinite = true) :
    Bounds (.number integral) (.real x)
  | instant {m : Moment} (years : 0 ≤ m.date.year ∧ m.date.year ≤ 9999) :
    Bounds .temporal (.instant m)

section Kind

variable {kind : Kind} {v : Value}

/-- What can be a bound is written as null, a text or a number. -/
theorem Value.Bounds.isPlain (bounds : v.Bounds kind) : v.toDoc.IsPlain := by
  cases bounds with
  | null => exact .null
  | text _ s => exact .string s
  | integer n => exact .number _
  | real finite => exact toDoc_real finite ▸ .number _
  | instant => exact .string _

/-- The bound that is read for another one is the same for the kind. -/
theorem bound?_stored (bounds : v.Bounds kind) :
    bound? (some kind) v.toDoc.bound = bound? (some kind) (some v) := by
  cases bounds with
  | null | text => rfl
  | integer n =>
    have back : Value.ofInt n.val = .integer n := dif_pos n.property
    exact congrArg (fun v => bound? (some (.number _)) (some v)) back
  | real finite => rw [Value.toDoc_real finite]; rfl
  | instant years =>
    have read := coerceBound_text (k := .temporal) rfl (Moment.parseAs_zuluText years)
    exact congrArg some read

end Kind

/-! ## Ranges of a kind -/

/-- All bounds of the range are bounds of the kind. -/
def Range.Suits (kind : Kind) (r : Range) : Prop :=
  ∀ side v, r.bound side = some v → v.Bounds kind

section Range

variable {kind : Kind} {r : Range}

theorem Range.Suits.isPlain (suits : r.Suits kind) : r.IsPlain := by
  intro side
  cases bounded : r.bound side with
  | none => exact .null
  | some v => exact (suits side v bounded).isPlain

/-- A bound that suits its field takes effect after it is stored as before. -/
theorem Range.Suits.bound?_stored (suits : r.Suits kind) (side : BoundSide) :
    bound? (some kind) (r.stored.bound side) = bound? (some kind) (r.bound side) := by
  rw [bound_stored]
  cases bounded : r.bound side with
  | none => rfl
  | some v => exact Listing.bound?_stored (suits side v bounded)

/-- A range that suits its field gives the same criterion after it is stored. -/
theorem compileRange_stored (name : String) (suits : r.Suits kind) :
    compileRange name r.stored (some kind) = compileRange name r (some kind) := by
  have low := suits.bound?_stored .low
  have high := suits.bound?_stored .high
  unfold Range.bound at low high
  rw [compileRange, low, high, compileRange]

end Range

/-- Every range is for a visible field of the records that has numbers or times, and suits it. -/
def RangeFilter.Suits (entity : DeclaredType) (ranges : RangeFilter) : Prop :=
  ∀ e ∈ ranges.ranges.entries, ∃ f, findField entity e.1 true = some f ∧ e.2.Suits f.kind

section Ranges

variable {entity : DeclaredType} {ranges : RangeFilter}

theorem RangeFilter.Suits.empty : RangeFilter.empty.Suits entity := List.forall_mem_nil _

/-- Ranges suit when one that suits is added. -/
theorem RangeFilter.Suits.insert (suits : ranges.Suits entity) {name : String} {range : Range}
    (suit : ∃ f, findField entity name true = some f ∧ range.Suits f.kind) :
    (ranges.insert name range).Suits entity := by
  intro e member
  rcases mem_insertEntry member with rfl | before
  · exact suit
  · exact suits e before

variable (suits : ranges.Suits entity)

include suits

theorem RangeFilter.Suits.isPlain : ∀ e ∈ ranges.ranges.entries, e.2.IsPlain := by
  intro e member
  obtain ⟨f, -, suits⟩ := suits e member
  exact suits.isPlain

/-- Compilation makes the same of ranges with the bounds that are read for their own. -/
theorem compileRanges_stored :
    compileRanges entity ranges.stored = compileRanges entity ranges := by
  unfold compileRanges RangeFilter.stored Keyed.mapValues
  rw [List.filterMap_map]
  refine List.filterMap_congr fun e member => ?_
  obtain ⟨f, found, suits⟩ := suits e member
  have first : (classify entity true).find? (·.name = e.1) = some f := found
  simp only [Function.comp_apply, first, Option.map_some]
  rw [compileRange_stored e.1 suits]

/-- The numbers among the bounds are read from their texts if the real ones are. -/
theorem RangeFilter.Suits.rereads
    (reals : ∀ e ∈ ranges.ranges.entries, ∀ side x (finite : x.isFinite = true),
      e.2.bound side = some (.real x) → (Json.Number.real x finite).Rereads) :
    ∀ e ∈ ranges.ranges.entries, e.2.Rereads := by
  intro e member side n written
  obtain ⟨f, -, suits⟩ := suits e member
  generalize f.kind = kind at suits
  cases bounded : e.2.bound side with
  | none =>
    rw [bounded] at written
    cases written
  | some v =>
    rw [bounded] at written
    cases suits side v bounded with
    | null | text | instant => cases written
    | integer n =>
      cases written
      exact Json.Number.rereads_whole n.wide
    | real finite =>
      rw [Range.boundDoc, Value.toDoc_real finite] at written
      cases written
      exact reals e member side _ finite bounded

end Ranges

/-- **Ranges survive documents.**  Take any ranges on visible fields of numbers with bounds that
are missing, null, whole, finite or texts, and on visible fields of times with bounds that are
missing, null, texts or moments of the years that are written with four digits.  Something is read
from their document wherever it is read, from what is kept of it and, if reading gives back the
real numbers that are written, from its text; it is the same each time, and it compiles to the
same criteria as the ranges themselves. -/
theorem RangeFilter.compileRanges_readBack (entity : DeclaredType) (ranges : RangeFilter)
    (suits : ranges.Suits entity) :
    ∃ back,
      (∀ m, decoder m ranges.toDoc = .ok back) ∧
      decoder.fromTree ranges.toDoc.value = .ok back ∧
      ((∀ e ∈ ranges.ranges.entries, ∀ side x (finite : x.isFinite = true),
          e.2.bound side = some (.real x) → (Json.Number.real x finite).Rereads) →
        decoder.fromText ranges.toDoc.text = .ok back) ∧
      compileRanges entity back = compileRanges entity ranges :=
  ⟨ranges.stored, decoder_toDoc suits.isPlain, fromTree_toDoc suits.isPlain,
    fun reals => fromText_toDoc suits.isPlain (suits.rereads reals), compileRanges_stored suits⟩

/-- Two and a half. -/
def twoAndAHalf : Double := .ofCode false 4612811918334230528

theorem isFinite_twoAndAHalf : twoAndAHalf.isFinite = true := by decide +kernel

open Json.Reading in
theorem rereads_twoAndAHalf (finite : twoAndAHalf.isFinite = true) :
    (Json.Number.real twoAndAHalf finite).Rereads := by
  have written : (Json.doubleText twoAndAHalf).toList = ['2', '.', '5'] := by decide +kernel
  have scaled : scale 4 (BinaryFormat.double.nearest 25 1) (-1) = some 4612811918334230528 := by
    decide +kernel
  have read : realNumber false 25 (-1) = .ok (.real twoAndAHalf finite) := by
    rw [realNumber, scaled]
    exact dif_pos finite
  have figures : figures ['2', '.', '5'] = .ok (⟨false, ['2'], some ['5'], none⟩, []) := rfl
  have value : Figures.value ⟨false, ['2'], some ['5'], none⟩ = realNumber false 25 (-1) := rfl
  change number (Json.doubleText twoAndAHalf).toList = _
  rw [written, number, figures]
  dsimp only
  rw [value, read]

/-- The last second of a leap day. -/
def leapSecond : Moment :=
  ⟨⟨2024, 2, 29, by decide, by decide, by decide⟩,
    ⟨23, 59, 60, 500000000, by decide, by decide, by decide, by decide⟩⟩

/-- Products at some price, of which there are enough, and which are new enough. -/
def someProducts : RangeFilter :=
  RangeFilter.empty
    |>.insert "price" ⟨some (.real twoAndAHalf), some (.text " 10 ")⟩
    |>.insert "stock" ⟨some (.integer ⟨12, by decide⟩), some .null⟩
    |>.insert "released" ⟨some (.instant leapSecond), none⟩

theorem RangeFilter.compileRanges_readBack_someProducts :
    someProducts.Suits Catalogue.product.declared ∧
      ∃ back, decoder.fromText someProducts.toDoc.text = .ok back ∧
        compileRanges Catalogue.product.declared back =
          compileRanges Catalogue.product.declared someProducts ∧
        .atLeast "released" (.instant leapSecond) ∈
          compileRanges Catalogue.product.declared back := by
  have suits : someProducts.Suits Catalogue.product.declared := by
    refine ((Suits.empty.insert ⟨_, rfl, ?_⟩).insert ⟨_, rfl, ?_⟩).insert ⟨_, rfl, ?_⟩
    · rintro (_ | _) v ⟨⟩
      · exact .real isFinite_twoAndAHalf
      · exact .text rfl _
    · rintro (_ | _) v ⟨⟩
      · exact .integer _
      · exact .null rfl
    · rintro (_ | _) v ⟨⟩
      exact .instant (by decide)
  obtain ⟨back, -, -, read, same⟩ := compileRanges_readBack _ someProducts suits
  refine ⟨suits, back, read ?_, same, ?_⟩
  · intro e member side x finite bounded
    rcases mem_insertEntry member with rfl | member
    · cases side <;> cases bounded
    · rcases mem_insertEntry member with rfl | member
      · cases side <;> cases bounded
      · rcases mem_insertEntry member with rfl | none
        · cases side <;> cases bounded
          exact rereads_twoAndAHalf finite
        · cases none
  · rw [same]
    have entry : ("released", ⟨some (.instant leapSecond), none⟩) ∈ someProducts.ranges.entries :=
      (lookup_eq_some_iff_of_increasing someProducts.ranges.increasing).1 (lookup_insertEntry ..)
    exact mem_compileRanges.2 ⟨_, _, entry, rfl, rfl⟩

end Listing
