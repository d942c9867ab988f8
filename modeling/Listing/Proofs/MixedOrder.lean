import Mathlib
import Listing.Proofs.SortedSelection

/-!
# The order of values of different kinds

Values of one kind are ordered as they are.  Integers and doubles are compared as doubles, and
texts and identifiers as identifiers: each value has a place among those of the kind that compares
with its own.  The two orders need not agree.  Different integers may have one place, since they
are rounded; and the texts that write identifiers may be ordered otherwise than the identifiers,
since these can be written in several ways.

* `Value.place?` is the place of a value, and `Value.compare_of_family_ne` compares values of
  different kinds by it;
* `Value.Transitive` is the law for three values in a row, and `Value.Level` the same law for three
  values in a circle, where it does not matter which of them is of another kind;
* `Value.Merged` and `Value.Misspelt` are the exceptions, and `Value.compare_trans` is the law.
-/

namespace Listing

/-! ## Integers among the doubles -/

namespace Binary

variable {f : BinaryFormat}

theorem key?_ofInt (n : Int) :
    (ofInt n : Binary f).key? =
      some (if n < 0 then -(min (f.nearest n.natAbs 1) f.infinity : Int)
        else (min (f.nearest n.natAbs 1) f.infinity : Int)) := by
  by_cases negative : n < 0 <;> simp [ofInt, ofRatio, ofCode, key?, negative]

/-- Rounding keeps the order of integers, be they negative or not. -/
theorem key?_ofInt_mono {m n i j : Int} (less : m ≤ n) (first : (ofInt m : Binary f).key? = some i)
    (second : (ofInt n : Binary f).key? = some j) : i ≤ j := by
  rw [key?_ofInt, Option.some.injEq] at first second
  subst first second
  have up : 0 ≤ m → f.nearest m.natAbs 1 ≤ f.nearest n.natAbs 1 :=
    fun _ => BinaryFormat.nearest_mono (by omega) 1
  have down : n < 0 → f.nearest n.natAbs 1 ≤ f.nearest m.natAbs 1 :=
    fun _ => BinaryFormat.nearest_mono (by omega) 1
  split_ifs <;> omega

end Binary

namespace Value

/-! ## Places among values of another kind -/

/-- The place of a value among those of the kind that compares with its own: that of an integer
among the doubles, and that of a text among the identifiers. -/
def place? : Value → Option Int
  | integer n => (Binary.ofInt n.val : Double).key?
  | real x => x.key?
  | text s | choice s => (Uuid.read s).toOption.map fun u => (u.bits : Int)
  | uuid u => some u.bits
  | _ => none

/-- The other kind of values that those of a family compare with, if there is one. -/
def Family.partner : Family → Family
  | integer => real
  | real => integer
  | text => uuid
  | uuid => text
  | family => family

/-- An identifier compares with a text only if that writes one. -/
theorem compareUuid_eq_some {u : Uuid} {s : String} {o : Ordering}
    (ok : compareUuid u s = some o) :
    ∃ v, Uuid.read s = .ok v ∧ o = Ord.compare (u.bits : Int) (v.bits : Int) := by
  unfold compareUuid at ok
  split at ok
  · rename_i v read
    exact ⟨v, read, (Option.some.inj ok).symm.trans (compare_singleton _ _)⟩
  · cases ok

theorem compare?_eq_some {x y : Double} {o : Ordering} (ok : x.compare? y = some o) :
    ∃ i j, x.key? = some i ∧ y.key? = some j ∧ o = Ord.compare i j := by
  unfold Binary.compare? at ok
  split at ok
  · rename_i i j first second
    exact ⟨i, j, first, second, (Option.some.inj ok).symm⟩
  · cases ok

theorem compare?_of_key? {x y : Double} {i j : Int} (first : x.key? = some i)
    (second : y.key? = some j) : x.compare? y = some (Ord.compare i j) := by
  rw [Binary.compare?, first, second]

theorem place?_text {s : String} {u : Uuid} (read : Uuid.read s = .ok u) :
    (text s).place? = some (u.bits : Int) := by
  rw [place?, read]
  rfl

/-- Values of different kinds compare as their places do. -/
theorem compare_of_family_ne {v w : Value} {o : Ordering} (apart : v.family ≠ w.family)
    (ok : v.compare w = some o) :
    w.family = v.family.partner ∧
      ∃ i j, v.place? = some i ∧ w.place? = some j ∧ o = Ord.compare i j := by
  cases v <;> cases w <;> try first | exact absurd rfl apart | cases ok
  case integer.real | real.integer => exact ⟨rfl, compare?_eq_some ok⟩
  case uuid.text u s | uuid.choice u s =>
    obtain ⟨v, read, order⟩ := compareUuid_eq_some ok
    exact ⟨rfl, u.bits, v.bits, rfl, place?_text read, order⟩
  case text.uuid s u | choice.uuid s u =>
    obtain ⟨o, turned, rfl⟩ := Option.map_eq_some_iff.1 ok
    obtain ⟨v, read, rfl⟩ := compareUuid_eq_some turned
    exact ⟨rfl, v.bits, u.bits, place?_text read, rfl, swap_compare _ _⟩

/-- Values of one kind compare as they stand in their family. -/
theorem compare_of_family_eq {v w : Value} {o : Ordering} (alike : v.family = w.family)
    (ok : v.compare w = some o) : o = Ord.compare v.rank w.rank := by
  have first : v ≠ real .nan := by
    rintro rfl
    cases w <;> cases ok
  have second : w ≠ real .nan := by
    rintro rfl
    rw [← map_swap_compare] at ok
    cases v <;> cases ok
  rw [← compare_of_family alike first second, ok]
  rfl

/-! ## Three values -/

/-- Of two integers the first is less, but both are rounded to the double that is the third
value. -/
def Merged (v w x : Value) : Prop :=
  ∃ m n r, v = integer m ∧ w = integer n ∧ x = real r ∧ m.val < n.val ∧
    (Binary.ofInt m.val : Double).compare? r = some .eq ∧
      (Binary.ofInt n.val : Double).compare? r = some .eq

/-- Of two texts or names of choices the first is less, but both write identifiers, and the third
value is an identifier that is not less than that of the second nor greater than that of the
first. -/
def Misspelt (v w x : Value) : Prop :=
  ∃ s t i j u, v.text? = some s ∧ w.text? = some t ∧ x = uuid u ∧
    Uuid.read s = .ok i ∧ Uuid.read t = .ok j ∧ Ord.compare s t = .lt ∧
      Ord.compare j u ≠ .gt ∧ Ord.compare u i ≠ .gt

/-- Comparison is transitive for three values in a row: if the first is at most the second, the
second at most the third, and the first and the third compare at all, then the first is at most the
third, and is equal to it only if all are equal. -/
def Transitive (a b c : Value) : Prop :=
  Criterion.notAbove a b = true → Criterion.notAbove b c = true → a.compare c ≠ none →
    Criterion.notAbove a c = true ∧
      (a.compare c = some .eq → a.compare b = some .eq ∧ b.compare c = some .eq)

/-- Three values in a circle, each of which is at most the next one, are all equal. -/
def Level (a b c : Value) : Prop :=
  Criterion.notAbove a b = true → Criterion.notAbove b c = true → Criterion.notAbove c a = true →
    a.compare b = some .eq ∧ b.compare c = some .eq ∧ c.compare a = some .eq

/-- What is not above another value compares with it. -/
theorem notAbove_iff {v w : Value} :
    Criterion.notAbove v w = true ↔ ∃ o, v.compare w = some o ∧ o ≠ .gt := by
  unfold Criterion.notAbove
  cases v.compare w with
  | none => simp
  | some o => cases o <;> simp

theorem Level.turn {a b c : Value} (level : Level a b c) : Level b c a := by
  intro second third first
  obtain ⟨ab, bc, ca⟩ := level first second third
  exact ⟨bc, ca, ab⟩

/-- The law for a row is one for a circle, which can be turned. -/
theorem transitive_iff_level {a b c : Value} : Transitive a b c ↔ Level a b c := by
  constructor
  · intro transitive first second third
    obtain ⟨o, ok, notGreater⟩ := notAbove_iff.1 third
    have back : a.compare c = some o.swap := by rw [← map_swap_compare, ok, Option.map_some]
    obtain ⟨below, equal⟩ := transitive first second (back ▸ nofun)
    obtain ⟨o', ok', notGreater'⟩ := notAbove_iff.1 below
    obtain rfl := Option.some.inj (back.symm.trans ok')
    cases o with
    | lt => exact absurd rfl notGreater'
    | eq => exact ⟨(equal back).1, (equal back).2, ok⟩
    | gt => exact absurd rfl notGreater
  · intro level first second comparable
    obtain ⟨o, ok⟩ := Option.ne_none_iff_exists'.1 comparable
    have back : c.compare a = some o.swap := by rw [← map_swap_compare, ok, Option.map_some]
    cases o with
    | lt => exact ⟨notAbove_iff.2 ⟨.lt, ok, nofun⟩, fun equal => nomatch ok.symm.trans equal⟩
    | eq =>
      obtain ⟨ab, bc, -⟩ := level first second (notAbove_iff.2 ⟨.eq, back, nofun⟩)
      exact ⟨notAbove_iff.2 ⟨.eq, ok, nofun⟩, fun _ => ⟨ab, bc⟩⟩
    | gt =>
      obtain ⟨-, -, ca⟩ := level first second (notAbove_iff.2 ⟨.lt, back, nofun⟩)
      exact nomatch back.symm.trans ca

/-- In a linear order nothing rises in a circle. -/
theorem eq_of_circle {α : Type} [Ord α] [Std.TransOrd α] {a b c : α}
    (first : Ord.compare a b ≠ .gt) (second : Ord.compare b c ≠ .gt)
    (third : Ord.compare c a ≠ .gt) :
    Ord.compare a b = .eq ∧ Ord.compare b c = .eq ∧ Ord.compare c a = .eq := by
  have ab := Ordering.isLE_iff_ne_gt.2 first
  have bc := Ordering.isLE_iff_ne_gt.2 second
  have ca := Ordering.isLE_iff_ne_gt.2 third
  refine ⟨?_, ?_, ?_⟩
  · exact Std.OrientedCmp.isLE_antisymm ab (Std.TransCmp.isLE_trans bc ca)
  · exact Std.OrientedCmp.isLE_antisymm bc (Std.TransCmp.isLE_trans ca ab)
  · exact Std.OrientedCmp.isLE_antisymm ca (Std.TransCmp.isLE_trans ab bc)

/-- Comparison is transitive among values of one kind. -/
theorem level_of_family {a b c : Value} (first : a.family = b.family)
    (second : b.family = c.family) : Level a b c := by
  intro ab bc ca
  obtain ⟨o, ok, le⟩ := notAbove_iff.1 ab
  obtain ⟨o', ok', le'⟩ := notAbove_iff.1 bc
  obtain ⟨o'', ok'', le''⟩ := notAbove_iff.1 ca
  obtain rfl := compare_of_family_eq first ok
  obtain rfl := compare_of_family_eq second ok'
  obtain rfl := compare_of_family_eq (first.trans second).symm ok''
  rw [ok, ok', ok'']
  simpa only [Option.some.injEq] using eq_of_circle le le' le''

/-! ## Two values of one kind beside another one -/

section Beside

variable {v w x : Value} {s t : String} {o : Ordering} {i j k : Int}

theorem place?_eq_some_of_text? (written : v.text? = some s) (place : v.place? = some i) :
    ∃ u, Uuid.read s = .ok u ∧ i = u.bits := by
  have place : (Uuid.read s).toOption.map (fun u => (u.bits : Int)) = some i := by
    cases v with
    | text t | choice t =>
      obtain rfl := Option.some.inj written
      exact place
    | _ => cases written
  cases read : Uuid.read s with
  | error fault =>
    rw [read] at place
    cases place
  | ok u =>
    rw [read] at place
    exact ⟨u, rfl, (Option.some.inj place).symm⟩

theorem compare_of_text? (first : v.text? = some s) (second : w.text? = some t) :
    v.compare w = some (Ord.compare s t) := by
  cases v <;> cases first <;> cases w <;> cases second <;> rfl

/-- A text that is at most another one is the same if an identifier is between theirs, the other
one's being the lesser, unless this is an exception. -/
theorem compare_text_beside {u : Uuid} (spelt : ¬ Misspelt v w (uuid u))
    (first : v.text? = some s) (second : w.text? = some t) (ok : v.compare w = some o)
    (notGreater : o ≠ .gt) (left : v.place? = some i) (right : w.place? = some j)
    (below : Ord.compare j u.bits ≠ .gt) (above : Ord.compare (u.bits : Int) i ≠ .gt) :
    o = .eq ∧ i = j := by
  obtain ⟨p, readLeft, rfl⟩ := place?_eq_some_of_text? first left
  obtain ⟨q, readRight, rfl⟩ := place?_eq_some_of_text? second right
  obtain rfl := Option.some.inj (ok.symm.trans (compare_of_text? first second))
  have bits (y z : Uuid) : Ord.compare y z = Ord.compare (y.bits : Int) z.bits :=
    compare_singleton _ _
  cases order : Ord.compare s t with
  | lt =>
    exact absurd ⟨s, t, p, q, u, first, second, rfl, readLeft, readRight, order,
      bits q u ▸ below, bits u p ▸ above⟩ spelt
  | eq =>
    obtain rfl := Std.LawfulEqOrd.eq_of_compare order
    obtain rfl := Except.ok.inj (readLeft.symm.trans readRight)
    exact ⟨rfl, rfl⟩
  | gt => exact absurd order notGreater

/-- An integer that is at most another one is the same if a double is between theirs, the other
one's being the lesser, unless this is an exception. -/
theorem compare_integer_beside {m n : Bounded .signed64} {r : Double}
    (unmerged : ¬ Merged (integer m) (integer n) (real r))
    (notGreater : Ord.compare m.val n.val ≠ .gt)
    (left : (Binary.ofInt m.val : Double).key? = some i)
    (right : (Binary.ofInt n.val : Double).key? = some j) (beside : r.key? = some k)
    (below : Ord.compare j k ≠ .gt) (above : Ord.compare k i ≠ .gt) :
    Ord.compare m.val n.val = .eq ∧ i = j := by
  have rises : Ord.compare i j ≠ .gt :=
    compare_le_iff_le.2 (Binary.key?_ofInt_mono (compare_le_iff_le.1 notGreater) left right)
  obtain ⟨ij, jk, ki⟩ := eq_of_circle rises below above
  refine ⟨?_, Int.compare_eq_eq.1 ij⟩
  cases order : Ord.compare m.val n.val with
  | lt =>
    refine absurd ⟨m, n, r, rfl, rfl, rfl, Int.compare_eq_lt.1 order, ?_, ?_⟩ unmerged
    · rw [compare?_of_key? left beside, ← Int.compare_eq_eq.1 ki]
      exact congrArg some Std.ReflCmp.compare_self
    · rw [compare?_of_key? right beside, jk]
  | eq => rfl
  | gt => exact absurd order notGreater

/-- A value that is at most another one of its kind is equal to it if a value of the kind that both
compare with is between them, the other one being the lesser, unless this is an exception. -/
theorem compare_beside (unmerged : ¬ Merged v w x) (spelt : ¬ Misspelt v w x)
    (alike : v.family = w.family) (partner : x.family = w.family.partner)
    (ok : v.compare w = some o) (notGreater : o ≠ .gt) (left : v.place? = some i)
    (right : w.place? = some j) (beside : x.place? = some k) (below : Ord.compare j k ≠ .gt)
    (above : Ord.compare k i ≠ .gt) : o = .eq ∧ i = j := by
  have of_eq (order : o = Ord.compare i j) : o = .eq ∧ i = j := by
    obtain ⟨ij, -, -⟩ := eq_of_circle (order ▸ notGreater) below above
    exact ⟨order.trans ij, Int.compare_eq_eq.1 ij⟩
  cases v <;> cases w <;> cases alike
  case integer.integer m n =>
    cases x <;> cases partner
    obtain rfl := Option.some.inj ok
    exact compare_integer_beside unmerged notGreater left right beside below above
  case real.real y z =>
    exact of_eq (Option.some.inj (ok.symm.trans (compare?_of_key? left right)))
  case uuid.uuid y z =>
    obtain rfl := Option.some.inj left
    obtain rfl := Option.some.inj right
    exact of_eq ((Option.some.inj ok).symm.trans (compare_singleton _ _))
  case text.text | text.choice | choice.text | choice.choice =>
    cases x <;> cases partner
    obtain rfl := Option.some.inj beside
    exact compare_text_beside spelt rfl rfl ok notGreater left right below above
  all_goals cases left

/-- Comparison is transitive for two values of one kind and one of another, unless they are merged
or misspelt. -/
theorem level_beside (unmerged : ¬ Merged v w x) (spelt : ¬ Misspelt v w x)
    (alike : v.family = w.family) (apart : w.family ≠ x.family) : Level v w x := by
  intro first second third
  obtain ⟨o, ok, le⟩ := notAbove_iff.1 first
  obtain ⟨o', ok', le'⟩ := notAbove_iff.1 second
  obtain ⟨o'', ok'', le''⟩ := notAbove_iff.1 third
  obtain ⟨partner, j, k, right, beside, rfl⟩ := compare_of_family_ne apart ok'
  obtain ⟨-, k', i, beside', left, rfl⟩ :=
    compare_of_family_ne (fun same => apart (alike ▸ same.symm)) ok''
  obtain rfl := Option.some.inj (beside.symm.trans beside')
  obtain ⟨rfl, rfl⟩ :=
    compare_beside unmerged spelt alike partner ok le left right beside le' le''
  have self : Ord.compare i i = .eq := Std.ReflCmp.compare_self
  obtain ⟨-, jk, ki⟩ := eq_of_circle (self ▸ nofun) le' le''
  exact ⟨ok, ok'.trans (congrArg some jk), ok''.trans (congrArg some ki)⟩

end Beside

/-! ## The law and its exceptions -/

/-- Two of three values that compare are of one kind. -/
theorem family_eq_of_compare {a b c : Value} {o o' : Ordering} (first : a.compare b = some o)
    (second : b.compare c = some o') (apart : a.family ≠ b.family) (apart' : b.family ≠ c.family) :
    c.family = a.family := by
  obtain ⟨partner, -⟩ := compare_of_family_ne apart first
  obtain ⟨partner', -⟩ := compare_of_family_ne apart' second
  rw [partner', partner]
  cases a.family <;> rfl

/-- Of three values that are neither merged nor misspelt, in any rotation, all are equal if each is
at most the next. -/
theorem level_of_spelt {a b c : Value} (unmerged : ¬ (Merged a b c ∨ Merged b c a ∨ Merged c a b))
    (spelt : ¬ (Misspelt a b c ∨ Misspelt b c a ∨ Misspelt c a b)) : Level a b c := by
  simp only [not_or] at unmerged spelt
  obtain ⟨mab, mbc, mca⟩ := unmerged
  obtain ⟨sab, sbc, sca⟩ := spelt
  by_cases ab : a.family = b.family
  · by_cases bc : b.family = c.family
    · exact level_of_family ab bc
    · exact level_beside mab sab ab bc
  · by_cases bc : b.family = c.family
    · exact (level_beside mbc sbc bc fun ca => ab (bc.trans ca).symm).turn.turn
    · intro first second third
      obtain ⟨o, ok, -⟩ := notAbove_iff.1 first
      obtain ⟨o', ok', -⟩ := notAbove_iff.1 second
      have ca := family_eq_of_compare ok ok' ab bc
      exact (level_beside mca sca ca ab).turn first second third

/-- An identifier compares with a text as with the identifier written there. -/
theorem compare_uuid_of_text? {v : Value} {s : String} {i : Uuid} (written : v.text? = some s)
    (read : Uuid.read s = .ok i) (u : Uuid) : (uuid u).compare v = some (Ord.compare u i) := by
  have own : (uuid u).compare v = compareUuid u s := by
    cases v <;> cases written <;> rfl
  rw [own, compareUuid, read]

theorem not_level_of_misspelt {v w x : Value} (misspelt : Misspelt v w x) : ¬ Level v w x := by
  obtain ⟨s, t, i, j, u, first, second, rfl, readFirst, readSecond, less, below, above⟩ := misspelt
  intro level
  have texts : v.compare w = some .lt := (compare_of_text? first second).trans (congrArg some less)
  have back : w.compare (uuid u) = some (Ord.compare j u) := by
    rw [← map_swap_compare, compare_uuid_of_text? second readSecond]
    exact congrArg some (swap_compare u j)
  obtain ⟨equal, -, -⟩ := level (notAbove_iff.2 ⟨_, texts, nofun⟩) (notAbove_iff.2 ⟨_, back, below⟩)
    (notAbove_iff.2 ⟨_, compare_uuid_of_text? first readFirst u, above⟩)
  exact nomatch texts.symm.trans equal

/-- **For which values comparison is transitive**: for any three of any kinds, two of which are not
integers that are both rounded to the third, unless two of them are texts of which one is less,
though its identifier is not, and the third is an identifier between theirs. -/
theorem compare_trans (a b c : Value) (unmerged : ¬ (Merged a b c ∨ Merged b c a ∨ Merged c a b)) :
    Transitive a b c ↔ ¬ (Misspelt a b c ∨ Misspelt b c a ∨ Misspelt c a b) := by
  rw [transitive_iff_level]
  constructor
  · rintro level (misspelt | misspelt | misspelt)
    · exact not_level_of_misspelt misspelt level
    · exact not_level_of_misspelt misspelt level.turn
    · exact not_level_of_misspelt misspelt level.turn.turn
  · exact level_of_spelt unmerged

section Limits

/-- The greatest integer up to which every integer is a double. -/
def lastExact : Bounded .signed64 := ⟨9007199254740992, by decide⟩

/-- The integer before it. -/
def beforeLastExact : Bounded .signed64 := ⟨9007199254740991, by decide⟩

/-- The integer after it, which is rounded to it. -/
def afterLastExact : Bounded .signed64 := ⟨9007199254740993, by decide⟩

/-- A greater identifier, written in capital letters. -/
def capitals : String := "F0000000-0000-4000-8000-000000000000"

/-- A lesser identifier, written in small letters. -/
def smallLetters : String := "a0000000-0000-4000-8000-000000000000"

/-- An identifier between the two. -/
def between : Uuid := ⟨0xC0000000000040008000000000000000, by decide⟩

/-- Two integers around the last exact one, and the double between them. -/
theorem compare_trans_lastExact :
    ¬ (Merged (integer beforeLastExact) (integer afterLastExact) (real (.ofInt lastExact.val)) ∨
        Merged (integer afterLastExact) (real (.ofInt lastExact.val)) (integer beforeLastExact) ∨
        Merged (real (.ofInt lastExact.val)) (integer beforeLastExact) (integer afterLastExact)) ∧
      Transitive (integer beforeLastExact) (integer afterLastExact)
        (real (.ofInt lastExact.val)) := by
  have unmerged :
      ¬ (Merged (integer beforeLastExact) (integer afterLastExact) (real (.ofInt lastExact.val)) ∨
        Merged (integer afterLastExact) (real (.ofInt lastExact.val)) (integer beforeLastExact) ∨
        Merged (real (.ofInt lastExact.val)) (integer beforeLastExact)
          (integer afterLastExact)) := by
    rintro (⟨m, n, r, first, -, third, -, rounded, -⟩ | ⟨m, n, r, -, double, -⟩ |
      ⟨m, n, r, double, -⟩)
    · cases first
      cases third
      revert rounded
      decide +kernel
    · cases double
    · cases double
  refine ⟨unmerged, (compare_trans _ _ _ unmerged).2 ?_⟩
  rintro (⟨s, t, i, j, u, text, -⟩ | ⟨s, t, i, j, u, text, -⟩ | ⟨s, t, i, j, u, text, -⟩) <;>
    cases text

/-- An integer is equal to the double it is rounded to, and that to the integer before; and a text
in capital letters is less than one in small letters, and that than an identifier which is less
than the one that the first text writes. -/
theorem not_forall_transitive :
    ¬ Transitive (integer afterLastExact) (real (.ofInt lastExact.val)) (integer lastExact) ∧
      ¬ Transitive (text capitals) (text smallLetters) (uuid between) ∧
      ¬ ∀ a b c : Value, Transitive a b c := by
  have numbers : ¬ Transitive (integer afterLastExact) (real (.ofInt lastExact.val))
      (integer lastExact) := by
    unfold Transitive
    decide +kernel
  have texts : ¬ Transitive (text capitals) (text smallLetters) (uuid between) := by
    unfold Transitive
    decide +kernel
  exact ⟨numbers, texts, fun transitive => numbers (transitive _ _ _)⟩

end Limits

end Value

end Listing
