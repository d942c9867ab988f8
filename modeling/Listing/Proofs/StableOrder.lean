import Mathlib
import Listing.Sorting.Merging

/-!
# Stable orders of lists

An order says when an item is less than another.  If it does not contradict itself among the
items of a list, the items have ranks, and there is exactly one way of sorting the list so that
items of one rank keep their order.

* `SortedStably` says what a sorted list has to do with the unsorted one, for any order;
* `Consistent` says that an order does not contradict itself, and `Consistent.exists_graded`
  finds ranks for it;
* `Ordered` is the same as `SortedStably` where there are ranks, and `Ordered.unique` says that
  it leaves no choice;
* `Sorts` is what every way of sorting does, and `Yields` says it of one that may fail.
-/

namespace Listing.Sorting

variable {α β γ : Type}

/-! ## Orders and ranks -/

/-- What a list of items sorted stably has to do with the unsorted one. -/
structure SortedStably (less : α → α → Bool) (items sorted : List α) : Prop where
  /-- Every item is there as often as before. -/
  perm : sorted.Perm items
  /-- No item is less than the one before it. -/
  ordered : sorted.IsChain fun a b => less b a = false
  /-- Items of which none is less than another come in the same order as before. -/
  stable : ∀ tied : α → Bool,
    (∀ a ∈ items, ∀ b ∈ items, tied a → tied b → less a b = false) →
    sorted.filter tied = items.filter tied

/-- An order does not contradict itself among items: of two items at most one is less than the
other, and being no less is transitive. -/
structure Consistent (less : α → α → Bool) (items : List α) : Prop where
  asymm : ∀ a ∈ items, ∀ b ∈ items, less a b = true → less b a = false
  trans : ∀ a ∈ items, ∀ b ∈ items, ∀ c ∈ items,
    less b a = false → less c b = false → less c a = false

/-- An order that does not contradict itself does not do so among fewer items. -/
theorem Consistent.mono {less : α → α → Bool} {items part : List α} (c : Consistent less items)
    (among : ∀ a ∈ part, a ∈ items) : Consistent less part where
  asymm a ha b hb := c.asymm a (among a ha) b (among b hb)
  trans a ha b hb d hd := c.trans a (among a ha) b (among b hb) d (among d hd)

/-- Items have ranks, and those of a smaller rank are less. -/
def Graded (less : α → α → Bool) (rank : α → ℤ) (items : List α) : Prop :=
  ∀ a ∈ items, ∀ b ∈ items, less a b = decide (rank a < rank b)

section Ranks

variable {less : α → α → Bool} {rank : α → ℤ} {items part : List α}

theorem Graded.mono (g : Graded less rank items) (among : ∀ a ∈ part, a ∈ items) :
    Graded less rank part :=
  fun a ha b hb => g a (among a ha) b (among b hb)

/-- An item is not less than those of at most its rank. -/
theorem Graded.eq_false_iff (g : Graded less rank items) {a b : α} (ha : a ∈ items)
    (hb : b ∈ items) : less b a = false ↔ rank a ≤ rank b := by
  rw [g b hb a ha, decide_eq_false_iff_not, Int.not_lt]

/-- An item is less than those of a greater rank. -/
theorem Graded.eq_true_iff (g : Graded less rank items) {a b : α} (ha : a ∈ items)
    (hb : b ∈ items) : less a b = true ↔ rank a < rank b := by
  rw [g a ha b hb, decide_eq_true_iff]

/-- Where there are ranks, the order does not contradict itself. -/
theorem Graded.consistent (g : Graded less rank items) : Consistent less items where
  asymm a ha b hb ab := by
    rw [g.eq_false_iff ha hb]
    exact ((g.eq_true_iff ha hb).1 ab).le
  trans a ha b hb c hc ba cb := by
    rw [g.eq_false_iff ha hb] at ba
    rw [g.eq_false_iff hb hc] at cb
    rw [g.eq_false_iff ha hc]
    exact ba.trans cb

/-- Turned round, an order has the ranks turned round. -/
theorem Graded.flip (g : Graded less rank items) :
    Graded (fun a b => less b a) (fun a => -rank a) items := by
  intro a ha b hb
  simp only [g b hb a ha, Int.neg_lt_neg_iff]

/-- Fewer items are less than the smaller one of two items. -/
theorem Consistent.countP_lt_countP (c : Consistent less items) {a b : α} (ha : a ∈ items)
    (hb : b ∈ items) (ab : less a b = true) :
    items.countP (less · a) < items.countP (less · b) := by
  have ba := c.asymm a ha b hb ab
  have below : ∀ x ∈ items, less x a = true → less x b = true := fun x hx xa => by
    by_contra xb
    rw [c.trans a ha b hb x hx ba (by simpa using xb)] at xa
    cases xa
  -- The smaller item itself is less than the greater one, but not less than itself.
  have self : less a a = false := by
    by_contra aa
    exact aa (c.asymm a ha a ha (by simpa using aa))
  have both : (items.filter (less · b)).filter (less · a) = items.filter (less · a) := by
    rw [List.filter_filter]
    exact List.filter_congr fun x hx => by cases xa : less x a <;> simp [below x hx, xa]
  have fewer : (items.filter (less · a)).Sublist (items.filter (less · b)) :=
    both ▸ List.filter_sublist
  rw [List.countP_eq_length_filter, List.countP_eq_length_filter]
  refine lt_of_le_of_ne fewer.length_le fun same => ?_
  have member : a ∈ items.filter (less · a) :=
    fewer.eq_of_length same ▸ List.mem_filter.2 ⟨ha, ab⟩
  rw [(List.mem_filter.1 member).2] at self
  cases self

/-- The rank of an item can be how many items are less than it. -/
theorem Consistent.exists_graded (c : Consistent less items) :
    ∃ rank, Graded less rank items := by
  refine ⟨fun a => items.countP (less · a), fun a ha b hb => ?_⟩
  simp only [Nat.cast_lt]
  cases ab : less a b with
  | true => exact (decide_eq_true (c.countP_lt_countP ha hb ab)).symm
  | false =>
    have le : items.countP (less · b) ≤ items.countP (less · a) :=
      List.countP_mono_left fun x hx xb => by
        by_contra xa
        rw [c.trans b hb a ha x hx ab (by simpa using xa)] at xb
        cases xb
    exact (decide_eq_false (Nat.not_lt.2 le)).symm

end Ranks

/-! ## Sorting by ranks -/

/-- A list is sorted by ranks, and items of one rank come in the same order as before. -/
structure Ordered (rank : α → ℤ) (items sorted : List α) : Prop where
  ascending : sorted.Pairwise fun a b => rank a ≤ rank b
  stable : ∀ k, sorted.filter (fun a => rank a = k) = items.filter fun a => rank a = k

namespace Ordered

variable {rank : α → ℤ} {items sorted left right left' right' : List α}

theorem mem_iff (o : Ordered rank items sorted) {a : α} : a ∈ sorted ↔ a ∈ items := by
  have same := o.stable (rank a)
  have inLeft : a ∈ sorted.filter (fun b => rank b = rank a) ↔ a ∈ sorted := by simp
  have inRight : a ∈ items.filter (fun b => rank b = rank a) ↔ a ∈ items := by simp
  rw [← inLeft, same, inRight]

/-- What is in order already need not be changed. -/
theorem refl (ascending : items.Pairwise fun a b => rank a ≤ rank b) :
    Ordered rank items items :=
  ⟨ascending, fun _ => rfl⟩

/-- Items one after another with every rank smaller than the one before are turned round. -/
theorem reverse (descending : items.Pairwise fun a b => rank b < rank a) :
    Ordered rank items items.reverse := by
  refine ⟨List.pairwise_reverse.2 (descending.imp le_of_lt), fun k => ?_⟩
  -- No two of the items have the same rank.
  have few : (items.filter fun a => rank a = k).length ≤ 1 := by
    have apart := descending.filter (fun a => decide (rank a = k))
    cases found : items.filter fun a => rank a = k with
    | nil => exact Nat.zero_le _
    | cons a rest =>
      cases rest with
      | nil => exact le_rfl
      | cons b rest =>
        have ha : a ∈ items.filter fun a => rank a = k := found ▸ by simp
        have hb : b ∈ items.filter fun a => rank a = k := found ▸ by simp
        rw [found] at apart
        have less := List.rel_of_pairwise_cons apart List.mem_cons_self
        simp only [List.mem_filter, decide_eq_true_eq] at ha hb
        omega
  rw [List.filter_reverse]
  match items.filter fun a => rank a = k, few with
  | [], _ => rfl
  | [a], _ => rfl

/-- Sorting from the other end. -/
theorem flip (o : Ordered (fun a => -rank a) items.reverse sorted) :
    Ordered rank items sorted.reverse := by
  refine ⟨List.pairwise_reverse.2 (o.ascending.imp fun le => by omega), fun k => ?_⟩
  have same := o.stable (-k)
  simp only [neg_inj] at same
  rw [List.filter_reverse, same, List.filter_reverse, List.reverse_reverse]

/-- The items that pass a test and the others are sorted each for themselves, if the ones that pass
have the smaller ranks. -/
theorem partition {test : α → Bool} (low : Ordered rank (items.filter test) left')
    (high : Ordered rank (items.filter (!test ·)) right')
    (apart : ∀ a ∈ items, ∀ b ∈ items, test a = true → test b = false → rank a < rank b) :
    Ordered rank items (left' ++ right') := by
  refine ⟨List.pairwise_append.2 ⟨low.ascending, high.ascending, fun a ha b hb => ?_⟩,
    fun k => ?_⟩
  · obtain ⟨ha, passes⟩ := List.mem_filter.1 (low.mem_iff.1 ha)
    obtain ⟨hb, fails⟩ := List.mem_filter.1 (high.mem_iff.1 hb)
    exact (apart a ha b hb passes (by simpa using fails)).le
  · rw [List.filter_append, low.stable, high.stable, List.filter_filter, List.filter_filter]
    -- Items of one rank all pass the test or all fail it.
    by_cases some : ∃ a ∈ items, rank a = k ∧ test a = true
    · obtain ⟨a, ha, rfl, passes⟩ := some
      have all : ∀ b ∈ items, rank b = rank a → test b = true := fun b hb same => by
        by_contra fails
        have := apart a ha b hb passes (by simpa using fails)
        omega
      have none : items.filter (fun b => decide (rank b = rank a) && !test b) = [] :=
        List.filter_eq_nil_iff.2 fun b hb => by simpa using all b hb
      rw [none, List.append_nil]
      exact List.filter_congr fun b hb => by
        by_cases same : rank b = rank a <;> simp [same, all b hb]
    · have fails : ∀ b ∈ items, rank b = k → test b = false := fun b hb same => by
        by_contra passes
        exact some ⟨b, hb, same, by simpa using passes⟩
      have none : items.filter (fun b => decide (rank b = k) && test b) = [] :=
        List.filter_eq_nil_iff.2 fun b hb => by simpa using fails b hb
      rw [none, List.nil_append]
      exact List.filter_congr fun b hb => by
        by_cases same : rank b = k <;> simp [same, fails b hb]

/-- The items of one rank in a merged list: first those of the left list. -/
theorem filter_merge (k : ℤ) :
    ∀ l r : List α, (l.Pairwise fun a b => rank a ≤ rank b) →
      (r.Pairwise fun a b => rank a ≤ rank b) →
      (l.merge r fun a b => decide (rank a ≤ rank b)).filter (fun a => rank a = k) =
        l.filter (fun a => rank a = k) ++ r.filter fun a => rank a = k
  | [], r, _, _ => by simp
  | l, [], _, _ => by simp
  | a :: l, b :: r, up, up' => by
    rw [List.cons_merge_cons]
    split
    · rw [List.filter_cons, List.filter_cons,
        filter_merge k l (b :: r) up.of_cons up']
      split <;> rfl
    · rename_i greater
      rw [List.filter_cons, filter_merge k (a :: l) r up up'.of_cons, List.filter_cons (x := b)]
      split
      · rename_i same
        -- All that is left of the left list has a greater rank.
        have none : (a :: l).filter (fun a => rank a = k) = [] := by
          rw [List.filter_eq_nil_iff]
          intro x hx
          simp only [decide_eq_true_eq] at same greater ⊢
          have le : rank a ≤ rank x := by
            rcases List.mem_cons.1 hx with rfl | later
            · exact le_rfl
            · exact List.rel_of_pairwise_cons up later
          omega
        rw [none]
        rfl
      · rfl

/-- Two sorted lists merged by ranks are both sorted together, the items of the first before their
equals. -/
theorem merge (low : Ordered rank left left') (high : Ordered rank right right') :
    Ordered rank (left ++ right)
      (left'.merge right' fun a b => decide (rank a ≤ rank b)) := by
  refine ⟨?_, fun k => ?_⟩
  · have transitive : ∀ a b c : α, decide (rank a ≤ rank b) → decide (rank b ≤ rank c) →
        decide (rank a ≤ rank c) := fun a b c => by
      simp only [decide_eq_true_eq]
      exact le_trans
    have total : ∀ a b : α, decide (rank a ≤ rank b) || decide (rank b ≤ rank a) := fun a b => by
      simpa using le_total (rank a) (rank b)
    simpa using List.pairwise_merge transitive total left' right'
      (by simpa using low.ascending) (by simpa using high.ascending)
  · rw [filter_merge k _ _ low.ascending high.ascending, low.stable, high.stable,
      List.filter_append]

/-- Two lists that are sorted by ranks are the same if they have the same items of every rank. -/
theorem eq_of_filter_eq {first second : List α} (up : first.Pairwise fun a b => rank a ≤ rank b)
    (up' : second.Pairwise fun a b => rank a ≤ rank b)
    (same : ∀ k, first.filter (fun a => rank a = k) = second.filter fun a => rank a = k) :
    first = second := by
  induction first generalizing second with
  | nil =>
    cases second with
    | nil => rfl
    | cons b second => simpa using same (rank b)
  | cons a first ih =>
    cases second with
    | nil => simpa using same (rank a)
    | cons b second =>
      -- The first items have the least rank of all, so that they are of the same one.
      have equal : rank a = rank b := by
        have here : a ∈ b :: second := (Ordered.mk up same).mem_iff.1 List.mem_cons_self
        have there : b ∈ a :: first := (Ordered.mk up same).mem_iff.2 List.mem_cons_self
        rcases List.mem_cons.1 here with rfl | here
        · rfl
        · rcases List.mem_cons.1 there with rfl | there
          · rfl
          · exact le_antisymm (List.rel_of_pairwise_cons up there)
              (List.rel_of_pairwise_cons up' here)
      have heads := same (rank a)
      rw [List.filter_cons_of_pos (by simp), List.filter_cons_of_pos (by simp [equal])] at heads
      obtain ⟨rfl, -⟩ := List.cons.inj heads
      refine congrArg (a :: ·) (ih up.of_cons up'.of_cons fun k => ?_)
      have tails := same k
      by_cases here : rank a = k
      · rw [List.filter_cons_of_pos (by simpa using here),
          List.filter_cons_of_pos (by simpa using here)] at tails
        exact (List.cons.inj tails).2
      · rwa [List.filter_cons_of_neg (by simpa using here),
          List.filter_cons_of_neg (by simpa using here)] at tails

/-- There is only one way of sorting stably by ranks. -/
theorem unique {first second : List α} (o : Ordered rank items first)
    (o' : Ordered rank items second) : first = second :=
  eq_of_filter_eq o.ascending o'.ascending fun k => (o.stable k).trans (o'.stable k).symm

end Ordered

/-! ## Ways of sorting -/

/-- A list is rearranged, and sorted stably if the order does not contradict itself. -/
structure Sorts (less : α → α → Bool) (items sorted : List α) : Prop where
  perm : sorted.Perm items
  ordered : ∀ rank, Graded less rank items → Ordered rank items sorted

section Sorted

variable {less : α → α → Bool} {rank : α → ℤ} {items sorted : List α}

/-- Where there are ranks, sorting stably is sorting by them. -/
theorem SortedStably.toOrdered (s : SortedStably less items sorted)
    (g : Graded less rank items) : Ordered rank items sorted := by
  refine ⟨List.isChain_iff_pairwise.1 (s.ordered.imp_of_mem_imp ?_), fun k => ?_⟩
  · intro a b ha hb le
    exact (g.eq_false_iff (s.perm.mem_iff.1 ha) (s.perm.mem_iff.1 hb)).1 le
  · refine s.stable _ fun a ha b hb same same' => ?_
    rw [g.eq_false_iff hb ha]
    simp only [decide_eq_true_eq] at same same'
    omega

/-- Items of which none is less than another have one rank. -/
theorem Sorts.toSortedStably (s : Sorts less items sorted) (c : Consistent less items) :
    SortedStably less items sorted := by
  obtain ⟨rank, g⟩ := c.exists_graded
  have o := s.ordered rank g
  refine ⟨s.perm, ?_, fun tied ties => ?_⟩
  · refine (List.isChain_iff_pairwise.2 o.ascending).imp_of_mem_imp fun a b ha hb le => ?_
    exact (g.eq_false_iff (o.mem_iff.1 ha) (o.mem_iff.1 hb)).2 le
  · cases found : items.filter tied with
    | nil =>
      rw [List.filter_eq_nil_iff] at found ⊢
      exact fun a ha => found a (o.mem_iff.1 ha)
    | cons a rest =>
      obtain ⟨ha, tiedA⟩ := List.mem_filter.1 (found ▸ List.mem_cons_self : a ∈ items.filter tied)
      have narrow : ∀ {list : List α}, (∀ b ∈ list, b ∈ items) →
          list.filter tied = (list.filter fun b => rank b = rank a).filter tied := by
        intro list among
        rw [List.filter_filter]
        refine List.filter_congr fun b hb => ?_
        cases tiedB : tied b with
        | false => rfl
        | true =>
          have le := (g.eq_false_iff (among b hb) ha).1 (ties a ha b (among b hb) tiedA tiedB)
          have ge := (g.eq_false_iff ha (among b hb)).1 (ties b (among b hb) a ha tiedB tiedA)
          simp [le_antisymm le ge]
      rw [← found, narrow fun b => o.mem_iff.1, narrow fun b => id, o.stable]

/-- If being no less is transitive, no item is less than any before it. -/
theorem SortedStably.pairwise (s : SortedStably less items sorted) (c : Consistent less items) :
    sorted.Pairwise fun a b => less b a = false := by
  obtain ⟨rank, g⟩ := c.exists_graded
  have o := s.toOrdered g
  refine o.ascending.imp_of_mem fun ha hb le => ?_
  exact (g.eq_false_iff (o.mem_iff.1 ha) (o.mem_iff.1 hb)).2 le

end Sorted

/-! ## What may fail -/

/-- A result has a property; there is none only if a condition does not hold. -/
def Yields (ok : Prop) (property : β → Prop) : Option β → Prop
  | some b => property b
  | none => ¬ ok

namespace Yields

variable {ok ok' : Prop} {P : β → Prop} {Q : γ → Prop} {x : Option β}

theorem mono (y : Yields ok P x) (weaker : ok' → ok) : Yields ok' P x := by
  cases x with
  | none => exact mt weaker y
  | some b => exact y

/-- What a first step yields is handed on to a second one. -/
theorem bind (first : Yields ok P x) {f : β → Option γ}
    (next : ∀ b, P b → Yields ok Q (f b)) : Yields ok Q (x >>= f) := by
  cases x with
  | none => exact first
  | some b => exact next b first

theorem map (y : Yields ok P x) {f : β → γ} (next : ∀ b, P b → Q (f b)) :
    Yields ok Q (x.map f) := by
  cases x with
  | none => exact y
  | some b => exact next b y

theorem imp {P' : β → Prop} (y : Yields ok P x) (weaker : ∀ b, P b → P' b) : Yields ok P' x := by
  cases x with
  | none => exact y
  | some b => exact weaker b y

theorem of_eq_some (y : Yields ok P x) {b : β} (found : x = some b) : P b := by
  subst found
  exact y

theorem exists_eq_some (y : Yields ok P x) (holds : ok) : ∃ b, x = some b ∧ P b := by
  cases x with
  | none => exact absurd holds y
  | some b => exact ⟨b, rfl, y⟩

end Yields

end Listing.Sorting
