import Mathlib
import Listing.Proofs.StableOrder

/-!
# Sorting short lists

Every way of sorting a short list rearranges it, whatever the order says, and sorts it stably if
the order does not contradict itself.  Merging two halves from both ends is the only step that
can fail: the halves then meet at the same place if the order allows it, as both ends
are those of one and the same merged list.

* `SortedStably.insertAll` is about insertion, under any order of which at most one of two items
  is less than the other;
* `mergeHalves_yields` is about merging two halves;
* `small_yields` is about short lists, and `mergeRuns_sorts` about merging lists of any lengths.
-/

namespace Listing.Sorting

variable {α β : Type} {less : α → α → Bool} {rank : α → ℤ}

/-! ## Insertion -/

theorem place_perm (less : α → α → Bool) (x : α) (sorted : List α) :
    (place less x sorted).Perm (x :: sorted) := by
  induction sorted with
  | nil => exact .refl _
  | cons last rest ih =>
    simp only [place]
    split
    · exact (ih.cons last).trans (.swap x last rest)
    · exact .refl _

/-- An item placed behind one that is not less than it leaves the list in order. -/
theorem isChain_cons_place {x : α} {sorted : List α}
    (asymm : ∀ a ∈ sorted, less x a = true → less a x = false) :
    ∀ {last : α}, less last x = false →
      (last :: sorted).IsChain (fun a b => less a b = false) →
      (last :: place less x sorted).IsChain fun a b => less a b = false := by
  induction sorted with
  | nil =>
    intro last link _
    exact List.isChain_pair.2 link
  | cons next rest ih =>
    intro last link chain
    obtain ⟨step, tail⟩ := List.isChain_cons_cons.1 chain
    simp only [place]
    split
    · rename_i isLess
      exact List.isChain_cons_cons.2
        ⟨step, ih (fun a ha => asymm a (List.mem_cons_of_mem next ha))
          (asymm next List.mem_cons_self isLess) tail⟩
    · rename_i notLess
      exact List.isChain_cons_cons.2
        ⟨link, List.isChain_cons_cons.2 ⟨Bool.eq_false_iff.2 notLess, tail⟩⟩

/-- Where an item is put, it is in order with its neighbours, if of two items at most one
is less. -/
theorem isChain_place {x : α} {sorted : List α}
    (asymm : ∀ a ∈ sorted, less x a = true → less a x = false)
    (chain : sorted.IsChain fun a b => less a b = false) :
    (place less x sorted).IsChain fun a b => less a b = false := by
  cases sorted with
  | nil => exact List.isChain_singleton x
  | cons last rest =>
    simp only [place]
    split
    · rename_i isLess
      exact isChain_cons_place (fun a ha => asymm a (List.mem_cons_of_mem last ha))
        (asymm last List.mem_cons_self isLess) chain
    · rename_i notLess
      exact List.isChain_cons_cons.2 ⟨Bool.eq_false_iff.2 notLess, chain⟩

/-- An item comes before all earlier ones that it ties with, the last of the list being
the first here. -/
theorem filter_place {x : α} {sorted : List α} {tied : α → Bool}
    (ties : ∀ a ∈ sorted, tied x → tied a → less x a = false) :
    (place less x sorted).filter tied = (x :: sorted).filter tied := by
  induction sorted with
  | nil => rfl
  | cons last rest ih =>
    have later := ih fun a member => ties a (List.mem_cons_of_mem last member)
    simp only [place]
    split
    · rename_i isLess
      -- The item passes the last one, so at most one of the two is among the tied ones.
      rw [List.filter_cons, later]
      by_cases hx : tied x <;> by_cases hl : tied last
      · exact absurd isLess (Bool.eq_false_iff.1 (ties last List.mem_cons_self hx hl))
      all_goals simp [hx, hl]
    · rfl

theorem insertAll_append_singleton (less : α → α → Bool) (sorted items : List α) (x : α) :
    insertAll less sorted (items ++ [x]) =
      (place less x (insertAll less sorted items).reverse).reverse := by
  simp [insertAll]

theorem insertAll_perm (less : α → α → Bool) (sorted items : List α) :
    (insertAll less sorted items).Perm (sorted ++ items) := by
  induction items using List.reverseRecOn with
  | nil => simp [insertAll]
  | append_singleton items x ih =>
    rw [insertAll_append_singleton, ← List.append_assoc]
    refine (List.reverse_perm _).trans ((place_perm less x _).trans ?_)
    exact (((List.reverse_perm _).trans ih).cons x).trans (List.perm_append_singleton x _).symm

/-- **Insertion is stable** under every order of which at most one of two items is less than the
other. -/
theorem SortedStably.insertAll {items sorted more : List α} (s : SortedStably less items sorted)
    (asymm : ∀ a ∈ items ++ more, ∀ b ∈ items ++ more, less a b = true → less b a = false) :
    SortedStably less (items ++ more) (insertAll less sorted more) := by
  induction more using List.reverseRecOn with
  | nil => simpa [Sorting.insertAll] using s
  | append_singleton more x ih =>
    have earlier := ih fun a ha b hb =>
      asymm a (by simpa using (List.mem_append.1 ha).imp_right .inl) b
        (by simpa using (List.mem_append.1 hb).imp_right .inl)
    have known : ∀ a ∈ (Sorting.insertAll less sorted more).reverse, a ∈ items ++ more :=
      fun a member => earlier.perm.mem_iff.1 (List.mem_reverse.1 member)
    have perm := (insertAll_perm less sorted (more ++ [x])).trans (s.perm.append_right _)
    rw [insertAll_append_singleton, ← List.append_assoc] at *
    refine ⟨perm, ?_, fun tied ties => ?_⟩
    · refine List.isChain_reverse.2 (isChain_place (fun a ha => ?_)
        (List.isChain_reverse.2 earlier.ordered))
      exact asymm x (by simp) a (List.mem_append_left _ (known a ha))
    · have before := earlier.stable tied fun a ha b hb =>
        ties a (List.mem_append_left _ ha) b (List.mem_append_left _ hb)
      have behind : ∀ a ∈ (Sorting.insertAll less sorted more).reverse, tied x → tied a →
          less x a = false := fun a member =>
        ties x (by simp) a (List.mem_append_left _ (known a member))
      rw [List.filter_reverse, filter_place behind, List.filter_append, ← before]
      by_cases hx : tied x <;> simp [hx]

theorem Sorts.insertAll {items sorted : List α} (s : Sorts less items sorted) (more : List α) :
    Sorts less (items ++ more) (insertAll less sorted more) := by
  refine ⟨(insertAll_perm less sorted more).trans (s.perm.append_right more), fun rank g => ?_⟩
  have c := g.consistent
  have stable := s.toSortedStably (c.mono fun a ha => List.mem_append_left more ha)
  exact (stable.insertAll c.asymm).toOrdered g

/-! ## Merging -/

/-- Among items with ranks, merging looks at the ranks only. -/
theorem merge_keeps {left right : List α} (g : Graded less rank (left ++ right)) :
    left.merge right (keeps less) = left.merge right fun a b => decide (rank a ≤ rank b) := by
  have same : ∀ a ∈ left, ∀ b ∈ right, keeps less a b = decide (rank (id a) ≤ rank (id b)) := by
    intro a ha b hb
    rw [keeps, g b (List.mem_append_right _ hb) a (List.mem_append_left _ ha)]
    simp only [id, ← decide_not, Int.not_lt]
  simpa using List.map_merge (s := fun a b => decide (rank a ≤ rank b)) same

theorem Ordered.merge_keeps {left right left' right' : List α}
    (g : Graded less rank (left ++ right)) (low : Ordered rank left left')
    (high : Ordered rank right right') :
    Ordered rank (left ++ right) (left'.merge right' (keeps less)) := by
  have among : Graded less rank (left' ++ right') := g.mono fun a ha =>
    List.mem_append.2 ((List.mem_append.1 ha).imp low.mem_iff.1 high.mem_iff.1)
  rw [Sorting.merge_keeps among]
  exact low.merge high

/-- Merging from the back the lists turned round gives the same as merging them. -/
theorem Ordered.reverse_merge {left right left' right' : List α}
    (g : Graded less rank (left ++ right)) (low : Ordered rank left left')
    (high : Ordered rank right right') :
    Ordered rank (left ++ right)
      (right'.reverse.merge left'.reverse (keeps fun a b => less b a)).reverse := by
  have turned : ∀ {items sorted : List α}, Ordered rank items sorted →
      Ordered (fun a => -rank a) items.reverse sorted.reverse := fun o =>
    Ordered.flip (by simpa using o)
  have among : Graded less rank (right.reverse ++ left.reverse) := g.mono (by simp [or_comm])
  refine Ordered.flip ?_
  rw [List.reverse_append]
  exact Ordered.merge_keeps among.flip (turned high) (turned low)

/-- Merging two sorted lists sorts both together, from whichever end. -/
theorem mergeRuns_sorts {left right left' right' : List α} (low : Sorts less left left')
    (high : Sorts less right right') :
    Sorts less (left ++ right) (mergeRuns less left' right') := by
  refine ⟨?_, fun rank g => ?_⟩
  · refine List.Perm.trans ?_ (low.perm.append high.perm)
    unfold mergeRuns
    split
    · exact List.merge_perm_append _
    · refine (List.reverse_perm _).trans ((List.merge_perm_append _).trans ?_)
      exact (List.perm_append_comm).trans
        ((List.reverse_perm _).append (List.reverse_perm _))
  · have o := low.ordered rank (g.mono fun a => List.mem_append_left _)
    have o' := high.ordered rank (g.mono fun a => List.mem_append_right _)
    unfold mergeRuns
    split
    · exact Ordered.merge_keeps g o o'
    · exact Ordered.reverse_merge g o o'

/-! ## Merging from both ends -/

/-- The items taken from both lists, and what is left of them. -/
theorem mergeFront_split (less : α → α → Bool) (n : Nat) (left right : List α) :
    ∃ a b, left = a ++ (mergeFront less n left right).left ∧
      right = b ++ (mergeFront less n left right).right ∧
      (mergeFront less n left right).taken.Perm (a ++ b) := by
  fun_induction mergeFront less n left right with
  | case1 n l ls r rs isLess front ih =>
    obtain ⟨a, b, whole, whole', perm⟩ := ih
    exact ⟨a, r :: b, whole, congrArg (r :: ·) whole',
      (perm.cons r).trans List.perm_middle.symm⟩
  | case2 n l ls r rs notLess front ih =>
    obtain ⟨a, b, whole, whole', perm⟩ := ih
    exact ⟨l :: a, b, congrArg (l :: ·) whole, whole', perm.cons l⟩
  | case3 => exact ⟨[], [], rfl, rfl, .refl _⟩

theorem length_taken_mergeFront {n : Nat} {left right : List α} (enough : n ≤ left.length)
    (enough' : n ≤ right.length) : (mergeFront less n left right).taken.length = n := by
  fun_induction mergeFront less n left right with
  | case1 n l ls r rs isLess front ih =>
    simp only [List.length_cons] at enough enough'
    simp [front, ih (by simp; omega) (by omega)]
  | case2 n l ls r rs notLess front ih =>
    simp only [List.length_cons] at enough enough'
    simp [front, ih (by omega) (by simp; omega)]
  | case3 n ls rs short =>
    match n, ls, rs with
    | 0, _, _ => rfl
    | n + 1, [], _ => simp at enough
    | n + 1, _ :: _, [] => simp at enough'
    | n + 1, l :: ls, r :: rs => exact (short n l ls r rs rfl rfl rfl).elim

/-- The items taken are those in front of the merged list. -/
theorem merge_eq_taken_append (less : α → α → Bool) (n : Nat) (left right : List α) :
    left.merge right (keeps less) =
      (mergeFront less n left right).taken ++
        (mergeFront less n left right).left.merge (mergeFront less n left right).right
          (keeps less) := by
  fun_induction mergeFront less n left right with
  | case1 n l ls r rs isLess front ih =>
    rw [List.cons_merge_cons, if_neg (by simp [keeps, isLess]), ih]
    rfl
  | case2 n l ls r rs notLess front ih =>
    rw [List.cons_merge_cons, if_pos (by simpa [keeps] using notLess), ih]
    rfl
  | case3 => rfl

theorem taken_mergeFront (less : α → α → Bool) {n : Nat} {left right : List α}
    (enough : n ≤ left.length) (enough' : n ≤ right.length) :
    (mergeFront less n left right).taken = (left.merge right (keeps less)).take n := by
  rw [merge_eq_taken_append less n, List.take_left' (length_taken_mergeFront enough enough')]

/-- Merging looks at what the order looks at only. -/
theorem mergeFront_map (less : α → α → Bool) (f : β → α) (n : Nat) (left right : List β) :
    (mergeFront less n (left.map f) (right.map f)).left =
        (mergeFront (fun a b => less (f a) (f b)) n left right).left.map f ∧
      (mergeFront less n (left.map f) (right.map f)).right =
        (mergeFront (fun a b => less (f a) (f b)) n left right).right.map f := by
  fun_induction mergeFront (fun a b => less (f a) (f b)) n left right with
  | case1 n l ls r rs isLess front ih =>
    simpa only [List.map_cons, mergeFront, if_pos isLess] using ih
  | case2 n l ls r rs notLess front ih =>
    simpa only [List.map_cons, mergeFront, if_neg notLess] using ih
  | case3 n ls rs short =>
    match n, ls, rs with
    | 0, _, _ => simp [mergeFront]
    | n + 1, [], _ => simp [mergeFront]
    | n + 1, _ :: _, [] => simp [mergeFront]
    | n + 1, l :: ls, r :: rs => exact (short n l ls r rs rfl rfl rfl).elim

/-- A list of which parts are known from both ends, with so many items between them. -/
theorem eq_append_take_append {whole a a' b b' : List α} {m : Nat} (front : whole = a ++ a')
    (back : whole.reverse = b ++ b') (between : a.length + m + b.length = whole.length) :
    whole = a ++ a'.take m ++ b.reverse := by
  have back : whole = b'.reverse ++ b.reverse := by
    rw [← List.reverse_append, ← back, List.reverse_reverse]
  have total := congrArg List.length front
  rw [List.length_append] at total
  have cut : (a ++ a'.take m) ++ a'.drop m = b'.reverse ++ b.reverse := by
    rw [List.append_assoc, List.take_append_drop, ← front, back]
  have rest := (List.append_inj' cut (by simp; omega)).2
  rw [← rest, List.append_assoc, List.take_append_drop, front]

/-- What both ends take, and what is left between them, is a rearrangement of both lists. -/
theorem perm_of_ends {left right a b c d m m' front back : List α}
    (ofFront : front.Perm (a ++ b)) (ofBack : back.Perm (d ++ c))
    (whole : left = a ++ m ++ c.reverse) (whole' : right = b ++ m' ++ d.reverse) :
    (front ++ (m ++ m') ++ back.reverse).Perm (left ++ right) := by
  have taken := (ofFront.append_right (m ++ m')).append ((List.reverse_perm back).trans ofBack)
  refine taken.trans ?_
  subst whole whole'
  simp only [← Multiset.coe_eq_coe, ← Multiset.coe_add, Multiset.coe_reverse]
  abel

/-- Merging the halves of a list rearranges it, if it does not fail. -/
theorem mergeHalves_perm {left right merged : List α}
    (half : left.length = (left ++ right).length / 2)
    (result : mergeHalves less (left ++ right) = some merged) :
    merged.Perm (left ++ right) := by
  simp only [mergeHalves, ← half, List.take_left, List.drop_left] at result
  have total := half
  rw [List.length_append] at total
  have enough : left.length ≤ right.length := by omega
  obtain ⟨a, b, wholeA, wholeB, perm⟩ := mergeFront_split less left.length left right
  obtain ⟨d, c, wholeD, wholeC, perm'⟩ :=
    mergeFront_split (fun a b => less b a) left.length right.reverse left.reverse
  have count := perm.length_eq
  have count' := perm'.length_eq
  rw [length_taken_mergeFront le_rfl enough, List.length_append] at count
  rw [length_taken_mergeFront (by simpa using enough) (by simp), List.length_append] at count'
  have lengthA := congrArg List.length wholeA
  have lengthC := congrArg List.length wholeC
  rw [List.length_append] at lengthA lengthC
  rw [List.length_reverse] at lengthC
  generalize mergeFront less left.length left right = front at *
  generalize mergeFront (fun a b => less b a) left.length right.reverse left.reverse = back at *
  split at result
  · rename_i meet
    obtain rfl := Option.some.inj result
    have l := eq_append_take_append (m := 0) wholeA wholeC (by omega)
    have r := eq_append_take_append (m := (left ++ right).length % 2) wholeB wholeD
      (by rw [List.length_append]; omega)
    simpa using perm_of_ends perm perm' l r
  · split at result
    · rename_i odd
      obtain rfl := Option.some.inj result
      rw [List.length_append] at odd
      have l := eq_append_take_append (m := 1) wholeA wholeC (by omega)
      have r := eq_append_take_append (m := 0) wholeB wholeD (by omega)
      simpa using perm_of_ends perm perm' l r
    · cases result

/-- What is taken from the back is the end of the merged list. -/
theorem reverse_taken_back {left right : List α} {n : Nat}
    (g : Graded less rank (left ++ right)) (up : left.Pairwise fun a b => rank a ≤ rank b)
    (up' : right.Pairwise fun a b => rank a ≤ rank b) (enough : n ≤ left.length)
    (enough' : n ≤ right.length) :
    (mergeFront (fun a b => less b a) n right.reverse left.reverse).taken.reverse =
      (left.merge right (keeps less)).drop (left.length + right.length - n) := by
  have turned := Ordered.reverse_merge g (.refl up) (.refl up')
  have whole := Ordered.unique (Ordered.merge_keeps g (.refl up) (.refl up')) turned
  rw [whole, taken_mergeFront _ (by simpa using enough') (by simpa using enough), List.drop_reverse]
  simp only [List.length_merge, List.length_reverse]
  congr 3
  omega

/-- A list is its front, its end and what is between them. -/
theorem take_append_between_append_drop (l : List α) {m n : Nat} (le : m ≤ n) :
    l.take m ++ (l.drop m).take (n - m) ++ l.drop (m + n - m) = l := by
  have behind : m + n - m = m + (n - m) := by omega
  rw [behind, ← List.drop_drop, List.append_assoc, List.take_append_drop, List.take_append_drop]

/-- The number of items taken from one of two lists, told apart by a tag. -/
theorem countP_tag {tag : α → Bool} {left right a b rest rest' : List α}
    (whole : left = a ++ rest) (whole' : right = b ++ rest')
    (inLeft : ∀ x ∈ left, tag x = true) (inRight : ∀ x ∈ right, tag x = false) :
    (a ++ b).countP tag = left.length - rest.length := by
  have all : a.countP tag = a.length :=
    List.countP_eq_length.2 fun x hx => inLeft x (whole ▸ List.mem_append_left rest hx)
  have none : b.countP tag = 0 := List.countP_eq_zero.2 fun x hx => by
    rw [inRight x (whole' ▸ List.mem_append_left rest' hx)]
    exact Bool.false_ne_true
  rw [List.countP_append, all, none, whole, List.length_append]
  omega

/-- How many items the two ends take from the left half, given a tag that tells the halves apart:
as many as there are, but for one that may be left in the middle. -/
theorem ends_meet_of_tag (tag : α → Bool) {left right : List α}
    (half : left.length = (left ++ right).length / 2)
    (g : Graded less rank (left ++ right)) (up : left.Pairwise fun a b => rank a ≤ rank b)
    (up' : right.Pairwise fun a b => rank a ≤ rank b)
    (inLeft : ∀ x ∈ left, tag x = true) (inRight : ∀ x ∈ right, tag x = false) :
    ∃ between ≤ (left ++ right).length % 2,
      left.length - (mergeFront less left.length left right).left.length + between +
        (left.length - (mergeFront (fun a b => less b a) left.length right.reverse
          left.reverse).right.length) = left.length := by
  have enough : left.length ≤ right.length := by rw [List.length_append] at half; omega
  have front := taken_mergeFront less le_rfl enough
  have back := reverse_taken_back g up up' le_rfl enough
  obtain ⟨a, b, wholeA, wholeB, perm⟩ := mergeFront_split less left.length left right
  obtain ⟨d, c, wholeD, wholeC, perm'⟩ :=
    mergeFront_split (fun a b => less b a) left.length right.reverse left.reverse
  have inFront := (perm.countP_eq tag).trans (countP_tag wholeA wholeB inLeft inRight)
  have inBack := ((List.reverse_perm _).trans (perm'.trans List.perm_append_comm)).countP_eq tag
  rw [countP_tag wholeC wholeD (by simpa using inLeft) (by simpa using inRight),
    List.length_reverse, back] at inBack
  rw [front] at inFront
  rw [← inFront, ← inBack]
  have count : (left.merge right (keeps less)).countP tag = left.length :=
    ((List.merge_perm_append _).countP_eq tag).trans
      (countP_tag (List.append_nil left).symm (List.append_nil right).symm inLeft inRight)
  generalize left.merge right (keeps less) = merged at count
  refine ⟨((merged.drop left.length).take (right.length - left.length)).countP tag, ?_, ?_⟩
  · refine (List.countP_le_length).trans ((List.length_take_le _ _).trans ?_)
    rw [List.length_append] at half ⊢
    omega
  · rw [← List.countP_append, ← List.countP_append, take_append_between_append_drop merged enough,
      count]

/-- The halves meet where both ends are those of one merged list. -/
theorem ends_meet {left right : List α} (half : left.length = (left ++ right).length / 2)
    (g : Graded less rank (left ++ right)) (up : left.Pairwise fun a b => rank a ≤ rank b)
    (up' : right.Pairwise fun a b => rank a ≤ rank b) :
    ∃ between ≤ (left ++ right).length % 2,
      left.length - (mergeFront less left.length left right).left.length + between +
        (left.length - (mergeFront (fun a b => less b a) left.length right.reverse
          left.reverse).right.length) = left.length := by
  -- The order does not see tags, so that the halves may as well have some.
  let tagged := left.map (Prod.mk true)
  let tagged' := right.map (Prod.mk false)
  have untag : tagged.map Prod.snd = left := by simp [tagged]
  have untag' : tagged'.map Prod.snd = right := by simp [tagged']
  have sees := (mergeFront_map less Prod.snd tagged.length tagged tagged').1
  have sees' := (mergeFront_map (fun a b => less b a) Prod.snd tagged.length
    tagged'.reverse tagged.reverse).2
  have g' : Graded (fun a b : Bool × α => less a.2 b.2) (fun a => rank a.2)
      (tagged ++ tagged') := by
    have among : ∀ x ∈ tagged ++ tagged', x.2 ∈ left ++ right := fun x hx => by
      rw [← untag, ← untag', ← List.map_append]
      exact List.mem_map_of_mem hx
    exact fun a ha b hb => g a.2 (among a ha) b.2 (among b hb)
  have meet := ends_meet_of_tag Prod.fst
    (by simpa [tagged, tagged'] using half) g' (List.pairwise_map.2 up) (List.pairwise_map.2 up')
    (by simp [tagged]) (by simp [tagged'])
  rw [List.map_reverse, List.map_reverse, untag, untag'] at sees'
  rw [untag, untag'] at sees
  have length : tagged.length = left.length := List.length_map _
  have length' : tagged'.length = right.length := List.length_map _
  rw [length] at sees sees' meet
  rwa [sees, sees', List.length_map, List.length_map, List.length_append, ← length, ← length',
    ← List.length_append, length]

theorem eq_of_perm_of_length_le_one {l l' : List α} (perm : l.Perm l') (few : l'.length ≤ 1) :
    l = l' :=
  match l', few with
  | [], _ => perm.eq_nil
  | [_], _ => perm.eq_singleton

/-- Merging two sorted halves from both ends is merging them, if the order does not contradict
itself. -/
theorem mergeHalves_eq_merge {left right : List α}
    (half : left.length = (left ++ right).length / 2)
    (g : Graded less rank (left ++ right)) (up : left.Pairwise fun a b => rank a ≤ rank b)
    (up' : right.Pairwise fun a b => rank a ≤ rank b) :
    mergeHalves less (left ++ right) = some (left.merge right (keeps less)) := by
  have enough : left.length ≤ right.length := by rw [List.length_append] at half; omega
  obtain ⟨between, few, meet⟩ := ends_meet half g up up'
  have defined : ∃ middle, mergeHalves less (left ++ right) =
      some ((mergeFront less left.length left right).taken ++ middle ++
        (mergeFront (fun a b => less b a) left.length right.reverse
          left.reverse).taken.reverse) := by
    simp only [mergeHalves, ← half, List.take_left, List.drop_left]
    split
    · exact ⟨_, rfl⟩
    · split
      · exact ⟨_, rfl⟩
      · omega
  obtain ⟨middle, result⟩ := defined
  -- The result is a rearrangement, and both its ends are those of the merged list.
  have perm := (mergeHalves_perm half result).trans (List.merge_perm_append (keeps less)).symm
  rw [taken_mergeFront less le_rfl enough, reverse_taken_back g up up' le_rfl enough] at perm result
  rw [result]
  generalize left.merge right (keeps less) = merged at perm
  have whole := take_append_between_append_drop merged enough
  have same := perm.trans (.of_eq whole.symm)
  rw [List.perm_append_right_iff, List.perm_append_left_iff] at same
  have equal := eq_of_perm_of_length_le_one same
    ((List.length_take_le _ _).trans (by rw [List.length_append] at half; omega))
  rw [equal]
  exact congrArg some whole

/-- Two halves sorted each for itself are merged into the whole sorted; this fails only if the order
contradicts itself. -/
theorem mergeHalves_yields {left right left' right' : List α}
    (half : left.length = (left ++ right).length / 2) (low : Sorts less left left')
    (high : Sorts less right right') :
    Yields (Consistent less (left ++ right)) (Sorts less (left ++ right))
      (mergeHalves less (left' ++ right')) := by
  have half' : left'.length = (left' ++ right').length / 2 := by
    rw [List.length_append] at half ⊢
    rw [low.perm.length_eq, high.perm.length_eq, ← half]
  have known : ∀ rank, Graded less rank (left ++ right) →
      Ordered rank (left ++ right) (left'.merge right' (keeps less)) ∧
        mergeHalves less (left' ++ right') = some (left'.merge right' (keeps less)) := by
    intro rank g
    have o := low.ordered rank (g.mono fun a => List.mem_append_left _)
    have o' := high.ordered rank (g.mono fun a => List.mem_append_right _)
    refine ⟨Ordered.merge_keeps g o o', mergeHalves_eq_merge half' ?_ o.ascending o'.ascending⟩
    exact g.mono fun a => (low.perm.append high.perm).mem_iff.1
  cases result : mergeHalves less (left' ++ right') with
  | none =>
    intro c
    obtain ⟨rank, g⟩ := c.exists_graded
    exact nomatch result.symm.trans (known rank g).2
  | some merged =>
    refine ⟨(mergeHalves_perm half' result).trans (low.perm.append high.perm), fun rank g => ?_⟩
    have equal := Option.some.inj (result.symm.trans (known rank g).2)
    exact equal ▸ (known rank g).1

/-! ## Short lists -/

theorem pair_sorts (less : α → α → Bool) (a b : α) :
    Sorts less [a, b] [(pair less a b).1, (pair less a b).2] := by
  unfold pair
  split
  · rename_i isLess
    refine ⟨.swap a b [], fun rank g => ?_⟩
    have lt := (g.eq_true_iff (by simp) (by simp)).1 isLess
    exact Ordered.reverse (List.pairwise_pair.2 lt)
  · rename_i notLess
    refine ⟨.refl _, fun rank g => .refl ?_⟩
    have le : rank a ≤ rank b :=
      (g.eq_false_iff (by simp) (by simp)).1 (by simpa using notLess)
    exact List.pairwise_pair.2 le

theorem pairs_perm (less : α → α → Bool) (a b c d : α) :
    (pairs less a b c d).Perm [a, b, c, d] := by
  cases ca : less c a <;> cases db : less d b <;>
    simp only [pairs, ca, db, Bool.false_eq_true, if_true, if_false]
  all_goals
    split <;> simp only [← Multiset.coe_eq_coe, ← Multiset.cons_coe, ← Multiset.singleton_add,
      Multiset.coe_nil] <;> abel

/-- Five comparisons merge two pairs. -/
theorem pairs_eq_merge {a b c d : α} (g : Graded less rank [a, b, c, d]) (ab : rank a ≤ rank b)
    (cd : rank c ≤ rank d) : pairs less a b c d = [a, b].merge [c, d] (keeps less) := by
  have ba : less b a = false := (g.eq_false_iff (by simp) (by simp)).2 ab
  have dc : less d c = false := (g.eq_false_iff (by simp) (by simp)).2 cd
  have below : ∀ x ∈ [a, b], less d x = true → less c x = true := fun x hx dx => by
    have member : x ∈ [a, b, c, d] := List.mem_append_left [c, d] hx
    rw [g.eq_true_iff (by simp) member] at dx ⊢
    omega
  have above : ∀ x ∈ [c, d], less x a = true → less x b = true := fun x hx xa => by
    have member : x ∈ [a, b, c, d] := List.mem_append_right [a, b] hx
    rw [g.eq_true_iff member (by simp)] at xa ⊢
    omega
  -- What the first two comparisons do not decide, the order of the pairs does.
  cases ca : less c a <;> cases db : less d b <;> cases da : less d a <;>
    cases cb : less c b <;> simp_all [pairs, keeps]

/-- Four items are sorted by sorting two pairs and merging them. -/
theorem four_sorts (less : α → α → Bool) (a b c d : α) :
    Sorts less [a, b, c, d] (four less a b c d) := by
  have low := pair_sorts less a b
  have high := pair_sorts less c d
  refine ⟨(pairs_perm less _ _ _ _).trans (low.perm.append high.perm), fun rank g => ?_⟩
  have o := low.ordered rank (g.mono (by simp +contextual))
  have o' := high.ordered rank (g.mono (by simp +contextual))
  have among : Graded less rank
      [(pair less a b).1, (pair less a b).2, (pair less c d).1, (pair less c d).2] :=
    g.mono fun x => (low.perm.append high.perm).mem_iff.1
  rw [four, pairs_eq_merge among (by simpa using o.ascending) (by simpa using o'.ascending)]
  exact Ordered.merge_keeps g o o'

/-- The opening of half a list and the rest of it make up this half, with the opening sorted. -/
theorem opening_yields (less : α → α → Bool) (compact : Bool) (length : Nat) (items : List α) :
    Yields (Consistent less items)
      (fun parts => ∃ front, items = front ++ parts.2 ∧ Sorts less front parts.1)
      (opening less compact length items) := by
  have single (a : α) : Sorts less [a] [a] := ⟨.refl _, fun rank _ => .refl (by simp)⟩
  fun_cases opening less compact length items with
  | case1 a b c d rest short => exact ⟨[a], rfl, single a⟩
  | case2 a b c d long e f g h rest =>
    have merged := mergeHalves_yields (by simp) (four_sorts less a b c d) (four_sorts less e f g h)
    refine (merged.mono fun c => c.mono fun x hx => ?_).map fun sorted s => ⟨_, rfl, s⟩
    exact List.mem_append_left rest hx
  | case3 a b c d rest => exact ⟨[a, b, c, d], rfl, four_sorts less a b c d⟩
  | case4 a rest => exact ⟨[a], rfl, single a⟩
  | case5 => exact ⟨[], rfl, .refl _, fun _ _ => .refl .nil⟩

theorem sortHalf_yields (less : α → α → Bool) (compact : Bool) (length : Nat) (items : List α) :
    Yields (Consistent less items) (Sorts less items) (sortHalf less compact length items) := by
  refine (opening_yields less compact length items).map fun parts => ?_
  rintro ⟨front, rfl, s⟩
  exact s.insertAll parts.2

/-- **Short lists are sorted**, unless the order contradicts itself. -/
theorem small_yields (less : α → α → Bool) (compact : Bool) (items : List α) :
    Yields (Consistent less items) (Sorts less items) (small less compact items) := by
  unfold small
  split
  · rename_i short
    refine ⟨.refl _, fun rank _ => .refl ?_⟩
    match items, short with
    | [], _ => exact .nil
    | [a], _ => exact List.pairwise_singleton _ a
  · have halves := List.take_append_drop (items.length / 2) items
    have low := sortHalf_yields less compact items.length (items.take (items.length / 2))
    have high := sortHalf_yields less compact items.length (items.drop (items.length / 2))
    refine (low.mono fun c => c.mono fun a => List.mem_of_mem_take).bind fun left s => ?_
    refine (high.mono fun c => c.mono fun a => List.mem_of_mem_drop).bind fun right s' => ?_
    have merged := mergeHalves_yields (by rw [halves, List.length_take]; omega) s s'
    rwa [halves] at merged

end Listing.Sorting
