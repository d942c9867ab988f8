import Mathlib
import Listing.Proofs.SmallSorts
import Listing.Sorting.Adaptive

/-!
# Sorting lists of any length

The runs of a list stand for its stretches, one after another, and every step that puts runs
together leaves it so.  Partitioning does its part wherever the pivots come from, as long as they
are items of the list.

* `Run.StandsFor` and `StandFor` say what runs have to do with the list they come from;
* `drift_yields` and `quick_yields` are about sorting by runs and by partitioning;
* `stable_yields` is the theorem about lists of any length, with `stable_perm` for all orders,
  `stable_sortedStably` for those that do not contradict themselves, and
  `stable_sortedStably_of_short` for lists so short that they are sorted by insertion.
-/

namespace Listing.Sorting

variable {α : Type} {less : α → α → Bool} {rank : α → ℤ}

/-! ## Runs of a list -/

/-- A way of sorting sorts all lists, but may fail where the order contradicts itself. -/
def SortsAll (less : α → α → Bool) (quick : List α → Option (List α)) : Prop :=
  ∀ items, Yields (Consistent less items) (Sorts less items) (quick items)

/-- A run stands for a stretch of a list: sorted, or as it is if it can be sorted later. -/
def Run.StandsFor (less : α → α → Bool) (quick : List α → Option (List α)) (stretch : List α) :
    Run α → Prop
  | ⟨items, true⟩ => Sorts less stretch items
  | ⟨items, false⟩ => items = stretch ∧ SortsAll less quick

/-- Runs stand for the stretches of a list, one after another. -/
def StandFor (less : α → α → Bool) (quick : List α → Option (List α)) :
    List (Run α) → List α → Prop
  | [], items => items = []
  | run :: runs, items =>
    ∃ stretch rest, items = stretch ++ rest ∧ run.StandsFor less quick stretch ∧
      StandFor less quick runs rest

/-- Runs with powers stand for the stretches of a list, the last one first. -/
def StackStandsFor (less : α → α → Bool) (quick : List α → Option (List α)) :
    List (Run α × Nat) → List α → Prop
  | [], items => items = []
  | (run, _) :: others, items =>
    ∃ rest stretch, items = rest ++ stretch ∧ StackStandsFor less quick others rest ∧
      run.StandsFor less quick stretch

theorem chain_spec (step : α → α → Bool) (last : α) (items : List α) :
    (chain step last items).1 ++ (chain step last items).2 = items ∧
      (last :: (chain step last items).1).IsChain fun a b => step a b = true := by
  induction items generalizing last with
  | nil => exact ⟨rfl, List.isChain_singleton last⟩
  | cons x rest ih =>
    rw [chain]
    split
    · rename_i steps
      obtain ⟨whole, links⟩ := ih x
      exact ⟨congrArg (x :: ·) whole, List.isChain_cons_cons.2 ⟨steps, links⟩⟩
    · exact ⟨rfl, List.isChain_singleton last⟩

/-- A stretch in which no item is less than the one before is sorted as it is. -/
theorem sorts_of_ascending {items : List α} (up : items.IsChain fun a b => (!less b a) = true) :
    Sorts less items items := by
  refine ⟨.refl _, fun rank g => .refl (List.isChain_iff_pairwise.1 ?_)⟩
  refine up.imp_of_mem_imp fun a b ha hb step => ?_
  exact (g.eq_false_iff ha hb).1 (by simpa using step)

/-- A stretch in which each item is less than the one before is sorted the other way round, and no
two of its items are equal. -/
theorem sorts_of_descending {items : List α} (down : items.IsChain fun a b => less b a = true) :
    Sorts less items items.reverse := by
  refine ⟨List.reverse_perm _, fun rank g => .reverse ?_⟩
  have strict : items.IsChain fun a b => rank b < rank a :=
    down.imp_of_mem_imp fun a b ha hb step => (g.eq_true_iff hb ha).1 step
  have : IsTrans α fun a b => rank b < rank a := ⟨fun _ _ _ first second => second.trans first⟩
  exact List.isChain_iff_pairwise.1 strict

/-- The longest stretch in order at the front of a list, and the rest of the list. -/
theorem naturalRun_spec (less : α → α → Bool) (items : List α) :
    ∃ stretch, items = stretch ++ (naturalRun less items).2 ∧
      (items ≠ [] → stretch ≠ []) ∧ Sorts less stretch (naturalRun less items).1 := by
  match items with
  | [] => exact ⟨[], rfl, id, sorts_of_ascending .nil⟩
  | [a] => exact ⟨[a], rfl, fun _ => List.cons_ne_nil a [], sorts_of_ascending (.singleton a)⟩
  | a :: b :: rest =>
    rw [naturalRun]
    split
    · rename_i down
      obtain ⟨whole, links⟩ := chain_spec (fun x y => less y x) b rest
      refine ⟨a :: b :: (chain (fun x y => less y x) b rest).1, ?_, fun _ => List.cons_ne_nil _ _,
        sorts_of_descending (List.isChain_cons_cons.2 ⟨down, links⟩)⟩
      exact congrArg (a :: b :: ·) whole.symm
    · rename_i up
      obtain ⟨whole, links⟩ := chain_spec (fun x y => !less y x) b rest
      refine ⟨a :: b :: (chain (fun x y => !less y x) b rest).1, ?_, fun _ => List.cons_ne_nil _ _,
        sorts_of_ascending (List.isChain_cons_cons.2 ⟨by simpa using up, links⟩)⟩
      exact congrArg (a :: b :: ·) whole.symm

section Quick

variable {quick : List α → Option (List α)}

/-- The next run stands for some items at the front. -/
theorem nextRun_yields (compact : Bool) {eager : Bool} {least : Nat} (positive : 0 < least)
    (later : eager = false → SortsAll less quick) {items : List α} (some : items ≠ []) :
    Yields (Consistent less items)
      (fun next => ∃ stretch, items = stretch ++ next.2 ∧ stretch ≠ [] ∧
        next.1.StandsFor less quick stretch)
      (nextRun less compact eager least items) := by
  obtain ⟨stretch, whole, nonempty, sorts⟩ := naturalRun_spec less items
  have taken : ∀ n, 0 < n → items.take n ≠ [] := fun n room => by
    simpa using ⟨by omega, some⟩
  simp only [nextRun]
  split
  · exact ⟨stretch, whole, nonempty some, sorts⟩
  · split
    · have sorted := small_yields less compact (items.take 32)
      refine (sorted.mono fun c => c.mono fun a => List.mem_of_mem_take).map fun run s => ?_
      exact ⟨_, (List.take_append_drop 32 items).symm, taken 32 (by decide), s⟩
    · rename_i lazy
      exact ⟨_, (List.take_append_drop least items).symm, taken least positive, rfl,
        later (by simpa using lazy)⟩

/-- The runs of a list stand for it. -/
theorem runs_yields (compact : Bool) {eager : Bool} {least : Nat} (positive : 0 < least)
    (later : eager = false → SortsAll less quick) (most : Nat) (items : List α)
    (enough : items.length ≤ most) :
    Yields (Consistent less items) (StandFor less quick · items)
      (runs less compact eager least most items) := by
  induction most generalizing items with
  | zero =>
    obtain rfl := List.length_eq_zero_iff.1 (Nat.le_zero.1 enough)
    exact rfl
  | succ most ih =>
    match items with
    | [] => exact rfl
    | x :: rest =>
      refine (nextRun_yields compact positive later (List.cons_ne_nil x rest)).bind ?_
      rintro ⟨run, others⟩ ⟨stretch, whole, nonempty, stands⟩
      have shorter := congrArg List.length whole
      have used := List.length_pos_iff.2 nonempty
      simp only [List.length_append] at shorter
      have known : ∀ a ∈ others, a ∈ x :: rest := fun a ha =>
        whole ▸ List.mem_append_right stretch ha
      refine ((ih others (by omega)).mono fun c => c.mono known).bind fun behind stand => ?_
      exact ⟨stretch, others, whole, stands, stand⟩

theorem sort_yields {run : Run α} {stretch : List α} (stands : run.StandsFor less quick stretch) :
    Yields (Consistent less stretch) (Sorts less stretch) (run.sort quick) := by
  obtain ⟨items, sorted⟩ := run
  cases sorted with
  | true => exact stands
  | false =>
    obtain ⟨rfl, all⟩ := stands
    exact all items

/-- Two runs put together stand for the stretches of both. -/
theorem join_yields {room : Nat} {left right : Run α} {l r : List α}
    (stands : left.StandsFor less quick l) (stands' : right.StandsFor less quick r) :
    Yields (Consistent less (l ++ r)) (Run.StandsFor less quick (l ++ r))
      (join less quick room left right) := by
  unfold join
  split
  · rename_i unsorted
    match left, right, stands, stands' with
    | ⟨_, false⟩, ⟨_, false⟩, ⟨rfl, all⟩, ⟨rfl, _⟩ => exact ⟨rfl, all⟩
    | ⟨_, true⟩, _, _, _ => simp at unsorted
    | _, ⟨_, true⟩, _, _ => simp at unsorted
  · have low := sort_yields stands
    have high := sort_yields stands'
    refine (low.mono fun c => c.mono fun a => List.mem_append_left r).bind fun first s => ?_
    refine (high.mono fun c => c.mono fun a => List.mem_append_right l).bind fun second s' => ?_
    exact mergeRuns_sorts s s'

/-- Putting a run together with some before it moves the border between runs only. -/
theorem collapse_yields {room least : Nat} {before : List (Run α × Nat)} {run : Run α}
    {front stretch : List α} (stack : StackStandsFor less quick before front)
    (stands : run.StandsFor less quick stretch) :
    Yields (Consistent less (front ++ stretch))
      (fun after => (∃ front' stretch', front ++ stretch = front' ++ stretch' ∧
        StackStandsFor less quick after.1 front' ∧ after.2.StandsFor less quick stretch') ∧
          (least = 0 → after.1 = []))
      (collapse less quick room least before run) := by
  induction before generalizing run front stretch with
  | nil => exact ⟨⟨front, stretch, rfl, stack, stands⟩, fun _ => rfl⟩
  | cons top others ih =>
    obtain ⟨last, p⟩ := top
    rw [collapse]
    split
    · obtain ⟨rest, lastStretch, rfl, below, standsLast⟩ := stack
      rw [List.append_assoc]
      refine ((join_yields standsLast stands).mono fun c => c.mono fun a => ?_).bind
        fun joined standsJoined => ih below standsJoined
      exact List.mem_append_right rest
    · rename_i less
      exact ⟨⟨front, stretch, rfl, stack, stands⟩, fun zero => absurd (zero ▸ Nat.zero_le p) less⟩

/-- All runs put together stand for the whole list. -/
theorem combine_yields {room scale : Nat} {before : List (Run α × Nat)} {run : Run α}
    {finish : Nat} {behind : List (Run α)} {front stretch rest : List α}
    (stack : StackStandsFor less quick before front) (stands : run.StandsFor less quick stretch)
    (stand : StandFor less quick behind rest) :
    Yields (Consistent less (front ++ stretch ++ rest))
      (Run.StandsFor less quick (front ++ stretch ++ rest))
      (combine less quick room scale before run finish behind) := by
  induction behind generalizing before run finish front stretch rest with
  | nil =>
    obtain rfl := stand
    rw [List.append_nil, combine]
    refine (collapse_yields stack stands).map ?_
    rintro ⟨before', run'⟩ ⟨⟨front', stretch', whole, stack', stands'⟩, emptied⟩
    obtain rfl := emptied rfl
    obtain rfl := stack'
    exact whole ▸ stands'
  | cons next behind ih =>
    obtain ⟨nextStretch, others, rfl, standsNext, stand⟩ := stand
    rw [combine]
    refine ((collapse_yields stack stands).mono fun c =>
      c.mono fun a => List.mem_append_left (nextStretch ++ others)).bind ?_
    rintro ⟨before', run'⟩ ⟨⟨front', stretch', whole, stack', stands'⟩, -⟩
    rw [← List.append_assoc]
    exact ih ⟨front', stretch', whole, stack', stands'⟩ standsNext stand

theorem roughRoot_pos {n : Nat} (large : 2 ≤ n) : 0 < roughRoot n := by
  have digits : 1 ≤ Nat.log2 (n ||| 1) :=
    (Nat.le_log2 (by have := Nat.left_le_or (n := n) (m := 1); omega)).2
      (large.trans Nat.left_le_or)
  have power : 2 ≤ 1 <<< ((1 + Nat.log2 (n ||| 1)) / 2) := by
    rw [Nat.one_shiftLeft]
    exact Nat.le_self_pow (by omega) 2
  exact Nat.div_pos (power.trans (Nat.le_add_right _ _)) (by decide)

theorem leastRun_pos {length : Nat} (nonempty : 0 < length) : 0 < leastRun length := by
  unfold leastRun
  split
  · omega
  · exact roughRoot_pos (by omega)

/-- Sorting by runs sorts all lists, given a way of sorting the runs that are put off. -/
theorem drift_yields (compact : Bool) {eager : Bool} {room : Nat}
    (later : eager = false → SortsAll less quick) :
    SortsAll less (drift less compact eager quick room) := by
  intro items
  unfold drift
  match items with
  | [] => exact sorts_of_ascending .nil
  | x :: rest =>
    refine (runs_yields compact (leastRun_pos (by simp)) later _ _ le_rfl).bind fun rs stand => ?_
    cases rs with
    | nil => cases stand
    | cons run behind =>
      obtain ⟨stretch, others, whole, stands, stand⟩ := stand
      rw [whole]
      have bottom : StackStandsFor less quick [] [] := rfl
      exact (combine_yields bottom stands stand).bind fun run' stands' => sort_yields stands'

end Quick

/-! ## Partitioning -/

theorem median_cases (less : α → α → Bool) (a b c : α) :
    median less a b c = a ∨ median less a b c = b ∨ median less a b c = c := by
  unfold median
  split
  · split
    · exact .inr (.inl rfl)
    · exact .inr (.inr rfl)
  · exact .inl rfl

/-- A pivot is one of the items it is chosen from. -/
theorem pivotOf_mem {items : List α} {first : α} (member : first ∈ items) {length : Nat}
    {a b c : List α} (inA : ∀ x ∈ a, x ∈ items) (inB : ∀ x ∈ b, x ∈ items)
    (inC : ∀ x ∈ c, x ∈ items) : pivotOf less first length a b c ∈ items := by
  induction length using Nat.strongRecOn generalizing a b c with
  | ind length ih =>
    have among : ∀ {x y z : α}, x ∈ items → y ∈ items → z ∈ items → median less x y z ∈ items :=
      fun hx hy hz => by
        rcases median_cases less _ _ _ with same | same | same <;> rw [same] <;> assumption
    rw [pivotOf]
    split
    · have part : ∀ s : List α, (∀ x ∈ s, x ∈ items) → pivotOf less first (length / 8) s
          (s.drop (4 * (length / 8))) (s.drop (7 * (length / 8))) ∈ items := fun s known =>
        ih (length / 8) (by omega) known (fun x hx => known x (List.mem_of_mem_drop hx))
          fun x hx => known x (List.mem_of_mem_drop hx)
      exact among (part a inA) (part b inB) (part c inC)
    · have head : ∀ s : List α, (∀ x ∈ s, x ∈ items) → s.headD first ∈ items := fun s known => by
        cases s with
        | nil => exact member
        | cons x s => exact known x List.mem_cons_self
      exact among (head a inA) (head b inB) (head c inC)

theorem pivot_mem (less : α → α → Bool) (first : α) (rest : List α) :
    pivot less first (first :: rest) ∈ first :: rest :=
  pivotOf_mem List.mem_cons_self (fun _ => id) (fun _ => List.mem_of_mem_drop)
    fun _ => List.mem_of_mem_drop

/-- Items have ranks, and so does one that none of them is less than, if it is there. -/
structure GradedAbove (less : α → α → Bool) (rank : α → ℤ) (least : Option α)
    (items : List α) : Prop where
  graded : Graded less rank (least.toList ++ items)
  above : ∀ q ∈ least, ∀ a ∈ items, rank q ≤ rank a

theorem GradedAbove.members {least : Option α} {items : List α}
    (g : GradedAbove less rank least items) : Graded less rank items :=
  g.graded.mono fun _ => List.mem_append_right _

theorem GradedAbove.mono {least : Option α} {items part : List α}
    (g : GradedAbove less rank least items) (among : ∀ a ∈ part, a ∈ items) :
    GradedAbove less rank least part where
  graded := g.graded.mono fun a => by
    simpa only [List.mem_append] using Or.imp_right (among a)
  above q hq a ha := g.above q hq a (among a ha)

theorem gradedAbove_none {items : List α} :
    GradedAbove less rank none items ↔ Graded less rank items :=
  ⟨fun g => g.graded, fun g => ⟨g, nofun⟩⟩

/-- A list is sorted, given an item that none of its items is less than; this fails only if the
order contradicts itself. -/
def SortsAbove (less : α → α → Bool) (least : Option α) (items : List α) :
    Option (List α) → Prop :=
  Yields (∃ rank, GradedAbove less rank least items) fun sorted =>
    sorted.Perm items ∧ ∀ rank, GradedAbove less rank least items → Ordered rank items sorted

theorem Yields.sortsAbove {least : Option α} {items : List α} {result : Option (List α)}
    (y : Yields (Consistent less items) (Sorts less items) result) :
    SortsAbove less least items result := by
  refine (y.mono ?_).imp fun sorted s => ⟨s.perm, fun rank g => s.ordered rank g.members⟩
  rintro ⟨rank, g⟩
  exact g.members.consistent

/-- If the pivot is no greater than the least item, or no item is less than the pivot, the pivot has
the least rank. -/
theorem GradedAbove.lowest {least : Option α} {items : List α}
    (g : GradedAbove less rank least items) {p : α} (member : p ∈ items)
    (condition : (least.any (fun q => !less q p) || (items.filter (less · p)).isEmpty) = true) :
    ∀ a ∈ items, rank p ≤ rank a := by
  intro a ha
  rcases Bool.or_eq_true_iff.1 condition with notGreater | none
  · cases least with
    | none => cases notGreater
    | some q =>
      have notLess : less q p = false := by simpa using notGreater
      have among := List.mem_cons_of_mem q member
      have le := (g.graded.eq_false_iff among List.mem_cons_self).1 notLess
      exact le.trans (g.above q rfl a ha)
  · rw [List.isEmpty_iff, List.filter_eq_nil_iff] at none
    exact (g.members.eq_false_iff member ha).1 (by simpa using none a ha)

/-- Where no item is less than the pivot, those equal to it come first. -/
theorem ordered_of_least {items above : List α} {p : α} (member : p ∈ items)
    (g : Graded less rank items) (lowest : ∀ a ∈ items, rank p ≤ rank a)
    (o : Ordered rank (items.filter (less p ·)) above) :
    Ordered rank items (items.filter (!less p ·) ++ above) := by
  have isLess : ∀ a ∈ items, (less p a = true ↔ rank p < rank a) := fun a ha =>
    g.eq_true_iff member ha
  have equal : ∀ a ∈ items.filter (!less p ·), rank a = rank p := fun a ha => by
    obtain ⟨ha, notLess⟩ := List.mem_filter.1 ha
    have notGreater := mt (isLess a ha).2 (by simpa using notLess)
    have := lowest a ha
    omega
  refine .partition (.refl ?_) (by simpa using o) fun a ha b hb passes fails => ?_
  · exact List.pairwise_of_forall_mem_list fun a ha b hb => by rw [equal a ha, equal b hb]
  · rw [equal a (List.mem_filter.2 ⟨ha, passes⟩), ← isLess b hb]
    simpa using fails

/-- Items less than the pivot come before the others. -/
theorem ordered_of_pivot {items below above : List α} {p : α} (member : p ∈ items)
    (g : Graded less rank items) (low : Ordered rank (items.filter (less · p)) below)
    (high : Ordered rank (items.filter (!less · p)) above) :
    Ordered rank items (below ++ above) := by
  refine .partition low high fun a ha b hb passes fails => ?_
  have lt := (g.eq_true_iff ha member).1 passes
  have le := (g.eq_false_iff member hb).1 fails
  omega

/-- A list sorted by parts is sorted. -/
theorem partition_sortsAbove {sort : Option α → List α → Option (List α)}
    (sorts : ∀ least items, SortsAbove less least items (sort least items)) {p : α}
    {least : Option α} {items : List α} (member : p ∈ items) :
    SortsAbove less least items (partition less p least sort items) := by
  unfold partition
  dsimp only
  split
  · rename_i condition
    have lowest : ∀ rank, GradedAbove less rank least items → ∀ a ∈ items, rank p ≤ rank a :=
      fun rank g => g.lowest member condition
    have known : ∀ rank, GradedAbove less rank least items →
        GradedAbove less rank none (items.filter (less p ·)) := fun rank g =>
      gradedAbove_none.2 (g.members.mono fun a ha => List.mem_of_mem_filter ha)
    refine ((sorts none _).mono fun ⟨rank, g⟩ => ⟨rank, known rank g⟩).bind ?_
    rintro above ⟨perm, ordered⟩
    refine ⟨?_, fun rank g => ordered_of_least member g.members (lowest rank g) ?_⟩
    · have parts := List.filter_append_perm (!less p ·) items
      simp only [Bool.not_not] at parts
      exact (perm.append_left _).trans parts
    · exact ordered rank (known rank g)
  · have known : ∀ rank, GradedAbove less rank least items →
        GradedAbove less rank (some p) (items.filter (!less · p)) := fun rank g =>
      ⟨g.members.mono (by simpa using ⟨member, fun a ha _ => ha⟩), fun q hq a ha => by
        obtain rfl := Option.some.inj hq
        obtain ⟨ha, notLess⟩ := List.mem_filter.1 ha
        exact (g.members.eq_false_iff member ha).1 (by simpa using notLess)⟩
    have known' : ∀ rank, GradedAbove less rank least items →
        GradedAbove less rank least (items.filter (less · p)) := fun rank g =>
      g.mono fun a ha => List.mem_of_mem_filter ha
    refine ((sorts (some p) _).mono fun ⟨rank, g⟩ => ⟨rank, known rank g⟩).bind ?_
    rintro above ⟨perm, ordered⟩
    refine ((sorts least _).mono fun ⟨rank, g⟩ => ⟨rank, known' rank g⟩).bind ?_
    rintro below ⟨perm', ordered'⟩
    refine ⟨(perm'.append perm).trans (List.filter_append_perm (less · p) items),
      fun rank g => ordered_of_pivot member g.members ?_ ?_⟩
    · exact ordered' rank (known' rank g)
    · exact ordered rank (known rank g)

/-- Partitioning sorts a list, given an item that none of its items is less than. -/
theorem quick_sortsAbove (less : α → α → Bool) (compact : Bool) (room limit : Nat)
    (least : Option α) (items : List α) :
    SortsAbove less least items (quick less compact room limit least items) := by
  have drifts : SortsAll less (drift less compact true some room) := drift_yields compact nofun
  induction limit generalizing least items with
  | zero =>
    unfold quick
    split
    · exact (small_yields less compact items).sortsAbove
    · exact (drifts items).sortsAbove
  | succ limit ih =>
    unfold quick
    split
    · exact (small_yields less compact items).sortsAbove
    · cases items with
      | nil => exact (drifts []).sortsAbove
      | cons first rest => exact partition_sortsAbove ih (pivot_mem less first rest)

/-- Sorting by partitioning sorts all lists. -/
theorem quick_yields (less : α → α → Bool) (compact : Bool) (room limit : Nat) :
    SortsAll less (quick less compact room limit none) := by
  intro items
  refine ((quick_sortsAbove less compact room limit none items).mono fun c => ?_).imp
    fun sorted s => ⟨s.1, fun rank g => s.2 rank (gradedAbove_none.2 g)⟩
  obtain ⟨rank, g⟩ := c.exists_graded
  exact ⟨rank, gradedAbove_none.2 g⟩

/-! ## Lists of any length -/

/-- **Every list is sorted stably**, unless the order contradicts itself among its items. -/
theorem stable_yields (less : α → α → Bool) (size : Nat) (items : List α) :
    Yields (Consistent less items) (Sorts less items) (stable less size items) := by
  simp only [stable]
  split
  · exact Sorts.insertAll (sorts_of_ascending .nil) items
  · refine drift_yields (decide (size ≤ 16)) (fun _ stretch => ?_) items
    exact quick_yields less _ _ _ stretch

/-- Sorting rearranges a list, whatever the order says. -/
theorem stable_perm {size : Nat} {items sorted : List α}
    (result : stable less size items = some sorted) : sorted.Perm items :=
  ((stable_yields less size items).of_eq_some result).perm

/-- Where the order does not contradict itself, there is a result, and it is sorted stably. -/
theorem stable_sortedStably (size : Nat) {items : List α} (c : Consistent less items) :
    ∃ sorted, stable less size items = some sorted ∧ SortedStably less items sorted := by
  obtain ⟨sorted, result, s⟩ := (stable_yields less size items).exists_eq_some c
  exact ⟨sorted, result, s.toSortedStably c⟩

/-- Short lists are sorted stably under every order of which at most one of two items is less than
the other, be it transitive or not. -/
theorem stable_sortedStably_of_short (size : Nat) {items : List α} (short : items.length ≤ 20)
    (asymm : ∀ a ∈ items, ∀ b ∈ items, less a b = true → less b a = false) :
    ∃ sorted, stable less size items = some sorted ∧ SortedStably less items sorted := by
  have empty : SortedStably less [] [] := ⟨.refl _, .nil, fun _ _ => rfl⟩
  exact ⟨_, if_pos short, empty.insertAll asymm⟩

end Listing.Sorting
