import Listing.Sorting.Merging

/-!
# An adaptive stable sort

A long list is cut into runs that are in order already, or are to be sorted later, and
the runs are merged two by two; a power for every border between runs decides in what
order.  Runs to be sorted are put together as long as there is room, and are partitioned
about pivots until they are short.

* `quick` sorts by partitioning, `drift` by runs; each falls back on the other;
* `stable` is the sort for lists of any length.  It has no result where a merge of two
  halves finds that the order contradicts itself.
-/

namespace Listing.Sorting

variable {α : Type} (less : α → α → Bool)

/-! ## Runs -/

/-- A stretch of a list, sorted or to be sorted. -/
structure Run (α : Type) where
  items : List α
  sorted : Bool

/-- The items of a run in order. -/
def Run.sort (quick : List α → Option (List α)) (run : Run α) : Option (List α) :=
  if run.sorted then some run.items else quick run.items

/-- The items that follow a last one, each a step from the one before, and the others. -/
def chain (step : α → α → Bool) : α → List α → List α × List α
  | last, x :: rest =>
    if step last x then
      let (more, others) := chain step x rest
      (x :: more, others)
    else ([], x :: rest)
  | _, [] => ([], [])

/-- The longest stretch in front in which no item is less than the one before, or each is, put in
order, and the others. -/
def naturalRun : List α → List α × List α
  | a :: b :: rest =>
    if less b a then
      let (more, others) := chain (fun x y => less y x) b rest
      ((a :: b :: more).reverse, others)
    else
      let (more, others) := chain (fun x y => !less y x) b rest
      (a :: b :: more, others)
  | items => (items, [])

/-- The next run of a list, and what is behind it: one that is there if it has the least
length, otherwise a short one that is sorted at once, or one to be sorted later. -/
def nextRun (compact eager : Bool) (least : Nat) (items : List α) :
    Option (Run α × List α) :=
  let (run, others) := naturalRun less items
  if least ≤ run.length then some (⟨run, true⟩, others)
  else if eager then
    (small less compact (items.take 32)).map fun run => (⟨run, true⟩, items.drop 32)
  else some (⟨items.take least, false⟩, items.drop least)

/-- The runs of a list, of which there are at most so many. -/
def runs (compact eager : Bool) (least : Nat) : Nat → List α → Option (List (Run α))
  | _, [] => some []
  | 0, _ :: _ => some []
  | most + 1, x :: rest => do
    let (run, others) ← nextRun less compact eager least (x :: rest)
    return run :: (← runs compact eager least most others)

/-- Put two runs together: as one to be sorted later if both are and there is room for that,
otherwise merged. -/
def join (quick : List α → Option (List α)) (room : Nat) (left right : Run α) :
    Option (Run α) :=
  if left.items.length + right.items.length ≤ room && !left.sorted && !right.sorted then
    some ⟨left.items ++ right.items, false⟩
  else do
    let first ← left.sort quick
    let second ← right.sort quick
    return ⟨mergeRuns less first second, true⟩

/-- The power of the border between two runs of a list, by where their middles are: how many
leading binary digits they share. -/
def power (scale start border finish : Nat) : Nat :=
  let differing := scale * (start + border) ^^^ scale * (border + finish)
  if differing = 0 then 64 else 63 - Nat.log2 differing

/-- Put a run together with those before it whose borders have at least some power. -/
def collapse (quick : List α → Option (List α)) (room least : Nat) :
    List (Run α × Nat) → Run α → Option (List (Run α × Nat) × Run α)
  | (before, p) :: others, run =>
    if least ≤ p then do
      let joined ← join less quick room before run
      collapse quick room least others joined
    else some ((before, p) :: others, run)
  | [], run => some ([], run)

/-- Put a run, the runs before it and those behind it together; it ends at some place. -/
def combine (quick : List α → Option (List α)) (room scale : Nat) :
    List (Run α × Nat) → Run α → Nat → List (Run α) → Option (Run α)
  | before, run, _, [] => (collapse less quick room 0 before run).map Prod.snd
  | before, run, finish, next :: behind => do
    let p := power scale (finish - run.items.length) finish (finish + next.items.length)
    let (before, run) ← collapse less quick room p before run
    combine quick room scale ((run, p) :: before) next (finish + next.items.length) behind

/-- Roughly the square root of a number. -/
def roughRoot (n : Nat) : Nat :=
  let shift := (1 + Nat.log2 (n ||| 1)) / 2
  (1 <<< shift + n >>> shift) / 2

/-- The least length of a run that is taken as it is. -/
def leastRun (length : Nat) : Nat :=
  if length ≤ 4096 then min (length - length / 2) 64 else roughRoot length

/-- Sort a list by runs: eagerly, or putting runs off that are to be sorted. -/
def drift (compact eager : Bool) (quick : List α → Option (List α)) (room : Nat)
    (items : List α) : Option (List α) := do
  let scale := ((1 <<< 62) + items.length - 1) / items.length
  match ← runs less compact eager (leastRun items.length) items.length items with
  | [] => return []
  | run :: behind =>
    let whole ← combine less quick room scale [] run run.items.length behind
    whole.sort quick

/-! ## Partitioning -/

/-- The middle one of three items. -/
def median (a b c : α) : α :=
  if less a b = less a c then (if less b c = less a b then b else c) else a

/-- A pivot from three stretches that begin where the given lists do, of a length: a median of
medians as long as it is long enough. -/
def pivotOf (first : α) (length : Nat) (a b c : List α) : α :=
  if h : 8 ≤ length then
    let part (s : List α) :=
      pivotOf first (length / 8) s (s.drop (4 * (length / 8))) (s.drop (7 * (length / 8)))
    median less (part a) (part b) (part c)
  else median less (a.headD first) (b.headD first) (c.headD first)
termination_by length
decreasing_by omega

/-- The pivot of a list, given its first item. -/
def pivot (first : α) (items : List α) : α :=
  let eighth := items.length / 8
  pivotOf less first eighth items (items.drop (4 * eighth)) (items.drop (7 * eighth))

/-- Sort a list by parts: first the items that are not less than a pivot, then those that are.
No item of the list is less than some least item, if there is one.  Where the pivot is no
greater, or no item is less than the pivot, the items equal to it are in their places at once. -/
def partition (p : α) (least : Option α) (sort : Option α → List α → Option (List α))
    (items : List α) : Option (List α) :=
  let below := items.filter (less · p)
  if (least.any fun q => !less q p) || below.isEmpty then do
    let above ← sort none (items.filter (less p ·))
    return items.filter (!less p ·) ++ above
  else do
    let above ← sort (some p) (items.filter (!less · p))
    let below ← sort least below
    return below ++ above

/-- Sort a list by partitioning it until the parts are short, at most so many times in a row. -/
def quick (compact : Bool) (room : Nat) : Nat → Option α → List α → Option (List α)
  | limit, least, items =>
    if items.length ≤ 32 then small less compact items
    else
      match limit, items with
      | limit + 1, first :: rest =>
        partition less (pivot less first (first :: rest)) least (quick compact room limit)
          (first :: rest)
      | _, items => drift less compact true some room items

/-! ## Lists of any length -/

/-- How many items there is room for besides a list of some length, given the size of one item. -/
def roomFor (size length : Nat) : Nat :=
  max (max (length - length / 2) (min length (8000000 / size))) (max 48 (4096 / size))

/-- Sort a list whose items have some size.  Nothing depends on the size but which of several ways
is taken, and the result only where the order contradicts itself. -/
def stable (size : Nat) (items : List α) : Option (List α) :=
  if items.length ≤ 20 then some (insertAll less [] items)
  else
    let compact := decide (size ≤ 16)
    let room := roomFor size items.length
    let sorted (stretch : List α) :=
      quick less compact room (2 * Nat.log2 (stretch.length ||| 1)) none stretch
    drift less compact (decide (items.length ≤ 64)) sorted room items

end Listing.Sorting
