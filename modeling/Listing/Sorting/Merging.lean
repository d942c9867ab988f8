/-!
# Merging and small sorts

Lists are sorted by an order that says when an item is less than another.  Items that are
not less than one another keep their places, and nothing is compared that need not be: an
order that contradicts itself is found out only where two passes over the same items do
not agree.

* `insertAll` puts items one after another into their places;
* `mergeHalves` merges two sorted halves from both ends at once, and fails if the ends do
  not meet;
* `small` sorts short lists by these, and `mergeRuns` merges runs of any lengths.
-/

namespace Listing.Sorting

variable {α : Type} (less : α → α → Bool)

/-! ## Insertion -/

/-- Put an item in its place in a sorted list, of which the last comes first: before all
items it is not less than. -/
def place (x : α) : List α → List α
  | [] => [x]
  | last :: rest => if less x last then last :: place x rest else x :: last :: rest

/-- Put items one after another into their places in a sorted list. -/
def insertAll (sorted items : List α) : List α :=
  (items.foldl (fun back x => place less x back) sorted.reverse).reverse

/-! ## Merging from both ends -/

/-- Two lists merged as far as some step: the items taken, and what is left of each list. -/
structure Front (α : Type) where
  taken : List α
  left : List α
  right : List α

/-- Merge two lists for a number of steps, or until one of them is used up. -/
def mergeFront : Nat → List α → List α → Front α
  | n + 1, l :: ls, r :: rs =>
    if less r l then
      let front := mergeFront n (l :: ls) rs
      { front with taken := r :: front.taken }
    else
      let front := mergeFront n ls (r :: rs)
      { front with taken := l :: front.taken }
  | _, ls, rs => ⟨[], ls, rs⟩

/-- Merge the two halves of a list, both of them sorted, from the front and from the back at
once.  In a list of odd length one item is left in the middle.  If the halves are not used
up at the same place, the order contradicts itself. -/
def mergeHalves (items : List α) : Option (List α) :=
  let half := items.length / 2
  let left := items.take half
  let right := items.drop half
  let front := mergeFront less half left right
  let back := mergeFront (fun a b => less b a) half right.reverse left.reverse
  let fromLeft := (half - front.left.length) + (half - back.right.length)
  if fromLeft = half then
    some (front.taken ++ front.right.take (items.length % 2) ++ back.taken.reverse)
  else if items.length % 2 = 1 ∧ fromLeft + 1 = half then
    some (front.taken ++ front.left.take 1 ++ back.taken.reverse)
  else none

/-! ## Short lists -/

/-- Two items in order. -/
def pair (a b : α) : α × α := if less b a then (b, a) else (a, b)

/-- Two pairs in order, `a` with `b` and `c` with `d`, by three comparisons more. -/
def pairs (a b c d : α) : List α :=
  let first := if less c a then c else a
  let last := if less d b then b else d
  let left := if less c a then a else if less d b then c else b
  let right := if less d b then d else if less c a then b else c
  if less right left then [first, right, left, last] else [first, left, right, last]

/-- Four items in order. -/
def four (a b c d : α) : List α :=
  let low := pair less a b
  let high := pair less c d
  pairs less low.1 low.2 high.1 high.2

/-- The first items of half a list of some length, in order, and the others.  Four are sorted
at once if the list is long enough, and eight if its items are compact besides. -/
def opening (compact : Bool) (length : Nat) : List α → Option (List α × List α)
  | a :: b :: c :: d :: rest =>
    if length < 8 then some ([a], b :: c :: d :: rest)
    else
      match decide (16 ≤ length) && compact, rest with
      | true, e :: f :: g :: h :: rest =>
        (mergeHalves less (four less a b c d ++ four less e f g h)).map (·, rest)
      | _, rest => some (four less a b c d, rest)
  | a :: rest => some ([a], rest)
  | [] => some ([], [])

/-- Sort half a list of some length. -/
def sortHalf (compact : Bool) (length : Nat) (items : List α) : Option (List α) :=
  (opening less compact length items).map fun (first, rest) => insertAll less first rest

/-- Sort a short list half by half. -/
def small (compact : Bool) (items : List α) : Option (List α) :=
  if items.length < 2 then some items
  else do
    let left ← sortHalf less compact items.length (items.take (items.length / 2))
    let right ← sortHalf less compact items.length (items.drop (items.length / 2))
    mergeHalves less (left ++ right)

/-! ## Runs -/

/-- An item may stay before another that is not less than it. -/
def keeps (a b : α) : Bool := !less b a

/-- Merge two sorted lists, beginning at the end where the shorter one is. -/
def mergeRuns (left right : List α) : List α :=
  if left.length ≤ right.length then left.merge right (keeps less)
  else (right.reverse.merge left.reverse (keeps fun a b => less b a)).reverse

end Listing.Sorting
