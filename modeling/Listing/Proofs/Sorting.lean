import Mathlib
import Listing.Proofs.AdaptiveSorts
import Listing.Store

/-!
# The order of listed records

Values of different kinds and data that are not numbers compare as equal to everything, and large
numbers as equal to those that are rounded to the same double.  So being no less need not be
transitive among records.  Where it is, they are sorted stably; where it is not, sorting may
break down, but not with twenty records or less.

* `Value.map_swap_compare` turns a comparison round, and `Value.compare_swap` does so where values
  that do not compare count as equal;
* `Store.Arranged` says what a list in some order has to do with the records it lists;
* `Store.Arrangeable` is a condition for there to be such a list, and
  `Store.exists_arranged` finds it.
-/

namespace Listing

/-! ## Comparisons turned round -/

instance : Std.OrientedOrd Uuid := inferInstanceAs (Std.OrientedCmp (compareOn Uuid.key))

instance : Std.OrientedOrd Moment := inferInstanceAs (Std.OrientedCmp (compareOn Moment.key))

theorem swap_compare {α : Type} [Ord α] [Std.OrientedOrd α] (a b : α) :
    (compare a b).swap = compare b a :=
  Std.OrientedOrd.eq_swap.symm

/-- Numbers compare the other way round from the other side. -/
theorem Binary.compare?_swap {f : BinaryFormat} (x y : Binary f) :
    (x.compare? y).map Ordering.swap = y.compare? x := by
  unfold Binary.compare?
  cases x.key? with
  | none => cases y.key? <;> rfl
  | some m =>
    cases y.key? with
    | none => rfl
    | some n => exact congrArg some (swap_compare m n)

theorem swap_getD_of_map_swap {o p : Option Ordering} (round : o.map Ordering.swap = p) :
    (o.getD .eq).swap = p.getD .eq := by
  subst round
  cases o <;> rfl

theorem map_swap_map_swap (o : Option Ordering) :
    (o.map Ordering.swap).map Ordering.swap = o := by
  cases o with
  | none => rfl
  | some o => cases o <;> rfl

theorem Json.Number.same_comm (m n : Json.Number) : m.same n = n.same m := by
  cases m <;> cases n
  case whole.whole m n => exact Bool.beq_comm
  case real.real x _ y _ =>
    rw [same, same, ← Binary.compare?_swap y x]
    cases y.compare? x with
    | none => rfl
    | some o => cases o <;> rfl
  all_goals rfl

mutual

/-- Documents are the same in both directions, by induction on items and members. -/
theorem Json.same_comm : (j k : Json) → j.same k = k.same j
  | .null, k => by cases k <;> rfl
  | .flag b, k => by
    cases k with
    | flag c => exact Bool.beq_comm
    | _ => rfl
  | .number m, k => by
    cases k with
    | number n => exact m.same_comm n
    | _ => rfl
  | .string s, k => by
    cases k with
    | string t => exact Bool.beq_comm
    | _ => rfl
  | .array xs, k => by
    cases k with
    | array ys => exact Json.sameItems_comm xs ys
    | _ => rfl
  | .object xs, k => by
    cases k with
    | object ys => exact Json.sameMembers_comm xs ys
    | _ => rfl

theorem Json.sameItems_comm : (xs ys : List Json) → sameItems xs ys = sameItems ys xs
  | [], ys => by cases ys <;> rfl
  | x :: xs, ys => by
    cases ys with
    | nil => rfl
    | cons y ys => rw [sameItems, sameItems, Json.same_comm x y, Json.sameItems_comm xs ys]

theorem Json.sameMembers_comm :
    (xs ys : List (String × Json)) → sameMembers xs ys = sameMembers ys xs
  | [], ys => by cases ys <;> rfl
  | (name, j) :: xs, ys => by
    cases ys with
    | nil => rfl
    | cons y ys =>
      rw [sameMembers, sameMembers, Bool.beq_comm, Json.same_comm j y.2,
        Json.sameMembers_comm xs ys]

end

/-- A comparison can be turned round, and values that do not compare do not compare in the other
direction either. -/
theorem Value.map_swap_compare (a b : Value) : (a.compare b).map Ordering.swap = b.compare a := by
  cases a <;> cases b <;> try rfl
  case text.text | text.choice | choice.text | choice.choice =>
    exact congrArg some (swap_compare _ _)
  case integer.integer m n => exact congrArg some (swap_compare m.val n.val)
  case flag.flag | uuid.uuid | instant.instant => exact congrArg some (swap_compare _ _)
  case integer.real | real.integer | real.real => exact Binary.compare?_swap _ _
  case text.uuid | choice.uuid => exact map_swap_map_swap _
  case document.document j k =>
    rw [compare, compare, Json.same_comm j k]
    split <;> rfl

/-- Where values compare at all, the comparison can be turned round; otherwise they count as
equal in both directions. -/
theorem Value.compare_swap (a b : Value) :
    ((a.compare b).getD .eq).swap = (b.compare a).getD .eq :=
  swap_getD_of_map_swap (map_swap_compare a b)

/-- Stored values compare the other way round from the other side. -/
theorem Store.compareStored_swap (a b : Option Value) :
    (Store.compareStored a b).swap = Store.compareStored b a := by
  unfold Store.compareStored
  cases a.filter (!·.isNull) with
  | none => cases b.filter (!·.isNull) <;> rfl
  | some a =>
    cases b.filter (!·.isNull) with
    | none => rfl
    | some b => exact Value.compare_swap a b

/-- So do records, in every order. -/
theorem Store.compareRecords_swap (order : SortOrder) (a b : Record) :
    (Store.compareRecords order a b).swap = Store.compareRecords order b a := by
  unfold Store.compareRecords
  cases order.direction with
  | ascending => exact Store.compareStored_swap _ _
  | descending => exact congrArg Ordering.swap (Store.compareStored_swap _ _)

/-! ## Sorting records -/

namespace Store

variable {order : SortOrder} {records listed : List Record}

/-- A record is not less than one that it equals or comes behind. -/
theorem isLess_eq_false_iff {a b : Record} :
    isLess order a b = false ↔ compareRecords order a b ≠ .lt := by
  rw [isLess, Bool.eq_false_iff, ne_eq, beq_iff_eq]

/-- Of two records at most one is less than the other. -/
theorem isLess_asymm {a b : Record} (less : isLess order a b = true) :
    isLess order b a = false := by
  rw [isLess_eq_false_iff, ← compareRecords_swap, beq_iff_eq.1 less]
  decide

/-- An order of records does not contradict itself if it is transitive among them. -/
theorem consistent_of_transitive
    (transitive : ∀ a ∈ records, ∀ b ∈ records, ∀ c ∈ records,
      compareRecords order b a ≠ .lt → compareRecords order c b ≠ .lt →
        compareRecords order c a ≠ .lt) : Sorting.Consistent (isLess order) records where
  asymm _ _ _ _ := isLess_asymm
  trans := by simpa only [isLess_eq_false_iff] using transitive

/-- `listed` holds the records of a list: sorted stably if there is an order to sort by, and
as they are if there is none. -/
def Arranged (records listed : List Record) : Option SortOrder → Prop
  | some order => Sorting.SortedStably (isLess order) records listed
  | none => listed = records

/-- Records can be sorted without fail: there is no order to sort by, or there are only few of
them, or the order does not contradict itself among them. -/
def Arrangeable (records : List Record) : Option SortOrder → Prop
  | some order => records.length ≤ 20 ∨ Sorting.Consistent (isLess order) records
  | none => True

/-- Records that can be sorted without fail are, and stably. -/
theorem exists_arranged (entity : RecordType) {p : Pageable} (a : Arrangeable records p.sort) :
    ∃ listed, arranged entity p records = some listed ∧ Arranged records listed p.sort := by
  unfold arranged
  cases sort : p.sort with
  | none => exact ⟨records, rfl, rfl⟩
  | some order =>
    rw [sort] at a
    rcases a with few | consistent
    · exact Sorting.stable_sortedStably_of_short entity.size few fun _ _ _ _ => isLess_asymm
    · exact Sorting.stable_sortedStably entity.size consistent

/-- The records that are listed are those that were there, each as often as before. -/
theorem perm_of_arranged {entity : RecordType} {p : Pageable}
    (result : arranged entity p records = some listed) : listed.Perm records := by
  unfold arranged at result
  cases sort : p.sort with
  | none =>
    rw [sort] at result
    exact .of_eq (Option.some.inj result).symm
  | some order =>
    rw [sort] at result
    exact Sorting.stable_perm result

end Store

end Listing
