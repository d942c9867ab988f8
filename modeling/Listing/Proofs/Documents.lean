import Mathlib
import Listing.Json.Decoding
import Listing.Proofs.Rounding

/-!
# Documents as they are kept

What is kept of a document is its value, with the members of every object sorted by name and each
name once.  Nothing is lost of a value that has this form, and what is kept always has it.

* `insertEntry_perm` and `insertEntries_perm` say that sorting pairs of distinct names loses
  none of them;
* `Json.Ordered` is the form of values that are kept, `Json.value_toDoc` and `Doc.ordered_value`
  say that it is;
* `Doc.kept` is the document that is kept of another one.
-/

namespace Listing

/-! ## Sorting pairs -/

section Sorting

variable {α : Type}

/-- Insert all pairs of a list, one after the other. -/
def insertEntries (start entries : List (String × α)) : List (String × α) :=
  entries.foldl (fun ms m => insertEntry m.1 m.2 ms) start

/-- Insertions keep a list of pairs increasing. -/
theorem increasing_insertEntries {start entries : List (String × α)} (sorted : Increasing start) :
    Increasing (insertEntries start entries) := by
  induction entries generalizing start with
  | nil => exact sorted
  | cons e rest ih => exact ih (increasing_insertEntry sorted)

/-- What is there after insertions was there before or has been inserted. -/
theorem mem_insertEntries {start entries : List (String × α)} {p : String × α}
    (member : p ∈ insertEntries start entries) : p ∈ start ∨ p ∈ entries := by
  induction entries generalizing start with
  | nil => exact .inl member
  | cons e rest ih =>
    rcases ih member with inserted | later
    · rcases mem_insertEntry inserted with rfl | before
      · exact .inr List.mem_cons_self
      · exact .inl before
    · exact .inr (List.mem_cons_of_mem _ later)

/-- An insertion under a new text adds its pair, somewhere. -/
theorem insertEntry_perm {key : String} {value : α} {entries : List (String × α)}
    (fresh : key ∉ entries.map Prod.fst) :
    (insertEntry key value entries).Perm ((key, value) :: entries) := by
  induction entries with
  | nil => exact .refl _
  | cons e rest ih =>
    obtain ⟨different, fresh⟩ := not_or.1 fun same => fresh (List.mem_cons.2 same)
    rw [insertEntry]
    split_ifs with below
    · exact .refl _
    · exact ((ih fresh).cons e).trans (.swap ..)

/-- Pairs with distinct names are all there. -/
theorem insertEntries_perm {start entries : List (String × α)}
    (distinct : ((start ++ entries).map Prod.fst).Nodup) :
    (insertEntries start entries).Perm (start ++ entries) := by
  induction entries generalizing start with
  | nil => rw [List.append_nil]; exact .refl _
  | cons e rest ih =>
    -- The pair goes to its place among the first ones, from where it can be counted as one of them.
    have moved : (start ++ e :: rest).Perm (e :: start ++ rest) := List.perm_middle
    have distinct := (moved.map Prod.fst).nodup_iff.1 distinct
    have fresh : e.1 ∉ start.map Prod.fst := by
      rw [List.map_append, List.map_cons, List.cons_append] at distinct
      exact fun known => (List.nodup_cons.1 distinct).1 (List.mem_append_left _ known)
    have first : (insertEntry e.1 e.2 start).Perm (e :: start) := insertEntry_perm fresh
    have later : (insertEntry e.1 e.2 start ++ rest).Perm (e :: start ++ rest) :=
      first.append_right rest
    exact (ih ((later.map Prod.fst).nodup_iff.2 distinct)).trans (later.trans moved.symm)

/-- In an increasing list no text stands twice. -/
theorem nodup_of_increasing {entries : List (String × α)} (sorted : Increasing entries) :
    (entries.map Prod.fst).Nodup :=
  List.pairwise_map.2 (sorted.imp fun below => (Std.ne_of_lt below))

/-- Only one order of the same pairs is increasing. -/
theorem eq_of_perm_of_increasing {xs ys : List (String × α)} (same : xs.Perm ys)
    (sorted : Increasing xs) (sorted' : Increasing ys) : xs = ys :=
  same.eq_of_pairwise (fun _ _ _ _ below above => absurd (String.lt_trans below above)
    (String.lt_irrefl _)) sorted sorted'

/-- Sorted pairs stay as they are. -/
theorem insertEntries_of_increasing {entries : List (String × α)} (sorted : Increasing entries) :
    insertEntries [] entries = entries :=
  eq_of_perm_of_increasing (insertEntries_perm (nodup_of_increasing sorted))
    (increasing_insertEntries List.Pairwise.nil) sorted

end Sorting

/-! ## Values with sorted members -/

namespace Json

mutual

/-- The members of every object are sorted by name, each name once. -/
def Ordered : Json → Prop
  | array items => ItemsOrdered items
  | object members => Increasing members ∧ MembersOrdered members
  | _ => True

/-- Every item is ordered. -/
def ItemsOrdered : List Json → Prop
  | [] => True
  | j :: rest => Ordered j ∧ ItemsOrdered rest

/-- Every member is ordered. -/
def MembersOrdered : List (String × Json) → Prop
  | [] => True
  | (_, j) :: rest => Ordered j ∧ MembersOrdered rest

end

/-- Members are ordered if the value of each of them is. -/
theorem membersOrdered_iff {members : List (String × Json)} :
    MembersOrdered members ↔ ∀ m ∈ members, m.2.Ordered := by
  induction members with
  | nil => simp [MembersOrdered]
  | cons m rest ih => simp [MembersOrdered, ih]

theorem ofMembers_eq (members : List (String × Json)) :
    ofMembers members = object (insertEntries [] members) := rfl

mutual

/-- An ordered value is the value of its document. -/
theorem value_toDoc : ∀ {j : Json}, j.Ordered → j.toDoc.value = j
  | null, _ => rfl
  | flag _, _ => rfl
  | number _, _ => rfl
  | string _, _ => rfl
  | array items, ordered => congrArg array (itemValues_itemsToDoc ordered)
  | object members, ordered => by
    change ofMembers (Doc.memberValues (membersToDoc members)) = _
    rw [memberValues_membersToDoc ordered.2, ofMembers_eq, insertEntries_of_increasing ordered.1]

/-- Ordered items have themselves as the values of their documents. -/
theorem itemValues_itemsToDoc : ∀ {items : List Json}, ItemsOrdered items →
    Doc.itemValues (itemsToDoc items) = items
  | [], _ => rfl
  | _ :: _, ordered =>
    congrArg₂ List.cons (value_toDoc ordered.1) (itemValues_itemsToDoc ordered.2)

theorem memberValues_membersToDoc : ∀ {members : List (String × Json)}, MembersOrdered members →
    Doc.memberValues (membersToDoc members) = members
  | [], _ => rfl
  | (k, _) :: _, ordered =>
    congrArg₂ List.cons (congrArg (Prod.mk k) (value_toDoc ordered.1))
      (memberValues_membersToDoc ordered.2)

end

mutual

/-- The document of a value has a value. -/
theorem refusal?_toDoc : ∀ j : Json, j.toDoc.refusal? = none
  | null => rfl
  | flag _ => rfl
  | number _ => rfl
  | string _ => rfl
  | array items => by
    change (Doc.itemsRefusal? (itemsToDoc items)).or none = none
    rw [itemsRefusal?_itemsToDoc items]
    rfl
  | object members => by
    change (Doc.membersRefusal? (membersToDoc members)).or none = none
    rw [membersRefusal?_membersToDoc members]
    rfl

theorem itemsRefusal?_itemsToDoc : ∀ items : List Json,
    Doc.itemsRefusal? (itemsToDoc items) = none
  | [] => rfl
  | j :: rest => by
    rw [itemsToDoc, Doc.itemsRefusal?, refusal?_toDoc j, itemsRefusal?_itemsToDoc rest]
    rfl

theorem membersRefusal?_membersToDoc : ∀ members : List (String × Json),
    Doc.membersRefusal? (membersToDoc members) = none
  | [] => rfl
  | (_, j) :: rest => by
    rw [membersToDoc, Doc.membersRefusal?, refusal?_toDoc j, membersRefusal?_membersToDoc rest]
    rfl

end

end Json

/-! ## What is kept -/

namespace Doc

open Json

/-- The values of items are taken one by one, and so are those of members and, the other way, the
documents of both. -/
theorem itemValues_eq_map (items : List Doc) : itemValues items = items.map value := by
  induction items with
  | nil => rfl
  | cons d rest ih => rw [itemValues, ih, List.map_cons]

theorem memberValues_eq_map (members : List (String × Doc)) :
    memberValues members = members.map fun m => (m.1, m.2.value) := by
  induction members with
  | nil => rfl
  | cons m rest ih => rw [memberValues, ih, List.map_cons]

theorem itemsToDoc_eq_map (items : List Json) : itemsToDoc items = items.map toDoc := by
  induction items with
  | nil => rfl
  | cons j rest ih => rw [itemsToDoc, ih, List.map_cons]

theorem membersToDoc_eq_map (members : List (String × Json)) :
    membersToDoc members = members.map fun m => (m.1, m.2.toDoc) := by
  induction members with
  | nil => rfl
  | cons m rest ih => rw [membersToDoc, ih, List.map_cons]

/-- The value of a number of single precision is the double of the same magnitude. -/
theorem value_single {x : Single} (finite : x.isFinite = true) :
    (single x finite).value = .number (.real x.convert (Binary.convert_convert finite).1) :=
  dif_pos _

mutual

/-- The value of every document is ordered. -/
theorem ordered_value : ∀ d : Doc, d.value.Ordered
  | null | flag _ | number _ | string _ | refused _ _ | unnamed _ _ | broken _ => trivial
  | single x finite => by
    rw [value_single finite]
    trivial
  | list items _ => itemsOrdered_itemValues items
  | object members _ => by
    refine ⟨increasing_insertEntries List.Pairwise.nil, membersOrdered_iff.2 fun m member => ?_⟩
    exact membersOrdered_iff.1 (membersOrdered_memberValues members) m
      ((mem_insertEntries member).resolve_left List.not_mem_nil)

/-- The values of documents are ordered, since objects are built by insertions. -/
theorem itemsOrdered_itemValues : ∀ items : List Doc, ItemsOrdered (itemValues items)
  | [] => trivial
  | d :: rest => ⟨ordered_value d, itemsOrdered_itemValues rest⟩

theorem membersOrdered_memberValues : ∀ members : List (String × Doc),
    MembersOrdered (memberValues members)
  | [] => trivial
  | (_, d) :: rest => ⟨ordered_value d, membersOrdered_memberValues rest⟩

end

/-- The document that is kept of another one. -/
def kept (d : Doc) : Doc := d.value.toDoc

/-- What is kept of a document has the same value. -/
theorem value_kept (d : Doc) : d.kept.value = d.value := value_toDoc d.ordered_value

@[simp] theorem kept_string (s : String) : (string s).kept = string s := rfl

@[simp] theorem kept_ofList (items : List Doc) : (ofList items).kept = ofList (items.map kept) := by
  change list (itemsToDoc (itemValues items)) none = _
  rw [itemValues_eq_map, itemsToDoc_eq_map, List.map_map]
  rfl

/-- Of an object with distinct names every member is kept. -/
theorem kept_ofMembers {members : List (String × Doc)}
    (distinct : (members.map Prod.fst).Nodup) :
    ∃ entries, (ofMembers members).kept = ofMembers entries ∧
      entries.Perm (members.map fun m => (m.1, m.2.kept)) := by
  have names : ((memberValues members).map Prod.fst).Nodup := by
    rwa [memberValues_eq_map, List.map_map]
  have all : (insertEntries [] (memberValues members)).Perm ([] ++ memberValues members) :=
    insertEntries_perm names
  refine ⟨(insertEntries [] (memberValues members)).map fun m => (m.1, m.2.toDoc),
    congrArg (object · none) (membersToDoc_eq_map _), ?_⟩
  have documents := all.map fun m => (m.1, m.2.toDoc)
  rwa [List.nil_append, memberValues_eq_map members, List.map_map,
    ← memberValues_eq_map members] at documents

/-- An object with sorted members is kept member by member. -/
theorem kept_ofMembers_of_increasing {members : List (String × Doc)} (sorted : Increasing members) :
    (ofMembers members).kept = ofMembers (members.map fun m => (m.1, m.2.kept)) := by
  have values : Increasing (memberValues members) := by
    rw [memberValues_eq_map]
    exact List.pairwise_map.2 sorted
  change (Json.object (insertEntries [] (memberValues members))).toDoc = _
  rw [insertEntries_of_increasing values, memberValues_eq_map]
  change object (membersToDoc _) none = _
  rw [membersToDoc_eq_map, List.map_map]
  rfl

/-- What is kept of a value is null only if the value is. -/
theorem kept_eq_null_iff {d : Doc} : d.kept = null ↔ d.value = .null := by
  unfold kept
  cases d.value <;> simp [toDoc]

end Doc

end Listing
