import Mathlib
import Listing.Proofs.NearestNumbers
import Listing.Proofs.UntypedReading

/-!
# Values without a type

A value that is read when no type is declared is none of those that only a type can tell from a
text: no identifier, no moment and no choice.  Of those that are left every one has a document of
its own form, so that it is read from its document again.  What is lost on the way from a document
are whole numbers beyond the signed ones, and only where they are not in an object.

* `Value.IsUntyped` are the values that are read, and `Json.rounded` is what becomes of a document;
* `Value.ofJson_value_toDoc` says that such a value is read from its document,
  `Value.value_toDoc_ofJson` what is written of a value that was read;
* `Value.fromTree_stable` puts this together.
-/

namespace Listing

/-! ## Rounded documents -/

namespace Json

mutual

/-- A document value in which every whole number beyond the signed ones is rounded to a double;
objects stay as they are. -/
def rounded : Json → Json
  | number (.whole n) =>
    if IntegerWidth.signed64.Holds n.val then number (.whole n) else ofDouble (.ofInt n.val)
  | array items => array (allRounded items)
  | j => j

/-- The rounded values of a list. -/
def allRounded : List Json → List Json
  | [] => []
  | j :: rest => rounded j :: allRounded rest

end

end Json

/-- A whole number that a document can hold has a nearest double, to which it is rounded. -/
theorem isNearest_ofInt_wide (n : Wide) : (Binary.ofInt n.val : Double).IsNearest n.val := by
  refine Binary.isNearest_ofInt (by decide) ?_
  have below : n.val.natAbs * 1 ≤ 2 ^ 128 * 1 := by
    obtain ⟨least, greatest⟩ := n.property
    omega
  exact (BinaryFormat.nearest_le_nearest Nat.one_pos Nat.one_pos below).trans_lt
    BinaryFormat.nearest_limits.1.1

namespace Value

/-! ## Values that are read -/

/-- The value is none of those that are told from texts by a type; a document is an object. -/
inductive IsUntyped : Value → Prop where
  | text (s : String) : IsUntyped (text s)
  | integer (n : Bounded .signed64) : IsUntyped (integer n)
  | real {x : Double} (finite : x.isFinite = true) : IsUntyped (real x)
  | flag (b : Bool) : IsUntyped (flag b)
  | list {items : List Value} (all : ∀ v ∈ items, IsUntyped v) : IsUntyped (list items)
  | null : IsUntyped null
  | document {members : List (String × Json)} (ordered : (Json.object members).Ordered) :
    IsUntyped (document (.object members))

/-- A whole number is read as an integer or as a double. -/
theorem isUntyped_ofInt (n : Wide) : (ofInt n.val).IsUntyped := by
  unfold ofInt
  split_ifs with signed
  · exact .integer _
  · exact .real (isNearest_ofInt_wide n).finite

mutual

/-- What is read of an ordered document could have been read of it. -/
theorem isUntyped_ofJson : ∀ {j : Json}, j.Ordered → (ofJson j).IsUntyped
  | .null, _ => .null
  | .flag b, _ => .flag b
  | .number (.whole n), _ => isUntyped_ofInt n
  | .number (.real _ finite), _ => .real finite
  | .string s, _ => .text s
  | .array _, ordered => .list (forall_isUntyped_allOfJson ordered)
  | .object _, ordered => .document ordered

theorem forall_isUntyped_allOfJson : ∀ {items : List Json}, Json.ItemsOrdered items →
    ∀ v ∈ allOfJson items, v.IsUntyped
  | [], _ => List.forall_mem_nil _
  | _ :: _, ordered =>
    List.forall_mem_cons.2 ⟨isUntyped_ofJson ordered.1, forall_isUntyped_allOfJson ordered.2⟩

end

/-- A value that is read is a document exactly where an object is read, and then it is this. -/
theorem ofJson_eq_document_iff {j j' : Json} :
    ofJson j = document j' ↔ (∃ members, j = .object members) ∧ j' = j := by
  constructor
  · intro same
    unfold ofJson at same
    split at same
    case h_7 members =>
      exact ⟨⟨members, rfl⟩, (Value.document.inj same).symm⟩
    case h_3 =>
      unfold ofInt at same
      split at same <;> cases same
    all_goals cases same
  · intro object
    obtain ⟨⟨members, rfl⟩, rfl⟩ := object
    rfl

/-! ## Documents of values that were read -/

theorem refusal?_ofDouble (x : Double) : (Doc.ofDouble x).refusal? = none := by
  unfold Doc.ofDouble
  split <;> rfl

mutual

/-- The document of a value has a value itself. -/
theorem refusal?_toDoc : ∀ v : Value, v.toDoc.refusal? = none
  | text _ | integer _ | flag _ | uuid _ | instant _ | choice _ | null => rfl
  | real x => refusal?_ofDouble x
  | list items => by
    rw [toDoc, Doc.refusal?, itemsRefusal?_allToDoc items]
    rfl
  | document j => Json.refusal?_toDoc j

theorem itemsRefusal?_allToDoc : ∀ items : List Value, Doc.itemsRefusal? (allToDoc items) = none
  | [] => rfl
  | v :: rest => by
    rw [allToDoc, Doc.itemsRefusal?, refusal?_toDoc v, itemsRefusal?_allToDoc rest]
    rfl

end

/-- Every value can be written as a document. -/
theorem toJson_toDoc (v : Value) : v.toDoc.toJson = .ok v.toDoc.value := by
  rw [Doc.toJson, refusal?_toDoc]

/-- A whole number is written as it was read, rounded where it is a double. -/
theorem value_toDoc_ofInt (n : Wide) :
    (ofInt n.val).toDoc.value = (Json.number (.whole n)).rounded := by
  unfold ofInt Json.rounded
  split_ifs with signed
  · rfl
  · have finite := (isNearest_ofInt_wide n).finite
    have rounded : Json.ofDouble (.ofInt n.val) = .number (.real _ finite) := dif_pos finite
    rw [toDoc_real finite, rounded]
    rfl

mutual

/-- What is written of a value that was read is what it was read from, rounded. -/
theorem value_toDoc_ofJson : ∀ {j : Json}, j.Ordered → (ofJson j).toDoc.value = j.rounded
  | .null, _ | .flag _, _ | .string _, _ => rfl
  | .number (.whole n), _ => value_toDoc_ofInt n
  | .number (.real _ finite), _ => congrArg Doc.value (toDoc_real finite)
  | .array _, ordered => congrArg Json.array (itemValues_allToDoc_allOfJson ordered)
  | .object _, ordered => Json.value_toDoc ordered

theorem itemValues_allToDoc_allOfJson : ∀ {items : List Json}, Json.ItemsOrdered items →
    Doc.itemValues (allToDoc (allOfJson items)) = Json.allRounded items
  | [], _ => rfl
  | _ :: _, ordered => congrArg₂ List.cons (value_toDoc_ofJson ordered.1)
      (itemValues_allToDoc_allOfJson ordered.2)

end

mutual

/-- A value without a type is the one that its document stands for. -/
theorem ofJson_value_toDoc : ∀ {v : Value}, v.IsUntyped → ofJson v.toDoc.value = v
  | _, .text _ | _, .flag _ | _, .null => rfl
  | _, .integer n => dif_pos n.property
  | _, .real finite => by
    rw [toDoc_real finite]
    rfl
  | _, .list all => congrArg list (allOfJson_itemValues_allToDoc all)
  | _, .document ordered => by
    rw [toDoc, Json.value_toDoc ordered]
    rfl

theorem allOfJson_itemValues_allToDoc : ∀ {items : List Value}, (∀ v ∈ items, v.IsUntyped) →
    allOfJson (Doc.itemValues (allToDoc items)) = items
  | [], _ => rfl
  | _ :: _, all => by
    obtain ⟨first, others⟩ := List.forall_mem_cons.1 all
    exact congrArg₂ List.cons (ofJson_value_toDoc first) (allOfJson_itemValues_allToDoc others)

end

/-! ## Reading and writing -/

/-- Whatever is read without a type is such a value. -/
theorem isUntyped_of_decoder {m : Medium} {d : Doc} {v : Value} (read : decoder m d = .ok v) :
    v.IsUntyped := by
  rw [decoder_eq, Doc.toJson] at read
  cases refused : d.refusal? with
  | some cause =>
    rw [refused] at read
    cases read
  | none =>
    rw [refused] at read
    obtain rfl := Except.ok.inj read
    exact isUntyped_ofJson d.ordered_value

/-- Every ordered document is read, and as the value that it stands for. -/
theorem fromTree_eq {j : Json} (ordered : j.Ordered) : decoder.fromTree j = .ok (ofJson j) := by
  rw [Decoder.fromTree, decoder_eq, Doc.toJson, Json.refusal?_toDoc, Json.value_toDoc ordered]
  rfl

/-- **Every document value is read, and reading is stable.**  What is read is a value without a
type, a document for objects alone, and it is written as the document value that it was read from,
where each whole number beyond the signed ones that is in no object is the nearest double.  Whatever
was read, from whichever document, is read from what is written of it. -/
theorem fromTree_stable :
    (∀ j : Json, j.Ordered → ∃ v, decoder.fromTree j = .ok v ∧ v.IsUntyped ∧
      (∀ j', v = document j' ↔ (∃ members, j = .object members) ∧ j' = j) ∧
      v.toDoc.toJson = .ok j.rounded) ∧
    (∀ n : Wide, (Binary.ofInt n.val : Double).IsNearest n.val) ∧
    ∀ m d v, decoder m d = .ok v → ∃ j, v.toDoc.toJson = .ok j ∧ decoder.fromTree j = .ok v := by
  refine ⟨fun j ordered => ⟨ofJson j, fromTree_eq ordered, isUntyped_ofJson ordered,
    fun j' => ofJson_eq_document_iff, ?_⟩, isNearest_ofInt_wide, fun m d v read => ?_⟩
  · rw [toJson_toDoc, value_toDoc_ofJson ordered]
  · refine ⟨v.toDoc.value, toJson_toDoc v, ?_⟩
    rw [fromTree_eq v.toDoc.ordered_value, ofJson_value_toDoc (isUntyped_of_decoder read)]

/-- A list of a text that could be an identifier, a number beyond the signed ones, and an object
with such a number. -/
def mixedList : Json :=
  .array [.string "00000000-0000-4000-8000-000000000001",
    .number (.whole ⟨9223372036854775809, by decide⟩),
    .array [.null, .object [("least", .number (.whole ⟨9223372036854775808, by decide⟩))]]]

theorem fromTree_mixedList :
    mixedList.Ordered ∧ ∃ v, decoder.fromTree mixedList = .ok v ∧ v.IsUntyped ∧
      v.toDoc.toJson = .ok mixedList.rounded ∧
      ∃ j, v.toDoc.toJson = .ok j ∧ decoder.fromTree j = .ok v := by
  obtain ⟨reads, -, again⟩ := fromTree_stable
  have ordered : mixedList.Ordered := by
    simp [mixedList, Json.Ordered, Json.ItemsOrdered, Json.MembersOrdered]
  obtain ⟨v, read, untyped, -, written⟩ := reads mixedList ordered
  exact ⟨ordered, v, read, untyped, written, again .tree mixedList.toDoc v read⟩

end Value

end Listing
