import Mathlib
import Listing.Field.FieldType
import Listing.Proofs.Documents
import Listing.Proofs.Moments
import Listing.Proofs.Numerals
import Listing.Proofs.Outcomes
import Listing.Proofs.Rounding
import Listing.Proofs.SortedSets

/-!
# Values of fields, stored and read back

The value of a field is stored as what is kept of its document, and read back from that.  Most
values come back; some do not, because the document does not tell them from others: a number that
is not finite becomes null, and so does what an optional field holds if that is stored as null.

* `FieldType.Survives` says which values come back;
* `FieldType.decode_encode_iff` is the theorem that these do and no others, wherever the document
  is read.
-/

namespace Listing

/-! ## Lists of documents -/

namespace Decoder

variable {α β : Type}

/-- A list is read exactly if each of its items is. -/
theorem items_eq_ok {decoder : Decoder α} {m : Medium} {place : Nat} {ds : List Doc} {as : List α} :
    items decoder m place ds = .ok as ↔ List.Forall₂ (fun d a => decoder m d = .ok a) ds as := by
  induction ds generalizing place as with
  | nil =>
    rw [List.forall₂_nil_left_iff]
    exact ⟨fun ok => (Except.ok.inj ok).symm, fun none => none ▸ rfl⟩
  | cons d rest ih =>
    rw [items, List.forall₂_cons_left_iff]
    constructor
    · intro ok
      obtain ⟨a, first, ok⟩ := bind_eq_ok.1 ok
      obtain ⟨others, later, ok⟩ := bind_eq_ok.1 ok
      exact ⟨a, others, mapError_eq_ok.1 first, ih.1 later, (Except.ok.inj ok).symm⟩
    · rintro ⟨a, others, first, later, rfl⟩
      exact bind_eq_ok.2 ⟨a, mapError_eq_ok.2 first, bind_eq_ok.2 ⟨others, ih.2 later, rfl⟩⟩

theorem mismatch_ne_ok (d : Doc) (expected : String) (a : α) : mismatch d expected ≠ .ok a := by
  intro ok
  obtain ⟨_, -, ok⟩ := bind_eq_ok.1 ok
  cases ok

/-- What is read of a list is what is read of its items. -/
theorem list_eq_ok {decoder : Decoder α} {m : Medium} {d : Doc} {as : List α} :
    list decoder m d = .ok as ↔
      ∃ ds, d = .ofList ds ∧ List.Forall₂ (fun d a => decoder m d = .ok a) ds as := by
  cases d with
  | list ds stop =>
    constructor
    · intro ok
      obtain ⟨read, items, ok⟩ := bind_eq_ok.1 ok
      cases stop with
      | some cause => cases ok
      | none => exact ⟨ds, rfl, Except.ok.inj ok ▸ items_eq_ok.1 items⟩
    · rintro ⟨ds, ⟨⟩, items⟩
      exact bind_eq_ok.2 ⟨as, items_eq_ok.2 items, rfl⟩
  | _ => exact ⟨fun ok => absurd ok (mismatch_ne_ok _ _ _), fun ⟨_, same, _⟩ => nomatch same⟩

/-- A list of a fixed length is read in the same way, and only if it has that length. -/
theorem tuple_eq_ok {decoder : Decoder α} {n : Nat} {m : Medium} {d : Doc}
    {as : { as : List α // as.length = n }} :
    tuple decoder n m d = .ok as ↔
      ∃ ds, d = .ofList ds ∧ List.Forall₂ (fun d a => decoder m d = .ok a) ds as.val := by
  cases d with
  | list ds stop =>
    constructor
    · intro ok
      obtain ⟨read, items, ok⟩ := bind_eq_ok.1 ok
      by_cases length : read.length = n
      · rw [dif_pos length] at ok
        obtain ⟨⟨⟩, ended, same⟩ := bind_eq_ok.1 ok
        have whole : ds.length ≤ n ∧ stop = none := by
          unfold ending at ended
          split at ended
          · cases stop with
            | none => exact ⟨‹_›, rfl⟩
            | some cause => cases ended
          · cases m <;> cases ended
        obtain ⟨fits, rfl⟩ := whole
        rw [List.take_of_length_le fits] at items
        exact ⟨ds, rfl, Except.ok.inj same ▸ items_eq_ok.1 items⟩
      · rw [dif_neg length] at ok
        obtain ⟨_, -, ok⟩ := bind_eq_ok.1 ok
        cases ok
    · rintro ⟨ds, ⟨⟩, items⟩
      have fits : ds.length = n := items.length_eq.trans as.property
      have ended : ending m n ds.length none = .ok () := if_pos fits.le
      refine bind_eq_ok.2 ⟨as.val, ?_, ?_⟩
      · rw [List.take_of_length_le fits.le]
        exact items_eq_ok.2 items
      · rw [dif_pos as.property, ended]
        rfl
  | _ => exact ⟨fun ok => absurd ok (mismatch_ne_ok _ _ _), fun ⟨_, same, _⟩ => nomatch same⟩

theorem exists_ofList {ds : List Doc} {holds : List Doc → Prop} :
    (∃ ds', Doc.ofList ds = .ofList ds' ∧ holds ds') ↔ holds ds :=
  ⟨fun ⟨_, same, holds⟩ => (Doc.list.inj same).1 ▸ holds, fun holds => ⟨ds, rfl, holds⟩⟩

/-- What is read from a string is what its text is read as. -/
theorem parsed_eq_ok {expected : String} {read : String → Except String α} {m : Medium} {s : String}
    {a : α} : parsed expected read m (.string s) = .ok a ↔ read s = .ok a := by
  cases found : read s <;> simp [parsed, found, Fault.here]

/-- Anything but null is read as something. -/
theorem optional_of_ne_null {decoder : Decoder α} {m : Medium} {d : Doc} (some : d ≠ .null) :
    optional decoder m d = (decoder m d).map Option.some := by
  cases d with
  | null => exact absurd rfl some
  | _ => rfl

/-- The value of a document is always read, as it is. -/
theorem json_kept (m : Medium) (d : Doc) : json m d.kept = .ok d.value := by
  rw [json, Doc.toJson, Doc.kept, Json.refusal?_toDoc, ← Doc.kept, Doc.value_kept]
  rfl

theorem double_kept_ofDouble {m : Medium} {x : Double} :
    double m (Doc.ofDouble x).kept = .ok x ↔ x.isFinite = true := by
  unfold Doc.ofDouble
  split
  · rename_i finite
    exact ⟨fun _ => finite, fun _ => rfl⟩
  · rename_i infinite
    exact ⟨fun ok => (nomatch ok), fun finite => absurd finite infinite⟩

theorem single_kept_ofSingle {m : Medium} {x : Single} :
    single m (Doc.ofSingle x).kept = .ok x ↔ x.isFinite = true := by
  unfold Doc.ofSingle
  split
  · rename_i finite
    obtain ⟨exact, back⟩ := Binary.convert_convert finite
    have stored : (Doc.single x finite).kept = .number (.real x.convert exact) :=
      congrArg Json.toDoc (Doc.value_single finite)
    rw [stored]
    exact ⟨fun _ => finite, fun _ => congrArg Except.ok back⟩
  · rename_i infinite
    refine ⟨fun ok => ?_, fun finite => absurd finite infinite⟩
    cases ok

/-- Each item of a list is read as itself exactly if the whole list is. -/
theorem forall₂_map_left_self {decoder : Decoder α} {m : Medium} {encode : α → Doc} {as : List α} :
    List.Forall₂ (fun d a => decoder m d = .ok a) (as.map encode) as ↔
      ∀ a ∈ as, decoder m (encode a) = .ok a := by
  rw [List.forall₂_map_left_iff, List.forall₂_same]

end Decoder

/-! ## Ordered scalars -/

namespace Atom

/-- The value comes back after it is stored: of choices with one name, the first does. -/
def Survives : (a : Atom) → a.Carrier → Prop
  | choice names, i => names.finIdxOf? (names.get i) = some i
  | _, _ => True

/-- A choice comes back as the first one of its name. -/
theorem decode_choice_eq_ok {names : List String} {m : Medium} {i j : Fin names.length} :
    (choice names).decode m ((choice names).encode i).kept = .ok j ↔
      names.finIdxOf? names[i] = some j := by
  rw [decode, encode, Doc.kept_string, Decoder.parsed_eq_ok]
  cases names.finIdxOf? names[i] <;> simp

theorem decode_encode_iff (a : Atom) (m : Medium) (x : a.Carrier) :
    a.decode m (a.encode x).kept = .ok x ↔ a.Survives x := by
  cases a with
  | integer w => exact ⟨fun _ => trivial, fun _ => dif_pos x.property⟩
  | text => exact ⟨fun _ => trivial, fun _ => rfl⟩
  | flag => exact ⟨fun _ => trivial, fun _ => rfl⟩
  | uuid =>
    rw [decode, encode, Doc.kept_string, Value.uuidDecoder, Decoder.parsed_eq_ok]
    exact ⟨fun _ => trivial, fun _ => mapError_eq_ok.2 x.read_text⟩
  | instant =>
    rw [decode, encode, Doc.kept_string, Value.instantDecoder, Decoder.parsed_eq_ok]
    exact ⟨fun _ => trivial, fun _ => mapError_eq_ok.2 x.readWorld_zuluText⟩
  | localTime =>
    rw [decode, encode, Doc.kept_string, Decoder.parsed_eq_ok]
    exact ⟨fun _ => trivial, fun _ => mapError_eq_ok.2 x.readLocal_localText⟩
  | date =>
    rw [decode, encode, Doc.kept_string, Decoder.parsed_eq_ok]
    exact ⟨fun _ => trivial, fun _ => mapError_eq_ok.2 x.readLoose_text⟩
  | choice names => exact decode_choice_eq_ok

/-- What is read of a stored value comes back itself. -/
theorem survives_of_decode {a : Atom} {m : Medium} {x y : a.Carrier}
    (read : a.decode m (a.encode x).kept = .ok y) : a.Survives y := by
  cases a with
  | choice names =>
    have found := decode_choice_eq_ok.1 read
    have same : names[y] = names[x] := (List.finIdxOf?_eq_some_iff.1 found).1
    exact (congrArg names.finIdxOf? same).trans found
  | _ => trivial

end Atom

/-! ## Fields -/

namespace FieldType

/-- The value comes back after it is stored. -/
def Survives : (t : FieldType) → t.Carrier → Prop
  | atom a, x => a.Survives x
  | single, x => x.isFinite = true
  | double, x => x.isFinite = true
  | document, j => j.Ordered
  | optional _, none => True
  | optional t, some x => Survives t x ∧ (t.encode x).value ≠ .null
  | list t, xs => ∀ x ∈ xs, Survives t x
  | set a, xs => ∀ x ∈ xs.val, a.Survives x
  | slice t, xs => ∀ x ∈ xs, Survives t x
  | tuple t _, xs => ∀ x ∈ xs.val, Survives t x

/-- A stored value is read as itself exactly if it survives, wherever it is read. -/
theorem decode_encode_iff (t : FieldType) (m : Medium) (x : t.Carrier) :
    t.decode m (t.encode x).kept = .ok x ↔ t.Survives x := by
  induction t with
  | atom a => exact a.decode_encode_iff m x
  | single => exact Decoder.single_kept_ofSingle
  | double => exact Decoder.double_kept_ofDouble
  | document =>
    rw [decode, encode, Decoder.json_kept]
    refine ⟨fun ok => ?_, fun ordered => congrArg Except.ok (Json.value_toDoc ordered)⟩
    exact Except.ok.inj ok ▸ x.toDoc.ordered_value
  | optional t ih =>
    cases x with
    | none => exact ⟨fun _ => trivial, fun _ => rfl⟩
    | some x =>
      -- What is stored as null comes back as nothing, whatever the inner type makes of null.
      by_cases null : (t.encode x).kept = .null
      · rw [decode, encode, null]
        exact ⟨fun ok => (nomatch Except.ok.inj ok),
          fun survives => absurd (Doc.kept_eq_null_iff.1 null) survives.2⟩
      · rw [decode, encode, Decoder.optional_of_ne_null null, map_eq_ok]
        constructor
        · rintro ⟨y, read, same⟩
          exact ⟨(ih x).1 (Option.some.inj same ▸ read), mt Doc.kept_eq_null_iff.2 null⟩
        · exact fun survives => ⟨x, (ih x).2 survives.1, rfl⟩
  | list t ih | slice t ih =>
    rw [decode, encode, Doc.kept_ofList, List.map_map, Decoder.list_eq_ok, Decoder.exists_ofList,
      Decoder.forall₂_map_left_self]
    exact forall₂_congr fun x _ => ih x
  | set a =>
    rw [decode, encode, Doc.kept_ofList, List.map_map, Decoder.map, map_eq_ok]
    simp only [Decoder.list_eq_ok, Decoder.exists_ofList]
    constructor
    -- A set is built anew from what is read of its values, which need not be read as themselves
    -- one by one: that each of them survives follows from what is in the new set.
    · rintro ⟨ys, read, same⟩ y member
      have fromStored : List.Forall₂ (fun y x => a.decode m (a.encode x).kept = .ok y) ys x.val :=
        (List.forall₂_map_left_iff.1 read).flip
      have survives := (List.forall₂_and_left ys x.val).1
        (fromStored.imp fun _ _ read => And.intro (a.survives_of_decode read) read)
      exact survives.1 y (Sorted.mem_ofList (same ▸ member))
    · intro survives
      refine ⟨x.val, Decoder.forall₂_map_left_self.2 fun y member => ?_, Sorted.ofList_val x⟩
      exact (a.decode_encode_iff m y).2 (survives y member)
  | tuple t n ih =>
    rw [decode, encode, Doc.kept_ofList, List.map_map, Decoder.tuple_eq_ok, Decoder.exists_ofList,
      Decoder.forall₂_map_left_self]
    exact forall₂_congr fun x _ => ih x

/-- Where a document comes from decides how it is refused, but not what is read of it. -/
theorem decode_medium (t : FieldType) {m : Medium} (m' : Medium) {d : Doc} {v : t.Carrier}
    (read : t.decode m d = .ok v) : t.decode m' d = .ok v := by
  induction t generalizing d with
  | atom a => cases a <;> exact read
  | single => exact read
  | double => exact read
  | document => exact read
  | optional t ih =>
    by_cases null : d = .null
    · subst null
      exact read
    · rw [decode, Decoder.optional_of_ne_null null, map_eq_ok] at read ⊢
      obtain ⟨x, read, same⟩ := read
      exact ⟨x, ih read, same⟩
  | list t ih | slice t ih =>
    obtain ⟨ds, rfl, items⟩ := Decoder.list_eq_ok.1 read
    exact Decoder.list_eq_ok.2 ⟨ds, rfl, items.imp fun _ _ => ih⟩
  | set a =>
    obtain ⟨xs, read, same⟩ := map_eq_ok.1 read
    obtain ⟨ds, rfl, items⟩ := Decoder.list_eq_ok.1 read
    refine map_eq_ok.2 ⟨xs, Decoder.list_eq_ok.2 ⟨ds, rfl, items.imp fun _ _ read => ?_⟩, same⟩
    cases a <;> exact read
  | tuple t n ih =>
    obtain ⟨ds, rfl, items⟩ := Decoder.tuple_eq_ok.1 read
    exact Decoder.tuple_eq_ok.2 ⟨ds, rfl, items.imp fun _ _ => ih⟩

/-- Something can be read of the stored value: where null is not allowed, numbers are finite. -/
def Readable : (t : FieldType) → t.Carrier → Prop
  | single, x => x.isFinite = true
  | double, x => x.isFinite = true
  | optional t, some x => (t.encode x).value = .null ∨ Readable t x
  | list t, xs => ∀ x ∈ xs, Readable t x
  | slice t, xs => ∀ x ∈ xs, Readable t x
  | tuple t _, xs => ∀ x ∈ xs.val, Readable t x
  | _, _ => True

/-- Whatever is read of a stored value, it can be read. -/
theorem readable_of_decode (t : FieldType) {m : Medium} {x v : t.Carrier}
    (read : t.decode m (t.encode x).kept = .ok v) : t.Readable x := by
  have items {t : FieldType} (ih : ∀ {x v : t.Carrier},
      t.decode m (t.encode x).kept = .ok v → t.Readable x) {xs vs : List t.Carrier}
      (read : List.Forall₂ (fun d v => t.decode m d = .ok v) ((xs.map t.encode).map Doc.kept) vs) :
      ∀ x ∈ xs, t.Readable x := by
    rw [List.map_map, List.forall₂_map_left_iff] at read
    exact ((List.forall₂_and_left xs vs).1 (read.imp fun _ _ read => And.intro (ih read) read)).1
  induction t with
  | single =>
    by_contra infinite
    have null : (Doc.ofSingle x).kept = .null := congrArg Doc.kept (dif_neg infinite)
    rw [decode, encode, null] at read
    cases read
  | double =>
    by_contra infinite
    have null : (Doc.ofDouble x).kept = .null := congrArg Doc.kept (dif_neg infinite)
    rw [decode, encode, null] at read
    cases read
  | optional t ih =>
    cases x with
    | none => trivial
    | some x =>
      by_cases null : (t.encode x).kept = .null
      · exact .inl (Doc.kept_eq_null_iff.1 null)
      · rw [decode, encode, Decoder.optional_of_ne_null null, map_eq_ok] at read
        obtain ⟨y, read, -⟩ := read
        exact .inr (ih read)
  | list t ih | slice t ih =>
    rw [decode, encode, Doc.kept_ofList, Decoder.list_eq_ok, Decoder.exists_ofList] at read
    exact items ih read
  | tuple t n ih =>
    rw [decode, encode, Doc.kept_ofList, Decoder.tuple_eq_ok, Decoder.exists_ofList] at read
    exact items ih read
  | _ => trivial

end FieldType

end Listing
