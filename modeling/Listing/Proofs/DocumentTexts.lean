import Mathlib
import Listing.Json.Decoding
import Listing.Proofs.Documents
import Listing.Proofs.Scanning

/-!
# Documents read from their texts

A document is written as a text, and reading the text gives the document again.  Real numbers need
not come back as they were, because reading scales their digits in double precision, and containers
have a value only if they are not nested too deeply, so of these it must be assumed.

* `Doc.Legible` is what is assumed of a document, and `Doc.reread` the document that comes back, in
  which only the numbers of single precision have changed;
* `Doc.value_text` reads the text of a legible document with anything behind it, by induction on
  the document;
* `Doc.read_text` and `Decoder.fromText_text` conclude it for whole texts.
-/

namespace Listing

namespace Doc

/-! ## Legible documents -/

mutual

/-- The text of a document can be read: it is JSON, its containers are nested no deeper than the
levels allow, and its numbers are read as numbers, those of double precision as themselves. -/
def Legible (levels : Nat) : Doc → Prop
  | null | flag _ | string _ => True
  | number n => n.Rereads
  | single x _ => ∃ n, Json.Reading.number (Json.singleText x).toList = (number n, some [])
  | list items stop => 0 < levels ∧ stop = none ∧ ItemsLegible (levels - 1) items
  | object members stop => 0 < levels ∧ stop = none ∧ MembersLegible (levels - 1) members
  | refused _ _ | unnamed _ _ | broken _ => False

/-- The texts of all items can be read. -/
def ItemsLegible (levels : Nat) : List Doc → Prop
  | [] => True
  | d :: rest => Legible levels d ∧ ItemsLegible levels rest

/-- The texts of all members can be read. -/
def MembersLegible (levels : Nat) : List (String × Doc) → Prop
  | [] => True
  | (_, d) :: rest => Legible levels d ∧ MembersLegible levels rest

end

mutual

/-- The document as its text is read: a number of single precision is read like any other. -/
def reread : Doc → Doc
  | single x _ => (Json.Reading.number (Json.singleText x).toList).1
  | list items stop => list (itemsReread items) stop
  | object members stop => object (membersReread members) stop
  | d => d

/-- The items as their texts are read. -/
def itemsReread : List Doc → List Doc
  | [] => []
  | d :: rest => reread d :: itemsReread rest

/-- The members as their texts are read. -/
def membersReread : List (String × Doc) → List (String × Doc)
  | [] => []
  | (k, d) :: rest => (k, reread d) :: membersReread rest

end

mutual

/-- With more levels a document can still be read. -/
theorem Legible.mono : ∀ {d : Doc} {levels levels' : Nat}, levels ≤ levels' → d.Legible levels →
    d.Legible levels'
  | null, _, _, _, _ | flag _, _, _, _, _ | string _, _, _, _, _ => trivial
  | number _, _, _, _, legible | single _ _, _, _, _, legible => legible
  | list _ _, _, _, more, ⟨left, stop, items⟩ =>
    ⟨left.trans_le more, stop, ItemsLegible.mono (Nat.sub_le_sub_right more 1) items⟩
  | object _ _, _, _, more, ⟨left, stop, members⟩ =>
    ⟨left.trans_le more, stop, MembersLegible.mono (Nat.sub_le_sub_right more 1) members⟩
  | refused _ _, _, _, _, legible | unnamed _ _, _, _, _, legible | broken _, _, _, _, legible =>
    legible

theorem ItemsLegible.mono : ∀ {items : List Doc} {levels levels' : Nat}, levels ≤ levels' →
    ItemsLegible levels items → ItemsLegible levels' items
  | [], _, _, _, _ => trivial
  | _ :: _, _, _, more, legible => ⟨legible.1.mono more, ItemsLegible.mono more legible.2⟩

theorem MembersLegible.mono : ∀ {members : List (String × Doc)} {levels levels' : Nat},
    levels ≤ levels' → MembersLegible levels members → MembersLegible levels' members
  | [], _, _, _, _ => trivial
  | _ :: _, _, _, more, legible => ⟨legible.1.mono more, MembersLegible.mono more legible.2⟩

end

mutual

/-- What is read from a text is the document of a value. -/
theorem Legible.exists_toDoc : ∀ {d : Doc} {levels : Nat}, d.Legible levels →
    ∃ j : Json, d.reread = j.toDoc
  | null, _, _ => ⟨.null, rfl⟩
  | flag b, _, _ => ⟨.flag b, rfl⟩
  | number n, _, _ => ⟨.number n, rfl⟩
  | string s, _, _ => ⟨.string s, rfl⟩
  | single _ _, _, ⟨n, read⟩ => ⟨.number n, congrArg Prod.fst read⟩
  | list _ _, _, ⟨_, stop, items⟩ => by
    obtain ⟨js, same⟩ := items.exists_toDoc
    exact ⟨.array js, congrArg₂ list same stop⟩
  | object _ _, _, ⟨_, stop, members⟩ => by
    obtain ⟨js, same⟩ := members.exists_toDoc
    exact ⟨.object js, congrArg₂ object same stop⟩
  | refused _ _, _, legible | unnamed _ _, _, legible | broken _, _, legible => legible.elim

/-- What comes back of items that can be read are the documents of values. -/
theorem ItemsLegible.exists_toDoc : ∀ {items : List Doc} {levels : Nat}, ItemsLegible levels items →
    ∃ js, itemsReread items = Json.itemsToDoc js
  | [], _, _ => ⟨[], rfl⟩
  | _ :: _, _, legible => by
    obtain ⟨j, first⟩ := legible.1.exists_toDoc
    obtain ⟨js, others⟩ := ItemsLegible.exists_toDoc legible.2
    exact ⟨j :: js, congrArg₂ List.cons first others⟩

theorem MembersLegible.exists_toDoc : ∀ {members : List (String × Doc)} {levels : Nat},
    MembersLegible levels members → ∃ js, membersReread members = Json.membersToDoc js
  | [], _, _ => ⟨[], rfl⟩
  | (k, _) :: _, _, legible => by
    obtain ⟨j, first⟩ := legible.1.exists_toDoc
    obtain ⟨js, others⟩ := MembersLegible.exists_toDoc legible.2
    exact ⟨(k, j) :: js, congrArg₂ List.cons (congrArg (Prod.mk k) first) others⟩

end

/-- What is read from a text is null only if it was written for null. -/
theorem Legible.reread_eq_null_iff {levels : Nat} {d : Doc} (legible : d.Legible levels) :
    d.reread = null ↔ d.value = .null := by
  cases d with
  | null => exact ⟨fun _ => rfl, fun _ => rfl⟩
  | flag | number | string | list | object => exact ⟨nofun, nofun⟩
  | single x finite =>
    obtain ⟨n, read⟩ := legible
    have written : (single x finite).reread = number n := congrArg Prod.fst read
    rw [written, value_single finite]
    exact ⟨nofun, nofun⟩
  | refused | unnamed | broken => exact legible.elim

/-- Members can be read if the document of each of them can. -/
theorem membersLegible_iff {levels : Nat} {members : List (String × Doc)} :
    MembersLegible levels members ↔ ∀ m ∈ members, m.2.Legible levels := by
  induction members with
  | nil => simp [MembersLegible]
  | cons m rest ih => simp [MembersLegible, ih]

/-- An object takes one level, and its members the others. -/
theorem legible_ofMembers_iff {levels : Nat} {members : List (String × Doc)} :
    (ofMembers members).Legible (levels + 1) ↔ ∀ m ∈ members, m.2.Legible levels := by
  rw [← membersLegible_iff]
  exact ⟨fun legible => legible.2.2, fun legible => ⟨Nat.succ_pos levels, rfl, legible⟩⟩

/-- An object comes back with its members under their names. -/
theorem reread_ofMembers (members : List (String × Doc)) :
    (ofMembers members).reread = ofMembers (members.map fun m => (m.1, m.2.reread)) := by
  have each : membersReread members = members.map fun m => (m.1, m.2.reread) := by
    induction members with
    | nil => rfl
    | cons m rest ih => rw [membersReread, ih, List.map_cons]
  exact congrArg ofMembers each

end Doc

/-! ## Values with something behind them -/

namespace Json.Reading

/-- The text begins with a character that is no blank and does not end a container. -/
def Begins (cs : List Char) : Prop :=
  ∃ c rest, cs = c :: rest ∧ isGap c = false ∧ c ≠ ']' ∧ c ≠ '\x7d'

theorem Begins.append {cs : List Char} (begins : Begins cs) (rest : List Char) :
    Begins (cs ++ rest) := by
  obtain ⟨c, tail, rfl, solid, list, object⟩ := begins
  exact ⟨c, tail ++ rest, rfl, solid, list, object⟩

theorem begins_number {cs left : List Char} {n : Json.Number}
    (read : number cs = (.number n, some left)) : Begins cs := by
  obtain ⟨c, rest, rfl, minus | digit⟩ := head_of_number read
  · subst minus
    exact ⟨_, _, rfl, by decide, by decide, by decide⟩
  · have high : c.toNat < 58 := Nat.lt_succ_of_le
      (UInt32.le_iff_toNat_le.1 (of_decide_eq_true (Bool.and_eq_true_iff.1 digit).2))
    refine ⟨c, rest, rfl, ?_⟩
    revert digit
    exact Text.of_toNat_lt c high (by decide)

section Levels

variable {fuel levels : Nat} {cs rest : List Char}

/-- A character that is no gap is not passed over. -/
theorem pastGap_cons {c : Char} (solid : isGap c = false) : pastGap (c :: cs) = c :: cs :=
  List.dropWhile_cons_of_neg (by simp [solid])

theorem value_number {n : Json.Number} {left : List Char}
    (read : number cs = (.number n, some left)) : value (fuel + 1) levels cs = number cs := by
  obtain ⟨c, tail, rfl, numeric⟩ := head_of_number read
  obtain ⟨c', tail', same, solid, -⟩ := begins_number read
  obtain ⟨rfl, rfl⟩ := List.cons.inj same
  have other (d : Char) (strange : ¬ (d = '-' ∨ Text.isDigit d = true)) : c ≠ d :=
    fun same => strange (same ▸ numeric)
  rw [value.eq_def]
  dsimp only
  rw [pastGap_cons solid]
  split
  · rename_i same
    cases same
  iterate 6
    rename_i same
    exact absurd (List.cons.inj same).1 (other _ (by decide))
  · rename_i same
    obtain ⟨rfl, rfl⟩ := List.cons.inj same
    exact if_pos numeric

/-- The text of a string is read as that string, whatever follows. -/
theorem value_string (s : String) :
    value (fuel + 1) levels ((stringText s).toList ++ rest) = (.string s, some rest) := by
  rw [toList_stringText, List.cons_append, List.append_assoc, value]
  change string (s.toList.flatMap escaped ++ '"' :: rest) = _
  rw [string, scan_stringText]

/-- After the opening bracket a list is read by its items, one level deeper. -/
theorem value_list {ds : List Doc} (run : items fuel levels true cs = ⟨ds, none, some rest⟩) :
    value (fuel + 1) (levels + 1) ('[' :: cs) = (.list ds none, some rest) := by
  rw [value]
  change (Doc.list (items fuel levels true cs).parts (items fuel levels true cs).stop,
    (items fuel levels true cs).rest) = _
  rw [run]

/-- After the opening brace an object is read by its members, one level deeper. -/
theorem value_object {ms : List (String × Doc)}
    (run : members fuel levels true cs = ⟨ms, none, some rest⟩) :
    value (fuel + 1) (levels + 1) ('\x7b' :: cs) = (.object ms none, some rest) := by
  rw [value]
  change (Doc.object (members fuel levels true cs).parts (members fuel levels true cs).stop,
    (members fuel levels true cs).rest) = _
  rw [run]

/-- The first item stands right behind the bracket. -/
theorem items_first (begins : Begins cs) :
    items (fuel + 1) levels true cs = item fuel levels cs := by
  obtain ⟨c, tail, rfl, solid, list, -⟩ := begins
  rw [items, pastGap_cons solid]
  dsimp only
  rw [if_neg list, if_pos rfl]

theorem items_next (begins : Begins cs) :
    items (fuel + 1) levels false (',' :: cs) = item fuel levels cs := by
  obtain ⟨c, tail, rfl, solid, list, -⟩ := begins
  rw [items, pastGap_cons (by decide)]
  dsimp only
  rw [if_neg (by decide), if_neg (by decide), if_pos rfl, pastGap_cons solid]
  dsimp only
  rw [if_neg list]

/-- An item is a value with the further items behind it. -/
theorem item_eq {d : Doc} {ds : List Doc} {behind : List Char}
    (first : value fuel levels cs = (d, some behind))
    (later : items fuel levels false behind = ⟨ds, none, some rest⟩) :
    item (fuel + 1) levels cs = ⟨d :: ds, none, some rest⟩ := by
  rw [item, first]
  dsimp only
  rw [later]
  rfl

/-- The first member stands right behind the brace. -/
theorem members_first :
    members (fuel + 1) levels true ('"' :: cs) = member fuel levels cs := by
  rw [members]
  rfl

theorem members_next :
    members (fuel + 1) levels false (',' :: '"' :: cs) = member fuel levels cs := by
  rw [members]
  rfl

/-- A member is a name, a colon and a value, with the further members behind it. -/
theorem member_eq {name : String} {d : Doc} {ms : List (String × Doc)} {behind : List Char}
    (first : value fuel levels cs = (d, some behind))
    (later : members fuel levels false behind = ⟨ms, none, some rest⟩) :
    member (fuel + 1) levels (name.toList.flatMap escaped ++ '"' :: ':' :: cs) =
      ⟨(name, d) :: ms, none, some rest⟩ := by
  have named : colon (':' :: cs) = .ok cs := rfl
  rw [member, scan_stringText]
  dsimp only
  rw [named]
  dsimp only
  rw [first]
  dsimp only
  rw [later]
  rfl

end Levels

/-- Further texts, each behind a comma. -/
def further (ss : List String) : List Char := ss.flatMap fun s => ',' :: s.toList

/-- One more text is written behind a comma of its own. -/
theorem further_cons (s : String) (ss : List String) :
    further (s :: ss) = ',' :: (s.toList ++ further ss) := rfl

/-- Texts with commas between them are the first and the further ones. -/
theorem toList_intercalate_cons (s : String) (ss : List String) :
    (",".intercalate (s :: ss)).toList = s.toList ++ further ss := by
  rw [String.toList_intercalate, List.map_cons]
  induction ss generalizing s with
  | nil => simp [further]
  | cons t ss ih =>
    rw [List.map_cons, List.intercalate_cons_cons, ih]
    simp [further]

/-- No number goes on where a comma or a closing bracket follows. -/
theorem endsNumber_further {ss : List String} {c : Char} (ends : c = ']' ∨ c = '\x7d')
    (rest : List Char) : EndsNumber (further ss ++ c :: rest) := by
  rintro d first
  cases ss with
  | nil => exact .inr (Option.some.inj first ▸ ends)
  | cons s ss => exact .inl (Option.some.inj first).symm

end Json.Reading

namespace Doc

open Json.Reading

theorem toList_list (items : List Doc) (stop : Option Malformation) :
    (list items stop).text.toList =
      '[' :: ((",".intercalate (itemTexts items)).toList ++ [']']) := by
  rw [text, String.toList_append, String.toList_append]
  rfl

theorem toList_object (members : List (String × Doc)) (stop : Option Malformation) :
    (object members stop).text.toList =
      '\x7b' :: ((",".intercalate (memberTexts members)).toList ++ ['\x7d']) := by
  rw [text, String.toList_append, String.toList_append]
  rfl

theorem toList_member (name : String) (d : Doc) :
    (Json.stringText name ++ ":" ++ d.text).toList =
      '"' :: (name.toList.flatMap Json.escaped ++ '"' :: ':' :: d.text.toList) := by
  rw [String.toList_append, String.toList_append, toList_stringText]
  simp

/-- The text of a legible document begins like a value, so that nothing of it is passed over. -/
theorem Legible.begins {levels : Nat} {d : Doc} (legible : d.Legible levels) :
    Begins d.text.toList := by
  cases d with
  | null => exact ⟨_, _, rfl, by decide, by decide, by decide⟩
  | flag b => cases b <;> exact ⟨_, _, rfl, by decide, by decide, by decide⟩
  | number n => exact begins_number legible
  | single x finite => exact begins_number legible.choose_spec
  | string s => exact ⟨_, _, toList_stringText s, by decide, by decide, by decide⟩
  | list items stop => exact ⟨_, _, toList_list items stop, by decide, by decide, by decide⟩
  | object members stop =>
    exact ⟨_, _, toList_object members stop, by decide, by decide, by decide⟩
  | refused _ _ | unnamed _ _ | broken _ => exact legible.elim

theorem value_of_number {levels fuel : Nat} {cs rest : List Char} {n : Json.Number}
    (read : Json.Reading.number cs = (.number n, some [])) (ends : EndsNumber rest) :
    Json.Reading.value (fuel + 1) levels (cs ++ rest) = (.number n, some rest) :=
  (value_number (number_append ends read)).trans (number_append ends read)

mutual

/-- The text of a document is read as the document, up to its end. -/
theorem value_text : ∀ {d : Doc} {fuel levels : Nat} {rest : List Char}, d.Legible levels →
    EndsNumber rest → 2 * d.text.toList.length ≤ fuel + 1 →
      Json.Reading.value (fuel + 1) levels (d.text.toList ++ rest) = (d.reread, some rest)
  | null, _, _, _, _, _, _ => by
    rw [Json.Reading.value]
    rfl
  | flag b, _, _, _, _, _, _ => by
    rw [Json.Reading.value]
    cases b <;> rfl
  | number n, _, _, _, legible, ends, _ => value_of_number legible ends
  | single x _, _, _, _, legible, ends, _ => by
    obtain ⟨n, read⟩ := legible
    rw [text, value_of_number read ends, reread, read]
  | string s, _, _, _, _, _, _ => value_string s
  | list items _, fuel, levels + 1, rest, ⟨_, rfl, legible⟩, _, enough => by
    rw [toList_list] at enough ⊢
    simp only [List.length_cons, List.length_append, List.length_nil] at enough
    rw [List.cons_append, List.append_assoc]
    refine value_list ?_
    match items, legible with
    | [], _ =>
      obtain ⟨fuel, rfl⟩ : ∃ less, fuel = less + 1 := ⟨fuel - 1, by omega⟩
      rw [Json.Reading.items]
      rfl
    | d :: items, ⟨first, others⟩ =>
      rw [itemTexts, toList_intercalate_cons, List.length_append] at enough
      obtain ⟨fuel, rfl⟩ : ∃ less, fuel = less + 3 := ⟨fuel - 3, by omega⟩
      rw [itemTexts, toList_intercalate_cons, List.append_assoc,
        items_first (first.begins.append _)]
      exact item_eq (value_text first (endsNumber_further (.inl rfl) rest) (by omega))
        (items_texts others (by omega))
  | object members _, fuel, levels + 1, rest, ⟨_, rfl, legible⟩, _, enough => by
    rw [toList_object] at enough ⊢
    simp only [List.length_cons, List.length_append, List.length_nil] at enough
    rw [List.cons_append, List.append_assoc]
    refine value_object ?_
    match members, legible with
    | [], _ =>
      obtain ⟨fuel, rfl⟩ : ∃ less, fuel = less + 1 := ⟨fuel - 1, by omega⟩
      rw [Json.Reading.members]
      rfl
    | (name, d) :: members, ⟨first, others⟩ =>
      rw [memberTexts, toList_intercalate_cons, toList_member, List.length_append] at enough
      simp only [List.length_cons, List.length_append] at enough
      obtain ⟨fuel, rfl⟩ : ∃ less, fuel = less + 3 := ⟨fuel - 3, by omega⟩
      rw [memberTexts, toList_intercalate_cons, toList_member]
      simp only [List.cons_append, List.append_assoc]
      rw [members_first]
      exact member_eq (value_text first (endsNumber_further (.inr rfl) rest) (by omega))
        (members_texts others (by omega))
  | refused _ _, _, _, _, legible, _, _ | unnamed _ _, _, _, _, legible, _, _
  | broken _, _, _, _, legible, _, _ => legible.elim

/-- Reading the further items of a list gives them all, if there is fuel for two steps per
character. -/
theorem items_texts : ∀ {ds : List Doc} {fuel levels : Nat} {rest : List Char},
    ItemsLegible levels ds → 2 * (further (itemTexts ds)).length ≤ fuel →
      Json.Reading.items (fuel + 1) levels false (further (itemTexts ds) ++ ']' :: rest) =
        ⟨itemsReread ds, none, some rest⟩
  | [], fuel, levels, rest, _, _ => by
    rw [Json.Reading.items]
    rfl
  | d :: ds, fuel, levels, rest, ⟨first, others⟩, enough => by
    rw [itemTexts, further_cons] at enough ⊢
    simp only [List.length_cons, List.length_append] at enough
    obtain ⟨fuel, rfl⟩ : ∃ less, fuel = less + 2 := ⟨fuel - 2, by omega⟩
    rw [List.cons_append, List.append_assoc, items_next (first.begins.append _)]
    exact item_eq (value_text first (endsNumber_further (.inl rfl) rest) (by omega))
      (items_texts others (by omega))

/-- Reading the further members of an object gives them all, likewise. -/
theorem members_texts : ∀ {ms : List (String × Doc)} {fuel levels : Nat} {rest : List Char},
    MembersLegible levels ms → 2 * (further (memberTexts ms)).length ≤ fuel →
      Json.Reading.members (fuel + 1) levels false (further (memberTexts ms) ++ '\x7d' :: rest) =
        ⟨membersReread ms, none, some rest⟩
  | [], fuel, levels, rest, _, _ => by
    rw [Json.Reading.members]
    rfl
  | (name, d) :: ms, fuel, levels, rest, ⟨first, others⟩, enough => by
    rw [memberTexts, further_cons, toList_member] at enough ⊢
    simp only [List.length_cons, List.length_append] at enough
    obtain ⟨fuel, rfl⟩ : ∃ less, fuel = less + 2 := ⟨fuel - 2, by omega⟩
    simp only [List.cons_append, List.append_assoc]
    rw [members_next]
    exact member_eq (value_text first (endsNumber_further (.inr rfl) rest) (by omega))
      (members_texts others (by omega))

end

/-! ## Whole texts -/

/-- **A legible document is read from its text**, with nothing left over. -/
theorem read_text {d : Doc} (legible : d.Legible 127) : read d.text = (d.reread, none) := by
  have enough : 2 * d.text.toList.length ≤ 2 * d.text.toList.length + 1 + 1 := by omega
  have ends : EndsNumber [] := nofun
  have value := value_text legible ends enough
  rw [List.append_nil] at value
  rw [read, value]
  rfl

end Doc

/-- Decoding the text of a legible document is decoding the document that comes back. -/
theorem Decoder.fromText_text {α : Type} (decoder : Decoder α) {d : Doc} (legible : d.Legible 127) :
    decoder.fromText d.text = decoder .text d.reread := by
  rw [fromText, Doc.read_text legible]
  exact bind_pure _

end Listing
