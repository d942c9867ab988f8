import Mathlib
import Listing.Proofs.Chains
import Listing.Proofs.Outcomes
import Listing.Record

/-!
# Records have the type that they are read as

Whatever a document is like, a record that is read from it has the fields of the type asked for,
and the value of each field is one that can be read for it, or the one that an optional field has
without being given.

* `Decoder.Keeps` is what the members of a structure do one by one, and
  `Decoder.structured_keeps` what follows for the whole;
* `Record.Drafted` is kept by the fields of a record, and `Record.typed_of_decode` is the
  conclusion for records;
* `Record.value?_cases` is the value of the field that a name means.
-/

namespace Listing

namespace Decoder

variable {σ : Type} {holds : σ → Prop} {members : List (Member σ)} {m : Medium}

/-- What is read of any member keeps a property of the structure. -/
def Keeps (holds : σ → Prop) (members : List (Member σ)) : Prop :=
  ∀ member ∈ members, ∀ m d set, member.read m d = .ok set →
    ∀ state, holds state → holds (set state)

theorem takeMember_keeps (keeps : Keeps holds members) {aside : Bool} {f f' : Filling σ}
    {e : String × Doc} (ok : takeMember members aside m f e = .ok f') (before : holds f.state) :
    holds f'.state := by
  unfold takeMember at ok
  split at ok
  · cases ok
  · split at ok
    · rename_i member found
      split at ok
      · cases ok
      · obtain ⟨set, read, ok⟩ := bind_eq_ok.1 ok
        obtain rfl := Except.ok.inj ok
        have among : member ∈ members := List.mem_of_find?_eq_some found
        exact keeps member among _ _ set (mapError_eq_ok.1 read) _ before
    · obtain ⟨_, -, ok⟩ := bind_eq_ok.1 ok
      obtain rfl := Except.ok.inj ok
      exact before

theorem foldlM_takeMember_keeps (keeps : Keeps holds members) {aside : Bool}
    {entries : List (String × Doc)} {f f' : Filling σ}
    (ok : entries.foldlM (takeMember members aside m) f = .ok f') (before : holds f.state) :
    holds f'.state := by
  induction entries generalizing f with
  | nil =>
    obtain rfl := Except.ok.inj ok
    exact before
  | cons e rest ih =>
    rw [List.foldlM_cons] at ok
    obtain ⟨middle, first, later⟩ := bind_eq_ok.1 ok
    exact ih later (takeMember_keeps keeps first before)

/-- What is read from an object by names has the property. -/
theorem named_keeps (keeps : Keeps holds members) {aside : Bool} {start : σ}
    {entries : List (String × Doc)} {stop : Option Malformation} {f : Filling σ}
    (ok : named members aside start m entries stop = .ok f) (before : holds start) :
    holds f.state := by
  obtain ⟨folded, taken, ok⟩ := bind_eq_ok.1 ok
  obtain ⟨_, -, ok⟩ := bind_eq_ok.1 ok
  obtain ⟨_, -, ok⟩ := bind_eq_ok.1 ok
  obtain rfl := Except.ok.inj ok
  exact foldlM_takeMember_keeps keeps taken before

/-- What is read from a list in order has it as well. -/
theorem ordered_keeps {name : String} {total : Nat} {stop : Option Malformation}
    (keeps : Keeps holds members) {place : Nat} {ds : List Doc} {state state' : σ}
    (ok : ordered name total m stop place members ds state = .ok state') (before : holds state) :
    holds state' := by
  induction members generalizing place ds state with
  | nil =>
    obtain rfl := Except.ok.inj ok
    exact before
  | cons member rest ih =>
    have later : Keeps holds rest := fun member among => keeps member (List.mem_cons_of_mem _ among)
    cases ds with
    | nil =>
      obtain ⟨_, -, ok⟩ := bind_eq_ok.1 ok
      split at ok
      · exact ih later ok before
      · cases ok
    | cons d ds =>
      obtain ⟨set, read, ok⟩ := bind_eq_ok.1 ok
      refine ih later ok (keeps member List.mem_cons_self m d set (mapError_eq_ok.1 read) _ before)

/-- A structure has every property that it starts with and that its members keep. -/
theorem structured_keeps (keeps : Keeps holds members) {name : String} {start state : σ} {d : Doc}
    (ok : structured name members start m d = .ok state) (before : holds start) : holds state := by
  unfold structured at ok
  split at ok
  · obtain ⟨f, named, rfl⟩ := map_eq_ok.1 ok
    exact named_keeps keeps named before
  · obtain ⟨filled, read, ok⟩ := bind_eq_ok.1 ok
    obtain ⟨_, -, ok⟩ := bind_eq_ok.1 ok
    obtain rfl := Except.ok.inj ok
    exact ordered_keeps keeps read before
  · obtain ⟨_, -, ok⟩ := bind_eq_ok.1 ok
    cases ok

end Decoder

/-- The value is one that some document says, or that of a field which need not be given. -/
def FieldType.IsRead (t : FieldType) (v : t.Carrier) : Prop :=
  (∃ m d, t.decode m d = .ok v) ∨ t.absent? = some v

namespace Record

/-- A record is of a type: it has the fields of the type, and values that are read for them. -/
def Typed (schema : Schema) (r : Record) : Prop :=
  r.schema = schema ∧ ∀ a ∈ r.all, a.field.type.IsRead a.value

/-- Drafts of the fields of a level, with values that are read for them. -/
def Drafted (fields : List Field) (ds : List Draft) : Prop :=
  ds.map Draft.field = fields ∧ ∀ d ∈ ds, ∀ v, d.value = some v → d.field.type.IsRead v

/-- Before anything is read, the drafts of fields are drafts of them. -/
theorem drafted_drafts (fields : List Field) : Drafted fields (drafts fields) := by
  refine ⟨by simp [drafts, Function.comp_def], fun d member v given => ?_⟩
  obtain ⟨f, -, rfl⟩ := List.mem_map.1 member
  exact .inr given

theorem keeps_members (fields : List Field) :
    Decoder.Keeps (Drafted fields) (members fields) := by
  intro member among m d set read ds drafted
  obtain ⟨⟨field, place⟩, there, rfl⟩ := List.mem_map.1 among
  obtain ⟨v, decoded, rfl⟩ := map_eq_ok.1 read
  obtain ⟨same, given⟩ := drafted
  refine ⟨?_, fun draft member v' given' => ?_⟩
  · obtain ⟨inside, this⟩ :=
      List.getElem?_eq_some_iff.1 (List.mk_mem_zipIdx_iff_getElem?.1 there)
    rw [List.map_set, same]
    exact this ▸ List.set_getElem_self inside
  · rcases List.mem_or_eq_of_mem_set member with old | rfl
    · exact given draft old v' given'
    · obtain rfl := Option.some.inj given'
      exact .inl ⟨m, d, decoded⟩

/-- Finished drafts are attributes of the fields, with values that are read for them. -/
theorem finish_eq_ok {ds : List Draft} {attributes : List Attribute}
    (ok : finish ds = .ok attributes) {fields : List Field} (drafted : Drafted fields ds) :
    attributes.map Attribute.field = fields ∧
      ∀ a ∈ attributes, a.field.type.IsRead a.value := by
  obtain ⟨rfl, given⟩ := drafted
  induction ds generalizing attributes with
  | nil =>
    obtain rfl := Except.ok.inj ok
    exact ⟨rfl, by simp⟩
  | cons d rest ih =>
    obtain ⟨a, others, first, later, rfl⟩ := mapM_cons_eq_ok.1 ok
    obtain ⟨same, reads⟩ := ih later fun d member => given d (List.mem_cons_of_mem _ member)
    split at first
    · rename_i v held
      obtain rfl := Except.ok.inj first
      refine ⟨congrArg (d.field :: ·) same, ?_⟩
      exact List.forall_mem_cons.2 ⟨given d List.mem_cons_self v held, reads⟩
    · cases first

/-- What is decoded has the fields of the type and values that are read for them. -/
theorem typed_of_decodeLevels {fields : List (Level Field)} {m : Medium} {d : Doc}
    {levels : List (Level Attribute)} (ok : decodeLevels fields m d = .ok levels) :
    levels.map (·.map Attribute.field) = fields ∧
      ∀ a ∈ levels.flatMap (·.entries), a.field.type.IsRead a.value := by
  induction fields generalizing m d levels with
  | nil =>
    obtain rfl := Except.ok.inj ok
    exact ⟨rfl, by simp⟩
  | cons l rest ih =>
    unfold decodeLevels at ok
    split at ok
    · obtain ⟨f, named, ok⟩ := bind_eq_ok.1 ok
      obtain ⟨own, finished, ok⟩ := bind_eq_ok.1 ok
      obtain ⟨others, readLater, ok⟩ := bind_eq_ok.1 ok
      obtain rfl := Except.ok.inj ok
      have drafted := Decoder.named_keeps (keeps_members l.entries) named (drafted_drafts _)
      obtain ⟨same, reads⟩ := finish_eq_ok finished drafted
      obtain ⟨sameLater, readsLater⟩ := ih (mapError_eq_ok.1 readLater)
      refine ⟨?_, ?_⟩
      · rw [List.map_cons, sameLater, Level.map, same]
      · rw [List.flatMap_cons, List.forall_mem_append]
        exact ⟨reads, readsLater⟩
    · obtain ⟨_, -, ok⟩ := bind_eq_ok.1 ok
      cases ok

/-- What is read as a record of a type is one. -/
theorem typed_of_decode {schema : Schema} {m : Medium} {d : Doc} {r : Record}
    (ok : decode schema m d = .ok r) : r.Typed schema := by
  obtain ⟨own, ancestors⟩ := schema
  cases ancestors with
  | nil =>
    obtain ⟨ds, structured, ok⟩ := bind_eq_ok.1 ok
    obtain ⟨attributes, finished, ok⟩ := bind_eq_ok.1 ok
    obtain rfl := Except.ok.inj ok
    have drafted :=
      Decoder.structured_keeps (keeps_members own.entries) structured (drafted_drafts _)
    obtain ⟨same, reads⟩ := finish_eq_ok finished drafted
    refine ⟨congrArg (fun fields => Chain.mk ⟨own.typeName, fields⟩ []) same, fun a member => ?_⟩
    exact reads a ((List.mem_append.1 member).resolve_right List.not_mem_nil)
  | cons parent further =>
    obtain ⟨levels, readLevels, ok⟩ := bind_eq_ok.1 ok
    obtain ⟨same, reads⟩ := typed_of_decodeLevels readLevels
    cases levels with
    | nil => cases same
    | cons own ancestors =>
      obtain rfl := Except.ok.inj ok
      obtain ⟨sameOwn, sameAncestors⟩ := List.cons.inj same
      exact ⟨congrArg₂ Chain.mk sameOwn sameAncestors, reads⟩

/-- The value of a name is one that is read for the field of the type that the name means, and
there is none if it means no field. -/
theorem value?_cases {schema : Schema} {r : Record} (typed : r.Typed schema) (name : String) :
    (r.value? name = none ∧ schema.find? (·.name = name) = none) ∨
      ∃ f v, schema.find? (·.name = name) = some f ∧ f.type.IsRead v ∧
        r.value? name = some (f.type.lower v) := by
  obtain ⟨rfl, reads⟩ := typed
  have field : r.schema.find? (·.name = name) =
      (r.find? (·.field.name = name)).map Attribute.field := Chain.find?_map Attribute.field _ r
  rw [value?, field]
  cases found : r.find? (·.field.name = name) with
  | none => exact .inl ⟨rfl, rfl⟩
  | some a => exact .inr ⟨a.field, a.value, rfl, reads a (List.mem_of_find?_eq_some found), rfl⟩

end Record

end Listing
