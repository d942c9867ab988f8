import Mathlib
import Listing.Proofs.Chains
import Listing.Proofs.FieldStorage
import Listing.Proofs.Structures
import Listing.Record

/-!
# Records, stored and read back

A record is stored as one object with a member for every field, those of all its ancestors
included.  When it is read, every level of its type takes its own members and leaves the others to
the next one.

* `Record.layout` is how a level of a record is laid out;
* `Record.named_eq_ok_iff` is the reading of one level and `Record.decodeLevels_eq_ok_iff` that of
  all levels;
* `Record.decode_kept_iff` concludes that a record reads back from what is kept of it exactly if
  all its values survive.
-/

namespace Listing

namespace Record

/-! ## One level -/

/-- A field of a record is read as its value, and only an optional one need not be given. -/
def layout : Decoder.Layout Field Draft where
  name := Field.name
  presence f := if f.type.absent?.isSome then .optional else .required
  read f := f.type.decode.map fun v => ⟨f, some v⟩

theorem members_eq (fields : List Field) : members fields = layout.members fields := by
  refine congrArg (fields.zipIdx.map ·) (funext fun (field, place) => ?_)
  refine congrArg (Member.mk field.name _) (funext₂ fun m d => ?_)
  change (field.type.decode m d).map _ = ((field.type.decode m d).map _).map _
  cases field.type.decode m d <;> rfl

theorem finish_map_some (attributes : List Attribute) :
    finish (attributes.map fun a => ⟨a.field, some a.value⟩) = .ok attributes := by
  induction attributes with
  | nil => rfl
  | cons a rest ih =>
    rw [finish, List.map_cons, List.mapM_cons]
    exact bind_eq_ok.2 ⟨a, rfl, bind_eq_ok.2 ⟨rest, ih, rfl⟩⟩

section Level

variable {m : Medium} {aside : Bool}

/-- The value of a field is what is read of its entries. -/
def Reads (m : Medium) (entries : List (String × Doc)) (a : Attribute) : Prop :=
  ∀ d, (a.field.name, d) ∈ entries → a.field.type.decode m d = .ok a.value

/-- When the reading succeeds, the entries of all fields are read. -/
theorem exists_decode_of_foldlM {fields : List Field} (distinct : (fields.map Field.name).Nodup)
    {entries : List (String × Doc)} (kept : KeptEntries entries) {f f' : Filling (List Draft)}
    (ok : entries.foldlM (Decoder.takeMember (members fields) aside m) f = .ok f') {field : Field}
    (member : field ∈ fields) {d : Doc} (among : (field.name, d) ∈ entries) :
    ∃ v, field.type.decode m d = .ok v := by
  induction entries generalizing f with
  | nil => cases among
  | cons e rest ih =>
    rw [List.foldlM_cons] at ok
    obtain ⟨middle, first, later⟩ := bind_eq_ok.1 ok
    rcases List.mem_cons.1 among with rfl | among
    · obtain ⟨j, rfl⟩ := kept.values _ List.mem_cons_self
      obtain ⟨place, there⟩ := List.mem_iff_getElem?.1 member
      have known : (layout.members fields).find? (·.name == layout.name field) = _ :=
        Decoder.Layout.find?_members distinct there
      rw [members_eq] at first
      rcases Decoder.takeMember_eq_ok_iff.1 first with ⟨own, found, -, set, read, -⟩ | ⟨none, -⟩
      · obtain rfl := Option.some.inj (found.symm.trans known)
        obtain ⟨draft, read, -⟩ := map_eq_ok.1 read
        obtain ⟨v, read, -⟩ := map_eq_ok.1 read
        exact ⟨v, read⟩
      · exact absurd (none.symm.trans known) (by simp)
    · exact ih (kept.sublist (List.sublist_cons_self _ _)) later among

/-- Values that each field has something of make attributes of all fields. -/
theorem exists_attributes {holds : (field : Field) → field.type.Carrier → Prop}
    {fields : List Field} (some : ∀ field ∈ fields, ∃ v, holds field v) :
    ∃ attributes : List Attribute, attributes.map Attribute.field = fields ∧
      ∀ a ∈ attributes, holds a.field a.value := by
  induction fields with
  | nil => exact ⟨[], rfl, by simp⟩
  | cons field rest ih =>
    obtain ⟨v, first⟩ := some field List.mem_cons_self
    obtain ⟨attributes, same, later⟩ := ih fun f member => some f (List.mem_cons_of_mem _ member)
    refine ⟨⟨field, v⟩ :: attributes, congrArg (field :: ·) same, ?_⟩
    rintro a (_ | ⟨_, member⟩)
    · exact first
    · exact later a member

/-- A level is read as the attributes whose values its entries have. -/
theorem exists_named_of_reads {attributes : List Attribute}
    (distinct : ((attributes.map Attribute.field).map Field.name).Nodup)
    {entries : List (String × Doc)} (kept : KeptEntries entries)
    (given : ∀ field ∈ attributes.map Attribute.field, field.name ∈ entries.map Prod.fst)
    (reads : ∀ a ∈ attributes, Reads m entries a) :
    ∃ f, Decoder.named (members (attributes.map Attribute.field)) aside
          (drafts (attributes.map Attribute.field)) m entries none = .ok f ∧
        finish f.state = .ok attributes ∧
        f.others = without ((attributes.map Attribute.field).map Field.name) entries := by
  rw [List.map_map] at distinct ⊢
  rw [members_eq, layout.members_map, drafts, List.map_map]
  refine ⟨_, Decoder.Layout.named_eq distinct kept (fun a member _ among => ?_)
    (fun a member missing => ?_), finish_map_some attributes, rfl⟩
  · exact map_eq_ok.2 ⟨_, reads a member _ among, rfl⟩
  · exact absurd (given a.field (List.mem_map_of_mem member)) missing

/-- A level is read if and only if all its fields are; the entries of other fields are left. -/
theorem named_eq_ok_iff {fields : List Field} (distinct : (fields.map Field.name).Nodup)
    {entries : List (String × Doc)} (kept : KeptEntries entries)
    (given : ∀ field ∈ fields, field.name ∈ entries.map Prod.fst) {attributes : List Attribute}
    {others : List (String × Doc)} :
    (∃ f, Decoder.named (members fields) aside (drafts fields) m entries none = .ok f ∧
        finish f.state = .ok attributes ∧ f.others = others) ↔
      attributes.map Attribute.field = fields ∧ (∀ a ∈ attributes, Reads m entries a) ∧
        others = without (fields.map Field.name) entries := by
  constructor
  · rintro ⟨f, ok, finished, rfl⟩
    obtain ⟨folded, taken, -⟩ := bind_eq_ok.1 ok
    have decodes : ∀ field ∈ fields, ∃ v, ∀ d, (field.name, d) ∈ entries →
        field.type.decode m d = .ok v := by
      intro field member
      obtain ⟨⟨name, d⟩, among, rfl⟩ := List.mem_map.1 (given field member)
      obtain ⟨v, read⟩ := exists_decode_of_foldlM distinct kept taken member among
      exact ⟨v, fun d' among' => kept.unique among among' ▸ read⟩
    -- The reading is a function: what it gives is what the entries' values make of the fields.
    obtain ⟨read, rfl, reads⟩ := exists_attributes decodes
    obtain ⟨f', ok', finished', others⟩ := exists_named_of_reads distinct kept given reads
    obtain rfl := Except.ok.inj (ok.symm.trans ok')
    obtain rfl := Except.ok.inj (finished.symm.trans finished')
    exact ⟨rfl, reads, others⟩
  · rintro ⟨rfl, reads, rfl⟩
    exact exists_named_of_reads distinct kept given reads

/-! ## All levels -/

theorem Reads.medium {entries : List (String × Doc)} {a : Attribute} (m' : Medium)
    (reads : Reads m entries a) : Reads m' entries a :=
  fun _ among => a.field.type.decode_medium m' (reads _ among)

/-- Entries of other levels do not count. -/
theorem reads_without_iff {entries : List (String × Doc)} {names : List String} {a : Attribute}
    (other : a.field.name ∉ names) : Reads m (without names entries) a ↔ Reads m entries a :=
  forall_congr' fun _ => imp_congr_left (mem_without.trans (and_iff_left other))

theorem field_mem_of_mem {levels : List (Level Attribute)} {a : Attribute}
    (member : a ∈ levels.flatMap (·.entries)) :
    a.field ∈ (levels.map (·.map Attribute.field)).flatMap (·.entries) := by
  have fields : (levels.map (·.map Attribute.field)).flatMap (·.entries) =
      (levels.flatMap (·.entries)).map Attribute.field := by
    rw [List.flatMap_map, List.map_flatMap]
    rfl
  exact fields ▸ List.mem_map_of_mem member

/-- A type that extends others is read level by level, and every field must be read. -/
theorem decodeLevels_eq_ok_iff {fields : List (Level Field)}
    (distinct : ((fields.flatMap (·.entries)).map Field.name).Nodup)
    {entries : List (String × Doc)} (kept : KeptEntries entries)
    (given : ∀ field ∈ fields.flatMap (·.entries), field.name ∈ entries.map Prod.fst)
    {levels : List (Level Attribute)} :
    decodeLevels fields m (.ofMembers entries) = .ok levels ↔
      levels.map (·.map Attribute.field) = fields ∧
        ∀ a ∈ levels.flatMap (·.entries), Reads m entries a := by
  -- The levels behind the first one read what it has left, and read it from a buffer.
  induction fields generalizing m entries levels with
  | nil =>
    rw [decodeLevels, List.map_eq_nil_iff]
    constructor
    · intro ok
      obtain rfl := Except.ok.inj ok
      exact ⟨rfl, by simp⟩
    · rintro ⟨rfl, -⟩
      rfl
  | cons l rest ih =>
    rw [List.flatMap_cons, List.map_append] at distinct
    obtain ⟨distinctOwn, distinctLater, apart⟩ := List.nodup_append'.1 distinct
    rw [List.flatMap_cons, List.forall_mem_append] at given
    obtain ⟨givenOwn, givenLater⟩ := given
    have left : ∀ field ∈ rest.flatMap (·.entries),
        field.name ∈ (without (l.entries.map Field.name) entries).map Prod.fst :=
      fun field member => mem_map_fst_without.2
        ⟨givenLater field member, fun own => apart own (List.mem_map_of_mem member)⟩
    have inner {others : List (Level Attribute)} :
        decodeLevels rest .buffer (.ofMembers (without (l.entries.map Field.name) entries)) =
            .ok others ↔
          others.map (·.map Attribute.field) = rest ∧
            ∀ a ∈ others.flatMap (·.entries), Reads m entries a := by
      rw [ih distinctLater kept.without left]
      refine and_congr_right fun same => forall₂_congr fun a member => ?_
      have other : a.field.name ∉ l.entries.map Field.name := fun own =>
        apart own (same ▸ List.mem_map_of_mem (field_mem_of_mem member))
      rw [reads_without_iff other]
      exact ⟨Reads.medium m, Reads.medium .buffer⟩
    constructor
    · intro ok
      obtain ⟨f, read, ok⟩ := bind_eq_ok.1 ok
      obtain ⟨own, finished, ok⟩ := bind_eq_ok.1 ok
      obtain ⟨others, readLater, ok⟩ := bind_eq_ok.1 ok
      obtain rfl := Except.ok.inj ok
      obtain ⟨same, reads, left⟩ :=
        (named_eq_ok_iff distinctOwn kept givenOwn).1 ⟨f, read, finished, rfl⟩
      rw [left] at readLater
      obtain ⟨sameLater, readsLater⟩ := inner.1 (mapError_eq_ok.1 readLater)
      refine ⟨?_, fun a member => ?_⟩
      · rw [List.map_cons, sameLater, Level.map, same]
      · rw [List.flatMap_cons] at member
        exact (List.mem_append.1 member).elim (reads a) (readsLater a)
    · rintro ⟨same, reads⟩
      cases levels with
      | nil => cases same
      | cons own others =>
        obtain ⟨sameOwn, sameLater⟩ := List.cons.inj same
        obtain rfl := sameOwn
        obtain ⟨f, read, finished, left⟩ := (named_eq_ok_iff distinctOwn kept givenOwn).2
          ⟨rfl, fun a member => reads a (List.mem_append_left _ member), rfl⟩
        have readLater := inner.2
          ⟨sameLater, fun a member => reads a (List.mem_append_right _ member)⟩
        rw [← left] at readLater
        exact bind_eq_ok.2 ⟨f, read, bind_eq_ok.2 ⟨own.entries, finished,
          bind_eq_ok.2 ⟨others, mapError_eq_ok.2 readLater, rfl⟩⟩⟩

/-! ## Whole records -/

/-- A record is read if and only if all its fields are. -/
theorem decode_eq_ok_iff {schema : Schema} (distinct : (schema.all.map Field.name).Nodup)
    {entries : List (String × Doc)} (kept : KeptEntries entries)
    (given : ∀ field ∈ schema.all, field.name ∈ entries.map Prod.fst) {r : Record} :
    decode schema m (.ofMembers entries) = .ok r ↔
      r.schema = schema ∧ ∀ a ∈ r.all, Reads m entries a := by
  obtain ⟨own, ancestors⟩ := schema
  cases ancestors with
  | nil =>
    have all : (Chain.mk own []).all = own.entries := List.append_nil _
    rw [all] at distinct given
    constructor
    · intro ok
      obtain ⟨ds, structured, ok⟩ := bind_eq_ok.1 ok
      obtain ⟨f, named, rfl⟩ := map_eq_ok.1 structured
      obtain ⟨attributes, finished, ok⟩ := bind_eq_ok.1 ok
      obtain rfl := Except.ok.inj ok
      obtain ⟨same, reads, -⟩ :=
        (named_eq_ok_iff distinct kept given).1 ⟨f, named, finished, rfl⟩
      refine ⟨congrArg (fun fields => Chain.mk ⟨own.typeName, fields⟩ []) same, fun a member => ?_⟩
      exact reads a ((List.mem_append.1 member).resolve_right List.not_mem_nil)
    · rintro ⟨same, reads⟩
      obtain ⟨attributes, ancestors⟩ := r
      obtain ⟨rfl, none⟩ := Chain.mk.inj same
      obtain rfl := List.map_eq_nil_iff.1 none
      obtain ⟨f, named, finished, -⟩ := (named_eq_ok_iff distinct kept given).2
        ⟨rfl, fun a member => reads a (List.mem_append_left _ member), rfl⟩
      exact bind_eq_ok.2 ⟨f.state, map_eq_ok.2 ⟨f, named, rfl⟩,
        bind_eq_ok.2 ⟨attributes.entries, finished, rfl⟩⟩
  | cons parent further =>
    constructor
    · intro ok
      obtain ⟨read, readLevels, ok⟩ := bind_eq_ok.1 ok
      obtain ⟨same, reads⟩ := (decodeLevels_eq_ok_iff distinct kept given).1 readLevels
      cases read with
      | nil => cases same
      | cons own ancestors =>
        obtain rfl := Except.ok.inj ok
        obtain ⟨sameOwn, sameAncestors⟩ := List.cons.inj same
        exact ⟨congrArg₂ Chain.mk sameOwn sameAncestors, reads⟩
    · rintro ⟨same, reads⟩
      have sameLevels := congrArg Chain.levels same
      exact bind_eq_ok.2 ⟨r.levels,
        (decodeLevels_eq_ok_iff distinct kept given).2 ⟨sameLevels, reads⟩, rfl⟩

end Level

/-! ## What is kept of a record -/

/-- What is kept of a record has one entry for every field. -/
theorem exists_entries {r : Record} (distinct : (r.schema.all.map Field.name).Nodup) :
    ∃ entries, r.encode.kept = .ofMembers entries ∧ KeptEntries entries ∧
      ∀ a ∈ r.all, (a.field.name, (a.field.type.encode a.value).kept) ∈ entries := by
  rw [schema, Chain.all_map, List.map_map] at distinct
  obtain ⟨entries, stored, kept, mem⟩ := Chain.exists_kept Attribute.encode distinct
  exact ⟨entries, stored, kept, fun a member => mem.2 ⟨a, member, rfl⟩⟩

theorem name_mem_of_entries {r : Record} {entries : List (String × Doc)}
    (given : ∀ a ∈ r.all, (a.field.name, (a.field.type.encode a.value).kept) ∈ entries) :
    ∀ field ∈ r.schema.all, field.name ∈ entries.map Prod.fst := by
  rw [schema, Chain.all_map]
  exact List.forall_mem_map.2 fun a member => List.mem_map_of_mem (given a member)

/-- What is kept of a record is read as this record exactly if all its values survive. -/
theorem decode_kept_iff {r : Record} (distinct : (r.schema.all.map (·.name)).Nodup) (m : Medium) :
    decode r.schema m r.encode.kept = .ok r ↔ ∀ a ∈ r.all, a.field.type.Survives a.value := by
  obtain ⟨entries, stored, kept, given⟩ := exists_entries distinct
  have reads (a : Attribute) (member : a ∈ r.all) :
      Reads m entries a ↔ a.field.type.Survives a.value := by
    rw [← a.field.type.decode_encode_iff m a.value]
    refine ⟨fun reads => reads _ (given a member), fun read d among => ?_⟩
    exact kept.unique (given a member) among ▸ read
  rw [stored, decode_eq_ok_iff distinct kept (name_mem_of_entries given)]
  exact (and_iff_right rfl).trans (forall₂_congr reads)

/-- If anything is read of what is kept of a record, all its values are readable. -/
theorem readable_of_decode {r r' : Record} (distinct : (r.schema.all.map (·.name)).Nodup)
    {m : Medium} (read : decode r.schema m r.encode.kept = .ok r') :
    ∀ a ∈ r.all, a.field.type.Readable a.value := by
  obtain ⟨entries, stored, kept, given⟩ := exists_entries distinct
  rw [stored, decode_eq_ok_iff distinct kept (name_mem_of_entries given)] at read
  obtain ⟨same, reads⟩ := read
  rintro ⟨field, v⟩ member
  have declared : field ∈ r'.schema.all := by
    rw [same, schema, Chain.all_map]
    exact List.mem_map_of_mem member
  rw [schema, Chain.all_map] at declared
  obtain ⟨⟨field, v'⟩, member', rfl⟩ := List.mem_map.1 declared
  exact field.type.readable_of_decode (reads _ member' _ (given _ member))

end Record

end Listing
