import Mathlib
import Listing.Catalogue
import Listing.Compilation
import Listing.Proofs.Chains
import Listing.Proofs.DocumentTexts
import Listing.Proofs.FieldStorage
import Listing.Proofs.Structures

/-!
# Filters, stored and read back

The document of a filter is one object with a member for every field, those of all its ancestors
included, in which everything but a value is null.  When it is read, every level of the type takes
its own members and leaves the others to the next one; what is null or missing is unset.

* `FieldType.ReadsBack` is what is assumed of a value's text, and ordered scalars fulfil it;
* `Slot.stored` and `Slot.settled` are slots after a document and slots without sentinels;
* `Filter.decodeLevels_of_reads` is the reading of all levels, and `Filter.decode_of_reads` that of
  a whole filter from members in any order, some of which may be missing;
* `compileFilters_stored` says that compilation makes the same of a filter that is read back;
* `Filter.compileFilters_readBack` concludes it for filters that are read from what is kept of
  their document or from its text.
-/

namespace Listing

/-! ## Values and their texts -/

/-- The value is read from its text, which leaves room for an object around it: a text may be nested
127 levels deep. -/
def FieldType.ReadsBack (t : FieldType) (v : t.Carrier) : Prop :=
  (t.encode v).Legible 126 ∧ Decoder.fromText t.decode (t.encode v).text = .ok v

/-- Ordered scalars are written without a fraction and without nesting. -/
theorem Atom.legible_encode (a : Atom) (x : a.Carrier) :
    (a.encode x).Legible 127 ∧ (a.encode x).Legible 126 ∧
      (a.encode x).reread = (a.encode x).kept := by
  cases a with
  | integer w => exact ⟨Json.Number.rereads_whole _, Json.Number.rereads_whole _, rfl⟩
  | _ => exact ⟨trivial, trivial, rfl⟩

theorem FieldType.readsBack_atom {a : Atom} {x : a.Carrier} (survives : a.Survives x) :
    (atom a).ReadsBack x := by
  obtain ⟨legible, deeper, same⟩ := a.legible_encode x
  refine ⟨deeper, (Decoder.fromText_text _ legible).trans ?_⟩
  change a.decode .text (a.encode x).reread = .ok x
  rw [same]
  exact (a.decode_encode_iff .text x).2 survives

/-! ## Slots -/

namespace Slot

variable {α : Type}

/-- The slot without a sentinel. -/
def settled : Slot α → Slot α
  | value a => value a
  | _ => unset

/-- The slot that is read for another one: only a value that is not written as null is left. -/
def stored (enc : α → Doc) : Slot α → Slot α
  | value a =>
    match (enc a).value with
    | .null => unset
    | _ => value a
  | _ => unset

theorem stored_of_null {enc : α → Doc} {a : α} (null : (enc a).value = .null) :
    (value a).stored enc = unset := by
  rw [stored, null]

theorem stored_of_ne_null {enc : α → Doc} {a : α} (some : (enc a).value ≠ .null) :
    (value a).stored enc = value a := by
  unfold stored
  dsimp only
  split
  · rename_i null
    exact absurd null some
  · rfl

/-- A slot is read from its document, whatever becomes of the document on the way, if null stays
null and a value is read from what becomes of its own. -/
theorem decode_encode {decoder : Decoder α} {m : Medium} {enc : α → Doc} {way : Doc → Doc}
    (null : way .null = .null) {slot : Slot α}
    (nulls : ∀ a, slot = value a → (way (enc a) = .null ↔ (enc a).value = .null))
    (reads : ∀ a, slot = value a → decoder m (way (enc a)) = .ok a) :
    decode decoder m (way (slot.encode enc)) = .ok (slot.stored enc) := by
  have unset (empty : slot.encode enc = .null) :
      decode decoder m (way (slot.encode enc)) = .ok unset := by
    rw [empty, null]
    rfl
  cases slot with
  | unset | isNull | isNotNull => exact unset rfl
  | value a =>
    change decode decoder m (way (enc a)) = _
    by_cases empty : (enc a).value = .null
    · rw [stored_of_null empty, (nulls a rfl).2 empty]
      rfl
    · have some := mt (nulls a rfl).1 empty
      rw [stored_of_ne_null empty, decode, Decoder.map, Decoder.optional_of_ne_null some,
        reads a rfl]
      rfl

/-- Where a document comes from does not change what is read of it. -/
theorem decode_medium (t : FieldType) {m : Medium} (m' : Medium) {d : Doc} {slot : Slot t.Carrier}
    (read : decode t.decode m d = .ok slot) : decode t.decode m' d = .ok slot := by
  obtain ⟨v, read, same⟩ := map_eq_ok.1 read
  exact map_eq_ok.2 ⟨v, FieldType.decode_medium (.optional t) m' read, same⟩

end Slot

namespace Cell

/-- The cell without a sentinel. -/
def settled (c : Cell) : Cell := c.holding c.slot.settled

/-- The cell that is read for another one. -/
def stored (c : Cell) : Cell := c.holding (c.slot.stored c.field.type.encode)

/-- The state of the field is what is read of its entries. -/
def Reads (m : Medium) (entries : List (String × Doc)) (c : Cell) : Prop :=
  ∀ d, (c.field.name, d) ∈ entries → Slot.decode c.field.type.decode m d = .ok c.slot

/-- Entries of other levels do not count, and it does not count where a document comes from. -/
theorem Reads.without {m : Medium} (m' : Medium) {entries : List (String × Doc)} {c : Cell}
    (reads : c.Reads m entries) (names : List String) : c.Reads m' (without names entries) :=
  fun d among => Slot.decode_medium _ m' (reads d (mem_without.1 among).1)

end Cell

namespace Filter

/-! ## One level -/

/-- A field of a filter is read as its state, and need not be given. -/
def layout : Decoder.Layout Field Cell where
  name := Field.name
  presence _ := .defaulted
  read f := (Slot.decode f.type.decode).map fun slot => ⟨f, slot⟩

theorem members_eq (fields : List Field) : members fields = layout.members fields := by
  refine congrArg (fields.zipIdx.map ·) (funext fun (field, place) => ?_)
  refine congrArg (Member.mk field.name _) (funext₂ fun m d => ?_)
  change (Slot.decode field.type.decode m d).map _ =
    ((Slot.decode field.type.decode m d).map _).map _
  cases Slot.decode field.type.decode m d <;> rfl

section Level

variable {m : Medium} {entries : List (String × Doc)}

/-- A level is read as the cells whose states its entries have; a field without an entry is
unset. -/
theorem named_of_reads (aside : Bool) {cells : List Cell}
    (distinct : (cells.map (·.field.name)).Nodup) (kept : KeptEntries entries)
    (reads : ∀ c ∈ cells, c.Reads m entries)
    (missing : ∀ c ∈ cells, c.field.name ∉ entries.map Prod.fst → c.slot = .unset) :
    ∃ f, Decoder.named (members (cells.map Cell.field)) aside
          ((cells.map Cell.field).map Cell.blank) m entries none = .ok f ∧
        f.state = cells ∧ f.others = without (cells.map (·.field.name)) entries := by
  rw [members_eq, layout.members_map, List.map_map]
  have own : ∀ c ∈ cells, ∀ d, (c.field.name, d) ∈ entries →
      layout.read c.field m d = .ok (id c) :=
    fun c member d among => map_eq_ok.2 ⟨_, reads c member d among, rfl⟩
  refine ⟨_, Decoder.Layout.named_eq distinct kept own fun c member absent => ⟨nofun, ?_⟩,
    List.map_id cells, rfl⟩
  exact congrArg (Cell.mk c.field) (missing c member absent).symm

/-! ## All levels -/

/-- A type that extends others is read level by level. -/
theorem decodeLevels_of_reads (levels : List (Level Cell))
    (distinct : ((levels.flatMap (·.entries)).map (·.field.name)).Nodup)
    (kept : KeptEntries entries) (reads : ∀ c ∈ levels.flatMap (·.entries), c.Reads m entries)
    (missing : ∀ c ∈ levels.flatMap (·.entries), c.field.name ∉ entries.map Prod.fst →
      c.slot = .unset) :
    decodeLevels (levels.map (·.map Cell.field)) m (.ofMembers entries) = .ok levels := by
  -- The levels behind the first one read what it has left, and read it from a buffer.
  induction levels generalizing m entries with
  | nil => rfl
  | cons l rest ih =>
    rw [List.flatMap_cons, List.map_append] at distinct
    obtain ⟨distinctOwn, distinctLater, apart⟩ := List.nodup_append'.1 distinct
    rw [List.flatMap_cons, List.forall_mem_append] at reads missing
    obtain ⟨f, read, state, left⟩ := named_of_reads (!rest.isEmpty) distinctOwn kept
      reads.1 missing.1
    have missingLater : ∀ c ∈ rest.flatMap (·.entries),
        c.field.name ∉ (without (l.entries.map (·.field.name)) entries).map Prod.fst →
          c.slot = .unset := by
      intro c member absent
      refine missing.2 c member fun present => absent (mem_map_fst_without.2 ⟨present, ?_⟩)
      exact fun own => apart own (List.mem_map_of_mem member)
    have later := ih (m := .buffer) distinctLater kept.without
      (fun c member => (reads.2 c member).without .buffer _) missingLater
    rw [← left] at later
    rw [← List.isEmpty_map (f := Level.map Cell.field)] at read
    refine bind_eq_ok.2 ⟨f, read, bind_eq_ok.2 ⟨rest, mapError_eq_ok.2 later, ?_⟩⟩
    rw [state]
    rfl

/-- A filter is read from members that give its states, in any order.  A field that is not given
is unset. -/
theorem decode_of_reads {f : Filter} (distinct : (f.all.map (·.field.name)).Nodup)
    (kept : KeptEntries entries) (reads : ∀ c ∈ f.all, c.Reads m entries)
    (missing : ∀ c ∈ f.all, c.field.name ∉ entries.map Prod.fst → c.slot = .unset) :
    decode f.schema m (.ofMembers entries) = .ok f := by
  obtain ⟨own, ancestors⟩ := f
  cases ancestors with
  | nil =>
    have all : (Chain.mk own []).all = own.entries := List.append_nil _
    rw [all] at distinct reads missing
    obtain ⟨f, read, state, -⟩ := named_of_reads false distinct kept reads missing
    exact map_eq_ok.2 ⟨own.entries, map_eq_ok.2 ⟨f, read, state⟩, rfl⟩
  | cons parent further =>
    have levels := decodeLevels_of_reads (own :: parent :: further) distinct kept reads missing
    exact bind_eq_ok.2 ⟨_, levels, rfl⟩

end Level

/-! ## Whole filters -/

/-- The filter without sentinels. -/
def settled (f : Filter) : Filter := f.map Cell.settled

/-- The filter that is read for another one. -/
def stored (f : Filter) : Filter := f.map Cell.stored

variable {f : Filter}

theorem schema_settled : f.settled.schema = f.schema :=
  Chain.map_map ..

theorem schema_stored : f.stored.schema = f.schema :=
  Chain.map_map ..

/-- A filter is read from its document, whatever becomes of its members on the way, if nulls stay
nulls and a value is read from what becomes of its own document. -/
theorem decode_stored (distinct : (f.schema.all.map Field.name).Nodup) {m : Medium}
    {entries : List (String × Doc)} (kept : KeptEntries entries) (way : Doc → Doc)
    (among : ∀ c ∈ f.all, (c.encode.1, way c.encode.2) ∈ entries) (null : way .null = .null)
    (nulls : ∀ c ∈ f.all, ∀ v, c.slot = .value v →
      (way (c.field.type.encode v) = .null ↔ (c.field.type.encode v).value = .null))
    (reads : ∀ c ∈ f.all, ∀ v, c.slot = .value v →
      c.field.type.decode m (way (c.field.type.encode v)) = .ok v) :
    decode f.schema m (.ofMembers entries) = .ok f.stored := by
  have all : f.stored.all = f.all.map Cell.stored := Chain.all_map _ f
  have names : f.stored.all.map (·.field.name) = f.schema.all.map Field.name := by
    rw [all, schema, Chain.all_map, List.map_map, List.map_map]
    rfl
  rw [← schema_stored]
  refine decode_of_reads (names ▸ distinct) kept ?_ ?_
  · rw [all]
    refine List.forall_mem_map.2 fun c member d given => ?_
    rw [kept.unique given (among c member)]
    exact Slot.decode_encode null (nulls c member) (reads c member)
  · rw [all]
    refine List.forall_mem_map.2 fun c member absent => ?_
    exact absurd (List.mem_map_of_mem (among c member)) absent

/-- The names on all levels are those that its cells are written with. -/
theorem names_encode (f : Filter) :
    (f.all.map fun c => c.encode.1) = f.schema.all.map Field.name := by
  rw [schema, Chain.all_map, List.map_map]
  rfl

/-- A filter is read from what is kept of its document, if its values survive. -/
theorem fromTree_encode (distinct : (f.schema.all.map Field.name).Nodup)
    (survive : ∀ c ∈ f.all, ∀ v, c.slot = .value v → c.field.type.Survives v) :
    Decoder.fromTree (decode f.schema) f.encode.value = .ok f.stored := by
  obtain ⟨entries, stored, kept, mem⟩ := Chain.exists_kept Cell.encode (f.names_encode ▸ distinct)
  have read := decode_stored (m := .tree) distinct kept Doc.kept
    (fun c member => mem.2 ⟨c, member, rfl⟩) rfl (fun c _ v _ => Doc.kept_eq_null_iff)
    (fun c member v held => (FieldType.decode_encode_iff _ .tree v).2 (survive c member v held))
  exact (congrArg (decode f.schema .tree) stored).trans read

/-- A filter is read from its text, if its values are read from theirs. -/
theorem fromText_encode (distinct : (f.schema.all.map Field.name).Nodup)
    (read : ∀ c ∈ f.all, ∀ v, c.slot = .value v → c.field.type.ReadsBack v) :
    Decoder.fromText (decode f.schema) f.encode.text = .ok f.stored := by
  have members := f.furthestFirst_perm Cell.encode
  have same := members.map fun e => (e.1, e.2.reread)
  rw [List.map_map] at same
  have legible (c : Cell) (member : c ∈ f.all) : c.encode.2.Legible 126 := by
    obtain ⟨field, slot⟩ := c
    cases slot with
    | value v => exact (read _ member v rfl).1
    | unset | isNull | isNotNull => trivial
  have whole : f.encode.Legible 127 := by
    refine Doc.legible_ofMembers_iff.2 fun e member => ?_
    obtain ⟨c, among, rfl⟩ := List.mem_map.1 (members.mem_iff.1 member)
    exact legible c among
  have kept := KeptEntries.of_perm same (f.names_encode ▸ distinct)
    fun c member => (legible c member).exists_toDoc
  rw [Decoder.fromText_text _ whole, encode, Doc.reread_ofMembers]
  refine decode_stored distinct kept Doc.reread ?_ rfl ?_ ?_
  · exact fun c member => same.mem_iff.2 (List.mem_map_of_mem member)
  · exact fun c member v held => (read c member v held).1.reread_eq_null_iff
  · intro c member v held
    obtain ⟨deeper, alone⟩ := read c member v held
    exact (Decoder.fromText_text c.field.type.decode (deeper.mono (by decide))).symm.trans alone

end Filter

/-! ## Compilation -/

/-- Only null is written as null, be it nothing or a document. -/
theorem FieldType.lower_of_encode_null {t : FieldType} {v : t.Carrier} (survives : t.Survives v)
    (null : (t.encode v).value = .null) : t.lower v = .null ∨ t.lower v = .document .null := by
  cases t with
  | atom a => cases a <;> cases null
  | single =>
    have written : Doc.ofSingle v = .single v survives := dif_pos survives
    rw [encode, written, Doc.value_single survives] at null
    cases null
  | double =>
    have written : Doc.ofDouble v = .number (.real v survives) := dif_pos survives
    rw [encode, written] at null
    cases null
  | document => exact .inr (congrArg Value.document ((Json.value_toDoc survives).symm.trans null))
  | optional t =>
    cases v with
    | none => exact .inl rfl
    | some v => exact absurd null survives.2
  | list | set | slice | tuple => cases null

/-- A field that is read back asks for what it asked for without a sentinel. -/
theorem compileField_stored {c : Cell}
    (survive : ∀ v, c.slot = .value v → c.field.type.Survives v)
    (payload : c.lowered ≠ .value (.document .null)) (field : FieldDescriptor)
    (options : FilterOptions) :
    compileField field c.stored.lowered options = compileField field c.settled.lowered options := by
  obtain ⟨declared, slot⟩ := c
  cases slot with
  | unset | isNull | isNotNull => rfl
  | value v =>
    -- What is written as null is read as unset, which asks for nothing; it must have asked for
    -- nothing before.
    by_cases null : (declared.type.encode v).value = .null
    · have read : (Cell.mk declared (.value v)).stored = ⟨declared, .unset⟩ :=
        congrArg (Cell.mk declared) (Slot.stored_of_null null)
      rcases FieldType.lower_of_encode_null (survive v rfl) null with nothing | document
      · rw [read]
        change none = compileField field (.value (declared.type.lower v)) options
        rw [nothing]
        rfl
      · exact absurd (congrArg Slot.value document) payload
    · have read : (Cell.mk declared (.value v)).stored = ⟨declared, .value v⟩ :=
        congrArg (Cell.mk declared) (Slot.stored_of_ne_null null)
      rw [read]
      rfl

namespace Filter

variable {f : Filter}

theorem slot?_map (change : Cell → Cell) (same : ∀ c, (change c).field = c.field) (f : Filter)
    (name : String) :
    slot? (f.map change) name = (f.cell? name).map fun c => (change c).lowered := by
  have named : (fun c : Cell => decide (c.field.name = name)) ∘ change =
      fun c => decide (c.field.name = name) := funext fun c => by rw [Function.comp, same c]
  rw [slot?, cell?, Chain.find?_map, named, Option.map_map]
  rfl

/-- A filter that is read back compiles like the filter without sentinels. -/
theorem compileFilters_stored
    (survive : ∀ c ∈ f.all, ∀ v, c.slot = .value v → c.field.type.Survives v)
    (payload : ∀ c ∈ f.all, c.lowered ≠ .value (.document .null)) (options : FilterOptions) :
    compileFilters f.stored.view options = compileFilters f.settled.view options := by
  have declared : f.stored.declared = f.settled.declared :=
    congrArg Schema.declared (schema_stored.trans schema_settled.symm)
  rw [compileFilters, compileFilters]
  change (classify f.stored.declared _).filterMap _ = (classify f.settled.declared _).filterMap _
  rw [declared]
  refine List.filterMap_congr fun field _ => ?_
  change (slot? (f.map Cell.stored) field.name).bind _ =
    (slot? (f.map Cell.settled) field.name).bind _
  rw [slot?_map Cell.stored (fun _ => rfl), slot?_map Cell.settled (fun _ => rfl)]
  cases found : f.cell? field.name with
  | none => rfl
  | some c =>
    have member : c ∈ f.all := List.mem_of_find?_eq_some found
    exact compileField_stored (survive c member) (payload c member) field options

/-- Without sentinels a filter stays as it is. -/
theorem settled_eq_self (plain : ∀ c ∈ f.all, c.slot ≠ .isNull ∧ c.slot ≠ .isNotNull) :
    f.settled = f := by
  refine Chain.map_eq_self fun c member => ?_
  obtain ⟨field, slot⟩ := c
  cases slot with
  | unset | value => rfl
  | isNull => exact absurd rfl (plain _ member).1
  | isNotNull => exact absurd rfl (plain _ member).2

/-- **Filters survive documents.**  Take a filter whose fields have distinct names, whose values
survive and none of which is null as a document.  It is read back from what is kept of its document
and, if every value is read from its text, from its text.  With any options, what is read asks for
what the filter asks for when all its sentinels are taken off, and for the same as the filter itself
if it has none. -/
theorem compileFilters_readBack (f : Filter) (distinct : (f.schema.all.map Field.name).Nodup)
    (survive : ∀ c ∈ f.all, ∀ v, c.slot = .value v → c.field.type.Survives v)
    (payload : ∀ c ∈ f.all, c.lowered ≠ .value (.document .null)) :
    ∃ back, Decoder.fromTree (decode f.schema) f.encode.value = .ok back ∧
      ((∀ c ∈ f.all, ∀ v, c.slot = .value v → c.field.type.ReadsBack v) →
        Decoder.fromText (decode f.schema) f.encode.text = .ok back) ∧
      (∀ options, compileFilters back.view options = compileFilters f.settled.view options) ∧
      ((∀ c ∈ f.all, c.slot ≠ .isNull ∧ c.slot ≠ .isNotNull) →
        ∀ options, compileFilters back.view options = compileFilters f.view options) := by
  have same := compileFilters_stored survive payload
  refine ⟨f.stored, fromTree_encode distinct survive, fromText_encode distinct, same, ?_⟩
  intro plain
  rwa [settled_eq_self plain] at same

/-- A filter of audited records that has two values and a sentinel. -/
def audited : Filter :=
  Chain.extending
    (.single "RootFilter" [.blank (Catalogue.field "created_at" Catalogue.instant),
      .blank (Catalogue.marked .transient "cache_key" Catalogue.text),
      ⟨Catalogue.field "owner" Catalogue.text, .value "ada"⟩])
    "AuditFilter" [⟨Catalogue.field "revision" Catalogue.unsignedLong, .value ⟨7, by decide⟩⟩,
      .blank (Catalogue.field "modified" (.atom .localTime)),
      .blank (Catalogue.field "owner_id" Catalogue.uuid),
      ⟨Catalogue.marked .filterableId "editorId" Catalogue.long, .isNull⟩]

theorem compileFilters_readBack_audited :
    audited.schema = Catalogue.auditFilter ∧
      ∃ back, Decoder.fromTree (decode Catalogue.auditFilter) audited.encode.value = .ok back ∧
        Decoder.fromText (decode Catalogue.auditFilter) audited.encode.text = .ok back ∧
        compileFilters back.view ⟨true, true⟩ =
          [.equals "revision" (.integer ⟨7, by decide⟩), .like "owner" "%ada%" true] := by
  have values : ∀ c ∈ audited.all, ∀ v, c.slot = .value v →
      c.field.type.Survives v ∧ c.field.type.ReadsBack v := by
    intro c member
    fin_cases member <;> rintro v ⟨⟩ <;> exact ⟨trivial, FieldType.readsBack_atom trivial⟩
  have payload : ∀ c ∈ audited.all, c.lowered ≠ .value (.document .null) := by
    intro c member
    fin_cases member <;> exact nofun
  obtain ⟨back, tree, text, same, -⟩ := compileFilters_readBack audited (by decide)
    (fun c member v held => (values c member v held).1) payload
  refine ⟨rfl, back, tree, text fun c member v held => (values c member v held).2, ?_⟩
  rw [same]
  rfl

end Filter

end Listing
