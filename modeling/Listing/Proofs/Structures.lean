import Mathlib
import Listing.Proofs.Chains
import Listing.Proofs.Documents
import Listing.Proofs.Outcomes

/-!
# Structures read from members

Records and filters are read level by level.  A level has a place for each of its fields; the
members that have the name of a field fill its place, and all others are set aside for the levels
behind it.

* `Decoder.takeMember_eq_ok_iff` says what taking one member in can do;
* `KeptEntries` are members as they come from a stored value or from a text that has been written;
* `Decoder.Layout` says how a level is laid out, `Decoder.Layout.foldlM_takeMember` is its reading
  member by member, and `Decoder.Layout.named_eq` concludes what is read of it and what is left.
-/

namespace Listing

/-- With distinct keys, an entry is the first with its key. -/
theorem find?_eq_some_of_nodup {α κ : Type} [BEq κ] [LawfulBEq κ] {key : α → κ} {xs : List α}
    {a : α} (distinct : (xs.map key).Nodup) (member : a ∈ xs) :
    xs.find? (key · == key a) = some a := by
  induction xs with
  | nil => cases member
  | cons x rest ih =>
    obtain ⟨fresh, distinct⟩ := List.nodup_cons.1 distinct
    rcases List.mem_cons.1 member with rfl | member
    · simp
    · have other : key x ≠ key a := fun same => fresh (same ▸ List.mem_map_of_mem member)
      rw [List.find?_cons_of_neg (by simpa using other), ih distinct member]

/-! ## Values that are passed over -/

namespace Json

mutual

/-- The document of a value is JSON. -/
theorem malformation?_toDoc : ∀ j : Json, j.toDoc.malformation? = none
  | null | flag _ | number _ | string _ => rfl
  | array items => by
    change (Doc.itemsMalformation? (itemsToDoc items)).or none = none
    rw [itemsMalformation?_itemsToDoc items]
    rfl
  | object members => by
    change (Doc.membersMalformation? (membersToDoc members)).or none = none
    rw [membersMalformation?_membersToDoc members]
    rfl

theorem itemsMalformation?_itemsToDoc : ∀ items : List Json,
    Doc.itemsMalformation? (itemsToDoc items) = none
  | [] => rfl
  | j :: rest => by
    rw [itemsToDoc, Doc.itemsMalformation?, malformation?_toDoc j,
      itemsMalformation?_itemsToDoc rest]
    rfl

theorem membersMalformation?_membersToDoc : ∀ members : List (String × Json),
    Doc.membersMalformation? (membersToDoc members) = none
  | [] => rfl
  | (_, j) :: rest => by
    rw [membersToDoc, Doc.membersMalformation?, malformation?_toDoc j,
      membersMalformation?_membersToDoc rest]
    rfl

end

end Json

namespace Decoder

/-- The document of a value can always be passed over. -/
theorem passOver_toDoc (aside : Bool) (j : Json) : passOver aside j.toDoc = .ok () := by
  cases aside with
  | false => exact congrArg Fault.stopping j.malformation?_toDoc
  | true =>
    have value : json .text j.toDoc = .ok j.toDoc.value := by
      rw [json, Doc.toJson, Json.refusal?_toDoc]
      rfl
    exact bind_eq_ok.2 ⟨_, value, rfl⟩

/-! ## One member -/

section Member

variable {σ : Type} {members : List (Member σ)} {aside : Bool} {m : Medium}

/-- What taking one member in can do: a member of the structure changes its state and any other is
set aside. -/
theorem takeMember_eq_ok_iff {f f' : Filling σ} {name : String} {j : Json} :
    takeMember members aside m f (name, j.toDoc) = .ok f' ↔
      (∃ member, members.find? (·.name == name) = some member ∧ name ∉ f.seen ∧
        ∃ set, member.read m j.toDoc = .ok set ∧
          f' = { f with state := set f.state, seen := name :: f.seen }) ∨
      members.find? (·.name == name) = none ∧
        f' = { f with others := f.others ++ [(name, j.toDoc)] } := by
  cases found : members.find? (·.name == name) with
  | none =>
    have eq : takeMember members aside m f (name, j.toDoc) = (do
        passOver aside j.toDoc
        return { f with others := f.others ++ [(name, j.toDoc)] }) := by
      cases j <;> simp only [takeMember, Json.toDoc, found]
    rw [eq, passOver_toDoc]
    simp only [reduceCtorEq, false_and, exists_false, false_or, true_and]
    exact ⟨fun ok => (Except.ok.inj ok).symm, congrArg Except.ok ∘ Eq.symm⟩
  | some member =>
    have eq : takeMember members aside m f (name, j.toDoc) =
        if name ∈ f.seen then Fault.here (.duplicate name)
        else do
          let set ← within (.member name) (member.read m j.toDoc)
          return { f with state := set f.state, seen := name :: f.seen } := by
      cases j <;> simp only [takeMember, Json.toDoc, found]
    rw [eq]
    simp only [Option.some.injEq, exists_eq_left', reduceCtorEq, false_and, or_false]
    split
    · rename_i twice
      refine iff_of_false (fun ok => ?_) fun taken => absurd twice taken.1
      cases ok
    · rename_i fresh
      constructor
      · intro ok
        obtain ⟨set, read, ok⟩ := bind_eq_ok.1 ok
        exact ⟨fresh, set, mapError_eq_ok.1 read, (Except.ok.inj ok).symm⟩
      · rintro ⟨-, set, read, rfl⟩
        exact bind_eq_ok.2 ⟨set, mapError_eq_ok.2 read, rfl⟩

/-- A structure is read from members that can be taken in and are all that is needed. -/
theorem structured_ofMembers {name : String} {start : σ} {entries : List (String × Doc)}
    {f : Filling σ}
    (taken : entries.foldlM (takeMember members false m) ⟨start, [], []⟩ = .ok f)
    (complete : Decoder.complete members f.seen = .ok ()) :
    structured name members start m (.ofMembers entries) = .ok f.state := by
  have filled : named members false start m entries none = .ok f :=
    bind_eq_ok.2 ⟨f, taken, bind_eq_ok.2 ⟨(), rfl, bind_eq_ok.2 ⟨(), complete, rfl⟩⟩⟩
  exact map_eq_ok.2 ⟨f, filled, rfl⟩

end Member

end Decoder

/-! ## Members as they are kept -/

/-- Members as they are kept: all have values, and no name comes twice. -/
structure KeptEntries (entries : List (String × Doc)) : Prop where
  once : (entries.map Prod.fst).Nodup
  values : ∀ e ∈ entries, ∃ j : Json, e.2 = j.toDoc

namespace KeptEntries

variable {entries rest : List (String × Doc)}

theorem sublist (kept : KeptEntries entries) (part : rest.Sublist entries) : KeptEntries rest :=
  ⟨kept.once.sublist (part.map Prod.fst), fun e member => kept.values e (part.subset member)⟩

/-- There is only one value under a name. -/
theorem unique (kept : KeptEntries entries) {name : String} {d d' : Doc}
    (among : (name, d) ∈ entries) (among' : (name, d') ∈ entries) : d = d' :=
  (Prod.mk.inj (List.inj_on_of_nodup_map kept.once among among' rfl)).2

/-- Members are kept when they have distinct names, whatever their order is. -/
theorem of_perm {α : Type} {enc : α → String × Doc} {as : List α} (perm : entries.Perm (as.map enc))
    (distinct : (as.map fun a => (enc a).1).Nodup)
    (values : ∀ a ∈ as, ∃ j : Json, (enc a).2 = j.toDoc) : KeptEntries entries := by
  refine ⟨?_, fun e member => ?_⟩
  · rw [(perm.map Prod.fst).nodup_iff, List.map_map]
    exact distinct
  · obtain ⟨a, among, rfl⟩ := List.mem_map.1 (perm.mem_iff.1 member)
    exact values a among

end KeptEntries

/-- What is kept of a chain has an entry for everything on the chain. -/
theorem Chain.exists_kept {α : Type} {c : Chain α} (enc : α → String × Doc)
    (distinct : (c.all.map fun a => (enc a).1).Nodup) :
    ∃ entries, (Doc.ofMembers (c.levels.reverse.flatMap fun l => l.entries.map enc)).kept =
        .ofMembers entries ∧
      KeptEntries entries ∧ ∀ {e}, e ∈ entries ↔ ∃ a ∈ c.all, ((enc a).1, (enc a).2.kept) = e := by
  have members := c.furthestFirst_perm enc
  have names := members.map Prod.fst
  rw [List.map_map] at names
  obtain ⟨entries, stored, perm⟩ := Doc.kept_ofMembers (names.nodup_iff.2 distinct)
  have perm := perm.trans (members.map fun e => (e.1, e.2.kept))
  rw [List.map_map] at perm
  exact ⟨entries, stored, .of_perm perm distinct fun a _ => ⟨_, rfl⟩,
    perm.mem_iff.trans List.mem_map⟩

/-- The members that have none of the names. -/
def without (names : List String) (entries : List (String × Doc)) : List (String × Doc) :=
  entries.filter fun e => e.1 ∉ names

section Without

variable {names : List String} {entries : List (String × Doc)}

/-- What is without some names has the others. -/
theorem mem_without {e : String × Doc} : e ∈ without names entries ↔ e ∈ entries ∧ e.1 ∉ names := by
  rw [without, List.mem_filter, decide_eq_true_iff]

theorem without_cons_of_mem {e : String × Doc} (named : e.1 ∈ names) :
    without names (e :: entries) = without names entries :=
  List.filter_cons_of_neg fun other => of_decide_eq_true other named

theorem without_cons_of_not_mem {e : String × Doc} (other : e.1 ∉ names) :
    without names (e :: entries) = e :: without names entries :=
  List.filter_cons_of_pos (decide_eq_true other)

theorem KeptEntries.without (kept : KeptEntries entries) : KeptEntries (without names entries) :=
  kept.sublist List.filter_sublist

theorem mem_map_fst_without {name : String} :
    name ∈ (without names entries).map Prod.fst ↔ name ∈ entries.map Prod.fst ∧ name ∉ names := by
  simp only [List.mem_map, mem_without]
  constructor
  · rintro ⟨e, ⟨among, other⟩, rfl⟩
    exact ⟨⟨e, among, rfl⟩, other⟩
  · rintro ⟨⟨e, among, rfl⟩, other⟩
    exact ⟨e, ⟨among, other⟩, rfl⟩

end Without

namespace Decoder

/-! ## One level -/

/-- A level with a place for each of its fields: their names, and how they are read. -/
structure Layout (α β : Type) where
  name : α → String
  presence : α → Presence
  read : α → Decoder β

namespace Layout

variable {α β : Type} (layout : Layout α β)

/-- The member that fills a place. -/
def memberAt (place : Nat) (a : α) : Member (List β) :=
  .setting (layout.name a) (layout.presence a) (layout.read a) fun b bs => bs.set place b

/-- The members of the level. -/
def members (as : List α) : List (Member (List β)) :=
  as.zipIdx.map fun (a, place) => layout.memberAt place a

/-- The same level for fields that come with more than the layout needs. -/
def comap {γ : Type} (f : γ → α) : Layout γ β :=
  ⟨fun c => layout.name (f c), fun c => layout.presence (f c), fun c => layout.read (f c)⟩

theorem members_map {γ : Type} (f : γ → α) (cs : List γ) :
    layout.members (cs.map f) = (layout.comap f).members cs := by
  rw [members, members, List.zipIdx_map, List.map_map]
  rfl

/-- The level when the fields with the given names have been read. -/
def filled (start val : α → β) (as : List α) (seen : List String) : List β :=
  as.map fun a => if layout.name a ∈ seen then val a else start a

theorem filled_nil (start val : α → β) (as : List α) :
    layout.filled start val as [] = as.map start := by
  simp [filled]

variable {layout} {as : List α}

theorem map_name_members : (layout.members as).map (·.name) = as.map layout.name := by
  have names := congrArg (List.map layout.name) (List.zipIdx_map_fst 0 as)
  rw [List.map_map] at names
  rw [members, List.map_map]
  exact names

/-- No member is found under a strange name. -/
theorem find?_members_eq_none {name : String} (strange : name ∉ as.map layout.name) :
    (layout.members as).find? (·.name == name) = none := by
  rw [List.find?_eq_none]
  intro member among same
  have known : member.name ∈ (layout.members as).map (·.name) := List.mem_map_of_mem among
  rw [map_name_members, eq_of_beq same] at known
  exact strange known

section Reading

variable {start val : α → β} (distinct : (as.map layout.name).Nodup)

include distinct

/-- Under the name of a place its member is found. -/
theorem find?_members {place : Nat} {a : α} (there : as[place]? = some a) :
    (layout.members as).find? (·.name == layout.name a) = some (layout.memberAt place a) := by
  have member : layout.memberAt place a ∈ layout.members as :=
    List.mem_map.2 ⟨(a, place), List.mk_mem_zipIdx_iff_getElem?.2 there, rfl⟩
  exact find?_eq_some_of_nodup (map_name_members ▸ distinct) member

/-- Filling a place is one name more that has been read. -/
theorem set_filled {seen : List String} {place : Nat} {a : α} (there : as[place]? = some a) :
    (layout.filled start val as seen).set place (val a) =
      layout.filled start val as (layout.name a :: seen) := by
  induction as generalizing place with
  | nil => cases there
  | cons b rest ih =>
    obtain ⟨fresh, distinct⟩ := List.nodup_cons.1 distinct
    cases place with
    | zero =>
      obtain rfl := Option.some.inj there
      have others : layout.filled start val rest seen =
          layout.filled start val rest (layout.name b :: seen) := by
        refine List.map_congr_left fun c member => ?_
        have other : layout.name c ≠ layout.name b := fun same =>
          fresh (List.mem_map.2 ⟨c, member, same⟩)
        simp only [List.mem_cons, other, false_or]
      rw [filled, List.map_cons, List.set_cons_zero, ← filled, others]
      simp [filled]
    | succ place =>
      have other : layout.name b ≠ layout.name a := fun same =>
        fresh (List.mem_map.2 ⟨a, List.mem_of_getElem? there, same.symm⟩)
      have later := ih distinct there
      rw [filled, List.map_cons, List.set_cons_succ, ← filled, later]
      simp [filled, other]

variable {m : Medium} {aside : Bool}

/-- One step of the reading of a level: an own entry fills its place. -/
theorem takeMember_own {a : α} (own : a ∈ as) {seen : List String} {others : List (String × Doc)}
    (fresh : layout.name a ∉ seen) {j : Json} (read : layout.read a m j.toDoc = .ok (val a)) :
    takeMember (layout.members as) aside m ⟨layout.filled start val as seen, seen, others⟩
        (layout.name a, j.toDoc) =
      .ok ⟨layout.filled start val as (layout.name a :: seen), layout.name a :: seen, others⟩ := by
  obtain ⟨place, there⟩ := List.mem_iff_getElem?.1 own
  refine takeMember_eq_ok_iff.2 (.inl ⟨_, find?_members distinct there, fresh, _,
    map_eq_ok.2 ⟨_, read, rfl⟩, ?_⟩)
  rw [set_filled distinct there]

omit distinct in
/-- The other step: an entry of none of the fields is set aside. -/
theorem takeMember_other {f : Filling (List β)} {name : String} {j : Json}
    (strange : name ∉ as.map layout.name) :
    takeMember (layout.members as) aside m f (name, j.toDoc) =
      .ok { f with others := f.others ++ [(name, j.toDoc)] } :=
  takeMember_eq_ok_iff.2 (.inr ⟨find?_members_eq_none strange, rfl⟩)

variable (layout as) in
omit distinct in
/-- The names of the own entries, the last of which comes first. -/
def ownNames (entries : List (String × Doc)) : List String :=
  ((entries.filter fun e => e.1 ∈ as.map layout.name).map Prod.fst).reverse

omit distinct in
/-- The own names are those of the level that entries have. -/
theorem mem_ownNames {entries : List (String × Doc)} {name : String}
    (own : name ∈ as.map layout.name) :
    name ∈ layout.ownNames as entries ↔ name ∈ entries.map Prod.fst := by
  simp only [ownNames, List.mem_reverse, List.mem_map (f := Prod.fst), List.mem_filter,
    decide_eq_true_eq]
  exact exists_congr fun e => and_congr_left fun named => and_iff_left (named ▸ own)

omit distinct in
/-- An own entry in front adds its name. -/
theorem ownNames_cons_own {e : String × Doc} (own : e.1 ∈ as.map layout.name)
    {rest : List (String × Doc)} :
    layout.ownNames as (e :: rest) = layout.ownNames as rest ++ [e.1] := by
  have first := List.filter_cons_of_pos (p := fun e => e.1 ∈ as.map layout.name) (l := rest)
    (decide_eq_true own)
  rw [ownNames, first, List.map_cons, List.reverse_cons, ← ownNames]

omit distinct in
/-- An entry of another level adds none. -/
theorem ownNames_cons_other {e : String × Doc} (other : e.1 ∉ as.map layout.name)
    {rest : List (String × Doc)} :
    layout.ownNames as (e :: rest) = layout.ownNames as rest := by
  have none := List.filter_cons_of_neg (p := fun e => e.1 ∈ as.map layout.name) (l := rest)
    (mt of_decide_eq_true other)
  rw [ownNames, none, ← ownNames]

/-- The reading of all entries: the own ones fill their places, and the others are set aside in
their order. -/
theorem foldlM_takeMember {entries : List (String × Doc)} (kept : KeptEntries entries)
    (reads : ∀ a ∈ as, ∀ d, (layout.name a, d) ∈ entries → layout.read a m d = .ok (val a))
    (seen : List String) (others : List (String × Doc)) (fresh : ∀ e ∈ entries, e.1 ∉ seen) :
    entries.foldlM (takeMember (layout.members as) aside m)
        ⟨layout.filled start val as seen, seen, others⟩ =
      .ok ⟨layout.filled start val as (layout.ownNames as entries ++ seen),
        layout.ownNames as entries ++ seen, others ++ without (as.map layout.name) entries⟩ := by
  -- The names seen so far say which places are filled, so they are what the induction generalizes.
  induction entries generalizing seen others with
  | nil => simp [ownNames, without, pure, Except.pure]
  | cons e rest ih =>
    obtain ⟨name, d⟩ := e
    obtain ⟨j, rfl⟩ := kept.values _ List.mem_cons_self
    have keptLater : KeptEntries rest := kept.sublist (List.sublist_cons_self _ _)
    have readsLater : ∀ a ∈ as, ∀ d, (layout.name a, d) ∈ rest → layout.read a m d = .ok (val a) :=
      fun a member d among => reads a member d (List.mem_cons_of_mem _ among)
    have freshLater : ∀ e ∈ rest, e.1 ∉ seen :=
      fun e member => fresh e (List.mem_cons_of_mem _ member)
    rw [List.foldlM_cons]
    by_cases own : name ∈ as.map layout.name
    · obtain ⟨a, member, rfl⟩ := List.mem_map.1 own
      have new : ∀ e ∈ rest, e.1 ∉ layout.name a :: seen := fun e member known =>
        (List.mem_cons.1 known).elim
          (fun same => (List.nodup_cons.1 kept.once).1 (List.mem_map.2 ⟨e, member, same⟩))
          (freshLater e member)
      rw [takeMember_own distinct member (fresh _ List.mem_cons_self)
        (reads a member _ List.mem_cons_self)]
      rw [ownNames_cons_own own, without_cons_of_mem own, List.append_assoc]
      exact ih keptLater readsLater _ _ new
    · rw [takeMember_other own]
      rw [ownNames_cons_other own, without_cons_of_not_mem own]
      refine (ih keptLater readsLater _ _ freshLater).trans ?_
      rw [List.append_assoc, List.singleton_append]

/-- A level is read from entries that have the values of its fields.  A field without an entry has
what the level starts with, and the entries of other fields are left. -/
theorem named_eq {entries : List (String × Doc)} (kept : KeptEntries entries)
    (reads : ∀ a ∈ as, ∀ d, (layout.name a, d) ∈ entries → layout.read a m d = .ok (val a))
    (missing : ∀ a ∈ as, layout.name a ∉ entries.map Prod.fst →
      layout.presence a ≠ .required ∧ start a = val a) :
    named (layout.members as) aside (as.map start) m entries none =
      .ok ⟨as.map val, layout.ownNames as entries, without (as.map layout.name) entries⟩ := by
  have run : entries.foldlM (takeMember (layout.members as) aside m)
      ⟨layout.filled start val as [], [], []⟩ = _ :=
    foldlM_takeMember distinct kept reads [] [] fun _ _ => List.not_mem_nil
  have all : layout.filled start val as (layout.ownNames as entries) = as.map val := by
    refine List.map_congr_left fun a member => ?_
    split_ifs with seen
    · rfl
    · exact (missing a member (mt (mem_ownNames (List.mem_map_of_mem member)).2 seen)).2
  have complete : complete (layout.members as) (layout.ownNames as entries) = .ok () := by
    have none : (layout.members as).find?
        (fun m => m.presence = .required ∧ m.name ∉ layout.ownNames as entries) = none := by
      refine List.find?_eq_none.2 fun member among lacking => ?_
      obtain ⟨⟨a, place⟩, there, rfl⟩ := List.mem_map.1 among
      have own : a ∈ as := List.mem_of_getElem? (List.mk_mem_zipIdx_iff_getElem?.1 there)
      obtain ⟨required, absent⟩ := of_decide_eq_true lacking
      have absent := mt (mem_ownNames (List.mem_map_of_mem own)).2 absent
      exact (missing a own absent).1 required
    rw [Decoder.complete, none]
  rw [filled_nil, List.append_nil, List.nil_append, all] at run
  exact bind_eq_ok.2 ⟨_, run, bind_eq_ok.2 ⟨(), rfl, bind_eq_ok.2 ⟨(), complete, rfl⟩⟩⟩

end Reading

end Layout

end Decoder

end Listing
