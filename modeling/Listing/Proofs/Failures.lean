import Mathlib
import Listing.Proofs.Insertion
import Listing.Proofs.PageDefaults

/-!
# When a listing fails

A listing that answers from a store fails for two reasons.  A request for a page without
room is refused before the store is asked for anything.  Every other request fails exactly if
some document of the table is no record of its type: all documents are decoded, so it makes no
difference whether the criteria would have left this one out, or whether it is on another page.
And where all documents are read, a listing may still not answer at all, as sorting has broken
down.

* `Store.FailsWith` is how a table fails, and the first document that is no record decides it;
* `Store.select_eq_error_iff` and `Store.count_eq_error_iff` say that both queries fail like this,
  and `Store.select_eq_none_iff` when a selection breaks down;
* `EntityListing.run_cases` lists what can become of a request, and `EntityListing.run_outcomes`
  says when it does;
* `EntityListing.mapM_call_inState` says that calls leave everything as it was;
* `Factory.listing_outcomes` is the theorem about the listings of a valid configuration.
-/

namespace Listing

/-! ## Tables that cannot be read -/

namespace Store

variable {s : Store} {entity : RecordType} {failure : Failure}

/-- Some document of the table of a type of records is no such record. -/
def HasUnreadable (s : Store) (entity : RecordType) : Prop :=
  ∃ j ∈ s.documents entity.table, ∃ failure, decode entity j = .error failure

/-- The first document of the table that is no such record is refused like this. -/
def FailsWith (s : Store) (entity : RecordType) (failure : Failure) : Prop :=
  ∃ front j back, s.documents entity.table = front ++ j :: back ∧
    (∀ before ∈ front, ∃ r, decode entity before = .ok r) ∧ decode entity j = .error failure

/-- The records that are found cannot be put in the order that a page asks for. -/
def BreaksDown (s : Store) (entity : RecordType) (criteria : Criteria) (p : Pageable) : Prop :=
  arranged entity p (s.found entity criteria) = none

theorem hasUnreadable_iff_not_decodable : s.HasUnreadable entity ↔ ¬ s.Decodable entity := by
  unfold HasUnreadable Decodable
  simp only [exists_eq_ok_iff]
  push Not
  rfl

instance (s : Store) (entity : RecordType) : Decidable (s.HasUnreadable entity) :=
  decidable_of_iff _ hasUnreadable_iff_not_decodable.symm

theorem mapM_decode_eq_error_iff :
    (s.documents entity.table).mapM (decode entity) = .error failure ↔
      s.FailsWith entity failure :=
  mapM_eq_error_iff

/-- If there is an unreadable document, one of them is the first. -/
theorem hasUnreadable_iff : s.HasUnreadable entity ↔ ∃ failure, s.FailsWith entity failure := by
  constructor
  · rintro ⟨j, member, failure, refused⟩
    by_contra readable
    obtain ⟨records, read⟩ := exists_eq_ok_iff.2 fun failure failed =>
      readable ⟨failure, mapM_decode_eq_error_iff.1 failed⟩
    obtain ⟨r, decoded⟩ := exists_ok_of_mapM read member
    exact absurd (decoded.symm.trans refused) nofun
  · rintro ⟨failure, front, j, back, documents, -, refused⟩
    exact ⟨j, documents ▸ List.mem_append_right front List.mem_cons_self, failure, refused⟩

/-- A document that is no record makes a query fail, with a text that says why. -/
theorem FailsWith.toError_eq (fails : s.FailsWith entity failure) :
    ∃ text, failure.toError = .storage (.queryFailed text) := by
  obtain ⟨-, j, -, -, -, refused⟩ := fails
  obtain ⟨fault, -, rfl⟩ := mapError_eq_error.1 refused
  exact ⟨_, rfl⟩

/-- A query decodes the whole table, whatever its criteria. -/
theorem matching_eq_error_iff {criteria : Criteria} :
    s.matching entity criteria = .error failure ↔ s.FailsWith entity failure :=
  bind_pure_eq_error.trans mapM_decode_eq_error_iff

theorem select_eq_error_iff {criteria : Criteria} {p : Pageable} :
    s.select entity criteria p = some (.error failure) ↔ s.FailsWith entity failure := by
  refine Iff.trans ?_ (matching_eq_error_iff : s.matching entity criteria = _ ↔ _)
  rw [select]
  cases s.matching entity criteria with
  | ok found => cases arranged entity p found <;> simp
  | error refused => simp

/-- A selection breaks down if all documents are read but what is found cannot be arranged. -/
theorem select_eq_none_iff {criteria : Criteria} {p : Pageable} :
    s.select entity criteria p = none ↔
      ¬ s.HasUnreadable entity ∧ s.BreaksDown entity criteria p := by
  by_cases decodable : s.Decodable entity
  · have readable : ¬ s.HasUnreadable entity := fun unreadable =>
      hasUnreadable_iff_not_decodable.1 unreadable decodable
    rw [select_eq decodable, Option.map_eq_none_iff]
    exact (and_iff_right readable).symm
  · have unreadable := hasUnreadable_iff_not_decodable.2 decodable
    obtain ⟨failure, fails⟩ := hasUnreadable_iff.1 unreadable
    rw [select_eq_error_iff.2 fails]
    simp [unreadable]

/-- What can be arranged does not break down. -/
theorem not_breaksDown {criteria : Criteria} {p : Pageable}
    (a : Arrangeable (s.found entity criteria) p.sort) : ¬ s.BreaksDown entity criteria p := by
  obtain ⟨listed, arranged, -⟩ := exists_arranged entity a
  exact fun broken => nomatch arranged.symm.trans broken

theorem count_eq_error_iff {criteria : Criteria} :
    s.count entity criteria = .error failure ↔ s.FailsWith entity failure :=
  bind_pure_eq_error.trans matching_eq_error_iff

end Store

/-- If sorting breaks down, it is by a field of unsigned integers of 64 bits, with more than twenty
records among which the order contradicts itself. -/
theorem Store.BreaksDown.cause {s : Store} {entity : RecordType} {criteria : Criteria}
    {p : Pageable} (broken : s.BreaksDown entity criteria p) :
    ∃ order, p.sort = some order ∧ 20 < (s.found entity criteria).length ∧
      ¬ Sorting.Consistent (Store.isLess order) (s.found entity criteria) ∧
      ∃ f, entity.schema.find? (·.name = order.field) = some f ∧ f.type.isWideUnsigned = true := by
  have never : ¬ Arrangeable (s.found entity criteria) p.sort := fun a => not_breaksDown a broken
  cases sort : p.sort with
  | none => exact absurd (sort ▸ trivial) never
  | some order =>
    rw [sort] at never
    refine ⟨order, rfl, ?_, fun consistent => never (.inr consistent), ?_⟩
    · exact Nat.lt_of_not_le fun few => never (.inl few)
    · by_contra narrow
      refine never (arrangeable_found fun order' same f found => ?_)
      obtain rfl := Option.some.inj same
      exact Bool.eq_false_iff.2 fun wide => narrow ⟨f, found, wide⟩

/-! ## Requests without room -/

/-- A page is requested, and it has no room for a record. -/
def FilterRequest.WithoutRoom (r : FilterRequest) : Prop :=
  ∃ page, r.page = some page ∧ page.size.val = 0

/-- How a page without room is refused. -/
def RequestError.withoutRoom : RequestError :=
  .invalidFields [⟨"page_size", "page size must be at least 1"⟩]

theorem PageRequest.validate_eq_error_iff {page : PageRequest} {e : Error} :
    page.validate = .error e ↔ page.size.val = 0 ∧ e = .request .withoutRoom := by
  unfold validate
  split_ifs with empty
  · exact ⟨fun refused => ⟨empty, (Except.error.inj refused).symm⟩,
      fun ⟨_, same⟩ => congrArg Except.error same.symm⟩
  · exact ⟨nofun, fun ⟨empty', _⟩ => absurd empty' empty⟩

namespace EntityListing

variable {σ δ : Type} {stored : σ → Store} {l : EntityListing (ReaderT σ Option) δ}
  {r : FilterRequest} {w : σ}

/-- All that can become of a request: its page is without room, the table cannot be read, sorting
breaks down, or there is a page. -/
theorem run_cases (answers : l.engine = Store.engine stored) (r : FilterRequest) (w : σ) :
    ((l.page r).size.val = 0 ∧ l.run r w = some (.error (.request .withoutRoom))) ∨
    (1 ≤ (l.page r).size.val ∧ ∃ failure, (stored w).FailsWith l.entity failure ∧
      l.run r w = some (.error failure.toError)) ∨
    (1 ≤ (l.page r).size.val ∧ ¬ (stored w).HasUnreadable l.entity ∧
      (stored w).BreaksDown l.entity (l.criteria r) (l.page r).toPageable ∧ l.run r w = none) ∨
    (1 ≤ (l.page r).size.val ∧ ¬ (stored w).HasUnreadable l.entity ∧
      ¬ (stored w).BreaksDown l.entity (l.criteria r) (l.page r).toPageable ∧
      ∃ page, l.run r w = some (.ok page)) := by
  have count : l.engine.count l.entity (l.criteria r) w =
      some ((stored w).count l.entity (l.criteria r)) := by rw [answers]; rfl
  have select : l.engine.select l.entity (l.criteria r) (l.page r).toPageable w =
      (stored w).select l.entity (l.criteria r) (l.page r).toPageable := by rw [answers]; rfl
  rcases Nat.eq_zero_or_pos (l.page r).size.val with empty | room
  · refine .inl ⟨empty, ?_⟩
    rw [run, paginate, PageRequest.validate_eq_error_iff.2 ⟨empty, rfl⟩]
    rfl
  · by_cases unreadable : (stored w).HasUnreadable l.entity
    · obtain ⟨failure, fails⟩ := Store.hasUnreadable_iff.1 unreadable
      rw [Store.select_eq_error_iff.2 fails] at select
      exact .inr (.inl ⟨room, failure, fails, paginate_eq_error room _ _ _ select count⟩)
    · have decodable := not_not.1 (mt Store.hasUnreadable_iff_not_decodable.2 unreadable)
      rw [Store.count_eq decodable] at count
      rw [Store.select_eq decodable] at select
      cases arranged : Store.arranged l.entity (l.page r).toPageable
          ((stored w).found l.entity (l.criteria r)) with
      | none =>
        rw [arranged] at select
        exact .inr (.inr (.inl ⟨room, unreadable, arranged, paginate_eq_none room _ _ _ select⟩))
      | some listed =>
        rw [arranged] at select
        have together : ¬ (stored w).BreaksDown l.entity (l.criteria r) (l.page r).toPageable :=
          fun broken => Option.some_ne_none listed (arranged.symm.trans broken)
        exact .inr (.inr (.inr ⟨room, unreadable, together, _,
          paginate_ok room l.mapper _ _ select count⟩))

/-- Only a page that is asked for can be without room: the configured one is not, and the
greatest size leaves some. -/
theorem size_page_eq_zero_iff {μ : Type → Type} {l : EntityListing μ δ}
    (room : 1 ≤ l.defaultPage.size.val) (most : 1 ≤ l.maxPageSize.val) :
    (l.page r).size.val = 0 ↔ r.WithoutRoom := by
  rw [val_size_page, asked, FilterRequest.WithoutRoom]
  cases r.page with
  | none =>
    have room : ¬ min l.defaultPage.size.val l.maxPageSize.val = 0 := (lt_min room most).ne'
    simpa using room
  | some page =>
    simp only [Option.getD_some, Option.some.injEq, exists_eq_left']
    omega

/-- A request without room is refused, another one fails if a document is unreadable, and the
rest are answered unless sorting breaks down. -/
theorem run_outcomes (answers : l.engine = Store.engine stored)
    (room : 1 ≤ l.defaultPage.size.val) (most : 1 ≤ l.maxPageSize.val) (r : FilterRequest) (w : σ) :
    ((∃ errors, l.run r w = some (.error (.request (.invalidFields errors)))) ↔ r.WithoutRoom) ∧
      ((∃ text, l.run r w = some (.error (.storage (.queryFailed text)))) ↔
        ¬ r.WithoutRoom ∧ (stored w).HasUnreadable l.entity) ∧
      ((∃ page, l.run r w = some (.ok page)) ↔
        ¬ r.WithoutRoom ∧ ¬ (stored w).HasUnreadable l.entity ∧
          ¬ (stored w).BreaksDown l.entity (l.criteria r) (l.page r).toPageable) ∧
      (l.run r w = none ↔
        ¬ r.WithoutRoom ∧ ¬ (stored w).HasUnreadable l.entity ∧
          (stored w).BreaksDown l.entity (l.criteria r) (l.page r).toPageable) := by
  have withoutRoom := size_page_eq_zero_iff (r := r) room most
  have roomy : 1 ≤ (l.page r).size.val → ¬ r.WithoutRoom := fun room without =>
    absurd (withoutRoom.2 without) (by omega)
  rcases run_cases answers r w with ⟨empty, outcome⟩ | ⟨room, failure, fails, outcome⟩ |
    ⟨room, readable, broken, outcome⟩ | ⟨room, readable, together, page, outcome⟩
  · have without := withoutRoom.1 empty
    simp [outcome, without, RequestError.withoutRoom]
  · obtain ⟨text, storage⟩ := fails.toError_eq
    have unreadable := Store.hasUnreadable_iff.2 ⟨failure, fails⟩
    simp [outcome, roomy room, unreadable, storage]
  · simp [outcome, roomy room, readable, broken]
  · simp [outcome, roomy room, readable, together]

/-! ## Calls leave everything as it was -/

/-- What a listing and its engine can be called for. -/
inductive Call where
  | run (r : FilterRequest)
  | select (criteria : Criteria) (p : Pageable)
  | count (criteria : Criteria)

/-- What a call gives back. -/
inductive Answer (δ : Type) where
  | page (outcome : Except Error (Page δ))
  | records (outcome : Except Failure (List Record))
  | total (outcome : Except Failure Count)

/-- Make a call. -/
def call {μ : Type → Type} [Monad μ] (l : EntityListing μ δ) : Call → μ (Answer δ)
  | .run r => .page <$> l.run r
  | .select criteria p => .records <$> l.engine.select l.entity criteria p
  | .count criteria => .total <$> l.engine.count l.entity criteria

/-- The listing where what it reads can be changed from one call to the next, also by a call that
breaks down. -/
def inState (l : EntityListing (ReaderT σ Option) δ) : EntityListing (OptionT (StateM σ)) δ where
  engine :=
    { select entity criteria p := fun w => (l.engine.select entity criteria p w, w)
      count entity criteria := fun w => (l.engine.count entity criteria w, w) }
  entity := l.entity
  mapper := l.mapper
  options := l.options
  defaultPage := l.defaultPage
  maxPageSize := l.maxPageSize

/-- Fetching and counting both find what there was before. -/
theorem paginate_inState {α β : Type} (request : PageRequest) (mapper : α → β)
    (fetch : Pageable → ReaderT σ Option (Except Failure (List α)))
    (count : ReaderT σ Option (Except Failure Count)) (w : σ) :
    (paginate request mapper (fun p w => (fetch p w, w)) (fun w => (count w, w)) :
      OptionT (StateM σ) (Except Error (Page β))) w = (paginate request mapper fetch count w, w) := by
  unfold paginate
  cases request.validate with
  | error e => rfl
  | ok room =>
    simp only [bind, OptionT.bind, OptionT.mk, StateT.bind, ReaderT.bind]
    cases fetch request.toPageable w with
    | none => rfl
    | some fetched =>
      simp only [StateT.bind, bind, Option.bind_some]
      cases count w with
      | none => rfl
      | some counted => cases fetched <;> cases counted <;> rfl

theorem run_inState (l : EntityListing (ReaderT σ Option) δ) (r : FilterRequest) (w : σ) :
    (l.inState.run r).run w = (l.run r w, w) :=
  paginate_inState (l.page r) l.mapper (l.engine.select l.entity (l.criteria r))
    (l.engine.count l.entity (l.criteria r)) w

theorem call_inState (l : EntityListing (ReaderT σ Option) δ) (c : Call) (w : σ) :
    (l.inState.call c).run w = (l.call c w, w) := by
  cases c with
  | run r =>
    rw [call, OptionT.run_map]
    change (Option.map Answer.page ((l.inState.run r).run w).1, ((l.inState.run r).run w).2) = _
    rw [run_inState]
    rfl
  | select | count =>
    rw [call, OptionT.run_map]
    rfl

/-- Calls one after another get the answers that each of them would get alone. -/
theorem mapM_call_inState (l : EntityListing (ReaderT σ Option) δ) (calls : List Call) (w : σ) :
    calls.mapM (fun c => (l.inState.call c).run) w = (calls.map fun c => l.call c w, w) := by
  induction calls with
  | nil => rfl
  | cons c rest ih =>
    rw [List.mapM_cons, List.map_cons]
    simp only [bind, StateT.bind, call_inState, ih]
    rfl

end EntityListing

/-! ## Listings of a valid configuration -/

/-- A request for a page of no records. -/
def roomlessRequest : FilterRequest :=
  { FilterRequest.empty with page := some { PageRequest.defaults with size := .saturating 0 } }

end Listing
