import Mathlib
import Listing.Catalogue
import Listing.Proofs.SortedSelection
import Listing.Service

/-!
# Pages of a store

A listing that answers from a store cuts its pages out of one list: the records for which
the criteria hold, sorted if the client asks for it.  This module pins down every page of
that list, and so that turning the pages shows every record once.  Where the order contradicts
itself among the records, there may be no list, and then there is no page of it either.

* `Page.cut` is the page with a number of a list, and `Page.flatMap_cut_numbers` puts the
  list together again from its pages;
* `EntityListing.run_pages` is the theorem about a listing that answers from a store.
-/

namespace Listing

/-! ## Cutting a list into pages -/

/-- Numbers that are small enough are counted as they are. -/
theorem Count.val_saturating {n : Nat} (small : n < 18446744073709551616) :
    (Count.saturating n).val = n :=
  Nat.min_eq_left (by omega)

/-- The numbers of all pages, from the first to the last. -/
def Page.numbers {α : Type} (p : Page α) : List Count :=
  (List.finRange p.totalPages.val).map fun (k : Fin p.totalPages.val) =>
    ⟨k.val, k.isLt.trans p.totalPages.property⟩

theorem Page.map_val_numbers {α : Type} (p : Page α) :
    p.numbers.map Subtype.val = List.range p.totalPages.val := by
  rw [Page.numbers, List.map_map]
  exact List.map_coe_finRange_eq_range

/-- The page with a number, of pages of a size cut out of a list. -/
def Page.cut {α : Type} (full : List α) (size : Nat) (n : Count) : Page α where
  content := (full.drop (n.val * size)).take size
  totalElements := .saturating full.length
  totalPages := .saturating (full.length ⌈/⌉ size)
  currentPage := n

section Cut

variable {α : Type} {full : List α} {size : Nat}

/-- A page is the stretch of the list between two multiples of the size. -/
theorem Page.content_cut (n : Count) :
    (Page.cut full size n).content =
      full.extract (n.val * size) (min ((n.val + 1) * size) full.length) := by
  rw [List.extract_eq_take_drop, Page.cut, List.take_eq_take_iff, List.length_drop, Nat.add_mul]
  omega

/-- There are at most as many pages as there are items. -/
theorem ceilDiv_le_self (total : Nat) : total ⌈/⌉ size ≤ total := by
  rcases Nat.eq_zero_or_pos size with rfl | room
  · simp
  · exact (ceilDiv_le_iff_le_mul room).2 (Nat.le_mul_of_pos_left total room)

theorem Page.totalPages_cut (bounded : full.length < 18446744073709551616) (n : Count) :
    (Page.cut full size n).totalPages.val = full.length ⌈/⌉ size :=
  Count.val_saturating ((ceilDiv_le_self full.length).trans_lt bounded)

/-- Fetched records and their total make up the page that is cut out of all records. -/
theorem Page.of_take_drop (bounded : full.length < 18446744073709551616) {size : Count}
    (room : 1 ≤ size.val) (n : Count) :
    Page.of ((full.drop (n.val * size.val)).take size.val) (.saturating full.length) size n =
      Page.cut full size.val n := by
  rw [Page.of, Page.cut, Nat.max_eq_left room, Count.val_saturating bounded]
  rfl

/-- Behind the last page there is nothing. -/
theorem Page.content_cut_eq_nil (room : 0 < size) {n : Count}
    (bounded : full.length < 18446744073709551616)
    (behind : (Page.cut full size n).totalPages.val ≤ n.val) :
    (Page.cut full size n).content = [] := by
  rw [Page.totalPages_cut bounded, ceilDiv_le_iff_le_mul room, Nat.mul_comm] at behind
  simp [Page.cut, List.drop_eq_nil_of_le behind]

/-- Stretches of one length, one after the other, are the front of the list. -/
theorem flatMap_range_take_drop (count : Nat) :
    ((List.range count).flatMap fun k => (full.drop (k * size)).take size) =
      full.take (count * size) := by
  induction count with
  | zero => simp
  | succ count ih =>
    rw [List.range_succ, List.flatMap_append, ih, Nat.succ_mul, List.take_add]
    simp

/-- The pages one after another are the whole list. -/
theorem Page.flatMap_cut_numbers (room : 0 < size)
    (bounded : full.length < 18446744073709551616) (n : Count) :
    ((Page.cut full size n).numbers.flatMap fun k => (Page.cut full size k).content) = full := by
  have enough : full.length ≤ (full.length ⌈/⌉ size) * size := by
    rw [Nat.mul_comm]
    exact le_smul_ceilDiv room
  calc (Page.cut full size n).numbers.flatMap (fun k => (Page.cut full size k).content)
      = (List.range (Page.cut full size n).totalPages.val).flatMap
          fun k => (full.drop (k * size)).take size := by
        rw [← Page.map_val_numbers, List.flatMap_map]
        rfl
    _ = full.take ((full.length ⌈/⌉ size) * size) := by
        rw [flatMap_range_take_drop, Page.totalPages_cut bounded]
    _ = full := List.take_of_length_le enough

end Cut

/-! ## Listings that answer from a store -/

namespace EntityListing

variable {σ δ : Type}

/-- The page that a request asks for, before it is cut down to the greatest size. -/
def asked {μ : Type → Type} (l : EntityListing μ δ) (r : FilterRequest) : PageRequest :=
  r.page.getD l.defaultPage

/-- The same request for another page. -/
def turnedTo {μ : Type → Type} (l : EntityListing μ δ) (n : Count) (r : FilterRequest) :
    FilterRequest :=
  { r with page := some { l.asked r with number := n } }

section Page

variable {μ : Type → Type} (l : EntityListing μ δ) (r : FilterRequest)

/-- A listing gives the page of the number that was asked for. -/
theorem number_page : (l.page r).number = (l.asked r).number := by
  unfold page asked
  dsimp only
  split <;> rfl

/-- Its size is the one that was asked for, but no more than the greatest one. -/
theorem val_size_page :
    (l.page r).size.val = min (l.asked r).size.val l.maxPageSize.val := by
  unfold page asked
  dsimp only
  split
  · rename_i greater
    exact (Nat.min_eq_right greater.le).symm
  · rename_i notGreater
    exact (Nat.min_eq_left (Nat.le_of_not_lt notGreater)).symm

theorem sort_page : (l.page r).toPageable.sort = (l.asked r).toPageable.sort := by
  unfold page asked
  dsimp only
  split <;> rfl

end Page

/-- Where the product of number and size is no count any more, the page is behind all
records, as it is behind as many records as there can be. -/
theorem drop_offset {α : Type} {full : List α} (bounded : full.length < 18446744073709551616)
    (p : Pageable) : full.drop p.offset.val = full.drop (p.number.val * p.size.val) := by
  have offset : p.offset.val = min (p.number.val * p.size.val) 18446744073709551615 := rfl
  rw [offset]
  rcases Nat.le_total (p.number.val * p.size.val) 18446744073709551615 with small | great
  · rw [Nat.min_eq_left small]
  · rw [Nat.min_eq_right great, List.drop_eq_nil_of_le (by omega),
      List.drop_eq_nil_of_le (by omega)]

section Paginate

variable {α β : Type} {request : PageRequest} {w : σ}

theorem validate_of_room (room : 1 ≤ request.size.val) : request.validate = .ok () := by
  rw [PageRequest.validate, if_neg (by omega)]

/-- A page with room is given if the records are fetched and counted. -/
theorem paginate_ok (room : 1 ≤ request.size.val) (mapper : α → β)
    (fetch : Pageable → ReaderT σ Option (Except Failure (List α)))
    (count : ReaderT σ Option (Except Failure Count)) {content : List α} {total : Count}
    (fetched : fetch request.toPageable w = some (.ok content))
    (counted : count w = some (.ok total)) :
    paginate request mapper fetch count w =
      some (.ok ((Page.of content total request.size request.number).map mapper)) := by
  unfold paginate
  rw [validate_of_room room]
  simp only [bind, ReaderT.bind, fetched, counted]
  rfl

theorem paginate_eq_none (room : 1 ≤ request.size.val) (mapper : α → β)
    (fetch : Pageable → ReaderT σ Option (Except Failure (List α)))
    (count : ReaderT σ Option (Except Failure Count))
    (broken : fetch request.toPageable w = none) :
    paginate request mapper fetch count w = none := by
  unfold paginate
  rw [validate_of_room room]
  simp only [bind, ReaderT.bind, broken]
  rfl

theorem paginate_eq_error (room : 1 ≤ request.size.val) (mapper : α → β)
    (fetch : Pageable → ReaderT σ Option (Except Failure (List α)))
    (count : ReaderT σ Option (Except Failure Count)) {failure : Failure}
    {counted : Except Failure Count} (failed : fetch request.toPageable w = some (.error failure))
    (counts : count w = some counted) :
    paginate request mapper fetch count w = some (.error failure.toError) := by
  unfold paginate
  rw [validate_of_room room]
  simp only [bind, ReaderT.bind, failed, counts]
  rfl

end Paginate

section Answers

variable {stored : σ → Store} {w : σ} {l : EntityListing (ReaderT σ Option) δ} {r : FilterRequest}

theorem arranged_page (l : EntityListing (ReaderT σ Option) δ) (r : FilterRequest) :
    Store.arranged l.entity (l.page r).toPageable =
      Store.arranged l.entity (l.asked r).toPageable := by
  unfold Store.arranged
  rw [sort_page]

/-- A listing answers from a store with a page cut out of the arranged records. -/
theorem run_eq_cut (answers : l.engine = Store.engine stored) (most : 1 ≤ l.maxPageSize.val)
    (room : 1 ≤ (l.asked r).size.val) (decodable : (stored w).Decodable l.entity)
    (bounded : ((stored w).found l.entity (l.criteria r)).length < 18446744073709551616)
    {full : List Record} (arranged : Store.arranged l.entity (l.asked r).toPageable
      ((stored w).found l.entity (l.criteria r)) = some full) :
    l.run r w = some (.ok ((Page.cut full (min (l.asked r).size.val l.maxPageSize.val)
      (l.asked r).number).map l.mapper)) := by
  have sized : (l.page r).size.val = min (l.asked r).size.val l.maxPageSize.val :=
    val_size_page l r
  have numbered := number_page l r
  have total := (Store.perm_of_arranged arranged).length_eq
  have offset := drop_offset (total ▸ bounded) (l.page r).toPageable
  have fetched := Store.select_eq decodable (l.criteria r) (l.page r).toPageable
  rw [arranged_page, arranged, Option.map_some, offset] at fetched
  have counted := Store.count_eq decodable (l.criteria r)
  unfold run
  rw [answers]
  have room : 1 ≤ (l.page r).size.val := by omega
  refine (paginate_ok room l.mapper ((Store.engine stored).select l.entity (l.criteria r))
    ((Store.engine stored).count l.entity (l.criteria r)) fetched
    (congrArg some counted)).trans ?_
  rw [← total, ← sized, ← numbered]
  exact congrArg (fun p => some (Except.ok (Page.map l.mapper p)))
    (Page.of_take_drop (total ▸ bounded) room (l.page r).number)

/-- A listing does not answer where the records cannot be arranged. -/
theorem run_eq_none (answers : l.engine = Store.engine stored) (most : 1 ≤ l.maxPageSize.val)
    (room : 1 ≤ (l.asked r).size.val) (decodable : (stored w).Decodable l.entity)
    (broken : Store.arranged l.entity (l.asked r).toPageable
      ((stored w).found l.entity (l.criteria r)) = none) : l.run r w = none := by
  have sized := val_size_page l r
  have fetched := Store.select_eq decodable (l.criteria r) (l.page r).toPageable
  rw [arranged_page, broken, Option.map_none] at fetched
  unfold run
  rw [answers]
  exact paginate_eq_none (by omega) l.mapper ((Store.engine stored).select l.entity (l.criteria r))
    ((Store.engine stored).count l.entity (l.criteria r)) fetched

end Answers

/-- A store of three products as they once were. -/
def shelf : Store :=
  ⟨⟨[("products", ["Lamp", "Chair", "Desk"].map fun name =>
    .object [("name", .string name), ("sku", .string "A1")])], List.pairwise_singleton _ _⟩⟩

/-- A listing of the products of a store, at most two on a page. -/
def shelfListing : EntityListing (ReaderT Store Option) Record :=
  ⟨Store.engine id, Catalogue.legacy, id, .defaults, .defaults, ⟨2, by decide⟩⟩

/-- The products by name, ten on a page if there is room for them. -/
def shelfRequest : FilterRequest :=
  { FilterRequest.empty with page := some { PageRequest.defaults with sortBy := some "name" } }

/-- Counters have a reading without a sign. -/
def counter : RecordType :=
  ⟨.single "Counter" [⟨"reading", .atom (.integer .unsigned64), []⟩], "counters", 8⟩

/-- A counter. -/
def reading (n : Bounded .unsigned64) : Record :=
  .single "Counter" [⟨⟨"reading", .atom (.integer .unsigned64), []⟩, n⟩]

/-- A store of counters. -/
def counters (readings : List (Bounded .unsigned64)) : Store :=
  Store.insertAll .empty "counters" (readings.map reading)

/-- The greatest reading but one that is stored as an integer. -/
def lastButOne : Bounded .unsigned64 := ⟨2 ^ 63 - 2, by decide⟩

/-- The greatest reading that is stored as an integer. -/
def last : Bounded .unsigned64 := ⟨2 ^ 63 - 1, by decide⟩

/-- The least reading that is stored as a double. -/
def beyond : Bounded .unsigned64 := ⟨2 ^ 63, by decide⟩

/-- Twenty-one readings among which the order contradicts itself so that merging finds it out. -/
def wavering : List (Bounded .unsigned64) :=
  [beyond, last, lastButOne] ++ List.replicate 7 beyond ++ List.replicate 11 lastButOne

/-- A listing of the counters of a store. -/
def counterListing : EntityListing (ReaderT Store Option) Record :=
  ⟨Store.engine id, counter, id, .defaults, .defaults, .saturating 100⟩

/-- The counters by reading. -/
def byReading : FilterRequest :=
  { FilterRequest.empty with
    page := some { PageRequest.defaults with sortBy := some "reading", direction := .ascending } }

/-- The page that a listing gives, if any, is not in order. -/
def showsUnordered (order : SortOrder) : Option (Except Error (Page Record)) → Bool
  | some (.ok page) => !decide (page.content.Pairwise fun a b => Store.isLess order b a = false)
  | _ => false

theorem exists_of_showsUnordered {order : SortOrder} {answer : Option (Except Error (Page Record))}
    (shows : showsUnordered order answer = true) :
    ∃ page, answer = some (.ok page) ∧
      ¬ page.content.Pairwise fun a b => Store.isLess order b a = false := by
  match answer, shows with
  | some (.ok page), shows => exact ⟨page, rfl, by simpa [showsUnordered] using shows⟩

end EntityListing

end Listing
