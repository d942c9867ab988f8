import Mathlib
import Listing.Range
import Listing.Proofs.DocumentTexts
import Listing.Proofs.Settings
import Listing.Proofs.SortedPairs
import Listing.Proofs.Structures
import Listing.Proofs.UntypedReading

/-!
# Ranges in documents

The document of ranges is one object of fields, each with its two bounds.  A bound does not say
what kind of value it is: in a document it is null, a text or a number, and what is read is a value
that stands for this.

* `Doc.IsPlain` are the documents of such bounds, and `Range.IsPlain` ranges that have them;
* `Range.stored` and `RangeFilter.stored` are what becomes of ranges in a document;
* `RangeFilter.decoder_toDoc` says that these are read from the document,
  `RangeFilter.fromTree_toDoc` that they are from what is kept of it, and
  `RangeFilter.fromText_toDoc` that they are from its text.
-/

namespace Listing

/-! ## Plain documents -/

/-- The document is null, a text or a number. -/
inductive Doc.IsPlain : Doc → Prop where
  | null : IsPlain .null
  | string (s : String) : IsPlain (.string s)
  | number (n : Json.Number) : IsPlain (.number n)

/-- The bound that a document stands for. -/
def Doc.bound : Doc → Option Value
  | null => none
  | d => some (.ofJson d.value)

namespace Doc.IsPlain

variable {d : Doc} (plain : d.IsPlain)

include plain

theorem kept_eq : d.kept = d := by
  cases plain <;> rfl

/-- A plain document comes back from its text as it was. -/
theorem reread_eq : d.reread = d := by
  cases plain <;> rfl

/-- A plain document is read as the bound that it stands for. -/
theorem optional_decoder (m : Medium) : Decoder.optional Value.decoder m d = .ok d.bound := by
  cases plain with
  | null => rfl
  | string s => rfl
  | number n => exact congrArg (·.map some) (Value.decoder_eq m (.number n))

/-- A plain document can be read from its text if its number can. -/
theorem legible (rereads : ∀ n, d = .number n → n.Rereads) (levels : Nat) : d.Legible levels := by
  cases plain with
  | null => trivial
  | string s => trivial
  | number n => exact rereads n rfl

end Doc.IsPlain

/-! ## One range -/

namespace Range

/-- The bounds are written as nulls, texts and numbers. -/
def IsPlain (r : Range) : Prop := ∀ side, (boundDoc (r.bound side)).IsPlain

/-- The range with the bounds that their documents stand for. -/
def stored (r : Range) : Range := ⟨(boundDoc r.low).bound, (boundDoc r.high).bound⟩

theorem bound_stored (r : Range) (side : BoundSide) :
    r.stored.bound side = (boundDoc (r.bound side)).bound := by
  cases side <;> rfl

variable {r : Range}

/-- A range is read from plain bounds, one after the other. -/
theorem decoder_ofMembers {low high : Doc} (plain : low.IsPlain) (plain' : high.IsPlain)
    (m : Medium) :
    decoder m (.ofMembers [("from", low), ("to", high)]) = .ok ⟨low.bound, high.bound⟩ := by
  have readLow := plain.optional_decoder m
  have readHigh := plain'.optional_decoder m
  obtain ⟨j, rfl⟩ : ∃ j : Json, low = j.toDoc := ⟨low.value, plain.kept_eq.symm⟩
  obtain ⟨k, rfl⟩ : ∃ k : Json, high = k.toDoc := ⟨high.value, plain'.kept_eq.symm⟩
  let both : Range := ⟨j.toDoc.bound, k.toDoc.bound⟩
  refine Decoder.structured_ofMembers (f := ⟨both, ["to", "from"], []⟩) ?_ rfl
  have fresh : "to" ∉ ["from"] := by decide
  refine bind_eq_ok.2 ⟨⟨⟨j.toDoc.bound, none⟩, ["from"], []⟩, ?_, bind_eq_ok.2 ⟨_, ?_, rfl⟩⟩
  · exact Decoder.takeMember_eq_ok_iff.2
      (.inl ⟨_, rfl, List.not_mem_nil, _, map_eq_ok.2 ⟨_, readLow, rfl⟩, rfl⟩)
  · exact Decoder.takeMember_eq_ok_iff.2
      (.inl ⟨_, rfl, fresh, _, map_eq_ok.2 ⟨_, readHigh, rfl⟩, rfl⟩)

/-- A plain range is read as the bounds that its documents stand for. -/
theorem IsPlain.decoder_toDoc (plain : r.IsPlain) (m : Medium) :
    decoder m r.toDoc = .ok r.stored :=
  decoder_ofMembers (plain .low) (plain .high) m

theorem IsPlain.kept_toDoc (plain : r.IsPlain) : r.toDoc.kept = r.toDoc := by
  have order : "from" < "to" := by decide +kernel
  have sorted : Increasing [("from", boundDoc r.low), ("to", boundDoc r.high)] :=
    List.pairwise_pair.2 order
  have low : (boundDoc r.low).kept = boundDoc r.low := (plain .low).kept_eq
  have high : (boundDoc r.high).kept = boundDoc r.high := (plain .high).kept_eq
  rw [toDoc, Doc.kept_ofMembers_of_increasing sorted, List.map_cons, List.map_singleton, low, high]

theorem IsPlain.reread_toDoc (plain : r.IsPlain) : r.toDoc.reread = r.toDoc := by
  have low : (boundDoc r.low).reread = boundDoc r.low := (plain .low).reread_eq
  have high : (boundDoc r.high).reread = boundDoc r.high := (plain .high).reread_eq
  rw [toDoc, Doc.reread_ofMembers, List.map_cons, List.map_singleton, low, high]

/-- All numbers among the bounds are read from their texts. -/
def Rereads (r : Range) : Prop := ∀ side n, boundDoc (r.bound side) = .number n → n.Rereads

/-- A plain range can be read from its text if its numbers can. -/
theorem IsPlain.legible_toDoc (plain : r.IsPlain) (rereads : r.Rereads) (levels : Nat) :
    r.toDoc.Legible (levels + 1) := by
  refine Doc.legible_ofMembers_iff.2 (List.forall_mem_cons.2 ⟨?_, List.forall_mem_singleton.2 ?_⟩)
  · exact (plain .low).legible (rereads .low) levels
  · exact (plain .high).legible (rereads .high) levels

end Range

/-! ## All ranges -/

namespace RangeFilter

/-- The ranges with the bounds that their documents stand for. -/
def stored (ranges : RangeFilter) : RangeFilter :=
  ⟨ranges.ranges.mapValues fun _ range => range.stored⟩

variable {ranges : RangeFilter} (plain : ∀ e ∈ ranges.ranges.entries, e.2.IsPlain)

include plain

/-- Ranges are read one by one, each under its name. -/
theorem keyed_toDoc (m : Medium) :
    Decoder.keyed Range.decoder m
        (.ofMembers (ranges.ranges.entries.map fun (name, range) => (name, range.toDoc))) =
      .ok ranges.stored.ranges := by
  have read : ∀ e ∈ ranges.ranges.entries, ∀ kept : Keyed Range,
      (do return kept.insert e.1 (← within (.member e.1) (Range.decoder m e.2.toDoc))) =
        Except.ok (ε := Fault) (kept.insert e.1 e.2.stored) := by
    intro e member kept
    rw [(plain e member).decoder_toDoc]
    rfl
  have kept := foldlM_eq_ok_of_forall read Keyed.empty
  have all : ranges.ranges.entries.foldl (fun kept e => kept.insert e.1 e.2.stored) Keyed.empty =
      ranges.stored.ranges := by
    rw [← ranges.stored.ranges.ofList_entries, Keyed.ofList, stored, Keyed.mapValues,
      List.foldl_map]
  unfold Decoder.keyed Doc.ofMembers
  dsimp only
  rw [List.foldlM_map]
  exact bind_eq_ok.2 ⟨_, kept, congrArg Except.ok all⟩

/-- Ranges are read from their document. -/
theorem decoder_toDoc (m : Medium) : decoder m ranges.toDoc = .ok ranges.stored := by
  refine Decoder.structured_ofMembers (f := ⟨ranges.stored, ["ranges"], []⟩) ?_ rfl
  refine bind_eq_ok.2 ⟨_, ?_, rfl⟩
  change (within (.member "ranges") ((Decoder.keyed Range.decoder m _).map _) >>= _) = _
  rw [keyed_toDoc plain]
  rfl

theorem kept_toDoc : ranges.toDoc.kept = ranges.toDoc := by
  have sorted : Increasing (ranges.ranges.entries.map fun (name, range) => (name, range.toDoc)) :=
    List.pairwise_map.2 ranges.ranges.increasing
  rw [toDoc, Doc.kept_ofMembers_of_increasing (List.pairwise_singleton _ _), List.map_singleton,
    Doc.kept_ofMembers_of_increasing sorted, List.map_map]
  refine congrArg (fun members => Doc.ofMembers [("ranges", Doc.ofMembers members)]) ?_
  exact List.map_congr_left fun e member => congrArg (Prod.mk e.1) (plain e member).kept_toDoc

/-- Ranges are read from what is kept of them. -/
theorem fromTree_toDoc : decoder.fromTree ranges.toDoc.value = .ok ranges.stored := by
  change decoder .tree ranges.toDoc.kept = _
  rw [kept_toDoc plain, decoder_toDoc plain]

/-- Ranges are read from their text, if the numbers in it are. -/
theorem fromText_toDoc (rereads : ∀ e ∈ ranges.ranges.entries, e.2.Rereads) :
    decoder.fromText ranges.toDoc.text = .ok ranges.stored := by
  have legible : ranges.toDoc.Legible 127 := by
    refine Doc.legible_ofMembers_iff.2 (List.forall_mem_singleton.2 ?_)
    refine Doc.legible_ofMembers_iff.2 (List.forall_mem_map.2 fun e member => ?_)
    exact (plain e member).legible_toDoc (rereads e member) 124
  have same : ranges.toDoc.reread = ranges.toDoc := by
    rw [toDoc, Doc.reread_ofMembers, List.map_singleton, Doc.reread_ofMembers, List.map_map]
    refine congrArg (fun members => Doc.ofMembers [("ranges", Doc.ofMembers members)]) ?_
    exact List.map_congr_left fun e member => congrArg (Prod.mk e.1) (plain e member).reread_toDoc
  rw [Decoder.fromText_text decoder legible, same, decoder_toDoc plain]

end RangeFilter

end Listing
