import Mathlib
import Listing.Value
import Listing.Proofs.Documents

/-!
# Reading values without a type

A document is read as the first of ten cases that it suits.  Several of them overlap: a number can
be a real one as well as a whole one, a text can be an identifier, a moment or a choice as well as
a text, and everything is a document.  Which one comes first depends on the form of the document
alone.

* `Value.ofJson` is the value by the form of a document;
* `Value.readUntagged_eq` says that it is the one that is read, and `Value.decoder_eq` that nothing
  but a document without a value is refused.
-/

namespace Listing

namespace Value

mutual

/-- The value that a document value stands for when no type is declared. -/
def ofJson : Json → Value
  | .null => null
  | .flag b => flag b
  | .number (.whole n) => ofInt n.val
  | .number (.real x _) => real x
  | .string s => text s
  | .array items => list (allOfJson items)
  | .object members => document (.object members)

/-- The values of a list. -/
def allOfJson : List Json → List Value
  | [] => []
  | j :: rest => ofJson j :: allOfJson rest

end

theorem toDoc_real {x : Double} (finite : x.isFinite = true) :
    (real x).toDoc = .number (.real x finite) :=
  dif_pos finite

/-! ## The first case -/

/-- A whole number beyond the signed ones fails as an integer and succeeds as a real number. -/
theorem readUntagged_whole (n : Wide) :
    readUntagged (.number (.whole n)) = .ok (ofInt n.val) := by
  change firstSuccess (_ :: (Decoder.integer .signed64 .buffer (.number (.whole n))).map integer ::
    .ok (real (.ofInt n.val)) :: _) = _
  unfold Decoder.integer ofInt
  dsimp only
  split_ifs with signed
  · rfl
  · rfl

/-- An object suits no case before the last one. -/
theorem readUntagged_object {members : List (String × Doc)} {stop : Option Malformation}
    (whole : (Doc.object members stop).refusal? = none) :
    readUntagged (.object members stop) = .ok (document (Doc.object members stop).value) := by
  have last : Decoder.json .buffer (.object members stop) =
      .ok (Doc.object members stop).value := by
    rw [Decoder.json, Doc.toJson, whole]
    rfl
  rw [readUntagged, attempts, last]
  · rfl
  · exact fun _ _ same => nomatch same

mutual

/-- The first case that a document suits is given by its form. -/
theorem readUntagged_eq : ∀ {d : Doc}, d.refusal? = none →
    readUntagged d = .ok (ofJson d.value)
  | .null, _ => rfl
  | .flag _, _ => rfl
  | .number (.whole n), _ => readUntagged_whole n
  | .number (.real _ _), _ => rfl
  | .single x finite, _ => by rw [Doc.value_single finite]; rfl
  | .string _, _ => rfl
  | .list items stop, whole => by
    have parts : Doc.itemsRefusal? items = none := (Option.or_eq_none_iff.1 whole).1
    rw [readUntagged, readAllUntagged_eq parts]
    rfl
  | .object _ _, whole => readUntagged_object whole
  | .refused _ _, whole => nomatch whole
  | .unnamed _ _, whole => nomatch whole
  | .broken _, whole => nomatch whole

theorem readAllUntagged_eq : ∀ {ds : List Doc}, Doc.itemsRefusal? ds = none →
    readAllUntagged ds = .ok (allOfJson (Doc.itemValues ds))
  | [], _ => rfl
  | d :: rest, whole => by
    obtain ⟨first, others⟩ := Option.or_eq_none_iff.1 whole
    rw [readAllUntagged, readUntagged_eq first, readAllUntagged_eq others]
    rfl

end

/-- Every document that has a value is read, and nothing else is. -/
theorem decoder_eq (m : Medium) (d : Doc) :
    decoder m d = (d.toJson.mapError .malformed).map ofJson := by
  unfold decoder Decoder.json Doc.toJson
  cases refused : d.refusal? with
  | some cause => rfl
  | none => exact readUntagged_eq refused

end Value

end Listing
