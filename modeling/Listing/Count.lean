import Listing.Json.Decoding

/-!
# Counts

Page numbers, sizes and totals are numbers of 64 bits without a sign.  Where a result
would exceed them, the greatest count stands for it.
-/

namespace Listing

/-- A number of 64 bits without a sign. -/
abbrev Count : Type := { n : Nat // n < 18446744073709551616 }

namespace Count

/-- The count nearest to a number. -/
def saturating (n : Nat) : Count :=
  ⟨min n 18446744073709551615, by have := Nat.min_le_right n 18446744073709551615; omega⟩

/-- The document of a count. -/
def toDoc (n : Count) : Doc :=
  .number (.whole ⟨n.val, by have := n.property; omega⟩)

/-- An integer without a sign as a count. -/
def ofBounded (n : Bounded .unsigned64) : Count :=
  ⟨n.val.toNat, by
    have h := n.property
    simp only [IntegerWidth.Holds, IntegerWidth.least, IntegerWidth.greatest] at h
    omega⟩

/-- Read a count from a document. -/
def decoder : Decoder Count := (Decoder.integer .unsigned64).map ofBounded

/-- Read a count from a text. -/
def read (s : String) : Except IntegerFault Count := (IntegerWidth.unsigned64.read s).map ofBounded

end Count

end Listing
