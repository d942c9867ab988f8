import Listing.Classification

/-!
# Remembered classifications

Types are registered under a name and do not change, so a classification can be
kept once it has been made.  A memo holds the classifications made so far, one for
each pair of a type name and a choice about inherited fields.  Calls come one after
another; that several threads may share a memo is left out.
-/

namespace Listing

/-- The classifications made so far. -/
structure ClassificationMemo where
  known : List ((String × Bool) × List FieldDescriptor)

namespace ClassificationMemo

/-- Nothing classified yet. -/
def empty : ClassificationMemo := ⟨[]⟩

/-- The classification of a type, remembered or made now, and the memo with it. -/
def classify (m : ClassificationMemo) (t : DeclaredType) (inherited : Bool) :
    List FieldDescriptor × ClassificationMemo :=
  let key := (t.own.typeName, inherited)
  match m.known.lookup key with
  | some fields => (fields, m)
  | none =>
    let fields := Listing.classify t inherited
    (fields, ⟨(key, fields) :: m.known⟩)

/-- Classify one type after another. -/
def classifyEach (m : ClassificationMemo) :
    List (DeclaredType × Bool) → List (List FieldDescriptor) × ClassificationMemo
  | [] => ([], m)
  | (t, inherited) :: rest =>
    let (fields, m) := m.classify t inherited
    let (others, m) := m.classifyEach rest
    (fields :: others, m)

end ClassificationMemo

end Listing
