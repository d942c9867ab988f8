import Mathlib
import Listing.Proofs.Visibility

/-!
# Where ranges are compiled and where they are accepted

Ranges are meant for numbers and times that are no identifiers and not hidden from filters.
Compilation asks less: it passes over a range only if the first visible field with its name is
an identifier.  A hidden declaration leaves its name without a visible field, so a range on
it is compiled like one on an unknown name, and a visible text is compared like a number.

* `Declaration.acceptsRanges` is what a declaration must be like to accept ranges;
* `compileRanges_acceptsRanges_iff` says for which ranges the criteria keep to such
  declarations;
* `onlyAcceptedRanges_iff` says for which types they do for all ranges, and
  `onlyAcceptedRanges_iff_of_distinct` says it of types that declare no name twice.
-/

namespace Listing

/-! ## Declarations that accept ranges -/

/-- The declaration accepts ranges: it has an ordered kind, and it is neither an identifier nor
hidden as transient or as the marker of a serialized version. -/
def Declaration.acceptsRanges (d : Declaration) : Bool :=
  d.kind.isRangeable && !(FieldDescriptor.ofDeclaration d).isIdentifier &&
    !d.has .transient && !versionMarkers.contains d.name

theorem Declaration.acceptsRanges_iff {d : Declaration} :
    d.acceptsRanges = true ↔ d.kind.isRangeable = true ∧
      (FieldDescriptor.ofDeclaration d).isIdentifier = false ∧ d.isExcluded = false := by
  simp [acceptsRanges, isExcluded, and_assoc]

/-- The type or one of its ancestors declares the name. -/
def IsDeclared (entity : DeclaredType) (name : String) : Prop :=
  ∃ d ∈ entity.all, d.name = name

/-- The name has a declaration that accepts ranges. -/
def AcceptsRanges (entity : DeclaredType) (name : String) : Prop :=
  ∃ d ∈ entity.all, d.name = name ∧ d.acceptsRanges = true

/-- The name belongs to an identifier, as far as compilation can see. -/
def IsPassedOver (entity : DeclaredType) (name : String) : Prop :=
  (findField entity name true).any (·.isIdentifier) = true

/-! ## Criteria on such declarations -/

/-- The criteria of ranges on declared names keep to names that accept ranges exactly if every
bounded range on a declared name does, apart from those that are passed over. -/
theorem compileRanges_acceptsRanges_iff (entity : DeclaredType) (ranges : RangeFilter) :
    (∀ c ∈ compileRanges entity ranges, IsDeclared entity c.field →
        AcceptsRanges entity c.field) ↔
      ∀ name range, (name, range) ∈ ranges.ranges.entries → range.IsBounded →
        IsDeclared entity name → IsPassedOver entity name ∨ AcceptsRanges entity name := by
  constructor
  · intro only name range entry bounded declared
    by_cases passed : IsPassedOver entity name
    · exact Or.inl passed
    · obtain ⟨c, leaf, rfl⟩ :=
        exists_compileRanges_iff.2 ⟨eq_false_of_ne_true passed, range, entry, bounded⟩
      exact Or.inr (only c leaf declared)
  · intro covered c leaf declared
    obtain ⟨kept, range, entry, bounded⟩ := exists_compileRanges_iff.1 ⟨c, leaf, rfl⟩
    rcases covered c.field range entry bounded declared with passed | accepts
    · rw [IsPassedOver, kept] at passed
      cases passed
    · exact accepts

/-- Whatever the ranges are, their criteria on declared names keep to names that accept
ranges. -/
def OnlyAcceptedRanges (entity : DeclaredType) : Prop :=
  ∀ ranges, ∀ c ∈ compileRanges entity ranges, IsDeclared entity c.field →
    AcceptsRanges entity c.field

/-- Ranges keep to names that accept them exactly if each declared name accepts them or is passed
over. -/
theorem onlyAcceptedRanges_iff {entity : DeclaredType} :
    OnlyAcceptedRanges entity ↔
      ∀ name, IsDeclared entity name → IsPassedOver entity name ∨ AcceptsRanges entity name := by
  rw [OnlyAcceptedRanges, forall_congr' (compileRanges_acceptsRanges_iff entity)]
  constructor
  · intro covered name declared
    -- A bound on the name alone shows what becomes of it.
    let range : Range := ⟨some (.flag true), none⟩
    have bounded : range.IsBounded := Or.inl ⟨.flag true, rfl, rfl⟩
    exact covered ⟨⟨[(name, range)], List.pairwise_singleton _ _⟩⟩ name range
      (List.mem_singleton_self _) bounded declared
  · intro covered _ name _ _ _ declared
    exact covered name declared

/-- Where no name is declared twice, compilation keeps to names that accept ranges exactly if
nothing is hidden and everything but identifiers is ordered. -/
theorem onlyAcceptedRanges_iff_of_distinct {entity : DeclaredType}
    (distinct : (entity.all.map (·.name)).Nodup) :
    OnlyAcceptedRanges entity ↔ ∀ d ∈ entity.all, d.isExcluded = false ∧
      ((FieldDescriptor.ofDeclaration d).isIdentifier = true ∨ d.kind.isRangeable = true) := by
  have unique := List.inj_on_of_nodup_map distinct
  rw [onlyAcceptedRanges_iff]
  constructor
  · intro covered d declared
    rcases covered d.name ⟨d, declared, rfl⟩ with passed | ⟨d', declared', named, accepts⟩
    · obtain ⟨f, found, identifier⟩ := (Option.any_eq_true _ _).1 passed
      obtain ⟨visible, named⟩ := mem_of_findField found
      obtain ⟨d', declared', shown, rfl⟩ := mem_classify.1 visible
      obtain rfl := unique declared' declared named
      exact ⟨shown, Or.inl identifier⟩
    · obtain rfl := unique declared' declared named
      obtain ⟨ordered, -, shown⟩ := Declaration.acceptsRanges_iff.1 accepts
      exact ⟨shown, Or.inr ordered⟩
  · rintro covered name ⟨d, declared, rfl⟩
    obtain ⟨shown, kind⟩ := covered d declared
    have visible : FieldDescriptor.ofDeclaration d ∈ classify entity true :=
      mem_classify.2 ⟨d, declared, shown, rfl⟩
    cases identifier : (FieldDescriptor.ofDeclaration d).isIdentifier with
    | true =>
      have found : findField entity d.name true = some (.ofDeclaration d) :=
        findField_of_mem distinct visible
      exact Or.inl (by rw [IsPassedOver, found]; exact identifier)
    | false =>
      have ordered := kind.resolve_left (ne_true_of_eq_false identifier)
      refine Or.inr ⟨d, declared, rfl, ?_⟩
      exact Declaration.acceptsRanges_iff.2 ⟨ordered, identifier, shown⟩

/-- Compilation keeps to names that accept ranges exactly as far as it passes over all other
declared names: those with a bounded range when it is about given ranges, and all of them when
it is about a type. -/
theorem compileRanges_policy (entity : DeclaredType) :
    (∀ ranges : RangeFilter,
      (∀ c ∈ compileRanges entity ranges, IsDeclared entity c.field →
          AcceptsRanges entity c.field) ↔
        ∀ name range, (name, range) ∈ ranges.ranges.entries → range.IsBounded →
          IsDeclared entity name → IsPassedOver entity name ∨ AcceptsRanges entity name) ∧
    (OnlyAcceptedRanges entity ↔
      ∀ name, IsDeclared entity name → IsPassedOver entity name ∨ AcceptsRanges entity name) :=
  ⟨compileRanges_acceptsRanges_iff entity, onlyAcceptedRanges_iff⟩

/-- A discount that is kept from filters. -/
def promotion : DeclaredType := .single "Promotion" [⟨"discount", .number false, [.transient]⟩]

/-- The range of promotions with a discount of at least one. -/
def discounted : RangeFilter :=
  ⟨⟨[("discount", ⟨some (.integer ⟨1, by decide⟩), none⟩)], List.pairwise_singleton _ _⟩⟩

/-- A range on a hidden number is compiled. -/
theorem compileRanges_promotion :
    compileRanges promotion discounted = [.atLeast "discount" (.integer ⟨1, by decide⟩)] ∧
      IsDeclared promotion "discount" ∧ ¬ AcceptsRanges promotion "discount" := by
  refine ⟨rfl, ⟨_, List.mem_singleton_self _, rfl⟩, ?_⟩
  rintro ⟨d, declared, -, accepts⟩
  obtain rfl := List.mem_singleton.1 declared
  exact absurd accepts (by decide)

end Listing
