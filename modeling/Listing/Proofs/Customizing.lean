import Mathlib
import Listing.Proofs.Documentation
import Listing.Proofs.Shadowing

/-!
# Customized operations

Customizing an operation takes its query parameters away and puts those of a type of filters in
their place.  Everything that is put there is a query parameter itself, so that customizing again
takes away exactly that, and nothing of the operation can be told from its query parameters
afterwards.

What is put there is not always told apart by its name: each visible declaration of a field
brings its own parameters, also where a type declares the name of an ancestor's field again.

* `isQuery_of_mem_describe` is the fact behind all others, and `customize_projection` the law;
* `count_queryNames` counts the parameters with the name of a field's parameter, and
  `customize_unique_iff` concludes when all names are different.
-/

namespace Listing

/-! ## Query parameters and others -/

theorem isQuery_of_mem_commonParameters :
    ∀ p ∈ commonParameters, p.isQuery = true := by
  simp [commonParameters, ParameterDescriptor.query, ParameterDescriptor.isQuery]

theorem isQuery_of_mem_describeField {f : FieldDescriptor} {p : ParameterDescriptor}
    (described : p ∈ describeField f) : p.isQuery = true := by
  unfold describeField at described
  split at described
  · cases described
  · split at described
    · obtain rfl := List.mem_singleton.1 described
      rfl
    · rcases List.mem_cons.1 described with rfl | bound
      · rfl
      · rcases List.mem_pair.1 bound with rfl | rfl <;> rfl

/-- Everything that is described of a type is carried in the query. -/
theorem isQuery_of_mem_describe {t : DeclaredType} {p : ParameterDescriptor}
    (described : p ∈ describe t) : p.isQuery = true := by
  rcases List.mem_append.1 described with common | field
  · exact isQuery_of_mem_commonParameters p common
  · obtain ⟨f, -, described⟩ := List.mem_flatMap.1 field
    exact isQuery_of_mem_describeField described

section Parts

variable (existing : List ParameterDescriptor) (t : DeclaredType)

theorem filter_isQuery_customize :
    (customize existing (some t)).filter (·.isQuery) = describe t := by
  have kept : (existing.filter (!·.isQuery)).filter (·.isQuery) = [] := by
    refine List.filter_eq_nil_iff.2 fun p member => ?_
    simpa using (List.mem_filter.1 member).2
  have described : (describe t).filter (·.isQuery) = describe t :=
    List.filter_eq_self.2 fun p => isQuery_of_mem_describe
  rw [customize, List.filter_append, kept, described, List.nil_append]

theorem filter_not_isQuery_customize :
    (customize existing (some t)).filter (!·.isQuery) = existing.filter (!·.isQuery) := by
  have described : (describe t).filter (!·.isQuery) = [] := by
    refine List.filter_eq_nil_iff.2 fun p member => ?_
    simpa using isQuery_of_mem_describe member
  rw [customize, List.filter_append, described, List.append_nil, List.filter_filter]
  simp only [Bool.and_self]

end Parts

/-- Of two types the later one counts, if there is one. -/
theorem customize_customize (existing : List ParameterDescriptor) (a b : Option DeclaredType) :
    customize (customize existing a) b = customize existing (b.or a) := by
  cases b with
  | none => rfl
  | some b =>
    cases a with
    | none => rfl
    | some a =>
      change (customize existing (some a)).filter (!·.isQuery) ++ describe b = _
      rw [filter_not_isQuery_customize]
      rfl

/-- **Customizing is a projection** that keeps everything but query parameters: customizing again
undoes what was done before; without a type nothing happens; the parameters that are not carried in
the query stay as they are, in their order and in front; and the query parameters are those of the
type, in their order, whatever was there before. -/
theorem customize_projection (existing : List ParameterDescriptor) (a b : DeclaredType) :
    customize (customize existing (some a)) (some b) = customize existing (some b) ∧
      customize existing none = existing ∧
      (customize existing (some a)).filter (!·.isQuery) = existing.filter (!·.isQuery) ∧
      existing.filter (!·.isQuery) <+: customize existing (some a) ∧
      (customize existing (some a)).filter (·.isQuery) = describe a :=
  ⟨customize_customize existing (some a) (some b), rfl, filter_not_isQuery_customize existing a,
    List.prefix_append _ _, filter_isQuery_customize existing a⟩

/-! ## Names of query parameters -/

/-- The names of the query parameters of an operation. -/
def queryNames (parameters : List ParameterDescriptor) : List String :=
  (parameters.filter (·.isQuery)).map (·.name)

/-- The names of the query parameters are those that are described of the type. -/
theorem queryNames_customize (existing : List ParameterDescriptor) (t : DeclaredType) :
    queryNames (customize existing (some t)) = (describe t).map (·.name) := by
  rw [queryNames, filter_isQuery_customize]

/-- The parameters that a declaration brings: none if it is hidden. -/
def Declaration.parameters (d : Declaration) : List FieldParameter :=
  if d.isExcluded then [] else (FieldDescriptor.ofDeclaration d).parameters

theorem Declaration.nodup_parameters (d : Declaration) : d.parameters.Nodup := by
  unfold parameters
  split
  · exact List.nodup_nil
  · exact FieldDescriptor.nodup_parameters _

/-- A declaration with any parameter has one for the value. -/
theorem Declaration.exact_mem_parameters {d : Declaration} {p : FieldParameter}
    (has : p ∈ d.parameters) : .exact ∈ d.parameters := by
  unfold parameters FieldDescriptor.parameters at has ⊢
  split_ifs at has ⊢
  · cases has
  · cases has
  · exact List.mem_cons_self
  · exact List.mem_cons_self

/-- The described names are the common ones and those of each declaration, in turn. -/
theorem map_name_describe_eq_flatMap (t : DeclaredType) :
    (describe t).map (·.name) = commonParameters.map (·.name) ++
      t.all.flatMap fun d => d.parameters.map (·.name d.name) := by
  rw [map_name_describe, classify, classifyAll, List.flatMap_map, Chain.upTo, if_pos rfl]
  congr 1
  induction t.all with
  | nil => rfl
  | cons d ds ih =>
    rw [List.flatMap_cons, ← ih, Declaration.parameters]
    cases hidden : d.isExcluded <;> simp [hidden, FieldDescriptor.ofDeclaration]

/-- The parameters of one declaration have different names. -/
theorem count_parameters (d : Declaration) (p : FieldParameter) (field : String) :
    (d.parameters.map (·.name d.name)).count (p.name field) =
      if d.name = field ∧ p ∈ d.parameters then 1 else 0 := by
  have distinct : (d.parameters.map (·.name d.name)).Nodup :=
    d.nodup_parameters.map fun p p' same => (FieldParameter.name_inj.1 same).1
  have owns : p.name field ∈ d.parameters.map (·.name d.name) ↔
      d.name = field ∧ p ∈ d.parameters := by
    rw [List.mem_map]
    constructor
    · intro owned
      obtain ⟨p', has, same⟩ := owned
      obtain ⟨rfl, named⟩ := FieldParameter.name_inj.1 same
      exact ⟨named, has⟩
    · intro owned
      exact ⟨p, owned.2, congrArg p.name owned.1⟩
  rw [distinct.count]
  exact if_congr owns rfl rfl

/-- Every declaration of a field's name brings its own parameters. -/
theorem count_flatMap_parameters (ds : List Declaration) (p : FieldParameter) (field : String) :
    (ds.flatMap fun d => d.parameters.map (·.name d.name)).count (p.name field) =
      (ds.filter (·.name = field)).countP (p ∈ ·.parameters) := by
  rw [List.countP_filter]
  induction ds with
  | nil => rfl
  | cons d ds ih =>
    rw [List.flatMap_cons, List.count_append, count_parameters, ih, List.countP_cons, Nat.add_comm]
    simp only [Bool.and_eq_true, decide_eq_true_eq, and_comm]

/-- As many query parameters have the name of a field's parameter as there are declarations of the
field with it. -/
theorem count_queryNames (existing : List ParameterDescriptor) (t : DeclaredType)
    (p : FieldParameter) (field : String) :
    (queryNames (customize existing (some t))).count (p.name field) =
      (t.declarations true field).countP (p ∈ ·.parameters) := by
  have common : (commonParameters.map (·.name)).count (p.name field) = 0 :=
    List.count_eq_zero.2 (name_notMem_commonParameters p field)
  rw [queryNames_customize, map_name_describe_eq_flatMap, List.count_append, common, Nat.zero_add,
    count_flatMap_parameters]
  rfl

/-- No field has the name of a parameter that every listing takes. -/
theorem count_queryNames_common (existing : List ParameterDescriptor) (t : DeclaredType)
    {name : String} (common : name ∈ commonParameters.map (·.name)) :
    (queryNames (customize existing (some t))).count name = 1 := by
  have fields : name ∉ t.all.flatMap fun d => d.parameters.map (·.name d.name) := by
    intro described
    obtain ⟨d, -, has⟩ := List.mem_flatMap.1 described
    obtain ⟨p, -, rfl⟩ := List.mem_map.1 has
    exact name_notMem_commonParameters p d.name common
  have distinct : (commonParameters.map (·.name)).Nodup := by decide
  rw [queryNames_customize, map_name_describe_eq_flatMap, List.count_append,
    List.count_eq_zero.2 fields, List.count_eq_one_of_mem distinct common]

/-- No two query parameters have one name exactly if no two declarations bring a parameter for one
field. -/
theorem nodup_queryNames_iff (existing : List ParameterDescriptor) (t : DeclaredType) :
    (queryNames (customize existing (some t))).Nodup ↔
      ∀ field, (t.declarations true field).countP (.exact ∈ ·.parameters) ≤ 1 := by
  rw [List.nodup_iff_count_le_one]
  constructor
  · intro single field
    rw [← count_queryNames existing]
    exact single _
  · intro single name
    by_cases present : name ∈ queryNames (customize existing (some t))
    · rw [queryNames_customize, map_name_describe_eq_flatMap] at present
      rcases List.mem_append.1 present with common | described
      · exact (count_queryNames_common existing t common).le
      · obtain ⟨d, -, has⟩ := List.mem_flatMap.1 described
        obtain ⟨p, -, rfl⟩ := List.mem_map.1 has
        rw [count_queryNames]
        refine (List.countP_mono_left fun d _ owns => ?_).trans (single d.name)
        exact decide_eq_true (d.exact_mem_parameters (of_decide_eq_true owns))
    · rw [List.count_eq_zero.2 present]
      exact Nat.zero_le 1

/-- **A field is documented once for every visible declaration of its name** that is not an
identifier kept from filters, whatever the operation had before.  So all query parameters have
different names exactly if no name is documented by two declarations of the chain, as on every type
that declares no name twice. -/
theorem customize_unique_iff (existing : List ParameterDescriptor) (t : DeclaredType) :
    (∀ p field, (queryNames (customize existing (some t))).count (p.name field) =
        (t.declarations true field).countP (p ∈ ·.parameters)) ∧
      ((queryNames (customize existing (some t))).Nodup ↔
        ∀ field, (t.declarations true field).countP (.exact ∈ ·.parameters) ≤ 1) ∧
      ((t.all.map (·.name)).Nodup → (queryNames (customize existing (some t))).Nodup) := by
  refine ⟨count_queryNames existing t, nodup_queryNames_iff existing t, fun distinct => ?_⟩
  rw [queryNames_customize]
  exact nodup_map_name_describe distinct

theorem nodup_queryNames_customer :
    (customer.all.map (·.name)).Nodup ∧
      (queryNames (customize commonParameters (some customer))).Nodup := by
  have distinct : (customer.all.map (·.name)).Nodup := by decide
  obtain ⟨-, -, unique⟩ := customize_unique_iff commonParameters customer
  exact ⟨distinct, unique distinct⟩

/-- Shipments have an owner, as all assets have. -/
def ownedShipment : DeclaredType :=
  .extending (.single "Asset" [⟨"created_at", .temporal, []⟩, ⟨"owner", .text, []⟩])
    "Shipment" [⟨"owner", .text, []⟩, ⟨"weight", .number false, []⟩]

/-- The owner is documented twice. -/
theorem queryNames_ownedShipment :
    (queryNames (customize [] (some ownedShipment))).count "filters.owner" = 2 ∧
      ¬ ∀ existing t, (queryNames (customize existing (some t))).Nodup := by
  have twice : (ownedShipment.declarations true "owner").countP (.exact ∈ ·.parameters) = 2 := by
    decide
  refine ⟨(count_queryNames [] ownedShipment .exact "owner").trans twice, fun unique => ?_⟩
  have once := (nodup_queryNames_iff [] ownedShipment).1 (unique [] ownedShipment) "owner"
  rw [twice] at once
  exact absurd once (by decide)

end Listing
