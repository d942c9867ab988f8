import Mathlib
import Listing.Proofs.DocumentedBinding
import Listing.Proofs.RangeDocuments
import Listing.Proofs.Rendering
import Listing.Proofs.Visibility

/-!
# Bounds that are sent as texts

A bound comes as a text, whether in a query or in a document.  Binding a query reads it as the
kind of the filter's field says; what comes in a document stays a text until compilation reads it
as the kind of the record's field.  Where the two kinds agree it makes no difference which way the
bounds came, for reading a bound that has been read already changes nothing.

* `coerceBound_coerceBound` and `compileRanges_typed` say that bounds are not read twice;
* `TextBound.ranges` are the ranges of a document that carries bounds as texts, and
  `TextBound.foldl_bound` says that binding makes of the same bounds what reading makes of those;
* `FilterRequest.compile_textBounds` is the theorem about all bounds.
-/

namespace Listing

/-! ## Reading a bound once -/

/-- What is read as a number or as a time is neither a text nor null. -/
theorem Value.ne_text_of_parseAs {kind : Kind} {raw : String} {v : Value}
    (ordered : kind.isRangeable = true) (parsed : parseAs kind raw = .ok v) :
    (∀ s, v ≠ text s) ∧ v.isNull = false := by
  unfold parseAs at parsed
  cases kind with
  | number integral =>
    cases integral <;>
    · obtain ⟨x, -, rfl⟩ := map_eq_ok.1 (mapError_eq_ok.1 parsed)
      exact ⟨nofun, rfl⟩
  | temporal =>
    dsimp only at parsed
    split at parsed
    · cases parsed
      exact ⟨nofun, rfl⟩
    · cases parsed
  | text | flag | choice | collection | array | other => cases ordered

section Coercion

variable {kind : Option Kind}

theorem coerceBound_of_ne_text {v : Value} (typed : ∀ s, v ≠ .text s) : coerceBound kind v = v := by
  unfold coerceBound
  split
  · exact absurd rfl (typed _)
  · rfl

theorem coerceBound_text {k : Kind} {raw : String} {v : Value} (ordered : k.isRangeable = true)
    (parsed : Value.parseAs k raw = .ok v) : coerceBound (some k) (.text raw) = v := by
  rw [coerceBound, if_pos ordered, parsed]

/-- A bound stays as it is, or is read as something that is no text. -/
theorem coerceBound_cases (kind : Option Kind) (v : Value) :
    coerceBound kind v = v ∨
      ((∀ s, coerceBound kind v ≠ .text s) ∧ (coerceBound kind v).isNull = false ∧
        v.isNull = false) := by
  unfold coerceBound
  split
  · split_ifs with ordered
    · split
      · rename_i parsed
        obtain ⟨typed, present⟩ := Value.ne_text_of_parseAs ordered parsed
        exact Or.inr ⟨typed, present, rfl⟩
      · exact Or.inl rfl
    · exact Or.inl rfl
  · exact Or.inl rfl

/-- A bound that has been read is not read again. -/
theorem coerceBound_coerceBound (kind : Option Kind) (v : Value) :
    coerceBound kind (coerceBound kind v) = coerceBound kind v := by
  rcases coerceBound_cases kind v with same | ⟨typed, -⟩
  · rw [same, same]
  · exact coerceBound_of_ne_text typed

/-- A bound is null after it is read exactly if it was before. -/
theorem isNull_coerceBound (kind : Option Kind) (v : Value) :
    (coerceBound kind v).isNull = v.isNull := by
  rcases coerceBound_cases kind v with same | ⟨-, present, present'⟩
  · rw [same]
  · rw [present, present']

theorem bound?_map_coerceBound (kind : Option Kind) (value : Option Value) :
    bound? kind (value.map (coerceBound kind)) = bound? kind value := by
  cases value with
  | none => rfl
  | some v =>
    rw [bound?, bound?, Option.map_some, Option.filter_some, Option.filter_some,
      isNull_coerceBound]
    split_ifs
    · exact congrArg some (coerceBound_coerceBound kind v)
    · rfl

end Coercion

/-! ## Reading all bounds -/

/-- The kind of the first visible field with a name. -/
def kindOf? (entity : DeclaredType) (name : String) : Option Kind :=
  (findField entity name true).map (·.kind)

/-- The range with its textual bounds read as values of a kind. -/
def Range.typed (kind : Option Kind) (r : Range) : Range :=
  ⟨r.low.map (coerceBound kind), r.high.map (coerceBound kind)⟩

/-- The ranges with their textual bounds read as the fields of the records have it. -/
def RangeFilter.typed (entity : DeclaredType) (ranges : RangeFilter) : RangeFilter :=
  ⟨ranges.ranges.mapValues fun name range => range.typed (kindOf? entity name)⟩

theorem Range.typed_set (kind : Option Kind) (r : Range) (side : BoundSide) (v : Value) :
    (r.set side v).typed kind = (r.typed kind).set side (coerceBound kind v) := by
  cases side <;> rfl

/-- A range whose bounds were read gives the same criterion. -/
theorem compileRange_typed (name : String) (range : Range) (kind : Option Kind) :
    compileRange name (range.typed kind) kind = compileRange name range kind := by
  unfold compileRange Range.typed
  rw [bound?_map_coerceBound, bound?_map_coerceBound]

section Ranges

variable (entity : DeclaredType) (ranges : RangeFilter)

/-- Compilation makes the same of bounds that have been read. -/
theorem compileRanges_typed :
    compileRanges entity (ranges.typed entity) = compileRanges entity ranges := by
  unfold compileRanges RangeFilter.typed Keyed.mapValues
  rw [List.filterMap_map]
  refine List.filterMap_congr fun e _ => ?_
  exact congrArg (ite _ none) (compileRange_typed e.1 e.2 (kindOf? entity e.1))

theorem RangeFilter.get_typed (field : String) :
    (ranges.typed entity).get field = (ranges.get field).typed (kindOf? entity field) := by
  rw [get, typed, Keyed.get?_mapValues, get]
  cases ranges.ranges.get? field <;> rfl

/-- A bound of ranges can be read before it is set or afterwards. -/
theorem RangeFilter.typed_bounded (field : String) (side : BoundSide) (v : Value) :
    (ranges.bounded field side v).typed entity =
      (ranges.typed entity).bounded field side (coerceBound (kindOf? entity field) v) := by
  rw [bounded, bounded, get_typed, ← Range.typed_set]
  exact congrArg mk (Keyed.mapValues_insert ..)

end Ranges

theorem RangeFilter.get_of_mem {ranges : RangeFilter} {name : String} {range : Range}
    (entry : (name, range) ∈ ranges.ranges.entries) : ranges.get name = range := by
  rw [get, Keyed.get?, (lookup_eq_some_iff_of_increasing ranges.ranges.increasing).2 entry,
    Option.getD_some]

/-- What compilation makes of a range has the bounds of the range, as the kind has them read. -/
theorem exists_bound_of_mem_params {name : String} {range : Range} {kind : Option Kind}
    {c : Criterion} (ok : compileRange name range kind = some c) {v : Value}
    (member : v ∈ Sql.params c) :
    ∃ side w, range.bound side = some w ∧ v = coerceBound kind w := by
  have bounds {value : Option Value} {v : Value} (ok : bound? kind value = some v) :
      ∃ w, value = some w ∧ v = coerceBound kind w := by
    obtain ⟨w, kept, rfl⟩ := Option.map_eq_some_iff.1 ok
    exact ⟨w, (Option.filter_eq_some_iff.1 kept).1, rfl⟩
  unfold compileRange at ok
  split at ok
  · rename_i low high below above
    cases ok
    rcases List.mem_pair.1 member with rfl | rfl
    · exact ⟨.low, bounds below⟩
    · exact ⟨.high, bounds above⟩
  · rename_i low below above
    cases ok
    obtain rfl := List.mem_singleton.1 member
    exact ⟨.low, bounds below⟩
  · rename_i high below above
    cases ok
    obtain rfl := List.mem_singleton.1 member
    exact ⟨.high, bounds above⟩
  · cases ok

/-! ## Texts as bounds -/

/-- All bounds of the range are texts. -/
def Range.IsTextual (r : Range) : Prop := ∀ side v, r.bound side = some v → ∃ s, v = .text s

/-- A bound as a client sends it. -/
structure TextBound where
  field : String
  side : BoundSide
  raw : String

namespace TextBound

/-- The parameter of a query that sends the bound. -/
def parameter (b : TextBound) : String × String := (b.side.parameter.name b.field, b.raw)

/-- Add the text to ranges. -/
def addTo (ranges : RangeFilter) (b : TextBound) : RangeFilter :=
  ranges.bounded b.field b.side (.text b.raw)

/-- The ranges of a document that carries the texts; the last one for a bound counts. -/
def ranges (bs : List TextBound) : RangeFilter := bs.foldl addTo .empty

/-- The text suits the field: filters and records both show one with the name, of the same kind,
and the text can be read as a value of this kind. -/
structure Suits (filter entity : DeclaredType) (b : TextBound) : Prop where
  /-- The text is not passed over. -/
  more : Text.isBlankOnly b.raw = false
  /-- The name can be told from what follows it. -/
  plain : ']' ∉ b.field.toList
  typed : ∃ f e, findField filter b.field true = some f ∧ findField entity b.field true = some e ∧
    f.kind = e.kind ∧ f.kind.isRangeable = true ∧ ∃ v, Value.parseAs f.kind b.raw = .ok v

variable {schema : Schema} {entity : DeclaredType} {b : TextBound} {bs : List TextBound}

/-- Compilation reads the text. -/
theorem Suits.coerceBound_ne_text (suits : b.Suits schema.declared entity) (s : String) :
    coerceBound (kindOf? entity b.field) (.text b.raw) ≠ .text s := by
  obtain ⟨f, e, -, found, same, ordered, v, parsed⟩ := suits.typed
  rw [kindOf?, found, Option.map_some, ← same, coerceBound_text ordered parsed]
  exact (Value.ne_text_of_parseAs ordered parsed).1 s

/-- Binding reads the text as compilation does. -/
theorem Suits.read (suits : b.Suits schema.declared entity) :
    Setting.read schema b.parameter.2 (.ofName b.parameter.1) = .ok (some
      (.bound b.field b.side (coerceBound (kindOf? entity b.field) (.text b.raw)))) := by
  obtain ⟨f, e, first, found, same, ordered, v, parsed⟩ := suits.typed
  have kind : kindOf? entity b.field = some f.kind := by rw [kindOf?, found, Option.map_some, same]
  have read : FilterRequest.readBound schema b.field b.raw = .ok v := by
    rw [FilterRequest.readBound, first]
    dsimp only
    rw [if_pos ordered, parsed]
    rfl
  rw [kind, coerceBound_text ordered parsed, parameter, Target.ofName_parameter,
    Setting.read_eq_ok_iff]
  exact .bound (Text.cutAt?_bound suits.plain b.side) read (BoundSide.ofName?_eq_some_iff.2 rfl)

theorem Suits.isReadable (suits : b.Suits schema.declared entity) :
    FilterRequest.IsReadable schema b.parameter :=
  fun _ => ⟨_, suits.read⟩

/-- A bound in a query sets what the text in a document sets, read. -/
theorem Suits.bound (suits : b.Suits schema.declared entity) {r : FilterRequest}
    {ranges : RangeFilter} (start : r.rangesSoFar = ranges.typed entity) :
    r.bound schema b.parameter = { r with ranges := some ((addTo ranges b).typed entity) } := by
  have counts : FilterRequest.Counts b.parameter := suits.more
  rw [FilterRequest.bound_of_read_some counts suits.read, Setting.apply, start, addTo,
    RangeFilter.typed_bounded]

/-- Bounds in a query leave the filter alone and give the ranges of the document, read. -/
theorem foldl_bound (suit : ∀ b ∈ bs, b.Suits schema.declared entity) {r : FilterRequest}
    {ranges : RangeFilter} (start : r.rangesSoFar = ranges.typed entity) :
    let bound := (bs.map parameter).foldl (FilterRequest.bound schema) r
    bound.filter = r.filter ∧ bound.rangesSoFar = (bs.foldl addTo ranges).typed entity := by
  induction bs generalizing r ranges with
  | nil => exact ⟨rfl, start⟩
  | cons b rest ih =>
    obtain ⟨first, others⟩ := List.forall_mem_cons.1 suit
    rw [List.map_cons, List.foldl_cons, List.foldl_cons, first.bound start]
    exact ih others rfl

/-- The bounds of the document are the texts. -/
theorem exists_mem_of_bound {field : String} {side : BoundSide} {v : Value}
    (bounded : ((ranges bs).get field).bound side = some v) :
    ∃ b ∈ bs, b.field = field ∧ v = .text b.raw := by
  induction bs using List.reverseRecOn with
  | nil => cases side <;> cases bounded
  | append_singleton front last ih =>
    rw [ranges, List.foldl_append, ← ranges, List.foldl_cons, List.foldl_nil, addTo,
      RangeFilter.get_bounded] at bounded
    have before (bounded : ((ranges front).get field).bound side = some v) :
        ∃ b ∈ front ++ [last], b.field = field ∧ v = .text b.raw := by
      obtain ⟨b, member, found⟩ := ih bounded
      exact ⟨b, List.mem_append_left _ member, found⟩
    split_ifs at bounded with here
    · subst here
      by_cases same : last.side = side
      · subst same
        rw [Range.bound_set] at bounded
        exact ⟨last, List.mem_append_right _ (List.mem_singleton_self last), rfl,
          (Option.some.inj bounded).symm⟩
      · rw [Range.bound_set_of_ne same] at bounded
        exact before bounded
    · exact before bounded

/-- The ranges of a document with texts have nothing but texts as bounds. -/
theorem isTextual_ranges : ∀ e ∈ (ranges bs).ranges.entries, e.2.IsTextual := by
  intro e entry side v bounded
  obtain ⟨b, -, -, text⟩ := exists_mem_of_bound (RangeFilter.get_of_mem entry ▸ bounded)
  exact ⟨b.raw, text⟩

/-- No criterion of the document has a text for a bound. -/
theorem ne_text_of_mem_compileRanges (suit : ∀ b ∈ bs, b.Suits schema.declared entity)
    {c : Criterion} (leaf : c ∈ compileRanges entity (ranges bs)) {v : Value}
    (member : v ∈ Sql.params c) (s : String) : v ≠ .text s := by
  obtain ⟨name, range, entry, -, ok⟩ := mem_compileRanges.1 leaf
  obtain ⟨side, w, bounded, rfl⟩ := exists_bound_of_mem_params ok member
  obtain ⟨b, sent, rfl, rfl⟩ := exists_mem_of_bound (RangeFilter.get_of_mem entry ▸ bounded)
  exact (suit b sent).coerceBound_ne_text s

end TextBound

/-! ## Texts in a document -/

/-- A text is written as a text, and stands for itself. -/
theorem Range.IsTextual.boundDoc_eq {r : Range} (textual : r.IsTextual) (side : BoundSide) :
    (boundDoc (r.bound side)).IsPlain ∧ (boundDoc (r.bound side)).bound = r.bound side := by
  cases bounded : r.bound side with
  | none => exact ⟨.null, rfl⟩
  | some v =>
    obtain ⟨s, rfl⟩ := textual side v bounded
    exact ⟨.string s, rfl⟩

theorem Range.IsTextual.isPlain {r : Range} (textual : r.IsTextual) : r.IsPlain :=
  fun side => (textual.boundDoc_eq side).1

theorem Range.IsTextual.stored_eq {r : Range} (textual : r.IsTextual) : r.stored = r :=
  congrArg₂ Range.mk (textual.boundDoc_eq .low).2 (textual.boundDoc_eq .high).2

/-- Ranges of texts come through a document. -/
theorem RangeFilter.decoder_toDoc_of_isTextual {ranges : RangeFilter}
    (textual : ∀ e ∈ ranges.ranges.entries, e.2.IsTextual) (m : Medium) :
    decoder m ranges.toDoc = .ok ranges := by
  have same : ranges.stored = ranges := by
    refine congrArg mk (Keyed.ext_get? fun name => ?_)
    rw [Keyed.get?_mapValues]
    cases found : ranges.ranges.get? name with
    | none => rfl
    | some range =>
      have entry := (lookup_eq_some_iff_of_increasing ranges.ranges.increasing).1 found
      exact congrArg some (textual _ entry).stored_eq
  rw [decoder_toDoc (fun e member => (textual e member).isPlain), same]

namespace FilterRequest

/-- The request with nothing but ranges. -/
def ofRanges (ranges : RangeFilter) : FilterRequest := { empty with ranges := some ranges }

/-- A request with nothing but texts as bounds comes back as it was. -/
theorem decoder_toDoc_ofRanges {ranges : RangeFilter}
    (textual : ∀ e ∈ ranges.ranges.entries, e.2.IsTextual) (schema : Schema) (m : Medium) :
    decoder schema m (ofRanges ranges).toDoc = .ok (ofRanges ranges) := by
  refine Decoder.structured_ofMembers
    (f := ⟨ofRanges ranges, ["options", "pagination", "rangeFilters", "filters"], []⟩) ?_ rfl
  refine bind_eq_ok.2 ⟨⟨empty, ["filters"], []⟩, rfl, ?_⟩
  refine bind_eq_ok.2 ⟨⟨ofRanges ranges, ["rangeFilters", "filters"], []⟩, ?_, rfl⟩
  change (within (.member "rangeFilters")
    (((RangeFilter.decoder m ranges.toDoc).map _).map _) >>= _) = _
  rw [RangeFilter.decoder_toDoc_of_isTextual textual]
  rfl

/-- It makes no difference whether a section of ranges is missing or empty. -/
theorem compile_ranges (r : FilterRequest) (entity : DeclaredType) (options : FilterOptions) :
    compile (r.filter.map Filter.view) r.ranges entity options =
      compile (r.filter.map Filter.view) (some r.rangesSoFar) entity options := by
  unfold rangesSoFar
  cases r.ranges <;> rfl

/-- **A query and a document compile alike.**  Take any bounds on fields that filters and records
show with one kind, numbers or times, each a text that can be read as this kind.  The parameters
that send them are bound, the document that carries them as texts is read, and both requests
compile to the same criteria with all options; none of these has a text for a bound. -/
theorem compile_textBounds (schema : Schema) (entity : DeclaredType) (bs : List TextBound)
    (suit : ∀ b ∈ bs, b.Suits schema.declared entity) :
    let sent := ofRanges (TextBound.ranges bs)
    (∀ m, decoder schema m sent.toDoc = .ok sent) ∧
      ∃ bound, ofParameters schema (bs.map TextBound.parameter) = .ok bound ∧
        ∀ options,
          compile (bound.filter.map Filter.view) bound.ranges entity options =
            compile (sent.filter.map Filter.view) sent.ranges entity options ∧
          ∀ c ∈ compile (bound.filter.map Filter.view) bound.ranges entity options,
            ∀ v ∈ Sql.params c, ∀ s, v ≠ .text s := by
  intro sent
  have readable : ∀ p ∈ bs.map TextBound.parameter, IsReadable schema p :=
    List.forall_mem_map.2 fun b member => (suit b member).isReadable
  have start : empty.rangesSoFar = RangeFilter.typed entity .empty := rfl
  obtain ⟨filter, ranges⟩ := TextBound.foldl_bound suit start
  refine ⟨decoder_toDoc_ofRanges TextBound.isTextual_ranges schema, _,
    ofParameters_eq_ok_iff.2 ⟨readable, rfl⟩, fun options => ?_⟩
  have criteria : compile (sent.filter.map Filter.view) sent.ranges entity options =
      compileRanges entity (TextBound.ranges bs) := rfl
  rw [compile_ranges, filter, ranges, criteria]
  change compileRanges entity _ = _ ∧ ∀ c ∈ compileRanges entity _, _
  rw [compileRanges_typed]
  exact ⟨rfl, fun c leaf v member => TextBound.ne_text_of_mem_compileRanges suit leaf member⟩

/-- Cities of some size, and those that are old enough. -/
def someCities : List TextBound :=
  [⟨"population", .low, " 12 "⟩, ⟨"founded", .high, "1900-01-01"⟩, ⟨"population", .high, "+500"⟩]

theorem compile_textBounds_someCities :
    (∀ b ∈ someCities, b.Suits Catalogue.cityFilter.declared Catalogue.city.declared) ∧
      ∃ bound, ofParameters Catalogue.cityFilter (someCities.map TextBound.parameter) = .ok bound ∧
        ∃ founded,
          compile (bound.filter.map Filter.view) bound.ranges Catalogue.city.declared .defaults =
            [.atMost "founded" (.instant founded),
              .between "population" (.integer ⟨12, by decide⟩) (.integer ⟨500, by decide⟩)] := by
  have suit : ∀ b ∈ someCities, b.Suits Catalogue.cityFilter.declared Catalogue.city.declared := by
    refine List.forall_mem_cons.2 ⟨?_, List.forall_mem_cons.2 ⟨?_, List.forall_mem_singleton.2 ?_⟩⟩
    all_goals exact ⟨rfl, by decide, _, _, rfl, rfl, rfl, rfl, _, rfl⟩
  obtain ⟨-, bound, ok, same⟩ := compile_textBounds _ _ someCities suit
  exact ⟨suit, bound, ok, _, (same .defaults).1.trans rfl⟩

end FilterRequest

end Listing
