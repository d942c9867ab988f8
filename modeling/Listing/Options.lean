import Listing.Json.Decoding

/-!
# Options

Two switches decide how a filter is compiled.  A request may override either of
them; a switch it does not send keeps the setting of the filter.
-/

namespace Listing

/-- How a filter is compiled. -/
structure FilterOptions where
  /-- Texts match regardless of case. -/
  ignoreCase : Bool
  /-- The fields of ancestors count as well. -/
  inherited : Bool
  deriving DecidableEq, Repr

/-- The switches that a request sends. -/
structure OptionOverrides where
  ignoreCase : Option Bool
  inherited : Option Bool
  deriving DecidableEq, Repr

namespace FilterOptions

/-- Both switches off. -/
def defaults : FilterOptions := ⟨false, false⟩

/-- The document of options. -/
def toDoc (o : FilterOptions) : Doc :=
  .ofMembers [("caseInsensitiveStrings", .flag o.ignoreCase),
    ("includeInheritedFields", .flag o.inherited)]

/-- Read options; a switch that is missing is off. -/
def decoder : Decoder FilterOptions :=
  Decoder.structured "FilterOptions"
    [.setting "caseInsensitiveStrings" .defaulted Decoder.flag fun b o =>
        { o with ignoreCase := b },
     .setting "includeInheritedFields" .defaulted Decoder.flag fun b o =>
        { o with inherited := b }]
    defaults

end FilterOptions

namespace OptionOverrides

/-- No switch sent. -/
def unsent : OptionOverrides := ⟨none, none⟩

/-- Every switch sent. -/
def ofOptions (o : FilterOptions) : OptionOverrides := ⟨some o.ignoreCase, some o.inherited⟩

/-- The options in effect when these are sent on top of others. -/
def apply (o : OptionOverrides) (base : FilterOptions) : FilterOptions :=
  ⟨o.ignoreCase.getD base.ignoreCase, o.inherited.getD base.inherited⟩

/-- The member of a switch that is sent. -/
def sent (name : String) : Option Bool → List (String × Doc)
  | some b => [(name, .flag b)]
  | none => []

/-- The document of overrides, with the switches sent. -/
def toDoc (o : OptionOverrides) : Doc :=
  .ofMembers (sent "caseInsensitiveStrings" o.ignoreCase ++
    sent "includeInheritedFields" o.inherited)

/-- Read overrides. -/
def decoder : Decoder OptionOverrides :=
  Decoder.structured "OptionOverrides"
    [.setting "caseInsensitiveStrings" .optional (Decoder.optional Decoder.flag) fun b o =>
        { o with ignoreCase := b },
     .setting "includeInheritedFields" .optional (Decoder.optional Decoder.flag) fun b o =>
        { o with inherited := b }]
    unsent

end OptionOverrides

end Listing
