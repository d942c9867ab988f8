/-!
# Chains of types

A type may extend another one, which may extend a third.  A chain keeps something
for each field of a type and of its ancestors: the declarations, or the values.
Names may be declared again further down; looking one up finds the nearest
declaration.
-/

namespace Listing

/-- What a single type of a chain holds, in the order of declaration. -/
structure Level (α : Type) where
  typeName : String
  entries : List α

/-- What a type and its ancestors hold, the nearest ancestor first. -/
structure Chain (α : Type) where
  own : Level α
  ancestors : List (Level α)

namespace Level

variable {α β : Type}

/-- Apply a function to every entry. -/
def map (f : α → β) (l : Level α) : Level β := ⟨l.typeName, l.entries.map f⟩

end Level

/-- Change the first entry with a property. -/
def amendFirst {α : Type} (has : α → Bool) (change : α → α) : List α → List α
  | [] => []
  | a :: rest => if has a then change a :: rest else a :: amendFirst has change rest

namespace Chain

variable {α β : Type}

/-- A type without ancestors. -/
def single (typeName : String) (entries : List α) : Chain α := ⟨⟨typeName, entries⟩, []⟩

/-- A type that extends another one. -/
def extending (parent : Chain α) (typeName : String) (entries : List α) : Chain α :=
  ⟨⟨typeName, entries⟩, parent.own :: parent.ancestors⟩

/-- The type itself and its ancestors. -/
def levels (c : Chain α) : List (Level α) := c.own :: c.ancestors

/-- The chain of the type that this one extends. -/
def parent? (c : Chain α) : Option (Chain α) :=
  match c.ancestors with
  | [] => none
  | p :: rest => some ⟨p, rest⟩

/-- All entries, those of the type itself first and those of the nearest ancestor next. -/
def all (c : Chain α) : List α := c.levels.flatMap (·.entries)

/-- The entries of the type itself, or all of them. -/
def upTo (c : Chain α) (inherited : Bool) : List α := if inherited then c.all else c.own.entries

/-- Apply a function to every entry. -/
def map (f : α → β) (c : Chain α) : Chain β := ⟨c.own.map f, c.ancestors.map (·.map f)⟩

/-- The nearest entry with a property. -/
def find? (has : α → Bool) (c : Chain α) : Option α := c.all.find? has

/-- Change the nearest entry with a property on a list of levels. -/
def amendLevels (has : α → Bool) (change : α → α) : List (Level α) → List (Level α)
  | [] => []
  | l :: rest =>
    if l.entries.any has then { l with entries := amendFirst has change l.entries } :: rest
    else l :: amendLevels has change rest

/-- Change the nearest entry with a property. -/
def amend (has : α → Bool) (change : α → α) (c : Chain α) : Chain α :=
  if c.own.entries.any has then
    { c with own := { c.own with entries := amendFirst has change c.own.entries } }
  else { c with ancestors := amendLevels has change c.ancestors }

end Chain

end Listing
