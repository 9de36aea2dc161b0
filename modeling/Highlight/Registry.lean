import Highlight.Grammar.Builtin
import Highlight.Order

/-!
# Registry

The grammars that are known, under their names and aliases. Identifiers are compared without the
white space around them and in lowercase. A later binding of an identifier hides an earlier one, so
`lookup` keeps the latest binding in front and the first hit decides.

A grammar keeps its place in `grammars` for good; identity of grammars is identity of places.
-/

namespace Highlight

/-- The grammars that are known and what they are called. -/
structure Registry where
  /-- The grammars in the order of their arrival. -/
  grammars : List Grammar
  /-- The place that an identifier stands for, latest binding first. -/
  lookup : List (Text × Nat)
  /-- The place of the grammar for identifiers that stand for none. -/
  fallback : Nat

namespace Registry

/-- The form in which identifiers are compared. -/
def normalize (identifier : Text) : Text := identifier.trim.lower

/-- The place that an identifier stands for. -/
def place? (registry : Registry) (identifier : Text) : Option Nat :=
  registry.lookup.lookup (normalize identifier)

/-- The place of the grammar with exactly this name that the name itself leads to. -/
def placeOfName? (registry : Registry) (name : Text) : Option Nat :=
  (registry.place? name).filter fun place =>
    (registry.grammars[place]?.map Grammar.name) == some name

/-- The lookup with every identifier in `identifiers` bound to a place, the last one in front. -/
def bind (lookup : List (Text × Nat)) (place : Nat) (identifiers : List Text) :
    List (Text × Nat) :=
  identifiers.foldl (fun lookup identifier => (normalize identifier, place) :: lookup) lookup

/-- The registry with a grammar bound to its name and aliases. A grammar that its exact name
already leads to is replaced in place; otherwise the new one takes a place of its own. -/
def add (registry : Registry) (grammar : Grammar) : Registry :=
  let (place, grammars) := match registry.placeOfName? grammar.name with
    | some place => (place, registry.grammars.set place grammar)
    | none => (registry.grammars.length, registry.grammars ++ [grammar])
  { grammars
    lookup := bind registry.lookup place (grammar.name :: grammar.aliases)
    fallback := if grammar.name = Grammar.plainName then place else registry.fallback }

/-- The registry with several grammars added in order. -/
def addAll (registry : Registry) (grammars : List Grammar) : Registry := grammars.foldl add registry

/-- The registry of plain text alone. -/
def plain : Registry := add ⟨[], [], 0⟩ Grammar.plain

/-- The registry of all built-in grammars. -/
def builtin : Registry := plain.addAll Grammar.builtin

/-- The grammar that an identifier stands for. -/
def find? (registry : Registry) (identifier : Text) : Option Grammar := do
  registry.grammars[← registry.place? identifier]?

/-- The place to which an identifier resolves: its own, or the one for unknown identifiers. -/
def placeOf (registry : Registry) (identifier : Text) : Nat :=
  (registry.place? identifier).getD registry.fallback

/-- The grammar to which an identifier resolves. -/
def resolve (registry : Registry) (identifier : Text) : Grammar :=
  registry.grammars[registry.placeOf identifier]?.getD Grammar.plain

/-- The names of all grammars by code point. -/
def names (registry : Registry) : List Text :=
  sortBy Text.isBefore (registry.grammars.map Grammar.name)

end Registry

end Highlight
