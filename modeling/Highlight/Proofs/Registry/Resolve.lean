import Highlight.Proofs.Registry.Additions
import Highlight.Proofs.Text.Case

/-!
# Resolving identifiers

An addition takes the identifiers it answers to and leaves every other as it was, unknown ones
included (`add_resolves`). What changes for the others is what they lead to when the new grammar
replaces another in place: then old aliases lead to the new grammar, though it has none of them.

Nothing of this needs the names or the aliases to be distinct. Identity of grammars is identity of
places, so the law speaks of places where two grammars might be equal.
-/

namespace Highlight.Registry

variable {registry : Registry} {history : List Grammar} {grammar found : Grammar}
  {identifier : Text} {place : Nat}

/-- An identifier written in another way: letters of ASCII in the other case, white space around
it. -/
def IsSpelling (identifier other : Text) : Prop :=
  ∃ front core back : Text, other = front ++ core ++ back ∧
    core.map Char.toLower = identifier.map Char.toLower ∧
    (∀ c ∈ front, Unicode.isWhiteSpace c = true) ∧ ∀ c ∈ back, Unicode.isWhiteSpace c = true

/-- Identifiers that are compared are compared without that. -/
theorem IsSpelling.normalize_eq {other : Text} (h : IsSpelling identifier other) :
    normalize other = normalize identifier := by
  obtain ⟨front, core, back, rfl, letters, leading, trailing⟩ := h
  have spelled : ∀ text : Text, normalize (text.map Char.toLower) = normalize text := by
    intro text
    rw [normalize, Text.trim_map_toLower, Text.lower_map_toLower, normalize]
  calc normalize (front ++ core ++ back)
      = normalize core := by rw [normalize, Text.trim_append leading trailing, normalize]
    _ = normalize (core.map Char.toLower) := (spelled core).symm
    _ = normalize (identifier.map Char.toLower) := by rw [letters]
    _ = normalize identifier := spelled identifier

theorem IsSpelling.place?_eq {other : Text} (h : IsSpelling identifier other)
    (registry : Registry) : registry.place? other = registry.place? identifier := by
  rw [place?, place?, h.normalize_eq]

theorem resolve_of_place? (known : registry.place? identifier = some place)
    (here : registry.grammars[place]? = some found) : registry.resolve identifier = found := by
  rw [resolve, placeOf, known, Option.getD_some, here, Option.getD_some]

theorem resolve_of_none (unknown : registry.place? identifier = none)
    (here : registry.grammars[registry.fallback]? = some found) :
    registry.resolve identifier = found := by
  rw [resolve, placeOf, unknown, Option.getD_none, here, Option.getD_some]

/-- Among the places there are, a grammar is put where its exact name leads. -/
theorem eq_placeFor_iff (here : registry.grammars[place]? = some found) :
    place = registry.placeFor grammar ↔
      registry.place? grammar.name = some place ∧ found.name = grammar.name := by
  have own : registry.placeOfName? grammar.name = some place ↔
      registry.place? grammar.name = some place ∧ found.name = grammar.name := by
    rw [placeOfName?_eq_some_iff, here, Option.map_some, Option.some.injEq]
  rw [← own]
  cases h : registry.placeOfName? grammar.name with
  | some old =>
    rw [placeFor_of_some h, Option.some.injEq]
    exact eq_comm
  | none =>
    have inside := (List.getElem?_eq_some_iff.mp here).1
    rw [placeFor_of_none h]
    exact iff_of_false (Nat.ne_of_lt inside) (Option.some_ne_none place).symm

/-- An identifier that the new grammar answers to resolves to it. -/
theorem resolve_add_of_answersTo (answers : grammar.AnswersTo identifier) :
    (registry.add grammar).find? identifier = some grammar ∧
      (registry.add grammar).resolve identifier = grammar := by
  have known := place?_add registry grammar identifier
  rw [if_pos answers] at known
  have here := getElem?_add registry grammar (registry.placeFor grammar)
  rw [if_pos rfl] at here
  exact ⟨by rw [find?_add, if_pos answers], resolve_of_place? known here⟩

/-- Any other that leads somewhere still leads there. -/
theorem resolve_add_of_place? (other : ¬ grammar.AnswersTo identifier)
    (known : registry.place? identifier = some place)
    (here : registry.grammars[place]? = some found) :
    (registry.add grammar).place? identifier = some place ∧
      (registry.add grammar).resolve identifier =
        if registry.place? grammar.name = some place ∧ found.name = grammar.name then grammar
        else found := by
  have still := place?_add registry grammar identifier
  rw [if_neg other, known] at still
  refine ⟨still, resolve_of_place? still ?_⟩
  rw [getElem?_add, here, apply_ite some]
  simp only [eq_placeFor_iff here]

namespace Reached

/-- There is a grammar wherever an identifier leads. -/
theorem getElem?_placeOf (h : Reached history registry) (identifier : Text) :
    registry.grammars[registry.placeOf identifier]? = some (registry.resolve identifier) := by
  cases known : registry.place? identifier with
  | some place =>
    have here := List.getElem?_eq_getElem (h.records.place?_lt known)
    rw [resolve_of_place? known here, placeOf, known, Option.getD_some, here]
  | none =>
    obtain ⟨last, -, here⟩ := h.exists_fallback
    rw [resolve_of_none known here, placeOf, known, Option.getD_none, here]

/-- What leads nowhere resolves to the last grammar added as plain text. -/
theorem resolve_of_find?_eq_none (h : Reached history registry)
    (unknown : registry.find? identifier = none) :
    some (registry.resolve identifier) = lastNamed history Grammar.plainName := by
  obtain ⟨last, known, here⟩ := h.exists_fallback
  rw [resolve_of_none (h.records.find?_eq_none_iff.mp unknown) here, known]

end Reached

/-- **What an addition does to an identifier**, in every registry that additions lead to. The ones
that the new grammar answers to resolve to it. Any other that led to a grammar leads to the same
place, where the new grammar is just if its exact name led there and it replaced that one; and one
that led nowhere still leads nowhere, and resolves to the last grammar added under the name of plain
text. All places that are stored are in the registry, so there is a grammar wherever an identifier
leads, and it leads to the same place in all its spellings. -/
theorem add_resolves (h : Reached history registry) (grammar : Grammar) (identifier : Text) :
    (grammar.AnswersTo identifier →
      (registry.add grammar).find? identifier = some grammar ∧
        (registry.add grammar).resolve identifier = grammar) ∧
    (¬ grammar.AnswersTo identifier → ∀ place found, registry.place? identifier = some place →
      registry.grammars[place]? = some found →
      (registry.add grammar).place? identifier = some place ∧
        (registry.add grammar).resolve identifier =
          if registry.place? grammar.name = some place ∧ found.name = grammar.name then grammar
          else found) ∧
    (¬ grammar.AnswersTo identifier → registry.find? identifier = none →
      (registry.add grammar).find? identifier = none ∧
        some ((registry.add grammar).resolve identifier) =
          lastNamed (history ++ [grammar]) Grammar.plainName) ∧
    ((∀ binding ∈ registry.lookup, binding.2 < registry.grammars.length) ∧
      registry.fallback < registry.grammars.length ∧
      registry.grammars[registry.placeOf identifier]? = some (registry.resolve identifier)) ∧
    ∀ other, IsSpelling identifier other →
      registry.place? other = registry.place? identifier ∧
        registry.placeOf other = registry.placeOf identifier := by
  refine ⟨resolve_add_of_answersTo, fun other place found => resolve_add_of_place? other, ?_,
    ⟨h.records.places, ?_, h.getElem?_placeOf identifier⟩, ?_⟩
  · intro other unknown
    have still : (registry.add grammar).find? identifier = none := by
      rw [find?_add, if_neg other, h.records.find?_eq_none_iff.mp unknown, Option.bind_none]
    exact ⟨still, (h.add grammar).resolve_of_find?_eq_none still⟩
  · obtain ⟨last, -, here⟩ := h.exists_fallback
    exact (List.getElem?_eq_some_iff.mp here).1
  · intro other spelling
    have same := spelling.place?_eq registry
    exact ⟨same, by rw [placeOf, placeOf, same]⟩

/-- An old alias of a grammar that was replaced leads to the new one, which does not have it. -/
theorem add_resolves_replaced :
    Reached ([Grammar.plain] ++ [⟨"demo", "Demo", ["dm"], []⟩])
        (plain.add ⟨"demo", "Demo", ["dm"], []⟩) ∧
      ¬ Grammar.AnswersTo ⟨"demo", "Demo 2", ["DEMO2"], []⟩ "DM " ∧
      ((plain.add ⟨"demo", "Demo", ["dm"], []⟩).add ⟨"demo", "Demo 2", ["DEMO2"], []⟩).resolve
        "DM " = ⟨"demo", "Demo 2", ["DEMO2"], []⟩ := by
  have reached := Reached.plain.add ⟨"demo", "Demo", ["dm"], []⟩
  have other : ¬ Grammar.AnswersTo ⟨"demo", "Demo 2", ["DEMO2"], []⟩ "DM " := by decide +kernel
  have known : (plain.add ⟨"demo", "Demo", ["dm"], []⟩).place? "DM " = some 1 := by decide +kernel
  have own : (plain.add ⟨"demo", "Demo", ["dm"], []⟩).place? "demo" = some 1 := by decide +kernel
  have here : (plain.add ⟨"demo", "Demo", ["dm"], []⟩).grammars[1]? =
      some ⟨"demo", "Demo", ["dm"], []⟩ := by decide +kernel
  have resolved := ((add_resolves reached ⟨"demo", "Demo 2", ["DEMO2"], []⟩ "DM ").2.1 other 1 _
    known here).2
  rw [if_pos ⟨own, rfl⟩] at resolved
  exact ⟨reached, other, resolved⟩

end Highlight.Registry
