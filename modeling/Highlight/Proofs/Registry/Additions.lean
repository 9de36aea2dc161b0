import Highlight.Registry

/-!
# Additions to a registry

What one addition does is said once, by two equations: every identifier the new grammar answers to
stands for its place, and the others for what they stood for (`place?_add`); the new grammar is at
its place, and no other place changes (`getElem?_add`). The place is a new one, or that of a grammar
of the same name.

What a registry has become is a matter of its history alone, the grammars added to it in order
(`Records`): an identifier leads to a grammar with the name of the last one that answers to it, and
what is unknown resolves to the last one named as plain text. An addition keeps this
(`Records.add`), so it is so of every registry that additions lead to (`Reached.records`).
-/

namespace Highlight

/-- Whether an identifier is the name or an alias of a grammar, as identifiers are compared. -/
def Grammar.AnswersTo (grammar : Grammar) (identifier : Text) : Prop :=
  Registry.normalize identifier ∈ (grammar.name :: grammar.aliases).map Registry.normalize

instance (grammar : Grammar) (identifier : Text) : Decidable (grammar.AnswersTo identifier) :=
  inferInstanceAs (Decidable (_ ∈ _))

theorem Grammar.answersTo_name (grammar : Grammar) : grammar.AnswersTo grammar.name :=
  List.mem_map_of_mem List.mem_cons_self

namespace Registry

variable {registry : Registry} {history : List Grammar} {grammar : Grammar} {identifier name : Text}
  {place : Nat}

/-! ## One addition -/

/-- The place that a grammar takes when it is added: that of the grammar it replaces, or a new
one. -/
def placeFor (registry : Registry) (grammar : Grammar) : Nat :=
  (registry.placeOfName? grammar.name).getD registry.grammars.length

theorem placeOfName?_eq_some_iff : registry.placeOfName? name = some place ↔
    registry.place? name = some place ∧ (registry.grammars[place]?).map Grammar.name = some name := by
  simp only [placeOfName?, Option.filter_eq_some_iff, beq_iff_eq]

/-- A name leads to its own grammar unless the grammar it leads to has another name. -/
theorem isSome_placeOfName?_iff : (registry.placeOfName? name).isSome = true ↔
    (registry.find? name).map Grammar.name = some name := by
  simp only [Option.isSome_iff_exists, placeOfName?_eq_some_iff, find?]
  cases registry.place? name <;> simp

theorem placeOfName?_lt (h : registry.placeOfName? name = some place) :
    place < registry.grammars.length := by
  obtain ⟨found, here, -⟩ := Option.map_eq_some_iff.mp (placeOfName?_eq_some_iff.mp h).2
  exact (List.getElem?_eq_some_iff.mp here).1

theorem placeFor_of_some (h : registry.placeOfName? grammar.name = some place) :
    registry.placeFor grammar = place := by
  rw [placeFor, h, Option.getD_some]

theorem placeFor_of_none (h : registry.placeOfName? grammar.name = none) :
    registry.placeFor grammar = registry.grammars.length := by
  rw [placeFor, h, Option.getD_none]

theorem grammars_add_of_some (h : registry.placeOfName? grammar.name = some place) :
    (registry.add grammar).grammars = registry.grammars.set place grammar := by
  simp only [add, h]

theorem grammars_add_of_none (h : registry.placeOfName? grammar.name = none) :
    (registry.add grammar).grammars = registry.grammars ++ [grammar] := by
  simp only [add, h]

theorem lookup_add (registry : Registry) (grammar : Grammar) : (registry.add grammar).lookup =
    bind registry.lookup (registry.placeFor grammar) (grammar.name :: grammar.aliases) := by
  cases h : registry.placeOfName? grammar.name <;> simp only [add, placeFor, h] <;> rfl

theorem fallback_add (registry : Registry) (grammar : Grammar) : (registry.add grammar).fallback =
    if grammar.name = Grammar.plainName then registry.placeFor grammar else registry.fallback := by
  cases h : registry.placeOfName? grammar.name <;> simp only [add, placeFor, h] <;> rfl

/-- Bound identifiers stand for the place they are bound to, the others for what they stood for. -/
theorem lookup_bind (lookup : List (Text × Nat)) (place : Nat) (identifiers : List Text)
    (key : Text) : (bind lookup place identifiers).lookup key =
      if key ∈ identifiers.map normalize then some place else lookup.lookup key := by
  induction identifiers generalizing lookup with
  | nil => rfl
  | cons first rest ih =>
    have step : bind lookup place (first :: rest) =
        bind ((normalize first, place) :: lookup) place rest := rfl
    rw [step, ih]
    by_cases later : key ∈ rest.map normalize
    · simp [later]
    · by_cases here : key = normalize first
      · simp [here]
      · have differs : (key == normalize first) = false := beq_eq_false_iff_ne.mpr here
        simp [later, here, List.lookup_cons, differs]

theorem mem_bind {lookup : List (Text × Nat)} {identifiers : List Text} {binding : Text × Nat}
    (mem : binding ∈ bind lookup place identifiers) :
    binding.2 = place ∨ binding ∈ lookup := by
  induction identifiers generalizing lookup with
  | nil => exact .inr mem
  | cons first rest ih =>
    rcases ih mem with here | earlier
    · exact .inl here
    · rcases List.mem_cons.mp earlier with rfl | before
      · exact .inl rfl
      · exact .inr before

/-- **What identifiers stand for after an addition.** -/
theorem place?_add (registry : Registry) (grammar : Grammar) (identifier : Text) :
    (registry.add grammar).place? identifier =
      if grammar.AnswersTo identifier then some (registry.placeFor grammar)
      else registry.place? identifier := by
  rw [place?, lookup_add, lookup_bind]
  rfl

/-- **What is at a place after an addition.** -/
theorem getElem?_add (registry : Registry) (grammar : Grammar) (place : Nat) :
    (registry.add grammar).grammars[place]? =
      if place = registry.placeFor grammar then some grammar else registry.grammars[place]? := by
  cases h : registry.placeOfName? grammar.name with
  | some old =>
    rw [grammars_add_of_some h, placeFor_of_some h, List.getElem?_set]
    by_cases same : place = old
    · rw [if_pos same.symm, if_pos same, if_pos (placeOfName?_lt h)]
    · rw [if_neg (Ne.symm same), if_neg same]
  | none =>
    rw [grammars_add_of_none h, placeFor_of_none h, List.getElem?_append]
    split
    · next inside => rw [if_neg (Nat.ne_of_lt inside)]
    · next outside =>
      by_cases same : place = registry.grammars.length
      · simp [same]
      · have beyond : registry.grammars.length < place := by omega
        rw [if_neg same, List.getElem?_eq_none (Nat.le_of_lt beyond)]
        exact List.getElem?_eq_none (by simp; omega)

/-- What identifiers lead to after an addition. -/
theorem find?_add (registry : Registry) (grammar : Grammar) (identifier : Text) :
    (registry.add grammar).find? identifier =
      if grammar.AnswersTo identifier then some grammar
      else (registry.place? identifier).bind fun place =>
        if place = registry.placeFor grammar then some grammar else registry.grammars[place]? := by
  simp only [find?, place?_add, getElem?_add, Option.bind_eq_bind]
  by_cases answers : grammar.AnswersTo identifier
  · rw [if_pos answers, if_pos answers, Option.bind_some, if_pos rfl]
  · rw [if_neg answers, if_neg answers]

theorem length_add (registry : Registry) (grammar : Grammar) :
    (registry.add grammar).grammars.length =
      max registry.grammars.length (registry.placeFor grammar + 1) := by
  cases h : registry.placeOfName? grammar.name with
  | some old =>
    have inside := placeOfName?_lt h
    rw [grammars_add_of_some h, placeFor_of_some h, List.length_set]
    omega
  | none =>
    rw [grammars_add_of_none h, placeFor_of_none h, List.length_append]
    simp

/-- The names after an addition: a grammar that replaces another takes over its name. -/
theorem map_name_add (registry : Registry) (grammar : Grammar) :
    (registry.add grammar).grammars.map Grammar.name =
      if (registry.placeOfName? grammar.name).isSome then registry.grammars.map Grammar.name
      else registry.grammars.map Grammar.name ++ [grammar.name] := by
  cases h : registry.placeOfName? grammar.name with
  | some old =>
    obtain ⟨replaced, here, named⟩ :=
      Option.map_eq_some_iff.mp (placeOfName?_eq_some_iff.mp h).2
    obtain ⟨inside, here⟩ := List.getElem?_eq_some_iff.mp here
    have inside : old < (registry.grammars.map Grammar.name).length := by simpa using inside
    have same : (registry.grammars.map Grammar.name)[old] = grammar.name := by
      rw [List.getElem_map, here, named]
    rw [grammars_add_of_some h, List.map_set, ← same, List.set_getElem_self]
    rfl
  | none =>
    rw [grammars_add_of_none h, List.map_append]
    rfl

/-! ## Histories -/

/-- The registry to which nothing was added. -/
def nothing : Registry := ⟨[], [], 0⟩

/-- The last grammar added under an identifier. -/
def lastAnswering (history : List Grammar) (identifier : Text) : Option Grammar :=
  history.reverse.find? fun grammar => grammar.AnswersTo identifier

/-- The last grammar added under an exact name. -/
def lastNamed (history : List Grammar) (name : Text) : Option Grammar :=
  history.reverse.find? fun grammar => grammar.name = name

theorem find?_reverse_concat (holds : Grammar → Prop) [DecidablePred holds]
    (history : List Grammar) (grammar : Grammar) :
    (history ++ [grammar]).reverse.find? (fun grammar => holds grammar) =
      if holds grammar then some grammar
      else history.reverse.find? fun grammar => holds grammar := by
  rw [List.reverse_append, List.reverse_singleton, List.singleton_append, List.find?_cons]
  by_cases here : holds grammar <;> simp [here]

theorem lastAnswering_concat (history : List Grammar) (grammar : Grammar) (identifier : Text) :
    lastAnswering (history ++ [grammar]) identifier =
      if grammar.AnswersTo identifier then some grammar else lastAnswering history identifier :=
  find?_reverse_concat (fun grammar => grammar.AnswersTo identifier) history grammar

theorem lastNamed_concat (history : List Grammar) (grammar : Grammar) (name : Text) :
    lastNamed (history ++ [grammar]) name =
      if grammar.name = name then some grammar else lastNamed history name :=
  find?_reverse_concat (fun grammar => grammar.name = name) history grammar

theorem name_of_lastNamed (h : lastNamed history name = some grammar) : grammar.name = name := by
  unfold lastNamed at h
  have named := List.find?_some h
  exact of_decide_eq_true named

/-- What a registry owes to the grammars added to it. -/
structure Records (history : List Grammar) (registry : Registry) : Prop where
  /-- Whatever an identifier was bound to is a place. -/
  places : ∀ binding ∈ registry.lookup, binding.2 < registry.grammars.length
  /-- Unknown identifiers resolve to the last grammar named as plain text. -/
  fallback : ∀ grammar, lastNamed history Grammar.plainName = some grammar →
    registry.grammars[registry.fallback]? = some grammar
  /-- An identifier leads to a grammar of the name that last answered to it. -/
  holder : ∀ identifier, (registry.find? identifier).map Grammar.name =
    (lastAnswering history identifier).map Grammar.name
  /-- No name is lost, and none is made up. -/
  names : ∀ name, name ∈ registry.grammars.map Grammar.name ↔ name ∈ history.map Grammar.name

/-- A grammar that is found where another will be put has the name of the other. -/
theorem name_of_getElem?_placeFor {old : Grammar}
    (here : registry.grammars[registry.placeFor grammar]? = some old) :
    old.name = grammar.name := by
  cases h : registry.placeOfName? grammar.name with
  | some place =>
    have named := (placeOfName?_eq_some_iff.mp h).2
    rw [← placeFor_of_some h, here] at named
    exact Option.some.inj named
  | none =>
    rw [placeFor_of_none h] at here
    exact absurd (List.getElem?_eq_some_iff.mp here).1 (Nat.lt_irrefl _)

namespace Records

/-- What an identifier stands for is a place in the registry. -/
theorem place?_lt (h : Records history registry) (known : registry.place? identifier = some place) :
    place < registry.grammars.length := by
  obtain ⟨front, back, whole, -⟩ := List.lookup_eq_some_iff.mp known
  exact h.places (normalize identifier, place) (whole ▸ List.mem_append_right _ List.mem_cons_self)

/-- Only an identifier that stands for no place leads nowhere. -/
theorem find?_eq_none_iff (h : Records history registry) :
    registry.find? identifier = none ↔ registry.place? identifier = none := by
  cases known : registry.place? identifier with
  | none => simp [find?, known]
  | some place => simp [find?, known, h.place?_lt known]

/-- Nothing is owed to no grammars. -/
theorem nothing : Records [] nothing where
  places := by simp [Registry.nothing]
  fallback _ last := by cases last
  holder _ := rfl
  names _ := Iff.rfl

theorem add (h : Records history registry) (grammar : Grammar) :
    Records (history ++ [grammar]) (registry.add grammar) where
  places := by
    intro binding mem
    rw [lookup_add] at mem
    rw [length_add]
    rcases mem_bind mem with here | earlier
    · omega
    · have before := h.places binding earlier
      omega
  fallback := by
    intro last
    rw [fallback_add, getElem?_add, lastNamed_concat]
    by_cases named : grammar.name = Grammar.plainName
    · rw [if_pos named, if_pos named, if_pos rfl]
      exact id
    · rw [if_neg named, if_neg named]
      intro found
      have here := h.fallback last found
      by_cases same : registry.fallback = registry.placeFor grammar
      · -- What is replaced has the name of what replaces it, which is not that of plain text.
        rw [same] at here
        exact absurd ((name_of_getElem?_placeFor here).symm.trans (name_of_lastNamed found)) named
      · rw [if_neg same, here]
  holder := by
    intro identifier
    rw [find?_add, lastAnswering_concat]
    by_cases answers : grammar.AnswersTo identifier
    · rw [if_pos answers, if_pos answers]
    · rw [if_neg answers, if_neg answers, ← h.holder]
      cases known : registry.place? identifier with
      | none => simp [find?, known]
      | some place =>
        have here := List.getElem?_eq_getElem (h.place?_lt known)
        simp only [find?, known, Option.bind_some, Option.bind_eq_bind, here]
        split
        · next same =>
          subst same
          rw [Option.map_some, Option.map_some, name_of_getElem?_placeFor here]
        · rfl
  names := by
    intro name
    rw [map_name_add, List.map_append, List.mem_append, List.map_singleton, List.mem_singleton]
    cases found : registry.placeOfName? grammar.name with
    | some place =>
      obtain ⟨old, here, named⟩ :=
        Option.map_eq_some_iff.mp (placeOfName?_eq_some_iff.mp found).2
      have mem : grammar.name ∈ registry.grammars.map Grammar.name :=
        named ▸ List.mem_map_of_mem (List.mem_of_getElem? here)
      have known := (h.names grammar.name).mp mem
      rw [Option.isSome_some, if_pos rfl, h.names]
      exact ⟨.inl, fun either => either.elim id fun same => same ▸ known⟩
    | none =>
      rw [Option.isSome_none, if_neg Bool.false_ne_true, List.mem_append, List.mem_singleton,
        h.names]

theorem addAll (h : Records history registry) (grammars : List Grammar) :
    Records (history ++ grammars) (registry.addAll grammars) := by
  induction grammars generalizing history registry with
  | nil => simpa [Registry.addAll] using h
  | cons grammar rest ih =>
    rw [List.append_cons]
    exact ih (h.add grammar)

end Records

/-! ## Registries that additions lead to -/

/-- The registries that additions lead to from one of the two that are there without any, each with
all grammars that were added on the way, in order. -/
inductive Reached : List Grammar → Registry → Prop
  | plain : Reached [Grammar.plain] plain
  | builtin : Reached (Grammar.plain :: Grammar.builtin) builtin
  | add {history : List Grammar} {registry : Registry} (grammar : Grammar) :
      Reached history registry → Reached (history ++ [grammar]) (registry.add grammar)

namespace Reached

/-- A registry that additions lead to is what they make of no grammars at all. -/
theorem eq_addAll (h : Reached history registry) : registry = nothing.addAll history := by
  induction h with
  | plain => rfl
  | builtin => rfl
  | add grammar _ ih => rw [addAll, List.foldl_append, ih]; rfl

theorem records (h : Reached history registry) : Records history registry :=
  h.eq_addAll ▸ Records.nothing.addAll history

theorem plain_mem (h : Reached history registry) : Grammar.plain ∈ history := by
  induction h with
  | plain => exact List.mem_cons_self
  | builtin => exact List.mem_cons_self
  | add _ _ ih => exact List.mem_append_left _ ih

/-- There is a last grammar named as plain text, and it is what the unknown resolves to. -/
theorem exists_fallback (h : Reached history registry) :
    ∃ last, lastNamed history Grammar.plainName = some last ∧
      registry.grammars[registry.fallback]? = some last := by
  cases known : lastNamed history Grammar.plainName with
  | some last => exact ⟨last, rfl, h.records.fallback last known⟩
  | none =>
    have none := List.find?_eq_none.mp known Grammar.plain (List.mem_reverse.mpr h.plain_mem)
    exact absurd (decide_eq_true rfl) none

end Reached

end Registry

end Highlight
