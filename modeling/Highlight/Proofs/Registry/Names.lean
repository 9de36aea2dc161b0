import Highlight.Proofs.Order
import Highlight.Proofs.Registry.Additions

/-!
# Names of a registry

A grammar is meant to replace the one that has its name. It finds that one through the identifiers,
and of these the name may meanwhile belong to another grammar, by an alias or by a name that differs
in case only. Then the grammar takes a place of its own, and there are two of its name.

That is the one way in which a name comes to be there twice (`nodup_names_iff`). It cannot be gone
where no grammar answers to the name of another.
-/

namespace Highlight.Registry

variable {registry : Registry} {history : List Grammar}

/-- Whether a grammar finds the one of its name, if there is any among those added before: of these
the last that answers to the name has it. -/
def FindsOwn (before : List Grammar) (grammar : Grammar) : Prop :=
  grammar.name ∈ before.map Grammar.name →
    (lastAnswering before grammar.name).map Grammar.name = some grammar.name

/-- Listing brings the names in order. -/
theorem names_perm (registry : Registry) :
    registry.names.Perm (registry.grammars.map Grammar.name) :=
  sortBy_perm Text.isBefore _

/-- **One addition** keeps the names apart just if the grammar finds the one it replaces. -/
theorem nodup_names_add (h : Records history registry) (grammar : Grammar) :
    (registry.add grammar).names.Nodup ↔ registry.names.Nodup ∧ FindsOwn history grammar := by
  have found : (registry.placeOfName? grammar.name).isSome = true ↔
      (lastAnswering history grammar.name).map Grammar.name = some grammar.name := by
    rw [isSome_placeOfName?_iff, h.holder]
  rw [(names_perm _).nodup_iff, (names_perm registry).nodup_iff, map_name_add, FindsOwn, ← found,
    ← h.names]
  split
  · next replaces => simp only [replaces, implies_true, and_true]
  · next misses =>
    rw [List.perm_append_comm.nodup_iff, List.singleton_append, List.nodup_cons]
    simp only [misses, Bool.false_eq_true, imp_false]
    exact and_comm

/-- **Several additions** keep them apart just if each of the grammars does. -/
theorem nodup_names_addAll (h : Records history registry) (grammars : List Grammar) :
    (registry.addAll grammars).names.Nodup ↔ registry.names.Nodup ∧
      ∀ before grammar after, grammars = before ++ grammar :: after →
        FindsOwn (history ++ before) grammar := by
  induction grammars generalizing history registry with
  | nil => simp [addAll]
  | cons first rest ih =>
    have run : registry.addAll (first :: rest) = (registry.add first).addAll rest := rfl
    rw [run, ih (h.add first), nodup_names_add h, and_assoc]
    refine and_congr_right fun _ => ⟨?_, ?_⟩
    · rintro ⟨here, later⟩ before grammar after split
      cases before with
      | nil =>
        obtain ⟨rfl, rfl⟩ := List.cons.inj split
        rwa [List.append_nil]
      | cons _ before =>
        obtain ⟨rfl, rfl⟩ := List.cons.inj split
        rw [List.append_cons]
        exact later before grammar after rfl
    · intro each
      refine ⟨?_, ?_⟩
      · have here := each [] first rest rfl
        rwa [List.append_nil] at here
      · intro before grammar after split
        rw [← List.append_cons]
        exact each (first :: before) grammar after (congrArg (first :: ·) split)

/-- Where no grammar answers to the name of another, each finds its own. -/
theorem findsOwn_of_apart {before : List Grammar} {grammar : Grammar}
    (apart : ∀ other ∈ before, other.AnswersTo grammar.name → other.name = grammar.name) :
    FindsOwn before grammar := by
  intro mem
  obtain ⟨own, added, named⟩ := List.mem_map.mp mem
  cases last : lastAnswering before grammar.name with
  | none =>
    have answers : own.AnswersTo grammar.name := named ▸ own.answersTo_name
    have misses := List.find?_eq_none.mp last own (List.mem_reverse.mpr added)
    exact absurd (decide_eq_true answers) misses
  | some other =>
    have added := List.mem_reverse.mp (List.mem_of_find?_eq_some last)
    have answers := List.find?_some last
    rw [Option.map_some, apart other added (of_decide_eq_true answers)]

/-- **When the names of a registry are distinct**, for every history of additions. The names are
those that were added; none is there twice just if each grammar, when it was added and one of its
name was there, found the last grammar that answered to the name to have it; and that is so wherever
no grammar answers to the name of another. -/
theorem nodup_names_iff (h : Reached history registry) :
    (∀ name, name ∈ registry.names ↔ name ∈ history.map Grammar.name) ∧
    (registry.names.Nodup ↔ ∀ before grammar after, history = before ++ grammar :: after →
      FindsOwn before grammar) ∧
    ((∀ grammar ∈ history, ∀ other ∈ history, other.AnswersTo grammar.name →
      other.name = grammar.name) → registry.names.Nodup) := by
  have distinct : registry.names.Nodup ↔ ∀ before grammar after,
      history = before ++ grammar :: after → FindsOwn before grammar := by
    have none : nothing.names.Nodup := List.nodup_nil
    rw [h.eq_addAll, nodup_names_addAll Records.nothing]
    simp only [none, true_and, List.nil_append]
  refine ⟨?_, distinct, ?_⟩
  · intro name
    rw [(names_perm registry).mem_iff, h.records.names]
  · intro apart
    refine distinct.mpr fun before grammar after split => findsOwn_of_apart ?_
    intro other mem
    exact apart grammar (split ▸ List.mem_append_right _ List.mem_cons_self) other
      (split ▸ List.mem_append_left _ mem)

/-- A grammar that is added again, under a name that only it answers to, replaces the first. -/
theorem nodup_names_iff_replaced :
    Reached ([Grammar.plain] ++ [⟨"demo", "Demo", ["dm"], []⟩] ++ [⟨"demo", "Demo 2", [], []⟩])
      ((plain.add ⟨"demo", "Demo", ["dm"], []⟩).add ⟨"demo", "Demo 2", [], []⟩) ∧
    ((plain.add ⟨"demo", "Demo", ["dm"], []⟩).add ⟨"demo", "Demo 2", [], []⟩).names.Nodup := by
  have reached := (Reached.plain.add ⟨"demo", "Demo", ["dm"], []⟩).add ⟨"demo", "Demo 2", [], []⟩
  exact ⟨reached, (nodup_names_iff reached).2.2 (by decide +kernel)⟩

/-- A grammar whose name has become the alias of another does not find the one it should replace, and
is listed twice. -/
theorem displaced_not_nodup_names :
    ¬ ∀ history registry, Reached history registry → registry.names.Nodup := by
  intro claim
  have reached := ((Reached.plain.add ⟨"a", "A", [], []⟩).add ⟨"b", "B", ["a"], []⟩).add
    ⟨"a", "A2", [], []⟩
  have names : ((((plain.add ⟨"a", "A", [], []⟩).add ⟨"b", "B", ["a"], []⟩).add
      ⟨"a", "A2", [], []⟩).names) = (["a", "a", "b", "text"] : List Text) := by
    decide +kernel
  have twice : ¬ (["a", "a", "b", "text"] : List Text).Nodup := by decide
  exact twice (names ▸ claim _ _ reached)

end Highlight.Registry
