import Highlight.Proofs.Cache.Memory
import Highlight.Proofs.Highlighter

/-!
# A cache shared by highlighters over different registries

The key of a rendering says nothing of the registry behind the highlighter, so highlighters with one
class prefix use the same keys, whatever grammars were added to them, and a call may be given what
another highlighter has rendered. That each call gives the rendering of the highlighter that was
called is a property of the highlighters: two of them can share a cache just if they render alike
(`own_renderings_iff`).

What carries a run is that everything stored is the rendering of a visit with that key (`Stocked`),
whoever made it.
-/

namespace Highlight

/-- The rules that an identifier resolves to decide how source is rendered, and nothing else that
the registry knows. -/
theorem Highlighter.render_congr {one other : Highlighter} {code language : Text}
    (prefixes : one.classPrefix = other.classPrefix)
    (rules : (one.registry.resolve language).rules = (other.registry.resolve language).rules) :
    one.render code language = other.render code language := by
  unfold render tokenize Grammar.tokenize Grammar.tokenize?
  rw [prefixes, rules]

/-- Where no grammar has rules, nothing resolves to one that has. -/
theorem Registry.rules_resolve_of_forall {registry : Registry}
    (none : ∀ grammar ∈ registry.grammars, grammar.rules = []) (language : Text) :
    (registry.resolve language).rules = [] := by
  unfold resolve
  cases found : registry.grammars[registry.placeOf language]? with
  | none => rfl
  | some grammar => exact none grammar (List.mem_of_getElem? found)

/-- A call of one of several highlighters that have a cache in common. -/
structure Visit where
  highlighter : Highlighter
  lifetime : Duration
  code : Text
  language : Text

namespace Visit

variable {σ : Type} {cache : RenderCache (StateM σ)} {start : σ} {visits rest : List Visit}
  {visit : Visit} {requests : List Request} {one other : Highlighter}

/-- What is asked for without a cache. -/
def render (visit : Visit) : Text := visit.highlighter.render visit.code visit.language

/-- The key of the rendering. -/
def key (visit : Visit) : Text := visit.highlighter.key visit.code visit.language

/-- The call with the help of a cache. -/
def highlight (cache : RenderCache (StateM σ)) (visit : Visit) : StateM σ Text :=
  visit.highlighter.highlight (some ⟨cache, visit.lifetime⟩) visit.code visit.language

/-- Whether visits that have their key in common agree in what the key was made of. Visits for empty
code concern no key. -/
def Distinct (visits : List Visit) : Prop :=
  ∀ visit ∈ visits, ∀ other ∈ visits, visit.code ≠ [] → other.code ≠ [] → visit.key = other.key →
    visit.code = other.code ∧ visit.language = other.language ∧
      visit.highlighter.classPrefix = other.highlighter.classPrefix

instance (visits : List Visit) : Decidable (Distinct visits) :=
  inferInstanceAs (Decidable (∀ visit ∈ visits, ∀ other ∈ visits, visit.code ≠ [] →
    other.code ≠ [] → visit.key = other.key →
      visit.code = other.code ∧ visit.language = other.language ∧
        visit.highlighter.classPrefix = other.highlighter.classPrefix))

/-- Whether visits that have their key in common ask for the same markup. -/
def Alike (visits : List Visit) : Prop :=
  ∀ visit ∈ visits, ∀ other ∈ visits, visit.code ≠ [] → other.code ≠ [] → visit.key = other.key →
    visit.render = other.render

/-- Whether everything that was stored is the rendering of a visit with that key. -/
def Stocked (visits : List Visit) (requests : List Request) : Prop :=
  ∀ key markup lifetime, Request.set key markup lifetime ∈ requests →
    ∃ visit ∈ visits, visit.code ≠ [] ∧ visit.key = key ∧ visit.render = markup

/-- Visits of two highlighters that render alike ask for the same markup under the same key. -/
theorem Distinct.alike (distinct : Distinct visits)
    (either : ∀ visit ∈ visits, visit.highlighter = one ∨ visit.highlighter = other)
    (same : ∀ code language, one.render code language = other.render code language) :
    Alike visits := by
  have by_one : ∀ visit ∈ visits, visit.render = one.render visit.code visit.language := by
    intro visit mem
    unfold render
    rcases either visit mem with h | h
    · rw [h]
    · rw [h, same]
  intro visit mem another mem' nonempty nonempty' key
  obtain ⟨code, language, -⟩ := distinct visit mem another mem' nonempty nonempty' key
  rw [by_one visit mem, by_one another mem', code, language]

/-- **One visit** gives its own rendering, and makes requests after which everything stored is still
the rendering of a visit. -/
theorem run_highlight (honest : cache.Honest start) (alike : Alike visits) (mem : visit ∈ visits)
    (stocked : Stocked visits requests) :
    ∃ more, (visit.highlight cache).run (cache.after start requests) =
        (visit.render, cache.after start (requests ++ more)) ∧
      Stocked visits (requests ++ more) := by
  have own : visit.code ≠ [] → ∀ markup lifetime,
      Request.set visit.key markup lifetime ∈ requests → markup = visit.render := by
    intro nonempty markup lifetime stored
    obtain ⟨other, mem', nonempty', same, rendering⟩ := stocked _ _ _ stored
    rw [alike visit mem other mem' nonempty nonempty' same.symm, rendering]
  obtain ⟨more, answer, added⟩ :=
    visit.highlighter.run_highlight_of_stored honest visit.lifetime own
  refine ⟨more, answer, ?_⟩
  intro key markup lifetime mem'
  rcases List.mem_append.mp mem' with before | last
  · exact stocked key markup lifetime before
  · obtain ⟨nonempty, same, rendering⟩ := added key markup lifetime last
    exact ⟨visit, mem, nonempty, same.symm, rendering.symm⟩

/-- Visits one after another give their own renderings. -/
theorem run_mapM_highlight (honest : cache.Honest start) (alike : Alike visits)
    (sub : rest ⊆ visits) (stocked : Stocked visits requests) :
    ((rest.mapM (highlight cache)).run (cache.after start requests)).1 = rest.map render := by
  induction rest generalizing requests with
  | nil => rfl
  | cons visit rest ih =>
    obtain ⟨mem, sub⟩ := List.cons_subset.mp sub
    obtain ⟨more, answer, stocked⟩ := run_highlight honest alike mem stocked
    rw [List.mapM_cons, run_bind, answer, run_bind, List.map_cons, ← ih sub stocked]
    rfl

/-- **Visits that ask for the same markup under the same key** give their own renderings. -/
theorem run_visits (honest : cache.Honest start) (alike : Alike visits) :
    ((visits.mapM (highlight cache)).run start).1 = visits.map render := by
  have nothing : Stocked visits [] := by
    intro _ _ _ mem
    cases mem
  exact run_mapM_highlight honest alike (List.Subset.refl visits) nothing

/-- Of two visits with one key, on a cache that keeps what is stored, the second gives what the
first has rendered. -/
theorem run_second {first second : Visit} (honest : cache.Honest start)
    (keeps : cache.Keeps start first.lifetime) (nonempty : first.code ≠ [])
    (nonempty' : second.code ≠ []) (same : second.key = first.key) :
    (([first, second].mapM (highlight cache)).run start).1 = [first.render, first.render] := by
  have stores : (first.highlight cache).run start = (first.render,
      cache.after start [.get first.key, .set first.key first.render first.lifetime]) :=
    first.highlighter.run_highlight_of_miss ⟨cache, first.lifetime⟩ nonempty
      (honest.get_start_ne first.key) rfl
  have finds : ((cache.get second.key).run (cache.after start
      [.get first.key, .set first.key first.render first.lifetime])).1 =
        .ok (some first.render) := by
    rw [same]
    exact keeps first.key first.render
  obtain ⟨state, found⟩ : ∃ state, (second.highlight cache).run
      (cache.after start [.get first.key, .set first.key first.render first.lifetime]) =
        (first.render, state) :=
    ⟨_, second.highlighter.run_highlight_of_hit _ nonempty' (Prod.ext finds rfl)⟩
  rw [List.mapM_cons, run_bind, stores, run_bind, List.mapM_cons, run_bind, found]
  rfl

/-- **Two highlighters can share a cache just if they render alike.** With one class prefix between
them, and a cache that keeps what is stored and answers with nothing else, each call in every
interleaving of their calls gives the rendering of the highlighter that was called, if and only if
the two give one rendering of every code in every language. -/
theorem own_renderings_iff {lifetime : Duration} (honest : cache.Honest start)
    (keeps : cache.Keeps start lifetime) (prefixes : one.classPrefix = other.classPrefix) :
    (∀ visits : List Visit,
      (∀ visit ∈ visits, visit.highlighter = one ∨ visit.highlighter = other) →
      Distinct visits → ((visits.mapM (highlight cache)).run start).1 = visits.map render) ↔
    ∀ code language, one.render code language = other.render code language := by
  constructor
  · intro own code language
    by_cases empty : code = []
    · subst empty
      rfl
    · let first : Visit := ⟨one, lifetime, code, language⟩
      let second : Visit := ⟨other, lifetime, code, language⟩
      have same : second.key = first.key := by
        simp only [key, Highlighter.key, first, second, prefixes]
      have distinct : Distinct [first, second] := by
        simp [Distinct, first, second, prefixes]
      have answers := own [first, second] (by simp [first, second]) distinct
      rw [run_second honest keeps empty empty same] at answers
      exact (List.cons.inj (List.cons.inj answers).2).1
  · intro same visits either distinct
    exact run_visits honest (distinct.alike either same)

/-- A language that classifies nothing. -/
def notes : Grammar := ⟨"notes", "Notes", [], []⟩

/-- A language that classifies digits. -/
def demo : Grammar :=
  ⟨"demo", "Demo", [], [⟨"digits", .oneOrMore (.set (.range '0' '9')), .number, 0⟩]⟩

/-- A language without rules is plain text by another name, so it may be known to one highlighter
and not to the other. -/
theorem own_renderings_iff_notes :
    let cache : RenderCache (StateM MemoryCache) := MemoryCache.renderCache (pure 0)
    let one : Highlighter := ⟨.plain, "fmc-"⟩
    let other : Highlighter := ⟨.add .plain notes, "fmc-"⟩
    cache.Honest {} ∧ cache.Keeps {} 60 ∧ one.classPrefix = other.classPrefix ∧
      ∀ visits : List Visit,
        (∀ visit ∈ visits, visit.highlighter = one ∨ visit.highlighter = other) →
        Distinct visits → ((visits.mapM (highlight cache)).run {}).1 = visits.map render := by
  intro cache one other
  have honest : cache.Honest {} := MemoryCache.honest fun _ => rfl
  have keeps : cache.Keeps {} 60 := MemoryCache.keeps (by decide)
  have prefixes : one.classPrefix = other.classPrefix := rfl
  have renders : ∀ code language, one.render code language = other.render code language := by
    intro code language
    refine Highlighter.render_congr prefixes ?_
    rw [Registry.rules_resolve_of_forall (by decide +kernel),
      Registry.rules_resolve_of_forall (by decide +kernel)]
  exact ⟨honest, keeps, prefixes, (own_renderings_iff honest keeps prefixes).mpr renders⟩

/-- Where one highlighter has rules for a language and the other does not know it, the second to be
called gives what the first has rendered. -/
theorem demo_not_own_renderings :
    let cache : RenderCache (StateM MemoryCache) := MemoryCache.renderCache (pure 0)
    let visits : List Visit := [⟨⟨.builtin, "fmc-"⟩, 60, "1", "demo"⟩,
      ⟨⟨.add .builtin demo, "fmc-"⟩, 60, "1", "demo"⟩]
    Distinct visits ∧
      ((visits.mapM (highlight cache)).run {}).1 = (["1", "1"] : List Text) ∧
      visits.map render = (["1", "<span class=\"fmc-number\">1</span>"] : List Text) := by
  intro cache visits
  have distinct : Distinct visits := by decide +kernel
  have answers : ((visits.mapM (highlight cache)).run {}).1 = (["1", "1"] : List Text) := by
    decide +kernel
  have renderings : visits.map render =
      (["1", "<span class=\"fmc-number\">1</span>"] : List Text) := by
    decide +kernel
  exact ⟨distinct, answers, renderings⟩

end Visit

end Highlight
