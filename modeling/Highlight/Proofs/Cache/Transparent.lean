import Highlight.Proofs.Cache.Shared

/-!
# Highlighting through a shared cache

Highlighters over one registry share a cache, each with its own class prefix and lifetime. Whatever
the cache forgets and whichever of its requests fail, each call gives what it would give without the
cache (`run_highlightAll`), as long as the cache is honest and no two calls that ask for different
renderings have the same key. The registry is what the key says nothing of; as the calls have it in
common, they are visits that ask for the same markup under the same key.
-/

namespace Highlight

/-- A call of a highlighter that has its registry and its cache in common with others. -/
structure Call where
  classPrefix : Text
  lifetime : Duration
  code : Text
  language : Text

namespace Call

variable {σ : Type} {registry : Registry} {cache : RenderCache (StateM σ)} {start : σ}
  {calls : List Call} {call other : Call}

/-- The highlighter that is called. -/
def highlighter (registry : Registry) (call : Call) : Highlighter := ⟨registry, call.classPrefix⟩

/-- What is asked for without a cache. -/
def render (registry : Registry) (call : Call) : Text :=
  (call.highlighter registry).render call.code call.language

/-- The key of the rendering. -/
def key (call : Call) : Text := Cache.key call.code call.language engineVersion call.classPrefix

/-- The call with the help of a cache. -/
def highlight (registry : Registry) (cache : RenderCache (StateM σ)) (call : Call) :
    StateM σ Text :=
  (call.highlighter registry).highlight (some ⟨cache, call.lifetime⟩) call.code call.language

/-- Whether two calls that have their key in common are calls for the same rendering. Calls for
empty code concern no key. -/
def Distinct (calls : List Call) : Prop :=
  ∀ call ∈ calls, ∀ other ∈ calls, call.code ≠ [] → other.code ≠ [] → call.key = other.key →
    call.code = other.code ∧ call.language = other.language ∧
      call.classPrefix = other.classPrefix

instance (calls : List Call) : Decidable (Distinct calls) :=
  inferInstanceAs (Decidable (∀ call ∈ calls, ∀ other ∈ calls, call.code ≠ [] → other.code ≠ [] →
    call.key = other.key → call.code = other.code ∧ call.language = other.language ∧
      call.classPrefix = other.classPrefix))

/-- Calls for the same rendering have one. -/
theorem Distinct.render_eq (distinct : Distinct calls) (mem : call ∈ calls) (mem' : other ∈ calls)
    (nonempty : call.code ≠ []) (nonempty' : other.code ≠ []) (same : call.key = other.key) :
    call.render registry = other.render registry := by
  obtain ⟨code, language, classPrefix⟩ := distinct call mem other mem' nonempty nonempty' same
  simp only [render, highlighter, code, language, classPrefix]

/-- The call as one of a highlighter of its own. -/
def visit (registry : Registry) (call : Call) : Visit :=
  ⟨call.highlighter registry, call.lifetime, call.code, call.language⟩

/-- Over one registry, calls with one key ask for the same markup. -/
theorem Distinct.alike (distinct : Distinct calls) (registry : Registry) :
    Visit.Alike (calls.map (visit registry)) := by
  simp only [Visit.Alike, List.forall_mem_map]
  intro call mem other mem' nonempty nonempty' same
  exact distinct.render_eq mem mem' nonempty nonempty' same

/-- **A shared cache does not show.** Calls of highlighters over one registry, in any order and from
any state on from which the cache they share is honest, give what they give without a cache. -/
theorem run_highlightAll (registry : Registry) (cache : RenderCache (StateM σ)) (start : σ)
    (calls : List Call) (honest : cache.Honest start) (distinct : Distinct calls) :
    ((calls.mapM (highlight registry cache)).run start).1 = calls.map (render registry) := by
  have run := Visit.run_visits honest (distinct.alike registry)
  rw [List.mapM_map, List.map_map] at run
  exact run

/-- Two class prefixes share a cache in memory; the third call finds what the first has stored, and
what the second has stored never lasts. -/
theorem run_highlightAll_memory :
    let calls : List Call :=
      [⟨"fmc-", 60, "a<b", "c"⟩, ⟨"hl-", 0, "a<b", "c"⟩, ⟨"fmc-", 60, "a<b", "c"⟩,
        ⟨"hl-", 60, "", "c"⟩]
    let cache : RenderCache (StateM MemoryCache) := MemoryCache.renderCache (pure 0)
    cache.Honest {} ∧ Distinct calls ∧
      ((calls.mapM (highlight .builtin cache)).run {}).1 = calls.map (render .builtin) := by
  intro calls cache
  have honest : cache.Honest {} := MemoryCache.honest fun _ => rfl
  have distinct : Distinct calls := by decide +kernel
  exact ⟨honest, distinct, run_highlightAll .builtin cache {} calls honest distinct⟩

end Call

end Highlight
