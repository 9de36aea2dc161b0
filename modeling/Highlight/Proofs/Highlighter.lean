import Highlight.Highlighter
import Highlight.Proofs.Cache.Run

/-!
# Runs of a highlighter

What is in the cache is the markup; what is not is rendered and stored. So if nothing but the
rendering was ever stored under its key, a call gives the rendering and stores nothing else
(`run_highlight_of_stored`).
-/

namespace Highlight.Highlighter

variable {σ : Type} {code language markup : Text}
  {s s' : σ}

/-- Markup that the cache answers with is what comes out. -/
theorem run_highlight_of_hit (h : Highlighter) (shelf : Shelf (StateM σ)) (nonempty : code ≠ [])
    (hit : (shelf.cache.get (h.key code language)).run s = (.ok (some markup), s')) :
    (h.highlight (some shelf) code language).run s = (markup, s') := by
  unfold highlight
  rw [if_neg (by simpa using nonempty)]
  unfold highlightThrough
  dsimp only
  rw [run_bind, hit]
  rfl

/-- Without markup from the cache, the rendering comes out and is stored. -/
theorem run_highlight_of_miss (h : Highlighter) (shelf : Shelf (StateM σ))
    {answer : Except CacheError (Option Text)} (nonempty : code ≠ [])
    (miss : ∀ markup, answer ≠ .ok (some markup))
    (asked : (shelf.cache.get (h.key code language)).run s = (answer, s')) :
    (h.highlight (some shelf) code language).run s =
      (h.render code language, ((shelf.cache.set (h.key code language) (h.render code language)
        shelf.lifetime).run s').2) := by
  unfold highlight
  rw [if_neg (by simpa using nonempty)]
  unfold highlightThrough
  dsimp only
  rw [run_bind, asked]
  cases answer with
  | error error => rfl
  | ok found =>
    cases found with
    | none => rfl
    | some markup => exact absurd rfl (miss markup)

/-- Without a cache, the rendering comes out. -/
theorem run_highlight_none (h : Highlighter) (code language : Text) (s : σ) :
    (h.highlight none code language : StateM σ Text).run s = (h.render code language, s) := by
  unfold highlight render
  split <;> rfl

/-- A block has the markup of its code inside, and is there if there is code. -/
theorem run_block (h : Highlighter) (shelf : Option (Shelf (StateM σ))) (b : CodeBlock) (s : σ) :
    (h.block shelf b).run s =
      let language := b.language.getD defaultLanguage
      let content := (h.highlight shelf b.code language).run s
      (if b.code.isEmpty then []
        else Markup.block h.classPrefix (h.registry.resolve language).label language b.id content.1,
        content.2) := by
  unfold block
  by_cases empty : b.code.isEmpty = true
  · simp only [highlight, empty, if_true]
    rfl
  · simp only [if_neg empty]
    rfl

/-- **A call where nothing but its rendering was stored under its key** gives the rendering. What it
asks of the cache stores nothing else. -/
theorem run_highlight_of_stored (h : Highlighter) {cache : RenderCache (StateM σ)} {start : σ}
    {requests : List Request} (honest : cache.Honest start) (lifetime : Duration)
    (stored : code ≠ [] → ∀ markup lifetime,
      Request.set (h.key code language) markup lifetime ∈ requests →
        markup = h.render code language) :
    ∃ more, (h.highlight (some ⟨cache, lifetime⟩) code language).run (cache.after start requests) =
        (h.render code language, cache.after start (requests ++ more)) ∧
      ∀ key markup lifetime, Request.set key markup lifetime ∈ more →
        code ≠ [] ∧ key = h.key code language ∧ markup = h.render code language := by
  by_cases empty : code = []
  · refine ⟨[], ?_, by simp⟩
    simp only [highlight, render, empty, List.isEmpty_nil, if_true, List.append_nil]
    rfl
  · have looked := cache.after_append start requests [.get (h.key code language)]
    by_cases hit : ∃ markup,
        ((cache.get (h.key code language)).run (cache.after start requests)).1 = .ok (some markup)
    · obtain ⟨markup, hit⟩ := hit
      obtain ⟨_, before⟩ := honest requests _ markup hit
      refine ⟨[.get (h.key code language)], ?_, by simp⟩
      rw [looked, ← stored empty markup _ before]
      exact run_highlight_of_hit h _ empty (Prod.ext hit rfl)
    · refine ⟨[.get (h.key code language),
        .set (h.key code language) (h.render code language) lifetime], ?_, ?_⟩
      · rw [List.append_cons, cache.after_append, looked]
        exact run_highlight_of_miss h _ empty (fun markup found => hit ⟨markup, found⟩) rfl
      · intro key markup lifetime mem
        simp only [List.mem_cons, reduceCtorEq, List.not_mem_nil, or_false, false_or,
          Request.set.injEq] at mem
        exact ⟨empty, mem.1, mem.2.1⟩

end Highlight.Highlighter
