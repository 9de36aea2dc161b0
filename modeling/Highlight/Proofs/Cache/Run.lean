import Highlight.Cache.Basic
import Highlight.Proofs.Host

/-!
# Runs of a cache

A run is a list of requests, made one after another. A cache is honest from a state on if whatever
it answers in a run was stored in that run under the key that was asked for; it may forget, and any
request may fail.
-/

namespace Highlight

/-- A request to a cache. -/
inductive Request where
  | get (key : Text)
  | set (key markup : Text) (lifetime : Duration)
  deriving DecidableEq, Repr

/-- What a cache answers to a request. -/
inductive Reply where
  | found (answer : Except CacheError (Option Text))
  | stored (answer : Except CacheError Unit)

namespace RenderCache

variable {m : Type → Type} {σ : Type}

/-- Make a request. -/
def ask [Monad m] (cache : RenderCache m) : Request → m Reply
  | .get key => .found <$> cache.get key
  | .set key markup lifetime => .stored <$> cache.set key markup lifetime

/-- The state of a cache after requests. -/
def after (cache : RenderCache (StateM σ)) (start : σ) (requests : List Request) : σ :=
  requests.foldl (fun state request => ((cache.ask request).run state).2) start

theorem run_ask_get (cache : RenderCache (StateM σ)) (key : Text) (state : σ) :
    (cache.ask (.get key)).run state =
      (.found ((cache.get key).run state).1, ((cache.get key).run state).2) :=
  rfl

theorem run_ask_set (cache : RenderCache (StateM σ)) (key markup : Text) (lifetime : Duration)
    (state : σ) : (cache.ask (.set key markup lifetime)).run state =
      (.stored ((cache.set key markup lifetime).run state).1,
        ((cache.set key markup lifetime).run state).2) :=
  rfl

theorem after_cons (cache : RenderCache (StateM σ)) (start : σ) (request : Request)
    (later : List Request) : cache.after start (request :: later) =
      cache.after ((cache.ask request).run start).2 later :=
  rfl

theorem after_append (cache : RenderCache (StateM σ)) (start : σ) (before later : List Request) :
    cache.after start (before ++ later) = cache.after (cache.after start before) later :=
  List.foldl_append

/-- Whether what a cache answers in a run was stored in that run under the same key. -/
def Honest (cache : RenderCache (StateM σ)) (start : σ) : Prop :=
  ∀ requests key markup, ((cache.get key).run (cache.after start requests)).1 = .ok (some markup) →
    ∃ lifetime, Request.set key markup lifetime ∈ requests

/-- Nothing was stored at the start of a run, so an honest cache finds nothing. -/
theorem Honest.get_start_ne {cache : RenderCache (StateM σ)} {start : σ}
    (honest : cache.Honest start) (key markup : Text) :
    ((cache.get key).run start).1 ≠ .ok (some markup) := by
  intro found
  obtain ⟨_, stored⟩ := honest [] key markup found
  cases stored

/-- Whether markup that is stored for a lifetime, once its key was looked up, is found again. -/
def Keeps (cache : RenderCache (StateM σ)) (start : σ) (lifetime : Duration) : Prop :=
  ∀ key markup, ((cache.get key).run
    (cache.after start [.get key, .set key markup lifetime])).1 = .ok (some markup)

end RenderCache

end Highlight
