import Highlight.Cache.Memory
import Highlight.Proofs.Cache.Run

/-!
# What a history of requests leaves behind

A run is a list of steps: requests, each with the time by two clocks. What a step is told may depend
on the steps before it, and `Step.replies` are the replies of a run. A lookup asks for the markup of
the last store under its key, unless that was stored for no time (`Request.latest`), which says
nothing of times (`Step.asked`). If what a step is told depends on the steps about its key alone, so
do all replies about a key in a run (`Step.about_replies`).

An entry of a cache serves a run if, at the times at which requests are still to come, it gives the
answers that are asked for (`Serves`). A cache that replies as the history asks, one step after
another, does so in a run (`run_mapM_of_step`).
-/

namespace Highlight

namespace Request

/-- The key that a request is about. -/
def key : Request → Text
  | get key => key
  | set key _ _ => key

/-- For how long a request stores something. -/
def lifetime : Request → Duration
  | get _ => 0
  | set _ _ lifetime => lifetime

/-- Whether a request stores something under a key. -/
def stores (key : Text) : Request → Bool
  | get _ => false
  | set other _ _ => other = key

/-- What there is under a key after one more request. -/
def remember (key : Text) (known : Option Text) : Request → Option Text
  | get _ => known
  | set other markup lifetime =>
    if other = key then if lifetime = 0 then none else some markup else known

/-- The markup of the last store under a key, unless that was stored for no time. -/
def latest (key : Text) (history : List Request) : Option Text :=
  history.foldl (remember key) none

/-- The reply that a request asks for after a history. -/
def reply (history : List Request) : Request → Reply
  | get key => .found (.ok (latest key history))
  | set _ _ _ => .stored (.ok ())

variable {key : Text} {request : Request}

/-- Only a request about a key stores under it. -/
theorem key_eq_of_stores (h : request.stores key = true) : request.key = key := by
  cases request with
  | get other => cases h
  | set other markup lifetime => exact of_decide_eq_true h

theorem latest_append (key : Text) (history : List Request) (request : Request) :
    latest key (history ++ [request]) = remember key (latest key history) request :=
  List.foldl_append

/-- A request about another key leaves what there is under a key. -/
theorem remember_of_ne {known : Option Text} (h : request.key ≠ key) :
    remember key known request = known := by
  cases request with
  | get other => rfl
  | set other markup lifetime => exact if_neg h

/-- What there is under a key depends on the requests about it. -/
theorem latest_filter (key : Text) (history : List Request) :
    latest key (history.filter fun request => request.key = key) = latest key history := by
  unfold latest
  rw [List.foldl_filter]
  congr 1
  funext known request
  split
  · rfl
  · next other => exact (remember_of_ne (by simpa using other)).symm

theorem reply_filter (history : List Request) (request : Request) :
    request.reply (history.filter fun other => other.key = request.key) =
      request.reply history := by
  cases request with
  | get key => exact congrArg (fun answer => Reply.found (.ok answer)) (latest_filter key history)
  | set key markup lifetime => rfl

end Request

/-! ## Times -/

/-- A request, with the time by each of two clocks: the nanoseconds since the epoch, and those since
the clock of the machine was started. -/
structure Step where
  request : Request
  wall : Nat
  uptime : Nat

namespace Step

/-- The second since the epoch at which a request is made. -/
def second (step : Step) : Nat := secondOf step.wall

section Paced

variable {clock : Step → Nat} {bound : Nat} {step : Step} {rest steps : List Step}

/-- Whether a step goes before another by a clock: the clock does not go back, and what the step
stores either does not last at all or is still there. -/
def Before (clock : Step → Nat) (step later : Step) : Prop :=
  clock step ≤ clock later ∧
    (step.request.lifetime = 0 ∨ clock later < clock step + step.request.lifetime.nanoseconds)

instance (clock : Step → Nat) : DecidableRel (Before clock) := fun step later =>
  inferInstanceAs (Decidable (clock step ≤ clock later ∧
    (step.request.lifetime = 0 ∨ clock later < clock step + step.request.lifetime.nanoseconds)))

/-- Whether steps follow each other by a clock that counts up to a bound. -/
structure Paced (clock : Step → Nat) (bound : Nat) (steps : List Step) : Prop where
  ordered : steps.Pairwise (Before clock)
  counted : ∀ step ∈ steps, clock step < bound

theorem Paced.sublist (paced : Paced clock bound steps) (sub : rest.Sublist steps) :
    Paced clock bound rest :=
  ⟨paced.ordered.sublist sub, fun step mem => paced.counted step (sub.subset mem)⟩

theorem Paced.tail (paced : Paced clock bound (step :: rest)) : Paced clock bound rest :=
  paced.sublist (List.sublist_cons_self step rest)

/-- What comes after a step comes no earlier. -/
theorem Paced.onward (paced : Paced clock bound (step :: rest)) :
    ∀ time ∈ rest.map clock, clock step ≤ time := by
  intro time mem
  obtain ⟨later, ahead, rfl⟩ := List.mem_map.mp mem
  exact ((List.pairwise_cons.mp paced.ordered).1 later ahead).1

/-- What a step stores for some time lasts. -/
theorem Paced.lasts (paced : Paced clock bound (step :: rest))
    (nonzero : step.request.lifetime ≠ 0) :
    ∀ time ∈ rest.map clock, time < clock step + step.request.lifetime.nanoseconds := by
  intro time mem
  obtain ⟨later, ahead, rfl⟩ := List.mem_map.mp mem
  exact ((List.pairwise_cons.mp paced.ordered).1 later ahead).2.resolve_left nonzero

/-- What was done before a step goes before it. -/
theorem Paced.before {i : Nat} (paced : Paced clock bound steps) (h : i < steps.length)
    {made : Step} (mem : made ∈ steps.take i) : Before clock made steps[i] := by
  have ordered := paced.ordered
  rw [← List.take_append_drop i steps, List.drop_eq_getElem_cons h] at ordered
  exact (List.pairwise_append.mp ordered).2.2 made mem steps[i] List.mem_cons_self

end Paced

/-! ## The last store -/

/-- What was stored last under a key, after one more step. -/
def keepLast (key : Text) (last : Option Step) (step : Step) : Option Step :=
  if step.request.stores key then some step else last

/-- The last store under a key. -/
def lastStore? (key : Text) (history : List Step) : Option Step :=
  history.foldl (keepLast key) none

variable {key : Text} {history : List Step} {step made : Step}

theorem lastStore?_append (key : Text) (history : List Step) (step : Step) :
    lastStore? key (history ++ [step]) = keepLast key (lastStore? key history) step :=
  List.foldl_append

/-- The last store under a key is one of the history. -/
theorem of_mem_lastStore? (h : made ∈ lastStore? key history) :
    made ∈ history ∧ made.request.stores key = true := by
  refine List.foldlRecOn (motive := fun last => ∀ made ∈ last, made ∈ history ∧
    made.request.stores key = true) history (keepLast key) (by simp) ?_ made h
  intro last known step mem made found
  unfold keepLast at found
  split at found
  · next stores =>
    obtain rfl := Option.some.inj found
    exact ⟨mem, stores⟩
  · exact known made found

/-- The last store under a key depends on the steps about it. -/
theorem lastStore?_filter (key : Text) (history : List Step) :
    lastStore? key (history.filter fun step => step.request.key = key) =
      lastStore? key history := by
  unfold lastStore?
  rw [List.foldl_filter]
  congr 1
  funext last step
  split
  · rfl
  · next other =>
    have other : ¬ step.request.stores key = true := fun stores =>
      other (decide_eq_true (Request.key_eq_of_stores stores))
    exact (if_neg other).symm

/-- What there is under a key is what the last store under it has left there. -/
theorem latest_map_request (key : Text) (history : List Step) :
    Request.latest key (history.map (·.request)) =
      (lastStore? key history).bind fun made => Request.remember key none made.request := by
  let left (last : Option Step) : Option Text :=
    last.bind fun made => Request.remember key none made.request
  unfold Request.latest lastStore?
  rw [List.foldl_map]
  refine (List.foldl_hom left ?_ :
    history.foldl (fun known step => Request.remember key known step.request) (left none) =
      left (history.foldl (keepLast key) none))
  intro last step
  unfold left keepLast
  cases request : step.request with
  | get other => simp [Request.stores, Request.remember]
  | set other markup lifetime =>
    by_cases same : other = key
    · simp [Request.stores, Request.remember, same, request]
    · simp [Request.stores, Request.remember, same]

/-! ## Replies -/

variable {reply reply' : List Step → Step → Reply} {steps : List Step}

/-- The replies of the steps after a history, each told by the steps before it. -/
def replies (reply : List Step → Step → Reply) : List Step → List Step → List Reply
  | _, [] => []
  | history, step :: later => reply history step :: replies reply (history ++ [step]) later

/-- The reply that a step asks for: it depends on no time. -/
def asked (history : List Step) (step : Step) : Reply :=
  step.request.reply (history.map (·.request))

/-- The replies to steps about a key. -/
def about (key : Text) (steps : List Step) (replies : List Reply) : List Reply :=
  ((steps.zip replies).filter fun pair => pair.1.request.key = key).map Prod.snd

/-- Whether what a step is told depends on the steps about its key. -/
def IsLocal (reply : List Step → Step → Reply) : Prop :=
  ∀ history step, reply (history.filter fun other => other.request.key = step.request.key) step =
    reply history step

theorem isLocal_asked : IsLocal asked := by
  intro history step
  unfold asked
  have only := List.filter_map (f := (·.request)) (l := history)
    (p := fun request => decide (request.key = step.request.key))
  rw [← Request.reply_filter (history.map _) step.request, only]
  rfl

/-- **The replies about a key** are those of the steps about it alone. -/
theorem about_replies (isLocal : IsLocal reply) (key : Text) (history steps : List Step) :
    about key steps (replies reply history steps) =
      replies reply (history.filter fun step => step.request.key = key)
        (steps.filter fun step => step.request.key = key) := by
  induction steps generalizing history with
  | nil => rfl
  | cons step later ih =>
    have rest := ih (history ++ [step])
    rw [List.filter_append] at rest
    unfold about at rest ⊢
    rw [replies, List.zip_cons_cons]
    by_cases same : step.request.key = key
    · subst same
      rw [List.filter_cons_of_pos (by simp), List.filter_cons_of_pos (by simp), List.map_cons, rest,
        replies, isLocal history step]
      simp
    · rw [List.filter_cons_of_neg (by simpa using same),
        List.filter_cons_of_neg (by simpa using same), rest]
      simp [same]

/-- Two ways to reply are alike in a run just if they are so at each of its steps. -/
theorem replies_eq_iff : replies reply history steps = replies reply' history steps ↔
    ∀ i, (h : i < steps.length) →
      reply (history ++ steps.take i) steps[i] = reply' (history ++ steps.take i) steps[i] := by
  induction steps generalizing history with
  | nil => simp [replies]
  | cons step later ih =>
    rw [replies, replies, List.cons.injEq, ih]
    constructor
    · rintro ⟨first, rest⟩ i h
      cases i with
      | zero => simpa using first
      | succ i => simpa using rest i (by simpa using h)
    · intro each
      have first := each 0 (Nat.zero_lt_succ _)
      refine ⟨by simpa using first, ?_⟩
      intro i h
      have next := each (i + 1) (Nat.succ_lt_succ h)
      simpa using next

end Step

/-! ## Entries -/

/-- Whether an entry gives the answer that is asked for at each of some times. -/
def Serves (entry : Option MemoryCache.Entry) (times : List Nat) (answer : Nat → Option Text) :
    Prop :=
  ∀ time ∈ times, (entry.filter fun entry => entry.isLive time).map (·.markup) = answer time

namespace Serves

variable {entry : Option MemoryCache.Entry} {times : List Nat} {answer : Nat → Option Text}
  {time now : Nat}

theorem tail (serves : Serves entry (time :: times) answer) : Serves entry times answer :=
  fun later mem => serves later (List.mem_cons_of_mem _ mem)

/-- Where there is no entry there is no answer. -/
theorem none (times : List Nat) : Serves .none times fun _ => .none := fun _ _ => rfl

/-- An entry that is past its time at some time is so later. -/
theorem isLive_mono {entry : MemoryCache.Entry} (h : now ≤ time) (live : entry.isLive time = true) :
    entry.isLive now = true := by
  unfold MemoryCache.Entry.isLive at live ⊢
  cases expiry : entry.expiry with
  | none => rfl
  | some stop =>
    rw [expiry] at live
    have early : time < stop := by simpa using live
    simpa using Nat.lt_of_le_of_lt h early

/-- Dropping an entry that is past its time changes no answer from then on. -/
theorem sweep (serves : Serves entry times answer) (onward : ∀ time ∈ times, now ≤ time) :
    Serves (entry.filter fun entry => entry.isLive now) times answer := by
  intro time mem
  rw [← serves time mem, Option.filter_filter]
  congr 2
  funext entry
  cases live : entry.isLive time with
  | false => rw [Bool.and_false]
  | true => rw [isLive_mono (onward time mem) live, Bool.and_true]

end Serves

/-! ## Runs -/

/-- **A cache that replies as the history asks**, one step after another, does so in a run. -/
theorem run_mapM_of_step {σ : Type} (act : Step → StateM σ Reply)
    (reply : List Step → Step → Reply) (Inv : List Step → List Step → σ → Prop)
    (one : ∀ history step rest state, Inv history (step :: rest) state →
      ((act step).run state).1 = reply history step ∧
        Inv (history ++ [step]) rest ((act step).run state).2)
    {history steps : List Step} {state : σ} (start : Inv history steps state) :
    ((steps.mapM act).run state).1 = Step.replies reply history steps := by
  induction steps generalizing history state with
  | nil => rfl
  | cons step rest ih =>
    obtain ⟨reply, next⟩ := one history step rest state start
    rw [List.mapM_cons, run_bind, run_bind, Step.replies, ← reply, ← ih next]
    rfl

end Highlight
