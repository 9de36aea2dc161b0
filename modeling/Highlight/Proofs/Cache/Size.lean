import Highlight.Proofs.Cache.Memory
import Mathlib.Data.List.Dedup
import Mathlib.Data.List.Induction
import Mathlib.Data.List.Pairwise

/-!
# How much a cache in memory holds

Where lifetimes are no time at all or last for the run, there is an entry for each key under which
the last store was for some time (`Request.lasting`), and one more at most: what was stored last of
all, if that was for no time and nobody has looked it up (`Request.Lingers`). One step keeps this
(`Stocks.act`), and so the size of the cache is known after every step of a run
(`size_within_run`): no entry is lost that is still valid, and past its time there is at most one.
-/

namespace Highlight

namespace Request

variable {key other markup : Text} {lifetime : Duration} {history : List Request}

/-- The keys under which the last store was for some time. -/
def lasting (history : List Request) : List Text :=
  (history.map Request.key).dedup.filter fun key => (latest key history).isSome

/-- Whether the last store of all was for no time and under some key, and that key has not been
looked up since. -/
def Lingers (key : Text) (history : List Request) : Prop :=
  ∃ before markup later, history = before ++ .set key markup 0 :: later ∧
    ∀ request ∈ later, ∃ other, request = .get other ∧ other ≠ key

/-- A lookup is the end of what lingers under its key. -/
theorem lingers_get : Lingers key (history ++ [.get other]) ↔ other ≠ key ∧ Lingers key history := by
  constructor
  · rintro ⟨before, markup, later, split, lookups⟩
    rcases List.eq_nil_or_concat' later with rfl | ⟨earlier, last, rfl⟩
    · cases (List.append_inj' split rfl).2
    · rw [← List.cons_append, ← List.append_assoc] at split
      obtain ⟨rfl, same⟩ := List.append_inj' split rfl
      obtain ⟨_, rfl, differs⟩ := lookups last (List.mem_append_right _ List.mem_cons_self)
      cases same
      exact ⟨differs, before, markup, earlier, rfl,
        fun request mem => lookups request (List.mem_append_left _ mem)⟩
  · rintro ⟨differs, before, markup, later, rfl, lookups⟩
    refine ⟨before, markup, later ++ [.get other], by simp, ?_⟩
    intro request mem
    rcases List.mem_append.mp mem with earlier | last
    · exact lookups request earlier
    · exact ⟨other, List.mem_singleton.mp last, differs⟩

/-- A store lingers itself, if it is for no time, and nothing else does. -/
theorem lingers_set : Lingers key (history ++ [.set other markup lifetime]) ↔
    other = key ∧ lifetime = 0 := by
  constructor
  · rintro ⟨before, text, later, split, lookups⟩
    rcases List.eq_nil_or_concat' later with rfl | ⟨earlier, last, rfl⟩
    · cases (List.append_inj' split rfl).2
      exact ⟨rfl, rfl⟩
    · rw [← List.cons_append, ← List.append_assoc] at split
      obtain ⟨_, rfl, _⟩ := lookups last (List.mem_append_right _ List.mem_cons_self)
      cases (List.append_inj' split rfl).2
  · rintro ⟨rfl, rfl⟩
    exact ⟨history, markup, [], rfl, fun _ mem => by cases mem⟩

/-- Nothing lingers at first. -/
theorem not_lingers_nil : ¬ Lingers key [] := by
  rintro ⟨before, _, _, split, _⟩
  exact List.append_ne_nil_of_right_ne_nil before (List.cons_ne_nil _ _) split.symm

/-- One key lingers at most. -/
theorem Lingers.unique (h : Lingers key history) (h' : Lingers other history) : key = other := by
  induction history using List.reverseRecOn with
  | nil => exact absurd h not_lingers_nil
  | append_singleton history request ih =>
    cases request with
    | get looked => exact ih (lingers_get.mp h).2 (lingers_get.mp h').2
    | set stored markup lifetime => exact (lingers_set.mp h).1.symm.trans (lingers_set.mp h').1

/-- What lingers is not there to be found. -/
theorem Lingers.latest_eq (h : Lingers key history) : latest key history = none := by
  induction history using List.reverseRecOn with
  | nil => exact absurd h not_lingers_nil
  | append_singleton history request ih =>
    rw [latest_append]
    cases request with
    | get looked => exact ih (lingers_get.mp h).2
    | set stored markup lifetime =>
      obtain ⟨rfl, rfl⟩ := lingers_set.mp h
      simp [remember]

theorem mem_lasting : key ∈ lasting history ↔ (latest key history).isSome := by
  unfold lasting
  rw [List.mem_filter, List.mem_dedup, and_iff_right_iff_imp]
  intro found
  by_contra absent
  have none : history.filter (fun request => request.key = key) = [] := by
    refine List.filter_eq_nil_iff.mpr ?_
    intro request mem same
    exact absent (List.mem_map.mpr ⟨request, mem, of_decide_eq_true same⟩)
  rw [← latest_filter, none] at found
  cases found

theorem nodup_lasting (history : List Request) : (lasting history).Nodup :=
  (List.nodup_dedup _).filter _

end Request

namespace Step

variable {clock : Step → Nat} {bound : Nat} {steps before : List Step} {made step : Step}

/-- Whether what a step stores, if it is for some time, is valid at the time of a step. -/
def Outlasts (clock : Step → Nat) (made step : Step) : Prop :=
  made.request.lifetime = 0 ∨ clock step < clock made + made.request.lifetime.nanoseconds

theorem outlasts_of_le (early : clock step ≤ clock made) : Outlasts clock made step := by
  by_cases zero : made.request.lifetime = 0
  · exact .inl zero
  · exact .inr (Nat.lt_of_le_of_lt early
      (Nat.lt_add_of_pos_right (Duration.nanoseconds_pos zero)))

/-- What a step stores is valid as long as the run goes on. -/
theorem Paced.outlasts (paced : Paced clock bound steps) (among : made ∈ steps)
    (mem : step ∈ steps) : Outlasts clock made step := by
  have onward : steps.Pairwise (Outlasts clock) := paced.ordered.imp fun order => order.2
  have back : steps.Pairwise (flip (Outlasts clock)) :=
    paced.ordered.imp fun order => outlasts_of_le order.1
  exact onward.forall_of_forall_of_flip (fun step _ => outlasts_of_le (Nat.le_refl _)) back
    among mem

/-- A run may be stopped after any of its steps, at the time of any later one. -/
theorem Paced.stopped (paced : Paced Step.uptime bound steps) (part : before <+: steps)
    (mem : step ∈ steps) (reached : ∀ made ∈ before, made.uptime ≤ step.uptime) :
    Paced Step.uptime bound (before ++ [⟨.get [], step.wall, step.uptime⟩]) where
  ordered := by
    refine List.pairwise_append.mpr
      ⟨paced.ordered.sublist part.sublist, List.pairwise_singleton _ _, ?_⟩
    intro made among last here
    have lasts := paced.outlasts (part.subset among) mem
    rw [List.mem_singleton.mp here]
    exact ⟨reached made among, lasts⟩
  counted := by
    intro made among
    rcases List.mem_append.mp among with earlier | last
    · exact paced.counted made (part.subset earlier)
    · rw [List.mem_singleton.mp last]
      exact paced.counted step mem

end Step

namespace MemoryCache

open Request (Lingers lasting latest)

variable {cache : MemoryCache} {key markup : Text} {now : Nat} {history : List Request}
  {step : Step} {steps rest before : List Step}

/-- Whether a cache has entries for what lasts and for what lingers, and no others. -/
def Stocks (history : List Request) (cache : MemoryCache) : Prop :=
  ∀ key, (cache.entries.lookup key).isSome ↔ (latest key history).isSome ∨ Lingers key history

/-! ## Steps -/

/-- At the time of a step, what is valid is what lasts. -/
theorem Ready.isSome_filter (ready : Ready history (step :: rest) cache) (key : Text) :
    ((cache.entries.lookup key).filter fun entry => entry.isLive step.uptime).isSome =
      (latest key history).isSome := by
  rw [← ready.answer, Option.isSome_map]

theorem Stocks.get (stocks : Stocks history cache) (ready : Ready history (step :: rest) cache)
    (key : Text) : Stocks (history ++ [.get key]) (cache.get step.uptime key).2 := by
  intro other
  rw [lookup_get ready.nodup, Request.latest_append, Request.lingers_get]
  by_cases same : other = key
  · subst same
    simp [ready.isSome_filter, Request.remember]
  · simp [same, Ne.symm same, stocks other, Request.remember]

theorem Stocks.set (ready : Ready history (step :: rest) cache) (key markup : Text)
    (lifetime : Duration) : Stocks (history ++ [.set key markup lifetime])
      (cache.set step.uptime key markup lifetime) := by
  intro other
  rw [lookup_set ready.nodup, Request.latest_append, Request.lingers_set]
  by_cases same : other = key
  · subst same
    by_cases zero : lifetime = 0 <;> simp [Request.remember, zero]
  · simp [same, Ne.symm same, ready.isSome_filter, Request.remember]

/-- **A step keeps what lasts**, and leaves one entry more at most. -/
theorem Stocks.act (stocks : Stocks history cache) (ready : Ready history (step :: rest) cache) :
    Stocks (history ++ [step.request]) ((act step).run cache).2 := by
  cases request : step.request with
  | get key =>
    rw [run_act_get request]
    exact stocks.get ready key
  | set key markup lifetime =>
    rw [run_act_set request]
    exact Stocks.set ready key markup lifetime

/-! ## Runs -/

/-- **A run keeps what lasts.** -/
theorem Stocks.run (stocks : Stocks history cache) (ready : Ready history (steps ++ rest) cache) :
    Stocks (history ++ steps.map (·.request)) ((steps.mapM MemoryCache.act).run cache).2 ∧
      Ready (history ++ steps.map (·.request)) rest
        ((steps.mapM MemoryCache.act).run cache).2 := by
  induction steps generalizing history cache with
  | nil =>
    rw [List.map_nil, List.append_nil]
    exact ⟨stocks, ready⟩
  | cons step steps ih =>
    have next := ih (stocks.act ready) (run_act ready).2
    rw [List.append_assoc] at next
    rw [List.mapM_cons, run_bind, run_bind]
    exact next

/-! ## Sizes -/

theorem mem_keys_iff {entries : List (Text × Entry)} :
    key ∈ entries.map Prod.fst ↔ (entries.lookup key).isSome := by
  simp [List.lookup_isSome_iff]

theorem size_eq_length (cache : MemoryCache) :
    cache.size = (cache.entries.map Prod.fst).length :=
  (List.length_map _).symm

/-- Nothing lingers, and there are as many entries as keys that last. -/
theorem Stocks.size_eq (stocks : Stocks history cache) (nodup : (cache.entries.map Prod.fst).Nodup)
    (none : ¬ ∃ key, Lingers key history) : cache.size = (lasting history).length := by
  have same : (cache.entries.map Prod.fst).Perm (lasting history) := by
    refine (List.perm_ext_iff_of_nodup nodup (Request.nodup_lasting history)).mpr fun key => ?_
    rw [mem_keys_iff, stocks key, Request.mem_lasting]
    exact or_iff_left fun lingers => none ⟨key, lingers⟩
  rw [size_eq_length, same.length_eq]

/-- Something lingers, and there is one entry more. -/
theorem Stocks.size_eq_succ (stocks : Stocks history cache)
    (nodup : (cache.entries.map Prod.fst).Nodup) (lingers : Lingers key history) :
    cache.size = (lasting history).length + 1 := by
  have apart : key ∉ lasting history := by simp [Request.mem_lasting, lingers.latest_eq]
  have same : (cache.entries.map Prod.fst).Perm (key :: lasting history) := by
    refine (List.perm_ext_iff_of_nodup nodup
      (List.nodup_cons.mpr ⟨apart, Request.nodup_lasting history⟩)).mpr fun other => ?_
    rw [mem_keys_iff, stocks other, List.mem_cons, Request.mem_lasting, or_comm]
    refine or_congr_left ⟨fun also => also.unique lingers, ?_⟩
    rintro rfl
    exact lingers
  rw [size_eq_length, same.length_eq, List.length_cons]

/-- The entries that are past their time. -/
def spent (cache : MemoryCache) (now : Nat) : List (Text × Entry) :=
  cache.entries.filter fun entry => !entry.2.isLive now

/-- What is past its time lingers. -/
theorem Stocks.lingers_of_spent (stocks : Stocks history cache)
    (ready : Ready history (step :: rest) cache)
    (mem : key ∈ (cache.spent step.uptime).map Prod.fst) : Lingers key history := by
  rw [mem_keys_iff, spent, lookup_filter ready.nodup] at mem
  obtain ⟨entry, found⟩ := Option.isSome_iff_exists.mp mem
  obtain ⟨there, past⟩ := Option.filter_eq_some_iff.mp found
  have gone : (latest key history).isSome = false := by
    rw [← ready.isSome_filter, there]
    simpa [Option.filter_some] using past
  refine ((stocks key).mp ?_).resolve_left ?_
  · simp [there]
  · simp [gone]

/-- **Past its time there is one entry at most.** -/
theorem Stocks.length_spent_le (stocks : Stocks history cache)
    (ready : Ready history (step :: rest) cache) : (cache.spent step.uptime).length ≤ 1 := by
  cases first : (cache.spent step.uptime).map Prod.fst with
  | nil => simp [List.map_eq_nil_iff.mp first]
  | cons key others =>
    have here : key ∈ (cache.spent step.uptime).map Prod.fst := first ▸ List.mem_cons_self
    have alike : ∀ other ∈ (cache.spent step.uptime).map Prod.fst, other = key := fun other mem =>
      (stocks.lingers_of_spent ready mem).unique (stocks.lingers_of_spent ready here)
    have nodup : ((cache.spent step.uptime).map Prod.fst).Nodup := nodup_filter ready.nodup _
    rwa [List.eq_replicate_of_mem alike, List.nodup_replicate, List.length_map] at nodup

/-- What lasts is there, and valid. -/
theorem Ready.exists_entry (ready : Ready history (step :: rest) cache)
    (found : latest key history = some markup) :
    ∃ entry, cache.entries.lookup key = some entry ∧ entry.isLive step.uptime = true ∧
      entry.markup = markup := by
  have answer := ready.answer key
  rw [found] at answer
  obtain ⟨entry, there, same⟩ := Option.map_eq_some_iff.mp answer
  obtain ⟨there, live⟩ := Option.filter_eq_some_iff.mp there
  exact ⟨entry, there, live, same⟩

/-! ## After every step of a run -/

/-- Before a run there is nothing that could last or linger. -/
theorem stocks_nil : Stocks [] {} := by
  intro key
  have absent : ¬ Lingers key [] := Request.not_lingers_nil
  simp [latest, absent]

/-- **The size of a cache in memory**, after every step of a run with lifetimes of no time or longer
than the run: as many entries as keys under which the last store was for some time, and one more
while the last store of all was for no time and nobody has looked it up. As long as the run goes on,
an entry at most is past its time, and what was stored for some time is there and valid. -/
theorem size_within_run (paced : Step.Paced Step.uptime clockBound steps) (part : before <+: steps) :
    let cache := ((before.mapM act).run {}).2
    let history := before.map (·.request)
    ((∃ key, Lingers key history) → cache.size = (lasting history).length + 1) ∧
      ((¬ ∃ key, Lingers key history) → cache.size = (lasting history).length) ∧
      ∀ step ∈ steps, (∀ made ∈ before, made.uptime ≤ step.uptime) →
        (cache.spent step.uptime).length ≤ 1 ∧
          ∀ key markup, latest key history = some markup →
            ∃ entry, cache.entries.lookup key = some entry ∧ entry.isLive step.uptime = true ∧
              entry.markup = markup := by
  intro cache history
  have ready : ∀ rest, Step.Paced Step.uptime clockBound (before ++ rest) →
      Ready [] (before ++ rest) {} := fun rest paced => ⟨paced, List.nodup_nil, fun _ => .none _⟩
  have whole : Step.Paced Step.uptime clockBound (before ++ []) := by
    rw [List.append_nil]
    exact paced.sublist part.sublist
  obtain ⟨stocks, done⟩ := stocks_nil.run (ready [] whole)
  refine ⟨?_, stocks.size_eq done.nodup, ?_⟩
  · rintro ⟨key, lingers⟩
    exact stocks.size_eq_succ done.nodup lingers
  · intro step mem reached
    obtain ⟨stocks, stopped⟩ := stocks_nil.run (ready _ (paced.stopped part mem reached))
    have past := stocks.length_spent_le stopped
    exact ⟨past, fun key markup => stopped.exists_entry⟩

/-- What was stored for no time lingers beside what lasts, until it is looked up, and takes nothing
else along. -/
theorem size_within_run_lingering :
    let steps : List Step :=
      [⟨.set "a" "1" (.ofSeconds (Text.numeralBound - 1)), 0, 3⟩, ⟨.set "b" "2" 60, 0, 3⟩,
        ⟨.set "b" "" 0, 0, 4⟩, ⟨.get "a", 0, 4⟩, ⟨.get "b", 0, 5⟩, ⟨.set "b" "3" 60, 0, 5⟩]
    let before := steps.take 4
    let cache := ((before.mapM act).run {}).2
    Step.Paced Step.uptime clockBound steps ∧ before <+: steps ∧ cache.size = 2 ∧
      (cache.spent 5).map Prod.fst = ["b".toList] ∧
      ∃ entry, cache.entries.lookup "a".toList = some entry ∧ entry.isLive 5 = true ∧
        entry.markup = "1".toList := by
  intro steps before cache
  have paced : Step.Paced Step.uptime clockBound steps := ⟨by decide, by decide⟩
  have part : before <+: steps := List.take_prefix 4 steps
  have lingers : Lingers "b" (before.map (·.request)) :=
    ⟨[.set "a" "1" (.ofSeconds (Text.numeralBound - 1)), .set "b" "2" 60], "", [.get "a"], rfl,
      by simp⟩
  have later : ∀ made ∈ before, made.uptime ≤ 5 := by decide
  obtain ⟨more, -, onward⟩ := size_within_run paced part
  obtain ⟨-, valid⟩ := onward ⟨.get "b", 0, 5⟩ (by simp [steps]) later
  exact ⟨paced, part, more ⟨_, lingers⟩, by decide +kernel, valid "a" "1" rfl⟩

end MemoryCache

end Highlight
