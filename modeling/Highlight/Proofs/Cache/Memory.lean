import Highlight.Cache.Memory
import Highlight.Proofs.Cache.History

/-!
# Caches in memory

What a cache in memory answers was stored in the run (`honest`), and where lifetimes last, each step
gets the reply that the history asks for (`run_act`). Each key is there at most once, so looking up
after a sweep is sweeping what is looked up (`lookup_filter`).
-/

namespace Highlight

namespace MemoryCache

variable {cache : MemoryCache} {now : Nat} {key markup : Text} {lifetime : Duration}
  {entry : Text × Entry}

/-! ## Requests to a cache in memory -/

section Clock

variable {clock : StateM MemoryCache Nat}

/-- Looking up, by a clock that leaves the cache as it is. -/
theorem run_get (still : ∀ cache, (clock.run cache).2 = cache) (cache : MemoryCache) (key : Text) :
    ((renderCache clock).get key).run cache =
      (.ok (cache.get (clock.run cache).1 key).1, (cache.get (clock.run cache).1 key).2) := by
  unfold renderCache
  rw [run_bind, still]
  rfl

/-- Storing, by a clock that leaves the cache as it is. -/
theorem run_set (still : ∀ cache, (clock.run cache).2 = cache) (cache : MemoryCache)
    (key markup : Text) (lifetime : Duration) :
    ((renderCache clock).set key markup lifetime).run cache =
      (.ok (), cache.set (clock.run cache).1 key markup lifetime) := by
  unfold renderCache
  rw [run_bind, still]
  rfl

end Clock

/-! ## Where entries come from -/

theorem mem_of_mem_erase (mem : entry ∈ (cache.erase key).entries) : entry ∈ cache.entries :=
  (List.mem_filter.mp mem).1

theorem mem_of_mem_sweep (mem : entry ∈ (cache.sweep now).entries) : entry ∈ cache.entries :=
  (List.mem_filter.mp mem).1

theorem mem_of_mem_get (mem : entry ∈ (cache.get now key).2.entries) : entry ∈ cache.entries := by
  unfold get at mem
  split at mem
  · exact mem
  · split at mem
    · exact mem
    · exact mem_of_mem_erase mem

theorem mem_of_mem_set (mem : entry ∈ (cache.set now key markup lifetime).entries) :
    entry = (key, ⟨markup, expiryOf now lifetime⟩) ∨ entry ∈ cache.entries := by
  rcases List.mem_cons.mp mem with new | old
  · exact .inl new
  · exact .inr (mem_of_mem_sweep (mem_of_mem_erase old))

theorem mem_of_get (h : (cache.get now key).1 = some markup) :
    ∃ expiry, (key, ⟨markup, expiry⟩) ∈ cache.entries := by
  unfold get at h
  split at h
  · cases h
  · next entry found =>
    split at h
    · obtain rfl := Option.some.inj h
      obtain ⟨_, _, split, _⟩ := List.lookup_eq_some_iff.mp found
      exact ⟨entry.expiry, split ▸ List.mem_append_right _ List.mem_cons_self⟩
    · cases h

/-- Every entry was there at the start, or was stored in the run. -/
theorem mem_after {clock : StateM MemoryCache Nat} (still : ∀ cache, (clock.run cache).2 = cache)
    {requests : List Request} {expiry : Option Nat}
    (mem : (key, ⟨markup, expiry⟩) ∈ ((renderCache clock).after cache requests).entries) :
    (∃ lifetime, Request.set key markup lifetime ∈ requests) ∨
      (key, ⟨markup, expiry⟩) ∈ cache.entries := by
  induction requests generalizing cache with
  | nil => exact .inr mem
  | cons request requests ih =>
    rw [RenderCache.after_cons] at mem
    rcases ih mem with ⟨lifetime, stored⟩ | before
    · exact .inl ⟨lifetime, List.mem_cons_of_mem _ stored⟩
    · cases request with
      | get other =>
        rw [RenderCache.run_ask_get, run_get still] at before
        exact .inr (mem_of_mem_get before)
      | set other text lifetime =>
        rw [RenderCache.run_ask_set, run_set still] at before
        rcases mem_of_mem_set before with new | old
        · cases new
          exact .inl ⟨lifetime, List.mem_cons_self⟩
        · exact .inr old

/-- **A cache in memory that starts empty is honest**, whatever its clock shows. -/
theorem honest {clock : StateM MemoryCache Nat} (still : ∀ cache, (clock.run cache).2 = cache) :
    (renderCache clock).Honest {} := by
  intro requests key markup answered
  rw [run_get still] at answered
  obtain ⟨expiry, mem⟩ := mem_of_get (Except.ok.inj answered)
  rcases mem_after still mem with stored | none
  · exact stored
  · cases none

/-- An entry is valid for its lifetime, and for ever if a clock cannot count so far. -/
theorem isLive_expiryOf {time : Nat} : Entry.isLive ⟨markup, expiryOf now lifetime⟩ time = true ↔
    clockBound ≤ now + lifetime.nanoseconds ∨ time < now + lifetime.nanoseconds := by
  have stop : expiryOf now lifetime = if now + lifetime.nanoseconds < clockBound then
      some (now + lifetime.nanoseconds) else none := rfl
  unfold Entry.isLive
  rw [stop]
  split
  · next early =>
    rw [Option.all_some, decide_eq_true_eq, or_iff_right (Nat.not_le.mpr early)]
  · next late => exact iff_of_true rfl (.inl (Nat.not_lt.mp late))

/-- **A cache in memory that starts empty keeps what it is given** for any time at all, while its
clock stands still. -/
theorem keeps {now : Nat} (lasts : lifetime ≠ 0) :
    (renderCache (pure now) : RenderCache (StateM MemoryCache)).Keeps {} lifetime := by
  intro key markup
  have still : ∀ cache : MemoryCache,
      ((pure now : StateM MemoryCache Nat).run cache).2 = cache := fun _ => rfl
  have live : Entry.isLive ⟨markup, expiryOf now lifetime⟩ now = true := by
    rw [isLive_expiryOf]
    exact .inr (Nat.lt_add_of_pos_right (Duration.nanoseconds_pos lasts))
  have stored : (renderCache (pure now)).after ({} : MemoryCache)
      [.get key, .set key markup lifetime] = ⟨[(key, ⟨markup, expiryOf now lifetime⟩)]⟩ := rfl
  rw [stored, run_get still, run_pure, get, List.lookup_cons_self]
  dsimp only
  rw [if_pos live]

/-! ## Entries by their keys -/

section Lookup

variable {other : Text}

/-- Looking up among some of the entries, where each key is there at most once. -/
theorem lookup_filter {entries : List (Text × Entry)} (nodup : (entries.map Prod.fst).Nodup)
    (keep : Text × Entry → Bool) (key : Text) :
    (entries.filter keep).lookup key =
      (entries.lookup key).filter fun entry => keep (key, entry) := by
  induction entries with
  | nil => rfl
  | cons head entries ih =>
    obtain ⟨name, entry⟩ := head
    obtain ⟨absent, others⟩ := List.nodup_cons.mp nodup
    by_cases same : key = name
    · subst same
      have none : entries.lookup key = none := by
        refine List.lookup_eq_none_iff.mpr ?_
        intro pair mem
        rw [bne_iff_ne]
        intro same
        exact absent (List.mem_map.mpr ⟨pair, mem, same.symm⟩)
      by_cases kept : keep (key, entry) = true
      · rw [List.filter_cons_of_pos kept, List.lookup_cons_self, List.lookup_cons_self,
          Option.filter_some, if_pos kept]
      · rw [List.filter_cons_of_neg kept, ih others, none, List.lookup_cons_self,
          Option.filter_some, if_neg kept, Option.filter_none]
    · have differs : (key == name) = false := by simpa using same
      by_cases kept : keep (name, entry) = true
      · rw [List.filter_cons_of_pos kept, List.lookup_cons, List.lookup_cons, differs, ih others]
      · rw [List.filter_cons_of_neg kept, List.lookup_cons, differs, ih others]

theorem nodup_filter {entries : List (Text × Entry)} (nodup : (entries.map Prod.fst).Nodup)
    (keep : Text × Entry → Bool) : ((entries.filter keep).map Prod.fst).Nodup :=
  nodup.sublist (List.filter_sublist.map _)

theorem nodup_sweep (nodup : (cache.entries.map Prod.fst).Nodup) :
    ((cache.sweep now).entries.map Prod.fst).Nodup :=
  nodup_filter nodup _

theorem nodup_erase (nodup : (cache.entries.map Prod.fst).Nodup) :
    ((cache.erase key).entries.map Prod.fst).Nodup :=
  nodup_filter nodup _

theorem lookup_erase (nodup : (cache.entries.map Prod.fst).Nodup) :
    (cache.erase key).entries.lookup other =
      if other = key then none else cache.entries.lookup other := by
  unfold erase
  rw [lookup_filter nodup]
  by_cases same : other = key
  · simp [same]
  · have kept : (other != key) = true := by simpa using same
    simp only [kept, if_neg same]
    cases cache.entries.lookup other <;> rfl

theorem lookup_sweep (nodup : (cache.entries.map Prod.fst).Nodup) :
    (cache.sweep now).entries.lookup key =
      (cache.entries.lookup key).filter fun entry => entry.isLive now :=
  lookup_filter nodup _ key

/-- A lookup answers with a valid entry. -/
theorem get_fst : (cache.get now key).1 =
    ((cache.entries.lookup key).filter fun entry => entry.isLive now).map (·.markup) := by
  unfold get
  cases cache.entries.lookup key with
  | none => rfl
  | some entry =>
    dsimp only
    rw [Option.filter_some]
    split <;> rfl

/-- A lookup leaves every entry, but one past its time under its key. -/
theorem lookup_get (nodup : (cache.entries.map Prod.fst).Nodup) :
    (cache.get now key).2.entries.lookup other =
      if other = key then (cache.entries.lookup key).filter fun entry => entry.isLive now
      else cache.entries.lookup other := by
  unfold get
  cases found : cache.entries.lookup key with
  | none =>
    dsimp only
    split
    · next same => rw [same, found, Option.filter_none]
    · rfl
  | some entry =>
    dsimp only
    rw [Option.filter_some]
    by_cases live : entry.isLive now = true
    · rw [if_pos live, if_pos live]
      split
      · next same => rw [same, found]
      · rfl
    · rw [if_neg live, if_neg live, lookup_erase nodup]

/-- A store puts one entry, and drops those past their time. -/
theorem lookup_set (nodup : (cache.entries.map Prod.fst).Nodup) :
    (cache.set now key markup lifetime).entries.lookup other =
      if other = key then some ⟨markup, expiryOf now lifetime⟩
      else (cache.entries.lookup other).filter fun entry => entry.isLive now := by
  unfold set
  dsimp only
  rw [List.lookup_cons]
  by_cases same : other = key
  · rw [if_pos same, beq_iff_eq.mpr same]
  · rw [if_neg same, beq_eq_false_iff_ne.mpr same]
    dsimp only
    rw [lookup_erase (nodup_sweep nodup), if_neg same, lookup_sweep nodup]

theorem nodup_get (nodup : (cache.entries.map Prod.fst).Nodup) :
    ((cache.get now key).2.entries.map Prod.fst).Nodup := by
  unfold get
  split
  · exact nodup
  · split
    · exact nodup
    · exact nodup_erase nodup

theorem nodup_set (nodup : (cache.entries.map Prod.fst).Nodup) :
    ((cache.set now key markup lifetime).entries.map Prod.fst).Nodup := by
  refine List.nodup_cons.mpr ⟨?_, nodup_erase (nodup_sweep nodup)⟩
  intro mem
  obtain ⟨entry, mem, same⟩ := List.mem_map.mp mem
  have differs := (List.mem_filter.mp mem).2
  rw [same, bne_self_eq_false] at differs
  cases differs

end Lookup

/-! ## Steps -/

/-- One step of a run. -/
def act (step : Step) : StateM MemoryCache Reply :=
  (renderCache (pure step.uptime)).ask step.request

theorem run_act_get {step : Step} (request : step.request = .get key) (cache : MemoryCache) :
    (act step).run cache =
      (.found (.ok (cache.get step.uptime key).1), (cache.get step.uptime key).2) := by
  unfold act
  rw [request, RenderCache.run_ask_get, run_get fun _ => rfl]
  rfl

theorem run_act_set {step : Step} (request : step.request = .set key markup lifetime)
    (cache : MemoryCache) : (act step).run cache =
      (.stored (.ok ()), cache.set step.uptime key markup lifetime) := by
  unfold act
  rw [request, RenderCache.run_ask_set, run_set fun _ => rfl]
  rfl

/-- Whether a cache has what the steps to come ask for. -/
structure Ready (history : List Request) (rest : List Step) (cache : MemoryCache) : Prop where
  paced : Step.Paced Step.uptime clockBound rest
  nodup : (cache.entries.map Prod.fst).Nodup
  serves : ∀ key, Serves (cache.entries.lookup key) (rest.map Step.uptime)
    fun _ => Request.latest key history

variable {history : List Request} {step : Step} {rest : List Step}

/-- At the time of a step, what is valid is what the history asks for. -/
theorem Ready.answer (ready : Ready history (step :: rest) cache) (key : Text) :
    ((cache.entries.lookup key).filter fun entry => entry.isLive step.uptime).map (·.markup) =
      Request.latest key history :=
  ready.serves key step.uptime List.mem_cons_self

/-- What is stored lasts for its lifetime, and not at all if that is no time. -/
theorem isLive_of_paced (paced : Step.Paced Step.uptime clockBound (step :: rest))
    (request : step.request = .set key markup lifetime) :
    ∀ time ∈ rest.map Step.uptime,
      Entry.isLive ⟨markup, expiryOf step.uptime lifetime⟩ time = decide (lifetime ≠ 0) := by
  have lasts := paced.lasts
  simp only [request, Request.lifetime] at lasts
  intro time mem
  have onward := paced.onward time mem
  have counted := paced.counted step List.mem_cons_self
  rw [Bool.eq_iff_iff, isLive_expiryOf, decide_eq_true_eq]
  by_cases zero : lifetime = 0
  · rw [Duration.nanoseconds_eq_zero.mpr zero, Nat.add_zero]
    have past := not_or.mpr ⟨Nat.not_le.mpr counted, Nat.not_lt.mpr onward⟩
    exact iff_of_false past fun nonzero => nonzero zero
  · exact ⟨fun _ => zero, fun _ => .inr (lasts zero time mem)⟩

theorem Ready.get (ready : Ready history (step :: rest) cache) (key : Text) :
    Ready (history ++ [.get key]) rest (cache.get step.uptime key).2 where
  paced := ready.paced.tail
  nodup := nodup_get ready.nodup
  serves other := by
    rw [lookup_get ready.nodup, Request.latest_append]
    split
    · next same =>
      subst same
      exact (ready.serves other).tail.sweep ready.paced.onward
    · exact (ready.serves other).tail

theorem Ready.set (ready : Ready history (step :: rest) cache)
    (request : step.request = .set key markup lifetime) :
    Ready (history ++ [.set key markup lifetime]) rest
      (cache.set step.uptime key markup lifetime) where
  paced := ready.paced.tail
  nodup := nodup_set ready.nodup
  serves other := by
    rw [lookup_set ready.nodup, Request.latest_append]
    by_cases same : other = key
    · subst same
      rw [if_pos rfl]
      intro time mem
      simp only [Request.remember, if_true, Option.filter_some,
        isLive_of_paced ready.paced request time mem]
      by_cases zero : lifetime = 0 <;> simp [zero]
    · rw [if_neg same, Request.remember_of_ne (Ne.symm same)]
      exact (ready.serves other).tail.sweep ready.paced.onward

/-- **A step of a cache in memory** gets the reply that the history asks for. -/
theorem run_act (ready : Ready history (step :: rest) cache) :
    ((act step).run cache).1 = step.request.reply history ∧
      Ready (history ++ [step.request]) rest ((act step).run cache).2 := by
  cases request : step.request with
  | get key =>
    rw [run_act_get request]
    refine ⟨?_, ready.get key⟩
    rw [get_fst, ready.answer]
    rfl
  | set key markup lifetime =>
    rw [run_act_set request]
    exact ⟨rfl, ready.set request⟩

end MemoryCache

end Highlight
