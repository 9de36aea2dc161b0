import Highlight.Proofs.Cache.Folder
import Highlight.Proofs.Cache.Memory

/-!
# Two caches, and where they differ

A cache in memory and a cache in a folder that nobody else touches, both empty at first, are asked
the same, with lifetimes that are no time at all or longer than the run. The one in memory replies as
the history asks. The one in a folder names the end of a lifetime in whole seconds, so it gives the
same replies just if every lookup comes before that second (`caches_agree_iff`); one that comes later
finds nothing. In both, what is asked about one key changes no reply about another.
-/

namespace Highlight

open Files (Fits)

/-- Whether a lookup comes in time by whole seconds: before the second that the last store under its
key names as its end, unless that was for no time. -/
def Step.InTime (history : List Step) (step : Step) : Prop :=
  match step.request with
  | .get key => ∀ made ∈ lastStore? key history, made.request.lifetime ≠ 0 →
      step.second < made.second + made.request.lifetime.seconds
  | .set _ _ _ => True

instance (history : List Step) (step : Step) : Decidable (step.InTime history) := by
  unfold Step.InTime
  split <;> infer_instance

/-- Whether requests can be made to a cache in a folder of a machine, and by each clock what they
store lasts for the run, or not at all. The folder is there or can be made, nothing is in it, and no
write breaks off. -/
structure Admissible (machine : Machine) (folder : Text) (steps : List Step) : Prop where
  keys : ∀ step ∈ steps, FileCache.isKey step.request.key = true
  named : FileCache.Named folder machine.stamps steps
  wall : Step.Paced Step.wall (FileCache.lastSecond * nanosPerSecond) steps
  uptime : Step.Paced Step.uptime MemoryCache.clockBound steps
  whole : machine.breaks = []
  made : (machine.files.makeFolders folder).2 = .ok ()
  vacant : ∀ name, Fits folder name →
    (machine.files.makeFolders folder).1.read (Path.child folder name) = .error .noEntry

variable {machine : Machine} {folder : Text} {steps rest history : List Step} {step : Step}

theorem Admissible.sublist (admissible : Admissible machine folder steps)
    (sub : rest.Sublist steps) : Admissible machine folder rest where
  keys step mem := admissible.keys step (sub.subset mem)
  named step mem stamp small := admissible.named step (sub.subset mem) stamp
    (Nat.lt_of_lt_of_le small (Nat.add_le_add_left sub.length_le _))
  wall := admissible.wall.sublist sub
  uptime := admissible.uptime.sublist sub
  whole := admissible.whole
  made := admissible.made
  vacant := admissible.vacant

/-- Replies of a cache in a folder. -/
theorem run_mapM_folder (admissible : Admissible machine folder steps) :
    ((steps.mapM (FileCache.act folder)).run machine).1 =
      Step.replies FileCache.reply [] steps := by
  refine run_mapM_of_step (FileCache.act folder) FileCache.reply (FileCache.Ready folder)
    (fun _ _ _ _ ready => FileCache.run_act ready) ?_
  have folders : machine.files.makeFolders folder =
      ((machine.files.makeFolders folder).1, .ok ()) := Prod.ext rfl admissible.made
  obtain ⟨base, opened⟩ := FileCache.exists_opened folders admissible.vacant
  have ordered := admissible.wall.ordered.imp fun order => order.1
  refine ⟨admissible.keys, admissible.named, ordered, admissible.whole, base, _, opened, ?_⟩
  intro key _ fits
  exact ⟨none, admissible.vacant _ fits, Serves.none _⟩

/-- Replies of a cache in memory. -/
theorem run_mapM_memory (admissible : Admissible machine folder steps) :
    ((steps.mapM MemoryCache.act).run {}).1 = Step.replies Step.asked [] steps := by
  refine run_mapM_of_step MemoryCache.act Step.asked
    (fun history => MemoryCache.Ready (history.map (·.request))) ?_ ?_
  · intro history step rest cache ready
    rw [List.map_append]
    exact MemoryCache.run_act ready
  · exact ⟨admissible.uptime, List.nodup_nil, fun key => Serves.none _⟩

/-- What a cache in a folder keeps of a store for some time is valid up to the second that is the sum
of the clock's and the lifetime's; what it keeps of one for no time never is. -/
theorem isLive_entry_iff {made : Step} (before : Step.Before Step.wall made step)
    (counted : step.wall < FileCache.lastSecond * nanosPerSecond) (markup : Text) :
    MemoryCache.Entry.isLive
        ⟨markup, some (FileCache.expiryOf made.wall made.request.lifetime)⟩ step.second = true ↔
      made.request.lifetime ≠ 0 ∧ step.second < made.second + made.request.lifetime.seconds := by
  have onward : made.second ≤ step.second := Nat.div_le_div_right before.1
  have last : step.second < FileCache.lastSecond :=
    Nat.div_lt_of_lt_mul (Nat.mul_comm _ _ ▸ counted)
  have live : MemoryCache.Entry.isLive
      ⟨markup, some (FileCache.expiryOf made.wall made.request.lifetime)⟩ step.second = true ↔
        step.second < made.second + made.request.lifetime.seconds := by
    simp only [MemoryCache.Entry.isLive, Option.all_some, decide_eq_true_eq, FileCache.expiryOf,
      Nat.lt_min, last, and_true]
    rfl
  rw [live, iff_and_self]
  intro early zero
  rw [zero] at early
  exact Nat.not_lt.mpr onward early

/-- **A step of a cache in a folder** is told what it asks for just if it comes in time. -/
theorem reply_eq_asked_iff (before : ∀ made ∈ history, Step.Before Step.wall made step)
    (counted : step.wall < FileCache.lastSecond * nanosPerSecond) :
    FileCache.reply history step = Step.asked history step ↔ step.InTime history := by
  unfold FileCache.reply Step.asked Step.InTime
  cases request : step.request with
  | set key markup lifetime => exact iff_of_true rfl trivial
  | get key =>
    simp only [Request.reply, Reply.found.injEq, Except.ok.injEq, FileCache.found?,
      Step.latest_map_request]
    cases last : Step.lastStore? key history with
    | none => simp
    | some made =>
      obtain ⟨mem, stores⟩ := Step.of_mem_lastStore? last
      have live := isLive_entry_iff (before made mem) counted
      obtain ⟨⟨other⟩ | ⟨other, markup, lifetime⟩, wall, uptime⟩ := made
      · cases stores
      · obtain rfl : other = key := of_decide_eq_true stores
        have live := live markup
        simp only [Request.lifetime] at live
        simp only [Option.bind_some, FileCache.entryOf, Option.filter_some, live, Request.remember,
          Request.lifetime]
        by_cases zero : lifetime = 0
        · simp [zero]
        · simp [zero]

/-- **A cache in memory replies as the history asks. A cache in a folder agrees with it just if every
lookup comes in time by whole seconds.** In both, the replies about a key are those of the run
without the requests about others. -/
theorem caches_agree_iff (machine : Machine) (folder : Text) (steps : List Step)
    (admissible : Admissible machine folder steps) :
    let inFolder := fun steps => ((steps.mapM (FileCache.act folder)).run machine).1
    let inMemory := fun steps => ((steps.mapM MemoryCache.act).run {}).1
    inMemory steps = Step.replies Step.asked [] steps ∧
      (inFolder steps = inMemory steps ↔
        ∀ i, (h : i < steps.length) → steps[i].InTime (steps.take i)) ∧
      ∀ key, Step.about key steps (inFolder steps) =
          inFolder (steps.filter fun step => step.request.key = key) ∧
        Step.about key steps (inMemory steps) =
          inMemory (steps.filter fun step => step.request.key = key) := by
  intro inFolder inMemory
  have folder := run_mapM_folder admissible
  have memory := run_mapM_memory admissible
  refine ⟨memory, ?_, ?_⟩
  · have replies : inFolder steps = inMemory steps ↔
        Step.replies FileCache.reply [] steps = Step.replies Step.asked [] steps := by
      rw [← folder, ← memory]
    rw [replies, Step.replies_eq_iff]
    refine forall_congr' fun i => forall_congr' fun h => ?_
    exact reply_eq_asked_iff (fun made mem => admissible.wall.before h mem)
      (admissible.wall.counted _ (List.getElem_mem h))
  · intro key
    have alone := admissible.sublist
      (List.filter_sublist (p := fun step => decide (step.request.key = key)))
    constructor
    · exact (congrArg _ folder).trans
        ((Step.about_replies FileCache.isLocal_reply key [] steps).trans
          (run_mapM_folder alone).symm)
    · exact (congrArg _ memory).trans
        ((Step.about_replies Step.isLocal_asked key [] steps).trans (run_mapM_memory alone).symm)

/-- Requests to a cache in a folder that is still to be made, on a machine without files. -/
theorem admissible_cache (keys : ∀ step ∈ steps, FileCache.isKey step.request.key = true)
    (sizes : ∀ step ∈ steps, ∀ stamp < steps.length,
      (FileCache.temporaryName step.request.key (Text.ofNumeral stamp)).byteSize ≤
          Files.nameLimit ∧
        (Path.child "cache" (FileCache.temporaryName step.request.key
          (Text.ofNumeral stamp))).byteSize < Files.pathLimit)
    (wall : Step.Paced Step.wall (FileCache.lastSecond * nanosPerSecond) steps)
    (uptime : Step.Paced Step.uptime MemoryCache.clockBound steps) :
    Admissible {} "cache" steps where
  keys := keys
  named step mem stamp small := by
    obtain ⟨fits, short⟩ := sizes step mem stamp (Nat.zero_add steps.length ▸ small)
    exact ⟨FileCache.isName_temporaryName (keys step mem) stamp, fits, short⟩
  wall := wall
  uptime := uptime
  whole := rfl
  made := rfl
  vacant name fits := by
    have folders : Files.makeFolders {} "cache" =
        (Files.put {} ["cache".toList] .folder, .ok ()) := rfl
    rw [folders]
    obtain ⟨_, base, located, places⟩ := Files.makeFolders_ok folders
    obtain rfl : base = ["cache".toList] := Except.ok.inj ((located (by decide)).symm.trans rfl)
    refine Files.read_of_none (places name fits).1 ?_
    rw [Files.at?_put_of_ne _ _ (by simp)]
    rfl

/-- Markup that starts with a line feed or a digit, or is empty, comes back as it was; what is
stored for no time hides what was stored before, under its own key only. -/
theorem caches_agree_iff_overwritten :
    let steps : List Step :=
      [⟨.set "a" "\n1" 60, 10500000000, 3000000000⟩,
        ⟨.set "b_2" "" (.ofSeconds (Text.numeralBound - 1)), 10500000000, 3000000000⟩,
        ⟨.get "a", 11200000000, 3000000001⟩, ⟨.set "a" "12\n" 0, 11200000000, 4000000000⟩,
        ⟨.get "a", 11200000000, 4000000000⟩, ⟨.get "b_2", 12000000000, 5000000000⟩]
    let replies : List Reply :=
      [.stored (.ok ()), .stored (.ok ()), .found (.ok (some "\n1")), .stored (.ok ()),
        .found (.ok none), .found (.ok (some ""))]
    Admissible {} "cache" steps ∧ ((steps.mapM (FileCache.act "cache")).run {}).1 = replies ∧
      ((steps.mapM MemoryCache.act).run {}).1 = replies := by
  intro steps replies
  have admissible : Admissible {} "cache" steps :=
    admissible_cache (by decide) (by decide +kernel) ⟨by decide, by decide⟩ ⟨by decide, by decide⟩
  have inTime : ∀ i, (h : i < steps.length) → steps[i].InTime (steps.take i) := by decide
  obtain ⟨memory, agree, _⟩ := caches_agree_iff {} "cache" steps admissible
  exact ⟨admissible, (agree.mpr inTime).trans memory, memory⟩

/-- What is stored for half a second is there for as long in memory, and never in a folder. -/
theorem half_second_not_in_folder :
    let steps : List Step := [⟨.set "k" "v" ⟨0, ⟨500000000, by decide⟩⟩, 0, 0⟩, ⟨.get "k", 1, 1⟩]
    Admissible {} "cache" steps ∧
      ((steps.mapM (FileCache.act "cache")).run {}).1 = [.stored (.ok ()), .found (.ok none)] ∧
      ((steps.mapM MemoryCache.act).run {}).1 =
        [.stored (.ok ()), .found (.ok (some "v"))] := by
  intro steps
  have admissible : Admissible {} "cache" steps :=
    admissible_cache (by decide) (by decide +kernel) ⟨by decide, by decide⟩ ⟨by decide, by decide⟩
  exact ⟨admissible, run_mapM_folder admissible, run_mapM_memory admissible⟩

end Highlight
