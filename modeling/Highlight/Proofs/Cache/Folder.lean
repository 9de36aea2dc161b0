import Highlight.Proofs.Cache.File
import Highlight.Proofs.Cache.History

/-!
# Caches in a folder

A folder that nobody else touches, and that holds no folders, is open for a cache from the start
on, even before it is made (`Opened`). The files of a cache show entries (`Shows`), and while the
clock does not go back, each step is told what the last store under its key has left there
(`reply`, `run_act`): the file of one key is neither that of another nor one that is written on the
way (`at?_stored_of_ne`), and a file that was removed because it was past its time is never asked
for again.
-/

namespace Highlight.FileCache

open Files (Fits)

variable {folder key other name markup : Text} {base : Place} {files made after : Files}
  {machine : Machine} {times : List Nat} {history : List Step} {step : Step}

/-! ## What a history leaves behind -/

/-- The entry that a step stores. -/
def entryOf (step : Step) : Option MemoryCache.Entry :=
  match step.request with
  | .get _ => none
  | .set _ markup lifetime => some ⟨markup, some (expiryOf step.wall lifetime)⟩

/-- The markup that the last store under a key has left, if it is still valid at a second. -/
def found? (key : Text) (history : List Step) (second : Nat) : Option Text :=
  (((Step.lastStore? key history).bind entryOf).filter fun entry =>
    entry.isLive second).map (·.markup)

/-- What a step is told after a history. -/
def reply (history : List Step) (step : Step) : Reply :=
  match step.request with
  | .get key => .found (.ok (found? key history step.second))
  | .set _ _ _ => .stored (.ok ())

theorem isLocal_reply : Step.IsLocal reply := by
  intro history step
  have same : found? step.request.key
      (history.filter fun other => other.request.key = step.request.key) =
        found? step.request.key history := by
    unfold found?
    rw [Step.lastStore?_filter]
  unfold reply
  cases request : step.request with
  | get key =>
    rw [request] at same
    exact congrArg (fun found => Reply.found (.ok (found step.second))) same
  | set key markup lifetime => rfl

/-- A step that stores nothing under a key leaves what there is. -/
theorem found?_append_of_not_stores (h : ¬ step.request.stores key = true) :
    found? key (history ++ [step]) = found? key history := by
  unfold found?
  rw [Step.lastStore?_append, Step.keepLast, if_neg h]

/-- What a step stores is what there is. -/
theorem found?_append_of_set {lifetime : Duration} (h : step.request = .set key markup lifetime) :
    found? key (history ++ [step]) = fun second =>
      ((some ⟨markup, some (expiryOf step.wall lifetime)⟩ : Option MemoryCache.Entry).filter
        fun entry => entry.isLive second).map (·.markup) := by
  have stores : step.request.stores key = true := by simp [h, Request.stores]
  unfold found?
  rw [Step.lastStore?_append, Step.keepLast, if_pos stores, Option.bind_some, entryOf, h]

/-! ## The folder -/

/-- Whether a cache can write in a folder: it is there or can be made, names in it have their
places, and no folder stands at any. -/
structure Opened (folder : Text) (base : Place) (files made : Files) : Prop where
  folders : files.makeFolders folder = (made, .ok ())
  places : ∀ name, Fits folder name → made.locate (Path.child folder name) = .ok (base ++ [name])
  same : ∀ name, Fits folder name →
    files.read (Path.child folder name) = made.read (Path.child folder name)
  bare : ∀ name, Fits folder name → made.at? (base ++ [name]) ≠ some .folder

/-- A folder with nothing in it is open. -/
theorem exists_opened (folders : files.makeFolders folder = (made, .ok ()))
    (vacant : ∀ name, Fits folder name →
      made.read (Path.child folder name) = .error .noEntry) :
    ∃ base, Opened folder base files made := by
  obtain ⟨grown, base, _, places⟩ := Files.makeFolders_ok folders
  have nothing : ∀ name, Fits folder name → made.at? (base ++ [name]) = none := by
    intro name fits
    have absent := vacant name fits
    cases there : made.at? (base ++ [name]) with
    | none => rfl
    | some entry =>
      cases entry with
      | folder =>
        rw [Files.read_of_folder (places name fits).1 there] at absent
        cases absent
      | file content =>
        rw [(Files.read_eq_ok (places name fits).1).mpr there] at absent
        cases absent
  refine ⟨base, folders, fun name fits => (places name fits).1, ?_, ?_⟩
  · intro name fits
    rw [vacant name fits]
    rcases (places name fits).2 with located | failed
    · refine Files.read_of_none located ?_
      rcases grown.at? (base ++ [name]) with same | ⟨absent, _⟩
      · rw [← same, nothing name fits]
      · exact absent
    · exact Files.read_of_locate_error failed
  · intro name fits
    rw [nothing name fits]
    exact (Option.some_ne_none _).symm

/-- A folder that a path leads into is not made. -/
theorem Opened.made_eq (opened : Opened folder base files made) (fits : Fits folder name)
    {place : Place} (located : files.locate (Path.child folder name) = .ok place) :
    made = files ∧ place = base ++ [name] := by
  have kept := Files.makeFolders_of_locate located fits.isName
  rw [opened.folders] at kept
  obtain rfl := (Prod.mk.inj kept).1
  have there := opened.places name fits
  rw [located] at there
  exact ⟨rfl, Except.ok.inj there⟩

/-- An open folder stays open as long as no folder is put into it. -/
theorem Opened.of_keeps (opened : Opened folder base files made) (keeps : made.Keeps after)
    (fits : Fits folder name)
    (bare : ∀ name, Fits folder name → after.at? (base ++ [name]) ≠ some .folder) :
    Opened folder base after after where
  folders := Files.makeFolders_of_locate (keeps.locate (opened.places name fits)) fits.isName
  places name fits := keeps.locate (opened.places name fits)
  same _ _ := rfl
  bare := bare

/-! ## Entries -/

/-- Whether a file shows an entry, or the want of a file that there is none. -/
def Shows (files : Files) (path : Text) : Option MemoryCache.Entry → Prop
  | none => files.read path = .error .noEntry
  | some entry => ∃ expiry, entry.expiry = some expiry ∧ IsEntry files path expiry entry.markup

theorem Shows.congr {path : Text} {entry : Option MemoryCache.Entry}
    (shows : Shows files path entry) (same : files.read path = after.read path) :
    Shows after path entry := by
  cases entry with
  | none => exact same.symm.trans shows
  | some entry =>
    obtain ⟨expiry, stop, header, read, rest⟩ := shows
    exact ⟨expiry, stop, header, same.symm.trans read, rest⟩

/-- Whether the files of a cache serve a run. -/
def Serving (folder : Text) (files : Files) (times : List Nat) (history : List Step) : Prop :=
  ∀ key, isKey key = true → Fits folder (entryName key) → ∃ entry,
    Shows files (Path.child folder (entryName key)) entry ∧
      Serves entry times (found? key history)

theorem append_ne (h : name ≠ other) : base ++ [name] ≠ base ++ [other] :=
  fun same => h (List.singleton_inj.mp (List.append_cancel_left same))

theorem Serving.tail {time : Nat} (serving : Serving folder made (time :: times) history) :
    Serving folder made times history := by
  intro key hkey fits
  obtain ⟨entry, shows, serves⟩ := serving key hkey fits
  exact ⟨entry, shows, serves.tail⟩

/-- A change of the file of one key leaves those of the others. -/
theorem Serving.update {history' : List Step} (serving : Serving folder made times history)
    (opened : Opened folder base files made) (keeps : made.Keeps after) (key : Text)
    (others : ∀ other, other ≠ key →
      after.at? (base ++ [entryName other]) = made.at? (base ++ [entryName other]))
    (untold : ∀ other, other ≠ key → found? other history' = found? other history)
    (own : ∃ entry, Shows after (Path.child folder (entryName key)) entry ∧
      Serves entry times (found? key history')) :
    Serving folder after times history' := by
  intro other hother fits
  by_cases same : other = key
  · subst same
    exact own
  · obtain ⟨entry, shows, serves⟩ := serving other hother fits
    have located := opened.places _ fits
    refine ⟨entry, shows.congr ?_, (untold other same).symm ▸ serves⟩
    exact Files.read_congr located (keeps.locate located) (others other same).symm

/-- Without the file of a key that is not found any more, an open folder serves as before. -/
theorem Opened.erase (opened : Opened folder base files files)
    (serving : Serving folder files times history) (fits : Fits folder (entryName key))
    (forgotten : ∀ time ∈ times, found? key history time = none) :
    Opened folder base (files.erase (base ++ [entryName key]))
        (files.erase (base ++ [entryName key])) ∧
      Serving folder (files.erase (base ++ [entryName key])) times history := by
  have keeps : files.Keeps (files.erase (base ++ [entryName key])) :=
    Files.Keeps.erase (opened.bare _ fits)
  have gone : (files.erase (base ++ [entryName key])).at? (base ++ [entryName key]) = none :=
    Files.at?_erase_self _ (opened.bare _ fits)
  refine ⟨opened.of_keeps keeps fits ?_, serving.update opened keeps key ?_ (fun _ _ => rfl) ?_⟩
  · exact fun name fits' => Files.at?_erase_ne_folder (opened.bare name fits') _
  · intro other differs
    exact Files.at?_erase_of_ne _ (append_ne fun same => differs (entryName_injective same))
  · refine ⟨none, Files.read_of_none (keeps.locate (opened.places _ fits)) gone, ?_⟩
    exact fun time mem => (forgotten time mem).symm

/-- **Looking up in an open folder** gives what the last store has left, and leaves it open. -/
theorem run_get_of_opened (machine : Machine) (opened : Opened folder base machine.files made)
    (serving : Serving folder made (secondOf machine.time :: times) history)
    (onward : ∀ time ∈ times, secondOf machine.time ≤ time) (hkey : isKey key = true)
    (fits : Fits folder (entryName key)) :
    ∃ files made', ((Machine.fileCache folder).get key).run machine =
        (.ok (found? key history (secondOf machine.time)), { machine with files }) ∧
      Opened folder base files made' ∧ Serving folder made' times history := by
  have tail := serving.tail
  obtain ⟨entry, shows, serves⟩ := serving key hkey fits
  have answer := serves (secondOf machine.time) List.mem_cons_self
  have here := shows.congr (opened.same _ fits).symm
  cases entry with
  | none =>
    rw [← answer]
    exact ⟨_, made, run_get_of_absent hkey here, opened, tail⟩
  | some entry =>
    obtain ⟨expiry, stop, isEntry⟩ := here
    by_cases early : secondOf machine.time < expiry
    · have live : entry.isLive (secondOf machine.time) = true := by
        simpa [MemoryCache.Entry.isLive, stop] using early
      rw [Option.filter_some, if_pos live] at answer
      rw [← answer]
      exact ⟨_, made, run_get_of_holds hkey ⟨expiry, isEntry, early⟩, opened, tail⟩
    · have dead : ∀ time, secondOf machine.time ≤ time → entry.isLive time = false := by
        intro time le
        simpa [MemoryCache.Entry.isLive, stop] using Nat.le_trans (Nat.not_lt.mp early) le
      have forgotten : ∀ time ∈ times, found? key history time = none := by
        intro time mem
        rw [← serves.tail time mem, Option.filter_some, dead time (onward time mem),
          if_neg Bool.false_ne_true, Option.map_none]
      rw [Option.filter_some, dead _ (Nat.le_refl _), if_neg Bool.false_ne_true] at answer
      have ⟨header, read, _⟩ := isEntry
      obtain ⟨place, located, _⟩ := Files.locate_of_read read
      obtain ⟨rfl, rfl⟩ := opened.made_eq fits located
      obtain ⟨opened', serving'⟩ := opened.erase tail fits forgotten
      refine ⟨_, _, ?_, opened', serving'⟩
      rw [run_get_of_past hkey isEntry (Nat.not_lt.mp early) located, ← answer]
      rfl

/-- **Storing in an open folder** leaves it open, with what is stored in it. -/
theorem run_set_of_opened {lifetime : Duration} (machine : Machine) (whole : machine.breaks = [])
    (opened : Opened folder base machine.files made)
    (serving : Serving folder made times history) (hkey : isKey key = true)
    (fits : Fits folder (temporaryName key (Text.ofNumeral machine.stamps)))
    (request : step.request = .set key markup lifetime) (time : machine.time = step.wall) :
    ∃ files, ((Machine.fileCache folder).set key markup lifetime).run machine =
        (.ok (), { machine with files, stamps := machine.stamps + 1 }) ∧
      Opened folder base files files ∧ Serving folder files times (history ++ [step]) := by
  have fits' : Fits folder (entryName key) :=
    fits.of_le (isName_entryName hkey) (byteSize_entryName_le key _)
  have differ : base ++ [entryName key] ≠
      base ++ [temporaryName key (Text.ofNumeral machine.stamps)] :=
    append_ne (temporaryName_ne_entryName key _ key).symm
  have run := run_set hkey (Machine.nextBreak?_of_whole whole) opened.folders
    (opened.places _ fits) (opened.bare _ fits) (opened.places _ fits') (opened.bare _ fits') differ
    markup lifetime
  rw [Machine.begun_of_whole whole] at run
  have keeps : made.Keeps (stored made (base ++ [temporaryName key (Text.ofNumeral machine.stamps)])
      (base ++ [entryName key]) (expiryOf machine.time lifetime) markup) :=
    keeps_stored (opened.bare _ fits) (opened.bare _ fits')
  refine ⟨_, run, opened.of_keeps keeps fits ?_, serving.update opened keeps key ?_ ?_ ?_⟩
  · exact fun name fits'' =>
      Files.at?_put_ne_folder (Files.at?_erase_ne_folder (opened.bare name fits'') _) _ _
  · intro other differs
    exact at?_stored_of_ne (append_ne (temporaryName_ne_entryName _ _ _).symm)
      (append_ne fun same => differs (entryName_injective same))
  · intro other differs
    refine found?_append_of_not_stores ?_
    simpa [request, Request.stores] using Ne.symm differs
  · refine ⟨some ⟨markup, some _⟩, ⟨_, rfl, isEntry_stored (expiryOf_lt _ _) (opened.bare _ fits)
      (opened.places _ fits') (opened.bare _ fits')⟩, ?_⟩
    rw [found?_append_of_set request, time]
    exact fun _ _ => rfl

/-! ## Steps -/

/-- One step of a run: the clock shows the time of the step. -/
def act (folder : Text) (step : Step) : StateM Machine Reply := do
  modify fun machine => { machine with time := step.wall }
  (Machine.fileCache folder).renderCache.ask step.request

/-- Whether the names under which the steps of a run write their files fit. -/
def Named (folder : Text) (stamps : Nat) (steps : List Step) : Prop :=
  ∀ step ∈ steps, ∀ stamp < stamps + steps.length,
    Fits folder (temporaryName step.request.key (Text.ofNumeral stamp))

/-- Whether a machine has what the steps to come ask for. -/
structure Ready (folder : Text) (history rest : List Step) (machine : Machine) : Prop where
  keys : ∀ step ∈ rest, isKey step.request.key = true
  named : Named folder machine.stamps rest
  ordered : rest.Pairwise fun step later => step.wall ≤ later.wall
  whole : machine.breaks = []
  opened : ∃ base made, Opened folder base machine.files made ∧
    Serving folder made (rest.map Step.second) history

variable {rest : List Step}

/-- The names for a step are those for the steps that follow, by as many stamps as are left. -/
theorem Named.tail {stamps stamps' : Nat} (named : Named folder stamps (step :: rest))
    (le : stamps' ≤ stamps + 1) : Named folder stamps' rest := by
  intro later mem stamp small
  refine named later (List.mem_cons_of_mem step mem) stamp ?_
  rw [List.length_cons]
  omega

/-- **A step of a cache in a folder** is told what the last store under its key has left there. -/
theorem run_act (ready : Ready folder history (step :: rest) machine) :
    ((act folder step).run machine).1 = reply history step ∧
      Ready folder (history ++ [step]) rest ((act folder step).run machine).2 := by
  obtain ⟨keys, named, ordered, whole, base, made, opened, serving⟩ := ready
  have hkey := keys step List.mem_cons_self
  have keys := fun later mem => keys later (List.mem_cons_of_mem step mem)
  obtain ⟨first, ordered⟩ := List.pairwise_cons.mp ordered
  have onward : ∀ time ∈ rest.map Step.second, secondOf step.wall ≤ time := by
    intro time mem
    obtain ⟨later, ahead, rfl⟩ := List.mem_map.mp mem
    exact Nat.div_le_div_right (first later ahead)
  have fits : Fits folder (temporaryName step.request.key (Text.ofNumeral machine.stamps)) :=
    named step List.mem_cons_self machine.stamps (by simp)
  have run : (act folder step).run machine =
      ((Machine.fileCache folder).renderCache.ask step.request).run
        { machine with time := step.wall } := rfl
  rw [run]
  unfold reply
  cases request : step.request with
  | get key =>
    rw [request] at hkey fits
    have fits : Fits folder (entryName key) :=
      fits.of_le (isName_entryName hkey) (byteSize_entryName_le key _)
    obtain ⟨files, made', got, opened', serving'⟩ :=
      run_get_of_opened { machine with time := step.wall } opened serving onward hkey fits
    dsimp only [Request.key] at got
    rw [RenderCache.run_ask_get, renderCache_get, got]
    refine ⟨rfl, keys, named.tail (Nat.le_succ _), ordered, whole, base, made', opened', ?_⟩
    intro other hother fits
    rw [found?_append_of_not_stores (by simp [request, Request.stores])]
    exact serving' other hother fits
  | set key markup lifetime =>
    rw [request] at hkey fits
    obtain ⟨files, done, opened', serving'⟩ :=
      run_set_of_opened { machine with time := step.wall } whole opened serving.tail hkey fits
        request rfl
    dsimp only [Request.key] at done
    rw [RenderCache.run_ask_set, renderCache_set, done]
    exact ⟨rfl, keys, named.tail (Nat.le_refl _), ordered, whole, base, files, opened', serving'⟩

end Highlight.FileCache
