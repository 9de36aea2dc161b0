import Highlight.Proofs.Cache.Stock
import Highlight.Proofs.CommandLine.Run

/-!
# The cache of the command does not show

Runs of the command follow one another on a machine, and between them everything may change: the
settings, the code, the environment and the clock, and also the folders of the caches, as long as
nobody else puts entries there (`Reached`). However a machine was reached, each entry in those
folders is the rendering of a call that some run has made (`Reached.stocked`). So a run that uses
one of the folders has the outcome of the same run without a cache (`run_eq_run_noCache`), if the
keys of the calls that were made do not collide.
-/

namespace Highlight.CommandLine

open FileCache (Leads Spared Stocked)

variable {own : Place → Prop} {calls : List Call} {machine : Machine} {arguments : List Text}

/-- The call that a run on a machine makes through a cache, if it makes one. -/
def callsOf (machine : Machine) (arguments : List Text) : List Call :=
  ((concern? machine arguments).map Prod.snd).toList

/-- The machines that runs of the command lead to, each with the calls that were made through caches
on the way. In certain places there are no entries at first, and nobody but the runs puts any. -/
inductive Reached (own : Place → Prop) : List Call → Machine → Prop
  | start {machine : Machine} : Spared own {} machine.files → Reached own [] machine
  | run {calls : List Call} {machine : Machine} (arguments : List Text) :
      Reached own calls machine →
      Reached own (calls ++ callsOf machine arguments)
        ((run Machine.host arguments).run machine).2
  | change {calls : List Call} {machine later : Machine} :
      Reached own calls machine → Spared own machine.files later.files → Reached own calls later

/-- Whether a run on a machine uses a cache in a place. -/
def Uses (machine : Machine) (arguments : List Text) (base : Place) : Prop :=
  ∃ folder call, concern? machine arguments = some (folder, call) ∧
    Leads machine.files folder base

/-- In a tree without files there are no entries. -/
theorem stocked_empty (registry : Registry) (own : Place → Prop) :
    Stocked registry own [] {} := by
  intro base key bytes _ _ there
  simp [Files.at?, Files.standing] at there

/-- **A run leaves nothing but renderings.** -/
theorem stocked_run (stocked : Stocked .builtin own calls machine.files)
    (arguments : List Text) : Stocked .builtin own (calls ++ callsOf machine arguments)
      ((run Machine.host arguments).run machine).2.files := by
  rcases run_cases machine arguments with
    ⟨none, outcome, here, -⟩ | ⟨folder, call, outcomeOf, concern, here, -⟩
  · rw [here]
    exact stocked.mono (List.subset_append_left _ _)
  · rw [here, callsOf, concern]
    exact stocked.highlight call folder

/-- Every entry on a machine that was reached is the rendering of a call that was made. -/
theorem Reached.stocked (h : Reached own calls machine) :
    Stocked .builtin own calls machine.files := by
  induction h with
  | start bare => exact (stocked_empty .builtin own).spared bare
  | run arguments _ ih => exact stocked_run ih arguments
  | change _ spared ih => exact ih.spared spared

/-- **The cache of the command does not show.** On every machine that runs of the command lead to,
with whatever changes in between, a run has the outcome of the same run without a cache: the same
output, the same error and the same code. Nobody but the runs has put entries where the run has its
cache, and the keys of the calls that were made do not collide. -/
theorem run_eq_run_noCache (reached : Reached own calls machine)
    (uses : ∀ base, Uses machine arguments base → own base)
    (distinct : Call.Distinct (calls ++ callsOf machine arguments)) :
    ((run Machine.host arguments).run machine).1 =
      ((run Machine.host (noCacheOption :: arguments)).run machine).1 := by
  rcases run_cases machine arguments with
    ⟨-, outcome, here, there⟩ | ⟨folder, call, outcomeOf, concern, here, there⟩
  · rw [here, there]
  · have leads : ∀ base, Leads machine.files folder base → own base :=
      fun base leads => uses base ⟨folder, call, concern, leads⟩
    have made : callsOf machine arguments = [call] := by
      unfold callsOf
      rw [concern]
      rfl
    rw [made] at distinct
    rw [here, there]
    exact congrArg outcomeOf (FileCache.run_highlight_of_stocked reached.stocked distinct leads)

/-- The second run is for a block, after the settings were written anew; it finds what the first has
rendered. -/
theorem run_eq_run_noCache_block :
    let home : Machine :=
      { files := { entries := [(["h".toList], .folder)] }, input := Text.toUtf8 "a<b",
        environment := ⟨some "/h", none⟩ }
    let first := ((run Machine.host ["-l", "text"]).run home).2
    let settings : Entry := .file (Text.toUtf8 "cache-ttl = 60\ndefault-language = text")
    let later : Machine :=
      { first with files := first.files.put ["h".toList, ".fmc.conf".toList] settings, time := 7 }
    let calls := callsOf home ["-l", "text"]
    let own : Place → Prop := fun _ => True
    Reached own calls later ∧ Call.Distinct (calls ++ callsOf later ["-b"]) ∧
      (callsOf later ["-b"]).map Call.key = calls.map Call.key ∧ calls.length = 1 ∧
      ((run Machine.host ["-b"]).run later).1 =
        ((run Machine.host [noCacheOption, "-b"]).run later).1 := by
  intro home first settings later calls own
  have bare : Spared own {} home.files := by
    intro base key bytes _ _ there
    simp only [home, Files.at?, Files.standing, List.lookup_cons, List.lookup_nil] at there
    split at there
    · cases there
    · split at there <;> cases there
  have elsewhere : ∀ base key,
      ["h".toList, ".fmc.conf".toList] ≠ base ++ [FileCache.entryName key] := by
    intro base key same
    have names := congrArg List.getLast? same
    rw [List.getLast?_concat] at names
    have ending : some 'f' = some 'l' := by
      have last := congrArg List.getLast? (Option.some.inj names)
      rwa [FileCache.entryName, List.getLast?_append] at last
    cases ending
  have reached : Reached own calls later :=
    .change (.run ["-l", "text"] (.start bare)) (FileCache.spared_put first.files _ own elsewhere)
  have distinct : Call.Distinct (calls ++ callsOf later ["-b"]) := by decide +kernel
  have keys : (callsOf later ["-b"]).map Call.key = calls.map Call.key := by decide +kernel
  have one : calls.length = 1 := by decide +kernel
  exact ⟨reached, distinct, keys, one, run_eq_run_noCache reached (fun _ _ => trivial) distinct⟩

end Highlight.CommandLine
