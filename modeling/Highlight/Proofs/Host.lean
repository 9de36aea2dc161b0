import Highlight.Cache.File
import Highlight.Host
import Highlight.Proofs.Files.Content

/-!
# Runs on a machine

What the operations of a machine's disk do to it, one equation each, so that a program on it is run
step by step. A machine is a host that observes: reading from it leaves it as it is
(`Machine.observes`).
-/

namespace Highlight

section Steps

variable {σ α β : Type}

theorem run_bind (x : StateM σ α) (f : α → StateM σ β) (s : σ) :
    (x >>= f).run s = (f (x.run s).1).run (x.run s).2 :=
  rfl

theorem run_pure (a : α) (s : σ) : (pure a : StateM σ α).run s = (a, s) := rfl

end Steps

section Reading

variable {σ : Type} {host : Host (StateM σ)}

/-- The text of what was read. -/
def decoded (content : Except Failure ByteArray) : Except Failure Text :=
  content.bind fun bytes => (Text.ofUtf8? bytes).elim (.error .notUtf8) .ok

/-- Whether reading from a host leaves the world as it is. -/
structure Host.Observes (host : Host (StateM σ)) : Prop where
  read : ∀ path world, ((host.disk.read path).run world).2 = world
  input : ∀ world, (host.input.run world).2 = world
  environment : ∀ world, (host.environment.run world).2 = world

theorem Host.Observes.run_readText (observes : host.Observes) (path : Text) (world : σ) :
    (host.disk.readText path).run world =
      (decoded ((host.disk.read path).run world).1, world) := by
  unfold Disk.readText
  rw [run_bind, observes.read]
  cases ((host.disk.read path).run world).1 <;> rfl

end Reading

namespace Machine

variable {machine : Machine}

/-- A cache in a folder of a machine. -/
def fileCache (folder : Text) : FileCache (StateM Machine) where
  disk := disk
  clock := host.clock
  folder := folder

theorem run_clock : host.clock.run machine = (machine.time, machine) := rfl

theorem run_stamp : disk.stamp.run machine =
    (Text.ofNumeral machine.stamps, { machine with stamps := machine.stamps + 1 }) :=
  rfl

theorem run_makeFolders (path : Text) : (disk.makeFolders path).run machine =
    ((machine.files.makeFolders path).2,
      { machine with files := (machine.files.makeFolders path).1 }) :=
  rfl

theorem run_get (machine : Machine) :
    (get : StateM Machine Machine).run machine = (machine, machine) :=
  rfl

theorem run_change_ok (machine : Machine) (act : Files → Except Failure Files) {files : Files}
    (h : act machine.files = .ok files) :
    (change act).run machine = (.ok (), { machine with files }) := by
  unfold change
  rw [run_bind, run_get]
  dsimp only
  rw [h]
  rfl

theorem run_remove_ok (machine : Machine) {path : Text} {files : Files}
    (h : machine.files.remove path = .ok files) :
    (disk.remove path).run machine = (.ok (), { machine with files }) :=
  run_change_ok machine (fun files => files.remove path) h

theorem run_rename_ok (machine : Machine) {path target : Text} {files : Files}
    (h : machine.files.rename path target = .ok files) :
    (disk.rename path target).run machine = (.ok (), { machine with files }) :=
  run_change_ok machine (fun files => files.rename path target) h

/-- A change that fails leaves the machine as it is. -/
theorem run_change_error (machine : Machine) (act : Files → Except Failure Files)
    {failure : Failure} (h : act machine.files = .error failure) :
    (change act).run machine = (.error failure, machine) := by
  unfold change
  rw [run_bind, run_get]
  dsimp only
  rw [h]
  rfl

theorem run_remove_error (machine : Machine) {path : Text} {failure : Failure}
    (h : machine.files.remove path = .error failure) :
    (disk.remove path).run machine = (.error failure, machine) :=
  run_change_error machine (fun files => files.remove path) h

theorem run_rename_error (machine : Machine) {path target : Text} {failure : Failure}
    (h : machine.files.rename path target = .error failure) :
    (disk.rename path target).run machine = (.error failure, machine) :=
  run_change_error machine (fun files => files.rename path target) h

section Whole

variable (whole : machine.breaks = [])

include whole

/-- Where no write is to break off, the next one does not. -/
theorem nextBreak?_of_whole : machine.nextBreak? = none := by
  simp [nextBreak?, whole]

theorem begun_of_whole : machine.begun = machine := by
  cases machine
  cases whole
  rfl

end Whole

/-- A write is a change of the files, to what was written before it broke off. -/
theorem run_write (machine : Machine) (path : Text) (content : ByteArray) :
    (disk.write path content).run machine =
      match machine.nextBreak? with
      | none => (change fun files => files.write path content).run machine.begun
      | some broken =>
        let changed :=
          (change fun files => files.write path (content.extract 0 broken.behind)).run machine.begun
        (changed.1.bind fun _ => .error broken.cause, changed.2) := by
  have ran : (disk.write path content).run machine = (write path content).run machine := rfl
  have began : (set machine.begun : StateM Machine PUnit).run machine = ((), machine.begun) := rfl
  rw [ran, write, run_bind, run_get]
  dsimp only
  rw [run_bind, began]
  cases machine.nextBreak? with
  | none => rfl
  | some broken =>
    dsimp only
    rw [run_bind]
    generalize StateT.run (change _) machine.begun = changed
    obtain ⟨result, after⟩ := changed
    cases result <;> rfl

/-- A write that does not break off is done where no folder is in its way. -/
theorem run_write_ok {place : Place} (whole : machine.nextBreak? = none) {path : Text}
    (located : machine.files.locate path = .ok place) (free : machine.files.at? place ≠ some .folder)
    (content : ByteArray) : (disk.write path content).run machine =
      (.ok (), { machine.begun with files := machine.files.put place (.file content) }) := by
  rw [run_write, whole]
  exact run_change_ok machine.begun (fun files => files.write path content)
    (Files.write_of_ne_folder located free content)

/-- **What becomes of a write**: it fails before anything is written, it is done, or it breaks off
and leaves a part of the file. -/
theorem run_write_cases (machine : Machine) (path : Text) (content : ByteArray) :
    (∃ failure : Failure, machine.files.write path content = .error failure ∧
      (disk.write path content).run machine = (.error failure, machine.begun)) ∨
    ∃ place, machine.files.locate path = .ok place ∧ machine.files.Free place ∧
      ((machine.nextBreak? = none ∧ (disk.write path content).run machine =
        (.ok (), { machine.begun with files := machine.files.put place (.file content) })) ∨
      ∃ broken : Break, (disk.write path content).run machine =
        (.error broken.cause, { machine.begun with
          files := machine.files.put place (.file (content.extract 0 broken.behind)) })) := by
  cases writes : machine.files.write path content with
  | error failure =>
    refine .inl ⟨failure, rfl, ?_⟩
    rw [run_write]
    cases machine.nextBreak? with
    | none =>
      exact run_change_error machine.begun (fun files => files.write path content) writes
    | some broken =>
      have fails := Files.write_error_congr writes (content.extract 0 broken.behind)
      dsimp only
      rw [run_change_error machine.begun
        (fun files => files.write path (content.extract 0 broken.behind)) fails]
      rfl
  | ok written =>
    obtain ⟨place, located, free, -⟩ := Files.write_eq_ok writes
    refine .inr ⟨place, located, free, ?_⟩
    cases next : machine.nextBreak? with
    | none => exact .inl ⟨rfl, run_write_ok next located free.2 content⟩
    | some broken =>
      have part := Files.write_of_ne_folder located free.2 (content.extract 0 broken.behind)
      refine .inr ⟨broken, ?_⟩
      rw [run_write, next]
      dsimp only
      rw [run_change_ok machine.begun
        (fun files => files.write path (content.extract 0 broken.behind)) part]
      rfl

/-- Reading from a machine leaves it as it is. -/
theorem observes : host.Observes where
  read _ _ := rfl
  input _ := rfl
  environment _ := rfl

theorem run_readText (path : Text) : (disk.readText path).run machine =
    ((machine.files.read path).bind fun bytes =>
      (Text.ofUtf8? bytes).elim (.error .notUtf8) .ok, machine) :=
  observes.run_readText path machine

end Machine

end Highlight
