import Highlight.Config
import Highlight.Files.Disk

/-!
# Hosts

What a program run needs from outside: files, the time, standard input and the environment. A
`Machine` is a host as a value, so that a run can be stated as a function from one machine to the
next.
-/

namespace Highlight

/-- Access to what is outside a program. -/
structure Host (m : Type → Type) where
  disk : Disk m
  /-- The nanoseconds since the epoch. -/
  clock : m Nat
  /-- All of standard input. -/
  input : m (Except Failure ByteArray)
  environment : m Environment

/-- Where the writing of a file breaks off: behind how many bytes, and why. -/
structure Break where
  behind : Nat
  cause : Failure

/-- A host as a value. -/
structure Machine where
  files : Files := {}
  /-- The nanoseconds since the epoch. -/
  time : Nat := 0
  /-- How many stamps have been given. -/
  stamps : Nat := 0
  /-- Which of the next writes break off; those behind them do not. -/
  breaks : List (Option Break) := []
  input : ByteArray := .empty
  environment : Environment := ⟨none, none⟩

namespace Machine

/-- Look at the files of the machine. -/
def inspect (look : Files → Except Failure α) : StateM Machine (Except Failure α) := do
  pure (look (← get).files)

/-- Change the files of the machine; on failure they stay as they are. -/
def change (act : Files → Except Failure Files) : StateM Machine (Except Failure Unit) := do
  let machine ← get
  match act machine.files with
  | .ok files =>
    set { machine with files }
    pure (.ok ())
  | .error failure => pure (.error failure)

/-- Where the next write breaks off, if it does. -/
def nextBreak? (machine : Machine) : Option Break := machine.breaks.head?.join

/-- The machine once the next write has begun. -/
def begun (machine : Machine) : Machine := { machine with breaks := machine.breaks.tail }

/-- Write a file. Of one that breaks off, what was written by then stays. -/
def write (path : Text) (content : ByteArray) : StateM Machine (Except Failure Unit) := do
  let machine ← get
  set machine.begun
  match machine.nextBreak? with
  | none => change fun files => files.write path content
  | some broken =>
    match ← change fun files => files.write path (content.extract 0 broken.behind) with
    | .ok () => pure (.error broken.cause)
    | .error failure => pure (.error failure)

/-- Make folders; those made before a failure stay. -/
def makeFolders (path : Text) : StateM Machine (Except Failure Unit) := do
  let machine ← get
  let (files, result) := machine.files.makeFolders path
  set { machine with files }
  pure result

/-- A stamp: the number of those before it. -/
def stamp : StateM Machine Text := do
  let machine ← get
  set { machine with stamps := machine.stamps + 1 }
  pure (Text.ofNumeral machine.stamps)

/-- The files of the machine as a disk. -/
def disk : Disk (StateM Machine) where
  read path := inspect fun files => files.read path
  write := write
  remove path := change fun files => files.remove path
  rename path target := change fun files => files.rename path target
  makeFolders := makeFolders
  stamp := stamp

/-- The machine as a host. -/
def host : Host (StateM Machine) where
  disk := disk
  clock := return (← get).time
  input := return .ok (← get).input
  environment := return (← get).environment

end Machine

end Highlight
