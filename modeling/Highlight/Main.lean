import Highlight.CommandLine.Run
import Std.Time.DateTime.Timestamp

/-!
# The program

The command on a real system: its files, clock, standard streams and environment.
-/

namespace Highlight.Main

/-- The number and the words that a system gives for an error. -/
def causeOf : IO.Error → Option (UInt32 × String)
  | .resourceBusy code words | .resourceVanished code words | .unsupportedOperation code words
  | .hardwareFault code words | .unsatisfiedConstraints code words | .illegalOperation code words
  | .protocolError code words | .timeExpired code words | .otherError code words
  | .alreadyExists _ code words | .interrupted _ code words | .noFileOrDirectory _ code words
  | .invalidArgument _ code words | .permissionDenied _ code words
  | .resourceExhausted _ code words | .inappropriateType _ code words
  | .noSuchThing _ code words => some (code, words)
  | .unexpectedEof | .userError _ => none

/-- The number of an error by its size: some systems give it with a minus sign. -/
def magnitude (code : UInt32) : Nat := min code.toNat (Nat.pow 2 32 - code.toNat)

/-- Why an action failed. -/
def failureOf (error : IO.Error) : Failure :=
  match causeOf error with
  | none => .other (toString error).toList
  | some (code, words) =>
    match magnitude code with
    | 2 => .noEntry
    | 17 => .exists
    | 20 => .notFolder
    | 21 => .isFolder
    | 36 => .nameTooLong
    | number => .other (s!"{words.capitalize} (os error {number})").toList

/-- An action that may fail. -/
def attempt (action : IO α) : IO (Except Failure α) := do
  try return .ok (← action)
  catch error => return .error (failureOf error)

/-- The files of the system. -/
def disk : Disk IO where
  read path := attempt (IO.FS.readBinFile ⟨String.ofList path⟩)
  write path content := attempt (IO.FS.writeBinFile ⟨String.ofList path⟩ content)
  remove path := attempt (IO.FS.removeFile ⟨String.ofList path⟩)
  rename path target := attempt (IO.FS.rename ⟨String.ofList path⟩ ⟨String.ofList target⟩)
  makeFolders path :=
    if path.isEmpty then return .ok () else attempt (IO.FS.createDirAll ⟨String.ofList path⟩)
  stamp := return (toString (← IO.monoNanosNow)).toList

/-- A variable of the environment. -/
def lookup (name : String) : IO (Option Text) := return (← IO.getEnv name).map String.toList

/-- The system as a host. -/
def host : Host IO where
  disk := disk
  clock := return (← Std.Time.Timestamp.now).toNanosecondsSinceUnixEpoch.val.toNat
  input := do
    let stdin ← IO.getStdin
    attempt stdin.readBinToEnd
  environment := return ⟨← lookup "HOME", ← lookup "XDG_CACHE_HOME"⟩

/-- Write a text to a stream. -/
def write (stream : IO.FS.Stream) (text : Text) : IO Unit := do
  stream.write text.toUtf8
  stream.flush

end Highlight.Main

/-- Highlight source code on the command line. -/
def main (arguments : List String) : IO UInt32 := do
  let outcome ← Highlight.CommandLine.run Highlight.Main.host (arguments.map String.toList)
  Highlight.Main.write (← IO.getStdout) outcome.output
  if let some error := outcome.error then
    Highlight.Main.write (← IO.getStderr) error
  return outcome.code.toUInt32
