import Highlight.Files.Basic

/-!
# Disks

The file operations that the library uses, over any monad. A real disk and a tree of files as state
both have them, so what is shown of one program on a tree is what that program does on a disk.
-/

namespace Highlight

/-- Access to files. -/
structure Disk (m : Type → Type) where
  read : Text → m (Except Failure ByteArray)
  /-- Write a file, in place of the one that was there. A part of it may be left where that fails. -/
  write : Text → ByteArray → m (Except Failure Unit)
  remove : Text → m (Except Failure Unit)
  /-- Give a file another name, in place of the file that has it. -/
  rename : Text → Text → m (Except Failure Unit)
  /-- Make a folder and those above it, where they are missing. -/
  makeFolders : Text → m (Except Failure Unit)
  /-- A text that no other call gives. -/
  stamp : m Text

/-- The text of a file, which has to be UTF-8. -/
def Disk.readText [Monad m] (disk : Disk m) (path : Text) : m (Except Failure Text) := do
  match ← disk.read path with
  | .error failure => pure (.error failure)
  | .ok content => pure ((Text.ofUtf8? content).elim (.error .notUtf8) .ok)

end Highlight
