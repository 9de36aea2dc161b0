import Highlight.Text.Basic

/-!
# Failures of file access

Why a file could not be read or changed, with the wording for people. `other` carries the words of a
system that has more reasons than these.
-/

namespace Highlight

/-- Why a file operation failed. -/
inductive Failure where
  | noEntry
  | exists
  | notFolder
  | isFolder
  | nameTooLong
  | nulInPath
  | notUtf8
  | other (wording : Text)
  deriving DecidableEq, Repr

namespace Failure

/-- The reason in words. -/
def reason : Failure → Text
  | noEntry => "No such file or directory (os error 2)"
  | «exists» => "File exists (os error 17)"
  | notFolder => "Not a directory (os error 20)"
  | isFolder => "Is a directory (os error 21)"
  | nameTooLong => "File name too long (os error 36)"
  | nulInPath => "file name contained an unexpected NUL byte"
  | notUtf8 => "stream did not contain valid UTF-8"
  | other wording => wording

/-- The failure in words. -/
def message (failure : Failure) : Text := "I/O error: ".toList ++ failure.reason

end Failure

end Highlight
