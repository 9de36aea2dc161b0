import Highlight.Text.Basic

/-!
# Paths

A path is spelled as names between slashes. A leading slash makes it start at the root; otherwise it
starts in the working folder. `.` names the folder itself and `..` the one above it.
-/

namespace Highlight.Path

/-- Whether a path starts at the root. -/
def isAbsolute (path : Text) : Bool := path.head? == some '/'

/-- The path of a name inside a folder. -/
def child (folder name : Text) : Text :=
  if folder.isEmpty || folder.getLast? == some '/' then folder ++ name
  else folder ++ '/' :: name

/-- What two spellings of one path have in common: where they start, and the names on the way.
Doubled slashes and dots do not count, except that a path may begin with a dot. -/
def parts (path : Text) : List Text :=
  let names := path.splitOn '/'
  let counted := names.filter fun name => !name.isEmpty && name != ['.']
  match names with
  | [] :: _ => if isAbsolute path then [] :: counted else counted
  | ['.'] :: _ => ['.'] :: counted
  | _ => counted

/-- Whether two paths are spellings of one path. -/
def same (a b : Text) : Bool := parts a == parts b

end Highlight.Path
