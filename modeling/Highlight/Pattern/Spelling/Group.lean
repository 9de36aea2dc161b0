import Highlight.Pattern.Spelling.Scan

/-!
# Openings of groups

What stands after an opening parenthesis: a name, flags for the group, flags for the rest of the
enclosing group, or nothing special. Looking ahead or behind is refused.
-/

namespace Highlight.Pattern.Spelling

/-- What an opening parenthesis opens. -/
inductive Opening where
  /-- A group reported under an index. -/
  | capturing (index : Nat)
  /-- A group that is not reported, read with the given flags. -/
  | plain (flags : Flags)
  /-- No group: the flags hold from here on. -/
  | setting (flags : Flags)

/-- Switch one flag; nothing for a letter that is no flag. -/
def Flags.switch? (flags : Flags) (letter : Char) (on : Bool) : Option Flags :=
  match letter with
  | 'i' => some { flags with caseless := on }
  | 'm' => some { flags with multiLine := on }
  | 's' => some { flags with dotAll := on }
  | 'U' => some { flags with swapGreed := on }
  | 'u' => some { flags with unicode := on }
  | 'x' => some { flags with verbose := on }
  | 'R' => some { flags with returns := on }
  | _ => none

/-- Read flag letters up to a colon or a closing parenthesis. A letter may occur once, and so may
the hyphen after which letters switch off; it may not come last. The result has the flags, whether
any letter or hyphen was read, the closing character and what follows it. -/
def readFlags (flags : Flags) (seen : List Char) :
    Text → Except Malformed (Flags × Bool × Char × Text)
  | [] => throw .flags
  | c :: rest =>
    if c = ':' || c = ')' then
      if seen.head? = some '-' then throw .flags else return (flags, !seen.isEmpty, c, rest)
    else if seen.contains c then throw .flags
    else if c = '-' then readFlags flags (c :: seen) rest
    else match flags.switch? c (!seen.contains '-') with
      | none => throw .flags
      | some flags => readFlags flags (c :: seen) rest

/-- Whether a character may stand in a group name, at the start or further on. -/
def isNameChar (first : Bool) (c : Char) : Bool :=
  c == '_' || Unicode.isNameLetter c
    || (!first && (Unicode.isNameNumber c || c == '.' || c == '[' || c == ']'))

/-- The index of a group that opens now. -/
def nextIndex : Reading Nat :=
  modifyGet fun s => (s.groups + 1, { s with groups := s.groups + 1 })

/-- A group name up to its closing angle bracket. -/
def readName (text : Text) : Reading Unit := do
  match text.splitOnce? '>' with
  | none => throw .groupName
  | some (name, rest) =>
    match name with
    | [] => throw .groupName
    | c :: more =>
      if !isNameChar true c || more.any (!isNameChar false ·) then throw .groupName
      if (← get).names.contains name then throw .duplicateGroupName
      modify fun s => { s with rest, names := name :: s.names }

/-- What stands after an opening parenthesis. -/
def readOpeningGroup : Reading Opening := do
  skipIgnored
  let flags ← currentFlags
  match ← remaining with
  | '?' :: '=' :: _ | '?' :: '!' :: _ => throw .lookAround
  | '?' :: '<' :: '=' :: _ | '?' :: '<' :: '!' :: _ => throw .lookAround
  | '?' :: 'P' :: '<' :: rest | '?' :: '<' :: rest =>
    let index ← nextIndex
    readName rest
    return .capturing index
  | '?' :: rest =>
    let (flags, any, last, rest) ← readFlags flags [] rest
    continueWith rest
    if last = ':' then return .plain flags
    else if any then return .setting flags
    else throw .nothingToRepeat
  | _ => return .capturing (← nextIndex)

end Highlight.Pattern.Spelling
