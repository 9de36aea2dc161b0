import Highlight.Pattern.Expression.Marking
import Highlight.Pattern.Malformed

/-!
# Scanning the spelling of a pattern

What a reader of patterns carries along: the text not read yet, the flags in force, and the groups
opened so far. With the verbose flag, white space and comments between the parts of a pattern mean
nothing and are skipped.
-/

namespace Highlight.Pattern.Spelling

/-- The flags that change how a pattern is read. -/
structure Flags where
  /-- Characters match without regard to case. -/
  caseless : Bool := false
  /-- `^` and `$` hold at line ends too. -/
  multiLine : Bool := false
  /-- The dot matches a line feed too. -/
  dotAll : Bool := false
  /-- Repetition is lazy unless a `?` makes it greedy. -/
  swapGreed : Bool := false
  /-- Classes and case follow Unicode instead of ASCII. -/
  unicode : Bool := true
  /-- White space and comments are skipped. -/
  verbose : Bool := false
  /-- Carriage returns end lines too. -/
  returns : Bool := false
  deriving DecidableEq, Repr

/-- The state of a reader. -/
structure Scan where
  rest : Text
  flags : Flags
  groups : Nat
  names : List Text

/-- A reader of a part of a pattern. -/
abbrev Reading := StateT Scan (Except Malformed)

/-- The text not read yet. -/
def remaining : Reading Text := return (← get).rest

/-- Go on with `rest`. -/
def continueWith (rest : Text) : Reading Unit := modify fun s => { s with rest }

/-- The flags in force. -/
def currentFlags : Reading Flags := return (← get).flags

/-- Put other flags in force. -/
def setFlags (flags : Flags) : Reading Unit := modify fun s => { s with flags }

/-- Without the white space and comments in front; `comment` tells whether a comment is open. -/
def dropIgnored (comment : Bool) : Text → Text
  | [] => []
  | c :: rest =>
    if comment then dropIgnored (c != '\n') rest
    else if Unicode.isWhiteSpace c then dropIgnored false rest
    else if c = '#' then dropIgnored true rest
    else c :: rest

/-- Skip what the verbose flag lets a pattern contain between its parts. -/
def skipIgnored : Reading Unit :=
  modify fun s => if s.flags.verbose then { s with rest := dropIgnored false s.rest } else s

/-- The character that stands after white space and the opening of a comment, without looking into
the comment; `comment` tells whether the opening has been passed. -/
def glimpse (comment : Bool) : Text → Option Char
  | [] => none
  | c :: rest =>
    if Unicode.isWhiteSpace c then glimpse comment rest
    else if !comment && c == '#' then glimpse true rest
    else some c

/-- The remaining text after skipping, or `error` if nothing remains. -/
def remainingOr (error : Malformed) : Reading (Char × Text) := do
  skipIgnored
  match ← remaining with
  | [] => throw error
  | c :: rest => return (c, rest)

end Highlight.Pattern.Spelling
