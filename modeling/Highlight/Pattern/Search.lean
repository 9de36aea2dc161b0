import Highlight.Pattern.Outcome

/-!
# Searching a text

The match of a pattern in a text is the leftmost one, and at its start the most preferred one. A
search may begin in the middle of the text: what stands before the beginning is not matched but
seen by assertions.
-/

namespace Highlight.Pattern

/-- A match: the whole of it, and the groups that took part, latest first. -/
structure Match where
  whole : Span
  groups : List (Nat × Span)
  deriving DecidableEq, Repr

/-- The span of a group; group 0 is the whole match. A group that closed several times has its
last span. -/
def Match.group? (m : Match) (index : Nat) : Option Span :=
  if index = 0 then some m.whole else m.groups.lookup index

/-- The preferred match at a position. -/
def matchAt? (p : Pattern) (cursor : Cursor) : Option Match :=
  (p.outcomes (State.start cursor)).head?.map fun t =>
    { whole := ⟨cursor.offset, t.offset⟩, groups := t.groups }

/-- The leftmost match in what follows a position. -/
def searchFrom? (p : Pattern) (offset : Nat) (before : Option Char) : Text → Option Match
  | [] => p.matchAt? ⟨offset, before, []⟩
  | c :: rest =>
    match p.matchAt? ⟨offset, before, c :: rest⟩ with
    | some m => some m
    | none => p.searchFrom? (offset + c.utf8Size) (some c) rest

/-- The position at a byte offset, or at the first boundary after it. Past the end there is
none. -/
def seek? (target offset : Nat) (before : Option Char) : Text → Option Cursor
  | [] => if target ≤ offset then some ⟨offset, before, []⟩ else none
  | c :: rest =>
    if target ≤ offset then some ⟨offset, before, c :: rest⟩
    else seek? target (offset + c.utf8Size) (some c) rest

/-- The leftmost match in a text that starts at a byte offset or later. -/
def search? (p : Pattern) (text : Text) (start : Nat) : Option Match :=
  (seek? start 0 none text).bind fun cursor =>
    p.searchFrom? cursor.offset cursor.before cursor.rest

end Highlight.Pattern
