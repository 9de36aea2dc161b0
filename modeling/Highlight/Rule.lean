import Highlight.Pattern.Search
import Highlight.Pattern.Spelling.Reader
import Highlight.TokenType

/-!
# Rules

A rule pairs a pattern with the category it gives. It may classify one group of its match only, so
that a pattern can look at its surroundings (the start of the line, a preceding separator) without
claiming them.

A rule is asked for its finds inside a window of a text. What stands before the window is seen by
assertions, nothing from its end on is; a window that ends inside a character or past the text is
refused.
-/

namespace Highlight

open Pattern (Span)

/-- A pattern and the category of what it matches. -/
structure Rule where
  name : Text
  pattern : Pattern
  kind : TokenType
  /-- The group that is classified; group 0 is the whole match. -/
  group : Nat
  deriving DecidableEq

/-- Why a rule cannot be made. -/
inductive RuleError where
  | malformed (rule : Text) (reason : Pattern.Malformed)
  | missingGroup (rule : Text) (group : Nat)
  deriving DecidableEq, Repr

/-- The wording of a rule error that concerns a group. -/
def RuleError.missingGroupMessage (rule : Text) (group : Nat) : Text :=
  "Rule '".toList ++ rule ++ "' has no capture group ".toList ++ Nat.toDigits 10 group

/-- Why a window cannot be searched. -/
inductive BadWindow where
  /-- The end is past the text or inside a character. -/
  | badEnd (stop : Nat)
  /-- The bounds of a find are no boundaries in order. -/
  | badSlice (start stop : Nat)
  deriving DecidableEq, Repr

/-- A classified span, and where the search for the next one goes on. -/
structure Find where
  start : Nat
  stop : Nat
  resume : Nat
  deriving DecidableEq, Repr

namespace Rule

/-- A rule from the spelling of its pattern. -/
def ofText (name spelling : Text) (kind : TokenType) (group : Nat) : Except RuleError Rule :=
  match Pattern.ofText spelling with
  | .error reason => .error (.malformed name reason)
  | .ok pattern =>
    if group < pattern.groupCount then .ok { name, pattern, kind, group }
    else .error (.missingGroup name group)

/-- The offset of the character after a boundary; past the end of the text if there is none. -/
def nextBoundary (text : Text) (offset : Nat) : Nat :=
  match text.cutAt? offset with
  | some (_, c :: _) => offset + c.utf8Size
  | _ => text.byteSize + 1

/-- The first find in a text from an offset on. A match whose group is empty or took no part is
passed over: the search goes on at its end, or one character further if it was empty. -/
def findFrom (rule : Rule) (text : Text) (size : Nat) : Nat → Nat → Option Find
  | 0, _ => none
  | fuel + 1, offset =>
    if offset < size then
      match rule.pattern.search? text offset with
      | none => none
      | some m =>
        match (m.group? rule.group).filter (!·.isEmpty) with
        | some span => some ⟨span.start, span.stop, m.whole.stop⟩
        | none =>
          rule.findFrom text size fuel
            (if m.whole.isEmpty then nextBoundary text m.whole.start else m.whole.stop)
    else none

/-- The first find in a text from an offset on. -/
def find? (rule : Rule) (text : Text) (offset : Nat) : Option Find :=
  let size := text.byteSize
  rule.findFrom text size (size - offset) offset

/-- The first find in a window of a text. -/
def findIn (rule : Rule) (text : Text) (start stop : Nat) : Except BadWindow (Option Find) :=
  match text.cutAt? stop with
  | none => .error (.badEnd stop)
  | some (front, _) => .ok (rule.find? front start)

/-- All finds in a text from an offset on, each searched where the one before left off. -/
def findsFrom (rule : Rule) (text : Text) : Nat → Nat → List Find
  | 0, _ => []
  | fuel + 1, offset =>
    match rule.find? text offset with
    | none => []
    | some find => find :: rule.findsFrom text fuel find.resume

/-- All finds in a window of a text. -/
def findAll (rule : Rule) (text : Text) (start stop : Nat) : Except BadWindow (List Find) :=
  match text.cutAt? stop with
  | none => .error (.badEnd stop)
  | some (front, _) => .ok (rule.findsFrom front (stop - start) start)

end Rule

end Highlight
