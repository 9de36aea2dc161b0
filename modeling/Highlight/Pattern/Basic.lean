import Highlight.Pattern.CharSet
import Highlight.Text.Basic

/-!
# Patterns

The meaning of a pattern, after its spelling has been read: character sets, assertions about the
two neighbours of a position, sequence, ordered choice, repetition and numbered groups. Optional
parts, unbounded repetition and lazy variants are combinations of these, so each law is proved once.

The order of a choice is its priority. `plus greedy p` prefers another round, `plus lazy p` prefers
to stop; a `once` node may be entered a single time between two consumed characters, which is what
keeps a repetition of something empty from going round in place.

The last four forms belong to patterns that were spelled out. Counts there may be in the millions,
so `times` and `atMost` keep the count instead of that many copies of the body: the marks of a body
are raised by `stride` from one round to the next, as if every copy had marks of its own. `settled`
keeps one way to each position, and `forget` ends the reach of the marks inside it.
-/

namespace Highlight

namespace Pattern

/-- What a word edge asserts about the two sides of a position. -/
inductive WordEdge where
  /-- Exactly one side is a word character. -/
  | boundary
  /-- Both sides are, or neither is. -/
  | interior
  /-- A word starts here. -/
  | start
  /-- A word ends here. -/
  | stop
  /-- No word character stands before. -/
  | startHalf
  /-- No word character stands after. -/
  | stopHalf
  deriving DecidableEq, Repr

/-- A condition on a position that consumes nothing. -/
inductive Assertion where
  | textStart
  | textEnd
  /-- After a line end, or at the start; with `returns` a carriage return ends a line too. -/
  | lineStart (returns : Bool)
  /-- Before a line end, or at the end; with `returns` a carriage return ends a line too. -/
  | lineEnd (returns : Bool)
  /-- A word edge, where `letters` says which characters make words. -/
  | word (edge : WordEdge) (letters : CharSet)
  deriving DecidableEq, Repr

/-- Whether a word edge holds between sides of which it is known whether they belong to a word. -/
def WordEdge.holds : WordEdge → Bool → Bool → Bool
  | boundary, before, after => before != after
  | interior, before, after => before == after
  | start, before, after => !before && after
  | stop, before, after => before && !after
  | startHalf, before, _ => !before
  | stopHalf, _, after => !after

/-- Whether an assertion holds between two characters, `none` standing for an end of the text. A
carriage return and the line feed after it end one line together. -/
def Assertion.holds : Assertion → Option Char → Option Char → Bool
  | textStart, before, _ => before.isNone
  | textEnd, _, after => after.isNone
  | lineStart returns, before, after =>
    before.isNone || before == some '\n'
      || (returns && before == some '\r' && after != some '\n')
  | lineEnd returns, before, after =>
    after.isNone || (after == some '\n' && !(returns && before == some '\r'))
      || (returns && after == some '\r')
  | word edge letters, before, after =>
    edge.holds (before.any letters.contains) (after.any letters.contains)

/-- Whether a repetition prefers another round. -/
inductive Greed where
  | greedy
  | lazy
  deriving DecidableEq, Repr

end Pattern

open Pattern in
/-- A pattern. -/
inductive Pattern where
  | empty
  | set (chars : CharSet)
  | check (assertion : Assertion)
  | seq (first second : Pattern)
  | alt (preferred other : Pattern)
  /-- One or more rounds. -/
  | plus (greed : Greed) (body : Pattern)
  /-- The part of the match that is reported under an index. -/
  | group (index : Nat) (body : Pattern)
  /-- Entered at most once between two consumed characters. -/
  | once (mark : Nat) (body : Pattern)
  /-- Exactly `count` rounds. -/
  | times (count stride : Nat) (body : Pattern)
  /-- At most `count` rounds. With a mark, each choice to stop or go on is a `once` node. -/
  | atMost (greed : Greed) (mark : Option Nat) (count stride : Nat) (body : Pattern)
  /-- The most preferred outcome of the body at each position. -/
  | settled (body : Pattern)
  /-- The body, after which the `once` nodes inside it count as not entered. -/
  | forget (body : Pattern)
  deriving DecidableEq, Repr

namespace Pattern

/-- One or no round, preferring as `greed` says. -/
def opt (greed : Greed) (body : Pattern) : Pattern :=
  match greed with
  | .greedy => alt body empty
  | .lazy => alt empty body

/-- Any number of rounds. -/
def star (greed : Greed) (body : Pattern) : Pattern := opt greed (plus greed body)

/-- The patterns in order. -/
def seqs : List Pattern → Pattern
  | [] => empty
  | [p] => p
  | p :: rest => seq p (seqs rest)

/-- A choice between patterns, the first preferred. A choice between none never matches. -/
def alts : List Pattern → Pattern
  | [] => set .nothing
  | [p] => p
  | p :: rest => alt p (alts rest)

/-- One more than the highest group index: group 0 is the whole match and always there. -/
def groupCount : Pattern → Nat
  | empty | set _ | check _ => 1
  | seq p q | alt p q => max p.groupCount q.groupCount
  | plus _ p | once _ p | times _ _ p | atMost _ _ _ _ p | settled p | forget p => p.groupCount
  | group index p => max (index + 1) p.groupCount

end Pattern

end Highlight
