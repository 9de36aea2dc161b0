/-!
# The size of an automaton

A pattern that is larger than ten mebibytes when it is laid out as an automaton over bytes is
refused, so the size is a rule of the language of patterns and has to be exact. A tally counts it:
32 bytes for a state, 8 more for each transition of a state with a list of them, and 4 more for each
alternative of a state that offers a choice.

A fragment of the automaton is a function on tallies. The fragments of an expression are built in a
fixed order, so the number of states built before is the number of the next state.
-/

namespace Highlight.Pattern.Automaton

/-- What has been built: the states, the bytes taken beyond them, and whether the last fragment ends
in a state that offers a choice, which makes going on from it one more alternative. -/
structure Tally where
  states : Nat
  extra : Nat
  branching : Bool

/-- A fragment of an automaton. -/
abbrev Fragment := Tally → Tally

/-- The largest size allowed. -/
def sizeLimit : Nat := 10 * 1024 * 1024

namespace Tally

/-- Nothing built. -/
def start : Tally := ⟨0, 0, false⟩

/-- The size in bytes. -/
def size (t : Tally) : Nat := 32 * t.states + t.extra

/-- Whether the size is beyond the limit, which no further fragment can mend. -/
def isOver (t : Tally) : Bool := sizeLimit < t.size

/-- A state with a single way on. -/
def plain (t : Tally) : Tally := ⟨t.states + 1, t.extra, false⟩

/-- A state with a list of transitions. -/
def listing (t : Tally) (transitions : Nat) : Tally :=
  ⟨t.states + 1, t.extra + 8 * transitions, false⟩

/-- A state that offers a choice between alternatives. -/
def offering (t : Tally) (alternatives : Nat) : Tally :=
  ⟨t.states + 1, t.extra + 4 * alternatives, true⟩

/-- The last fragment has been connected to another state. -/
def linked (t : Tally) : Tally := if t.branching then { t with extra := t.extra + 4 } else t

end Tally

/-- Fragments one after another. -/
def inOrder : List Fragment → Fragment
  | [], t => t.plain
  | [fragment], t => fragment t
  | fragment :: rest, t => inOrder rest (fragment t).linked

/-- `count` more copies of a fragment after the last one. Beyond the limit the copies stop. -/
def moreCopies (fragment : Fragment) : Nat → Fragment
  | 0, t => t
  | count + 1, t => if t.isOver then t else moreCopies fragment count (fragment t.linked)

/-- `count` copies of a fragment. -/
def copies (fragment : Fragment) : Nat → Fragment
  | 0, t => t.plain
  | count + 1, t => moreCopies fragment count (fragment t)

/-- `count` copies of a fragment, each of which may be skipped with all that follow. -/
def skippableCopies (fragment : Fragment) : Nat → Fragment
  | 0, t => t
  | count + 1, t =>
    if t.isOver then t else skippableCopies fragment count (fragment (t.offering 2)).linked

/-- Between `least` and `most` copies. A lone copy that may be skipped has its end for itself. -/
def copiesBetween (fragment : Fragment) (least most : Nat) : Fragment := fun t =>
  if least = 0 ∧ most = 1 then (fragment (t.offering 2)).linked.plain
  else if least = most then copies fragment least t
  else
    let fixed := (copies fragment least t).linked.plain
    { skippableCopies fragment (most - least) fixed with branching := false }

/-- At least `least` copies. A loop that may be skipped altogether has one choice if each of its
rounds consumes something, and two otherwise. -/
def copiesFrom (fragment : Fragment) (consumes : Bool) : Nat → Fragment
  | 0, t =>
    if consumes then { (fragment (t.offering 1)).linked with branching := true }
    else (((fragment t).linked.offering 2).offering 2).plain
  | 1, t => (fragment t).linked.offering 1
  | count + 2, t => (fragment (copies fragment (count + 1) t).linked).linked.offering 1

/-- A choice between fragments. -/
def inParallel : List Fragment → Fragment
  | [], t => t.plain
  | [fragment], t => fragment t
  | first :: second :: rest, t =>
    let joined := ((second (first t).linked).linked.offering 2).plain
    let all := rest.foldl (fun t fragment =>
      let built := (fragment t).linked
      { built with extra := built.extra + 4 }) joined
    { all with branching := false }

end Highlight.Pattern.Automaton
