import Highlight.Pattern.Basic
import Std.Data.HashSet.Basic

/-!
# Outcomes of a pattern

`Pattern.outcomes p s` lists every way `p` can match from the state `s`, most preferred first. A
sequence continues each outcome of its first part, a choice lists one side before the other, so
the first outcome of all is the match that ordered choice prescribes.

A repetition explores depth first and reports each end position once, for the first time it is
reached: whatever comes after sees only the position, so a later arrival could not succeed where
the first one failed. The fuel of the exploration is the number of characters left, because every
round but the first consumes something.

The same holds wherever a pattern has a `settled` part and between the rounds of counted repetition:
each position is kept once, so the number of states is bounded by the length of the text and not by
the number of ways to reach them. The `once` nodes on the way make no difference: one that bars the
first arrival from going on was entered on its way at the same position, and its other side comes
before every later arrival that did not enter it too. When a counted round changes nothing, no later
one does.
-/

namespace Highlight.Pattern

/-- The part of a text from `start` up to `stop`, in bytes. -/
structure Span where
  start : Nat
  stop : Nat
  deriving DecidableEq, Repr

/-- Whether a span holds nothing. -/
def Span.isEmpty (span : Span) : Bool := span.stop ≤ span.start

/-- A position in the searched text: its offset, the character before it and the text after it. -/
structure Cursor where
  offset : Nat
  before : Option Char
  rest : Text
  deriving DecidableEq, Repr

/-- How far a match has come: its position, the last span of every group closed so far, latest
first, the `once` nodes entered since the last consumed character, and by how much marks are raised.
-/
structure State extends Cursor where
  groups : List (Nat × Span)
  entered : List Nat
  raised : Nat
  deriving DecidableEq, Repr

namespace State

/-- The state in which a match starts. -/
def start (cursor : Cursor) : State :=
  { cursor with groups := [], entered := [], raised := 0 }

/-- The state after consuming the character `c` in front of `rest`. -/
def advance (s : State) (c : Char) (rest : Text) : State :=
  { s with offset := s.offset + c.utf8Size, before := some c, rest := rest, entered := [] }

/-- The state after closing a group opened at an offset. -/
def close (s : State) (index : Nat) (opened : Nat) : State :=
  { s with groups := (index, ⟨opened, s.offset⟩) :: s.groups.filter (·.1 != index) }

/-- The state after entering a `once` node, unless it has been entered. -/
def enter? (s : State) (mark : Nat) : Option State :=
  if s.raised + mark ∈ s.entered then none
  else some { s with entered := (s.raised + mark) :: s.entered }

/-- The state with marks raised by `amount` more. -/
def raise (s : State) (amount : Nat) : State := { s with raised := s.raised + amount }

end State

/-- The end positions a repetition has reached, in decreasing order, and the states it reached
them in, least preferred first. -/
structure Trail where
  reached : List Nat
  found : List State

namespace Trail

/-- A trail with nothing on it. -/
def empty : Trail := ⟨[], []⟩

/-- The decreasing list with one more offset, nothing if it is there already. -/
def insert? (offset : Nat) : List Nat → Option (List Nat)
  | [] => some [offset]
  | top :: below =>
    if top < offset then some (offset :: top :: below)
    else if top = offset then none
    else (insert? offset below).map (top :: ·)

/-- The trail that remembers a new end position; nothing if it was reached before. -/
def mark? (trail : Trail) (offset : Nat) : Option Trail :=
  (insert? offset trail.reached).map fun reached => { trail with reached }

/-- The trail with one more, less preferred, state. -/
def add (trail : Trail) (s : State) : Trail := { trail with found := s :: trail.found }

end Trail

/-- Follow the rounds of a repetition from a state. A new end position is a place to stop, and,
unless the round was empty, a place to start the next round; `greed` says which comes first. -/
def explore (round : State → List State) (greed : Greed) : Nat → State → Trail → Trail
  | 0, _, trail => trail
  | fuel + 1, s, trail =>
    (round s).foldl (fun trail t =>
      match trail.mark? t.offset with
      | none => trail
      | some marked =>
        if t.offset = s.offset then marked.add t
        else match greed with
          | .greedy => (explore round greed fuel t marked).add t
          | .lazy => explore round greed fuel t (marked.add t)) trail

/-- The states of a list whose position is not among those seen before, one for each position. -/
def unseen (seen : Std.HashSet Nat) : List State → List State
  | [] => []
  | s :: rest =>
    if seen.contains s.offset then unseen seen rest
    else s :: unseen (seen.insert s.offset) rest

/-- The most preferred state of a list at each position. -/
def distinct : List State → List State
  | [] => []
  | [s] => [s]
  | states => unseen {} states

/-- Whether two lists of states report the same positions and groups. -/
def sameReport : List State → List State → Bool
  | [], [] => true
  | s :: left, t :: right => s.offset == t.offset && s.groups == t.groups && sameReport left right
  | _, _ => false

/-- The states after `count` more rounds, of which the first has the number `index`. -/
def goRounds (round : Nat → State → List State) : Nat → Nat → List State → List State
  | 0, _, states => states
  | count + 1, index, states =>
    let following := distinct (states.flatMap (round index))
    if following.isEmpty || sameReport following states then following
    else goRounds round count (index + 1) following

/-- What is known on the way through optional rounds: where a choice has been made, with the number
of rounds left, and the states found, least preferred first. -/
structure Descent where
  chosen : Std.HashSet (Nat × Nat)
  found : List State

/-- Follow at most `left` rounds from a state, where `choose` enters the choice before a round. The
same choice at the same position leads to the same outcomes, so it is made once. -/
def descend (round : Nat → State → List State) (choose : Nat → State → Option State)
    (greed : Greed) : Nat → State → Descent → Descent
  | 0, s, descent => { descent with found := s :: descent.found }
  | left + 1, s, descent =>
    if descent.chosen.contains (left, s.offset) then descent
    else
      let descent := { descent with chosen := descent.chosen.insert (left, s.offset) }
      match choose left s with
      | none => descent
      | some s =>
        let goOn (descent : Descent) : Descent :=
          (round left s).foldl (fun descent t => descend round choose greed left t descent) descent
        let stop (descent : Descent) : Descent := { descent with found := s :: descent.found }
        match greed with
        | .greedy => stop (goOn descent)
        | .lazy => goOn (stop descent)

/-- How many optional rounds can make a difference. Without marks, a choice made twice in place
leads nowhere new, so two rounds for each character left and a few more are enough. -/
def usefulRounds (mark : Option Nat) (count : Nat) (s : State) : Nat :=
  if mark.isNone then min count (2 * s.rest.length + 4) else count

/-- Every way to match from a state, most preferred first. -/
def outcomes : Pattern → State → List State
  | empty, s => [s]
  | set chars, s =>
    match s.rest with
    | [] => []
    | c :: rest => if chars.contains c then [s.advance c rest] else []
  | check assertion, s => if assertion.holds s.before s.rest.head? then [s] else []
  | seq p q, s => (p.outcomes s).flatMap q.outcomes
  | alt p q, s => p.outcomes s ++ q.outcomes s
  | plus greed p, s =>
    (explore p.outcomes greed (s.rest.length + 1) s Trail.empty).found.reverse
  | group index p, s => (p.outcomes s).map fun t => t.close index s.offset
  | once mark p, s =>
    match s.enter? mark with
    | none => []
    | some s => p.outcomes s
  | times count stride p, s =>
    let round (index : Nat) (t : State) : List State :=
      (p.outcomes (t.raise (index * stride))).map fun u => { u with raised := s.raised }
    goRounds round count 0 [s]
  | atMost greed mark count stride p, s =>
    let useful := usefulRounds mark count s
    let raised (left : Nat) (t : State) : State := t.raise ((useful - 1 - left) * stride)
    let round (left : Nat) (t : State) : List State :=
      (p.outcomes (raised left t)).map fun u => { u with raised := s.raised }
    let choose (left : Nat) (t : State) : Option State :=
      match mark with
      | none => some t
      | some mark => ((raised left t).enter? mark).map fun u => { u with raised := s.raised }
    distinct (descend round choose greed useful s ⟨{}, []⟩).found.reverse
  | settled p, s => distinct (p.outcomes s)
  | forget p, s => (p.outcomes s).map fun t => { t with entered := [] }

end Highlight.Pattern
