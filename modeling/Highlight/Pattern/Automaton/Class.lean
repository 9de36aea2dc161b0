import Highlight.Pattern.Automaton.Encoding
import Highlight.Pattern.Automaton.Tally
import Std.Data.HashMap.Basic

/-!
# Sets in an automaton

A set of ASCII characters is a single state with a list of transitions. Any other set is a tree over
the sequences of byte intervals that spell its members, and equal parts of the tree are shared. The
memory of parts seen before has a fixed number of slots and a new part replaces what its slot held,
so the choice of slots is part of the rule.
-/

namespace Highlight.Pattern.Automaton

/-- The slot of a list of numbers among `slots`, by their 64-bit FNV-1a hash. -/
def slotOf (slots : Nat) (numbers : List Nat) : Nat :=
  let hash := numbers.foldl (fun hash n => (hash ^^^ n.toUInt64) * 1099511628211)
    (14695981039346656037 : UInt64)
  hash.toNat % slots

/-- Parts of the tree of a set: the tally, and by slot the parts remembered, each with the numbers
that describe it and its state. -/
structure Sharing where
  tally : Tally
  memory : Std.HashMap Nat (List Nat × Nat)

/-- The state of the part that some numbers describe, built unless it is remembered. -/
def Sharing.part (s : Sharing) (slots : Nat) (numbers : List Nat) (build : Fragment) :
    Nat × Sharing :=
  let slot := slotOf slots numbers
  let state := s.tally.states
  let built : Nat × Sharing := (state, ⟨build s.tally, s.memory.insert slot (numbers, state)⟩)
  match s.memory[slot]? with
  | some (known, state) => if known = numbers then (state, s) else built
  | none => built

/-- The tree over sequences of byte intervals that ends in the state `target`. Sequences that begin
alike stand together. Their length is at most `depth`. A part is described by its transitions, each
with the interval and the state after it. -/
def forwardTree (target : Nat) : Nat → List (List (Nat × Nat)) → Sharing → Nat × Sharing
  | 0, _, s => (target, s)
  | depth + 1, spelled, s =>
    let groups := spelled.splitBy fun a b => a.head? == b.head?
    let (transitions, s) := groups.foldl (fun (transitions, s) group =>
      match group with
      | ((first, last) :: _) :: _ =>
        let below := group.map List.tail
        let (next, s) :=
          if below.all List.isEmpty then (target, s) else forwardTree target depth below s
        ([first, last, next] :: transitions, s)
      | _ => (transitions, s)) ([], s)
    s.part 10000 transitions.reverse.flatten fun t => t.listing transitions.length

/-- A set read forward. -/
def forwardSet (spelled : List (List (Nat × Nat))) : Fragment := fun t =>
  let (_, s) := forwardTree t.states 4 spelled ⟨t.plain, {}⟩
  { s.tally with branching := false }

/-- One way into a set read backward, from the state it ends in: a state for every byte, from the
last one to be read to the first. A part is described by the state after it and its interval. -/
def backwardWay (target : Nat) (spelled : List (Nat × Nat)) (s : Sharing) : Nat × Sharing :=
  spelled.foldl (fun (state, s) (first, last) =>
    s.part 1000 [state, first, last] Tally.plain) (target, s)

/-- A set read backward: a choice between its ways. -/
def backwardSet (spelled : List (List (Nat × Nat))) : Fragment := fun t =>
  let begun := (t.offering 0).plain
  let s := spelled.foldl (fun s way =>
    let (_, s) := backwardWay (t.states + 1) way s
    { s with tally := { s.tally with extra := s.tally.extra + 4 } }) ⟨begun, {}⟩
  { s.tally with branching := false }

/-- A set in an automaton; `backward` reads characters from their last byte. -/
def setFragment (backward : Bool) (members : Unicode.Ranges) : Fragment :=
  if members.all fun interval => interval.2 < 0x80 then
    fun t => { t.plain.listing members.length with branching := false }
  else
    let spelled := sequences members
    if backward then backwardSet spelled else forwardSet spelled

end Highlight.Pattern.Automaton
