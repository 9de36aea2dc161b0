import Highlight.Pattern.Expression.Basic

/-!
# From expressions to patterns

`Expression.toPattern` gives the pattern an expression stands for.

A repetition whose body can match nothing needs care, because its rounds could go on in place. Its
body is compiled *guarded*: every point of choice inside it, loops included, gets a mark of its own
and may be entered once between two consumed characters. A repetition whose every round consumes
something cannot return to a point of choice at the same position, so it is left unmarked. Outside
guarded bodies no mark counts as entered, which `forget` sees to where a guarded body ends.

A sequence leans to the left, and what comes before a part is settled: so the outcomes that reach
the part are as many as there are positions, however many ways lead there.
-/

namespace Highlight.Pattern.Expression

/-- Numbers the marks. -/
abbrev Marking := StateM Nat

/-- A mark not used before. -/
def freshMark : Marking Nat := modifyGet fun n => (n, n + 1)

/-- The pattern with outcomes that differ. -/
def settle : Pattern → Pattern
  | .empty => .empty
  | .set chars => .set chars
  | .check assertion => .check assertion
  | .settled p => .settled p
  | p => .settled p

/-- A pattern after what comes before it. -/
def after (before : Option Pattern) (p : Pattern) : Pattern :=
  match before with
  | none => p
  | some q => .seq (settle q) p

/-- A point of choice, marked where repetition could return to it in place. -/
def branch (guarded : Bool) (p : Pattern) : Marking Pattern := do
  if guarded then return .once (← freshMark) p else return p

/-- A body with the number of marks it takes, with as many marks set aside for every round of
`count`. Without a guard the rounds share their marks. -/
def reserving {α : Type} (guarded : Bool) (count : Nat) (body : Marking α) :
    Marking (α × Nat) := do
  let first ← get
  let result ← body
  if guarded then
    let stride := (← get) - first
    modify fun _ => first + count * stride
    return (result, stride)
  else return (result, 0)

/-- One or more rounds. Inside a guarded body the point where a round ends is marked too. -/
def rounds (guarded : Bool) (greed : Greed) (body : Pattern) : Marking Pattern := do
  if guarded then return .plus greed (.seq body (.once (← freshMark) .empty))
  else return .plus greed body

/-- Any number of rounds. Where each round consumes something, the choice before the first round
and the one after each round are the same point, so they share a mark. -/
def anyRounds (guarded nullable : Bool) (greed : Greed) (body : Pattern) : Marking Pattern := do
  if !guarded then return Pattern.opt greed (← rounds false greed body)
  else
    let mark ← freshMark
    if nullable then return .once mark (Pattern.opt greed (← rounds true greed body))
    else return .once mark (Pattern.opt greed (.plus greed (.seq body (.once mark .empty))))

/-- Exactly `count` rounds. -/
def exactRounds (guarded : Bool) (body : Marking Pattern) : Nat → Marking Pattern
  | 0 => return .empty
  | 1 => body
  | count => do
    let (p, stride) ← reserving guarded count body
    return .times count stride p

/-- Up to `count` rounds, which may be left before each of them. -/
def optionalRounds (guarded : Bool) (greed : Greed) (body : Marking Pattern) :
    Nat → Marking Pattern
  | 0 => return .empty
  | 1 => do branch guarded (Pattern.opt greed (← body))
  | count => do
    let marked : Marking (Option Nat × Pattern) := do
      let mark ← if guarded then some <$> freshMark else pure none
      return (mark, ← body)
    let ((mark, p), stride) ← reserving guarded count marked
    return .atMost greed mark count stride p

/-- A loop over a body, at the end of a guarded region unless it is inside a larger one. -/
def close (guarded nullable : Bool) (loop : Pattern) : Pattern :=
  if nullable && !guarded then .forget loop else loop

/-- The pattern of an expression after what comes before it; `guarded` where it is part of a round
that can match nothing. -/
def compile (guarded : Bool) : Expression → Option Pattern → Marking Pattern
  | empty, before => return before.getD .empty
  | literal text, before => return after before (seqs (text.map fun c => .set (.char c)))
  | set members, before => return after before (.set (.within members))
  | check assertion, before => return after before (.check assertion)
  | seq a b, before => do b.compile guarded (some (← a.compile guarded before))
  | alt a b, before => do
    let p ← a.compile guarded none
    let q ← b.compile guarded none
    return after before (← branch guarded (.alt p q))
  | group index a, before => return after before (.group index (← a.compile guarded none))
  | counted 0 none greed a, before => do
    let body ← a.compile (guarded || a.nullable) none
    let loop ← anyRounds guarded a.nullable greed body
    return after before (close guarded a.nullable loop)
  | counted (least + 1) none greed a, before => do
    let ahead ← exactRounds guarded (a.compile guarded none) least
    let body ← a.compile (guarded || a.nullable) none
    let loop := close guarded a.nullable (← rounds guarded greed body)
    return after (if least = 0 then before else some (after before ahead)) loop
  | counted least (some most) greed a, before => do
    let fixed ← exactRounds guarded (a.compile guarded none) least
    let before := if least = 0 then before else some (after before fixed)
    if most ≤ least then return before.getD .empty
    else
      let more ← optionalRounds guarded greed (a.compile guarded none) (most - least)
      return after before more

/-- The pattern an expression stands for. -/
def toPattern (e : Expression) : Pattern := ((e.compile false none).run 0).run.1

end Highlight.Pattern.Expression
