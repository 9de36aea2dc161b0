import Highlight.Pattern.Automaton.Class
import Highlight.Pattern.Automaton.Texts
import Highlight.Pattern.Expression.Basic

/-!
# The automata of an expression

An expression has an automaton that reads forward and one that reads backward. The forward one
remembers where groups start and end, with a state for each; the backward one has none of these, and
every sequence in it is reversed. `Expression.fits` says that neither is too large.
-/

namespace Highlight.Pattern

namespace Automaton

/-- The fragment of an expression, and those of its parts if it is a sequence and of its
alternatives if it is a choice. -/
structure Layout where
  whole : Fragment
  parts : List Fragment
  alternatives : List Fragment

/-- The layout of an expression that is neither a sequence nor a choice. -/
def Layout.single (fragment : Fragment) : Layout := ⟨fragment, [fragment], [fragment]⟩

/-- The text of a literal. -/
def text? : Expression → Option Text
  | .literal text => some text
  | _ => none

/-- The least number of bytes that a match takes; nothing for an expression that never matches. -/
def leastBytes? : Expression → Option Nat
  | .empty | .check _ => some 0
  | .literal text => some text.byteSize
  | .set [] => none
  | .set (interval :: _) => some (bytesOf interval.1).length
  | .seq a b => do return (← leastBytes? a) + (← leastBytes? b)
  | .alt a b => do return min (← leastBytes? a) (← leastBytes? b)
  | .group _ a => leastBytes? a
  | .counted least _ _ a => do return least * (← leastBytes? a)

/-- The layout of an expression. -/
def layout (backward : Bool) : Expression → Layout
  | .empty | .check _ => .single Tally.plain
  | .literal text =>
    let length := text.byteSize
    .single fun t => ⟨t.states + length, t.extra, false⟩
  | .set members => .single (setFragment backward members)
  | .seq a b =>
    let parts := (layout backward a).whole :: (layout backward b).parts
    let whole := inOrder (if backward then parts.reverse else parts)
    ⟨whole, parts, [whole]⟩
  | .alt a b =>
    let alternatives := (layout backward a).whole :: (layout backward b).alternatives
    let whole : Fragment := fun t =>
      match (a :: b.alternatives).mapM text? with
      | some texts => choiceOfTexts backward texts t
      | none => inParallel alternatives t
    ⟨whole, [whole], alternatives⟩
  | .group _ a =>
    let body := (layout backward a).whole
    .single fun t => if backward then body t else (body t.plain).linked.plain
  | .counted least most _ a =>
    let body := (layout backward a).whole
    .single (match most with
      | some most => copiesBetween body least most
      | none => copiesFrom body ((leastBytes? a).any (0 < ·)) least)

/-- The automaton of an expression. Unless matches are bound to the end of the text where it starts,
it begins with a loop over any bytes. The forward one takes the whole match as a group. -/
def ofExpression (backward : Bool) (e : Expression) : Tally :=
  let bound := if backward then e.atTextEnd else e.atTextStart
  let entry :=
    if bound then Tally.start.plain else ((Tally.start.offering 2).plain).listing 1
  let body := (layout backward (.group 0 e)).whole entry
  body.linked.plain

end Automaton

/-- Whether the automata of an expression are within the limit. -/
def Expression.fits (e : Expression) : Bool :=
  !(Automaton.ofExpression false e).isOver && !(Automaton.ofExpression true e).isOver

end Highlight.Pattern
