import Highlight.Pattern.Basic
import Highlight.Unicode.Fold

/-!
# Expressions

What the spelling of a pattern says, before it is turned into a pattern: text is still text, counted
repetition is still a number, and choice points carry no marks.

Expressions are put together by `sequence`, `choice`, `ofSet` and `repeated`, which keep them in a
reduced form: sequences and alternatives are flat (`parts` and `alternatives` list them),
neighbouring texts are one text, a set of one character is a text, and alternatives that are all
single characters or all sets are one set. The form is part of the meaning, because the size of a
pattern is measured on it.
-/

namespace Highlight.Pattern

/-- A pattern as it is written. -/
inductive Expression where
  | empty
  /-- Characters one after another, at least one. -/
  | literal (text : Text)
  | set (members : Unicode.Ranges)
  | check (assertion : Assertion)
  | seq (first rest : Expression)
  | alt (preferred others : Expression)
  | group (index : Nat) (body : Expression)
  /-- At least `least` rounds, and at most `most` if there is a bound. -/
  | counted (least : Nat) (most : Option Nat) (greed : Greed) (body : Expression)
  deriving DecidableEq, Repr

namespace Expression

/-- Whether the expression can match without consuming anything. -/
def nullable : Expression → Bool
  | empty | check _ => true
  | literal _ | set _ => false
  | seq a b => a.nullable && b.nullable
  | alt a b => a.nullable || b.nullable
  | group _ a => a.nullable
  | counted least _ _ a => least == 0 || a.nullable

/-- Whether the expression never consumes anything. -/
def weightless : Expression → Bool
  | empty | check _ => true
  | literal _ | set _ => false
  | seq a b | alt a b => a.weightless && b.weightless
  | group _ a | counted _ _ _ a => a.weightless

/-- Whether every match starts at the start of the text. -/
def atTextStart : Expression → Bool
  | check assertion => assertion == .textStart
  | empty | literal _ | set _ => false
  | seq a b => a.atTextStart || (a.weightless && b.atTextStart)
  | alt a b => a.atTextStart && b.atTextStart
  | group _ a => a.atTextStart
  | counted least _ _ a => 0 < least && a.atTextStart

/-- Whether every match ends at the end of the text. -/
def atTextEnd : Expression → Bool
  | check assertion => assertion == .textEnd
  | empty | literal _ | set _ => false
  | seq a b => b.atTextEnd || (b.weightless && a.atTextEnd)
  | alt a b => a.atTextEnd && b.atTextEnd
  | group _ a => a.atTextEnd
  | counted least _ _ a => 0 < least && a.atTextEnd

/-- The parts of a sequence. -/
def parts : Expression → List Expression
  | empty => []
  | seq a b => a :: b.parts
  | e => [e]

/-- The sequence of some parts. -/
def ofParts : List Expression → Expression
  | [] => empty
  | [e] => e
  | e :: rest => seq e (ofParts rest)

/-- A part in front of others. Two texts become one. -/
def inFront : Expression → List Expression → List Expression
  | literal a, literal b :: rest => literal (a ++ b) :: rest
  | part, rest => part :: rest

/-- Expressions in order. -/
def sequence (expressions : List Expression) : Expression :=
  ofParts ((expressions.flatMap parts).foldr inFront [])

/-- The alternatives of a choice. -/
def alternatives : Expression → List Expression
  | alt a b => a :: b.alternatives
  | e => [e]

/-- The choice between some alternatives. A choice between none never matches. -/
def ofAlternatives : List Expression → Expression
  | [] => set []
  | [e] => e
  | e :: rest => alt e (ofAlternatives rest)

/-- One character of a set. -/
def ofSet : Unicode.Ranges → Expression
  | [(first, last)] => if first = last then literal [Char.ofNat first] else set [(first, last)]
  | members => set members

/-- The code of a single character. -/
def singleCode? : Expression → Option Nat
  | literal [c] => some c.toNat
  | _ => none

/-- The members of a set. -/
def members? : Expression → Option Unicode.Ranges
  | set members => some members
  | _ => none

/-- The one set that alternatives form, if all are single characters or all are sets. -/
def union? (alternatives : List Expression) : Option Expression :=
  match alternatives.mapM singleCode? with
  | some codes => some (ofSet (Unicode.Ranges.ofCodes codes))
  | none => (alternatives.mapM members?).map fun sets => ofSet (Unicode.Ranges.unions sets)

/-- The parts with which two sequences begin. -/
def sharedParts : List Expression → List Expression → List Expression
  | a :: left, b :: right => if a = b then a :: sharedParts left right else []
  | _, _ => []

/-- The parts of a sequence of several. -/
def sequence? : Expression → Option (List Expression)
  | seq a b => some (a :: b.parts)
  | _ => none

/-- The parts with which all alternatives begin, and what each of them has beyond, if all are
sequences and begin alike. -/
def factor? (alternatives : List Expression) : Option (List Expression × List Expression) :=
  match alternatives.mapM sequence? with
  | some (first :: others) =>
    let shared := others.foldl sharedParts first
    if shared.isEmpty then none
    else some (shared, (first :: others).map fun parts => ofParts (parts.drop shared.length))
  | _ => none

/-- The choice between alternatives, the first preferred, without looking for a common beginning. -/
def unfactored (expressions : List Expression) : Expression :=
  let all := expressions.flatMap alternatives
  (union? all).getD (ofAlternatives all)

/-- The choice between alternatives, the first preferred. What all of them begin with is matched
before the choice. -/
def choice (expressions : List Expression) : Expression :=
  let all := expressions.flatMap alternatives
  match all, union? all, factor? all with
  | [e], _, _ => e
  | _, some single, _ => single
  | _, none, some (shared, others) => sequence (shared ++ [unfactored others])
  | _, none, none => ofAlternatives all

/-- Rounds of an expression. Of one that never consumes anything a second round says nothing new. -/
def repeated (least : Nat) (most : Option Nat) (greed : Greed) (body : Expression) : Expression :=
  let (least, most) :=
    if body.weightless then (min least 1, some (min (most.getD 1) 1)) else (least, most)
  if most = some 0 then empty
  else if least = 1 ∧ most = some 1 then body
  else counted least most greed body

end Expression

end Highlight.Pattern
