/-!
# Sets of code points

A character property is a list of code point intervals, a case mapping a list of runs. Both are
plain data read by structural recursion, so a property of one character is settled by evaluation.

Classes of characters are put together from such lists. The operations keep the intervals in
increasing order and apart from each other, so a set has one spelling, with one exception: the
last code point before the surrogates and the first one after them stay two intervals when they
come from two sources, because no character lies between them and nothing joins them.
-/

namespace Highlight.Unicode

/-- Intervals of code points, both ends included, in increasing order. -/
abbrev Ranges := List (Nat × Nat)

namespace Ranges

/-- Whether a code point lies in one of the intervals. The order lets the search stop early. -/
def contains : Ranges → Nat → Bool
  | [], _ => false
  | (first, last) :: rest, code =>
    if code < first then false else code ≤ last || contains rest code

/-- The largest code point. -/
def maximum : Nat := 0x10FFFF

/-- The character after one, surrogates being no characters. -/
def next (code : Nat) : Nat := if code = 0xD7FF then 0xE000 else code + 1

/-- The character before one, surrogates being no characters. -/
def previous (code : Nat) : Nat := if code = 0xE000 then 0xD7FF else code - 1

/-- The interval with two given ends, in either order. -/
def spanning (a b : Nat) : Nat × Nat := (min a b, max a b)

/-- Intervals in order after an open one, which swallows those that overlap or touch it. -/
def joinAfter (first last : Nat) : Ranges → Ranges
  | [] => [(first, last)]
  | (a, b) :: rest =>
    if a ≤ last + 1 then joinAfter first (max last b) rest
    else (first, last) :: joinAfter a b rest

/-- Intervals in order of their first code point, with those that overlap or touch joined. -/
def join : Ranges → Ranges
  | [] => []
  | (first, last) :: rest => joinAfter first last rest

/-- The code points of either set. -/
def union (a b : Ranges) : Ranges := join (List.merge a b fun x y => x.1 ≤ y.1)

/-- The code points of some set of a list. -/
def unions (sets : List Ranges) : Ranges := sets.foldr union []

/-- The code points of both sets. -/
def inter : Ranges → Ranges → Ranges
  | (a, b) :: left, (c, d) :: right =>
    let rest := if b < d then inter left ((c, d) :: right) else inter ((a, b) :: left) right
    if max a c ≤ min b d then (max a c, min b d) :: rest else rest
  | [], _ => []
  | _, [] => []
termination_by left right => left.length + right.length

/-- The code points of the first set that are not in the second. -/
def diff : Ranges → Ranges → Ranges
  | [], _ => []
  | left, [] => left
  | (a, b) :: left, (c, d) :: right =>
    if d < a then diff ((a, b) :: left) right
    else if b < c then (a, b) :: diff left ((c, d) :: right)
    else
      let rest := if d < b then diff ((next d, b) :: left) right else diff left ((c, d) :: right)
      if a < c then (a, previous c) :: rest else rest
termination_by left right => left.length + right.length

/-- The code points of exactly one of two sets. -/
def symmDiff (a b : Ranges) : Ranges := diff (union a b) (inter a b)

/-- What lies beyond `last` and between the intervals that follow it. -/
def gapsAfter (last : Nat) : Ranges → Ranges
  | [] => if last < maximum then [(next last, maximum)] else []
  | (first, last') :: rest => spanning (next last) (previous first) :: gapsAfter last' rest

/-- What the intervals leave out. Every gap between two of them becomes an interval, whichever of
its ends is the larger: where only the surrogates lie between, these are the two neighbours. -/
def compl : Ranges → Ranges
  | [] => [(0, maximum)]
  | (first, last) :: rest =>
    if 0 < first then (0, previous first) :: gapsAfter last rest else gapsAfter last rest

/-- The set of the code points of a list. -/
def ofCodes (codes : List Nat) : Ranges :=
  join ((codes.mergeSort (· ≤ ·)).map fun code => (code, code))

/-- The code points `first`, `first + step`, …, `last`. -/
def ofRun : Nat × Nat × Nat → Ranges
  | (first, last, step) =>
    if step ≤ 1 then [(first, last)]
    else (List.range ((last - first) / step + 1)).map fun i => (first + i * step, first + i * step)

/-- The code points of runs in increasing order. -/
def ofRuns (runs : List (Nat × Nat × Nat)) : Ranges := runs.flatMap ofRun

end Ranges

/-- A run of code points `first`, `first + step`, …, `last` that a case mapping shifts alike. -/
structure CaseRun where
  first : Nat
  last : Nat
  step : Nat
  shift : Int

namespace CaseRun

/-- Whether a code point is one of the run. -/
def covers (run : CaseRun) (code : Nat) : Bool :=
  run.first ≤ code && code ≤ run.last && (code - run.first) % run.step == 0

/-- The image of a covered code point, nothing outside the run. -/
def image? (run : CaseRun) (code : Nat) : Option Nat :=
  if run.covers code then some (Int.toNat (code + run.shift)) else none

/-- The covered code point that the run sends to `code`, if there is one. -/
def preimage? (run : CaseRun) (code : Nat) : Option Nat :=
  let source := Int.toNat (code - run.shift)
  if run.covers source && run.image? source == some code then some source else none

/-- Every covered code point with its image. -/
def pairs (run : CaseRun) : List (Nat × Nat) :=
  (List.range ((run.last - run.first) / run.step + 1)).map fun i =>
    let code := run.first + i * run.step
    (code, Int.toNat (code + run.shift))

end CaseRun

end Highlight.Unicode
