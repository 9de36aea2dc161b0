import Highlight.Unicode.Ranges

/-!
# Sets of characters as sequences of bytes

An automaton over bytes reads a character as the bytes of its UTF-8 form. A set of characters then
is a list of sequences of byte intervals: an interval of code points is cut where the number of
bytes changes, and further until the bytes of the parts vary independently of each other.
-/

namespace Highlight.Pattern.Automaton

/-- The bytes of the UTF-8 form of a code point. -/
def bytesOf (code : Nat) : List Nat :=
  if code < 0x80 then [code]
  else if code < 0x800 then [0xC0 + code / 64, 0x80 + code % 64]
  else if code < 0x10000 then [0xE0 + code / 4096, 0x80 + code / 64 % 64, 0x80 + code % 64]
  else [0xF0 + code / 262144, 0x80 + code / 4096 % 64, 0x80 + code / 64 % 64, 0x80 + code % 64]

/-- The last code point of each length, and those on both sides of the end of the surrogates. -/
def lengthLimits : List Nat := [0x7F, 0x7FF, 0xD7FF, 0xDFFF, 0xFFFF]

/-- The number of code points that share all bytes but the last, the last two, the last three. -/
def blockSizes : List Nat := [64, 4096, 262144]

/-- The parts of an interval up to and after each limit. -/
def cutAfter : List Nat → Nat → Nat → List (Nat × Nat)
  | [], a, b => [(a, b)]
  | limit :: limits, a, b =>
    if limit < a then cutAfter limits a b
    else if b ≤ limit then [(a, b)]
    else (a, limit) :: cutAfter limits (limit + 1) b

/-- The parts of an interval that fill whole blocks, or lie in one block, of every size. -/
def cutAtBlocks : List Nat → Nat → Nat → List (Nat × Nat)
  | [], a, b => [(a, b)]
  | size :: sizes, a, b =>
    if a / size = b / size then [(a, b)]
    else
      let low := (a + size - 1) / size * size
      let high := (b + 1) / size * size
      (if a < low then [(a, low - 1)] else [])
        ++ (if low < high then cutAtBlocks sizes low (high - 1) else [])
        ++ (if high ≤ b then [(high, b)] else [])

/-- The sequences of byte intervals of an interval of code points, in increasing order. -/
def sequencesOf (interval : Nat × Nat) : List (List (Nat × Nat)) :=
  let sameLength := (cutAfter lengthLimits interval.1 interval.2).filter fun (a, b) =>
    b < 0xD800 || 0xDFFF < a
  let parts := sameLength.flatMap fun (a, b) =>
    if b < 0x80 then [(a, b)] else cutAtBlocks blockSizes a b
  parts.map fun (a, b) => (bytesOf a).zip (bytesOf b)

/-- The sequences of byte intervals of a set. -/
def sequences (members : Unicode.Ranges) : List (List (Nat × Nat)) := members.flatMap sequencesOf

example : sequences [(0x61, 0x7A)] = [[(0x61, 0x7A)]] := by decide
example : sequences [(0xE9, 0x101)] =
    [[(0xC3, 0xC3), (0xA9, 0xBF)], [(0xC4, 0xC4), (0x80, 0x81)]] := by decide

end Highlight.Pattern.Automaton
