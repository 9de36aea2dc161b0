import Highlight.Unicode.Property
import Highlight.Unicode.Script

/-!
# Classes for finding breaks

Text is divided into user-perceived characters, words and sentences by classes of characters, and
each character has one class of every kind. The classes are told in order of rank: where several
descriptions fit a character, the first decides.
-/

namespace Highlight.Unicode.Break

/-- Classes described in order of rank, reduced to what no earlier one takes. -/
def ranked (taken : Ranges) : List NamedRanges → List NamedRanges
  | [] => []
  | described :: rest =>
    ⟨described.names, Ranges.diff described.ranges taken⟩
      :: ranked (Ranges.union described.ranges taken) rest

/-- Digits, and the signs that are written before a number or between its digits. -/
def numeric : Ranges :=
  Ranges.union Category.decimalNumber
    [(0x0600, 0x0605), (0x066B, 0x066C), (0x06DD, 0x06DD), (0x0890, 0x0891), (0x08E2, 0x08E2),
     (0x110BD, 0x110BD), (0x110CD, 0x110CD)]

end Highlight.Unicode.Break
