import Highlight.Unicode.Ranges

/-!
# White space

The `White_Space` property: what is trimmed from identifiers and settings, and what the blank class
of a pattern matches. The zero width space and the byte order mark are not in it.
-/

namespace Highlight.Unicode

/-- The code points of `White_Space`. -/
def whiteSpaceRanges : Ranges :=
  [(0x0009, 0x000D), (0x0020, 0x0020), (0x0085, 0x0085), (0x00A0, 0x00A0), (0x1680, 0x1680),
   (0x2000, 0x200A), (0x2028, 0x2029), (0x202F, 0x202F), (0x205F, 0x205F), (0x3000, 0x3000)]

/-- Whether a character is white space. -/
def isWhiteSpace (c : Char) : Bool :=
  whiteSpaceRanges.contains c.toNat

end Highlight.Unicode
