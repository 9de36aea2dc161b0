import Highlight.Unicode.Break

/-!
# User-perceived characters

The classes that decide where one user-perceived character ends and the next begins.
-/

namespace Highlight.Unicode.Break

open Category Property

/-- Consonants that are written before the cluster they belong to. -/
def prefixedConsonants : Ranges :=
  [(0x0D4E, 0x0D4E), (0x111C2, 0x111C3), (0x113D1, 0x113D1), (0x1193F, 0x1193F),
   (0x11941, 0x11941), (0x11A3A, 0x11A3A), (0x11A84, 0x11A89), (0x11D46, 0x11D46),
   (0x11F02, 0x11F02)]

/-- Jamo that start a syllable. -/
def leadingJamo : Ranges := [(0x1100, 0x115F), (0xA960, 0xA97C)]

/-- Jamo in the middle of a syllable, and vowels that behave like them. -/
def vowelJamo : Ranges :=
  [(0x1160, 0x11A7), (0xD7B0, 0xD7C6), (0x16D63, 0x16D63), (0x16D67, 0x16D6A)]

/-- Jamo that end a syllable. -/
def trailingJamo : Ranges := [(0x11A8, 0x11FF), (0xD7CB, 0xD7FB)]

/-- The first of each row of syllables, which has no trailing consonant. -/
def openSyllables : Ranges := Ranges.ofRun (0xAC00, 0xD788, 28)

/-- Syllables of a leading consonant and a vowel, with a trailing consonant or without. -/
def syllables : Ranges := [(0xAC00, 0xD7A3)]

/-- Spacing marks that start a user-perceived character. -/
def detachedMarks : Ranges :=
  [(0x102B, 0x102C), (0x1038, 0x1038), (0x1062, 0x1064), (0x1067, 0x106D), (0x1083, 0x1083),
   (0x1087, 0x108C), (0x108F, 0x108F), (0x109A, 0x109C), (0x1A61, 0x1A61), (0x1A63, 0x1A64),
   (0xAA7B, 0xAA7B), (0xAA7D, 0xAA7D), (0x11720, 0x11721)]

/-- The classes. -/
def graphemeClasses : List NamedRanges :=
  ranked [] [
    ⟨["CR"], [(0x000D, 0x000D)]⟩,
    ⟨["LF"], [(0x000A, 0x000A)]⟩,
    ⟨["Extend", "EX"], Ranges.union graphemeExtend emojiModifier⟩,
    ⟨["ZWJ"], [(0x200D, 0x200D)]⟩,
    ⟨["Prepend", "PP"], Ranges.union prependedConcatenationMark prefixedConsonants⟩,
    ⟨["Control", "CN"],
      Ranges.unions [lineSeparator, paragraphSeparator, control, format,
        Ranges.inter unassigned defaultIgnorable]⟩,
    ⟨["Regional_Indicator", "RI"], regionalIndicator⟩,
    ⟨["L"], leadingJamo⟩,
    ⟨["V"], vowelJamo⟩,
    ⟨["T"], trailingJamo⟩,
    ⟨["LV"], openSyllables⟩,
    ⟨["LVT"], syllables⟩,
    ⟨["SpacingMark", "SM"],
      Ranges.diff (Ranges.union spacingMark [(0x0E33, 0x0E33), (0x0EB3, 0x0EB3)]) detachedMarks⟩]

end Highlight.Unicode.Break
