import Highlight.Unicode.Break

/-!
# Words

The classes that decide where one word ends and the next begins.
-/

namespace Highlight.Unicode.Break

open Category Property

/-- Signs that join digits. -/
def midNumber : Ranges :=
  [(0x002C, 0x002C), (0x003B, 0x003B), (0x037E, 0x037E), (0x0589, 0x0589), (0x060C, 0x060D),
   (0x066C, 0x066C), (0x07F8, 0x07F8), (0x2044, 0x2044), (0xFE10, 0xFE10), (0xFE14, 0xFE14),
   (0xFE50, 0xFE50), (0xFE54, 0xFE54), (0xFF0C, 0xFF0C), (0xFF1B, 0xFF1B)]

/-- Signs that count as letters without being alphabetic. -/
def wordSigns : Ranges :=
  [(0x02C2, 0x02C5), (0x02D2, 0x02D7), (0x02DE, 0x02DF), (0x02E5, 0x02EB), (0x02ED, 0x02ED),
   (0x02EF, 0x02FF), (0x055A, 0x055C), (0x055E, 0x055E), (0x058A, 0x058A), (0x05F3, 0x05F3),
   (0x070F, 0x070F), (0xA708, 0xA716), (0xA720, 0xA721), (0xA789, 0xA78A), (0xAB5B, 0xAB5B)]

/-- Letters of scripts that are written without spaces between words. -/
def unspacedLetters : Ranges :=
  [(0x0E01, 0x0E3A), (0x0E40, 0x0E46), (0x0E4D, 0x0E4D), (0x0E81, 0x0E82), (0x0E84, 0x0E84),
   (0x0E86, 0x0E8A), (0x0E8C, 0x0EA3), (0x0EA5, 0x0EA5), (0x0EA7, 0x0EB9), (0x0EBB, 0x0EBD),
   (0x0EC0, 0x0EC4), (0x0EC6, 0x0EC6), (0x0ECD, 0x0ECD), (0x0EDC, 0x0EDF), (0x1000, 0x1036),
   (0x1038, 0x1038), (0x103B, 0x103F), (0x1050, 0x108F), (0x109A, 0x109D), (0x1780, 0x17B3),
   (0x17B6, 0x17C8), (0x17D7, 0x17D7), (0x17DC, 0x17DC), (0x1950, 0x196D), (0x1970, 0x1974),
   (0x1980, 0x19AB), (0x19B0, 0x19C9), (0x1A20, 0x1A5E), (0x1A61, 0x1A74), (0x1AA7, 0x1AA7),
   (0xA9E0, 0xA9EF), (0xA9FA, 0xA9FE), (0xAA60, 0xAA76), (0xAA7A, 0xAABE), (0xAAC0, 0xAAC0),
   (0xAAC2, 0xAAC2), (0xAADB, 0xAADD), (0x11700, 0x1171A), (0x1171D, 0x1172A), (0x11740, 0x11746)]

/-- The classes. -/
def wordClasses : List NamedRanges :=
  ranked [] [
    ⟨["CR"], [(0x000D, 0x000D)]⟩,
    ⟨["LF"], [(0x000A, 0x000A)]⟩,
    ⟨["Newline", "NL"], [(0x000B, 0x000C), (0x0085, 0x0085), (0x2028, 0x2029)]⟩,
    ⟨["ZWJ"], [(0x200D, 0x200D)]⟩,
    ⟨["Extend"], Ranges.unions [graphemeExtend, spacingMark, emojiModifier]⟩,
    ⟨["Regional_Indicator", "RI"], regionalIndicator⟩,
    ⟨["Format", "FO"],
      Ranges.diff format (Ranges.union [(0x200B, 0x200B)] prependedConcatenationMark)⟩,
    ⟨["Katakana", "KA"],
      Ranges.union Script.katakana [(0x3031, 0x3035), (0x309B, 0x309C),
        (0x30A0, 0x30A0), (0x30FC, 0x30FC), (0xFF70, 0xFF70)]⟩,
    ⟨["Hebrew_Letter", "HL"], Ranges.inter Script.hebrew otherLetter⟩,
    ⟨["Single_Quote", "SQ"], [(0x0027, 0x0027)]⟩,
    ⟨["Double_Quote", "DQ"], [(0x0022, 0x0022)]⟩,
    ⟨["MidNumLet", "MB"],
      [(0x002E, 0x002E), (0x2018, 0x2019), (0x2024, 0x2024),
        (0xFE52, 0xFE52), (0xFF07, 0xFF07), (0xFF0E, 0xFF0E)]⟩,
    ⟨["MidLetter", "ML"],
      [(0x003A, 0x003A), (0x00B7, 0x00B7), (0x0387, 0x0387), (0x055F, 0x055F), (0x05F4, 0x05F4),
        (0x2027, 0x2027), (0xFE13, 0xFE13), (0xFE55, 0xFE55), (0xFF1A, 0xFF1A)]⟩,
    ⟨["MidNum", "MN"], midNumber⟩,
    ⟨["Numeric", "NU"], numeric⟩,
    ⟨["ExtendNumLet", "EX"], Ranges.union connectorPunctuation [(0x202F, 0x202F)]⟩,
    ⟨["WSegSpace"], Ranges.diff spaceSeparator [(0x00A0, 0x00A0), (0x2007, 0x2007)]⟩,
    ⟨["ALetter", "LE"],
      Ranges.diff (Ranges.union alphabeticRanges wordSigns)
        (Ranges.unions [ideographic, unspacedLetters, Script.hiragana])⟩]

end Highlight.Unicode.Break
