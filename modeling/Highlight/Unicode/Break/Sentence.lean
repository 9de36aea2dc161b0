import Highlight.Unicode.Break

/-!
# Sentences

The classes that decide where one sentence ends and the next begins.
-/

namespace Highlight.Unicode.Break

open Category Property

/-- Signs inside a sentence. -/
def sentenceContinue : Ranges :=
  [(0x002C, 0x002D), (0x003A, 0x003B), (0x037E, 0x037E), (0x055D, 0x055D), (0x060C, 0x060D),
   (0x07F8, 0x07F8), (0x1802, 0x1802), (0x1808, 0x1808), (0x2013, 0x2014), (0x3001, 0x3001),
   (0xFE10, 0xFE11), (0xFE13, 0xFE14), (0xFE31, 0xFE32), (0xFE50, 0xFE51), (0xFE54, 0xFE55),
   (0xFE58, 0xFE58), (0xFE63, 0xFE63), (0xFF0C, 0xFF0D), (0xFF1A, 0xFF1B), (0xFF64, 0xFF64)]

/-- Georgian letters, whose case does not mark the start of a sentence. -/
def georgianSmall : Ranges := [(0x10D0, 0x10FA), (0x10FD, 0x10FF)]

/-- Georgian letters for whole words in capitals. -/
def georgianCapital : Ranges := [(0x1C90, 0x1CBA), (0x1CBD, 0x1CBF)]

/-- Quotation marks that are not of the categories of opening and closing punctuation. -/
def plainQuotes : Ranges :=
  [(0x0022, 0x0022), (0x0027, 0x0027), (0x275B, 0x2760), (0x2E00, 0x2E01), (0x2E06, 0x2E08),
   (0x2E0B, 0x2E0B), (0x1F676, 0x1F678)]

/-- The classes. -/
def sentenceClasses : List NamedRanges :=
  ranked [] [
    ⟨["CR"], [(0x000D, 0x000D)]⟩,
    ⟨["LF"], [(0x000A, 0x000A)]⟩,
    ⟨["Extend", "EX"], Ranges.unions [graphemeExtend, spacingMark, [(0x200D, 0x200D)]]⟩,
    ⟨["Sep", "SE"], [(0x0085, 0x0085), (0x2028, 0x2029)]⟩,
    ⟨["Numeric", "NU"], numeric⟩,
    ⟨["Format", "FO"], format⟩,
    ⟨["Sp", "SP"], whiteSpaceRanges⟩,
    ⟨["Lower", "LO"], Ranges.diff lowercaseCharacters georgianSmall⟩,
    ⟨["Upper", "UP"],
      Ranges.diff (Ranges.union titlecaseLetter uppercaseCharacters) georgianCapital⟩,
    ⟨["OLetter", "LE"], Ranges.union alphabeticRanges [(0x05F3, 0x05F3)]⟩,
    ⟨["ATerm", "AT"], [(0x002E, 0x002E), (0x2024, 0x2024), (0xFE52, 0xFE52), (0xFF0E, 0xFF0E)]⟩,
    ⟨["SContinue", "SC"], sentenceContinue⟩,
    ⟨["STerm", "ST"], sentenceTerminal⟩,
    ⟨["Close", "CL"],
      Ranges.unions [openPunctuation, closePunctuation, initialPunctuation,
        finalPunctuation, plainQuotes]⟩]

end Highlight.Unicode.Break
