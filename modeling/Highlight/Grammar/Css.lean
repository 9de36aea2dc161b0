import Highlight.Grammar.Lexeme

/-!
# CSS

A selector is the text from the start of a line up to an opening brace; what has a colon after it
is a property.
-/

namespace Highlight.Grammar

open Pattern Lexeme

/-- A name of CSS, in which hyphens count as letters. -/
def cssName : Pattern :=
  seq (set (.unions [.range 'A' 'Z', .range 'a' 'z', .char '-']))
    (zeroOrMore (set (.union .word (.char '-'))))

/-- CSS. -/
def css : Grammar where
  name := "css"
  label := "CSS"
  aliases := ["scss", "less"]
  rules := [
    .part "string" .string (outsideComments blockComment lineString),
    .whole "comment" .comment blockComment,
    .whole "at_rule" .keyword (seq (char '@') (oneOrMore (set (.union .word (.char '-'))))),
    .part "selector" .selector
      (seqs [lineStart, spacing,
        group 1 (seq (set (.compl (.union .blank (.oneOf "\x7b\x7d;/@"))))
          (fewest (noneOf "\x7b\x7d;\n"))),
        zeroOrMore blank, char '\x7b']),
    .part "property" .property (seqs [group 1 cssName, zeroOrMore blank, char ':']),
    .whole "important" .keyword
      (seqs ([char '!', zeroOrMore blank] ++ chars "important" ++ [wordEdge])),
    .whole "color" .number (seqs [char '#', between 3 8 hexDigit, wordEdge]),
    .part "function" .function (seq (group 1 cssName) (char '(')),
    .whole "number" .number
      (seqs [zeroOrOne (char '-'),
        alt (seqs [wordEdge, oneOrMore digit, zeroOrOne fraction]) fraction,
        zeroOrOne (alt (char '%')
          (seq (oneOrMore (set (.union (.range 'a' 'z') (.range 'A' 'Z')))) wordEdge))])]

end Highlight.Grammar
