import Highlight.Grammar.Lexeme

/-!
# INI

Sections, keys and values on lines of their own; a good fit for other simple configuration files.
-/

namespace Highlight.Grammar

open Pattern Lexeme

/-- INI. -/
def ini : Grammar where
  name := "ini"
  label := "INI"
  aliases := ["conf", "cfg", "toml", "properties"]
  rules := [
    .whole "comment" .comment
      (seqs [lineStart, spacing, oneOf ";#", zeroOrMore dot, lineEnd]),
    .part "section" .selector
      (seqs [lineStart, spacing,
        group 1 (seqs [char '[', zeroOrOne (char '['), zeroOrMore (noneOf "]\n"),
          char ']', zeroOrOne (char ']')])]),
    .part "key" .property
      (seqs [lineStart, spacing,
        group 1 (oneOrMore (set (.unions [.word, .char '.', .char '-']))),
        spacing, oneOf "=:"]),
    .whole "string" .string lineString,
    .whole "literal" .literal
      (wordsNoCase ["true", "false", "yes", "no", "on", "off", "null", "none"]),
    .whole "number" .number
      (seqs [zeroOrOne (oneOf "+-"), wordEdge, digit,
        zeroOrMore (set (.union .decimal (.char '_'))), zeroOrOne fraction, wordEdge]),
    .whole "operator" .operator (oneOf "=:")]

end Highlight.Grammar
