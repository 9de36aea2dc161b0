import Highlight.Grammar.Lexeme

/-!
# JSON

Object keys are the strings with a colon after them; they are claimed before other strings.
-/

namespace Highlight.Grammar

open Pattern Lexeme

/-- A string of JSON. -/
def jsonString : Pattern := quoted '"' dot (noneOf "\"\\\n")

/-- JSON. -/
def json : Grammar where
  name := "json"
  label := "JSON"
  aliases := ["jsonc"]
  rules := [
    .part "key" .property (seqs [group 1 jsonString, zeroOrMore blank, char ':']),
    .whole "string" .string jsonString,
    .whole "literal" .literal (words ["true", "false", "null"]),
    .whole "number" .number
      (seqs [zeroOrOne (char '-'), wordEdge, oneOrMore digit, zeroOrOne fraction,
        zeroOrOne exponent, wordEdge]),
    .whole "punctuation" .operator (oneOf "\x7b\x7d[]:,")]

end Highlight.Grammar
