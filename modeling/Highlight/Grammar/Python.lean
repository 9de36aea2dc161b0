import Highlight.Grammar.Lexeme

/-!
# Python

Triple-quoted strings are claimed first, because the quotes they may contain would end any other
string.
-/

namespace Highlight.Grammar

open Pattern Lexeme

/-- The letters that may stand in front of a string. -/
def stringPrelude : Pattern := zeroOrOne (seq wordEdge (between 1 2 (oneOf "rRbBuUfF")))

/-- A string between three quotes, on any number of lines. -/
def tripleQuoted (quote : Char) : Pattern :=
  seqs [char quote, char quote, char quote, fewest any, char quote, char quote, char quote]

/-- Python. -/
def python : Grammar where
  name := "python"
  label := "Python"
  aliases := ["py"]
  rules := [
    .whole "triple_string" .string (seq stringPrelude (alt (tripleQuoted '"') (tripleQuoted '\''))),
    .part "string" .string (outsideComments hashComment (seq stringPrelude lineString)),
    .whole "comment" .comment hashComment,
    .part "decorator" .preprocessor
      (seqs [lineStart, spacing,
        group 1 (seq (char '@') (oneOrMore (set (.union .word (.char '.')))))]),
    .part "class_name" .type
      (seqs ([wordEdge] ++ chars "class" ++ [oneOrMore blank, group 1 identifier])),
    .part "def_name" .function
      (seqs ([wordEdge] ++ chars "def" ++ [oneOrMore blank, group 1 identifier])),
    .whole "keyword" .keyword (words [
      "and", "as", "assert", "async", "await", "break", "class", "continue", "def", "del",
      "elif", "else", "except", "finally", "for", "from", "global", "if", "import", "in", "is",
      "lambda", "nonlocal", "not", "or", "pass", "raise", "return", "try", "while", "with",
      "yield", "match", "case"]),
    .whole "literal" .literal (words ["True", "False", "None"]),
    .whole "self" .variable (words ["self", "cls"]),
    .whole "builtin" .builtin (words [
      "abs", "all", "any", "bool", "bytes", "dict", "dir", "enumerate", "filter", "float",
      "format", "getattr", "hasattr", "hash", "id", "input", "int", "isinstance", "iter", "len",
      "list", "map", "max", "min", "next", "object", "open", "print", "range", "repr",
      "reversed", "round", "set", "setattr", "sorted", "str", "sum", "super", "tuple", "type",
      "zip"]),
    .part "function" .function call,
    .whole "number" .number
      (seqs [wordEdge,
        alts [seqs [char '0', oneOf "xX", oneOrMore (set hexDigitOrUnderscore)],
          seqs [char '0', oneOf "bB", oneOrMore (oneOf "01_")],
          seqs [char '0', oneOf "oO", oneOrMore (set (.union (.range '0' '7') (.char '_')))],
          seqs [digit, zeroOrMore (set (.union .decimal (.char '_'))),
            zeroOrOne (seqs [char '.', digit, zeroOrMore (set (.union .decimal (.char '_')))]),
            zeroOrOne exponent, zeroOrOne (char 'j')]],
        wordEdge]),
    .whole "operator" .operator (oneOrMore (oneOf "+-*/%&|^!<>=@~"))]

end Highlight.Grammar
