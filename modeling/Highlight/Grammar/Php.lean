import Highlight.Grammar.Lexeme

/-!
# PHP

Keywords, literals and the words that introduce names are recognized in either case.
-/

namespace Highlight.Grammar

open Pattern Lexeme

/-- A comment from `//` or `#` to the end of the line. -/
def phpLineComment : Pattern := seq (alt (text "//") (char '#')) (zeroOrMore dot)

/-- PHP. -/
def php : Grammar where
  name := "php"
  label := "PHP"
  rules := [
    .whole "php_tag" .preprocessor
      (alt (seqs [char '<', char '?', zeroOrOne (alt (text "php") (char '='))]) (text "?>")),
    .part "string" .string (outsideComments (alt blockComment phpLineComment) openString),
    .whole "block_comment" .comment blockComment,
    .whole "line_comment" .comment phpLineComment,
    .whole "variable" .variable (seqs [char '$', set nameStart, zeroOrMore wordChar]),
    .part "class_name" .type
      (seqs [wordEdge,
        alts (["class", "interface", "trait", "extends", "implements", "new"].map textNoCase),
        oneOrMore blank,
        group 1 (seq
          (set (.fold (.unions [.range 'A' 'Z', .range 'a' 'z', .char '_', .char '\\'])))
          (zeroOrMore (set (.fold (.union .word (.char '\\'))))))]),
    .part "function_def" .function
      (seqs ([wordEdge] ++ charsNoCase "function" ++ [oneOrMore blank,
        group 1 (seq (set (.fold nameStart)) (zeroOrMore wordChar))])),
    .whole "keyword" .keyword (wordsNoCase [
      "abstract", "and", "array", "as", "break", "case", "catch", "class", "clone", "const",
      "continue", "declare", "default", "do", "echo", "else", "elseif", "empty", "extends",
      "final", "finally", "fn", "for", "foreach", "function", "global", "if", "implements",
      "include", "include_once", "instanceof", "interface", "isset", "list", "match",
      "namespace", "new", "or", "print", "private", "protected", "public", "readonly",
      "require", "require_once", "return", "static", "switch", "throw", "trait", "try", "unset",
      "use", "var", "while", "xor", "yield"]),
    .whole "literal" .literal (wordsNoCase ["true", "false", "null"]),
    .part "function" .function call,
    .whole "number" .number number,
    .whole "operator" .operator
      (alts [text "->", text "=>", text "::", text "??", oneOrMore (oneOf "+-*/%=!<>&|.^~?:")])]

end Highlight.Grammar
