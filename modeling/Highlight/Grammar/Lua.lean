import Highlight.Grammar.Lexeme

/-!
# Lua

Long brackets come in two widths, as comments and as strings.
-/

namespace Highlight.Grammar

open Pattern Lexeme

/-- Text between two given brackets, on any number of lines. -/
def enclosed (opening closing : String) : Pattern :=
  seqs (chars opening ++ [fewest any] ++ chars closing)

/-- Lua. -/
def lua : Grammar where
  name := "lua"
  label := "Lua"
  rules := [
    .whole "block_comment" .comment (alt (enclosed "--[[" "]]") (enclosed "--[=[" "]=]")),
    .whole "long_string" .string (alt (enclosed "[[" "]]") (enclosed "[=[" "]=]")),
    .whole "string" .string lineString,
    .whole "line_comment" .comment (seqs [char '-', char '-', zeroOrMore dot]),
    .part "function_def" .function
      (seqs ([wordEdge] ++ chars "function" ++ [oneOrMore blank,
        group 1 (seq (set nameStart)
          (zeroOrMore (set (.unions [.word, .char '.', .char ':']))))])),
    .whole "keyword" .keyword (words [
      "and", "break", "do", "else", "elseif", "end", "for", "function", "goto", "if", "in",
      "local", "not", "or", "repeat", "return", "then", "until", "while"]),
    .whole "literal" .literal (words ["nil", "true", "false"]),
    .whole "builtin" .builtin (words [
      "assert", "error", "getmetatable", "ipairs", "next", "pairs", "pcall", "print", "rawget",
      "rawset", "require", "select", "setmetatable", "tonumber", "tostring", "type", "unpack",
      "xpcall", "coroutine", "io", "math", "os", "string", "table"]),
    .part "function" .function call,
    .whole "number" .number number,
    .whole "operator" .operator
      (alt (seqs [char '.', char '.', zeroOrOne (char '.')]) (oneOrMore (oneOf "+-*/%^#=<>~")))]

end Highlight.Grammar
