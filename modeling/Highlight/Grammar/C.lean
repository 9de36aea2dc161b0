import Highlight.Grammar.Lexeme

/-!
# C and C++

Directives claim their whole line first; strings are told from comments in one pass.
-/

namespace Highlight.Grammar

open Pattern Lexeme

/-- C, good enough for C++. -/
def c : Grammar where
  name := "c"
  label := "C"
  aliases := ["h", "cpp", "c++", "hpp", "cc", "cxx"]
  rules := [
    .whole "preprocessor" .preprocessor
      (seqs [lineStart, spacing, char '#', spacing, oneOrMore wordChar, zeroOrMore dot, lineEnd]),
    .part "string" .string (outsideComments (alt blockComment slashComment) lineString),
    .whole "block_comment" .comment blockComment,
    .whole "line_comment" .comment slashComment,
    .part "type_decl" .type (nameAfter ["struct", "union", "enum", "class"] identifier),
    .whole "keyword" .keyword (words [
      "auto", "break", "case", "const", "continue", "default", "do", "else", "enum", "extern",
      "for", "goto", "if", "inline", "register", "restrict", "return", "sizeof", "static",
      "struct", "switch", "typedef", "union", "volatile", "while",
      "catch", "class", "constexpr", "delete", "explicit", "friend", "namespace", "new",
      "noexcept", "operator", "private", "protected", "public", "template", "this", "throw",
      "try", "typename", "using", "virtual"]),
    .whole "type" .type (words [
      "bool", "char", "double", "float", "int", "long", "short", "signed", "unsigned", "void",
      "size_t", "ssize_t", "ptrdiff_t", "intptr_t", "uintptr_t", "int8_t", "int16_t", "int32_t",
      "int64_t", "uint8_t", "uint16_t", "uint32_t", "uint64_t", "FILE"]),
    .whole "literal" .literal (words ["NULL", "nullptr", "true", "false"]),
    .part "function" .function call,
    .whole "number" .number
      (seqs [wordEdge,
        alts [seqs [char '0', oneOf "xX", oneOrMore hexDigit],
          seqs [oneOrMore digit, zeroOrOne (seq (char '.') (zeroOrMore digit)),
            zeroOrOne exponent]],
        zeroOrMore (oneOf "uUlLfF"), wordEdge]),
    .whole "operator" .operator (oneOrMore (oneOf "+-*/%&|^!<>=~?:"))]

end Highlight.Grammar
