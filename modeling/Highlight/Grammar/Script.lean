import Highlight.Grammar.Lexeme

/-!
# JavaScript and TypeScript

Two languages with one list of rules: the second has more keywords, and rules for primitive types
and capitalized names that the first lacks.
-/

namespace Highlight.Grammar

open Pattern Lexeme

/-- A name, in which the dollar sign counts as a letter. -/
def scriptName : Pattern :=
  seq (set (.unions [.range 'A' 'Z', .range 'a' 'z', .char '_', .char '$']))
    (zeroOrMore (set (.union .word (.char '$'))))

/-- A string between backticks, on any number of lines. -/
def templateString : Pattern := quoted '\x60' any (noneOf "\x60\\")

/-- The keywords of both languages. -/
def scriptKeywords : List String := [
  "async", "await", "break", "case", "catch", "class", "const", "continue", "debugger",
  "default", "delete", "do", "else", "export", "extends", "finally", "for", "from", "function",
  "get", "if", "import", "in", "instanceof", "let", "new", "of", "return", "set", "static",
  "super", "switch", "this", "throw", "try", "typeof", "var", "void", "while", "with", "yield"]

/-- The keywords that only the typed language has. -/
def typedKeywords : List String := [
  "abstract", "as", "declare", "enum", "implements", "infer", "interface", "is", "keyof",
  "namespace", "private", "protected", "public", "readonly", "satisfies", "type"]

/-- The names of the standard library. -/
def scriptBuiltins : List String := [
  "console", "window", "document", "globalThis", "Math", "JSON", "Promise", "Object", "Array",
  "String", "Number", "Boolean", "Symbol", "Map", "Set", "WeakMap", "Error", "RegExp", "Date",
  "process", "require", "module", "exports"]

/-- The words before a type name. -/
def typeIntroducers (typed : Bool) : List String :=
  if typed then ["class", "extends", "implements", "new", "interface", "type", "enum"]
  else ["class", "extends", "new"]

/-- The rules of both languages. -/
def scriptRules (typed : Bool) : List Rule :=
  [.part "string" .string
      (outsideComments (alt blockComment slashComment) (alt templateString lineString)),
    .whole "block_comment" .comment blockComment,
    .whole "line_comment" .comment slashComment,
    .part "type_decl" .type (nameAfter (typeIntroducers typed) scriptName),
    .part "function_def" .function
      (seqs ([wordEdge] ++ chars "function" ++ [zeroOrMore blank, zeroOrOne (char '*'),
        zeroOrMore blank, group 1 scriptName])),
    .whole "keyword" .keyword
      (words (if typed then scriptKeywords ++ typedKeywords else scriptKeywords))]
  ++ (if typed then
    [.whole "primitive_type" .type (words [
      "any", "bigint", "boolean", "never", "number", "object", "string", "symbol", "unknown"])]
  else [])
  ++ [.whole "literal" .literal
      (words ["true", "false", "null", "undefined", "NaN", "Infinity"]),
    .whole "builtin" .builtin (words scriptBuiltins)]
  ++ (if typed then
    [.whole "type_name" .type
      (seqs [wordEdge, set (.range 'A' 'Z'),
        zeroOrMore (set (.unions [.range 'A' 'Z', .range 'a' 'z', .range '0' '9', .char '_'])),
        wordEdge])]
  else [])
  ++ [.part "function" .function call,
    .whole "number" .number
      (seqs [wordEdge,
        alts [seqs [char '0', oneOf "xX", oneOrMore (set hexDigitOrUnderscore)],
          seqs [char '0', oneOf "bB", oneOrMore (oneOf "01_")],
          seqs [char '0', oneOf "oO", oneOrMore (set (.union (.range '0' '7') (.char '_')))],
          seqs [digit, zeroOrMore (set (.union .decimal (.char '_'))), zeroOrOne fraction,
            zeroOrOne exponent, zeroOrOne (char 'n')]],
        wordEdge]),
    .whole "operator" .operator (alt (text "=>") (oneOrMore (oneOf "+-*/%=!<>&|^~?:")))]

/-- JavaScript. -/
def javascript : Grammar where
  name := "javascript"
  label := "JavaScript"
  aliases := ["js", "jsx", "mjs", "cjs"]
  rules := scriptRules false

/-- TypeScript. -/
def typescript : Grammar where
  name := "typescript"
  label := "TypeScript"
  aliases := ["ts", "tsx"]
  rules := scriptRules true

end Highlight.Grammar
