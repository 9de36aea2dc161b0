import Highlight.Grammar
import Highlight.Pattern.Build

/-!
# Lexemes

Patterns that several grammars share: comments, quoted strings, calls, numbers and lists of words.

`outsideComments` is how a grammar keeps strings and comments apart. Its pattern matches comments
too, so that a search steps over them, but only the string is a group and becomes a token.
-/

namespace Highlight

open Pattern

/-- A rule for a whole match. -/
def Rule.whole (name : String) (kind : TokenType) (pattern : Pattern) : Rule :=
  ⟨name, pattern, kind, 0⟩

/-- A rule for the first group of a match. -/
def Rule.part (name : String) (kind : TokenType) (pattern : Pattern) : Rule :=
  ⟨name, pattern, kind, 1⟩

namespace Lexeme

/-- A comment between `/*` and the next `*/`. -/
def blockComment : Pattern :=
  seqs [char '/', char '*', fewest any, char '*', char '/']

/-- A comment from `//` to the end of the line. -/
def slashComment : Pattern := seqs [char '/', char '/', zeroOrMore dot]

/-- A comment from `#` to the end of the line. -/
def hashComment : Pattern := seq (char '#') (zeroOrMore dot)

/-- A string between two quotes, in which a backslash takes the character after it along; `plain`
is what may stand without one. -/
def quoted (quote : Char) (escaped plain : Pattern) : Pattern :=
  seqs [char quote, zeroOrMore (alt (seq (char '\\') escaped) plain), char quote]

/-- A string in single or double quotes on one line. -/
def lineString : Pattern :=
  alt (quoted '\'' dot (noneOf "'\\\n")) (quoted '"' dot (noneOf "\"\\\n"))

/-- A string in single or double quotes on any number of lines. -/
def openString : Pattern :=
  alt (quoted '\'' any (noneOf "'\\")) (quoted '"' any (noneOf "\"\\"))

/-- The characters that a name may start with. -/
def nameStart : CharSet := .unions [.range 'A' 'Z', .range 'a' 'z', .char '_']

/-- A name: a letter or underscore, and characters of words. -/
def identifier : Pattern := seq (set nameStart) (zeroOrMore wordChar)

/-- A name in front of an opening parenthesis; the name is the group. -/
def call : Pattern := seqs [wordEdge, group 1 identifier, zeroOrMore blank, char '(']

/-- A name after one of some words; the name is the group. -/
def nameAfter (introducers : List String) (name : Pattern) : Pattern :=
  seqs [wordEdge, alts (introducers.map text), oneOrMore blank, group 1 name]

/-- Spaces and tabs, if any. -/
def spacing : Pattern := zeroOrMore (oneOf " \t")

/-- A hexadecimal digit. -/
def hexDigit : Pattern := set (.unions [.range '0' '9', .range 'a' 'f', .range 'A' 'F'])

/-- Hexadecimal digits, with underscores between them. -/
def hexDigitOrUnderscore : CharSet :=
  .unions [.range '0' '9', .range 'a' 'f', .range 'A' 'F', .char '_']

/-- The decimal places of a number. -/
def fraction : Pattern := seq (char '.') (oneOrMore digit)

/-- The exponent of a number. -/
def exponent : Pattern := seqs [oneOf "eE", zeroOrOne (oneOf "+-"), oneOrMore digit]

/-- Hexadecimal, binary and decimal numbers. -/
def number : Pattern :=
  seqs [wordEdge,
    alts [seqs [char '0', oneOf "xX", oneOrMore hexDigit],
      seqs [char '0', oneOf "bB", oneOrMore (oneOf "01")],
      seqs [oneOrMore digit, zeroOrOne fraction, zeroOrOne exponent]],
    wordEdge]

/-- A string that does not start inside a comment; the string is the group. -/
def outsideComments (comment string : Pattern) : Pattern := alt comment (group 1 string)

/-- One of some words, whole. -/
def words (list : List String) : Pattern :=
  seqs [wordEdge, alts (list.map text), wordEdge]

/-- One of some words, whole, without regard to case. -/
def wordsNoCase (list : List String) : Pattern :=
  seqs [wordEdge, alts (list.map textNoCase), wordEdge]

end Lexeme

end Highlight
