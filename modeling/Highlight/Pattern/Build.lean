import Highlight.Pattern.Basic

/-!
# Building patterns

Short forms for the patterns of grammars: single characters, literal text, the usual repetitions
and counted ones.
-/

namespace Highlight.Pattern

/-- One given character. -/
def char (c : Char) : Pattern := set (.char c)

/-- One character of a string. -/
def oneOf (chars : String) : Pattern := set (.oneOf chars)

/-- One character that is not in a string. -/
def noneOf (chars : String) : Pattern := set (.noneOf chars)

/-- Any character. -/
def any : Pattern := set .all

/-- Any character but a line feed. -/
def dot : Pattern := set .notNewline

/-- A blank. -/
def blank : Pattern := set .blank

/-- A character of a word. -/
def wordChar : Pattern := set .word

/-- A decimal digit of any script. -/
def digit : Pattern := set .decimal

/-- The characters of a text, each as a pattern. -/
def chars (literal : String) : List Pattern := literal.toList.map char

/-- A given text. -/
def text (literal : String) : Pattern := seqs (chars literal)

/-- The characters of a text without regard to case, each as a pattern. -/
def charsNoCase (literal : String) : List Pattern :=
  literal.toList.map fun c => set (.fold (.char c))

/-- A given text without regard to case. -/
def textNoCase (literal : String) : Pattern := seqs (charsNoCase literal)

/-- As many rounds as possible, possibly none. -/
def zeroOrMore (p : Pattern) : Pattern := star .greedy p

/-- As many rounds as possible, at least one. -/
def oneOrMore (p : Pattern) : Pattern := plus .greedy p

/-- As few rounds as possible. -/
def fewest (p : Pattern) : Pattern := star .lazy p

/-- A round if possible. -/
def zeroOrOne (p : Pattern) : Pattern := opt .greedy p

/-- As many rounds as possible up to a bound. -/
def upTo (p : Pattern) : Nat → Pattern
  | 0 => empty
  | 1 => zeroOrOne p
  | bound + 2 => zeroOrOne (seq p (upTo p (bound + 1)))

/-- As many rounds as possible between two bounds. -/
def between (least most : Nat) (p : Pattern) : Pattern :=
  seqs (List.replicate least p ++ [p.upTo (most - least)])

/-- A position where a word starts or ends. -/
def wordEdge : Pattern := check (.word .boundary .word)

/-- A position where a line starts. -/
def lineStart : Pattern := check (.lineStart false)

/-- A position where a line ends. -/
def lineEnd : Pattern := check (.lineEnd false)

end Highlight.Pattern
