import Highlight.Rule

/-!
# Grammars

The rules of one language under its names. The order of the rules is their priority: what an
earlier rule claims is out of reach of every later one.
-/

namespace Highlight

/-- The rules of a language, and what the language is called. -/
structure Grammar where
  name : Text
  label : Text
  aliases : List Text := []
  rules : List Rule := []
  deriving DecidableEq

namespace Grammar

/-- Whether the grammar classifies nothing. -/
def isPlain (grammar : Grammar) : Bool := grammar.rules.isEmpty

/-- The grammar with one more rule, of least priority. A rule that cannot be made is left out, so
the language loses one category and not all. -/
def addRule (grammar : Grammar) (rule : Except RuleError Rule) : Grammar :=
  match rule with
  | .ok rule => { grammar with rules := grammar.rules ++ [rule] }
  | .error _ => grammar

end Grammar

end Highlight
