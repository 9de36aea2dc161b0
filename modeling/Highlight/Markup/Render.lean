import Highlight.Markup.Query
import Highlight.Segment

/-!
# Rendering

Tokenized source as markup: what lies between tokens is escaped, and a token is escaped inside a
span of its category. Tokens without a text are no spans. The segments of a source are the whole
source, so each character is written exactly once.
-/

namespace Highlight.Markup

/-- The content of a token's span. A URL query has spans of its own inside. -/
def tokenContent (classPrefix : Text) (token : Token) : Text :=
  if token.kind = .urlQuery then query classPrefix (escape token.text) else escape token.text

/-- A segment as markup. -/
def segment (classPrefix : Text) : Segment → Text
  | .between text => escape text
  | .placed token => span classPrefix token.kind.name (tokenContent classPrefix token)

/-- Tokenized source as markup. -/
def render (classPrefix : Text) (tokenized : Tokenized) : Text :=
  tokenized.withoutEmpty.segments.flatMap (segment classPrefix)

end Highlight.Markup
