import Highlight.Order
import Highlight.TokenType

/-!
# Tokens

A token is a classified piece of source. `Tokenized` pairs a source with tokens in the order of
their positions; where tokens come from is not its concern, so they may overlap or not fit the
source at all.
-/

namespace Highlight

/-- A classified piece of source. -/
structure Token where
  text : Text
  start : Nat
  kind : TokenType
  /-- The order of discovery. -/
  index : Nat
  deriving DecidableEq, Repr

namespace Token

/-- The offset just past the token. -/
def stop (token : Token) : Nat := token.start + token.text.byteSize

/-- Whether a token comes no later than another: by position, then by discovery. -/
def isBefore (a b : Token) : Bool :=
  a.start < b.start || (a.start == b.start && a.index ≤ b.index)

end Token

/-- A source and its tokens by position. -/
structure Tokenized where
  source : Text
  tokens : List Token
  deriving DecidableEq, Repr

/-- A source with tokens in any order. -/
def Tokenized.ofTokens (source : Text) (tokens : List Token) : Tokenized :=
  ⟨source, sortBy Token.isBefore tokens⟩

end Highlight
