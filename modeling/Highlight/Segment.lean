import Highlight.Token

/-!
# Segments

Tokenized source as a sequence of tokens and of what lies between them. Every rendering is made of
it, so all of them agree on which tokens have a place.

A token has a place if it starts no earlier than the token placed before it ends, and if the source
holds its text there. A token without a place is left out, and its characters count as lying between
tokens: joined together, the segments are the source.
-/

namespace Highlight

/-- A token, or a stretch of source between tokens. -/
inductive Segment where
  | between (text : Text)
  | placed (token : Token)
  deriving DecidableEq, Repr

/-- The source of a segment. -/
def Segment.text : Segment → Text
  | between text => text
  | placed token => token.text

namespace Token

/-- What lies between a cursor and a token, and what follows the token, when `rest` is the source
from the cursor on. -/
def place? (token : Token) (cursor : Nat) (rest : Text) : Option (Text × Text) :=
  if cursor ≤ token.start then do
    let (between, here) ← rest.cutAt? (token.start - cursor)
    let after ← token.text.isPrefixOf? here
    pure (between, after)
  else none

end Token

namespace Tokenized

/-- The segments of the source from a cursor on. -/
def segmentsFrom : Nat → Text → List Token → List Segment
  | _, rest, [] => [.between rest]
  | cursor, rest, token :: tokens =>
    match token.place? cursor rest with
    | some (between, after) =>
      .between between :: .placed token :: segmentsFrom token.stop after tokens
    | none => segmentsFrom cursor rest tokens

/-- The segments of the source. -/
def segments (tokenized : Tokenized) : List Segment :=
  segmentsFrom 0 tokenized.source tokenized.tokens

/-- The same source with the tokens that have a text. -/
def withoutEmpty (tokenized : Tokenized) : Tokenized :=
  { tokenized with tokens := tokenized.tokens.filter fun token => !token.text.isEmpty }

end Tokenized

end Highlight
