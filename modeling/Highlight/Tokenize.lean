import Highlight.Grammar
import Highlight.Token

/-!
# Tokenizing

The rules of a grammar are applied in order to the untouched source. Each rule searches only the
gaps between the spans claimed before it, so a claimed span is never matched again, divided or
given another category. Tokens are numbered in the order in which they are found.

`tokenize?` reports a window or a slice that does not lie on character boundaries instead of
assuming there is none; `tokenize` is the total form.
-/

namespace Highlight

open Pattern (Span)

namespace Tokenize

/-- The order of claimed spans. -/
def spanIsBefore (a b : Span) : Bool :=
  a.start < b.start || (a.start == b.start && a.stop ≤ b.stop)

/-- The windows between claimed spans, which are given by position, up to `size`. -/
def gaps (size : Nat) : Nat → List Span → List Span
  | start, [] => [⟨start, size⟩]
  | start, span :: rest => ⟨start, span.start⟩ :: gaps size span.stop rest

/-- What has been found so far. -/
structure Progress where
  /-- The tokens in the order of discovery. -/
  tokens : List Token
  /-- The spans of the tokens by position. -/
  claimed : List Span

/-- Nothing found yet. -/
def Progress.start : Progress := ⟨[], []⟩

/-- The token of a find, the text of which is cut out of the source. -/
def tokenOf? (code : Text) (kind : TokenType) (find : Find) (index : Nat) :
    Except BadWindow Token :=
  match code.slice? find.start find.stop with
  | some text => .ok { text, start := find.start, kind, index }
  | none => .error (.badSlice find.start find.stop)

/-- The tokens of finds in order, numbered from `index` on. -/
def tokensOf? (code : Text) (kind : TokenType) : Nat → List Find → Except BadWindow (List Token)
  | _, [] => .ok []
  | index, find :: rest => do
    let token ← tokenOf? code kind find index
    let tokens ← tokensOf? code kind (index + 1) rest
    pure (token :: tokens)

/-- The finds of a rule in all gaps. -/
def findInGaps (rule : Rule) (code : Text) : List Span → Except BadWindow (List Find)
  | [] => .ok []
  | gap :: rest => do
    let here ← rule.findAll code gap.start gap.stop
    let there ← findInGaps rule code rest
    pure (here ++ there)

/-- Apply one rule to what the rules before it left unclaimed. -/
def applyRule (code : Text) (size : Nat) (progress : Progress) (rule : Rule) :
    Except BadWindow Progress := do
  let finds ← findInGaps rule code (gaps size 0 progress.claimed)
  let tokens ← tokensOf? code rule.kind progress.tokens.length finds
  let spans := finds.map fun find => (⟨find.start, find.stop⟩ : Span)
  pure ⟨progress.tokens ++ tokens,
    spans.foldl (fun claimed span => insertBy spanIsBefore span claimed) progress.claimed⟩

/-- Apply rules in order. -/
def applyRules (code : Text) (size : Nat) : Progress → List Rule → Except BadWindow Progress
  | progress, [] => .ok progress
  | progress, rule :: rest => do
    let next ← applyRule code size progress rule
    applyRules code size next rest

end Tokenize

namespace Grammar

/-- The tokens of a source, or the window that could not be searched. Empty source has no tokens,
whatever the rules are. -/
def tokenize? (grammar : Grammar) (code : Text) : Except BadWindow Tokenized :=
  if code.isEmpty then .ok (.ofTokens code [])
  else do
    let progress ← Tokenize.applyRules code code.byteSize .start grammar.rules
    pure (.ofTokens code progress.tokens)

/-- The tokens of a source. -/
def tokenize (grammar : Grammar) (code : Text) : Tokenized :=
  match grammar.tokenize? code with
  | .ok tokenized => tokenized
  | .error _ => ⟨code, []⟩

end Grammar

end Highlight
