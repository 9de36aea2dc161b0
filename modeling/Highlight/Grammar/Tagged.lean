import Highlight.Grammar.Lexeme

/-!
# HTML and XML

Two languages with the same rules under different names.
-/

namespace Highlight.Grammar

open Pattern Lexeme

/-- What may follow the first letter of a tag or attribute name. -/
def tagChar : CharSet := .unions [.word, .char ':', .char '.', .char '-']

/-- The rules of tagged languages. -/
def taggedRules : List Rule := [
  .whole "comment" .comment (seqs (chars "<!--" ++ [fewest any] ++ chars "-->")),
  .whole "cdata" .string (seqs (chars "<![CDATA[" ++ [fewest any] ++ chars "]]>")),
  .whole "doctype" .preprocessor
    (alt
      (seqs ([char '<', char '!'] ++ charsNoCase "doctype" ++
        [zeroOrMore (noneOf ">"), char '>']))
      (seqs [char '<', char '?', fewest any, char '?', char '>'])),
  .part "attr_value" .string
    (seqs [char '=', zeroOrMore blank,
      group 1 (alt (seqs [char '"', zeroOrMore (noneOf "\""), char '"'])
        (seqs [char '\'', zeroOrMore (noneOf "'"), char '\'']))]),
  .whole "tag_open" .tag
    (seqs [char '<', zeroOrOne (char '/'), set (.union (.range 'A' 'Z') (.range 'a' 'z')),
      zeroOrMore (set tagChar)]),
  .whole "tag_close" .tag (seq (zeroOrOne (char '/')) (char '>')),
  .part "attr_name" .attr
    (seqs [blank,
      group 1 (seq
        (set (.unions [.range 'A' 'Z', .range 'a' 'z', .char '_', .char ':', .char '@']))
        (zeroOrMore (set tagChar))),
      zeroOrMore blank, char '=']),
  .whole "entity" .literal
    (seqs [char '&',
      alts [seq (char '#') (oneOrMore digit),
        seqs [char '#', oneOf "xX", oneOrMore hexDigit],
        seq (set (.union (.range 'A' 'Z') (.range 'a' 'z'))) (zeroOrMore wordChar)],
      char ';'])]

/-- HTML. -/
def html : Grammar where
  name := "html"
  label := "HTML"
  aliases := ["htm"]
  rules := taggedRules

/-- XML. -/
def xml : Grammar where
  name := "xml"
  label := "XML"
  aliases := ["svg", "xsd", "rss", "xhtml"]
  rules := taggedRules

end Highlight.Grammar
