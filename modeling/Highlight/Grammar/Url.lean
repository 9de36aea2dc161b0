import Highlight.Grammar.Lexeme

/-!
# URLs

Fragment and query are claimed first, so what they contain is never read as a path or a port.
-/

namespace Highlight.Grammar

open Pattern

/-- The characters of a scheme after its first letter. -/
def schemeChar : CharSet :=
  .unions [.range 'A' 'Z', .range 'a' 'z', .range '0' '9', .char '+', .char '.', .char '-']

/-- Everything but blanks and the characters of a string. -/
def noneOfNorBlank (chars : String) : Pattern :=
  set (.compl (.union (.oneOf chars) .blank))

/-- URLs. -/
def url : Grammar where
  name := "url"
  label := "URL"
  aliases := ["uri", "link"]
  rules := [
    .whole "hash" .urlHash (seq (char '#') (zeroOrMore (set (.compl .blank)))),
    .whole "query" .urlQuery (seq (char '?') (zeroOrMore (noneOfNorBlank "#"))),
    .part "protocol" .urlProtocol
      (seqs [wordEdge,
        group 1 (seqs [set (.union (.range 'A' 'Z') (.range 'a' 'z')), zeroOrMore (set schemeChar),
          char ':']),
        char '/', char '/']),
    .part "host" .urlHost (seqs [char '/', char '/', group 1 (oneOrMore (noneOfNorBlank "/?#:"))]),
    .whole "slash" .urlSlash (text "//"),
    .whole "port" .urlPort (seq (char ':') (oneOrMore digit)),
    .whole "path" .urlPath (seq (char '/') (zeroOrMore (noneOfNorBlank "?#")))]

end Highlight.Grammar
