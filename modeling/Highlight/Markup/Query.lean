import Highlight.Markup.Element

/-!
# URL queries

The query of a URL, already escaped, with spans around its parts: the question mark, and for every
pair its key, the equals sign and the value. Pairs are separated by the entity of the ampersand,
since no bare ampersand is left in escaped text.
-/

namespace Highlight.Markup

/-- A part of a query. -/
inductive QueryPart where
  | mark
  | key
  | equals
  | value
  | separator
  deriving DecidableEq, Repr

/-- The name that ends the class of a part. -/
def QueryPart.name : QueryPart → Text
  | mark => "url-query-mark"
  | key => "url-query-key"
  | equals => "url-query-eq"
  | value => "url-query-value"
  | separator => "url-query-amp"

namespace Query

/-- The separator of pairs. -/
def separator : Text := "&amp;"

/-- The texts between separators, read from the left; never empty. -/
def pairs : Text → List Text
  | '&' :: 'a' :: 'm' :: 'p' :: ';' :: rest => [] :: pairs rest
  | c :: rest =>
    match pairs rest with
    | [] => [[c]]
    | pair :: more => (c :: pair) :: more
  | [] => [[]]

/-- A part in its span. -/
def part (classPrefix : Text) (kind : QueryPart) (content : Text) : Text :=
  span classPrefix kind.name content

/-- The spans of a pair. A pair without a key is left as it is. -/
def pair (classPrefix text : Text) : Text :=
  match text.splitOnce? '=' with
  | some ([], _) => text
  | some (key, value) =>
    part classPrefix .key key ++ part classPrefix .equals "=" ++
      (if value.isEmpty then [] else part classPrefix .value value)
  | none => if text.isEmpty then [] else part classPrefix .key text

/-- The spans of pairs, with separators between them. -/
def spans (classPrefix text : Text) : Text :=
  Text.join (part classPrefix .separator separator) ((pairs text).map (pair classPrefix))

end Query

/-- The spans of an escaped query. -/
def query (classPrefix : Text) : Text → Text
  | '?' :: rest => Query.part classPrefix .mark "?" ++ Query.spans classPrefix rest
  | text => Query.spans classPrefix text

end Highlight.Markup
