import Highlight.Style
import Highlight.Text.Basic

/-!
# Token types

The closed set of categories that a rule can give to a span of source. A category has a name, which
becomes the end of a class name in markup, and a style for terminals. The seven URL categories are
used by the URL grammar alone.
-/

namespace Highlight

/-- A category of source text. -/
inductive TokenType where
  | comment
  | string
  | keyword
  | number
  | operator
  | preprocessor
  | variable
  | function
  | type
  | literal
  | tag
  | attr
  | selector
  | property
  | builtin
  | flag
  | urlProtocol
  | urlSlash
  | urlHost
  | urlPort
  | urlPath
  | urlQuery
  | urlHash
  deriving DecidableEq, Repr

namespace TokenType

/-- Every category, in order of declaration. -/
def all : List TokenType :=
  [comment, string, keyword, number, operator, preprocessor, «variable», function, type, literal,
   tag, attr, selector, property, builtin, flag, urlProtocol, urlSlash, urlHost, urlPort, urlPath,
   urlQuery, urlHash]

theorem mem_all (t : TokenType) : t ∈ all := by cases t <;> decide

/-- The name that ends a class name. -/
def name : TokenType → Text
  | comment => "comment"
  | string => "string"
  | keyword => "keyword"
  | number => "number"
  | operator => "operator"
  | preprocessor => "preprocessor"
  | «variable» => "variable"
  | function => "function"
  | type => "type"
  | literal => "literal"
  | tag => "tag"
  | attr => "attr"
  | selector => "selector"
  | property => "property"
  | builtin => "builtin"
  | flag => "flag"
  | urlProtocol => "url-protocol"
  | urlSlash => "url-slash"
  | urlHost => "url-host"
  | urlPort => "url-port"
  | urlPath => "url-path"
  | urlQuery => "url-query"
  | urlHash => "url-hash"

/-- The category with a name. -/
def ofName? (name : Text) : Option TokenType := all.find? fun t => t.name = name

theorem ofName?_name (t : TokenType) : ofName? t.name = some t := by cases t <;> decide

/-- Whether a category belongs to URLs. -/
def isUrl : TokenType → Bool
  | urlProtocol | urlSlash | urlHost | urlPort | urlPath | urlQuery | urlHash => true
  | _ => false

/-- How a terminal paints a category. -/
def style : TokenType → Style
  | comment => (Style.colored .brightBlack).withItalic
  | string => .colored .green
  | keyword => (Style.colored .magenta).withBold
  | number => .colored .yellow
  | operator => .colored .brightRed
  | preprocessor => .colored .brightMagenta
  | «variable» => .colored .brightBlue
  | function => .colored .blue
  | type => .colored .brightYellow
  | literal => .colored .brightRed
  | tag => .colored .red
  | attr => .colored .yellow
  | selector => .colored .brightCyan
  | property => .colored .cyan
  | builtin => (Style.colored .brightYellow).withBold
  | flag => .colored .cyan
  | urlProtocol => .colored .magenta
  | urlSlash => .colored .brightBlack
  | urlHost => (Style.colored .brightWhite).withBold
  | urlPort => .colored .yellow
  | urlPath => .colored .blue
  | urlQuery => .colored .green
  | urlHash => (Style.colored .brightBlack).withUnderline

/-- No category is painted in the terminal's own style. -/
theorem isPlain_style (t : TokenType) : t.style.isPlain = false := by cases t <;> decide

end TokenType

end Highlight
