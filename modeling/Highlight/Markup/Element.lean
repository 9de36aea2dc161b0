import Highlight.Markup.Escape

/-!
# Elements

Elements with a class and with quoted attributes. A class is the class prefix of a page followed by
the name of what the element holds. Content is markup already, attribute values are text.
-/

namespace Highlight.Markup

/-- An attribute with a value, behind a blank. -/
def quoted (name value : Text) : Text :=
  ' ' :: name ++ "=\"".toList ++ escapeAttribute value ++ "\"".toList

/-- The opening tag of an element with a class. -/
def opening (tag classPrefix name attributes : Text) : Text :=
  '<' :: tag ++ " class=\"".toList ++ classPrefix ++ name ++ "\"".toList ++ attributes ++ ['>']

/-- The closing tag of an element. -/
def closing (tag : Text) : Text := "</".toList ++ tag ++ ['>']

/-- An element with a class. -/
def element (tag classPrefix name attributes content : Text) : Text :=
  opening tag classPrefix name attributes ++ content ++ closing tag

/-- Content in a span. -/
def span (classPrefix name content : Text) : Text := element "span" classPrefix name [] content

end Highlight.Markup
