import Highlight.Segment
import Highlight.Style
import Highlight.Text.Decimal

/-!
# Terminals

Styles and tokenized source as text with control sequences. A style is the foreground color followed
by the attributes that are on; every painted token is followed by a reset, so no style reaches the
text after it.
-/

namespace Highlight.Terminal

/-- The control sequence that selects graphic renditions. -/
def select (parameters : Text) : Text := "\x1b[".toList ++ parameters ++ "m".toList

/-- The sequence that chooses a foreground color: an entry of the palette, or the terminal's own. -/
def foreground (color : Color) : Text :=
  match color.paletteIndex? with
  | some index => select ("38;5;".toList ++ Text.ofNumeral index)
  | none => select "39"

/-- The sequences that turn a style on. -/
def enter (style : Style) : Text :=
  foreground style.foreground ++
    (if style.bold then select "1" else []) ++
    (if style.italic then select "3" else []) ++
    (if style.underline then select "4" else [])

/-- The sequence that turns every style off. -/
def reset : Text := select "0"

/-- A text in a style. The plain style needs no sequences. -/
def paint (style : Style) (text : Text) : Text :=
  if style.isPlain then text else enter style ++ text ++ reset

/-- A segment in the style of its category. -/
def segment : Segment → Text
  | .between text => text
  | .placed token => paint token.kind.style token.text

/-- Tokenized source with every token in the style of its category. -/
def preview (tokenized : Tokenized) : Text := tokenized.segments.flatMap segment

end Highlight.Terminal
