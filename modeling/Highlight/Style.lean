/-!
# Terminal styles

What a terminal paints a token with: one of the sixteen palette colors or the terminal's own, and
three attributes.
-/

namespace Highlight

/-- A foreground color. -/
inductive Color where
  | terminal
  | black
  | red
  | green
  | yellow
  | blue
  | magenta
  | cyan
  | white
  | brightBlack
  | brightRed
  | brightGreen
  | brightYellow
  | brightBlue
  | brightMagenta
  | brightCyan
  | brightWhite
  deriving DecidableEq, Repr

/-- The number of a color in the palette; the terminal's own color has none. -/
def Color.paletteIndex? : Color → Option Nat
  | terminal => none
  | black => some 0
  | red => some 1
  | green => some 2
  | yellow => some 3
  | blue => some 4
  | magenta => some 5
  | cyan => some 6
  | white => some 7
  | brightBlack => some 8
  | brightRed => some 9
  | brightGreen => some 10
  | brightYellow => some 11
  | brightBlue => some 12
  | brightMagenta => some 13
  | brightCyan => some 14
  | brightWhite => some 15

/-- A text style. -/
structure Style where
  foreground : Color := .terminal
  bold : Bool := false
  italic : Bool := false
  underline : Bool := false
  deriving DecidableEq, Repr

namespace Style

/-- A color alone. -/
def colored (foreground : Color) : Style := { foreground }

/-- The same style in bold. -/
def withBold (style : Style) : Style := { style with bold := true }

/-- The same style in italics. -/
def withItalic (style : Style) : Style := { style with italic := true }

/-- The same style underlined. -/
def withUnderline (style : Style) : Style := { style with underline := true }

/-- Whether the style changes nothing. -/
def isPlain (style : Style) : Bool := style = {}

end Style

end Highlight
