import Highlight.Grammar.C
import Highlight.Grammar.Css
import Highlight.Grammar.Ini
import Highlight.Grammar.Json
import Highlight.Grammar.Lua
import Highlight.Grammar.Php
import Highlight.Grammar.Python
import Highlight.Grammar.Script
import Highlight.Grammar.Shell
import Highlight.Grammar.Tagged
import Highlight.Grammar.Url

/-!
# Built-in grammars

The grammars that are there without being added, and the plain one that classifies nothing.
-/

namespace Highlight.Grammar

/-- The name of the grammar that classifies nothing. -/
def plainName : Text := "text"

/-- Plain text. The empty identifier is one of its names. -/
def plain : Grammar where
  name := plainName
  label := "Text"
  aliases := ["plain", "plaintext", "txt", "none", ""]

/-- The grammars of languages. -/
def builtin : List Grammar :=
  [c, css, html, ini, javascript, json, lua, php, python, shell, typescript, url, xml]

end Highlight.Grammar
