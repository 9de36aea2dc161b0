import Highlight.Cache.Basic
import Highlight.Cache.Key
import Highlight.Markup.Block
import Highlight.Markup.Render
import Highlight.Registry
import Highlight.Tokenize

/-!
# Highlighters

Source and the name of its language in, markup out. A highlighter is a registry and a class prefix;
`render` is a function of these. `highlight` asks a cache first and tells it afterwards, and never
fails: whatever goes wrong with the cache, the markup is what `render` gives.
-/

namespace Highlight

/-- The version of the rules; renderings of other versions are not reused. -/
def engineVersion : Text := "1.3.11"

/-- The class prefix if nothing else is said. -/
def defaultPrefix : Text := "fmc-"

/-- The language if nothing else is said. -/
def defaultLanguage : Text := "javascript"

/-- What is needed to turn source into markup. -/
structure Highlighter where
  registry : Registry := .builtin
  /-- What goes before the name in every class. -/
  classPrefix : Text := defaultPrefix

/-- A render cache, and for how long markup stays in it. -/
structure Shelf (m : Type → Type) where
  cache : RenderCache m
  lifetime : Duration := .ofSeconds Cache.week

/-- A piece of code as an author puts it on a page. -/
structure CodeBlock where
  code : Text
  language : Option Text := none
  id : Option Text := none

namespace Highlighter

/-- The tokens of source in a language. -/
def tokenize (h : Highlighter) (code language : Text) : Tokenized :=
  (h.registry.resolve language).tokenize code

/-- The markup of source in a language. -/
def render (h : Highlighter) (code language : Text) : Text :=
  if code.isEmpty then [] else Markup.render h.classPrefix (h.tokenize code language)

/-- The key under which the markup of source is kept. -/
def key (h : Highlighter) (code language : Text) : Text :=
  Cache.key code language engineVersion h.classPrefix

/-- The markup of source, from the cache if it is there. Errors of the cache are passed over. -/
def highlightThrough [Monad m] (h : Highlighter) (shelf : Shelf m) (code language : Text) :
    m Text := do
  let key := h.key code language
  match ← shelf.cache.get key with
  | .ok (some markup) => pure markup
  | .ok none | .error _ =>
    let markup := h.render code language
    let _ ← shelf.cache.set key markup shelf.lifetime
    pure markup

/-- The markup of source, with the help of a cache if there is one. Empty source is empty markup and
concerns no cache. -/
def highlight [Monad m] (h : Highlighter) (shelf : Option (Shelf m)) (code language : Text) :
    m Text :=
  if code.isEmpty then pure []
  else match shelf with
    | none => pure (h.render code language)
    | some shelf => h.highlightThrough shelf code language

/-- A code block as markup. There is none without code. -/
def block [Monad m] (h : Highlighter) (shelf : Option (Shelf m)) (b : CodeBlock) : m Text := do
  if b.code.isEmpty then pure []
  else
    let language := b.language.getD defaultLanguage
    let content ← h.highlight shelf b.code language
    pure (Markup.block h.classPrefix (h.registry.resolve language).label language b.id content)

end Highlighter

end Highlight
