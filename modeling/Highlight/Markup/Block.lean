import Highlight.Markup.Element

/-!
# Code blocks

The markup around highlighted code: a header with the label of the language and a copy button, and
the code itself. The button may carry an id. An id is given by people, so tags are taken out of it
and blanks become dashes.
-/

namespace Highlight.Markup

/-- What is left of an id: everything from a `<` to the next `>` goes, and blanks become dashes. -/
def cleanId : Bool → Text → Text
  | _, [] => []
  | _, '<' :: rest => cleanId true rest
  | true, '>' :: rest => cleanId false rest
  | true, _ :: rest => cleanId true rest
  | false, ' ' :: rest => '-' :: cleanId false rest
  | false, c :: rest => c :: cleanId false rest

/-- The attribute for an id, unless nothing is left of it. -/
def idAttribute (id : Option Text) : Text :=
  match id.map (cleanId false) with
  | none | some [] => []
  | some id => quoted "data-id" id

/-- A code block. `content` is the highlighted code, `language` what the author called the language,
and `label` what the language is called. -/
def block (classPrefix label language : Text) (id : Option Text) (content : Text) : Text :=
  let header :=
    element "span" classPrefix "lang" [] (escapeAttribute label) ++
      element "button" classPrefix "copy" (quoted "aria-label" "Copy code" ++ idAttribute id)
        "Copy"
  let code := element "code" classPrefix "code" (quoted "data-lang" language) content
  element "div" classPrefix "wrapper" []
    (element "div" classPrefix "header" [] header ++ element "pre" classPrefix "pre" [] code)

end Highlight.Markup
