import Highlight.Highlighter
import Highlight.Proofs.Markup.Render
import Highlight.Proofs.Markup.Tree
import Highlight.Proofs.Tokenize.Run

/-!
# Reading code blocks back

A code block is a fixed skeleton of elements into which four texts are put: the label and the name
of the language, an id and the code. Whatever these are, the markup is read as the skeleton and
nothing else, and the texts are read from it again (`Highlighter.block_shows`): a text in an
attribute stays in its attribute, the label is text, and the code is there once without the tags of
its spans.

What is left of an id is told without the machine that cleans it (`Cleaned`, `cleaned_iff`).
-/

namespace Highlight.Markup

/-! ## Ids -/

/-- A blank becomes a dash. -/
def dash (c : Char) : Char := if c = ' ' then '-' else c

/-- What is left of an id: without each region from a `<` through the next `>`, or to the end where
none comes, and with dashes for blanks. -/
inductive Cleaned : Text → Text → Prop
  | plain {text : Text} : '<' ∉ text → Cleaned text (text.map dash)
  | unclosed {front inside : Text} : '<' ∉ front → '>' ∉ inside →
      Cleaned (front ++ '<' :: inside) (front.map dash)
  | region {front inside rest cleaned : Text} : '<' ∉ front → '>' ∉ inside →
      Cleaned rest cleaned → Cleaned (front ++ '<' :: (inside ++ '>' :: rest))
        (front.map dash ++ cleaned)

variable {id front inside cleaned : Text}

theorem cleanId_outside (plain : '<' ∉ front) (rest : Text) :
    cleanId false (front ++ rest) = front.map dash ++ cleanId false rest := by
  induction front with
  | nil => rfl
  | cons c front ih =>
    obtain ⟨first, others⟩ := List.ne_and_not_mem_of_not_mem_cons plain
    rw [List.cons_append, List.map_cons, List.cons_append, ← ih others, dash]
    by_cases blank : c = ' '
    · subst blank; rfl
    · rw [if_neg blank, cleanId]
      · exact fun same => first same.symm
      · exact blank

theorem cleanId_inside (plain : '>' ∉ inside) (rest : Text) :
    cleanId true (inside ++ rest) = cleanId true rest := by
  induction inside with
  | nil => rfl
  | cons c inside ih =>
    obtain ⟨first, others⟩ := List.ne_and_not_mem_of_not_mem_cons plain
    rw [← ih others, List.cons_append]
    by_cases bracket : c = '<'
    · subst bracket; rfl
    · rw [cleanId]
      · exact bracket
      · exact fun same => first same.symm

/-- A region in angle brackets is gone, and so is one that is not closed. -/
theorem cleanId_region (plain : '>' ∉ inside) (rest : Text) :
    cleanId false ('<' :: (inside ++ '>' :: rest)) = cleanId false rest := by
  rw [cleanId, cleanId_inside plain, cleanId]

theorem cleanId_unclosed (plain : '>' ∉ inside) : cleanId false ('<' :: inside) = [] := by
  have whole := cleanId_inside plain []
  rwa [List.append_nil] at whole

/-- Cleaning leaves what is left of an id. -/
theorem Cleaned.cleanId_eq (h : Cleaned id cleaned) : cleanId false id = cleaned := by
  induction h with
  | plain outside =>
    have whole := cleanId_outside outside []
    rwa [List.append_nil, cleanId, List.append_nil] at whole
  | unclosed outside plain =>
    rw [cleanId_outside outside, cleanId_unclosed plain, List.append_nil]
  | region outside plain _ ih =>
    rw [cleanId_outside outside, cleanId_region plain, ih]

/-- Something is left of every id, if only the empty text. -/
theorem cleaned_cleanId (id : Text) : Cleaned id (cleanId false id) := by
  by_cases opened : '<' ∈ id
  · obtain ⟨front, behind, rfl, outside⟩ := List.eq_append_cons_of_mem opened
    rw [cleanId_outside outside]
    by_cases closed : '>' ∈ behind
    · obtain ⟨inside, rest, rfl, plain⟩ := List.eq_append_cons_of_mem closed
      rw [cleanId_region plain]
      exact .region outside plain (cleaned_cleanId rest)
    · rw [cleanId_unclosed closed, List.append_nil]
      exact .unclosed outside closed
  · have whole := cleanId_outside opened []
    rw [List.append_nil, cleanId, List.append_nil] at whole
    exact whole ▸ .plain opened
termination_by id.length
decreasing_by
  subst_vars
  simp only [List.length_append, List.length_cons]
  omega

/-- **Cleaning an id** takes out the regions in angle brackets and turns blanks to dashes. -/
theorem cleaned_iff : Cleaned id cleaned ↔ cleanId false id = cleaned :=
  ⟨Cleaned.cleanId_eq, fun same => same ▸ cleaned_cleanId id⟩

/-- What a block shows of an id: what is left of it, unless that is nothing. -/
def shownId (id : Option Text) : Option Text := (id.map (cleanId false)).filter (!·.isEmpty)

theorem shownId_eq_some_iff {id : Option Text} {shown : Text} :
    shownId id = some shown ↔ shown ≠ [] ∧ ∃ given, id = some given ∧ Cleaned given shown := by
  simp only [shownId, Option.filter_eq_some_iff, Option.map_eq_some_iff, cleaned_iff,
    Bool.not_eq_true', List.isEmpty_eq_false_iff]
  exact and_comm

/-! ## The skeleton -/

/-- What a code block shows. -/
structure BlockParts where
  label : Text
  language : Text
  id : Option Text
  code : Text
  deriving DecidableEq, Repr

/-- The attribute for an id. -/
def idAttributes (id : Option Text) : List Attribute :=
  (id.map (Attribute.mk (.mk "data-id"))).toList

/-- The elements of a code block around a label and around code. -/
def skeleton (classPrefix language : Text) (id : Option Text) (label code : List Node) : Node :=
  .element (.mk "div") [classAttribute (classPrefix ++ "wrapper")]
    [.element (.mk "div") [classAttribute (classPrefix ++ "header")]
      [.element (.mk "span") [classAttribute (classPrefix ++ "lang")] label,
        .element (.mk "button")
          (classAttribute (classPrefix ++ "copy") :: ⟨.mk "aria-label", "Copy code"⟩ ::
            idAttributes id)
          (("Copy" : Text).map .char)],
      .element (.mk "pre") [classAttribute (classPrefix ++ "pre")]
        [.element (.mk "code")
          [classAttribute (classPrefix ++ "code"), ⟨.mk "data-lang", language⟩] code]]

/-- Whether markup is the skeleton of a block, and what it shows. The label has no elements, those
of the code are passed over, and entities stand for characters in both. -/
def Shows (classPrefix markup : Text) (parts : BlockParts) : Prop :=
  ∃ (label : Text) (code : List Node),
    forest markup =
      some [skeleton classPrefix parts.language parts.id (label.map .char) code] ∧
    unescape label = parts.label ∧ unescape (textOf code) = parts.code

variable {classPrefix language language' markup content : Text} {shown shown' : Option Text}
  {label label' code code' : List Node}

theorem idAttributes_inj (h : idAttributes shown = idAttributes shown') : shown = shown' := by
  cases shown <;> cases shown' <;> simp_all [idAttributes]

/-- The skeleton tells what was put into it. -/
theorem skeleton_inj
    (h : skeleton classPrefix language shown label code =
      skeleton classPrefix language' shown' label' code') :
    language = language' ∧ shown = shown' ∧ label = label' ∧ code = code' := by
  simp only [skeleton, Node.element.injEq, List.cons.injEq, Attribute.mk.injEq, true_and,
    and_true] at h
  obtain ⟨⟨label, id⟩, language, code⟩ := h
  exact ⟨language, idAttributes_inj id, label, code⟩

/-- **Markup shows one thing** at most. -/
theorem Shows.unique {parts parts' : BlockParts} (h : Shows classPrefix markup parts)
    (h' : Shows classPrefix markup parts') : parts' = parts := by
  obtain ⟨label, code, read, shownLabel, shownCode⟩ := h
  obtain ⟨label', code', read', shownLabel', shownCode'⟩ := h'
  rw [read] at read'
  obtain ⟨language, id, labels, codes⟩ := skeleton_inj (List.cons.inj (Option.some.inj read')).1
  have text : label = label' := by
    rw [← textOf_chars label, labels, textOf_chars]
  subst text codes
  cases parts with | mk
  cases parts' with | mk
  rw [BlockParts.mk.injEq]
  exact ⟨shownLabel'.symm.trans shownLabel, language.symm, id.symm,
    shownCode'.symm.trans shownCode⟩

/-! ## Reading a block -/

theorem flatMap_text_idAttributes (id : Option Text) :
    (idAttributes (shownId id)).flatMap Attribute.text = idAttribute id := by
  unfold idAttribute shownId
  cases id.map (cleanId false) with
  | none => rfl
  | some left =>
    cases left with
    | nil => rfl
    | cons c rest => exact List.append_nil _

/-- **A block is read as the skeleton** with the texts in their places, wherever it stands. -/
theorem Reads.block (named : Config.isClassPrefix classPrefix = true)
    (h : Reads content (lexemesOf code)) (label language : Text) (id : Option Text) :
    Reads (block classPrefix label language id content)
      (lexemesOf [skeleton classPrefix language (shownId id)
        ((escapeAttribute label).map .char) code]) := by
  have classed : ∀ name : Text, Config.isClassPrefix name = true →
      Config.isClassPrefix (classPrefix ++ name) = true := fun _ => isClassPrefix_append named
  have copy : '<' ∉ ("Copy" : Text) := by decide
  -- from the innermost elements outwards
  have lang := (reads_text (not_mem_escapeAttribute label)).element (.mk "span") []
    (classed "lang" (by decide))
  have button := (reads_text copy).element (.mk "button")
    (⟨.mk "aria-label", "Copy code"⟩ :: idAttributes (shownId id)) (classed "copy" (by decide))
  have header := (lang.append_nodes button).element (.mk "div") [] (classed "header" (by decide))
  have inner := h.element (.mk "code") [⟨.mk "data-lang", language⟩] (classed "code" (by decide))
  have pre := inner.element (.mk "pre") [] (classed "pre" (by decide))
  have wrapper := (header.append_nodes pre).element (.mk "div") [] (classed "wrapper" (by decide))
  rw [List.flatMap_cons, flatMap_text_idAttributes, List.flatMap_singleton] at wrapper
  exact wrapper

/-- A block around marked code shows the code, and the other texts as they were given. -/
theorem shows_block (named : Config.isClassPrefix classPrefix = true) {code : Text}
    (h : Marks classPrefix content (escape code)) (label language : Text) (id : Option Text) :
    Shows classPrefix (block classPrefix label language id content)
      ⟨label, language, shownId id, code⟩ := by
  obtain ⟨nodes, reads, text⟩ := h.exists_nodes named
  refine ⟨escapeAttribute label, nodes, (reads.block named label language id).forest_eq,
    unescape_escapeAttribute label, ?_⟩
  rw [text, unescape_escape]

end Highlight.Markup

namespace Highlight.Highlighter

open Markup

variable {m : Type → Type} [Monad m] [LawfulMonad m]

/-- A block without a cache. -/
theorem block_none (h : Highlighter) {b : CodeBlock} (code : b.code ≠ []) :
    h.block (none : Option (Shelf m)) b =
      pure (Markup.block h.classPrefix
        (h.registry.resolve (b.language.getD defaultLanguage)).label
        (b.language.getD defaultLanguage) b.id
        (Markup.render h.classPrefix (h.tokenize b.code (b.language.getD defaultLanguage)))) := by
  have some : b.code.isEmpty = false := by simpa using code
  simp only [block, highlight, render, some, pure_bind, Bool.false_eq_true, if_false]

/-- **A block is read back**, whatever its code, its language and its id are, and whatever
languages there are: it shows the language, the label of the grammar that this resolves to, the
code, and what is left of the id if anything is; and it shows nothing else. -/
theorem block_shows (h : Highlighter) (b : CodeBlock)
    (named : Config.isClassPrefix h.classPrefix = true) (code : b.code ≠ []) :
    ∃ markup parts, h.block (none : Option (Shelf m)) b = pure markup ∧
      Shows h.classPrefix markup parts ∧
      (∀ other, Shows h.classPrefix markup other → other = parts) ∧
      parts.language = b.language.getD defaultLanguage ∧
      parts.label = (h.registry.resolve parts.language).label ∧
      parts.code = b.code ∧
      ∀ id, parts.id = some id ↔ id ≠ [] ∧ ∃ given, b.id = some given ∧ Cleaned given id := by
  have marks := marks_render named (h.tokenize b.code (b.language.getD defaultLanguage))
  rw [tokenize, Grammar.tokenize_source] at marks
  have shows := shows_block named marks
    (h.registry.resolve (b.language.getD defaultLanguage)).label
    (b.language.getD defaultLanguage) b.id
  exact ⟨_, _, block_none h code, shows, fun _ => shows.unique, rfl, rfl, rfl,
    fun _ => shownId_eq_some_iff⟩

/-- Code, a label, a language and an id that try to end the elements and attributes they are in. -/
theorem block_shows_imitation :
    Config.isClassPrefix "p_" = true ∧ ("</code></pre></div>" : Text) ≠ [] ∧
      ∃ markup, (⟨Registry.plain.add ⟨"a\"b", "</span><b>", [], []⟩, "p_"⟩ : Highlighter).block
          (none : Option (Shelf Id)) ⟨"</code></pre></div>", "a\"b", "it's <a \"b> x <i"⟩ =
            pure markup ∧
        Shows "p_" markup ⟨"</span><b>", "a\"b", "it's--x-", "</code></pre></div>"⟩ := by
  have named : Config.isClassPrefix "p_" = true := by decide
  have code : ("</code></pre></div>" : Text) ≠ [] := by decide
  obtain ⟨markup, ⟨label, language, id, shown⟩, run, shows, -, hlanguage, hlabel, hcode, hid⟩ :=
    block_shows (m := Id) ⟨Registry.plain.add ⟨"a\"b", "</span><b>", [], []⟩, "p_"⟩
      ⟨"</code></pre></div>", "a\"b", "it's <a \"b> x <i"⟩ named code
  have left : Cleaned "it's <a \"b> x <i" "it's--x-" := cleaned_iff.mpr (by decide)
  obtain rfl : language = "a\"b" := hlanguage
  obtain rfl : label = "</span><b>" := hlabel.trans rfl
  obtain rfl : shown = "</code></pre></div>" := hcode
  obtain rfl : id = some ("it's--x-" : Text) := (hid _).mpr ⟨by decide, _, rfl, left⟩
  exact ⟨named, code, markup, run, shows⟩

end Highlight.Highlighter
