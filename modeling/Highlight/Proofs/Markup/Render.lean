import Highlight.Markup.Render
import Highlight.Proofs.Markup.Lexeme
import Highlight.Proofs.Segment

/-!
# Rendering loses nothing

A rendering is the escaped source with spans around parts of it, whatever the tokens are
(`render_withoutSpans`): tokens may overlap, lie outside the source, divide a character or hold
another text, and the spans inside a URL query stand between characters of what was escaped before
(`marks_query`).
-/

namespace Highlight.Markup

variable {classPrefix : Text}

theorem kind_name_mem_spanNames (kind : TokenType) : kind.name ∈ spanNames :=
  List.mem_append_left _ (List.mem_map_of_mem kind.mem_all)

theorem part_name_mem_spanNames (part : QueryPart) : part.name ∈ spanNames := by
  refine List.mem_append_right _ (List.mem_map_of_mem ?_)
  cases part <;> decide

/-! ## Queries -/

namespace Query

theorem join_cons_cons (mark first next : Text) (rest : List Text) :
    Text.join mark (first :: next :: rest) = first ++ mark ++ Text.join mark (next :: rest) :=
  rfl

/-- A text in front joins the first of several texts. -/
theorem join_cons_append (mark front text : Text) (more : List Text) :
    Text.join mark ((front ++ text) :: more) = front ++ Text.join mark (text :: more) := by
  cases more with
  | nil => rfl
  | cons next more =>
    rw [join_cons_cons, join_cons_cons]
    simp only [List.append_assoc]

/-- There is always a pair, if only an empty one. -/
theorem pairs_ne_nil (text : Text) : pairs text ≠ [] := by
  fun_cases pairs text <;> exact List.cons_ne_nil _ _

/-- The pairs joined are the query. -/
theorem join_pairs (text : Text) : Text.join separator (pairs text) = text := by
  fun_induction pairs text with
  | case1 rest ih =>
    cases split : pairs rest with
    | nil => exact absurd split (pairs_ne_nil rest)
    | cons pair more =>
      rw [split] at ih
      rw [← ih]
      rfl
  | case2 c rest _ none => exact absurd none (pairs_ne_nil rest)
  | case3 c rest _ pair more split ih =>
    rw [split] at ih
    rw [← ih]
    exact join_cons_append separator [c] pair more
  | case4 => rfl

/-- Marked texts with marked separators are the text joined. -/
theorem marks_join {mark markup : Text} (h : Marks classPrefix markup mark)
    {render : Text → Text} {texts : List Text}
    (each : ∀ text ∈ texts, Marks classPrefix (render text) text) :
    Marks classPrefix (Text.join markup (texts.map render)) (Text.join mark texts) := by
  induction texts with
  | nil => exact .chars classPrefix List.not_mem_nil
  | cons text rest ih =>
    have first := each text List.mem_cons_self
    have others := ih fun other mem => each other (List.mem_cons_of_mem _ mem)
    cases rest with
    | nil => exact first
    | cons next rest => exact (first.append h).append others

/-- The characters of the pairs are those of the query. -/
theorem mem_of_mem_join {mark text : Text} {texts : List Text} (mem : text ∈ texts) {c : Char}
    (hc : c ∈ text) : c ∈ Text.join mark texts := by
  induction texts with
  | nil => cases mem
  | cons first rest ih =>
    cases rest with
    | nil =>
      obtain rfl := List.mem_singleton.mp mem
      exact hc
    | cons next rest =>
      rw [join_cons_cons]
      rcases List.mem_cons.mp mem with rfl | mem
      · exact List.mem_append_left _ (List.mem_append_left _ hc)
      · exact List.mem_append_right _ (ih mem)

/-- A part of a query is its text in a span. -/
theorem marks_part (named : Config.isClassPrefix classPrefix = true) (kind : QueryPart)
    {text : Text} (plain : '<' ∉ text) :
    Marks classPrefix (part classPrefix kind text) text :=
  (Marks.chars classPrefix plain).span named (part_name_mem_spanNames kind)

theorem marks_pair (named : Config.isClassPrefix classPrefix = true) {text : Text}
    (plain : '<' ∉ text) : Marks classPrefix (pair classPrefix text) text := by
  unfold pair
  split
  · exact .chars classPrefix plain
  · next key value _ split =>
    have whole := (Text.eq_of_splitOnce? split).1
    have parts : '<' ∉ key ∧ '<' ∉ ('=' : Char) :: value :=
      ⟨fun mem => plain (whole ▸ List.mem_append_left _ mem),
        fun mem => plain (whole ▸ List.mem_append_right _ mem)⟩
    have equals : Marks classPrefix (part classPrefix .equals "=") ['='] :=
      marks_part named .equals (by decide)
    have last : Marks classPrefix
        (if value.isEmpty then [] else part classPrefix .value value) value := by
      split
      · next empty => rw [List.isEmpty_iff.mp empty]; exact .chars classPrefix List.not_mem_nil
      · exact marks_part named .value fun mem => parts.2 (List.mem_cons_of_mem _ mem)
    rw [whole, List.append_cons]
    exact ((marks_part named .key parts.1).append equals).append last
  · split
    · next empty => rw [List.isEmpty_iff.mp empty]; exact .chars classPrefix List.not_mem_nil
    · exact marks_part named .key plain

theorem marks_spans (named : Config.isClassPrefix classPrefix = true) {text : Text}
    (plain : '<' ∉ text) : Marks classPrefix (spans classPrefix text) text := by
  have bare : '<' ∉ separator := by decide
  have each : ∀ text' ∈ pairs text, Marks classPrefix (pair classPrefix text') text' := by
    refine fun text' mem => marks_pair named fun bracket => plain ?_
    rw [← join_pairs text]
    exact mem_of_mem_join mem bracket
  have joined := marks_join (marks_part named .separator bare) each
  rwa [join_pairs] at joined

end Query

/-- **A query is marked**, not changed: its spans stand between characters of the text. -/
theorem marks_query (named : Config.isClassPrefix classPrefix = true) {text : Text}
    (plain : '<' ∉ text) : Marks classPrefix (query classPrefix text) text := by
  unfold query
  split
  · next rest =>
    have mark : Marks classPrefix (Query.part classPrefix .mark "?") ['?'] :=
      Query.marks_part named .mark (by decide)
    exact mark.append (Query.marks_spans named fun mem => plain (List.mem_cons_of_mem _ mem))
  · exact Query.marks_spans named plain

/-! ## Segments -/

theorem not_mem_escape (text : Text) : '<' ∉ escape text := fun mem => (escape_ne mem).1 rfl

/-- What stands in a token's span is the escaped text of the token, marked. -/
theorem marks_tokenContent (named : Config.isClassPrefix classPrefix = true) (token : Token) :
    Marks classPrefix (tokenContent classPrefix token) (escape token.text) := by
  unfold tokenContent
  split
  · exact marks_query named (not_mem_escape token.text)
  · exact .chars classPrefix (not_mem_escape token.text)

/-- A segment in markup is its escaped source, marked. -/
theorem marks_segment (named : Config.isClassPrefix classPrefix = true) (s : Segment) :
    Marks classPrefix (segment classPrefix s) (escape s.text) := by
  cases s with
  | between text => exact .chars classPrefix (not_mem_escape text)
  | placed token =>
    exact (marks_tokenContent named token).span named (kind_name_mem_spanNames token.kind)

theorem marks_segments (named : Config.isClassPrefix classPrefix = true)
    (segments : List Segment) : Marks classPrefix (segments.flatMap (segment classPrefix))
      (escape (segments.flatMap Segment.text)) := by
  induction segments with
  | nil => exact .chars classPrefix List.not_mem_nil
  | cons s rest ih =>
    rw [List.flatMap_cons, List.flatMap_cons, escape_append]
    exact (marks_segment named s).append ih

/-- A rendering is the escaped source, marked. -/
theorem marks_render (named : Config.isClassPrefix classPrefix = true) (tokenized : Tokenized) :
    Marks classPrefix (render classPrefix tokenized) (escape tokenized.source) := by
  have whole := marks_segments named tokenized.withoutEmpty.segments
  rwa [Tokenized.flatMap_text_segments] at whole

/-- **Rendering loses nothing**, for any source and any tokens. The lexemes of the markup are all of
it; without the tags that open or close a span of the highlighter it is the escaped source, which
reads back as the source and holds no bare character of markup; and those tags are nested. -/
theorem render_withoutSpans (source : Text) (tokens : List Token) (classPrefix : Text)
    (named : Config.isClassPrefix classPrefix = true) :
    (lexemes (render classPrefix (.ofTokens source tokens))).flatMap Lexeme.text =
        render classPrefix (.ofTokens source tokens) ∧
      withoutSpans classPrefix (render classPrefix (.ofTokens source tokens)) = escape source ∧
      isNested classPrefix 0 (lexemes (render classPrefix (.ofTokens source tokens))) = true ∧
      unescape (withoutSpans classPrefix (render classPrefix (.ofTokens source tokens))) =
        source ∧
      IsSafe (withoutSpans classPrefix (render classPrefix (.ofTokens source tokens))) := by
  have marks : Marks classPrefix (render classPrefix (.ofTokens source tokens)) (escape source) :=
    marks_render named (.ofTokens source tokens)
  have content := marks.withoutSpans_eq
  refine ⟨flatMap_text_lexemes _, content, marks.isNested_lexemes, ?_, ?_⟩
  · rw [content, unescape_escape]
  · rw [content]
    exact isSafe_escape source

/-- Of a query, a token inside it and one past the end, only the first becomes a span. -/
theorem render_withoutSpans_overlapping :
    Config.isClassPrefix "fmc-" = true ∧
      withoutSpans "fmc-" (render "fmc-" (.ofTokens "/é?a=1&<"
        [⟨"1&", 6, .string, 0⟩, ⟨"?a=1&<", 3, .urlQuery, 1⟩, ⟨"x", 9, .number, 2⟩])) =
        "/é?a=1&amp;&lt;" :=
  have named : Config.isClassPrefix "fmc-" = true := by decide
  ⟨named, (render_withoutSpans _ _ _ named).2.1.trans (by decide)⟩

end Highlight.Markup
