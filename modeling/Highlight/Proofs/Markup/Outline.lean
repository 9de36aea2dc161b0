import Highlight.Grammar.Url
import Highlight.Proofs.Markup.Render
import Highlight.Proofs.Segment

/-!
# Reading a rendering back

The outline of markup is what a reader sees who looks at outermost spans only: their classes, what
they hold without the tags inside, and what stands between them. The outline of a rendering is that
of its segments (`outline_render`), so from what a grammar gives every token is read back once, in
order, with its category and its text, and between them the source that no token claims
(`outline_render_tokenize`). Nothing of this needs the grammar or the source: markup of another
source or of other tokens is other markup.
-/

namespace Highlight.Markup

/-- An outermost span, and what stands between the one before and it. -/
structure Region where
  before : Text
  spanClass : Text
  content : Text
  deriving DecidableEq, Repr

/-- An outermost span while it is read: its class, what it holds so far, and how many of the spans
inside it are open. -/
structure OpenSpan where
  spanClass : Text
  content : Text
  depth : Nat

/-- The outermost spans of lexemes, and what stands behind the last; `before` has been read since
the last of them was closed. There is no outline of markup in which a tag is neither that of a span
nor its end, a span is not closed, or none is open where one is closed. -/
def outlineFrom : Text → Option OpenSpan → List Lexeme → Option (List Region × Text)
  | before, none, [] => some ([], before)
  | _, some _, [] => none
  | before, none, .char c :: rest => outlineFrom (before ++ [c]) none rest
  | before, some span, .char c :: rest =>
    outlineFrom before (some { span with content := span.content ++ [c] }) rest
  | before, none, .tag inside :: rest =>
    match (Lexeme.tag inside).spanClass? with
    | some spanClass => outlineFrom before (some ⟨spanClass, [], 0⟩) rest
    | none => none
  | before, some span, .tag inside :: rest =>
    if (Lexeme.tag inside).spanClass?.isSome then
      outlineFrom before (some { span with depth := span.depth + 1 }) rest
    else if !(Lexeme.tag inside).closesSpan then none
    else if span.depth = 0 then
      (outlineFrom [] none rest).map fun (regions, after) =>
        (⟨before, span.spanClass, span.content⟩ :: regions, after)
    else outlineFrom before (some { span with depth := span.depth - 1 }) rest

/-- The outline of markup. -/
def outline (markup : Text) : Option (List Region × Text) := outlineFrom [] none (lexemes markup)

/-- Where the regions of an outline start and stop in the source, and their classes. -/
def locate : Nat → List Region → List (Nat × Nat × Text)
  | _, [] => []
  | cursor, region :: rest =>
    let start := cursor + (unescape region.before).byteSize
    let stop := start + (unescape region.content).byteSize
    (start, stop, region.spanClass) :: locate stop rest

variable {classPrefix : Text}

/-! ## Reading segments -/

section Steps

variable (before spanClass content : Text) (depth : Nat) (rest : List Lexeme)

theorem outlineFrom_start {start : Lexeme} (starts : start.spanClass? = some spanClass) :
    outlineFrom before none (start :: rest) =
      outlineFrom before (some ⟨spanClass, [], 0⟩) rest := by
  cases start with
  | char c => cases starts
  | tag inside => simp only [outlineFrom, starts]

theorem outlineFrom_open (span : OpenSpan) {start : Lexeme}
    (starts : start.spanClass? = some spanClass) :
    outlineFrom before (some span) (start :: rest) =
      outlineFrom before (some { span with depth := span.depth + 1 }) rest := by
  cases start with
  | char c => cases starts
  | tag inside => rw [outlineFrom, starts, Option.isSome_some, if_pos rfl]

theorem outlineFrom_close :
    outlineFrom before (some ⟨spanClass, content, depth + 1⟩) (.tag "/span" :: rest) =
      outlineFrom before (some ⟨spanClass, content, depth⟩) rest :=
  rfl

theorem outlineFrom_end :
    outlineFrom before (some ⟨spanClass, content, 0⟩) (.tag "/span" :: rest) =
      (outlineFrom [] none rest).map fun (regions, after) =>
        (⟨before, spanClass, content⟩ :: regions, after) :=
  rfl

theorem outlineFrom_chars (text : Text) :
    outlineFrom before none (text.map .char ++ rest) = outlineFrom (before ++ text) none rest := by
  induction text generalizing before with
  | nil => rw [List.append_nil]; rfl
  | cons c text ih =>
    simp only [List.map_cons, List.cons_append, outlineFrom, ih, List.append_assoc]
    rfl

end Steps

/-- Inside an outermost span, wrapped text adds to what it holds, and leaves as many spans open. -/
theorem outlineFrom_wrapped {read : List Lexeme} {text : Text}
    (h : Wrapped classPrefix read text) (before : Text) (span : OpenSpan) (rest : List Lexeme) :
    outlineFrom before (some span) (read ++ rest) =
      outlineFrom before (some { span with content := span.content ++ text }) rest := by
  induction h generalizing span rest with
  | nil => rw [List.append_nil]; rfl
  | char c _ ih =>
    simp only [List.cons_append, outlineFrom, ih, List.append_assoc]
    rfl
  | span _ starts _ _ inner after =>
    simp only [List.cons_append, outlineFrom_open _ _ _ _ starts, List.append_assoc, inner,
      outlineFrom_close, after]

/-- The outline of segments, when `before` has been read since the last span. -/
def regionsOf (classPrefix : Text) : Text → List Segment → List Region × Text
  | before, [] => ([], before)
  | before, .between text :: rest => regionsOf classPrefix (before ++ escape text) rest
  | before, .placed token :: rest =>
    let (regions, after) := regionsOf classPrefix [] rest
    (⟨before, classPrefix ++ token.kind.name, escape token.text⟩ :: regions, after)

/-- **The outline of rendered segments** is that of the segments. -/
theorem outlineFrom_segments (named : Config.isClassPrefix classPrefix = true) (before : Text)
    (segments : List Segment) :
    outlineFrom before none (lexemes (segments.flatMap (segment classPrefix))) =
      some (regionsOf classPrefix before segments) := by
  induction segments generalizing before with
  | nil => rfl
  | cons s rest ih =>
    rw [List.flatMap_cons]
    cases s with
    | between text =>
      rw [segment, reads_chars (not_mem_escape text), outlineFrom_chars]
      exact ih _
    | placed token =>
      have mem := kind_name_mem_spanNames token.kind
      have hname := isClassPrefix_append named (isClassPrefix_of_mem_spanNames mem)
      obtain ⟨read, reads, wrapped⟩ := marks_tokenContent named token
      rw [segment, reads.span named mem, List.cons_append,
        outlineFrom_start _ _ _ (spanClass?_spanTag hname), List.append_assoc,
        outlineFrom_wrapped wrapped, List.cons_append, outlineFrom_end, List.nil_append,
        List.nil_append, ih]
      rfl

/-- The outline of a rendering is that of its segments. -/
theorem outline_render (named : Config.isClassPrefix classPrefix = true)
    (tokenized : Tokenized) : outline (render classPrefix tokenized) =
      some (regionsOf classPrefix [] tokenized.withoutEmpty.segments) :=
  outlineFrom_segments named [] tokenized.withoutEmpty.segments

/-! ## Reading tokens -/

section Laid

variable (classPrefix) {code : Text} {cursor : Nat} {tokens tokens' : List Token}
  {segments : List Segment}

/-- The regions of laid segments are the tokens, in order. -/
theorem regionsOf_tokens (h : Laid code cursor tokens segments) :
    (regionsOf classPrefix [] segments).1.map
        (fun region => (region.spanClass, unescape region.content)) =
      tokens.map fun token => (classPrefix ++ token.kind.name, token.text) := by
  induction h with
  | last _ => rfl
  | next _ _ ih =>
    simp only [regionsOf, List.nil_append, List.map_cons, unescape_escape, ih]

/-- What stands between the regions of laid segments is what stands in the gaps between the
tokens. -/
theorem regionsOf_between (h : Laid code cursor tokens segments) :
    ((regionsOf classPrefix [] segments).1.map Region.before ++
        [(regionsOf classPrefix [] segments).2]).map (fun between => some (unescape between)) =
      (Tokenize.gaps code.byteSize cursor (tokens.map Token.span)).map
        fun gap => code.slice? gap.start gap.stop := by
  induction h with
  | last slice =>
    simp only [regionsOf, List.nil_append]
    simp [Tokenize.gaps, slice]
  | next slice _ ih =>
    simp only [regionsOf, List.nil_append, List.map_cons, List.cons_append, unescape_escape, ih,
      Tokenize.gaps]
    exact congrArg (· :: _) slice.symm

/-- The regions of laid segments are where the tokens are. -/
theorem locate_regionsOf (h : Laid code cursor tokens segments) :
    locate cursor (regionsOf classPrefix [] segments).1 =
      tokens.map fun token => (token.start, token.stop, classPrefix ++ token.kind.name) := by
  induction h with
  | last _ => rfl
  | @next cursor between token _ _ slice _ ih =>
    obtain ⟨_, _, _, _, size⟩ := Text.slice?_eq_some_iff.mp slice
    simp only [regionsOf, List.nil_append, locate, unescape_escape, size]
    exact congrArg (_ :: ·) ih

variable {classPrefix}

/-- The class of a token tells its category. -/
theorem map_kind_of_map_class
    (same : tokens.map (fun token => (token.start, token.stop, classPrefix ++ token.kind.name)) =
      tokens'.map fun token => (token.start, token.stop, classPrefix ++ token.kind.name)) :
    tokens.map (fun token => (token.start, token.stop, token.kind)) =
      tokens'.map fun token => (token.start, token.stop, token.kind) := by
  have classes : ∀ tokens : List Token,
      tokens.map (fun token => (token.start, token.stop, classPrefix ++ token.kind.name)) =
        (tokens.map fun token => (token.start, token.stop, token.kind)).map
          fun (start, stop, kind) => (start, stop, classPrefix ++ kind.name) := by
    intro tokens
    rw [List.map_map]
    rfl
  rw [classes, classes] at same
  refine (List.map_inj_right ?_).mp same
  intro (start, stop, kind) (start', stop', kind') same
  simp only [Prod.mk.injEq, List.append_cancel_left_eq] at same
  obtain ⟨rfl, rfl, name⟩ := same
  have kinds : some kind = some kind' := by
    simp only [← TokenType.ofName?_name kind, name, TokenType.ofName?_name]
  rw [Option.some.inj kinds]

end Laid

/-- Two renderings that are the same markup are renderings of the same source, and tell of tokens
in the same places and of the same categories. -/
theorem eq_of_render_eq (named : Config.isClassPrefix classPrefix = true)
    {grammar grammar' : Grammar} {code code' : Text}
    (same : render classPrefix (grammar'.tokenize code') =
      render classPrefix (grammar.tokenize code)) :
    code' = code ∧
      (grammar'.tokenize code').tokens.map (fun token => (token.start, token.stop, token.kind)) =
        (grammar.tokenize code).tokens.map fun token => (token.start, token.stop, token.kind) := by
  constructor
  · have content := (marks_render named (grammar.tokenize code)).withoutSpans_eq
    have content' := (marks_render named (grammar'.tokenize code')).withoutSpans_eq
    rw [same, content, Grammar.tokenize_source, Grammar.tokenize_source] at content'
    rw [← unescape_escape code', ← content', unescape_escape]
  · have outlines : outline (render classPrefix (grammar'.tokenize code')) =
        outline (render classPrefix (grammar.tokenize code)) := by simp only [same]
    rw [outline_render named, outline_render named] at outlines
    have located := locate_regionsOf classPrefix (grammar.laid_segments code)
    have located' := locate_regionsOf classPrefix (grammar'.laid_segments code')
    rw [Option.some.inj outlines, located] at located'
    exact (map_kind_of_map_class located').symm

/-- **Every token of a grammar is read back exactly once.** The outline of the markup has one span
for each token, in order, with the class of its category and with its text for what it holds; what
stands between the spans is the source in the gaps between the tokens. No token is left out of the
segments, and the markup determines the source, and where its tokens are and of which category. -/
theorem outline_render_tokenize (grammar : Grammar) (code classPrefix : Text)
    (named : Config.isClassPrefix classPrefix = true) :
    (∃ regions after,
      outline (render classPrefix (grammar.tokenize code)) = some (regions, after) ∧
      regions.map (fun region => (region.spanClass, unescape region.content)) =
        (grammar.tokenize code).tokens.map
          (fun token => (classPrefix ++ token.kind.name, token.text)) ∧
      (regions.map Region.before ++ [after]).map (fun between => some (unescape between)) =
        (Tokenize.gaps code.byteSize 0 ((grammar.tokenize code).tokens.map Token.span)).map
          fun gap => code.slice? gap.start gap.stop) ∧
    (grammar.tokenize code).withoutEmpty.segments.filterMap Segment.token? =
      (grammar.tokenize code).tokens ∧
    ∀ (grammar' : Grammar) (code' : Text),
      render classPrefix (grammar'.tokenize code') = render classPrefix (grammar.tokenize code) →
      code' = code ∧
        (grammar'.tokenize code').tokens.map (fun token => (token.start, token.stop, token.kind)) =
          (grammar.tokenize code).tokens.map
            fun token => (token.start, token.stop, token.kind) := by
  have laid := grammar.laid_segments code
  exact ⟨⟨_, _, outline_render named _, regionsOf_tokens _ laid, regionsOf_between _ laid⟩,
    laid.filterMap_token?, fun _ _ => eq_of_render_eq named⟩

/-- Of a URL whose pieces touch and whose query holds spans of its own, each piece is one region. -/
theorem outline_render_tokenize_url :
    Config.isClassPrefix "fmc-" = true ∧ ∃ regions after,
      outline (render "fmc-" (Grammar.url.tokenize "at //a?b=<&")) = some (regions, after) ∧
      regions.map (fun region => (region.spanClass, unescape region.content)) =
        ([("fmc-url-slash", "//"), ("fmc-url-host", "a"), ("fmc-url-query", "?b=<&")] :
          List (Text × Text)) := by
  have named : Config.isClassPrefix "fmc-" = true := by decide
  obtain ⟨regions, after, outlined, content, _⟩ :=
    (outline_render_tokenize Grammar.url "at //a?b=<&" "fmc-" named).1
  have tokens : (Grammar.url.tokenize "at //a?b=<&").tokens.map
      (fun token => (("fmc-" : Text) ++ token.kind.name, token.text)) =
        ([("fmc-url-slash", "//"), ("fmc-url-host", "a"), ("fmc-url-query", "?b=<&")] :
          List (Text × Text)) := by
    decide +kernel
  exact ⟨named, regions, after, outlined, content.trans tokens⟩

end Highlight.Markup
