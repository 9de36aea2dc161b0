import Highlight.Proofs.Forms.Strings

/-!
# Comments in two passes

JavaScript and TypeScript have their comments found in two passes over what lies between the
strings, first those between `/*` and `*/`, then those to the end of the line. The scan that tells
comments from strings knows both at once. The two agree if and only if the first pass leaves the
line comments alone: no block comment is complete that begins inside a line comment
(`Forms.LinesClear`). Where one is, the first pass tears the line comment (`tornLine_tokens`).
-/

namespace Highlight

open Pattern (Takes Span)

/-- Whether a piece is spelled as a comment between `/*` and `*/`. -/
def Piece.IsBlock (piece : Piece) : Prop := piece.label = .comment ∧ ['/', '*'] <+: piece.text

/-- Whether a piece is spelled as a comment to the end of the line. -/
def Piece.IsLine (piece : Piece) : Prop := piece.label = .comment ∧ ['/', '/'] <+: piece.text

theorem Piece.IsLine.not_isBlock {piece : Piece} (line : piece.IsLine) : ¬ piece.IsBlock := by
  rintro ⟨-, block⟩
  obtain ⟨more, same⟩ := line.2
  rw [← same] at block
  obtain ⟨more', same⟩ := block
  cases same

namespace Forms

/-- Whether no block comment that begins inside a line comment is complete before the next string.
-/
def LinesClear (pieces : List Piece) : Prop :=
  ∀ pre line run post, pieces = pre ++ line :: run ++ post → line.IsLine →
    (∀ other ∈ run, other.label ≠ .string) →
      Form.blockComment.Absent (reading.code pre) line.text (reading.code run)

variable {grammar : Grammar} {pieces pre run : List Piece} {piece : Piece} {text rest : Text}
  {before : Option Char} {string : Pattern}

theorem blockComment_none (h : ['/', '/'] <+: text) (rest : Text) :
    Form.blockComment.take? before (text ++ rest) = none := by
  obtain ⟨more, rfl⟩ := h
  rfl

/-- A comment of the scan is a block comment or a line comment. -/
theorem IsNext.block_or_line (next : script.IsNext before (piece.text ++ rest) piece rest)
    (label : piece.label = .comment) :
    (piece.IsBlock ∧
        Form.blockComment.take? before (piece.text ++ rest) = some (piece.text, rest)) ∨
      (piece.IsLine ∧
        Form.slashComment.take? before (piece.text ++ rest) = some (piece.text, rest)) := by
  rcases Option.or_eq_some_iff.mp (next.take_comment label) with block | ⟨-, line⟩
  · exact .inl ⟨⟨label, Form.prefix_of_enclosed block⟩, block⟩
  · exact .inr ⟨⟨label, Form.prefix_of_line line⟩, line⟩

/-- The second pass picks the line comments. -/
theorem Scanned.picks_lines (scanned : script.Scanned [] pieces [])
    (picked : reading.IsPicked pieces (grammar.firstRules 2) fun piece =>
      piece.label = .string ∨ piece.IsBlock) (name : String) :
    ∀ pre run, reading.IsGap pieces (grammar.firstRules 2) pre run →
      (Rule.whole name .comment Lexeme.slashComment).Picks reading Piece.IsLine pre run := by
  intro pre run gap
  refine Rule.picks_of_form Pattern.takes_slashComment rfl fun before piece behind split => ?_
  have next := scanned.isNext_gap gap split
  have left := not_or.mp (picked.not_own gap split)
  cases label : piece.label with
  | comment =>
    rcases next.block_or_line label with ⟨block, -⟩ | line
    · exact absurd block left.2
    · exact .inl line
  | string => exact absurd label left.1
  | code =>
    refine .inr ⟨?_, (Form.absent_orElse.mp (next.absent label).1).2⟩
    rintro ⟨isComment, -⟩
    rw [label] at isComment
    cases isComment

/-- The grammars of two passes: a rule for strings, then one for block comments and one for line
comments, and no other for comments. -/
structure TwoPasses (grammar : Grammar) (string : Pattern) : Prop where
  first : ∃ name, grammar.rules[0]? = some (.part name .string
    (Lexeme.outsideComments (.alt Lexeme.blockComment Lexeme.slashComment) string))
  second : ∃ name, grammar.rules[1]? = some (.whole name .comment Lexeme.blockComment)
  third : ∃ name, grammar.rules[2]? = some (.whole name .comment Lexeme.slashComment)
  only : grammar.numbersOf .comment = [1, 2]
  strings : string.Takes script.string

namespace TwoPasses

variable (passes : TwoPasses grammar string) (scanned : script.Scanned [] pieces [])

include passes scanned

theorem picked_strings :
    reading.IsPicked pieces (grammar.firstRules 1) fun piece => piece.label = .string := by
  obtain ⟨name, first⟩ := passes.first
  exact scanned.picked_strings first
    (Pattern.takes_blockComment.orElse Pattern.takes_slashComment) passes.strings

/-- Where line comments are clear, the first pass picks the block comments. -/
theorem picks_blocks (clear : LinesClear pieces) (name : String) :
    ∀ pre run, reading.IsGap pieces (grammar.firstRules 1) pre run →
      (Rule.whole name .comment Lexeme.blockComment).Picks reading Piece.IsBlock pre run := by
  have picked := passes.picked_strings scanned
  intro pre run gap
  refine Rule.picks_of_form Pattern.takes_blockComment rfl fun before piece behind split => ?_
  have next := scanned.isNext_gap gap split
  cases label : piece.label with
  | comment =>
    rcases next.block_or_line label with block | ⟨isLine, -⟩
    · exact .inl block
    · refine .inr ⟨isLine.not_isBlock, ?_⟩
      obtain ⟨post, parts⟩ := gap.1
      refine clear (pre ++ before) piece behind post ?_ isLine ?_
      · rw [parts, split]
        simp only [List.append_assoc, List.cons_append]
      · intro other mem
        obtain ⟨a, b, rfl⟩ := List.append_of_mem mem
        have inside : run = (before ++ piece :: a) ++ other :: b := ?_
        · exact picked.not_own gap inside
        rw [split]
        simp only [List.append_assoc, List.cons_append]
  | string => exact absurd label (picked.not_own gap split)
  | code =>
    refine .inr ⟨?_, (Form.absent_orElse.mp (next.absent label).1).1⟩
    rintro ⟨isComment, -⟩
    rw [label] at isComment
    cases isComment

/-- **Where line comments are clear**, the comments are those of the scan. -/
theorem introduces_of_clear (clear : LinesClear pieces) (span : Span) :
    (∃ number ∈ grammar.numbersOf .comment, ∃ token,
      grammar.Introduces (reading.code pieces) number token ∧ token.span = span) ↔
        ∃ pre piece post, pieces = pre ++ piece :: post ∧ reading.kind piece = some .comment ∧
          span = reading.spanOf pre piece := by
  obtain ⟨name, second⟩ := passes.second
  obtain ⟨name', third⟩ := passes.third
  have picked := passes.picked_strings scanned
  have blocks := passes.picks_blocks scanned clear name
  have picked' := picked.succ second blocks
  have first := picked.introduces_iff second blocks span
  have last := picked'.introduces_iff third (scanned.picks_lines picked' name') span
  rw [passes.only]
  simp only [List.mem_cons, List.not_mem_nil, or_false, or_and_right, exists_or, exists_eq_left,
    kind_eq_comment, first, last]
  constructor
  · rintro (⟨pre, piece, post, split, ⟨⟨label, -⟩, -⟩, same⟩ |
      ⟨pre, piece, post, split, ⟨⟨label, -⟩, -⟩, same⟩)
    · exact ⟨pre, piece, post, split, label, same⟩
    · exact ⟨pre, piece, post, split, label, same⟩
  · rintro ⟨pre, piece, post, split, label, same⟩
    have noString : piece.label ≠ .string := by
      rw [label]
      exact Label.noConfusion
    have next := scanned.isNext split
    rw [List.append_nil] at next
    rcases next.block_or_line label with ⟨block, -⟩ | ⟨line, -⟩
    · exact .inl ⟨pre, piece, post, split, ⟨block, noString⟩, same⟩
    · exact .inr ⟨pre, piece, post, split, ⟨line, not_or.mpr ⟨noString, line.not_isBlock⟩⟩, same⟩

/-- **Where a line comment is torn**, some comment is none of the scan. -/
theorem clear_of_introduces (same : ∀ span, (∃ number ∈ grammar.numbersOf .comment, ∃ token,
      grammar.Introduces (reading.code pieces) number token ∧ token.span = span) ↔
        ∃ pre piece post, pieces = pre ++ piece :: post ∧ reading.kind piece = some .comment ∧
          span = reading.spanOf pre piece) : LinesClear pieces := by
  intro pre line run post split isLine noString before behind text nonempty
  cases taken : Form.blockComment.take? (reading.code pre ++ before).getLast?
    (behind ++ reading.code run) with
  | none => rfl
  | some pair =>
    exfalso
    obtain ⟨name, second⟩ := passes.second
    have picked := passes.picked_strings scanned
    have split : pieces = pre ++ line :: (run ++ post) := by
      rw [split, List.append_assoc, List.cons_append]
    have left : reading.IsLeft pieces (grammar.firstRules 1) pre line := by
      refine (picked.isLeft_iff split).mpr ?_
      rw [isLine.1]
      exact Label.noConfusion
    obtain ⟨front, gapBefore, gapBehind, rfl, gap⟩ := left
    obtain ⟨more, rfl⟩ : ∃ more, gapBehind = run ++ more := by
      rw [List.append_cons] at gap split
      rw [List.append_assoc front] at split
      exact picked.exists_more gap split noString
    -- The first pass takes something inside the line comment, so a find covers the place.
    have here : (Form.blockComment.take? (reading.code front ++
        (reading.code gapBefore ++ before)).getLast?
          (behind ++ reading.code (run ++ more))).isSome := by
      rw [← List.append_assoc, ← reading.code_append, reading.code_append run,
        ← List.append_assoc behind]
      exact Form.blockComment.isSome_append (by rw [taken]; rfl) _
    have window : reading.code gapBefore ++ before ++ (behind ++ reading.code (run ++ more)) =
        reading.code (gapBefore ++ line :: (run ++ more)) := by
      have lineText : reading.text line = before ++ behind := text
      simp only [reading.code_append, reading.code_cons, lineText, List.append_assoc]
    obtain ⟨find, mem, low, high⟩ := Rule.exists_mem_findsAt
      (.whole name .comment Lexeme.blockComment) Pattern.takes_blockComment rfl here
    rw [window] at mem
    -- It is a comment of the scan, so it is the line comment.
    obtain ⟨token, introduced, spans⟩ := (picked.isAligned.introduces_iff second find.span).mpr
      ⟨front, _, gap, List.mem_map_of_mem mem⟩
    obtain ⟨pre, piece, post', split', -, found⟩ := (same find.span).mp
      ⟨1, by rw [passes.only]; exact List.mem_cons_self, token, introduced, spans⟩
    have starts : (reading.spanOf (front ++ gapBefore) line).start ≤
        (reading.code front ++ (reading.code gapBefore ++ before)).byteSize := by
      simp only [Reading.spanOf, reading.code_append, Text.byteSize_append]
      omega
    have stops : (reading.code front ++ (reading.code gapBefore ++ before)).byteSize <
        (reading.spanOf (front ++ gapBefore) line).stop := by
      have lineText : reading.text line = before ++ behind := text
      have pos := Text.byteSize_pos nonempty
      rw [reading.spanOf_stop, lineText]
      simp only [reading.code_append, Text.byteSize_append]
      omega
    have begins : find.start = (reading.spanOf pre piece).start := congrArg Span.start found
    have ends : find.stop = (reading.spanOf pre piece).stop := congrArg Span.stop found
    rw [begins] at low
    rw [ends] at high
    obtain ⟨rfl, rfl⟩ := reading.eq_of_overlap split split' (Nat.lt_of_le_of_lt starts high)
      (Nat.lt_of_le_of_lt low stops)
    -- But the first pass takes nothing where the line comment begins.
    obtain ⟨first, inner, rest, parts, takes, start⟩ :=
      Rule.exists_of_mem_findsAt Pattern.takes_blockComment rfl mem
    rw [reading.code_append, reading.code_cons] at parts
    rw [begins, Reading.spanOf, reading.code_append, Text.byteSize_append,
      Text.byteSize_append] at start
    obtain ⟨-, window⟩ := Text.append_inj_of_byteSize parts (Nat.add_left_cancel start)
    have nothing : Form.blockComment.take? (reading.code front ++ first).getLast?
        (reading.text line ++ reading.code (run ++ more)) = none := blockComment_none isLine.2 _
    rw [window, takes] at nothing
    cases nothing

omit scanned in
/-- **Two passes find the comments of the scan** if and only if they leave its line comments whole.
-/
theorem tokensOf_comment_iff (code : Text) :
    grammar.tokensOf .comment code = script.found .comment code ↔
      LinesClear (script.scan none code) := by
  have scanned : script.Scanned [] (script.scan none code) [] := (script.scanned_scan [] code).2
  have equal := reading.tokensOf_eq_piecesOf_iff grammar .comment (script.scan none code)
  rw [script.code_scan] at equal
  refine equal.trans ?_
  have clear := passes.clear_of_introduces scanned
  have introduces := passes.introduces_of_clear scanned
  rw [script.code_scan] at clear introduces
  exact ⟨clear, introduces⟩

end TwoPasses

theorem twoPasses_script (grammar : Grammar) (typed : Bool)
    (rules : grammar.rules = Grammar.scriptRules typed) :
    TwoPasses grammar (.alt Grammar.templateString Lexeme.lineString) where
  first := ⟨"string", by rw [rules]; rfl⟩
  second := ⟨"block_comment", by rw [rules]; rfl⟩
  third := ⟨"line_comment", by rw [rules]; rfl⟩
  only := by
    rw [Grammar.numbersOf, rules]
    cases typed <;> decide
  strings := Pattern.takes_templateString.orElse Pattern.takes_lineString

end Forms

/-- **Comments of JavaScript and TypeScript**: for every source, they are those of the scan if and
only if no block comment that begins inside a line comment is complete before the next string. -/
theorem Grammar.tokensOf_comment_script_iff (code : Text) :
    (javascript.tokensOf .comment code = Forms.script.found .comment code ↔
      Forms.LinesClear (Forms.script.scan none code)) ∧
    (typescript.tokensOf .comment code = Forms.script.found .comment code ↔
      Forms.LinesClear (Forms.script.scan none code)) :=
  ⟨(Forms.twoPasses_script javascript false rfl).tokensOf_comment_iff code,
    (Forms.twoPasses_script typescript true rfl).tokensOf_comment_iff code⟩

/-- A line comment that mentions a block comment. -/
def tornLine : Text := "// a /* b */ c".toList

/-- The block comment is taken out of the line comment, and what is left of the line ends before it.
-/
theorem tornLine_tokens :
    Grammar.javascript.tokensOf .comment tornLine =
      [⟨0, "// a ".toList, .comment⟩, ⟨5, "/* b */".toList, .comment⟩] ∧
    Grammar.typescript.tokensOf .comment tornLine =
      [⟨0, "// a ".toList, .comment⟩, ⟨5, "/* b */".toList, .comment⟩] ∧
    Forms.script.found .comment tornLine = [⟨0, tornLine, .comment⟩] ∧
    Grammar.javascript.tokensOf .comment tornLine ≠ Forms.script.found .comment tornLine ∧
    Grammar.typescript.tokensOf .comment tornLine ≠ Forms.script.found .comment tornLine := by
  refine ⟨?_, ?_, ?_, ?_, ?_⟩ <;> decide +kernel

end Highlight
