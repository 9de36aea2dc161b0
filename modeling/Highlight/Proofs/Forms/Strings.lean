import Highlight.Proofs.Forms.Finds
import Highlight.Proofs.Forms.Languages

/-!
# Strings against comments

A grammar that begins with a rule for strings that steps over comments has the strings of one scan
for its strings (`Forms.tokensOf_string`): the rule is given the whole source, and goes through it
as the scan does. If the next rule is the one for comments and there is no other, the comments are
those of the scan too (`Forms.tokensOf_comment`): the rule searches what lies between the strings,
where nothing that looks like a comment is part of a string.
-/

namespace Highlight

open Pattern (Takes)

namespace Forms

variable {forms : Forms} {grammar : Grammar} {pieces pre run : List Piece} {piece : Piece}
  {name name' : String} {comment string : Pattern}

/-- The comments or the strings of a scan, with their places. -/
def found (forms : Forms) (kind : TokenType) (code : Text) : List Classified :=
  reading.piecesOf kind (forms.scan none code)

theorem kind_eq_string : reading.kind piece = some .string ↔ piece.label = .string := by
  show piece.label.kind = _ ↔ _
  cases piece.label <;> decide

theorem kind_eq_comment : reading.kind piece = some .comment ↔ piece.label = .comment := by
  show piece.label.kind = _ ↔ _
  cases piece.label <;> decide

/-- A gap is a run of a scan. -/
theorem Scanned.gap (scanned : forms.Scanned [] pieces [])
    (gap : reading.IsGap pieces grammar pre run) : forms.Scanned (reading.code pre) run [] := by
  obtain ⟨⟨post, rfl⟩, -⟩ := gap
  exact scanned.window

/-- What stands at the place of a piece of a gap. -/
theorem Scanned.isNext_gap (scanned : forms.Scanned [] pieces [])
    (gap : reading.IsGap pieces grammar pre run) {before behind : List Piece}
    (split : run = before ++ piece :: behind) :
    forms.IsNext (reading.code (pre ++ before)).getLast? (piece.text ++ reading.code behind) piece
      (reading.code behind) := by
  have next := (scanned.gap gap).isNext split
  rwa [List.append_nil, ← reading.code_append] at next

/-- What a first rule for strings introduces. -/
theorem Scanned.picks_strings (scanned : forms.Scanned [] pieces [])
    (comments : comment.Takes forms.comment) (strings : string.Takes forms.string) :
    ∀ pre run, reading.IsGap pieces (grammar.firstRules 0) pre run →
      (Rule.part name .string (Lexeme.outsideComments comment string)).Picks reading
        (fun piece => piece.label = .string) pre run :=
  fun _ _ gap => Rule.picks_strings name comments strings (scanned.gap gap)

/-- Behind a first rule for strings, the tokens are the strings of the scan. -/
theorem Scanned.picked_strings (scanned : forms.Scanned [] pieces [])
    (first : grammar.rules[0]? =
      some (.part name .string (Lexeme.outsideComments comment string)))
    (comments : comment.Takes forms.comment) (strings : string.Takes forms.string) :
    reading.IsPicked pieces (grammar.firstRules 1) fun piece => piece.label = .string := by
  have picked := (reading.isPicked_zero pieces grammar).succ first
    (scanned.picks_strings comments strings)
  simpa only [false_or] using picked

/-- **The strings of a grammar whose first rule is for strings** are those of the scan. -/
theorem tokensOf_string (first : grammar.rules[0]? =
      some (.part name .string (Lexeme.outsideComments comment string)))
    (only : grammar.numbersOf .string = [0]) (comments : comment.Takes forms.comment)
    (strings : string.Takes forms.string) (code : Text) :
    grammar.tokensOf .string code = forms.found .string code := by
  have scanned : forms.Scanned [] (forms.scan none code) [] := (forms.scanned_scan [] code).2
  have equal : grammar.tokensOf .string (reading.code (forms.scan none code)) =
      forms.found .string code := by
    refine (reading.tokensOf_eq_piecesOf_iff _ _ _).mpr fun span => ?_
    have introduces := (reading.isPicked_zero _ grammar).introduces_iff first
      (scanned.picks_strings comments strings) span
    simpa only [only, List.mem_singleton, exists_eq_left, kind_eq_string, not_false_eq_true,
      and_true] using introduces
  rwa [forms.code_scan] at equal

/-- Nothing begins at the place of code. -/
theorem IsNext.absent {front rest : Text}
    (h : forms.IsNext front.getLast? (piece.text ++ rest) piece rest)
    (label : piece.label = .code) :
    forms.comment.Absent front piece.text rest ∧ forms.string.Absent front piece.text rest := by
  obtain ⟨none, none', c, text, -⟩ := h.take_code label
  rw [text] at none none' ⊢
  exact ⟨Form.absent_singleton none, Form.absent_singleton none'⟩

/-- Where the strings are left out, a rule for comments picks the comments of the scan. -/
theorem Scanned.picks_comments (scanned : forms.Scanned [] pieces [])
    (picked : reading.IsPicked pieces (grammar.firstRules 1) fun piece => piece.label = .string)
    (comments : comment.Takes forms.comment) :
    ∀ pre run, reading.IsGap pieces (grammar.firstRules 1) pre run →
      (Rule.whole name' .comment comment).Picks reading (fun piece => piece.label = .comment)
        pre run := by
  intro pre run gap
  refine Rule.picks_of_form comments rfl fun before piece behind split => ?_
  have next := scanned.isNext_gap gap split
  cases label : piece.label with
  | comment => exact .inl ⟨rfl, next.take_comment label⟩
  | string => exact absurd label (picked.not_own gap split)
  | code => exact .inr ⟨Label.noConfusion, (next.absent label).1⟩

/-- **The comments of a grammar whose second rule is for comments** are those of the scan, if the
first is for strings and there is no other for comments. -/
theorem tokensOf_comment (first : grammar.rules[0]? =
      some (.part name .string (Lexeme.outsideComments comment string)))
    (second : grammar.rules[1]? = some (.whole name' .comment comment))
    (only : grammar.numbersOf .comment = [1]) (comments : comment.Takes forms.comment)
    (strings : string.Takes forms.string) (code : Text) :
    grammar.tokensOf .comment code = forms.found .comment code := by
  have scanned : forms.Scanned [] (forms.scan none code) [] := (forms.scanned_scan [] code).2
  have picked := scanned.picked_strings first comments strings
  have equal : grammar.tokensOf .comment (reading.code (forms.scan none code)) =
      forms.found .comment code := by
    refine (reading.tokensOf_eq_piecesOf_iff _ _ _).mpr fun span => ?_
    have introduces := picked.introduces_iff second (scanned.picks_comments picked comments) span
    have disjoint (piece : Piece) : (piece.label = .comment ∧ ¬ piece.label = .string) ↔
        piece.label = .comment := by
      refine and_iff_left_of_imp fun label => ?_
      rw [label]
      exact Label.noConfusion
    simpa only [only, List.mem_singleton, exists_eq_left, kind_eq_comment, disjoint] using
      introduces
  rwa [forms.code_scan] at equal

end Forms

/-- **Strings against comments, in one scan**: for every source, the strings of CSS, JavaScript and
TypeScript are those of a scan that takes, at each place from left to right, a complete comment of
the language if one starts there, else a complete string, else one character; and so are the
comments of CSS. -/
theorem Grammar.tokensOf_eq_found (code : Text) :
    css.tokensOf .string code = Forms.css.found .string code ∧
      css.tokensOf .comment code = Forms.css.found .comment code ∧
      javascript.tokensOf .string code = Forms.script.found .string code ∧
      typescript.tokensOf .string code = Forms.script.found .string code := by
  have scriptComments := Pattern.takes_blockComment.orElse Pattern.takes_slashComment
  have scriptStrings := Pattern.takes_templateString.orElse Pattern.takes_lineString
  refine ⟨?_, ?_, ?_, ?_⟩
  · exact Forms.tokensOf_string rfl (by decide) Pattern.takes_blockComment
      Pattern.takes_lineString code
  · exact Forms.tokensOf_comment rfl rfl (by decide) Pattern.takes_blockComment
      Pattern.takes_lineString code
  · exact Forms.tokensOf_string rfl (by decide) scriptComments scriptStrings code
  · exact Forms.tokensOf_string rfl (by decide) scriptComments scriptStrings code

end Highlight
