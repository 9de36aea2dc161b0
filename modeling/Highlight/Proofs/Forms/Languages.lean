import Highlight.Grammar.Css
import Highlight.Grammar.Lua
import Highlight.Grammar.Php
import Highlight.Grammar.Python
import Highlight.Grammar.Script
import Highlight.Grammar.C
import Highlight.Proofs.Forms.Match
import Highlight.Proofs.Forms.Scan

/-!
# Comments and strings of the built-in languages

What a comment is and what a string is in each of the languages, as forms (`Forms.css` and so on).
The patterns of their rules take these forms.
-/

namespace Highlight

open Pattern

namespace Form

/-- From `/*` to the next `*/`. -/
def blockComment : Form := enclosed ['/', '*'] ['*', '/'] (by decide)

/-- From `//` to the end of the line. -/
def slashComment : Form := line ['/', '/'] (by decide)

/-- From `#` to the end of the line. -/
def hashComment : Form := line ['#'] (by decide)

/-- A string in single or double quotes on one line. -/
def lineString : Form := (quoted '\'' false).orElse (quoted '"' false)

/-- A string in single or double quotes on any number of lines. -/
def openString : Form := (quoted '\'' true).orElse (quoted '"' true)

/-- A string between backticks, on any number of lines. -/
def templateString : Form := quoted '\x60' true

/-- Whether a letter may stand in front of a string. -/
def isPreludeLetter (c : Char) : Bool := "rRbBuUfF".toList.contains c

/-- A form with two letters or one in front of it that start a word, or none. -/
def prelude (form : Form) : Form :=
  (((form.behind isPreludeLetter).orElse form).behind isPreludeLetter).atWord.orElse form

/-- A string between three quotes. -/
def tripleString : Form :=
  (enclosed ['"', '"', '"'] ['"', '"', '"'] (by decide)).orElse
    (enclosed ['\'', '\'', '\''] ['\'', '\'', '\''] (by decide))

/-- A comment between long brackets of either width. -/
def longComment : Form :=
  (enclosed "--[[".toList "]]".toList (by decide)).orElse
    (enclosed "--[=[".toList "]=]".toList (by decide))

/-- From `--` to the end of the line. -/
def dashComment : Form := line ['-', '-'] (by decide)

/-- A string between long brackets of either width. -/
def longString : Form :=
  (enclosed "[[".toList "]]".toList (by decide)).orElse
    (enclosed "[=[".toList "]=]".toList (by decide))

end Form

namespace Forms

/-- Comments and strings of CSS. -/
def css : Forms := ⟨.blockComment, .lineString⟩

/-- Comments and strings of JavaScript and TypeScript. -/
def script : Forms :=
  ⟨Form.blockComment.orElse .slashComment, Form.templateString.orElse .lineString⟩

/-- Comments and strings of C. -/
def c : Forms := ⟨Form.blockComment.orElse .slashComment, .lineString⟩

/-- Comments and strings of PHP. -/
def php : Forms :=
  ⟨Form.blockComment.orElse (Form.slashComment.orElse .hashComment), .openString⟩

/-- Comments and strings of Python. -/
def python : Forms := ⟨.hashComment, Form.tripleString.prelude.orElse Form.lineString.prelude⟩

/-- Comments and strings of Lua. -/
def lua : Forms :=
  ⟨Form.longComment.orElse .dashComment, Form.longString.orElse .lineString⟩

end Forms

namespace Pattern

variable {p q : Pattern} {form : Form}

theorem takes_blockComment : Lexeme.blockComment.Takes .blockComment :=
  takes_enclosed ['/', '*'] ['*', '/'] (by decide)

theorem takes_slashComment : Lexeme.slashComment.Takes .slashComment :=
  takes_line ['/', '/'] (by decide)

theorem takes_hashComment : Lexeme.hashComment.Takes .hashComment := takes_line ['#'] (by decide)

theorem takes_phpLineComment :
    Grammar.phpLineComment.Takes (Form.slashComment.orElse .hashComment) := by
  refine (takes_slashComment.orElse takes_hashComment).congr ?_
  intro s
  exact (outcomes_alt_seq _ _ _ s).trans (congrArg (· ++ _) (outcomes_seq_assoc _ _ _ s))

/-- The sets of characters of a string that stays on its line. -/
theorem quotes_line (quote : Char) (chars : String) (spelled : chars.toList = [quote, '\\', '\n'])
    (noBackslash : quote ≠ '\\') (noBreak : quote ≠ '\n') :
    Quotes quote false .notNewline (.noneOf chars) where
  escaped c := by simp [CharSet.notNewline, CharSet.contains, CharSet.contains_char, bne]
  plain c := by
    simp only [CharSet.noneOf, CharSet.contains, CharSet.contains_oneOf, spelled,
      List.contains_cons, List.contains_nil, Bool.or_false, Bool.not_or, Bool.false_or, bne,
      Bool.and_assoc]
  noBackslash := noBackslash
  noBreak := noBreak

/-- The sets of characters of a string on any number of lines. -/
theorem quotes_open (quote : Char) (chars : String) (spelled : chars.toList = [quote, '\\'])
    (noBackslash : quote ≠ '\\') (noBreak : quote ≠ '\n') :
    Quotes quote true .all (.noneOf chars) where
  escaped c := by simp [CharSet.all, CharSet.contains]
  plain c := by
    simp only [CharSet.noneOf, CharSet.contains, CharSet.contains_oneOf, spelled,
      List.contains_cons, List.contains_nil, Bool.or_false, Bool.not_or, Bool.true_or, bne,
      Bool.and_true]
  noBackslash := noBackslash
  noBreak := noBreak

theorem takes_lineString : Lexeme.lineString.Takes .lineString :=
  Takes.orElse (takes_quoted (quotes_line '\'' "'\\\n" (by decide) (by decide) (by decide)))
    (takes_quoted (quotes_line '"' "\"\\\n" (by decide) (by decide) (by decide)))

theorem takes_openString : Lexeme.openString.Takes .openString :=
  Takes.orElse (takes_quoted (quotes_open '\'' "'\\" (by decide) (by decide) (by decide)))
    (takes_quoted (quotes_open '"' "\"\\" (by decide) (by decide) (by decide)))

theorem takes_templateString : Grammar.templateString.Takes .templateString :=
  takes_quoted (quotes_open '\x60' "\x60\\" (by decide) (by decide) (by decide))

theorem takes_tripleString :
    (alt (Grammar.tripleQuoted '"') (Grammar.tripleQuoted '\'')).Takes .tripleString :=
  (takes_enclosed ['"', '"', '"'] ['"', '"', '"'] (by decide)).orElse
    (takes_enclosed ['\'', '\'', '\''] ['\'', '\'', '\''] (by decide))

theorem takes_prelude (h : q.Takes form) : (seq Grammar.stringPrelude q).Takes form.prelude := by
  let letter := oneOf "rRbBuUfF"
  have contains : ∀ c, (CharSet.oneOf "rRbBuUfF").contains c = Form.isPreludeLetter c :=
    CharSet.contains_oneOf "rRbBuUfF"
  have word : (seq letter (alt (seq letter q) q)).Begins Unicode.isWord := by
    refine ((begins_set _).seq _).mono ?_
    intro c noWord
    cases inside : (CharSet.oneOf "rRbBuUfF").contains c with
    | false => rfl
    | true =>
      rw [contains, Form.isPreludeLetter, List.contains_iff_mem] at inside
      have letters : "rRbBuUfF".toList.all Unicode.isWord = true := by decide
      rw [List.all_eq_true.mp letters c inside] at noWord
      cases noWord
  have letters : (seq letter (alt (seq letter q) q)).Takes
      (((form.behind Form.isPreludeLetter).orElse form).behind Form.isPreludeLetter) :=
    ((h.behind contains).orElse h).behind contains
  refine ((letters.atWord word).orElse h).congr ?_
  intro s
  simp only [Grammar.stringPrelude, zeroOrOne, opt, between, List.replicate, List.cons_append,
    List.nil_append, seqs, upTo, Nat.reduceSub, outcomes, List.flatMap_append,
    List.flatMap_assoc, List.flatMap_cons, List.flatMap_nil,
    List.append_nil, letter]

theorem takes_luaEnclosed (opening closing : String) (some : opening.toList ≠ []) :
    (Grammar.enclosed opening closing).Takes (.enclosed opening.toList closing.toList some) := by
  have taken := takes_enclosed opening.toList closing.toList some
  rwa [Grammar.enclosed, chars, chars, List.append_assoc]

theorem takes_longComment :
    (alt (Grammar.enclosed "--[[" "]]") (Grammar.enclosed "--[=[" "]=]")).Takes .longComment :=
  (takes_luaEnclosed "--[[" "]]" (by decide)).orElse (takes_luaEnclosed "--[=[" "]=]" (by decide))

theorem takes_longString :
    (alt (Grammar.enclosed "[[" "]]") (Grammar.enclosed "[=[" "]=]")).Takes .longString :=
  (takes_luaEnclosed "[[" "]]" (by decide)).orElse (takes_luaEnclosed "[=[" "]=]" (by decide))

end Pattern

end Highlight
