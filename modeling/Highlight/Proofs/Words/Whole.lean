import Highlight.Grammar.Builtin
import Highlight.Proofs.Tokenize.Runs
import Highlight.Proofs.Words.Spelling

/-!
# Words of a list

A rule for a list of words wants a word edge on either side of a word. The edge in front is one of
the source, as a search sees what stands before its window. The edge behind is one of the source as
well, as no token claimed before begins inside a word (`Grammar.not_inWord_of_mem_gaps`), so a
window never ends inside one. Whether the rules of a grammar are such is computed
(`Grammar.keepsWords`).
-/

namespace Highlight

open Pattern (Span CharSet)
open Tokenize

/-- Whether a token is a whole word of a source: no word character stands before it or behind it. -/
def Token.StandsAlone (code : Text) (token : Token) : Prop :=
  ∃ front back : Text, code = front ++ (token.text ++ back) ∧ front.byteSize = token.start ∧
    front.getLast?.any Unicode.isWord = false ∧ back.head?.any Unicode.isWord = false

/-- Behind a whole word, no word goes on. -/
theorem Token.StandsAlone.not_inWord {code : Text} {token : Token} (h : token.StandsAlone code) :
    ¬ code.InWord token.stop := by
  obtain ⟨front, back, rfl, start, -, clear⟩ := h
  have stop : (front ++ token.text).byteSize = token.stop := by
    rw [Text.byteSize_append, start]
    rfl
  rw [← List.append_assoc, ← stop, Text.inWord_append, not_and, Bool.not_eq_true]
  exact fun _ => clear

namespace Grammar

variable {grammar : Grammar} {code : Text} {number : Nat} {token : Token} {rule : Rule}

/-- If the tokens of a rule are seen to begin outside words, they do. -/
theorem not_inWord_of_introduces
    (outside : ∀ rule ∈ grammar.rules[number]?, rule.startsOutside = true)
    (introduced : grammar.Introduces code number token) : ¬ code.InWord token.start := by
  obtain ⟨rule, here, gap, -, find, ⟨asked, -, found⟩, span⟩ := introduced.exists_answer
  rw [show token.start = find.start from congrArg Span.start span]
  exact Rule.not_inWord_of_findIn (outside rule here) found

/-- If those of every rule are, no token begins inside a word. -/
theorem not_inWord_of_mem_tokens (outside : ∀ rule ∈ grammar.rules, rule.startsOutside = true)
    (mem : token ∈ (grammar.tokenize code).tokens) : ¬ code.InWord token.start := by
  obtain ⟨number, introduced⟩ := mem_tokenize_iff_introduces.mp mem
  exact not_inWord_of_introduces (fun rule here => outside rule (List.mem_of_getElem? here))
    introduced

/-- And so windows end outside words. -/
theorem not_inWord_of_mem_gaps (outside : ∀ rule ∈ grammar.rules, rule.startsOutside = true)
    {gap : Span} (mem : gap ∈ grammar.gaps code) : ¬ code.InWord gap.stop := by
  rcases gaps_stop gap mem with last | ⟨span, claimed, stop⟩
  · rw [last]
    exact code.not_inWord_byteSize
  · obtain ⟨other, given, rfl⟩ := List.mem_map.mp claimed
    rw [stop]
    exact not_inWord_of_mem_tokens outside given

/-- Whether the lists of words of a grammar are seen to be such that no token divides a word: they
are lists of words in ASCII, and the tokens of the rules before them begin outside words. -/
def keepsWords (grammar : Grammar) : Bool :=
  (List.range grammar.rules.length).all fun number =>
    match grammar.rules[number]?.bind (·.pattern.choice?) with
    | some body => body.isSolid && (grammar.firstRules number).rules.all Rule.startsOutside
    | none => true

variable {name : String} {kind : TokenType} {letter : Char → CharSet} {list : List String}

theorem keepsWords_spec (keeps : grammar.keepsWords = true)
    (here : grammar.rules[number]? = some (.whole name kind (Pattern.wholeWord letter list))) :
    (∀ word ∈ list, word.toList ≠ [] ∧ ∀ w ∈ word.toList, (letter w).holdsLetters = true) ∧
      ∀ rule ∈ (grammar.firstRules number).rules, rule.startsOutside = true := by
  have inside := (List.getElem?_eq_some_iff.mp here).1
  have given := List.all_eq_true.mp keeps number (List.mem_range.mpr inside)
  rw [here, Option.bind_some, Rule.whole, Pattern.choice?_wholeWord] at given
  obtain ⟨solid, outside⟩ := Bool.and_eq_true_iff.mp given
  refine ⟨fun word listed => ?_, List.all_eq_true.mp outside⟩
  exact Pattern.holdsLetters_of_isSolid
    (Pattern.isSolid_of_alts solid _ (List.mem_map_of_mem listed))

/-- **What a rule for whole words introduces** is a word of its list. No word character stands in
front of it, and none behind it unless the window ends there. -/
theorem exists_word_of_introduces
    (lettered : ∀ word ∈ list, word.toList ≠ [] ∧ ∀ w ∈ word.toList, (letter w).holdsLetters = true)
    (here : grammar.rules[number]? = some (.whole name kind (Pattern.wholeWord letter list)))
    (introduced : grammar.Introduces code number token) :
    ∃ front back, code = front ++ (token.text ++ back) ∧ front.byteSize = token.start ∧
      front.getLast?.any Unicode.isWord = false ∧
        (∃ word ∈ list, Pattern.Spells letter word.toList token.text) ∧
          (back.head?.any Unicode.isWord = false ∨ code.InWord token.stop ∧
            ∃ gap ∈ (grammar.firstRules number).gaps code, gap.stop = token.stop) := by
  obtain ⟨rule, here', gap, mem, find, ⟨asked, asks, found⟩, span⟩ := introduced.exists_answer
  obtain rfl := Option.some.inj (here'.symm.trans here)
  obtain ⟨front, back, cursor, m, rfl, size, stands, matched, group, -⟩ :=
    Rule.exists_matchAt?_of_findIn found
  obtain ⟨t, reached, rfl⟩ := Pattern.exists_of_matchAt? matched
  obtain ⟨before, taken, rest, rfl, start, stop, clear, last, clear', word, listed, spelled⟩ :=
    Pattern.exists_parts_of_mem_wholeWord stands lettered reached
  obtain ⟨begins, ends⟩ := Span.mk.inj (span.trans (Option.some.inj group).symm)
  have code : before ++ (taken ++ rest) ++ back = before ++ (taken ++ (rest ++ back)) := by
    simp only [List.append_assoc]
  have stop : (before ++ taken).byteSize = token.stop := stop.trans ends.symm
  obtain rfl : token.text = taken :=
    (tokenize_cut introduced.1).text_eq code (start.trans begins.symm) stop
  refine ⟨before, rest ++ back, code, start.trans begins.symm, clear, ⟨word, listed, spelled⟩, ?_⟩
  cases rest with
  | cons c rest => exact .inl clear'
  | nil =>
    rw [List.append_nil] at size
    rw [asks.stop_eq] at size
    cases beyond : (([] : Text) ++ back).head?.any Unicode.isWord with
    | false => exact .inl rfl
    | true =>
      refine .inr ⟨?_, gap, mem, size.symm.trans stop⟩
      rw [code, ← List.append_assoc, ← stop, Text.inWord_append]
      exact ⟨last, beyond⟩

/-- **A rule for whole words** introduces whole words of its list. -/
theorem standsAlone_of_introduces (keeps : grammar.keepsWords = true)
    (here : grammar.rules[number]? = some (.whole name kind (Pattern.wholeWord letter list)))
    (introduced : grammar.Introduces code number token) :
    token.StandsAlone code ∧ ∃ word ∈ list, Pattern.Spells letter word.toList token.text ∧
      ∀ w ∈ word.toList, (letter w).holdsLetters = true := by
  obtain ⟨lettered, outside⟩ := keepsWords_spec keeps here
  obtain ⟨front, back, split, start, clear, ⟨word, listed, spelled⟩, ends⟩ :=
    exists_word_of_introduces lettered here introduced
  refine ⟨⟨front, back, split, start, clear, ?_⟩, word, listed, spelled, (lettered word listed).2⟩
  -- A word that ends with its window is no part of a longer one, as windows end outside words.
  refine ends.resolve_right ?_
  rintro ⟨inWord, gap, mem, stop⟩
  exact not_inWord_of_mem_gaps outside mem (stop ▸ inWord)

/-- The grammars with lists of words keep words. -/
theorem keepsWords_builtin :
    ∀ grammar ∈ [c, ini, json, lua, php, python, shell], grammar.keepsWords = true := by
  decide +kernel

/-- **Lists of words never highlight part of a word**: in C, INI, JSON, Lua, PHP, Python and shell,
for every source, a token that a rule for whole words introduces has no word character before it or
behind it in the source, and is one of the words of the rule, up to case folding where the rule
disregards case. -/
theorem standsAlone_of_words (code : Text) {grammar : Grammar}
    (given : grammar ∈ [c, ini, json, lua, php, python, shell]) {number : Nat} {token : Token}
    (introduced : grammar.Introduces code number token) (name : String) (kind : TokenType)
    (list : List String) :
    (grammar.rules[number]? = some (.whole name kind (Lexeme.words list)) →
      token.StandsAlone code ∧ ∃ word ∈ list, token.text = word.toList) ∧
    (grammar.rules[number]? = some (.whole name kind (Lexeme.wordsNoCase list)) →
      token.StandsAlone code ∧ ∃ word ∈ list, token.text.folded = Text.folded word.toList) := by
  have keeps := keepsWords_builtin grammar given
  constructor
  · intro here
    rw [Pattern.words_eq] at here
    obtain ⟨alone, word, listed, spelled, -⟩ := standsAlone_of_introduces keeps here introduced
    exact ⟨alone, word, listed, spelled.eq⟩
  · intro here
    rw [Pattern.wordsNoCase_eq] at here
    obtain ⟨alone, word, listed, spelled, letters⟩ :=
      standsAlone_of_introduces keeps here introduced
    exact ⟨alone, word, listed, spelled.folded_eq letters⟩

/-- A keyword that a string touches, and a literal with a long s in it. -/
theorem standsAlone_of_words_touching :
    Token.StandsAlone "'x'is None".toList ⟨"is".toList, 3, .keyword, 1⟩ ∧
      Token.StandsAlone "a = Ye\u017f".toList ⟨"Ye\u017f".toList, 4, .literal, 1⟩ ∧
        ∃ word ∈ ["true", "false", "yes", "no", "on", "off", "null", "none"],
          Text.folded "Ye\u017f".toList = Text.folded word.toList := by
  refine ⟨?_, ?_⟩
  · have introduced : python.Introduces "'x'is None".toList 6 ⟨"is".toList, 3, .keyword, 1⟩ :=
      ⟨by decide +kernel, by decide +kernel⟩
    exact ((standsAlone_of_words _ (by simp) introduced _ _ _).1 rfl).1
  · have introduced : ini.Introduces "a = Ye\u017f".toList 4 ⟨"Ye\u017f".toList, 4, .literal, 1⟩ :=
      ⟨by decide +kernel, by decide +kernel⟩
    exact (standsAlone_of_words _ (by simp) introduced _ _ _).2 rfl

end Grammar

end Highlight
