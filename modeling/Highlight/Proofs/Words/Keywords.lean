import Highlight.Proofs.Tokenize.Gaps
import Highlight.Proofs.Tokenize.Picked
import Highlight.Proofs.Words.Finds
import Highlight.Proofs.Words.Whole

/-!
# Keywords of the script languages

In JavaScript and TypeScript the rule for keywords comes behind one for declared functions, which
asks for no blank between the word `function` and the name: of `functionality` it claims `ality`,
and so leaves a window that ends inside the word (`Grammar.exists_function_of_inWord`). No other
token that comes first begins inside a word, so this is the only way in which a keyword may be part
of a longer word (`Grammar.keyword_standsAlone_or`), and wherever the rule for functions does so,
such a keyword is found (`Grammar.exists_keyword_of_inWord`).
-/

namespace Highlight

open Pattern (Cursor Span CharSet)

namespace Grammar

/-- What stands in front of the name of a declared function. -/
def functionLead : List Pattern :=
  [Pattern.wordEdge] ++ Pattern.chars "function" ++
    [Pattern.zeroOrMore Pattern.blank, Pattern.zeroOrOne (Pattern.char '*'),
      Pattern.zeroOrMore Pattern.blank]

/-- The rule for declared functions. -/
def functionRule : Rule :=
  .part "function_def" .function (Pattern.seqs (functionLead ++ [Pattern.group 1 scriptName]))

/-- What is known of a script language with some keywords: where the rules for functions and for
keywords stand, and that no other token behind which a keyword may end begins inside a word. -/
structure IsScript (grammar : Grammar) (keywords : List String) : Prop where
  functions : grammar.rules[4]? = some functionRule
  words : grammar.rules[5]? = some (.whole "keyword" .keyword (Lexeme.words keywords))
  outside : ∀ rule ∈ (grammar.firstRules 4).rules, rule.startsOutside = true
  only : grammar.numbersOf .keyword = [5]
  others : ∀ number ∈ grammar.numbersOf .function, number = 4 ∨
    ∀ rule ∈ grammar.rules[number]?, rule.startsOutside = true
  lettered : ∀ word ∈ keywords,
    word.toList ≠ [] ∧ ∀ w ∈ word.toList, (CharSet.char w).holdsLetters = true
  listed : "function" ∈ keywords

theorem isScript_javascript : javascript.IsScript scriptKeywords where
  functions := rfl
  words := rfl
  outside := by decide +kernel
  only := by decide +kernel
  others := by decide +kernel
  lettered := by decide +kernel
  listed := by decide

theorem isScript_typescript : typescript.IsScript (scriptKeywords ++ typedKeywords) where
  functions := rfl
  words := rfl
  outside := by decide +kernel
  only := by decide +kernel
  others := by decide +kernel
  lettered := by decide +kernel
  listed := by decide

variable {grammar : Grammar} {keywords : List String} {code : Text} {token : Token}
  {front taken rest : Text}

/-- What leads to a name inside a word is `function` at the beginning of the word. -/
theorem lead_eq_function (fits : (Pattern.seqs functionLead).Matches front taken rest)
    (last : (front ++ taken).getLast?.any Unicode.isWord = true) :
    taken = "function".toList ∧ front.getLast?.any Unicode.isWord = false := by
  obtain ⟨_, _, rfl, ⟨rfl, edge⟩, word⟩ := fits
  have word : (Pattern.seqs ("function".toList.map Pattern.char ++
    [Pattern.zeroOrMore Pattern.blank, Pattern.zeroOrOne (Pattern.char '*'),
      Pattern.zeroOrMore Pattern.blank])).Matches _ _ rest := word
  obtain ⟨later, rfl, behind⟩ := Pattern.matches_chars_append.mp word
  obtain ⟨first, _, rfl, blanks, star, second, rfl, starred, last'⟩ := behind
  have blanks' : (Pattern.star .greedy (Pattern.set .blank)).Matches
    (front ++ [] ++ "function".toList ++ first ++ star) second rest := last'
  have apart : ∀ c ∈ first ++ (star ++ second), Unicode.isWord c = false := by
    have ofBlank {c : Char} (blank : CharSet.blank.contains c = true) : Unicode.isWord c = false :=
      Unicode.not_isWord_of_isWhiteSpace blank
    intro c mem
    rcases List.mem_append.mp mem with mem | mem
    · exact ofBlank (Pattern.matches_star_set.mp blanks c mem)
    rcases List.mem_append.mp mem with mem | mem
    · rcases Pattern.matches_opt.mp starred with one | rfl
      · obtain rfl := Pattern.matches_char.mp one
        obtain rfl := List.mem_singleton.mp mem
        decide
      · cases mem
    · exact ofBlank (Pattern.matches_star_set.mp blanks' c mem)
  have none : first ++ (star ++ second) = [] := by
    by_contra some
    rw [List.nil_append, ← List.append_assoc] at last
    exact absurd ((Text.any_getLast?_append some apart _).symm.trans last) Bool.noConfusion
  rw [none] at edge ⊢
  refine ⟨rfl, ?_⟩
  have differ : front.getLast?.any Unicode.isWord ≠ true := bne_iff_ne.mp edge
  exact Bool.eq_false_iff.mpr differ

/-- **What the rule for functions claims inside a word** stands behind `function`, with which the
word begins, and no token so far reaches into that. -/
theorem exists_function_of_inWord {number : Nat} (here : grammar.rules[number]? = some functionRule)
    (introduced : grammar.Introduces code number token) (inWord : code.InWord token.start) :
    ∃ front back, code = front ++ ("function".toList ++ back) ∧
      (front ++ "function".toList).byteSize = token.start ∧
        front.getLast?.any Unicode.isWord = false ∧
          ∀ other ∈ ((grammar.firstRules (number + 1)).tokenize code).tokens,
            other.span.Apart ⟨front.byteSize, (front ++ "function".toList).byteSize⟩ := by
  obtain ⟨outer, before, taken, rest, last, m, rfl, -, matched, whole, group, others⟩ :=
    introduced.exists_match here
  obtain ⟨lead, name, later, parts, fits, -, span, wide⟩ :=
    Pattern.exists_matches_of_group (by decide) matched group
  have start : (outer ++ before ++ lead).byteSize = token.start := (congrArg Span.start span).symm
  have split : outer ++ (before ++ (taken ++ rest)) ++ last =
      (outer ++ before ++ lead) ++ (name ++ later ++ last) := by
    rw [parts]
    simp only [List.append_assoc]
  rw [split, ← start, Text.inWord_append] at inWord
  obtain ⟨rfl, clear⟩ := lead_eq_function fits inWord.1
  refine ⟨outer ++ before, name ++ later ++ last, ?_, start, clear, fun other given => ?_⟩
  · rw [split, List.append_assoc (outer ++ before)]
  rcases others other given with rfl | apart
  · exact .inr (Nat.le_of_eq start)
  · rw [wide] at apart
    have nonempty := (tokenize_cut introduced.1).start_lt_stop
    refine apart.imp_right fun behind => Nat.le_trans ?_ behind
    exact Nat.le_trans (Nat.le_of_eq start) (Nat.le_of_lt nonempty)

/-- **Wherever the rule for functions divides a word**, its beginning becomes a keyword. -/
theorem IsScript.exists_keyword_of_inWord (script : grammar.IsScript keywords)
    (introduced : grammar.Introduces code 4 token) (inWord : code.InWord token.start) :
    ∃ other, grammar.Introduces code 5 other ∧ other.stop = token.start := by
  obtain ⟨front, back, split, start, clear, apart⟩ :=
    exists_function_of_inWord script.functions introduced inWord
  have ends : ∃ token ∈ ((grammar.firstRules 5).tokenize code).tokens,
      token.start = (front ++ "function".toList).byteSize := ⟨token, introduced.1, start.symm⟩
  obtain ⟨other, introduced', span⟩ := exists_introduces_word script.words script.lettered
    script.listed split clear apart (.inr ends)
  exact ⟨other, introduced', (congrArg Span.stop span).trans start⟩

/-- **A keyword is a whole word**, or it is `function` and what follows it in the same word was
claimed by the rule for functions. -/
theorem IsScript.keyword_standsAlone_or (script : grammar.IsScript keywords)
    (introduced : grammar.Introduces code 5 token) : token.StandsAlone code ∨
      token.text = "function".toList ∧ ∃ other, grammar.Introduces code 4 other ∧
        other.start = token.stop ∧ code.InWord other.start := by
  obtain ⟨front, back, split, start, clear, ⟨word, listed, spelled⟩, ends⟩ :=
    exists_word_of_introduces script.lettered script.words introduced
  rcases ends with alone | ⟨inWord, gap, mem, stop⟩
  · exact .inl ⟨front, back, split, start, clear, alone⟩
  refine .inr ?_
  rcases Tokenize.gaps_stop gap mem with last | ⟨span, claimed, begins⟩
  · rw [← stop, last] at inWord
    exact absurd inWord code.not_inWord_byteSize
  obtain ⟨other, given, rfl⟩ := List.mem_map.mp claimed
  have start' : other.start = token.stop := begins.symm.trans stop
  rw [← start'] at inWord
  rcases mem_firstRules_succ.mp given with old | new
  · exact absurd inWord (not_inWord_of_mem_tokens script.outside old)
  refine ⟨?_, other, new, start', inWord⟩
  obtain ⟨front', back', split', start'', clear', -⟩ :=
    exists_function_of_inWord script.functions new inWord
  have same : front ++ token.text = front' ++ "function".toList := by
    have parts : (front ++ token.text) ++ back = (front' ++ "function".toList) ++ back' := by
      rw [List.append_assoc, List.append_assoc, ← split, split']
    refine (Text.append_inj_of_byteSize parts ?_).1
    rw [start'', start', Text.byteSize_append, start]
    rfl
  refine (Text.eq_of_last_runs same (spelled.isWord (script.lettered word listed).2) ?_ clear
    clear').2
  decide

/-- **Keywords are whole words up to `function`**: for every source in JavaScript or TypeScript, a
keyword that is part of a longer word is `function` at its beginning. There is no such keyword if
and only if no name of a function begins inside a word. -/
theorem standsAlone_keywords_iff (code : Text) {grammar : Grammar}
    (given : grammar ∈ [javascript, typescript]) :
    (∀ token ∈ (grammar.tokenize code).tokens, token.kind = .keyword →
      token.StandsAlone code ∨ token.text = "function".toList) ∧
    ((∀ token ∈ (grammar.tokenize code).tokens, token.kind = .keyword → token.StandsAlone code) ↔
      ∀ token ∈ (grammar.tokenize code).tokens, token.kind = .function →
        ¬ code.InWord token.start) := by
  obtain ⟨keywords, script⟩ : ∃ keywords, grammar.IsScript keywords := by
    rcases List.mem_cons.mp given with rfl | given
    · exact ⟨_, isScript_javascript⟩
    · obtain rfl := List.mem_singleton.mp given
      exact ⟨_, isScript_typescript⟩
  have keyword {token : Token} : (token ∈ (grammar.tokenize code).tokens ∧
      token.kind = .keyword) ↔ grammar.Introduces code 5 token := by
    simp [introduces_of_kind_iff, script.only]
  refine ⟨fun token mem kind => ?_, fun alone token mem kind inWord => ?_,
    fun apart token mem kind => ?_⟩
  · exact (script.keyword_standsAlone_or (keyword.mp ⟨mem, kind⟩)).imp_right And.left
  · obtain ⟨number, numbered, introduced⟩ := introduces_of_kind_iff.mp ⟨mem, kind⟩
    rcases script.others number numbered with rfl | outside
    · obtain ⟨other, introduced', stop⟩ := script.exists_keyword_of_inWord introduced inWord
      obtain ⟨mem', kind'⟩ := keyword.mpr introduced'
      exact (alone other mem' kind').not_inWord (stop ▸ inWord)
    · exact not_inWord_of_introduces outside introduced inWord
  · rcases script.keyword_standsAlone_or (keyword.mp ⟨mem, kind⟩) with
      alone | ⟨-, other, introduced, -, inWord⟩
    · exact alone
    · exact absurd inWord (apart other (mem_tokenize_iff_introduces.mpr ⟨4, introduced⟩)
        (introduced.kind_eq script.functions))

/-- A declared function, and the two keywords in front of its name. -/
theorem standsAlone_keywords_iff_declared :
    (⟨"async".toList, 0, .keyword, 1⟩ : Token).StandsAlone "async function go() {}".toList ∧
      (⟨"function".toList, 6, .keyword, 2⟩ : Token).StandsAlone
        "async function go() {}".toList := by
  have tokens : (javascript.tokenize "async function go() {}".toList).tokens =
      [⟨"async".toList, 0, .keyword, 1⟩, ⟨"function".toList, 6, .keyword, 2⟩,
        ⟨"go".toList, 15, .function, 0⟩] := by
    decide +kernel
  have outside : ¬ Text.InWord "async function go() {}".toList 15 := by
    rw [show "async function go() {}".toList =
      "async function ".toList ++ "go() {}".toList from rfl]
    exact fun inWord => absurd (Text.inWord_append.mp inWord).1 (by decide)
  have apart : ∀ token ∈ (javascript.tokenize "async function go() {}".toList).tokens,
      token.kind = .function → ¬ Text.InWord "async function go() {}".toList token.start := by
    rw [tokens]
    exact List.forall_mem_cons.mpr ⟨nofun, List.forall_mem_cons.mpr ⟨nofun,
      List.forall_mem_singleton.mpr fun _ => outside⟩⟩
  have given : javascript ∈ [javascript, typescript] := List.mem_cons_self
  have alone := (standsAlone_keywords_iff "async function go() {}".toList given).2.mpr apart
  rw [tokens] at alone
  exact ⟨alone _ List.mem_cons_self rfl, alone _ (List.mem_cons_of_mem _ List.mem_cons_self) rfl⟩

/-- A name that begins with `function` is divided: its beginning is a keyword. -/
theorem divided_not_standsAlone : ∃ token ∈ (javascript.tokenize "functionality".toList).tokens,
    token.kind = .keyword ∧ ¬ token.StandsAlone "functionality".toList := by
  refine ⟨⟨"function".toList, 0, .keyword, 1⟩, by decide +kernel, rfl, fun alone => ?_⟩
  exact alone.not_inWord ⟨"function".toList, "ality".toList, rfl, rfl, by decide, by decide⟩

end Grammar

end Highlight
