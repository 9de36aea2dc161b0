import Highlight.Proofs.Forms.Languages
import Highlight.Proofs.Shell.Rules
import Highlight.Proofs.Words.Whole

/-!
# What the rules before those for commands claim

A name that no token of an earlier rule touches is left to the rules for commands, and so is what
stands in front of it, from its mark on. A first line, a string or a comment ends with a quote, or
in front of a line feed, a quote or a number sign (`Shell.exists_edge`), none of which stand there.
A keyword is a whole word, which no wrapper is (`Shell.not_holdsKeyword_wrapper`); in a name it may
stand alone next to a hyphen (`Shell.HoldsKeyword`), and where it does it is found
(`Shell.exists_keyword_of_holdsKeyword`). And what the rule for wrapped commands claims stands
behind a wrapper, not at the place of a command (`Shell.wrapped_apart`).
-/

namespace Highlight

open Pattern (Span State CharSet)

/-- **Stretches of a text that have something in common** have a character in common. -/
theorem Text.exists_common {front part back front' part' back' : Text} (some : part ≠ [])
    (some' : part' ≠ []) (same : front ++ (part ++ back) = front' ++ (part' ++ back'))
    (common : ¬ Span.Apart ⟨front.byteSize, (front ++ part).byteSize⟩
      ⟨front'.byteSize, (front' ++ part').byteSize⟩) : ∃ c ∈ part, c ∈ part' := by
  have first {front part back front' part' back' : Text} (some' : part' ≠ [])
      (same : front ++ (part ++ back) = front' ++ (part' ++ back'))
      (low : front.byteSize ≤ front'.byteSize) (high : front'.byteSize < (front ++ part).byteSize) :
      ∃ c ∈ part, c ∈ part' := by
    obtain ⟨middle, rfl, rest⟩ := exists_middle same low
    rw [byteSize_append, byteSize_append front] at high
    obtain ⟨more, rfl, later⟩ :=
      exists_middle rest.symm (Nat.le_of_lt (Nat.lt_of_add_lt_add_left high))
    cases more with
    | nil =>
      rw [List.append_nil] at high
      exact absurd high (Nat.lt_irrefl _)
    | cons c more =>
      obtain ⟨d, part', rfl⟩ := List.exists_cons_of_ne_nil some'
      obtain ⟨rfl, -⟩ := List.cons.inj later
      exact ⟨d, List.mem_append_right middle List.mem_cons_self, List.mem_cons_self⟩
  simp only [Span.Apart, Span.Precedes, not_or, Nat.not_le] at common
  rcases Nat.le_total front.byteSize front'.byteSize with low | low
  · exact first some' same low common.1
  · obtain ⟨c, mem, mem'⟩ := first some same.symm low common.2
    exact ⟨c, mem', mem⟩

/-- Whether a token has nothing of a text that stands behind another. -/
def Token.IsApart (token : Token) (front text : Text) : Prop :=
  token.span.Apart ⟨front.byteSize, (front ++ text).byteSize⟩

instance (token : Token) (front text : Text) : Decidable (token.IsApart front text) :=
  inferInstanceAs (Decidable (_ ≤ _ ∨ _ ≤ _))

/-- What is apart from two texts in a row is apart from both together. -/
theorem Token.IsApart.append {token : Token} {code front text more : Text}
    (cut : token.CutFrom code) (first : text ≠ [] → token.IsApart front text)
    (second : token.IsApart (front ++ text) more) : token.IsApart front (text ++ more) := by
  have nonempty := cut.start_lt_stop
  by_cases some : text = []
  · rw [some, List.append_nil] at second
    rwa [some]
  · have first := first some
    unfold IsApart Span.Apart Span.Precedes at *
    rw [List.append_assoc] at second
    dsimp only at *
    omega

namespace Shell

open Grammar (shell)

variable {code front lead name back before blanks : Text} {token : Token} {number : Nat}
  {wrapper : String}

/-! ## First lines, strings and comments -/

/-- Whether a character may begin a first line, a string or a comment, or end one, or stand behind
one. -/
def isEdge (c : Char) : Bool := c == '\n' || c == '#' || c == '\'' || c == '"'

/-- Whether what a pattern matches begins with such a character, and ends with one or in front of
one. -/
def IsBounded (p : Pattern) : Prop :=
  ∀ {front text rest : Text} {m : Pattern.Match}, p.Matches front text rest →
    p.matchAt? (Pattern.Cursor.between front (text ++ rest)) = some m →
    m.whole.stop = (front ++ text).byteSize → (∀ c ∈ text.head?, isEdge c = true) ∧
      (text.getLast?.any isEdge = true ∨ ∀ c ∈ rest.head?, isEdge c = true)

/-- The pattern of a first line that names an interpreter. -/
def shebang : Pattern :=
  Pattern.seqs [Pattern.lineStart, Pattern.char '#', Pattern.char '!',
    Pattern.zeroOrMore Pattern.dot, Pattern.lineEnd]

theorem isBounded_shebang : IsBounded shebang := by
  rintro front _ rest m ⟨_, _, rfl, ⟨rfl, -⟩, _, _, rfl, first, _, _, rfl, -, body, _, rfl, -, rfl,
    ends⟩ - -
  obtain rfl := Pattern.matches_char.mp first
  refine ⟨fun c mem => ?_, .inr fun c mem => ?_⟩
  · cases mem
    rfl
  · rw [Option.mem_def.mp mem] at ends
    simp [Pattern.Assertion.holds] at ends
    rw [ends]
    rfl

theorem bounded_quoted {quote : Char} {escaped plain : Pattern} {front text rest : Text}
    (fits : (Lexeme.quoted quote escaped plain).Matches front text rest) :
    ∃ body, text = quote :: (body ++ [quote]) := by
  obtain ⟨_, _, rfl, first, body, _, rfl, -, last⟩ := fits
  obtain rfl := Pattern.matches_char.mp first
  obtain rfl := Pattern.matches_char.mp last
  exact ⟨body, rfl⟩

theorem isBounded_string : IsBounded Lexeme.openString := by
  intro front text rest m fits _ _
  obtain ⟨quote, edge, body, rfl⟩ : ∃ quote, isEdge quote = true ∧
      ∃ body, text = quote :: (body ++ [quote]) := by
    rcases fits with single | double
    · exact ⟨'\'', rfl, bounded_quoted single⟩
    · exact ⟨'"', rfl, bounded_quoted double⟩
  refine ⟨fun c mem => ?_, .inl ?_⟩
  · cases mem
    exact edge
  · rw [← List.cons_append, List.getLast?_concat]
    exact edge

theorem isBounded_comment : IsBounded Lexeme.hashComment := by
  intro front text rest m fits matched stop
  obtain ⟨_, body, rfl, first, -⟩ := fits
  obtain rfl := Pattern.matches_char.mp first
  refine ⟨fun c mem => ?_, .inr fun c mem => ?_⟩
  · cases mem
    rfl
  cases takes : Form.hashComment.take? front.getLast? ([ '#'] ++ body ++ rest) with
  | none =>
    rw [Pattern.matchAt?_of_outcomes (Pattern.takes_hashComment.outcomes_nil takes)] at matched
    cases matched
  | some pair =>
    obtain ⟨taken, rest'⟩ := pair
    have found := (Pattern.takes_hashComment.prefers takes).matchAt?
    obtain rfl := Option.some.inj (matched.symm.trans found)
    obtain ⟨split, -⟩ := Form.hashComment.taken takes
    have size := stop.symm
    dsimp only at size
    rw [Text.byteSize_append, Text.byteSize_append front] at size
    obtain ⟨-, rfl⟩ := Text.append_inj_of_byteSize split (Nat.add_left_cancel size)
    rw [Form.head_of_line _ takes c mem]
    rfl

/-- The first three rules. -/
theorem exists_bounded (early : number < 3) : ∃ rule, shell.rules[number]? = some rule ∧
    rule.group = 0 ∧ IsBounded rule.pattern := by
  match number, early with
  | 0, _ => exact ⟨_, rfl, rfl, isBounded_shebang⟩
  | 1, _ => exact ⟨_, rfl, rfl, isBounded_string⟩
  | 2, _ => exact ⟨_, rfl, rfl, isBounded_comment⟩

theorem head_isEdge (early : number < 3) (introduced : shell.Introduces code number token) :
    ∀ c ∈ token.text.head?, isEdge c = true := by
  obtain ⟨rule, here, whole, bounded⟩ := exists_bounded early
  obtain ⟨outer, before, rest, last, m, rfl, start, -, matched, same, fits⟩ :=
    introduced.exists_whole here whole
  refine (bounded fits matched ?_).1
  rw [same, Text.byteSize_append, start]
  rfl

/-- **Where a first line, a string or a comment ends.** -/
theorem exists_edge (early : number < 3) (introduced : shell.Introduces code number token) :
    ∃ front back, code = front ++ (token.text ++ back) ∧ front.byteSize = token.start ∧
      (token.text.getLast?.any isEdge = true ∨ ∀ c ∈ back.head?, isEdge c = true) := by
  obtain ⟨rule, here, whole, bounded⟩ := exists_bounded early
  obtain ⟨outer, before, rest, last, m, rfl, start, leaves, matched, same, fits⟩ :=
    introduced.exists_whole here whole
  refine ⟨outer ++ before, rest ++ last, by simp only [List.append_assoc], start, ?_⟩
  have stop : m.whole.stop = (outer ++ before ++ token.text).byteSize := by
    rw [same, Text.byteSize_append, start]
    rfl
  refine (bounded fits matched stop).2.imp_right fun ends c mem => ?_
  cases rest with
  | cons d rest => exact ends c mem
  | nil =>
    -- The window ends here, so another token begins.
    obtain ⟨other, given, first⟩ := leaves.exists_token mem
    obtain ⟨number', lt, introduced'⟩ := Grammar.exists_introduces_lt given
    exact head_isEdge (Nat.lt_trans lt early) introduced' c first

/-- **First lines, strings and comments** do not reach into what stands in front of a name from
which they are apart. -/
theorem early_apart (early : number < 3) (introduced : shell.Introduces code number token)
    (split : code = before ++ (lead ++ (name ++ back))) (some : name ≠ [])
    (quiet : ∀ c ∈ lead ++ name, isEdge c = false)
    (apart : token.IsApart (before ++ lead) name) : token.IsApart before lead := by
  by_contra reaches
  obtain ⟨front, behind, split', start, ends⟩ := exists_edge early introduced
  have stop : token.span.stop = (front ++ token.text).byteSize := by
    rw [Text.byteSize_append, start]
    rfl
  have nonempty := (Grammar.tokenize_cut introduced.1).start_lt_stop
  simp only [Token.IsApart, Span.Apart, Span.Precedes, not_or, Nat.not_le] at apart reaches
  have longer := Text.byteSize_append (before ++ lead) name
  have high : (front ++ token.text).byteSize ≤ (before ++ lead).byteSize := by omega
  have low : before.byteSize < (front ++ token.text).byteSize := by omega
  rw [split, ← List.append_assoc front] at split'
  obtain ⟨first, same, rest⟩ := Text.exists_middle split' (Nat.le_of_lt low)
  rw [same, Text.byteSize_append, Text.byteSize_append before] at high
  rw [same, Text.byteSize_append] at low
  obtain ⟨more, rfl, rfl⟩ := Text.exists_middle rest.symm (Nat.le_of_add_le_add_left high)
  have some' : first ≠ [] := by
    rintro rfl
    exact absurd low (Nat.lt_irrefl _)
  rcases ends with last | next
  · have cut := (Grammar.tokenize_cut introduced.1).nonempty
    have shared : token.text.getLast? = (before ++ first).getLast? := by
      rw [← same, List.getLast?_append_of_ne_nil _ cut]
    rw [shared, Text.any_getLast?_append some'
      (fun c mem => quiet c (by simp [mem])) before] at last
    cases last
  · obtain ⟨c, text, spelled⟩ := List.exists_cons_of_ne_nil
      (List.append_ne_nil_of_right_ne_nil more some)
    have edge := next c (by rw [← List.append_assoc, spelled]; rfl)
    have mem : c ∈ first ++ more ++ name := by
      rw [List.append_assoc, spelled]
      exact List.mem_append_right first List.mem_cons_self
    exact absurd (edge.symm.trans (quiet c mem)) (by decide)

/-! ## Keywords -/

/-- **What is made of characters of names** has no part in what is not. -/
theorem apart_of_outer (cut : token.CutFrom code)
    (split : code = front ++ (lead ++ back)) (some : lead ≠ [])
    (all : ∀ c ∈ token.text, isNameChar c = true) (outer : ∀ c ∈ lead, isNameChar c = false) :
    token.IsApart front lead := by
  by_contra common
  obtain ⟨before, after, split', start, -⟩ := Text.slice?_eq_some_iff.mp cut.slice
  have span : token.span = ⟨before.byteSize, (before ++ token.text).byteSize⟩ := by
    rw [Text.byteSize_append, start]
    rfl
  rw [Token.IsApart, span] at common
  obtain ⟨c, mem, mem'⟩ := Text.exists_common cut.nonempty some (split'.symm.trans split) common
  exact absurd ((all c mem).symm.trans (outer c mem')) (by decide)

/-- A token that is made of characters of names and is not apart from a whole run of them lies in
it. -/
theorem exists_inside (cut : token.CutFrom code) (split : code = front ++ (name ++ back))
    (all : ∀ c ∈ token.text, isNameChar c = true) (clear : front.getLast?.any isNameChar = false)
    (ends : back.head?.any isNameChar = false)
    (common : ¬ token.IsApart front name) :
    ∃ first last, name = first ++ (token.text ++ last) ∧
      code = (front ++ first) ++ (token.text ++ (last ++ back)) ∧
        (front ++ first).byteSize = token.start := by
  obtain ⟨before, after, split', start, -⟩ := Text.slice?_eq_some_iff.mp cut.slice
  have stop : token.span.stop = (before ++ token.text).byteSize := by
    rw [Text.byteSize_append, start]
    rfl
  simp only [Token.IsApart, Span.Apart, Span.Precedes, not_or, Nat.not_le] at common
  have begins : before.byteSize < (front ++ name).byteSize := start ▸ common.2
  have reaches : front.byteSize < (before ++ token.text).byteSize := stop ▸ common.1
  obtain ⟨first, last, parts, rfl, rfl⟩ :=
    Text.exists_inside_run (split.symm.trans split') all clear ends begins reaches
  exact ⟨first, last, parts, split', start⟩

/-- Whether a text holds a keyword that stands alone in it, in front of another text. -/
def HoldsKeyword (name back : Text) : Prop :=
  ∃ keyword ∈ keywords, ∃ first last, name = first ++ (keyword.toList ++ last) ∧
    first.getLast?.any Unicode.isWord = false ∧ (last ++ back).head?.any Unicode.isWord = false

/-- The rule for keywords. -/
theorem getElem_keywordRule : shell.rules[3]? =
    some (.whole "keyword" .keyword (Pattern.wholeWord .char keywords)) := rfl

/-- What the rule for keywords introduces is a keyword, and a whole word. -/
theorem keyword_spec (introduced : shell.Introduces code 3 token) :
    token.StandsAlone code ∧ ∃ keyword ∈ keywords, token.text = keyword.toList := by
  have keeps := Grammar.keepsWords_builtin shell (by simp)
  obtain ⟨alone, keyword, listed, spelled, -⟩ :=
    Grammar.standsAlone_of_introduces keeps getElem_keywordRule introduced
  exact ⟨alone, keyword, listed, spelled.eq⟩

theorem keyword_named (introduced : shell.Introduces code 3 token) :
    ∀ c ∈ token.text, isNameChar c = true := by
  obtain ⟨-, keyword, listed, spelled⟩ := keyword_spec introduced
  rw [spelled]
  exact (keywords_spelled keyword listed).2

/-- **A keyword in a run** of characters of names stands alone in it. -/
theorem exists_keyword_of_not_apart (introduced : shell.Introduces code 3 token)
    (split : code = front ++ (name ++ back)) (clear : front.getLast?.any isNameChar = false)
    (ends : back.head?.any isNameChar = false) (common : ¬ token.IsApart front name) :
    HoldsKeyword name back := by
  obtain ⟨⟨before, after, split', start, clear', ends'⟩, keyword, listed, spelled⟩ :=
    keyword_spec introduced
  obtain ⟨first, last, parts, place, start'⟩ := exists_inside (Grammar.tokenize_cut introduced.1)
    split (keyword_named introduced) clear ends common
  obtain ⟨rfl, same⟩ :=
    Text.append_inj_of_byteSize (split'.symm.trans place) (start.trans start'.symm)
  obtain ⟨-, rfl⟩ := List.append_inj same rfl
  refine ⟨keyword, listed, first, last, spelled ▸ parts, ?_, ends'⟩
  by_cases some : first = []
  · rw [some]
    rfl
  · rwa [List.getLast?_append_of_ne_nil _ some] at clear'

/-- In a single word no keyword stands alone but the word itself. -/
theorem HoldsKeyword.eq_keyword (h : HoldsKeyword name back)
    (letters : ∀ c ∈ name, Unicode.isWord c = true) :
    ∃ keyword ∈ keywords, name = keyword.toList := by
  obtain ⟨keyword, listed, first, last, rfl, clear, ends⟩ := h
  obtain ⟨early, later⟩ := List.forall_mem_append.mp letters
  have clear : ([] ++ first).getLast?.any Unicode.isWord = false := clear
  obtain rfl := Text.eq_nil_of_any_getLast? early clear
  obtain rfl := Text.eq_nil_of_any_head? (List.forall_mem_append.mp later).2 ends
  exact ⟨keyword, listed, List.append_nil _⟩

/-- No wrapper is a keyword, so none holds one that stands alone. -/
theorem not_holdsKeyword_wrapper (listed : wrapper ∈ wrappers) :
    ¬ HoldsKeyword wrapper.toList back := by
  intro holds
  obtain ⟨keyword, given, same⟩ :=
    holds.eq_keyword fun c mem => ((wrappers_spelled wrapper listed).2 c mem).2.2
  have distinct : ∀ wrapper ∈ wrappers, ∀ keyword ∈ keywords,
      wrapper.toList ≠ keyword.toList := by decide
  exact distinct wrapper listed keyword given same

/-- **A keyword that stands alone in a name** is found, unless a first line, a string or a comment
has a part in the name. -/
theorem exists_keyword_of_holdsKeyword (holds : HoldsKeyword name back)
    (split : code = front ++ (name ++ back)) (clear : front.getLast?.any Unicode.isWord = false)
    (early : ∀ number < 3, ∀ token, shell.Introduces code number token →
      token.IsApart front name) :
    ∃ token, shell.Introduces code 3 token ∧ ¬ token.IsApart front name := by
  obtain ⟨keyword, listed, first, last, rfl, clear', ends⟩ := holds
  have lettered : ∀ word ∈ keywords,
      word.toList ≠ [] ∧ ∀ w ∈ word.toList, (CharSet.char w).holdsLetters = true := by
    decide +kernel
  have some := (lettered keyword listed).1
  have pos := Text.byteSize_pos some
  have place : code = (front ++ first) ++ (keyword.toList ++ (last ++ back)) := by
    rw [split]
    simp only [List.append_assoc]
  have inside : front.byteSize ≤ (front ++ first).byteSize ∧
      (front ++ first ++ keyword.toList).byteSize ≤
        (front ++ (first ++ (keyword.toList ++ last))).byteSize := by
    simp only [Text.byteSize_append]
    omega
  have apart : ∀ token ∈ ((shell.firstRules 3).tokenize code).tokens, token.span.Apart
      ⟨(front ++ first).byteSize, (front ++ first ++ keyword.toList).byteSize⟩ := by
    intro token mem
    obtain ⟨number, lt, introduced⟩ := Grammar.exists_introduces_lt mem
    exact ((early number lt token introduced).symm.mono inside.1 inside.2).symm
  have clear'' : (front ++ first).getLast?.any Unicode.isWord = false := by
    by_cases none : first = []
    · rwa [none, List.append_nil]
    · rwa [List.getLast?_append_of_ne_nil _ none]
  obtain ⟨token, introduced, span⟩ := Grammar.exists_introduces_word getElem_keywordRule lettered
    listed place clear'' apart (.inl ends)
  refine ⟨token, introduced, fun outside => ?_⟩
  rw [Token.IsApart, span] at outside
  have longer := Text.byteSize_append (front ++ first) keyword.toList
  unfold Span.Apart Span.Precedes at outside
  dsimp only at outside
  omega

/-! ## Commands behind wrappers -/

/-- **What the rule for commands behind wrappers introduces** is made of characters of names, and
stands behind a wrapper and blanks. -/
theorem wrapped_spec (introduced : shell.Introduces code 4 token) :
    (∀ c ∈ token.text, isNameChar c = true) ∧ ∃ lead, ∃ wrapper ∈ wrappers, ∃ blanks back,
      code = (lead ++ (wrapper.toList ++ blanks)) ++ (token.text ++ back) ∧
        (lead ++ (wrapper.toList ++ blanks)).byteSize = token.start ∧ blanks ≠ [] ∧
          ∀ c ∈ blanks, isSpacing c = true := by
  obtain ⟨outer, inside, taken, rest, last, m, rfl, -, matched, -, group, -⟩ :=
    introduced.exists_match getElem_wrappedRule
  rw [pattern_wrappedRule] at matched
  obtain ⟨_, name, later, parts, fits, named, span, -⟩ :=
    Pattern.exists_matches_of_group Nat.one_ne_zero matched group
  obtain ⟨mark, _, rfl, -, wrapping⟩ := Pattern.matches_seqs_cons.mp fits
  obtain ⟨lead, wrapper, listed, blanks, rfl, -, some, spacing⟩ := exists_of_wrapping wrapping
  obtain ⟨start, stop⟩ := Span.mk.inj span
  have split : outer ++ (inside ++ (taken ++ rest)) ++ last = (outer ++ inside ++ (mark ++
      (lead ++ (wrapper.toList ++ blanks)))) ++ (name ++ (later ++ last)) := by
    rw [parts]
    simp only [List.append_assoc]
  obtain rfl : token.text = name :=
    (Grammar.tokenize_cut introduced.1).text_eq split start.symm stop.symm
  refine ⟨(matches_commandName named).2, outer ++ inside ++ mark ++ lead, wrapper, listed, blanks,
    later ++ last, ?_, ?_, some, spacing⟩
  · rw [split]
    simp only [List.append_assoc]
  · refine Eq.trans ?_ start.symm
    simp only [List.append_assoc]

/-- **It claims no name** that stands where a command may. -/
theorem wrapped_apart (introduced : shell.Introduces code 4 token)
    (split : code = front ++ (name ++ back)) (named : IsName front name back)
    (place : AtCommand front) : token.IsApart front name := by
  by_contra common
  obtain ⟨all, lead, wrapper, listed, blanks, behind, split', start, some, spacing⟩ :=
    wrapped_spec introduced
  obtain ⟨first, last, parts, split'', start'⟩ := exists_inside
    (Grammar.tokenize_cut introduced.1) split all named.clear named.ends common
  obtain ⟨same, -⟩ :=
    Text.append_inj_of_byteSize (split'.symm.trans split'') (start.trans start'.symm)
  -- What is in front of the token ends with a blank, so nothing of the name is.
  have last : (front ++ first).getLast?.any isNameChar = false := by
    rw [← same, ← List.append_assoc]
    exact Text.any_getLast?_append some (fun c mem => isNameChar_of_isSpacing (spacing c mem)) _
  have none : first = [] :=
    Text.eq_nil_of_any_getLast? (List.forall_mem_append.mp (parts ▸ named.all)).1 last
  rw [none, List.append_nil] at same
  exact AtCommand.not_wrapped listed spacing (same ▸ place)

end Shell

end Highlight
