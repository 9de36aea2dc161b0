import Highlight.Proofs.Tokenize.Gaps
import Highlight.Proofs.Tokenize.Spans
import Highlight.Proofs.Words.Spelling

/-!
# Finding words

A rule for whole words finds every word of its list that stands in a window between two edges
(`Rule.mem_findsAt_of_word`). What it matches begins and ends at edges and is made of word
characters (`exists_of_matchAt?_wholeWord`), so no match that begins earlier reaches into the word,
and of what matches where it begins only the word itself ends at an edge. So a word that is apart
from all tokens so far becomes a token (`Grammar.exists_introduces_word`).
-/

namespace Highlight

open Pattern (Cursor Match Span State CharSet)

/-- The first run of characters of a kind in a text is determined by the text. -/
theorem Text.eq_of_runs {p : Char → Bool} {run run' rest rest' : Text}
    (same : run ++ rest = run' ++ rest') (all : ∀ c ∈ run, p c = true)
    (all' : ∀ c ∈ run', p c = true) (ends : rest.head?.any p = false)
    (ends' : rest'.head?.any p = false) : run = run' ∧ rest = rest' := by
  rcases List.append_eq_append_iff.mp same with ⟨more, rfl, rfl⟩ | ⟨more, rfl, rfl⟩
  · obtain rfl := Text.eq_nil_of_any_head? (List.forall_mem_append.mp all').2 ends
    exact ⟨(List.append_nil run).symm, rfl⟩
  · obtain rfl := Text.eq_nil_of_any_head? (List.forall_mem_append.mp all).2 ends'
    exact ⟨List.append_nil run', rfl⟩

/-- And so is the last run of characters of a kind. -/
theorem Text.eq_of_last_runs {p : Char → Bool} {run run' front front' : Text}
    (same : front ++ run = front' ++ run') (all : ∀ c ∈ run, p c = true)
    (all' : ∀ c ∈ run', p c = true) (clear : front.getLast?.any p = false)
    (clear' : front'.getLast?.any p = false) : front = front' ∧ run = run' := by
  rcases List.append_eq_append_iff.mp same with ⟨more, rfl, rfl⟩ | ⟨more, rfl, rfl⟩
  · obtain rfl := Text.eq_nil_of_any_getLast? (List.forall_mem_append.mp all).1 clear'
    exact ⟨(List.append_nil front).symm, rfl⟩
  · obtain rfl := Text.eq_nil_of_any_getLast? (List.forall_mem_append.mp all').1 clear
    exact ⟨List.append_nil front', rfl⟩

namespace Pattern

variable {p : Pattern} {patterns : List Pattern} {s t : State} {letter : Char → CharSet}
  {list : List String} {word : String} {front text rest : Text} {m : Match}

/-- What a pattern of a choice matches, the choice does. -/
theorem mem_alts (given : p ∈ patterns) (mem : t ∈ p.outcomes s) :
    t ∈ (alts patterns).outcomes s := by
  induction patterns with
  | nil => cases given
  | cons q patterns ih =>
    cases patterns with
    | nil =>
      obtain rfl := List.mem_singleton.mp given
      exact mem
    | cons r patterns =>
      rcases List.mem_cons.mp given with rfl | later
      · exact List.mem_append_left _ mem
      · exact List.mem_append_right _ (ih later)

/-- **What is matched as a whole word** is a word of the list, between two edges. -/
theorem exists_of_matchAt?_wholeWord
    (lettered : ∀ word ∈ list, word.toList ≠ [] ∧ ∀ w ∈ word.toList, (letter w).holdsLetters = true)
    (h : (wholeWord letter list).matchAt? (Cursor.between front text) = some m) :
    ∃ taken rest, text = taken ++ rest ∧
      m.whole = ⟨front.byteSize, (front ++ taken).byteSize⟩ ∧
        (∀ c ∈ taken, Unicode.isWord c = true) ∧ taken ≠ [] ∧
          front.getLast?.any Unicode.isWord = false ∧ rest.head?.any Unicode.isWord = false ∧
            ∃ word ∈ list, Spells letter word.toList taken := by
  obtain ⟨t, mem, rfl⟩ := exists_of_matchAt? h
  have stands : (Cursor.between front text).StandsIn (front ++ text) := ⟨front, rfl, rfl, rfl⟩
  obtain ⟨before, taken, rest, split, start, stop, clear, -, clear', word, listed, spelled⟩ :=
    exists_parts_of_mem_wholeWord stands lettered mem
  obtain ⟨rfl, rfl⟩ := Text.append_inj_of_byteSize split start.symm
  obtain ⟨some, letters⟩ := lettered word listed
  refine ⟨taken, rest, rfl, by rw [stop]; rfl, spelled.isWord letters, ?_, clear, clear', word,
    listed, spelled⟩
  rintro rfl
  exact some (List.eq_nil_of_length_eq_zero (List.Forall₂.length_eq spelled))

/-- A word of a list between two edges is matched. -/
theorem matchAt?_wholeWord
    (lettered : ∀ word ∈ list,
      word.toList ≠ [] ∧ ∀ w ∈ word.toList, (CharSet.char w).holdsLetters = true)
    (listed : word ∈ list) (clear : front.getLast?.any Unicode.isWord = false)
    (ends : rest.head?.any Unicode.isWord = false) :
    ∃ m, (wholeWord .char list).matchAt? (Cursor.between front (word.toList ++ rest)) = some m ∧
      m.whole = ⟨front.byteSize, (front ++ word.toList).byteSize⟩ := by
  obtain ⟨some, letters⟩ := lettered word listed
  have all : ∀ c ∈ word.toList, Unicode.isWord c = true := fun c mem =>
    CharSet.isWord_of_holdsLetters (letters c mem) (by rw [CharSet.contains_char, beq_self_eq_true])
  have first : (word.toList ++ rest).head?.any Unicode.isWord = true := by
    obtain ⟨c, more, same⟩ := List.exists_cons_of_ne_nil some
    rw [same] at all ⊢
    exact all c List.mem_cons_self
  have last : (front ++ word.toList).getLast?.any Unicode.isWord = true :=
    Text.any_getLast?_append some all front
  have opened : State.between front (word.toList ++ rest) [] ∈
      wordEdge.outcomes (State.between front (word.toList ++ rest) []) := by
    rw [outcomes_wordEdge (by rw [clear, first]; decide)]
    exact List.mem_singleton_self _
  have spelled : State.between (front ++ word.toList) rest [] ∈
      (spelling .char word).outcomes (State.between front (word.toList ++ rest) []) := by
    have taken : (spelling .char word).outcomes (State.between front (word.toList ++ rest) []) =
        [State.between (front ++ word.toList) rest []] := outcomes_text word front rest []
    rw [taken]
    exact List.mem_singleton_self _
  have closed : State.between (front ++ word.toList) rest [] ∈
      wordEdge.outcomes (State.between (front ++ word.toList) rest []) := by
    rw [outcomes_wordEdge (by rw [ends, last]; decide)]
    exact List.mem_singleton_self _
  have matched : State.between (front ++ word.toList) rest [] ∈
      (wholeWord .char list).outcomes (State.start (Cursor.between front (word.toList ++ rest))) :=
    List.mem_flatMap.mpr ⟨_, opened, List.mem_flatMap.mpr
      ⟨_, mem_alts (List.mem_map_of_mem listed) spelled, closed⟩⟩
  cases here : (wholeWord .char list).matchAt? (Cursor.between front (word.toList ++ rest)) with
  | none =>
    have nothing := List.head?_eq_none_iff.mp (Option.map_eq_none_iff.mp here)
    rw [nothing] at matched
    cases matched
  | some m =>
    obtain ⟨taken, rest', split, whole, letters', -, -, ends', -⟩ :=
      exists_of_matchAt?_wholeWord lettered here
    obtain ⟨rfl, -⟩ := Text.eq_of_runs split all letters' ends ends'
    exact ⟨m, rfl, whole⟩

end Pattern

/-- **A word of a list between two edges of a window** is found. -/
theorem Rule.mem_findsAt_of_word (name : String) (kind : TokenType) {list : List String}
    {word : String} {front before rest : Text}
    (lettered : ∀ word ∈ list,
      word.toList ≠ [] ∧ ∀ w ∈ word.toList, (CharSet.char w).holdsLetters = true)
    (listed : word ∈ list) (clear : (front ++ before).getLast?.any Unicode.isWord = false)
    (ends : rest.head?.any Unicode.isWord = false) :
    (⟨(front ++ before).byteSize, (front ++ before ++ word.toList).byteSize⟩ : Span) ∈
      ((Rule.whole name kind (Pattern.wholeWord .char list)).findsAt front
        (before ++ (word.toList ++ rest))).map Find.span := by
  obtain ⟨m, here, whole⟩ := Pattern.matchAt?_wholeWord lettered listed clear ends
  rcases (Rule.whole name kind (Pattern.wholeWord .char list)).reaches_or_covered front before
    (word.toList ++ rest) with ⟨finds, reached⟩ | ⟨earlier, later, more, after, m', rfl, some,
      split, some', matched, covers⟩
  · have longer : (front ++ before).byteSize < (front ++ before ++ word.toList).byteSize := by
      rw [Text.byteSize_append (front ++ before)]
      exact Nat.lt_add_of_pos_right (Text.byteSize_pos (lettered word listed).1)
    have taken := findsAt_take m.whole here
      (show m.group? (Rule.whole name kind (Pattern.wholeWord .char list)).group = _ from rfl)
      (by rwa [whole]) (congrArg Span.stop whole) (lettered word listed).1
    rw [reached, taken, List.map_append, List.map_cons]
    refine List.mem_append_right _ (List.mem_cons.mpr (.inl ?_))
    rw [Find.span, whole]
  · -- What covers the edge in front of the word would have a word character there.
    obtain ⟨taken, last, parts, whole', letters, -⟩ :=
      Pattern.exists_of_matchAt?_wholeWord lettered matched
    obtain ⟨-, stop⟩ := Span.mk.inj (covers.symm.trans whole')
    rw [Text.byteSize_append (front ++ earlier), Text.byteSize_append (front ++ earlier)] at stop
    obtain ⟨rfl, -⟩ := Text.append_inj_of_byteSize parts (Nat.add_left_cancel stop)
    rw [← List.append_assoc] at clear
    exact absurd (Text.eq_nil_of_any_getLast? (List.forall_mem_append.mp letters).1 clear) some

/-- **A word of a list that no token so far touches** is introduced, if it ends at an edge or where
such a token begins. -/
theorem Grammar.exists_introduces_word {grammar : Grammar} {number : Nat} {name : String}
    {kind : TokenType} {list : List String} {word : String} {code front back : Text}
    (here : grammar.rules[number]? = some (.whole name kind (Pattern.wholeWord .char list)))
    (lettered : ∀ word ∈ list,
      word.toList ≠ [] ∧ ∀ w ∈ word.toList, (CharSet.char w).holdsLetters = true)
    (listed : word ∈ list) (split : code = front ++ (word.toList ++ back))
    (clear : front.getLast?.any Unicode.isWord = false)
    (apart : ∀ token ∈ ((grammar.firstRules number).tokenize code).tokens,
      token.span.Apart ⟨front.byteSize, (front ++ word.toList).byteSize⟩)
    (ends : back.head?.any Unicode.isWord = false ∨
      ∃ token ∈ ((grammar.firstRules number).tokenize code).tokens,
        token.start = (front ++ word.toList).byteSize) :
    ∃ token, grammar.Introduces code number token ∧
      token.span = ⟨front.byteSize, (front ++ word.toList).byteSize⟩ := by
  obtain ⟨outer, before, after, last, rfl, rfl, leaves⟩ :=
    exists_leaves_of_apart split (lettered word listed).1 apart
  have window : code = outer ++ (before ++ (word.toList ++ after)) ++ last := by
    rw [split]
    simp only [List.append_assoc]
  have ends' : after.head?.any Unicode.isWord = false := by
    rcases ends with edge | ⟨token, mem, start⟩
    · cases after with
      | nil => rfl
      | cons c after => exact edge
    · -- The window ends where the token begins, so the word ends with the window.
      rw [window] at mem
      have nonempty := (tokenize_cut mem).start_lt_stop
      have apart := leaves.apart mem
      have none : after = [] := by
        refine Text.byteSize_eq_zero.mp ?_
        simp only [Text.byteSize_append, Span.Apart, Span.Precedes] at start apart
        have begins : token.span.start = token.start := rfl
        omega
      rw [none]
      rfl
  exact (introduces_iff_findsAt here _).mpr ⟨outer, _, last, window, leaves,
    Rule.mem_findsAt_of_word name kind lettered listed clear ends'⟩

end Highlight
