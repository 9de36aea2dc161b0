import Highlight.Grammar.Lexeme
import Highlight.Proofs.Forms.Form
import Highlight.Proofs.Pattern.Preference

/-!
# Patterns of forms

A pattern takes a form (`Pattern.Takes`) if its first outcome is, at every place of every text, what
the form takes there. A choice between patterns takes the first of their forms, and the patterns of
comments and strings take the form that their spelling says: a lazy repetition of any character
stops in front of the first mark that closes (`takes_enclosed`), a greedy one that leaves out line
feeds at the end of the line (`takes_line`), and the rounds of a quoted string leave no choice at
all (`takes_quoted`).
-/

namespace Highlight.Pattern

variable {p q : Pattern} {form other : Form} {front text : Text} {groups : List (Nat × Span)}
  {quote : Char} {breaks : Bool} {escaped plain chars : CharSet} {letter : Char → Bool}

/-- Whether the first outcome of a pattern is what a form takes. -/
def Takes (p : Pattern) (form : Form) : Prop :=
  ∀ (front text : Text) (groups : List (Nat × Span)),
    (p.outcomes (State.between front text groups)).head? =
      (form.take? front.getLast? text).map fun (taken, rest) =>
        State.between (front ++ taken) rest groups

theorem Takes.congr (h : q.Takes form) (same : ∀ s, p.outcomes s = q.outcomes s) :
    p.Takes form := by
  intro front text groups
  rw [same, h]

theorem Takes.prefers {taken rest : Text} (h : p.Takes form)
    (takes : form.take? front.getLast? text = some (taken, rest)) :
    p.Prefers (State.between front text groups) (State.between (front ++ taken) rest groups) := by
  rw [Prefers, h, takes]
  rfl

theorem Takes.outcomes_nil (h : p.Takes form) (none : form.take? front.getLast? text = none) :
    p.outcomes (State.between front text groups) = [] := by
  have nothing := h front text groups
  rw [none] at nothing
  exact List.head?_eq_none_iff.mp nothing

/-- A form takes nothing where its pattern cannot begin. -/
theorem Takes.none_of_begins {first : Char → Bool} (h : p.Takes form) (begins : p.Begins first)
    (not : ∀ c ∈ text.head?, first c = false) (front : Text) :
    form.take? front.getLast? text = none := by
  have nothing := h front text []
  rw [begins (State.between front text []) not] at nothing
  exact Option.map_eq_none_iff.mp nothing.symm

/-! ## Parts of patterns -/

theorem Takes.orElse (h : p.Takes form) (h' : q.Takes other) :
    (alt p q).Takes (form.orElse other) := by
  intro front text groups
  rw [outcomes, List.head?_append, h, h']
  exact Option.map_or.symm

theorem Takes.behind (h : q.Takes form) (same : ∀ c, chars.contains c = letter c) :
    (seq (set chars) q).Takes (form.behind letter) := by
  intro front text groups
  cases text with
  | nil => rfl
  | cons c text =>
    rw [outcomes, outcomes_set_cons, same]
    dsimp only [Form.behind]
    split
    · rw [List.flatMap_singleton, h, List.getLast?_concat, Option.map_map]
      congr 1
      funext pair
      simp only [Function.comp, List.append_assoc, List.singleton_append]
    · rfl

/-- The edge of a word in front of a character of a word is the start of the word. -/
theorem Takes.atWord (h : q.Takes form) (begins : q.Begins Unicode.isWord) :
    (seq wordEdge q).Takes form.atWord := by
  intro front text groups
  rw [outcomes, wordEdge, outcomes]
  dsimp only [Form.atWord]
  by_cases word : ∀ c ∈ text.head?, Unicode.isWord c = false
  · have nothing := begins (State.between front text groups) word
    rw [h.none_of_begins begins word front, ite_self]
    split
    · rw [List.flatMap_singleton, nothing]
      rfl
    · rfl
  · have inside : text.head?.any Unicode.isWord = true := by
      cases text with
      | nil => exact absurd (by intro c none; cases none) word
      | cons c text =>
        cases yes : Unicode.isWord c with
        | true => exact yes
        | false => exact absurd (by rintro d ⟨⟩; exact yes) word
    have edge : (Assertion.word .boundary .word).holds front.getLast? text.head? =
        !front.getLast?.any Unicode.isWord := by
      have same : CharSet.word.contains = Unicode.isWord := rfl
      rw [Assertion.holds, same, inside, WordEdge.holds, Bool.bne_true]
    have holds : (Assertion.word .boundary .word).holds
        (State.between front text groups).before (State.between front text groups).rest.head? =
          !front.getLast?.any Unicode.isWord := edge
    rw [holds]
    cases front.getLast?.any Unicode.isWord with
    | true => rfl
    | false => exact (congrArg List.head? (List.flatMap_singleton ..)).trans (h front text groups)

/-! ## Stretches between marks -/

/-- As few characters as possible lead to the first occurrence of a mark. -/
theorem fewest_any_outcomes (closing front text : Text) (groups : List (Nat × Span)) :
    ((seqs (fewest any :: closing.map char)).outcomes (State.between front text groups)).head? =
      (Text.through? closing text).map fun (taken, rest) =>
        State.between (front ++ taken) rest groups := by
  have mark (front text : Text) : ((seqs (closing.map char)).outcomes
      (State.between front text groups)).head? = (closing.isPrefixOf? text).map fun rest =>
        State.between (front ++ closing) rest groups := by
    have taken := outcomes_chars_append closing [] front text groups
    rw [List.append_nil] at taken
    rw [taken]
    cases closing.isPrefixOf? text <;> rfl
  -- The rounds of the repetition, and what follows the first of them behind which the mark stands.
  have rounds : ∃ later, Rounds any (State.between front text groups) later ∧
      ((State.between front text groups :: later).flatMap
        (seqs (closing.map char)).outcomes).head? = (Text.through? closing text).map fun
          (taken, rest) => State.between (front ++ taken) rest groups := by
    induction text generalizing front with
    | nil =>
      refine ⟨[], .stop rfl, ?_⟩
      rw [List.flatMap_singleton, mark, Text.through?, Option.map_map]
      rfl
    | cons c text ih =>
      obtain ⟨later, rounds, first⟩ := ih (front ++ [c])
      have one := outcomes_set_cons .all front c text groups
      rw [if_pos (by rfl)] at one
      refine ⟨_, .next one ?_ (Nat.lt_succ_self _) rounds, ?_⟩
      · exact State.offset_between_lt front text (List.cons_ne_nil c [])
      · rw [List.flatMap_cons, List.head?_append, mark, first, Text.through?]
        cases closing.isPrefixOf? (c :: text) with
        | some rest => rfl
        | none =>
          simp only [Option.map_none, Option.none_or, Option.map_map]
          congr 1
          funext pair
          simp only [Function.comp, List.append_assoc, List.singleton_append]
  obtain ⟨later, rounds, first⟩ := rounds
  rw [outcomes_seqs_cons, fewest, rounds.outcomes_star]
  exact first

theorem takes_enclosed (opening closing : Text) (some : opening ≠ []) :
    (seqs (opening.map char ++ fewest any :: closing.map char)).Takes
      (.enclosed opening closing some) := by
  intro front text groups
  rw [outcomes_chars_append]
  dsimp only [Form.enclosed]
  cases opening.isPrefixOf? text with
  | none => rfl
  | some inside =>
    simp only [fewest_any_outcomes, Option.bind_some, Option.map_map]
    congr 1
    funext pair
    simp only [Function.comp, List.append_assoc]

/-! ## Lines -/

theorem takes_line (opening : Text) (some : opening ≠ []) :
    (seqs (opening.map char ++ [zeroOrMore dot])).Takes (.line opening some) := by
  have contains : CharSet.notNewline.contains = (· != '\n') := by
    funext c
    simp only [CharSet.notNewline, CharSet.contains, CharSet.contains_char]
    rfl
  intro front text groups
  rw [outcomes_chars_append]
  dsimp only [Form.line]
  cases opening.isPrefixOf? text with
  | none => rfl
  | some inside =>
    have runs : Runs (set .notNewline)
        (State.between (front ++ opening)
          (inside.takeWhile (· != '\n') ++ inside.dropWhile (· != '\n')) groups)
        (State.between (front ++ opening ++ inside.takeWhile (· != '\n'))
          (inside.dropWhile (· != '\n')) groups) := runs_set (front ++ opening)
      (by rw [contains]; exact List.all_eq_true.mp List.all_takeWhile)
      (by
        intro c mem
        have first := List.head?_dropWhile_not (· != '\n') inside
        rw [Option.mem_def.mp mem] at first
        rw [contains]
        exact first) groups
    rw [List.takeWhile_append_dropWhile, List.append_assoc] at runs
    exact runs.prefers_star

/-! ## Quoted strings -/

/-- A round of a quoted string. -/
def quotedRound (escaped plain : CharSet) : Pattern :=
  alt (seq (char '\\') (set escaped)) (set plain)

/-- Whether sets of characters are what may follow a backslash in a quoted string, and what may
stand without one. -/
structure Quotes (quote : Char) (breaks : Bool) (escaped plain : CharSet) : Prop where
  escaped : ∀ c, escaped.contains c = (breaks || c != '\n')
  plain : ∀ c, plain.contains c = (c != quote && c != '\\' && (breaks || c != '\n'))
  noBackslash : quote ≠ '\\'
  noBreak : quote ≠ '\n'

namespace Quotes

variable {c : Char} {rest : Text}

/-- The rounds end in front of a character that is neither a backslash nor plain. -/
theorem round_other (noBackslash : c ≠ '\\') (h : plain.contains c = false) :
    (quotedRound escaped plain).outcomes (State.between front (c :: rest) groups) = [] := by
  have escape :
      (seq (char '\\') (set escaped)).outcomes (State.between front (c :: rest) groups) = [] := by
    refine outcomes_seq_nil (begins_char '\\' _ ?_)
    rintro d ⟨⟩
    exact beq_eq_false_iff_ne.mpr noBackslash
  rw [quotedRound, outcomes_alt_right escape, outcomes_set_cons, h]
  rfl

variable (quotes : Quotes quote breaks escaped plain)

include quotes

theorem round_plain (h : plain.contains c = true) :
    (quotedRound escaped plain).outcomes (State.between front (c :: rest) groups) =
      [State.between (front ++ [c]) rest groups] := by
  have noBackslash : c ≠ '\\' := by
    rintro rfl
    simp [quotes.plain] at h
  have escape :
      (seq (char '\\') (set escaped)).outcomes (State.between front (c :: rest) groups) = [] := by
    refine outcomes_seq_nil (begins_char '\\' _ ?_)
    rintro d ⟨⟩
    exact beq_eq_false_iff_ne.mpr noBackslash
  rw [quotedRound, outcomes_alt_right escape, outcomes_set_cons, if_pos h]

theorem round_escape (h : escaped.contains c = true) :
    (quotedRound escaped plain).outcomes (State.between front ('\\' :: c :: rest) groups) =
      [State.between (front ++ ['\\', c]) rest groups] := by
  have single : (set plain).outcomes (State.between front ('\\' :: c :: rest) groups) = [] := by
    rw [outcomes_set_cons, if_neg]
    simp [quotes.plain]
  have backslash : (char '\\').outcomes (State.between front ('\\' :: c :: rest) groups) =
      [State.between (front ++ ['\\']) (c :: rest) groups] := by
    rw [char, outcomes_set_cons, if_pos (by decide)]
  rw [quotedRound, outcomes_alt_left single, outcomes_seq backslash, outcomes_set_cons, if_pos h,
    List.append_assoc]
  rfl

/-- The rounds end in front of a backslash that takes nothing along. -/
theorem round_backslash (h : ∀ c ∈ rest.head?, escaped.contains c = false) :
    (quotedRound escaped plain).outcomes (State.between front ('\\' :: rest) groups) = [] := by
  have single : (set plain).outcomes (State.between front ('\\' :: rest) groups) = [] := by
    rw [outcomes_set_cons, if_neg]
    simp [quotes.plain]
  have backslash : (char '\\').outcomes (State.between front ('\\' :: rest) groups) =
      [State.between (front ++ ['\\']) rest groups] := by
    rw [char, outcomes_set_cons, if_pos (by decide)]
  rw [quotedRound, outcomes_alt_left single, outcomes_seq backslash]
  exact begins_set escaped _ h

/-- No round starts with the quote. -/
theorem begins_round : (quotedRound escaped plain).Begins (· != quote) := by
  refine Begins.alt ((begins_char '\\').seq _ |>.mono ?_) ((begins_set plain).mono ?_)
  · intro c same
    obtain rfl := bne_eq_false_iff_eq.mp same
    exact beq_eq_false_iff_ne.mpr quotes.noBackslash
  · intro c same
    rw [quotes.plain, same]
    rfl

theorem closed?_plain (h : plain.contains c = true) (text : Text) :
    Text.closed? quote breaks false (c :: text) =
      (Text.closed? quote breaks false text).map fun (taken, rest) => (c :: taken, rest) := by
  simp only [quotes.plain, Bool.and_eq_true, bne_iff_ne, Bool.or_eq_true] at h
  obtain ⟨⟨noQuote, noBackslash⟩, stays⟩ := h
  rw [Text.closed?, if_neg, if_neg (fun ends => noQuote ends.1),
    beq_eq_false_iff_ne.mpr noBackslash]
  · rfl
  · rintro ⟨rfl, line⟩
    simp [line] at stays

theorem closed?_escape (h : escaped.contains c = true) (text : Text) :
    Text.closed? quote breaks false ('\\' :: c :: text) =
      (Text.closed? quote breaks false text).map fun (taken, rest) =>
        ('\\' :: c :: taken, rest) := by
  have goes : ¬ (c = '\n' ∧ breaks = false) := by
    rintro ⟨rfl, rfl⟩
    simp [quotes.escaped] at h
  have ends : (c == '\\' && !('\\' == '\\' && !false)) = false := Bool.and_false _
  rw [Text.closed?, if_neg (fun line => absurd line.1 (by decide)),
    if_neg (fun ends => quotes.noBackslash ends.1.symm), Text.closed?, if_neg goes,
    if_neg (fun ends => Bool.noConfusion ends.2), ends, Option.map_map]
  rfl

theorem closed?_backslash (h : ∀ c ∈ rest.head?, escaped.contains c = false) :
    Text.closed? quote breaks false ('\\' :: rest) = none := by
  rw [Text.closed?, if_neg (fun line => absurd line.1 (by decide)),
    if_neg (fun ends => quotes.noBackslash ends.1.symm)]
  cases rest with
  | nil => rfl
  | cons c rest =>
    have line := h c rfl
    simp only [quotes.escaped, Bool.or_eq_false_iff, bne_eq_false_iff_eq] at line
    rw [Text.closed?, if_pos ⟨line.2, line.1⟩]
    rfl

theorem closed?_other (noBackslash : c ≠ '\\') (h : plain.contains c = false) (text : Text) :
    Text.closed? quote breaks false (c :: text) = if c = quote then some ([c], text) else none := by
  by_cases ends : c = quote
  · subst ends
    rw [Text.closed?, if_neg (fun line => quotes.noBreak line.1), if_pos ⟨rfl, rfl⟩, if_pos rfl]
  · have line : breaks = false ∧ c = '\n' := by
      simpa [quotes.plain, ends, noBackslash] using h
    rw [Text.closed?, if_pos ⟨line.2, line.1⟩, if_neg ends]

/-- **One round of a quoted string**: it takes what the search for the closing quote goes through,
or there is none, and the closing quote is here or nowhere. -/
theorem round_spec (front text : Text) (groups : List (Nat × Span)) :
    (∃ taken rest, text = taken ++ rest ∧ taken ≠ [] ∧
      (quotedRound escaped plain).outcomes (State.between front text groups) =
        [State.between (front ++ taken) rest groups] ∧
      Text.closed? quote breaks false text = (Text.closed? quote breaks false rest).map fun
        (inside, after) => (taken ++ inside, after)) ∨
    ((quotedRound escaped plain).outcomes (State.between front text groups) = [] ∧
      (char quote).outcomes (State.between front text groups) =
        ((Text.closed? quote breaks false text).map fun (taken, rest) =>
          State.between (front ++ taken) rest groups).toList) := by
  cases text with
  | nil => exact .inr ⟨rfl, rfl⟩
  | cons c text =>
    cases single : plain.contains c with
    | true => exact .inl ⟨[c], text, rfl, List.cons_ne_nil _ _, quotes.round_plain single,
        quotes.closed?_plain single text⟩
    | false =>
      by_cases backslash : c = '\\'
      · subst backslash
        by_cases stops : ∀ c ∈ text.head?, escaped.contains c = false
        · refine .inr ⟨quotes.round_backslash stops, ?_⟩
          rw [quotes.closed?_backslash stops, begins_char quote]
          · rfl
          · rintro d ⟨⟩
            exact beq_eq_false_iff_ne.mpr quotes.noBackslash.symm
        · cases text with
          | nil => exact absurd (by intro d none; cases none) stops
          | cons d text =>
            cases along : escaped.contains d with
            | true => exact .inl ⟨['\\', d], text, rfl, List.cons_ne_nil _ _,
                quotes.round_escape along, quotes.closed?_escape along text⟩
            | false => exact absurd (by rintro e ⟨⟩; exact along) stops
      · refine .inr ⟨round_other backslash single, ?_⟩
        rw [quotes.closed?_other backslash single, char, outcomes_set_cons, CharSet.contains_char]
        by_cases ends : c = quote
        · rw [if_pos ends, beq_iff_eq.mpr ends]
          rfl
        · rw [if_neg ends, beq_eq_false_iff_ne.mpr ends]
          rfl

/-- The rounds lead to the quote that closes the string, or to a place that no quote follows. -/
theorem exists_runs (front text : Text) (groups : List (Nat × Span)) :
    ∃ u, Runs (quotedRound escaped plain) (State.between front text groups) u ∧
      (char quote).outcomes u = ((Text.closed? quote breaks false text).map fun
        (taken, rest) => State.between (front ++ taken) rest groups).toList := by
  induction size : text.length using Nat.strongRecOn generalizing front text with
  | ind size ih =>
    subst size
    rcases quotes.round_spec front text groups with ⟨taken, rest, rfl, some, one, closed⟩ |
      ⟨none, first⟩
    · have shorter : rest.length < (taken ++ rest).length := by
        rw [List.length_append]
        exact Nat.lt_add_of_pos_left (List.length_pos_iff.mpr some)
      obtain ⟨u, runs, first⟩ := ih rest.length shorter (front ++ taken) rest rfl
      refine ⟨u, .next one (State.offset_between_lt front rest some) shorter runs, ?_⟩
      rw [first, closed, Option.map_map]
      congr 2
      funext pair
      simp only [Function.comp, List.append_assoc]
    · exact ⟨_, .stop none, first⟩

/-- **Behind the first quote** there is one way to match, or none: up to the quote that closes. -/
theorem outcomes_closed (front text : Text) (groups : List (Nat × Span)) :
    (seq (zeroOrMore (quotedRound escaped plain)) (char quote)).outcomes
        (State.between front text groups) =
      ((Text.closed? quote breaks false text).map fun (taken, rest) =>
        State.between (front ++ taken) rest groups).toList := by
  obtain ⟨u, runs, closing⟩ := quotes.exists_runs front text groups
  refine (runs.outcomes_seq_star ?_).trans closing
  intro t some
  refine quotes.begins_round.apart (begins_char quote) ?_ some
  intro c inside
  exact beq_eq_false_iff_ne.mpr (bne_iff_ne.mp inside)

theorem outcomes_quoted (front text : Text) (groups : List (Nat × Span)) :
    (Lexeme.quoted quote (set escaped) (set plain)).outcomes
        (State.between front (quote :: text) groups) =
      ((Text.closed? quote breaks false text).map fun (taken, rest) =>
        State.between (front ++ quote :: taken) rest groups).toList := by
  have opens : (char quote).outcomes (State.between front (quote :: text) groups) =
      [State.between (front ++ [quote]) text groups] := by
    rw [char, outcomes_set_cons, if_pos]
    rw [CharSet.contains_char, beq_self_eq_true]
  refine (outcomes_seq opens).trans ((quotes.outcomes_closed _ text groups).trans ?_)
  simp only [List.append_assoc, List.singleton_append]

end Quotes

theorem takes_quoted (quotes : Quotes quote breaks escaped plain) :
    (Lexeme.quoted quote (set escaped) (set plain)).Takes (.quoted quote breaks) := by
  refine Takes.behind ?_ (CharSet.contains_char quote)
  intro front text groups
  refine (congrArg List.head? (quotes.outcomes_closed front text groups)).trans ?_
  exact Option.head?_toList

end Highlight.Pattern
