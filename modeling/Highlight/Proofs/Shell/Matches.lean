import Highlight.Proofs.Shell.Words
import Highlight.Proofs.Tokenize.Gaps

/-!
# Rules that look for a command

The two rules for commands want a mark first, and behind it blanks and names only
(`Shell.IsInner`). So no match that begins before a mark reaches beyond it
(`Shell.Opens.not_within`): a scan comes to every mark, and takes there what the rule prefers. What
stands behind a mark and is apart from the tokens so far is therefore found
(`Shell.exists_introduces`).
-/

namespace Highlight

open Pattern (Cursor Match Span State CharSet)

namespace Shell

/-- The marks in front of a command. -/
def marks : Pattern :=
  Pattern.alts [Pattern.lineStart, Pattern.char ';', Pattern.text "&&", Pattern.text "||",
    Pattern.char '|']

/-- Whether a character may stand between a mark and the end of the command. -/
def isInner (c : Char) : Bool := isNameChar c || isSpacing c

/-- Whether a pattern takes blanks and names only, and something. -/
structure IsInner (p : Pattern) : Prop where
  begins : p.Begins isInner
  inner : ∀ {front taken rest : Text}, p.Matches front taken rest →
    taken ≠ [] ∧ ∀ c ∈ taken, isInner c = true

variable {p : Pattern} {t : State} {front before mark later more taken rest tail back code : Text}
  {c : Char}

/-! ## Preference -/

/-- At the start of a line nothing follows but blanks and names. -/
theorem IsInner.outcomes_lineStart (inner : IsInner p) (outer : isInner c = false)
    (before rest : Text) : (Pattern.seq Pattern.lineStart p).outcomes
      (State.between before (c :: rest) []) = [] := by
  refine inner.begins.check_seq _ _ fun d mem => ?_
  cases mem
  exact outer

/-- A mark is not taken for one that begins with another character. -/
theorem outcomes_other {q : Pattern} {d : Char} (begins : q.Begins (· == d))
    (differ : (c == d) = false) (p : Pattern) (before rest : Text) :
    (Pattern.seq q p).outcomes (State.between before (c :: rest) []) = [] := by
  refine begins.seq p _ fun e mem => ?_
  cases mem
  exact differ

/-- One vertical bar is not taken for two. -/
theorem outcomes_bars (single : ∀ c ∈ rest.head?, (c == '|') = false) (p : Pattern)
    (before : Text) : (Pattern.seq (Pattern.text "||") p).outcomes
      (State.between before ('|' :: rest) []) = [] := by
  have first := Pattern.outcomes_chars ['|'] before rest []
  have second : (Pattern.text "||").outcomes (State.between before ('|' :: rest) []) = [] :=
    (Pattern.outcomes_seq first).trans (Pattern.begins_char '|' _ single)
  exact Pattern.outcomes_seq_nil second

/-- **Behind a mark** a pattern is tried. -/
theorem Opens.prefers (opens : Opens before mark) (inner : IsInner p)
    (starts : ∀ c ∈ rest.head?, isInner c = true)
    (h : p.Prefers (State.between (before ++ mark) rest []) t) :
    (Pattern.seq marks p).Prefers (State.between before (mark ++ rest) []) t := by
  have semicolon := Pattern.begins_char ';'
  have ampersands := Pattern.begins_text "&&" rfl
  cases opens with
  | line place =>
    rw [List.append_nil] at h
    have holds : (Pattern.Assertion.lineStart false).holds before.getLast? rest.head? = true := by
      rcases place with rfl | last
      · rfl
      · rw [last]
        rfl
    exact ((Pattern.prefers_of_outcomes (Pattern.outcomes_check holds)).seq h).alt_seq_left
  | separator listed =>
    simp only [List.mem_cons, List.not_mem_nil, or_false] at listed
    rcases listed with rfl | rfl | rfl
    · have here := Pattern.outcomes_chars [';'] before rest []
      refine Pattern.Prefers.alt_seq_right (inner.outcomes_lineStart rfl _ _) ?_
      exact ((Pattern.prefers_of_outcomes here).seq h).alt_seq_left
    · have here := Pattern.outcomes_text "&&" before rest []
      refine Pattern.Prefers.alt_seq_right (inner.outcomes_lineStart rfl _ _) ?_
      refine Pattern.Prefers.alt_seq_right (outcomes_other semicolon rfl _ _ _) ?_
      exact ((Pattern.prefers_of_outcomes here).seq h).alt_seq_left
    · have here := Pattern.outcomes_text "||" before rest []
      refine Pattern.Prefers.alt_seq_right (inner.outcomes_lineStart rfl _ _) ?_
      refine Pattern.Prefers.alt_seq_right (outcomes_other semicolon rfl _ _ _) ?_
      refine Pattern.Prefers.alt_seq_right (outcomes_other ampersands rfl _ _ _) ?_
      exact ((Pattern.prefers_of_outcomes here).seq h).alt_seq_left
  | pipe =>
    have here := Pattern.outcomes_chars ['|'] before rest []
    refine Pattern.Prefers.alt_seq_right (inner.outcomes_lineStart rfl _ _) ?_
    refine Pattern.Prefers.alt_seq_right (outcomes_other semicolon rfl _ _ _) ?_
    refine Pattern.Prefers.alt_seq_right (outcomes_other ampersands rfl _ _ _) ?_
    refine Pattern.Prefers.alt_seq_right (outcomes_bars (fun c mem => ?_) _ _) ?_
    · refine Bool.eq_false_iff.mpr fun same => ?_
      have named := starts c mem
      rw [eq_of_beq same] at named
      exact absurd named (by decide)
    · exact (Pattern.prefers_of_outcomes here).seq h

/-! ## What a match takes -/

/-- A match is a mark, and blanks and names behind it. -/
theorem IsInner.exists_mark (inner : IsInner p)
    (fits : (Pattern.seq marks p).Matches front taken rest) :
    ∃ mark later, taken = mark ++ later ∧ mark ∈ [[], [';'], ['&', '&'], ['|', '|'], ['|']] ∧
      later ≠ [] ∧ ∀ c ∈ later, isInner c = true := by
  obtain ⟨mark, later, rfl, marked, follows⟩ := fits
  refine ⟨mark, later, rfl, ?_, inner.inner follows⟩
  obtain ⟨q, listed, fits⟩ := Pattern.matches_alts.mp marked
  simp only [List.mem_cons, List.not_mem_nil, or_false] at listed ⊢
  rcases listed with rfl | rfl | rfl | rfl | rfl
  · exact .inl fits.1
  · exact .inr (.inl (Pattern.matches_char.mp fits))
  · exact .inr (.inr (.inl (Pattern.matches_text.mp fits)))
  · exact .inr (.inr (.inr (.inl (Pattern.matches_text.mp fits))))
  · exact .inr (.inr (.inr (.inr (Pattern.matches_char.mp fits))))

/-- A character of a match other than the first is one of a name, or blank, or the second of a mark
of two. -/
theorem IsInner.second (inner : IsInner p)
    (fits : (Pattern.seq marks p).Matches front (later ++ c :: more) rest) (some : later ≠ [])
    (outer : isInner c = false) : later = [c] ∧ (c = '&' ∨ c = '|') ∧ more ≠ [] ∧
      ∀ d ∈ more, isInner d = true := by
  obtain ⟨mark, inside, parts, listed, some', all⟩ := inner.exists_mark fits
  have apart : c ∉ inside := fun mem => absurd ((all c mem).symm.trans outer) Bool.noConfusion
  rcases List.append_eq_append_iff.mp parts with ⟨middle, rfl, tail⟩ | ⟨middle, -, rfl⟩
  · cases middle with
    | nil =>
      rw [List.nil_append] at tail
      exact absurd (tail ▸ List.mem_cons_self) apart
    | cons d middle =>
      obtain ⟨rfl, rfl⟩ := List.cons.inj tail
      have short : ∀ mark ∈ [[], [';'], ['&', '&'], ['|', '|'], ['|']], mark.length ≤ 2 := by decide
      have size := short _ listed
      have pos := List.length_pos_iff.mpr some
      rw [List.length_append, List.length_cons] at size
      obtain ⟨first, rfl⟩ := List.length_eq_one_iff.mp (show later.length = 1 by omega)
      obtain rfl := List.length_eq_zero_iff.mp (show middle.length = 0 by omega)
      have double : first = c ∧ (c = '&' ∨ c = '|') := by
        simp only [List.cons_append, List.nil_append, List.mem_cons, List.cons.injEq,
          List.not_mem_nil, reduceCtorEq, and_false, and_true, or_false, false_or] at listed
        rcases listed with ⟨rfl, rfl⟩ | ⟨rfl, rfl⟩
        · exact ⟨rfl, .inl rfl⟩
        · exact ⟨rfl, .inr rfl⟩
      exact ⟨by rw [double.1], double.2, some', all⟩
  · exact absurd (List.mem_append_right middle List.mem_cons_self) apart

/-- **No match that begins before a mark** reaches beyond it. -/
theorem Opens.not_within (opens : Opens (before ++ later) mark) (inner : IsInner p)
    (fits : (Pattern.seq marks p).Matches front (later ++ more) rest) (some : later ≠ [])
    (some' : more ≠ []) (split : mark ++ tail = more ++ back) : False := by
  cases opens with
  | line place =>
    have last : later.getLast? = Option.some '\n' := by
      rcases place with none | last
      · exact absurd (List.append_eq_nil_iff.mp none).2 some
      · rwa [List.getLast?_append_of_ne_nil _ some] at last
    obtain ⟨mark, inside, parts, listed, -, all⟩ := inner.exists_mark fits
    have mem : '\n' ∈ mark ++ inside :=
      parts ▸ List.mem_append_left more (List.mem_of_getLast? last)
    have clear : ∀ mark ∈ [[], [';'], ['&', '&'], ['|', '|'], ['|']], '\n' ∉ mark := by decide
    rcases List.mem_append.mp mem with marked | inside
    · exact clear mark listed marked
    · exact absurd (all _ inside) (by decide)
  | separator listed =>
    obtain ⟨c, more, rfl⟩ := List.exists_cons_of_ne_nil some'
    simp only [List.mem_cons, List.not_mem_nil, or_false] at listed
    rcases listed with rfl | rfl | rfl
    · obtain ⟨rfl, -⟩ := List.cons.inj split
      exact absurd (inner.second fits some rfl).2.1 (by decide)
    · obtain ⟨rfl, same⟩ := List.cons.inj split
      obtain ⟨-, -, some, all⟩ := inner.second fits some rfl
      obtain ⟨d, more, rfl⟩ := List.exists_cons_of_ne_nil some
      obtain ⟨rfl, -⟩ := List.cons.inj same
      exact absurd (all _ List.mem_cons_self) (by decide)
    · obtain ⟨rfl, same⟩ := List.cons.inj split
      obtain ⟨-, -, some, all⟩ := inner.second fits some rfl
      obtain ⟨d, more, rfl⟩ := List.exists_cons_of_ne_nil some
      obtain ⟨rfl, -⟩ := List.cons.inj same
      exact absurd (all _ List.mem_cons_self) (by decide)
  | pipe single =>
    obtain ⟨c, more, rfl⟩ := List.exists_cons_of_ne_nil some'
    obtain ⟨rfl, -⟩ := List.cons.inj split
    obtain ⟨rfl, -⟩ := inner.second fits some rfl
    exact single List.getLast?_concat

/-! ## What is found -/

/-- **What stands behind a mark** and is apart from all tokens so far is found. -/
theorem exists_introduces {grammar : Grammar} {number : Nat} {rule : Rule} {span : Span}
    (here : grammar.rules[number]? = some rule) (pattern : rule.pattern = Pattern.seq marks p)
    (part : rule.group = 1) (inner : IsInner p) (opens : Opens before mark)
    (split : code = before ++ ((mark ++ tail) ++ back)) (some : tail ≠ [])
    (starts : ∀ c ∈ tail.head?, isInner c = true) (nonempty : span.start < span.stop)
    (prefers : ∀ after last, back = after ++ last →
      p.Prefers (State.between (before ++ mark) (tail ++ after) [])
        (State.between (before ++ (mark ++ tail)) after [(1, span)]))
    (apart : ∀ token ∈ ((grammar.firstRules number).tokenize code).tokens,
      token.span.Apart ⟨before.byteSize, (before ++ (mark ++ tail)).byteSize⟩) :
    ∃ token, grammar.Introduces code number token ∧ token.span = span := by
  have some' : mark ++ tail ≠ [] := List.append_ne_nil_of_right_ne_nil mark some
  obtain ⟨outer, inside, after, last, rfl, rfl, leaves⟩ :=
    Grammar.exists_leaves_of_apart split some' apart
  refine (Grammar.introduces_iff_findsAt here span).mpr ⟨outer, _, last, ?_, leaves, ?_⟩
  · rw [split]
    simp only [List.append_assoc]
  have behind : ∀ c ∈ (tail ++ after).head?, isInner c = true := by
    rwa [List.head?_append_of_ne_nil _ some]
  rcases rule.reaches_or_covered outer inside (mark ++ tail ++ after) with
    ⟨finds, reached⟩ | ⟨earlier, later, more, rest, m, rfl, some, parts, some', matched, whole⟩
  · have chosen := opens.prefers inner behind (prefers after last rfl)
    rw [← List.append_assoc mark, ← pattern] at chosen
    rw [reached, Rule.findsAt_take_part part chosen nonempty some', List.map_append, List.map_cons]
    exact List.mem_append_right _ List.mem_cons_self
  · rw [pattern] at matched
    obtain ⟨taken, rest', split', fits, whole'⟩ := Pattern.exists_matches_of_whole matched
    obtain ⟨-, stop⟩ := Span.mk.inj (whole'.symm.trans whole)
    rw [Text.byteSize_append, Text.byteSize_append (outer ++ earlier)] at stop
    obtain ⟨rfl, rfl⟩ := Text.append_inj_of_byteSize split'.symm (Nat.add_left_cancel stop)
    rw [← List.append_assoc] at opens
    rw [List.append_assoc] at parts
    exact (opens.not_within inner fits some some' parts).elim

end Shell

end Highlight
