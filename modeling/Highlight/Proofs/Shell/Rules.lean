import Highlight.Proofs.Shell.Matches

/-!
# The rules for commands

One rule takes the name behind a mark, the other the name behind a wrapper that stands behind a
mark. Either prefers the whole run of characters of names that stands there
(`Shell.prefers_command`, `Shell.prefers_wrapped`), so a name that is apart from the tokens of the
rules before is introduced as it is.
-/

namespace Highlight

open Pattern (Span State CharSet)

namespace Shell

/-- What the rule for commands wants behind a mark. -/
def command : Pattern := Pattern.seq Lexeme.spacing (Pattern.group 1 Grammar.commandName)

/-- What stands between a mark and the name behind a wrapper. -/
def wrapping : List Pattern :=
  [Lexeme.spacing, Pattern.alts (wrappers.map Pattern.text),
    Pattern.oneOrMore (Pattern.oneOf " \t")]

/-- What the rule for commands behind wrappers wants behind a mark. -/
def wrapped : Pattern := Pattern.seqs (wrapping ++ [Pattern.group 1 Grammar.commandName])

/-- The rule for commands behind wrappers. -/
def wrappedRule : Rule := .part "wrapped_command" .function (Pattern.seq marks wrapped)

/-- The rule for commands. -/
def commandRule : Rule := .part "command" .builtin (Pattern.seq marks command)

theorem getElem_wrappedRule : Grammar.shell.rules[4]? = some wrappedRule := rfl

theorem getElem_commandRule : Grammar.shell.rules[5]? = some commandRule := rfl

theorem pattern_wrappedRule : wrappedRule.pattern =
    Pattern.seqs (marks :: wrapping ++ [Pattern.group 1 Grammar.commandName]) := rfl

variable {front name back after last before mark blanks taken rest : Text} {wrapper : String}

/-! ## Names -/

theorem matches_commandName (fits : Grammar.commandName.Matches front taken rest) :
    taken ≠ [] ∧ ∀ c ∈ taken, isNameChar c = true := by
  obtain ⟨_, later, rfl, ⟨c, rfl, starts⟩, more⟩ := fits
  obtain ⟨-, all⟩ := Pattern.matches_plus_set.mp more
  refine ⟨List.cons_ne_nil _ _, List.forall_mem_cons.mpr ⟨?_, fun d mem => ?_⟩⟩
  · exact isNameChar_of_start (contains_commandStart.mp starts)
  · rw [← contains_nameChar]
    exact all d mem

theorem begins_commandName : Grammar.commandName.Begins isInner := by
  refine ((Pattern.begins_set _).seq _).mono fun c outer => Bool.eq_false_iff.mpr fun starts => ?_
  have name := isNameChar_of_start (contains_commandStart.mp starts)
  rw [isInner, name] at outer
  exact Bool.noConfusion outer

/-- **A name is taken up to its end.** -/
theorem IsName.prefers (h : IsName front name (after ++ last)) (before : Text) :
    Grammar.commandName.Prefers (State.between before (name ++ after) [])
      (State.between (before ++ name) after []) := by
  obtain ⟨long, begins, all, -, ends⟩ := h
  match name, long with
  | c :: d :: more, _ =>
    have first := Pattern.outcomes_set_cons Grammar.commandStart before c (d :: more ++ after) []
    rw [if_pos (contains_commandStart.mpr (begins c rfl))] at first
    have later := Pattern.prefers_plus_set (before ++ [c]) (List.cons_ne_nil d more)
      (fun e mem => (contains_nameChar e).trans (all e (List.mem_cons_of_mem c mem)))
      (fun e mem => (contains_nameChar e).trans (by rwa [List.head?_append, mem] at ends)) []
    rw [List.append_assoc] at later
    exact (Pattern.prefers_of_outcomes first).seq later

/-- Blanks are passed over. -/
theorem prefers_spacing (before : Text) (spacing : ∀ c ∈ blanks, isSpacing c = true)
    (ends : ∀ c ∈ rest.head?, isNameChar c = true) :
    Lexeme.spacing.Prefers (State.between before (blanks ++ rest) [])
      (State.between (before ++ blanks) rest []) :=
  Pattern.prefers_star_set before (fun c mem => (contains_spacing c).trans (spacing c mem))
    (fun c mem => (contains_spacing c).trans (isSpacing_of_isNameChar (ends c mem))) []

theorem IsName.head (h : IsName front name back) (after : Text) :
    ∀ c ∈ (name ++ after).head?, isNameChar c = true := by
  obtain ⟨long, -, all, -, -⟩ := h
  obtain ⟨d, more, rfl⟩ := List.exists_cons_of_length_pos (Nat.lt_of_succ_lt long)
  intro c mem
  cases mem
  exact all _ List.mem_cons_self

/-! ## Commands -/

theorem begins_spacing {q : Pattern} (begins : q.Begins isInner) :
    (Pattern.seq Lexeme.spacing q).Begins isInner := by
  refine Pattern.Begins.opt_seq (((Pattern.begins_set _).plus _).mono fun c outer => ?_) begins
  rw [contains_spacing]
  exact (Bool.or_eq_false_iff.mp outer).2

theorem matches_spacing (fits : Lexeme.spacing.Matches front taken rest) :
    ∀ c ∈ taken, isSpacing c = true := by
  have fits : (Pattern.star .greedy (Pattern.set (.oneOf " \t"))).Matches front taken rest := fits
  exact fun c mem => (contains_spacing c).symm.trans (Pattern.matches_star_set.mp fits c mem)

theorem isInner_of_isSpacing {c : Char} (h : isSpacing c = true) : isInner c = true :=
  Bool.or_eq_true_iff.mpr (.inr h)

theorem isInner_of_isNameChar {c : Char} (h : isNameChar c = true) : isInner c = true :=
  Bool.or_eq_true_iff.mpr (.inl h)

theorem isInner_command : IsInner command where
  begins := begins_spacing (begins_commandName.group 1)
  inner := by
    rintro front _ rest ⟨blanks, name, rfl, first, second⟩
    obtain ⟨some, all⟩ := matches_commandName second
    refine ⟨List.append_ne_nil_of_right_ne_nil blanks some, List.forall_mem_append.mpr ⟨?_, ?_⟩⟩
    · exact fun c mem => isInner_of_isSpacing (matches_spacing first c mem)
    · exact fun c mem => isInner_of_isNameChar (all c mem)

/-- **The name behind a mark** is what the rule for commands prefers there. -/
theorem IsName.prefers_command (h : IsName front name (after ++ last)) (before : Text)
    (spacing : ∀ c ∈ blanks, isSpacing c = true) :
    command.Prefers (State.between before (blanks ++ (name ++ after)) [])
      (State.between (before ++ blanks ++ name) after
        [(1, ⟨(before ++ blanks).byteSize, (before ++ blanks ++ name).byteSize⟩)]) :=
  (prefers_spacing before spacing (h.head after)).seq ((h.prefers (before ++ blanks)).group 1)

/-! ## Commands behind wrappers -/

/-- No wrapper begins as another does. -/
theorem wrappers_distinct : ∀ wrapper ∈ wrappers, ∀ other ∈ wrappers,
    other.toList <+: wrapper.toList → other = wrapper := by
  decide

/-- **A wrapper with blanks behind it** is told from all others. -/
theorem prefers_wrapper (listed : wrapper ∈ wrappers) (before : Text)
    (ends : ∀ c ∈ rest.head?, isSpacing c = true) :
    (Pattern.alts (wrappers.map Pattern.text)).Prefers
      (State.between before (wrapper.toList ++ rest) [])
      (State.between (before ++ wrapper.toList) rest []) := by
  refine Pattern.prefers_alts_text listed (fun other given differ stands => ?_) before []
  obtain ⟨tail, same⟩ := stands
  rcases List.append_eq_append_iff.mp same with ⟨more, spelled, -⟩ | ⟨more, spelled, beyond⟩
  · exact differ (wrappers_distinct wrapper listed other given ⟨more, spelled.symm⟩)
  · -- What is longer would have a blank in it.
    cases more with
    | nil =>
      rw [List.append_nil] at spelled
      exact differ (wrappers_distinct wrapper listed other given (spelled ▸ List.prefix_refl _))
    | cons c more =>
      have inside : c ∈ other.toList := by simp [spelled]
      have blank := ends c (by rw [beyond]; rfl)
      exact absurd (blank.symm.trans ((wrappers_spelled other given).2 c inside).2.1) (by decide)

theorem begins_wrapper : (Pattern.alts (wrappers.map Pattern.text)).Begins isInner := by
  refine Pattern.begins_alts fun p mem => ?_
  obtain ⟨wrapper, listed, rfl⟩ := List.mem_map.mp mem
  obtain ⟨some, spelled⟩ := wrappers_spelled wrapper listed
  obtain ⟨first, more, same⟩ := List.exists_cons_of_ne_nil some
  refine (Pattern.begins_text wrapper same).mono fun c outer => beq_eq_false_iff_ne.mpr ?_
  rintro rfl
  have inner := isInner_of_isNameChar (spelled c (same ▸ List.mem_cons_self)).1
  exact absurd (inner.symm.trans outer) (by decide)

/-- What stands between a mark and the name behind a wrapper: blanks, the wrapper, and blanks. -/
theorem exists_of_wrapping (fits : (Pattern.seqs wrapping).Matches front taken rest) :
    ∃ lead, ∃ wrapper ∈ wrappers, ∃ blanks, taken = lead ++ (wrapper.toList ++ blanks) ∧
      (∀ c ∈ lead, isSpacing c = true) ∧ blanks ≠ [] ∧ ∀ c ∈ blanks, isSpacing c = true := by
  obtain ⟨lead, _, rfl, first, word, blanks, rfl, chosen, second⟩ := fits
  obtain ⟨p, mem, spelled⟩ := Pattern.matches_alts.mp chosen
  obtain ⟨wrapper, listed, rfl⟩ := List.mem_map.mp mem
  obtain rfl := Pattern.matches_text.mp spelled
  obtain ⟨some, spacing⟩ := Pattern.matches_plus_set.mp second
  refine ⟨lead, wrapper, listed, blanks, rfl, matches_spacing first, some, fun c mem => ?_⟩
  exact (contains_spacing c).symm.trans (spacing c mem)

theorem isInner_wrapped : IsInner wrapped where
  begins := begins_spacing (begins_wrapper.seq _)
  inner := by
    intro front taken rest fits
    obtain ⟨lead, name, rfl, fits, named⟩ := Pattern.matches_seqs_append.mp fits
    obtain ⟨lead, wrapper, listed, blanks, rfl, spacing, some, spacing'⟩ := exists_of_wrapping fits
    obtain ⟨-, all⟩ := matches_commandName named
    refine ⟨by simp [some], ?_⟩
    simp only [List.forall_mem_append]
    exact ⟨⟨fun c mem => isInner_of_isSpacing (spacing c mem),
      fun c mem => isInner_of_isNameChar ((wrappers_spelled wrapper listed).2 c mem).1,
      fun c mem => isInner_of_isSpacing (spacing' c mem)⟩,
      fun c mem => isInner_of_isNameChar (all c mem)⟩

/-- **The name behind a wrapper** is what the rule for such commands prefers behind a mark. -/
theorem IsName.prefers_wrapped (h : IsName front name (after ++ last)) (before : Text)
    {lead : Text} (listed : wrapper ∈ wrappers) (spacing : ∀ c ∈ lead, isSpacing c = true)
    (spacing' : ∀ c ∈ blanks, isSpacing c = true) (some : blanks ≠ []) :
    wrapped.Prefers
      (State.between before (lead ++ (wrapper.toList ++ (blanks ++ (name ++ after)))) [])
      (State.between (before ++ lead ++ wrapper.toList ++ blanks ++ name) after
        [(1, ⟨(before ++ lead ++ wrapper.toList ++ blanks).byteSize,
          (before ++ lead ++ wrapper.toList ++ blanks ++ name).byteSize⟩)]) := by
  have starts : ∀ c ∈ (wrapper.toList ++ (blanks ++ (name ++ after))).head?,
      isNameChar c = true := by
    obtain ⟨some, spelled⟩ := wrappers_spelled wrapper listed
    rw [List.head?_append_of_ne_nil _ some]
    exact fun c mem => (spelled c (List.mem_of_mem_head? mem)).1
  have ends : ∀ c ∈ (blanks ++ (name ++ after)).head?, isSpacing c = true := by
    rw [List.head?_append_of_ne_nil _ some]
    exact fun c mem => spacing' c (List.mem_of_mem_head? mem)
  have gap : (Pattern.oneOrMore (Pattern.oneOf " \t")).Prefers
      (State.between (before ++ lead ++ wrapper.toList) (blanks ++ (name ++ after)) [])
      (State.between (before ++ lead ++ wrapper.toList ++ blanks) (name ++ after) []) :=
    Pattern.prefers_plus_set _ some (fun c mem => (contains_spacing c).trans (spacing' c mem))
      (fun c mem => (contains_spacing c).trans (isSpacing_of_isNameChar (h.head after c mem))) []
  exact (prefers_spacing before spacing starts).seq
    ((prefers_wrapper listed (before ++ lead) ends).seq (gap.seq ((h.prefers _).group 1)))

end Shell

end Highlight
