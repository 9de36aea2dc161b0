import Highlight.Proofs.Steps
import Highlight.Proofs.Tokenize.Runs

/-!
# Gaps of a source

A source whose pieces are its characters (`Reading.letters`) is one that tokens never divide, so
every gap is a run of characters, whatever the grammar. This tells of any source what a rule
introduces: what it finds in the stretches that the rules before it leave
(`Grammar.introduces_iff_findsAt`). What is apart from all their tokens lies in such a stretch
(`Grammar.exists_leaves_of_apart`).
-/

namespace Highlight

open Pattern (Span)

theorem Text.singleton_nonempty (c : Char) : ([c] : Text) ≠ [] := List.cons_ne_nil c []

/-- A source read character by character. -/
def Reading.letters : Reading Char where
  text c := [c]
  kind _ := none
  nonempty := Text.singleton_nonempty

@[simp] theorem Reading.code_letters (text : Text) : Reading.letters.code text = text :=
  List.flatMap_singleton' text

/-- Tokens do not divide characters. -/
theorem Reading.isAligned_letters (code : Text) (grammar : Grammar) :
    Reading.letters.IsAligned code grammar := by
  have border {offset : Nat} (boundary : code.IsBoundary offset) :
      Reading.letters.IsBorder code offset := by
    obtain ⟨front, back, split, size⟩ := boundary
    exact ⟨front, back, split, by rw [code_letters, size]⟩
  intro token mem
  rw [code_letters] at mem
  have within := (Grammar.tokenize_cut mem).within
  exact ⟨border within.start_boundary, border within.stop_boundary⟩

namespace Grammar

variable {grammar : Grammar} {code front text back run : Text} {number : Nat} {rule : Rule}
  {token : Token} {gap : Span}

/-- Whether the tokens of a grammar leave a stretch between two texts to a further rule. -/
def Leaves (grammar : Grammar) (front run back : Text) : Prop :=
  ⟨front.byteSize, (front ++ run).byteSize⟩ ∈ grammar.gaps (front ++ run ++ back)

/-- Every gap is a stretch of the source. -/
theorem exists_leaves (mem : gap ∈ grammar.gaps code) : ∃ front run back,
    code = front ++ run ++ back ∧ gap = ⟨front.byteSize, (front ++ run).byteSize⟩ ∧
      grammar.Leaves front run back := by
  obtain ⟨front, run, back, split, same⟩ := (grammar.gaps_spec code gap mem).1.exists_parts
  refine ⟨front, run, back, split, same, ?_⟩
  rwa [Leaves, ← split, ← same]

/-- **What a rule introduces** is what it finds in the stretches that the rules before it leave. -/
theorem introduces_iff_findsAt (here : grammar.rules[number]? = some rule) (span : Span) :
    (∃ token, grammar.Introduces code number token ∧ token.span = span) ↔
      ∃ front run back, code = front ++ run ++ back ∧
        (grammar.firstRules number).Leaves front run back ∧
          span ∈ (rule.findsAt front run).map Find.span := by
  have pieces := (Reading.isAligned_letters code (grammar.firstRules number)).introduces_iff here
    span
  simp only [Reading.code_letters, Reading.IsGap, Reading.spanOfRun] at pieces
  refine pieces.trans ⟨?_, ?_⟩
  · rintro ⟨front, run, ⟨⟨back, rfl⟩, gap⟩, found⟩
    exact ⟨front, run, back, rfl, gap, found⟩
  · rintro ⟨front, run, back, rfl, gap, found⟩
    exact ⟨front, run, ⟨⟨back, rfl⟩, gap⟩, found⟩

/-- A stretch that is left is apart from the tokens. -/
theorem Leaves.apart (leaves : grammar.Leaves front run back)
    (mem : token ∈ (grammar.tokenize (front ++ run ++ back)).tokens) :
    (⟨front.byteSize, (front ++ run).byteSize⟩ : Span).Apart token.span :=
  (grammar.gaps_spec _ _ leaves).2 token mem

/-- Two gaps are one, or apart. -/
theorem gaps_eq_or_apart {a b : Span} (ha : a ∈ grammar.gaps code) (hb : b ∈ grammar.gaps code) :
    a = b ∨ a.Apart b := by
  have tokens := List.pairwise_map.mpr (grammar.tokenize_precedes code)
  have ordered : (grammar.gaps code).Pairwise Span.Precedes := by
    refine (Tokenize.gaps_spec code.isBoundary_zero tokens fun span claimed => ?_).1
    obtain ⟨token, mem, rfl⟩ := List.mem_map.mp claimed
    exact (tokenize_cut mem).within
  refine List.Pairwise.forall_of_forall_of_flip (R := fun a b : Span => a = b ∨ a.Apart b)
    (fun x _ => .inl rfl) ?_ ?_ ha hb
  · exact ordered.imp fun before => .inr (.inl before)
  · exact ordered.imp fun before => .inr (.inr before)

/-- What a rule introduces is found in a given stretch that the rules before have left, or it is
apart from the stretch. -/
theorem Introduces.found_or_apart (introduced : grammar.Introduces code number token)
    (here : grammar.rules[number]? = some rule) (split : code = front ++ run ++ back)
    (leaves : (grammar.firstRules number).Leaves front run back) :
    token.span ∈ (rule.findsAt front run).map Find.span ∨
      token.span.Apart ⟨front.byteSize, (front ++ run).byteSize⟩ := by
  obtain ⟨front', run', back', split', leaves', found⟩ :=
    (introduces_iff_findsAt here token.span).mp ⟨token, introduced, rfl⟩
  unfold Leaves at leaves leaves'
  rw [← split] at leaves
  rw [← split'] at leaves'
  rcases gaps_eq_or_apart leaves' leaves with one | apart
  · obtain ⟨start, stop⟩ := Span.mk.inj one
    obtain ⟨long, -⟩ := Text.append_inj_of_byteSize (split'.symm.trans split) stop
    obtain ⟨rfl, rfl⟩ := Text.append_inj_of_byteSize long start
    exact .inl found
  · obtain ⟨find, mem, same⟩ := List.mem_map.mp found
    rw [← same]
    exact .inr (apart.of_within (Rule.findsAt_within mem).span)

/-- **A token is classified in a match** in a stretch that the rules before have left, and no other
token so far reaches into the match. -/
theorem Introduces.exists_match (introduced : grammar.Introduces code number token)
    (here : grammar.rules[number]? = some rule) :
    ∃ outer before taken rest last m, code = outer ++ (before ++ (taken ++ rest)) ++ last ∧
      (grammar.firstRules number).Leaves outer (before ++ (taken ++ rest)) last ∧
        rule.pattern.matchAt? (Pattern.Cursor.between (outer ++ before) (taken ++ rest)) =
            some m ∧
          m.whole = ⟨(outer ++ before).byteSize, (outer ++ before ++ taken).byteSize⟩ ∧
            m.group? rule.group = some token.span ∧
              ∀ other ∈ ((grammar.firstRules (number + 1)).tokenize code).tokens,
                other = token ∨ other.span.Apart m.whole := by
  obtain ⟨outer, run, last, rfl, leaves, found⟩ :=
    (introduces_iff_findsAt here token.span).mp ⟨token, introduced, rfl⟩
  obtain ⟨find, mem, same⟩ := List.mem_map.mp found
  obtain ⟨before, taken, rest, m, rfl, matched, whole, group, others⟩ :=
    Rule.exists_match_of_mem_findsAt mem
  refine ⟨outer, before, taken, rest, last, m, rfl, leaves, matched, whole, ?_, ?_⟩
  · rw [group]
    exact congrArg some same
  have wide {other : Span}
      (apart : Span.Apart ⟨outer.byteSize, (outer ++ (before ++ (taken ++ rest))).byteSize⟩ other) :
      other.Apart m.whole := by
    rw [whole]
    refine (apart.mono ?_ ?_).symm
    · exact Text.byteSize_append outer before ▸ Nat.le_add_right _ _
    · simp only [Text.byteSize_append]
      omega
  intro other given
  rcases mem_firstRules_succ.mp given with old | new
  · exact .inr (wide (leaves.apart old))
  rcases new.found_or_apart here rfl leaves with found | apart
  · obtain ⟨find', mem', same'⟩ := List.mem_map.mp found
    rcases others find' mem' with rfl | before | behind
    · refine .inl ((eq_or_apart given introduced.1).resolve_right fun apart => ?_)
      have nonempty := (tokenize_cut given).start_lt_stop
      rw [← same', same] at nonempty apart
      unfold Span.Apart Span.Precedes at apart
      omega
    · exact .inr (.inl (by rwa [whole, ← same']))
    · exact .inr (.inr (by rwa [whole, ← same']))
  · exact .inr (wide apart.symm)

/-- A token that is a whole match is what the pattern matches where it begins. -/
theorem Introduces.exists_whole (introduced : grammar.Introduces code number token)
    (here : grammar.rules[number]? = some rule) (whole : rule.group = 0) :
    ∃ outer before rest last m, code = outer ++ (before ++ (token.text ++ rest)) ++ last ∧
      (outer ++ before).byteSize = token.start ∧
        (grammar.firstRules number).Leaves outer (before ++ (token.text ++ rest)) last ∧
          rule.pattern.matchAt? (Pattern.Cursor.between (outer ++ before) (token.text ++ rest)) =
              some m ∧
            m.whole = token.span ∧ rule.pattern.Matches (outer ++ before) token.text rest := by
  obtain ⟨outer, before, taken, rest, last, m, rfl, leaves, matched, extent, group, -⟩ :=
    introduced.exists_match here
  have same : m.whole = token.span := by
    rw [whole] at group
    exact Option.some.inj group
  obtain ⟨start, stop⟩ := Span.mk.inj (extent.symm.trans same)
  have parts : outer ++ (before ++ (taken ++ rest)) ++ last =
      (outer ++ before) ++ (taken ++ (rest ++ last)) := by
    simp only [List.append_assoc]
  have cut : token.text = taken := (tokenize_cut introduced.1).text_eq parts start stop
  obtain ⟨taken', rest', split, fits, extent'⟩ := Pattern.exists_matches_of_whole matched
  obtain ⟨-, stop'⟩ := Span.mk.inj (extent'.symm.trans extent)
  rw [Text.byteSize_append, Text.byteSize_append (outer ++ before)] at stop'
  obtain ⟨rfl, rfl⟩ := Text.append_inj_of_byteSize split.symm (Nat.add_left_cancel stop')
  subst cut
  exact ⟨outer, before, rest', last, m, rfl, start, leaves, matched, same, fits⟩

/-- Behind a stretch that is left a token begins, if the source goes on. -/
theorem Leaves.exists_token (leaves : grammar.Leaves front run back) {c : Char}
    (next : c ∈ back.head?) : ∃ token ∈ (grammar.tokenize (front ++ run ++ back)).tokens,
      c ∈ token.text.head? := by
  obtain ⟨more, rfl⟩ : ∃ more : Text, back = c :: more := by
    cases back with
    | nil => cases next
    | cons d more =>
      cases next
      exact ⟨more, rfl⟩
  have pos := c.utf8Size_pos
  have longer : (front ++ run ++ c :: more).byteSize =
      (front ++ run).byteSize + (c.utf8Size + more.byteSize) := Text.byteSize_append _ _
  rcases Tokenize.gaps_stop _ leaves with last | ⟨span, claimed, stop⟩
  · have ends : (front ++ run).byteSize = (front ++ run ++ c :: more).byteSize := last
    omega
  obtain ⟨token, mem, rfl⟩ := List.mem_map.mp claimed
  refine ⟨token, mem, ?_⟩
  have cut := tokenize_cut mem
  obtain ⟨before, after, split, size, -⟩ := Text.slice?_eq_some_iff.mp cut.slice
  obtain ⟨-, same⟩ := Text.append_inj_of_byteSize split (stop.trans size.symm)
  obtain ⟨d, text, spelled⟩ := List.exists_cons_of_ne_nil cut.nonempty
  rw [spelled] at same ⊢
  rw [(List.cons.inj same).1]
  rfl

/-- **What is apart from all tokens** lies in a stretch that they leave. -/
theorem exists_leaves_of_apart (split : code = front ++ (text ++ back)) (some : text ≠ [])
    (apart : ∀ token ∈ (grammar.tokenize code).tokens,
      token.span.Apart ⟨front.byteSize, (front ++ text).byteSize⟩) :
    ∃ outer before after last, front = outer ++ before ∧ back = after ++ last ∧
      grammar.Leaves outer (before ++ (text ++ after)) last := by
  have pos := Text.byteSize_pos some
  have size := Text.byteSize_append front text
  have whole : ∀ other ∈ (grammar.tokenize code).tokens.map Token.span,
      other.start < other.stop ∧
        (other.stop ≤ front.byteSize ∨ (front ++ text).byteSize ≤ other.start) := by
    intro other mem
    obtain ⟨token, given, rfl⟩ := List.mem_map.mp mem
    exact ⟨(tokenize_cut given).start_lt_stop, apart token given⟩
  have high : (front ++ text).byteSize ≤ code.byteSize := by
    rw [split, ← List.append_assoc, Text.byteSize_append (front ++ text)]
    exact Nat.le_add_right _ _
  have covered := Tokenize.claimed_or_gap ⟨front.byteSize, (front ++ text).byteSize⟩
    (Nat.zero_le _) high fun other mem => by
      have := whole other mem
      dsimp only
      omega
  obtain ⟨gap, mem, low, high⟩ := covered.resolve_left fun ⟨other, mem, low, high⟩ => by
    have := whole other mem
    dsimp only at low high
    omega
  obtain ⟨outer, run, last, parts, rfl, leaves⟩ := exists_leaves mem
  have first := split.symm.trans parts
  rw [List.append_assoc outer] at first
  obtain ⟨before, rfl, rest⟩ := Text.exists_middle first.symm low
  rw [← List.append_assoc before] at rest
  obtain ⟨after, rfl, rfl⟩ := Text.exists_middle rest.symm (by
    simp only [Text.byteSize_append] at high ⊢
    omega)
  rw [List.append_assoc before] at leaves
  exact ⟨outer, before, after, last, rfl, rfl, leaves⟩

end Grammar

end Highlight
