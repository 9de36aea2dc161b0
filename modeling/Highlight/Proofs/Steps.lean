import Highlight.Proofs.Pattern.Language
import Highlight.Proofs.Scan

/-!
# Steps of a scan

A scan goes through a text step by step (`Rule.Step`): where nothing is matched, or the empty text,
it passes a character; a match that classifies nothing it passes as a whole; any other match is a
find. From what one step does it follows what a whole scan does. Every find is a match at its place,
and no other find reaches into the match (`Rule.exists_of_mem_findsAt`). A place is scanned unless a
match that began before it reaches beyond it (`Rule.reaches_or_covered`).
-/

namespace Highlight

open Pattern (Cursor Match Span)

namespace Rule

variable {rule : Rule} {front text before taken behind rest : Text} {find : Find}
  {finds : List Find}

/-! ## One step -/

/-- What a scan does at a place: what it takes off the text, and what it finds. -/
inductive Step (rule : Rule) (front : Text) : Text → Text → List Find → Prop
  | skip {c : Char} {rest : Text} :
      (∀ m ∈ rule.pattern.matchAt? (Cursor.between front (c :: rest)),
        m.whole = ⟨front.byteSize, front.byteSize⟩ ∧
          (m.group? rule.group).filter (!·.isEmpty) = none) →
      Step rule front [c] rest []
  | pass {m : Match} {taken rest : Text} : taken ≠ [] →
      rule.pattern.matchAt? (Cursor.between front (taken ++ rest)) = some m →
      m.whole = ⟨front.byteSize, (front ++ taken).byteSize⟩ →
      (m.group? rule.group).filter (!·.isEmpty) = none → Step rule front taken rest []
  | take {m : Match} {taken rest : Text} {span : Span} : taken ≠ [] →
      rule.pattern.matchAt? (Cursor.between front (taken ++ rest)) = some m →
      m.whole = ⟨front.byteSize, (front ++ taken).byteSize⟩ →
      m.group? rule.group = some span → span.start < span.stop →
      Step rule front taken rest [⟨span.start, span.stop, (front ++ taken).byteSize⟩]

namespace Step

theorem nonempty (step : Step rule front taken rest finds) : taken ≠ [] := by
  cases step with
  | skip => exact List.cons_ne_nil _ _
  | pass some => exact some
  | take some => exact some

/-- What a scan finds, it finds in a step or behind it. -/
theorem findsAt (step : Step rule front taken rest finds) :
    rule.findsAt front (taken ++ rest) = finds ++ rule.findsAt (front ++ taken) rest := by
  cases step with
  | @skip c rest empty =>
    cases here : rule.pattern.matchAt? (Cursor.between front (c :: rest)) with
    | none => exact findsAt_skip here
    | some m =>
      obtain ⟨whole, passed⟩ := empty m here
      exact findsAt_pass_empty here passed whole
  | pass some here whole passed => exact findsAt_pass here passed whole some
  | take some here whole group nonempty =>
    exact findsAt_take _ here group nonempty (congrArg Span.stop whole) some

/-- What is found in a step lies in what the step takes. -/
theorem stop_le (step : Step rule front taken rest finds) (mem : find ∈ finds) :
    find.stop ≤ (front ++ taken).byteSize := by
  cases step with
  | skip | pass => cases mem
  | @take m _ _ span some here whole group nonempty =>
    obtain rfl := List.mem_singleton.mp mem
    have stands : (Cursor.between front (taken ++ rest)).StandsIn (front ++ (taken ++ rest)) :=
      ⟨front, rfl, rfl, rfl⟩
    have within := (Pattern.matchAt?_within stands here).groups _ _ group
    exact Nat.le_trans within.le_high (Nat.le_of_eq (congrArg Span.stop whole))

/-- What a step takes is a match, or one character. -/
theorem isMatch (step : Step rule front taken rest finds) : (∃ c, taken = [c]) ∨
    ∃ m, rule.pattern.matchAt? (Cursor.between front (taken ++ rest)) = some m ∧
      m.whole = ⟨front.byteSize, (front ++ taken).byteSize⟩ := by
  cases step with
  | @skip c => exact .inl ⟨c, rfl⟩
  | pass _ here whole => exact .inr ⟨_, here, whole⟩
  | take _ here whole => exact .inr ⟨_, here, whole⟩

end Step

/-- A match of the empty text classifies nothing: a group lies in its match. -/
theorem filter_group?_of_empty {m : Match}
    (here : rule.pattern.matchAt? (Cursor.between front text) = some m)
    (whole : m.whole = ⟨front.byteSize, front.byteSize⟩) :
    (m.group? rule.group).filter (!·.isEmpty) = none := by
  refine Option.eq_none_iff_forall_not_mem.mpr fun span kept => ?_
  obtain ⟨group, nonempty⟩ := Option.filter_eq_some_iff.mp kept
  have stands : (Cursor.between front text).StandsIn (front ++ text) := ⟨front, rfl, rfl, rfl⟩
  have within := (Pattern.matchAt?_within stands here).groups _ _ group
  have low := within.low_le
  have high := within.le_high
  rw [whole] at low high
  refine absurd (Nat.le_trans high low) ?_
  simpa [Span.isEmpty] using nonempty

/-- There is a step at every place. -/
theorem exists_step (rule : Rule) (front : Text) (some : text ≠ []) :
    ∃ taken rest finds, text = taken ++ rest ∧ Step rule front taken rest finds := by
  obtain ⟨c, more, rfl⟩ := List.exists_cons_of_ne_nil some
  cases here : rule.pattern.matchAt? (Cursor.between front (c :: more)) with
  | none =>
    refine ⟨[c], more, [], rfl, .skip fun m mem => ?_⟩
    rw [here] at mem
    cases mem
  | some m =>
    obtain ⟨taken, rest, split, -, whole⟩ := Pattern.exists_matches_of_whole here
    by_cases empty : taken = []
    · subst empty
      rw [List.append_nil] at whole
      refine ⟨[c], more, [], rfl, .skip fun m' mem => ?_⟩
      obtain rfl := Option.some.inj (here.symm.trans mem)
      exact ⟨whole, filter_group?_of_empty here whole⟩
    · rw [split] at here
      cases kept : (m.group? rule.group).filter (!·.isEmpty) with
      | none => exact ⟨taken, rest, [], split, .pass empty here whole kept⟩
      | some span =>
        obtain ⟨group, nonempty⟩ := Option.filter_eq_some_iff.mp kept
        refine ⟨taken, rest, _, split, .take empty here whole group ?_⟩
        simpa [Span.isEmpty] using nonempty

/-! ## A whole scan -/

/-- What is found lies in the text that is scanned. -/
theorem findsAt_within (mem : find ∈ rule.findsAt front text) :
    find.Within (front ++ text) front.byteSize (front ++ text).byteSize := by
  have asks : Asks rule (front ++ text ++ []) _ ⟨front.byteSize, (front ++ text).byteSize⟩ := .whole
  have within := ((findsFrom_spec text.byteSize asks).2 find mem).2
  rwa [List.append_nil] at within

/-- **Every find is a match** at its place, with its group for the find, and no other find reaches
into the match. -/
theorem exists_match_of_mem_findsAt (mem : find ∈ rule.findsAt front text) :
    ∃ before taken rest m, text = before ++ (taken ++ rest) ∧
      rule.pattern.matchAt? (Cursor.between (front ++ before) (taken ++ rest)) = some m ∧
        m.whole = ⟨(front ++ before).byteSize, (front ++ before ++ taken).byteSize⟩ ∧
          m.group? rule.group = some ⟨find.start, find.stop⟩ ∧
            ∀ other ∈ rule.findsAt front text, other = find ∨
              other.stop ≤ (front ++ before).byteSize ∨
                (front ++ before ++ taken).byteSize ≤ other.start := by
  induction size : text.length using Nat.strongRecOn generalizing front text with
  | ind size ih =>
    subst size
    by_cases some : text = []
    · subst some
      cases mem
    obtain ⟨first, more, finds, rfl, step⟩ := rule.exists_step front some
    have shorter : more.length < (first ++ more).length := by
      rw [List.length_append]
      exact Nat.lt_add_of_pos_left (List.length_pos_iff.mpr step.nonempty)
    have split := step.findsAt
    rw [split] at mem ⊢
    rcases List.mem_append.mp mem with own | later
    · cases step with
      | skip | pass => cases own
      | take some here whole group nonempty =>
        obtain rfl := List.mem_singleton.mp own
        refine ⟨[], first, more, _, rfl, ?_, ?_, group, fun other mem => ?_⟩
        · rwa [List.append_nil]
        · rwa [List.append_nil]
        · rw [List.append_nil]
          refine (List.mem_cons.mp mem).imp_right fun later => .inr ?_
          exact (findsAt_within later).low_le
    · obtain ⟨before, taken, rest, m, rfl, here, whole, group, apart⟩ :=
        ih more.length shorter later rfl
      refine ⟨first ++ before, taken, rest, m, (List.append_assoc ..).symm, ?_⟩
      rw [← List.append_assoc]
      refine ⟨here, whole, group, fun other mem => ?_⟩
      refine (List.mem_append.mp mem).elim (fun early => .inr (.inl ?_)) (apart other)
      rw [Text.byteSize_append]
      exact Nat.le_trans (step.stop_le early) (Nat.le_add_right _ _)

/-- **A place is scanned** unless a match that begins before it reaches beyond it. -/
theorem reaches_or_covered (rule : Rule) (front before behind : Text) :
    (∃ finds, rule.findsAt front (before ++ behind) =
      finds ++ rule.findsAt (front ++ before) behind) ∨
    ∃ earlier later more rest m, before = earlier ++ later ∧ later ≠ [] ∧
      behind = more ++ rest ∧ more ≠ [] ∧
        rule.pattern.matchAt? (Cursor.between (front ++ earlier) (later ++ more ++ rest)) =
            some m ∧
          m.whole = ⟨(front ++ earlier).byteSize,
            (front ++ earlier ++ (later ++ more)).byteSize⟩ := by
  induction size : before.length using Nat.strongRecOn generalizing front before with
  | ind size ih =>
    subst size
    by_cases some : before = []
    · subst some
      exact .inl ⟨[], by rw [List.append_nil]; rfl⟩
    obtain ⟨taken, rest, finds, split, step⟩ :=
      rule.exists_step front (List.append_ne_nil_of_left_ne_nil some behind)
    rcases List.append_eq_append_iff.mp split with ⟨more, rfl, rfl⟩ | ⟨next, rfl, rfl⟩
    · by_cases reached : more = []
      · subst reached
        rw [List.append_nil] at step
        exact .inl ⟨finds, step.findsAt⟩
      · refine .inr ⟨[], before, more, rest, ?_⟩
        rcases step.isMatch with ⟨c, one⟩ | ⟨m, here, whole⟩
        · rcases List.append_eq_singleton_iff.mp one with ⟨none, -⟩ | ⟨-, none⟩
          · exact absurd none some
          · exact absurd none reached
        · rw [List.append_nil]
          exact ⟨m, rfl, some, rfl, reached, here, whole⟩
    · have shorter : next.length < (taken ++ next).length := by
        rw [List.length_append]
        exact Nat.lt_add_of_pos_left (List.length_pos_iff.mpr step.nonempty)
      rw [List.append_assoc, step.findsAt, ← List.append_assoc front]
      rcases ih next.length shorter (front ++ taken) next rfl with
        ⟨found, reached⟩ | ⟨earlier, later, more, after, m, rfl, covers⟩
      · refine .inl ⟨finds ++ found, ?_⟩
        rw [reached, List.append_assoc front, List.append_assoc finds]
      · rw [List.append_assoc front] at covers
        exact .inr ⟨taken ++ earlier, later, more, after, m, (List.append_assoc ..).symm, covers⟩

end Rule

end Highlight
