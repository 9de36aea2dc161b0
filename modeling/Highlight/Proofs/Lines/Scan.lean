import Highlight.Proofs.Pattern.Line
import Highlight.Proofs.Steps
import Highlight.Proofs.Tokenize.Progress

/-!
# Scans of lines

A rule whose pattern looks no further than its line finds in two lines what it finds in each of them
(`Rule.findsAt_lines`). A step of a scan is one wherever its line stands (`Rule.Step.move`), so by
induction the finds of the first line do not depend on what follows it; the line feed is passed
over, since no match takes it; and the finds of the second line are those it has alone, moved to
where it stands.

The windows between claimed spans follow suit: those of two lines are the windows of the one and of
the other, but for the last of the one and the first of the other, which are one (`gaps_lines`).
-/

namespace Highlight

open Pattern (Cursor Match Span lineFront)
open Tokenize

/-- A find that lies further on. -/
def Find.shift (k : Nat) (find : Find) : Find := ⟨find.start + k, find.stop + k, find.resume + k⟩

theorem Text.byteSize_append_newline (a b : Text) :
    (a ++ '\n' :: b).byteSize = b.byteSize + (a.byteSize + 1) := by
  have one : Text.byteSize ('\n' :: b) = 1 + b.byteSize := rfl
  rw [Text.byteSize_append, one]
  omega

/-- What stands behind a line is not seen from it. -/
theorem Text.firstLine_append {tail : Text} (edge : IsLineEdge tail.head?) (text : Text) :
    (text ++ tail).firstLine = text.firstLine := by
  induction text with
  | nil =>
    cases tail with
    | nil => rfl
    | cons c tail =>
      obtain rfl : c = '\n' := Option.some.inj (edge.resolve_left (Option.some_ne_none c))
      rfl
  | cons c text ih =>
    unfold firstLine at ih ⊢
    rw [List.cons_append, List.takeWhile_cons, List.takeWhile_cons, ih]

theorem Pattern.Match.group?_shift (m : Match) (k index : Nat) :
    (m.shift k).group? index = (m.group? index).map (Span.shift k) := by
  unfold group?
  split
  · rfl
  · simp only [shift]
    induction m.groups with
    | nil => rfl
    | cons entry groups ih =>
      rw [List.map_cons, List.lookup_cons, List.lookup_cons, ih]
      cases index == entry.1 <;> rfl

theorem Pattern.Span.isEmpty_shift (span : Span) (k : Nat) :
    (span.shift k).isEmpty = span.isEmpty :=
  decide_eq_decide.mpr (Nat.add_le_add_iff_right ..)

namespace Rule

variable {rule : Rule} {front front' run taken rest tail a b : Text} {finds : List Find} {d : Nat}

/-! ## Two lines -/

/-- **A step is one wherever its line stands.** -/
theorem Step.move (isLocal : rule.pattern.isLocal = true)
    (size : front'.byteSize = front.byteSize + d)
    (before : lineFront front'.getLast? = lineFront front.getLast?)
    (edge : IsLineEdge tail.head?) (step : Step rule front taken rest finds) :
    Step rule front' taken (rest ++ tail) (finds.map (Find.shift d)) := by
  have moved (text : Text) : rule.pattern.matchAt? (Cursor.between front' (text ++ tail)) =
      (rule.pattern.matchAt? (Cursor.between front text)).map (Match.shift d) :=
    Pattern.matchAt?_eq_shift isLocal size before (Text.firstLine_append edge text)
  have passed {m : Match} (empty : (m.group? rule.group).filter (!·.isEmpty) = none) :
      ((m.shift d).group? rule.group).filter (!·.isEmpty) = none := by
    rw [Match.group?_shift, Option.filter_map]
    simp only [Function.comp_def, Span.isEmpty_shift]
    rw [empty]
    rfl
  have reach (text : Text) : (front' ++ text).byteSize = (front ++ text).byteSize + d := by
    rw [Text.byteSize_append, Text.byteSize_append, size, Nat.add_right_comm]
  cases step with
  | @skip c rest empty =>
    refine .skip fun m mem => ?_
    have there := moved (c :: rest)
    rw [List.cons_append] at there
    rw [there] at mem
    obtain ⟨m, here, rfl⟩ := Option.map_eq_some_iff.mp mem
    obtain ⟨whole, none⟩ := empty m here
    refine ⟨?_, passed none⟩
    rw [Match.shift, whole, size]
    rfl
  | @pass m _ _ some here whole none =>
    have there := moved (taken ++ rest)
    rw [here, List.append_assoc] at there
    refine .pass some there ?_ (passed none)
    rw [Match.shift, whole, size, reach]
    rfl
  | @take m _ _ span some here whole group nonempty =>
    have there := moved (taken ++ rest)
    rw [here, List.append_assoc] at there
    have kept : (m.shift d).group? rule.group = Option.some (span.shift d) := by
      rw [Match.group?_shift, group]
      rfl
    have found := Step.take some there (by rw [Match.shift, whole, size, reach]; rfl) kept
      (Nat.add_lt_add_right nonempty d)
    rw [reach] at found
    exact found

/-- A scan of a text that ends with its line goes through the text as if it stood alone. -/
theorem findsAt_move (isLocal : rule.pattern.isLocal = true)
    (size : front'.byteSize = front.byteSize + d)
    (before : lineFront front'.getLast? = lineFront front.getLast?)
    (edge : IsLineEdge tail.head?) (run : Text) : rule.findsAt front' (run ++ tail) =
      (rule.findsAt front run).map (Find.shift d) ++ rule.findsAt (front' ++ run) tail := by
  induction length : run.length using Nat.strongRecOn generalizing front front' run with
  | ind length ih =>
    subst length
    by_cases some : run = []
    · subst some
      rw [List.append_nil]
      rfl
    obtain ⟨taken, rest, finds, rfl, step⟩ := rule.exists_step front some
    have shorter : rest.length < (taken ++ rest).length := by
      rw [List.length_append]
      exact Nat.lt_add_of_pos_left (List.length_pos_iff.mpr step.nonempty)
    have size' : (front' ++ taken).byteSize = (front ++ taken).byteSize + d := by
      rw [Text.byteSize_append, Text.byteSize_append, size, Nat.add_right_comm]
    have before' : lineFront (front' ++ taken).getLast? = lineFront (front ++ taken).getLast? := by
      rw [List.getLast?_append_of_ne_nil _ step.nonempty,
        List.getLast?_append_of_ne_nil _ step.nonempty]
    rw [List.append_assoc, (step.move isLocal size before edge).findsAt,
      ih rest.length shorter size' before' rest rfl, step.findsAt, List.map_append,
      List.append_assoc front', List.append_assoc (finds.map _)]

/-- A line feed is passed over: no match takes it. -/
theorem findsAt_newline (isLocal : rule.pattern.isLocal = true) (front rest : Text) :
    rule.findsAt front ('\n' :: rest) = rule.findsAt (front ++ ['\n']) rest := by
  refine (Step.skip fun m mem => ?_).findsAt
  have ended : rule.pattern.matchAt? (Cursor.between front ('\n' :: rest)) =
      (rule.pattern.matchAt? (Cursor.between front [])).map (Match.shift 0) :=
    Pattern.matchAt?_eq_shift isLocal rfl rfl rfl
  obtain ⟨m', here, rfl⟩ := Option.map_eq_some_iff.mp (ended.symm.trans mem)
  obtain ⟨taken, rest', split, -, whole⟩ := Pattern.exists_matches_of_whole here
  obtain ⟨rfl, -⟩ := List.append_eq_nil_iff.mp split.symm
  rw [List.append_nil] at whole
  have empty : (m'.shift 0).whole = ⟨front.byteSize, front.byteSize⟩ :=
    congrArg (Span.shift 0) whole
  exact ⟨empty, filter_group?_of_empty mem empty⟩

/-- What is found behind a line feed is what the text there has alone. -/
theorem findsAt_behind (isLocal : rule.pattern.isLocal = true) (a front run : Text) :
    rule.findsAt (a ++ '\n' :: front) run =
      (rule.findsAt front run).map (Find.shift (a.byteSize + 1)) := by
  have before : lineFront (a ++ '\n' :: front).getLast? = lineFront front.getLast? := by
    rw [List.getLast?_append_of_ne_nil _ (List.cons_ne_nil _ _), List.getLast?_cons]
    cases front.getLast? <;> rfl
  have edge : IsLineEdge ([] : Text).head? := .inl rfl
  have moved := findsAt_move isLocal (Text.byteSize_append_newline a front) before edge run
  rwa [List.append_nil, show rule.findsAt (a ++ '\n' :: front ++ run) [] = [] from rfl,
    List.append_nil] at moved

/-- **What is found in two lines** is what is found in each. -/
theorem findsAt_lines (isLocal : rule.pattern.isLocal = true) (front run run' : Text) :
    rule.findsAt front (run ++ '\n' :: run') = rule.findsAt front run ++
      (rule.findsAt [] run').map (Find.shift ((front ++ run).byteSize + 1)) := by
  have same : Find.shift 0 = id := rfl
  rw [findsAt_move (d := 0) isLocal rfl rfl (.inr rfl) run, findsAt_newline isLocal, same,
    List.map_id, findsAt_behind isLocal (front ++ run) [] run']

/-! ## Windows -/

/-- What a rule finds in a window of a text. -/
def foundIn (rule : Rule) (code : Text) (window : Span) : List Find :=
  (rule.findAll code window.start window.stop).toOption.getD []

theorem foundIn_eq (rule : Rule) (front run back : Text) :
    rule.foundIn (front ++ run ++ back) ⟨front.byteSize, (front ++ run).byteSize⟩ =
      rule.findsAt front run := by
  rw [foundIn, findAll_eq]
  rfl

/-- What is found in windows of a text is what is found in each of them. -/
theorem findInGaps_eq (rule : Rule) {code : Text} {windows : List Span}
    (within : ∀ window ∈ windows, window.Within code 0 code.byteSize) :
    findInGaps rule code windows = .ok (windows.flatMap (rule.foundIn code)) := by
  induction windows with
  | nil => rfl
  | cons window windows ih =>
    obtain ⟨here, there⟩ := List.forall_mem_cons.mp within
    obtain ⟨front, run, back, rfl, rfl⟩ := here.exists_parts
    rw [List.flatMap_cons, foundIn_eq, findInGaps, findAll_eq, ih there]
    rfl

/-- A window of the first text. -/
theorem foundIn_append (rule : Rule) {window : Span} (within : window.Within a 0 a.byteSize)
    (tail : Text) :
    rule.foundIn (a ++ tail) window = rule.foundIn a window := by
  obtain ⟨front, run, back, rfl, rfl⟩ := within.exists_parts
  rw [List.append_assoc (front ++ run), foundIn_eq, foundIn_eq]

/-- A window of the text behind a line feed. -/
theorem foundIn_behind (isLocal : rule.pattern.isLocal = true) {window : Span}
    (within : window.Within b 0 b.byteSize) (a : Text) :
    rule.foundIn (a ++ '\n' :: b) (window.shift (a.byteSize + 1)) =
      (rule.foundIn b window).map (Find.shift (a.byteSize + 1)) := by
  obtain ⟨front, run, back, rfl, rfl⟩ := within.exists_parts
  have split : a ++ '\n' :: (front ++ run ++ back) = (a ++ '\n' :: front) ++ run ++ back := by
    simp only [List.append_assoc, List.cons_append]
  rw [foundIn_eq, ← findsAt_behind isLocal, Span.shift, ← Text.byteSize_append_newline,
    ← Text.byteSize_append_newline, split, ← List.cons_append, ← List.append_assoc a, foundIn_eq]

/-- A window that begins in the first text and ends behind the line feed. -/
theorem foundIn_across (isLocal : rule.pattern.isLocal = true) {start stop : Nat}
    (first : Span.Within a 0 a.byteSize ⟨start, a.byteSize⟩)
    (second : Span.Within b 0 b.byteSize ⟨0, stop⟩) :
    rule.foundIn (a ++ '\n' :: b) ⟨start, stop + (a.byteSize + 1)⟩ =
      rule.foundIn a ⟨start, a.byteSize⟩ ++
        (rule.foundIn b ⟨0, stop⟩).map (Find.shift (a.byteSize + 1)) := by
  obtain ⟨front, run, rfl, rfl⟩ := first.start_boundary
  obtain ⟨run', back, rfl, rfl⟩ := second.stop_boundary
  have place : run'.byteSize + ((front ++ run).byteSize + 1) =
      (front ++ (run ++ '\n' :: run')).byteSize := by
    rw [← Text.byteSize_append_newline, List.append_assoc]
  have here := rule.foundIn_eq front run []
  have there : rule.foundIn (run' ++ back) ⟨0, run'.byteSize⟩ = rule.findsAt [] run' :=
    rule.foundIn_eq [] run' back
  rw [List.append_nil] at here
  have split : front ++ run ++ '\n' :: (run' ++ back) = front ++ (run ++ '\n' :: run') ++ back := by
    simp only [List.append_assoc, List.cons_append]
  rw [place, split, foundIn_eq, findsAt_lines isLocal, here, there]

end Rule

/-! ## The windows of two lines -/

theorem Tokenize.gaps_shift (size start d : Nat) (claimed : List Span) :
    gaps (size + d) (start + d) (claimed.map (Span.shift d)) =
      (gaps size start claimed).map (Span.shift d) := by
  induction claimed generalizing start with
  | nil => rfl
  | cons span claimed ih => exact congrArg (_ :: ·) (ih span.stop)

/-- **The windows of two lines** are those of each, with one window across the line feed. -/
theorem Tokenize.gaps_lines (size size' d start : Nat) (claimed claimed' : List Span) :
    ∃ before open' close after, gaps size start claimed = before ++ [⟨open', size⟩] ∧
      gaps size' 0 claimed' = ⟨0, close⟩ :: after ∧
        gaps (size' + d) start (claimed ++ claimed'.map (Span.shift d)) =
          before ++ ⟨open', close + d⟩ :: after.map (Span.shift d) := by
  induction claimed generalizing start with
  | nil =>
    cases claimed' with
    | nil => exact ⟨[], start, size', [], rfl, rfl, rfl⟩
    | cons span claimed' =>
      exact ⟨[], start, span.start, gaps size' span.stop claimed', rfl, rfl,
        congrArg (_ :: ·) (gaps_shift size' span.stop d claimed')⟩
  | cons span claimed ih =>
    obtain ⟨before, open', close, after, first, second, both⟩ := ih span.stop
    exact ⟨⟨start, span.start⟩ :: before, open', close, after, congrArg (_ :: ·) first, second,
      congrArg (_ :: ·) both⟩

end Highlight
