import Highlight.Proofs.Finds
import Highlight.Proofs.Pattern.Preference

/-!
# Scanning a text

What a rule finds in the second part of a text, of which it sees the first part too (`findsAt`), is
told by going through the part from left to right: a character where nothing matches is passed over
(`findsAt_skip`), and a match is a find, after which the scan goes on (`findsAt_take`). That the
search is bounded by a number of steps makes no difference (`findFrom_fuel`, `findsFrom_fuel`):
every step goes on in the text.
-/

namespace Highlight

open Pattern (Cursor Match Span)

namespace Pattern

variable {p : Pattern} {front rest : Text}

theorem seek?_append (front rest : Text) (offset : Nat) (before : Option Char) :
    seek? (offset + front.byteSize) offset before (front ++ rest) =
      some ⟨offset + front.byteSize, front.getLast?.or before, rest⟩ := by
  induction front generalizing offset before with
  | nil =>
    cases rest with
    | nil => exact if_pos (Nat.le_refl _)
    | cons c rest => exact if_pos (Nat.le_refl _)
  | cons c front ih =>
    have pos : 0 < c.utf8Size := c.utf8Size_pos
    have ahead : ¬ offset + Text.byteSize (c :: front) ≤ offset := by
      simp only [Text.byteSize]
      omega
    have later := ih (offset + c.utf8Size) (some c)
    rw [Nat.add_assoc] at later
    rw [List.cons_append, seek?, if_neg ahead]
    refine later.trans ?_
    rw [List.getLast?_cons]
    cases front.getLast? <;> rfl

/-- A search from an offset starts between the parts of the text at the offset. -/
theorem search?_append (p : Pattern) (front rest : Text) :
    p.search? (front ++ rest) front.byteSize =
      p.searchFrom? front.byteSize front.getLast? rest := by
  have sought := seek?_append front rest 0 none
  rw [Nat.zero_add, Option.or_none] at sought
  rw [search?, sought]
  rfl

/-- Where nothing matches, a search goes on behind the next character. -/
theorem search?_skip {c : Char}
    (none : p.matchAt? (Cursor.between front (c :: rest)) = none) :
    p.search? (front ++ c :: rest) front.byteSize =
      p.search? (front ++ c :: rest) (front ++ [c]).byteSize := by
  have behind := search?_append p (front ++ [c]) rest
  rw [List.append_assoc] at behind
  rw [search?_append, searchFrom?]
  have none : p.matchAt? ⟨front.byteSize, front.getLast?, c :: rest⟩ = Option.none := none
  rw [none]
  refine Eq.trans ?_ behind.symm
  rw [Text.byteSize_append, List.getLast?_concat]
  rfl

/-- A match where the search starts is found. -/
theorem search?_here {m : Match} (here : p.matchAt? (Cursor.between front rest) = some m) :
    p.search? (front ++ rest) front.byteSize = some m := by
  have here : p.matchAt? ⟨front.byteSize, front.getLast?, rest⟩ = some m := here
  rw [search?_append]
  cases rest with
  | nil => exact here
  | cons c rest => rw [searchFrom?, here]

end Pattern

namespace Rule

variable {rule : Rule} {text front rest : Text} {offset : Nat}

/-! ## Enough steps -/

/-- A match that is passed over takes the search on. -/
theorem lt_passOver {m : Match} (h : rule.pattern.search? text offset = some m) :
    offset < if m.whole.isEmpty then nextBoundary text m.whole.start else m.whole.stop := by
  have within := (Pattern.search?_within h).whole
  have low := within.low_le
  split
  · exact Nat.lt_of_le_of_lt low (lt_nextBoundary within.start_boundary.le)
  · next nonempty =>
    unfold Span.isEmpty at nonempty
    simp only [decide_eq_true_eq] at nonempty
    omega

theorem findFrom_of_le (behind : text.byteSize ≤ offset) (fuel : Nat) :
    rule.findFrom text text.byteSize fuel offset = none := by
  cases fuel with
  | zero => rfl
  | succ fuel => exact if_neg (Nat.not_lt.mpr behind)

/-- A search has the result that any other with enough steps has. -/
theorem findFrom_fuel {fuel fuel' : Nat} (enough : text.byteSize - offset ≤ fuel)
    (enough' : text.byteSize - offset ≤ fuel') :
    rule.findFrom text text.byteSize fuel offset =
      rule.findFrom text text.byteSize fuel' offset := by
  induction fuel generalizing offset fuel' with
  | zero =>
    have behind : text.byteSize ≤ offset := Nat.le_of_sub_eq_zero (Nat.le_zero.mp enough)
    rw [findFrom_of_le behind, findFrom_of_le behind]
  | succ fuel ih =>
    by_cases inside : offset < text.byteSize
    · obtain ⟨fuel', rfl⟩ : ∃ k, fuel' = k + 1 := ⟨fuel' - 1, by omega⟩
      simp only [findFrom, if_pos inside]
      cases searched : rule.pattern.search? text offset with
      | none => rfl
      | some m =>
        have further := lt_passOver searched
        dsimp only
        split
        · rfl
        · exact ih (by omega) (by omega)
    · rw [findFrom_of_le (Nat.not_lt.mp inside), findFrom_of_le (Nat.not_lt.mp inside)]

theorem find?_within {find : Find} (h : rule.find? text offset = some find) :
    find.Within text offset text.byteSize :=
  findFrom_within h

/-- The finds of a text are those that any other number of steps that is enough gives. -/
theorem findsFrom_fuel {fuel fuel' : Nat} (enough : text.byteSize - offset ≤ fuel)
    (enough' : text.byteSize - offset ≤ fuel') :
    rule.findsFrom text fuel offset = rule.findsFrom text fuel' offset := by
  induction fuel generalizing offset fuel' with
  | zero =>
    have behind : text.byteSize ≤ offset := Nat.le_of_sub_eq_zero (Nat.le_zero.mp enough)
    cases fuel' with
    | zero => rfl
    | succ fuel' => rw [findsFrom, findsFrom, find?, findFrom_of_le behind]
  | succ fuel ih =>
    cases fuel' with
    | zero =>
      have behind : text.byteSize ≤ offset := Nat.le_of_sub_eq_zero (Nat.le_zero.mp enough')
      rw [findsFrom, findsFrom, find?, findFrom_of_le behind]
    | succ fuel' =>
      simp only [findsFrom]
      cases found : rule.find? text offset with
      | none => rfl
      | some find =>
        have within := find?_within found
        have low := within.low_le
        have nonempty := within.nonempty
        have behind := within.stop_le_resume
        exact congrArg (find :: ·) (ih (by omega) (by omega))

/-! ## The scan -/

/-- What a rule finds in the second part of a text. -/
def findsAt (rule : Rule) (front rest : Text) : List Find :=
  rule.findsFrom (front ++ rest) rest.byteSize front.byteSize

/-- The finds of a window are those of the part of the text that the window shows. -/
theorem findAll_eq (rule : Rule) (front run back : Text) :
    rule.findAll (front ++ run ++ back) front.byteSize (front ++ run).byteSize =
      .ok (rule.findsAt front run) := by
  rw [findAll, Text.cutAt?_append]
  dsimp only
  rw [Text.byteSize_append, Nat.add_sub_cancel_left, findsAt]

/-- Where nothing matches, the first find is the one from the next character on. -/
theorem find?_skip {c : Char}
    (none : rule.pattern.matchAt? (Cursor.between front (c :: rest)) = none) :
    rule.find? (front ++ c :: rest) front.byteSize =
      rule.find? (front ++ c :: rest) (front ++ [c]).byteSize := by
  have skip := Pattern.search?_skip none
  have pos : 0 < c.utf8Size := c.utf8Size_pos
  have size : (front ++ c :: rest).byteSize =
      (front ++ [c]).byteSize + rest.byteSize := by
    simp only [Text.byteSize_append, Text.byteSize]
    omega
  have next : (front ++ [c]).byteSize = front.byteSize + c.utf8Size := by
    simp only [Text.byteSize_append, Text.byteSize, Nat.add_zero]
  generalize front ++ c :: rest = text at skip size ⊢
  unfold find?
  have inside : front.byteSize < text.byteSize := by omega
  obtain ⟨fuel, hfuel⟩ : ∃ k, text.byteSize - front.byteSize = k + 1 :=
    ⟨text.byteSize - front.byteSize - 1, by omega⟩
  dsimp only
  rw [hfuel, findFrom, if_pos inside, skip]
  -- Behind the last character only the end is left, where every match is empty.
  by_cases ended : (front ++ [c]).byteSize < text.byteSize
  · obtain ⟨fuel', hfuel'⟩ : ∃ k, text.byteSize - (front ++ [c]).byteSize = k + 1 :=
      ⟨text.byteSize - (front ++ [c]).byteSize - 1, by omega⟩
    rw [hfuel', findFrom, if_pos ended]
    cases searched : rule.pattern.search? text (front ++ [c]).byteSize with
    | none => rfl
    | some m =>
      have further := lt_passOver searched
      dsimp only
      split
      · rfl
      · exact findFrom_fuel (by omega) (by omega)
  · rw [findFrom_of_le (Nat.not_lt.mp ended)]
    cases searched : rule.pattern.search? text (front ++ [c]).byteSize with
    | none => rfl
    | some m =>
      have within := Pattern.search?_within searched
      have further := lt_passOver searched
      dsimp only
      split
      · next span hspan =>
        obtain ⟨hgroup, nonempty⟩ := Option.filter_eq_some_iff.mp hspan
        have inside := within.groups _ _ hgroup
        have low := within.whole.low_le
        have low' := inside.low_le
        have high := inside.le_high
        have high' := within.whole.le_high
        simp only [Span.isEmpty, Bool.not_eq_true', decide_eq_false_iff_not] at nonempty
        omega
      · exact findFrom_of_le (by omega) fuel

/-- What the search passes over, the scan passes over. -/
theorem findsAt_of_find? {taken : Text} (some : taken ≠ [])
    (same : rule.find? (front ++ (taken ++ rest)) front.byteSize =
      rule.find? (front ++ (taken ++ rest)) (front ++ taken).byteSize) :
    rule.findsAt front (taken ++ rest) = rule.findsAt (front ++ taken) rest := by
  have pos := Text.byteSize_pos some
  have size : (front ++ (taken ++ rest)).byteSize =
      (front ++ taken).byteSize + rest.byteSize := by
    simp only [Text.byteSize_append]
    omega
  unfold findsAt
  rw [List.append_assoc, Text.byteSize_append]
  generalize front ++ (taken ++ rest) = text at same size ⊢
  have step : rule.findsFrom text (taken.byteSize + rest.byteSize) front.byteSize =
      rule.findsFrom text (taken.byteSize + rest.byteSize) (front ++ taken).byteSize := by
    obtain ⟨fuel, hfuel⟩ : ∃ k, taken.byteSize + rest.byteSize = k + 1 :=
      ⟨taken.byteSize + rest.byteSize - 1, by omega⟩
    rw [hfuel, findsFrom, findsFrom, same]
  rw [step]
  exact findsFrom_fuel (by omega) (by omega)

/-- **Where nothing matches** the scan goes on behind the next character. -/
theorem findsAt_skip {c : Char}
    (none : rule.pattern.matchAt? (Cursor.between front (c :: rest)) = none) :
    rule.findsAt front (c :: rest) = rule.findsAt (front ++ [c]) rest :=
  findsAt_of_find? (List.cons_ne_nil c []) (find?_skip none)

/-- A match whose group is empty or took no part is passed over, up to where the search goes on. -/
theorem findsAt_of_passed {m : Match} {taken : Text}
    (here : rule.pattern.matchAt? (Cursor.between front (taken ++ rest)) = some m)
    (passed : (m.group? rule.group).filter (!·.isEmpty) = none)
    (onward : (if m.whole.isEmpty then nextBoundary (front ++ (taken ++ rest)) m.whole.start
      else m.whole.stop) = (front ++ taken).byteSize) (some : taken ≠ []) :
    rule.findsAt front (taken ++ rest) = rule.findsAt (front ++ taken) rest := by
  have searched := Pattern.search?_here here
  have pos := Text.byteSize_pos some
  have next : (front ++ taken).byteSize = front.byteSize + taken.byteSize :=
    Text.byteSize_append _ _
  have size : (front ++ (taken ++ rest)).byteSize =
      (front ++ taken).byteSize + rest.byteSize := by
    simp only [Text.byteSize_append]
    omega
  refine findsAt_of_find? some ?_
  generalize front ++ (taken ++ rest) = text at searched size onward ⊢
  obtain ⟨fuel, hfuel⟩ : ∃ k, text.byteSize - front.byteSize = k + 1 :=
    ⟨text.byteSize - front.byteSize - 1, by omega⟩
  unfold find?
  dsimp only
  rw [hfuel, findFrom, if_pos (by omega), searched]
  dsimp only
  rw [passed, onward]
  dsimp only
  exact findFrom_fuel (by omega) (Nat.le_refl _)

/-- **A match whose group is empty or took no part** is passed over as a whole. -/
theorem findsAt_pass {m : Match} {taken : Text}
    (here : rule.pattern.matchAt? (Cursor.between front (taken ++ rest)) = some m)
    (passed : (m.group? rule.group).filter (!·.isEmpty) = none)
    (whole : m.whole = ⟨front.byteSize, (front ++ taken).byteSize⟩) (some : taken ≠ []) :
    rule.findsAt front (taken ++ rest) = rule.findsAt (front ++ taken) rest := by
  have pos := Text.byteSize_pos some
  have nonempty : m.whole.isEmpty = false := by
    rw [whole, Span.isEmpty, decide_eq_false_iff_not, Text.byteSize_append]
    exact Nat.not_le.mpr (Nat.lt_add_of_pos_right pos)
  refine findsAt_of_passed here passed ?_ some
  rw [nonempty, whole, if_neg Bool.false_ne_true]

/-- **An empty match** is passed over with the next character. -/
theorem findsAt_pass_empty {m : Match} {c : Char}
    (here : rule.pattern.matchAt? (Cursor.between front (c :: rest)) = some m)
    (passed : (m.group? rule.group).filter (!·.isEmpty) = none)
    (whole : m.whole = ⟨front.byteSize, front.byteSize⟩) :
    rule.findsAt front (c :: rest) = rule.findsAt (front ++ [c]) rest := by
  have empty : m.whole.isEmpty = true := by
    rw [whole]
    exact decide_eq_true (Nat.le_refl _)
  have here : rule.pattern.matchAt? (Cursor.between front ([c] ++ rest)) = some m := here
  refine findsAt_of_passed here passed ?_ (List.cons_ne_nil c [])
  rw [empty, whole, if_pos rfl, nextBoundary, Text.cutAt?_append]
  simp only [List.cons_append, Text.byteSize_append, Text.byteSize, Nat.add_zero]

/-- **A match is a find**, and the scan goes on behind it. -/
theorem findsAt_take {m : Match} (span : Span) {taken : Text}
    (here : rule.pattern.matchAt? (Cursor.between front (taken ++ rest)) = some m)
    (classified : m.group? rule.group = some span) (nonempty : span.start < span.stop)
    (stop : m.whole.stop = (front ++ taken).byteSize) (some : taken ≠ []) :
    rule.findsAt front (taken ++ rest) =
      ⟨span.start, span.stop, (front ++ taken).byteSize⟩ :: rule.findsAt (front ++ taken) rest := by
  have searched := Pattern.search?_here here
  have pos := Text.byteSize_pos some
  have size : (front ++ (taken ++ rest)).byteSize =
      front.byteSize + taken.byteSize + rest.byteSize := by
    simp only [Text.byteSize_append]
    omega
  have next : (front ++ taken).byteSize = front.byteSize + taken.byteSize :=
    Text.byteSize_append _ _
  have kept : (m.group? rule.group).filter (fun span => !span.isEmpty) = Option.some span := by
    rw [classified, Option.filter_some, if_pos]
    simpa [Span.isEmpty] using nonempty
  unfold findsAt
  rw [List.append_assoc]
  generalize front ++ (taken ++ rest) = text at searched size ⊢
  have found : rule.find? text front.byteSize =
      Option.some ⟨span.start, span.stop, (front ++ taken).byteSize⟩ := by
    obtain ⟨fuel, hfuel⟩ : ∃ k, text.byteSize - front.byteSize = k + 1 :=
      ⟨text.byteSize - front.byteSize - 1, by omega⟩
    unfold find?
    dsimp only
    rw [hfuel, findFrom, if_pos (by omega), searched]
    dsimp only
    rw [kept, stop]
  obtain ⟨fuel, hfuel⟩ : ∃ k, Text.byteSize (taken ++ rest) = k + 1 :=
    ⟨Text.byteSize (taken ++ rest) - 1, by rw [Text.byteSize_append]; omega⟩
  have total : taken.byteSize + rest.byteSize = fuel + 1 := by
    rw [← hfuel, Text.byteSize_append]
  rw [hfuel, findsFrom, found]
  exact congrArg (_ :: ·) (findsFrom_fuel (by dsimp only; omega) (by dsimp only; omega))

/-- A match that is classified as a whole is found as it is. -/
theorem findsAt_take_whole {taken : Text} {groups : List (Nat × Span)} (whole : rule.group = 0)
    (prefers : rule.pattern.Prefers (Pattern.State.between front (taken ++ rest) [])
      (Pattern.State.between (front ++ taken) rest groups)) (some : taken ≠ []) :
    rule.findsAt front (taken ++ rest) =
      ⟨front.byteSize, (front ++ taken).byteSize, (front ++ taken).byteSize⟩ ::
        rule.findsAt (front ++ taken) rest := by
  have pos := Text.byteSize_pos some
  refine findsAt_take ⟨front.byteSize, (front ++ taken).byteSize⟩ prefers.matchAt? ?_ ?_ rfl some
  · rw [whole]
    rfl
  · rw [Text.byteSize_append]
    exact Nat.lt_add_of_pos_right pos

/-- A match of which the first group is classified is found by the group. -/
theorem findsAt_take_part {span : Span} {taken : Text} (part : rule.group = 1)
    (prefers : rule.pattern.Prefers (Pattern.State.between front (taken ++ rest) [])
      (Pattern.State.between (front ++ taken) rest [(1, span)]))
    (nonempty : span.start < span.stop) (some : taken ≠ []) :
    rule.findsAt front (taken ++ rest) =
      ⟨span.start, span.stop, (front ++ taken).byteSize⟩ :: rule.findsAt (front ++ taken) rest := by
  refine findsAt_take span prefers.matchAt? ?_ nonempty rfl some
  rw [part]
  rfl

/-- A text at no character of which anything matches is passed over. -/
theorem findsAt_skip_text {text : Text}
    (none : ∀ before c after, text = before ++ c :: after → rule.pattern.matchAt?
      (Cursor.between (front ++ before) (c :: (after ++ rest))) = none) :
    rule.findsAt front (text ++ rest) = rule.findsAt (front ++ text) rest := by
  induction text generalizing front with
  | nil => rw [List.nil_append, List.append_nil]
  | cons c text ih =>
    have first := none [] c text rfl
    rw [List.append_nil] at first
    rw [List.cons_append, findsAt_skip first, ih, List.append_assoc, List.singleton_append]
    intro before d after eq
    have later := none (c :: before) d after (congrArg (c :: ·) eq)
    rwa [List.append_assoc, List.singleton_append]

/-- Nothing is found in a text at no character of which anything matches. -/
theorem findsAt_eq_nil {text : Text} (none : ∀ before c after, text = before ++ c :: after →
    rule.pattern.matchAt? (Cursor.between (front ++ before) (c :: after)) = none) :
    rule.findsAt front text = [] := by
  have skip : rule.findsAt front (text ++ []) = rule.findsAt (front ++ text) [] := by
    refine findsAt_skip_text fun before c after split => ?_
    rw [List.append_nil]
    exact none before c after split
  rw [List.append_nil] at skip
  rw [skip]
  rfl

/-- A text without the characters that a match needs to begin is passed over. -/
theorem findsAt_skip_of_begins {text : Text} {first : Char → Bool}
    (begins : rule.pattern.Begins first) (none : ∀ c ∈ text, first c = false) :
    rule.findsAt front (text ++ rest) = rule.findsAt (front ++ text) rest := by
  refine findsAt_skip_text ?_
  rintro before c after rfl
  refine Pattern.matchAt?_of_outcomes (begins _ ?_)
  intro d mem
  cases mem
  exact none c (List.mem_append_right before List.mem_cons_self)

end Rule

end Highlight
