import Highlight.Proofs.Pattern.Extent
import Highlight.Rule

/-!
# Finds in a window

What a rule finds in a window lies in the window and is not empty, and the search goes on behind it
(`findIn_within`). So the finds of a whole window stand apart and in order (`exists_findAll`), and
every window that is searched on the way (`Asks`) is a part of the first one with boundaries for
ends (`Asks.within`).
-/

namespace Highlight

open Pattern (Span)

/-- Whether a find lies between two offsets of a text: it is not empty, its ends are boundaries, and
so is the place behind it where the search goes on. -/
structure Find.Within (text : Text) (low high : Nat) (find : Find) : Prop where
  low_le : low ≤ find.start
  nonempty : find.start < find.stop
  stop_le_resume : find.stop ≤ find.resume
  resume_le : find.resume ≤ high
  start_boundary : text.IsBoundary find.start
  stop_boundary : text.IsBoundary find.stop
  resume_boundary : text.IsBoundary find.resume

/-- Whether the second of two finds begins behind the first. -/
def Find.Precedes (a b : Find) : Prop := a.stop ≤ b.start

theorem Find.Within.mono {text : Text} {low high low' high' : Nat} {find : Find}
    (h : find.Within text low high) (lower : low' ≤ low) (higher : high ≤ high') :
    find.Within text low' high' :=
  { h with low_le := Nat.le_trans lower h.low_le, resume_le := Nat.le_trans h.resume_le higher }

/-- A find in the first part of a text is one in the text. -/
theorem Find.Within.append {front : Text} {low high : Nat} {find : Find}
    (h : find.Within front low high) (back : Text) : find.Within (front ++ back) low high :=
  { h with
    start_boundary := h.start_boundary.append back
    stop_boundary := h.stop_boundary.append back
    resume_boundary := h.resume_boundary.append back }

namespace Rule

variable {rule : Rule} {text : Text}

/-- The next boundary is further on. -/
theorem lt_nextBoundary {offset : Nat} (inside : offset ≤ text.byteSize) :
    offset < nextBoundary text offset := by
  unfold nextBoundary
  split
  · next c rest _ =>
    have pos : 0 < c.utf8Size := c.utf8Size_pos
    omega
  · omega

/-- A find is the group of a match that a search finds at the given offset or later. -/
theorem exists_search?_of_findFrom {fuel offset : Nat} {find : Find}
    (h : rule.findFrom text text.byteSize fuel offset = some find) :
    ∃ place m, offset ≤ place ∧ rule.pattern.search? text place = some m ∧
      m.group? rule.group = some ⟨find.start, find.stop⟩ ∧ find.start < find.stop ∧
        find.resume = m.whole.stop := by
  induction fuel generalizing offset with
  | zero => cases h
  | succ fuel ih =>
    simp only [findFrom] at h
    split at h
    · cases searched : rule.pattern.search? text offset with
      | none =>
        rw [searched] at h
        cases h
      | some m =>
        rw [searched] at h
        dsimp only at h
        split at h
        · next span hspan =>
          cases h
          obtain ⟨hgroup, nonempty⟩ := Option.filter_eq_some_iff.mp hspan
          refine ⟨offset, m, Nat.le_refl _, searched, hgroup, ?_, rfl⟩
          simpa [Span.isEmpty] using nonempty
        · -- The match was passed over: the search goes on no earlier than it began.
          have within := Pattern.search?_within searched
          have reached := within.whole.low_le
          obtain ⟨place, m', le, found⟩ := ih h
          refine ⟨place, m', Nat.le_trans ?_ le, found⟩
          split
          · have onward := lt_nextBoundary within.whole.start_boundary.le
            exact Nat.le_trans reached (Nat.le_of_lt onward)
          · exact Nat.le_trans reached within.whole.ordered
    · cases h

/-- A find lies in the text from the given offset on. -/
theorem findFrom_within {fuel offset : Nat} {find : Find}
    (h : rule.findFrom text text.byteSize fuel offset = some find) :
    find.Within text offset text.byteSize := by
  obtain ⟨place, m, le, searched, group, nonempty, resume⟩ := exists_search?_of_findFrom h
  have within := Pattern.search?_within searched
  have inside := within.groups _ _ group
  exact
    { low_le := Nat.le_trans le (Nat.le_trans within.whole.low_le inside.low_le)
      nonempty := nonempty
      stop_le_resume := resume ▸ inside.le_high
      resume_le := resume ▸ within.whole.le_high
      start_boundary := inside.start_boundary
      stop_boundary := inside.stop_boundary
      resume_boundary := resume ▸ within.whole.stop_boundary }

/-- **A find in a window** lies in the window. -/
theorem findIn_within {start stop : Nat} {find : Find}
    (h : rule.findIn text start stop = .ok (some find)) : find.Within text start stop := by
  unfold findIn at h
  split at h
  · cases h
  · next front back cut =>
    obtain ⟨rfl, rfl⟩ := Text.eq_append_of_cutAt?_eq_some cut
    exact (findFrom_within (Except.ok.inj h)).append back

/-- **What a find in a window is**: the group of a match somewhere in the text up to the end of the
window. -/
theorem exists_matchAt?_of_findIn {start stop : Nat} {find : Find}
    (h : rule.findIn text start stop = .ok (some find)) :
    ∃ front back cursor m, text = front ++ back ∧ front.byteSize = stop ∧
      cursor.StandsIn front ∧ rule.pattern.matchAt? cursor = some m ∧
        m.group? rule.group = some ⟨find.start, find.stop⟩ ∧ find.start < find.stop := by
  unfold findIn at h
  split at h
  · cases h
  · next front back cut =>
    obtain ⟨rfl, size⟩ := Text.eq_append_of_cutAt?_eq_some cut
    obtain ⟨_, m, _, searched, group, nonempty, _⟩ := exists_search?_of_findFrom (Except.ok.inj h)
    obtain ⟨cursor, stands, _, here⟩ := Pattern.exists_matchAt?_of_search? searched
    exact ⟨front, back, cursor, m, rfl, size, stands, here, group, nonempty⟩

/-- The windows that are searched for the finds of one window: the window itself, and what is left
of it behind each find. -/
inductive Asks (rule : Rule) (text : Text) (window : Span) : Span → Prop
  | whole : Asks rule text window window
  | rest {asked : Span} {find : Find} : Asks rule text window asked →
      rule.findIn text asked.start asked.stop = .ok (some find) →
      Asks rule text window ⟨find.resume, asked.stop⟩

/-- A window that is searched on the way ends where the first one does. -/
theorem Asks.stop_eq {window asked : Span} (h : Asks rule text window asked) :
    asked.stop = window.stop := by
  induction h with
  | whole => rfl
  | rest _ _ ih => exact ih

/-- A window that is searched on the way is a part of the first one. -/
theorem Asks.within {window asked : Span} {low high : Nat} (h : Asks rule text window asked)
    (within : window.Within text low high) : asked.Within text low high := by
  induction h with
  | whole => exact within
  | rest _ found ih =>
    have find := findIn_within found
    refine ⟨?_, find.resume_le, ih.le_high, find.resume_boundary, ih.stop_boundary⟩
    have start := Nat.le_trans find.low_le (Nat.le_of_lt find.nonempty)
    exact Nat.le_trans ih.low_le (Nat.le_trans start find.stop_le_resume)

/-- Each find of a list answers a window that was searched. -/
def Answers (rule : Rule) (text : Text) (window : Span) (find : Find) : Prop :=
  ∃ asked, Asks rule text window asked ∧
    rule.findIn text asked.start asked.stop = .ok (some find)

/-- The finds from an offset on stand in order, and each answers a window that was searched. -/
theorem findsFrom_spec {front back : Text} {window : Span} (fuel : Nat) {offset : Nat}
    (asks : Asks rule (front ++ back) window ⟨offset, front.byteSize⟩) :
    (rule.findsFrom front fuel offset).Pairwise Find.Precedes ∧
      ∀ find ∈ rule.findsFrom front fuel offset,
        Answers rule (front ++ back) window find ∧
          find.Within (front ++ back) offset front.byteSize := by
  induction fuel generalizing offset with
  | zero => exact ⟨.nil, fun _ none => absurd none List.not_mem_nil⟩
  | succ fuel ih =>
    simp only [findsFrom]
    split
    · exact ⟨.nil, by simp⟩
    · next first hfirst =>
      have found : rule.findIn (front ++ back) offset front.byteSize = .ok (some first) := by
        simp only [findIn, Text.cutAt?_append]
        exact congrArg Except.ok hfirst
      have within := findIn_within found
      obtain ⟨ordered, later⟩ := ih (asks.rest found)
      have behind : first.stop ≤ first.resume := within.stop_le_resume
      have onward : offset ≤ first.resume :=
        Nat.le_trans within.low_le (Nat.le_trans (Nat.le_of_lt within.nonempty) behind)
      refine ⟨List.pairwise_cons.mpr ⟨?_, ordered⟩, ?_⟩
      · intro find mem
        exact Nat.le_trans behind (later find mem).2.low_le
      · intro find mem
        rcases List.mem_cons.mp mem with rfl | mem
        · exact ⟨⟨_, asks, found⟩, within⟩
        · obtain ⟨answers, inside⟩ := later find mem
          exact ⟨answers, inside.mono onward (Nat.le_refl _)⟩

/-- **All finds of a window** stand in order in the window. -/
theorem exists_findAll (rule : Rule) {window : Span} (boundary : text.IsBoundary window.stop) :
    ∃ finds, rule.findAll text window.start window.stop = .ok finds ∧
      finds.Pairwise Find.Precedes ∧
      ∀ find ∈ finds, Answers rule text window find ∧
        find.Within text window.start window.stop := by
  obtain ⟨start, stop⟩ := window
  obtain ⟨front, back, rfl, rfl⟩ := boundary
  refine ⟨rule.findsFrom front (front.byteSize - start) start, ?_, findsFrom_spec _ .whole⟩
  simp only [findAll, Text.cutAt?_append]

end Rule

end Highlight
