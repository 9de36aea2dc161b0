import Highlight.Proofs.Finds
import Highlight.Proofs.Order
import Highlight.Tokenize

/-!
# Claimed spans and the gaps between them

Spans that are nowhere empty and pairwise apart stand one behind the other once they are sorted
(`precedes_of_sorted`), whatever order they were claimed in. The windows between them (`gaps`) then
stand in order as well, lie in the source, and are apart from every claimed span (`gaps_spec`): so
whatever a rule finds in them is apart from all that was claimed before (`exists_findInGaps`).
-/

namespace Highlight

open Pattern (Span)

namespace Pattern.Span

/-- Whether the second of two spans begins behind the first. -/
def Precedes (a b : Span) : Prop := a.stop ≤ b.start

/-- Whether two spans have nothing in common: one of them begins behind the other. -/
def Apart (a b : Span) : Prop := a.Precedes b ∨ b.Precedes a

theorem Apart.symm {a b : Span} (h : a.Apart b) : b.Apart a := Or.symm h

/-- What lies inside a span is apart from what the span is apart from. -/
theorem Apart.mono {a b gap : Span} (h : gap.Apart b) (low : gap.start ≤ a.start)
    (high : a.stop ≤ gap.stop) : a.Apart b :=
  h.imp (Nat.le_trans high) fun before => Nat.le_trans before low

theorem Apart.of_within {text : Text} {a b gap : Span} (h : gap.Apart b)
    (within : a.Within text gap.start gap.stop) : a.Apart b :=
  h.mono within.low_le within.le_high

end Pattern.Span

/-- The span of a token. -/
def Token.span (token : Token) : Span := ⟨token.start, token.stop⟩

/-- The span of a find. -/
def Find.span (find : Find) : Span := ⟨find.start, find.stop⟩

/-- The span of a find lies where the find lies. -/
theorem Find.Within.span {text : Text} {low high : Nat} {find : Find}
    (h : find.Within text low high) : find.span.Within text low high where
  low_le := h.low_le
  ordered := Nat.le_of_lt h.nonempty
  le_high := Nat.le_trans h.stop_le_resume h.resume_le
  start_boundary := h.start_boundary
  stop_boundary := h.stop_boundary

/-- Tokens are ordered by position, then by discovery. -/
theorem Token.isBefore_order : IsTotalOrder Token.isBefore := by
  constructor
  · intro a b c
    simp only [Token.isBefore, Bool.or_eq_true, Bool.and_eq_true, decide_eq_true_eq, beq_iff_eq]
    omega
  · intro a b
    simp only [Token.isBefore, Bool.or_eq_true, Bool.and_eq_true, decide_eq_true_eq, beq_iff_eq]
    omega

theorem Token.start_le_of_isBefore {a b : Token} (h : a.isBefore b = true) : a.start ≤ b.start := by
  simp only [Token.isBefore, Bool.or_eq_true, Bool.and_eq_true, decide_eq_true_eq, beq_iff_eq] at h
  omega

namespace Tokenize

/-- Spans are ordered by their starts, then by their ends. -/
theorem spanIsBefore_order : IsTotalOrder spanIsBefore := by
  constructor
  · intro a b c
    simp only [spanIsBefore, Bool.or_eq_true, Bool.and_eq_true, decide_eq_true_eq, beq_iff_eq]
    omega
  · intro a b
    simp only [spanIsBefore, Bool.or_eq_true, Bool.and_eq_true, decide_eq_true_eq, beq_iff_eq]
    omega

theorem start_le_of_spanIsBefore {a b : Span} (h : spanIsBefore a b = true) :
    a.start ≤ b.start := by
  simp only [spanIsBefore, Bool.or_eq_true, Bool.and_eq_true, decide_eq_true_eq, beq_iff_eq] at h
  omega

/-- **Sorted, nowhere empty and apart** is one behind the other. The elements may be spans, or
tokens with their spans. -/
theorem precedes_of_sorted {α : Type} (span : α → Span) {xs : List α}
    (sorted : xs.Pairwise fun a b => (span a).start ≤ (span b).start)
    (nonempty : ∀ a ∈ xs, (span a).start < (span a).stop)
    (apart : xs.Pairwise fun a b => (span a).Apart (span b)) :
    xs.Pairwise fun a b => (span a).Precedes (span b) := by
  refine (sorted.and apart).imp_of_mem ?_
  intro a b ha hb both
  rcases both.2 with before | behind
  · exact before
  · have := nonempty b hb
    have := both.1
    unfold Span.Precedes at behind
    omega

/-- **The gaps** between spans in order are in order, in the text, and apart from the spans. -/
theorem gaps_spec {code : Text} {start : Nat} {claimed : List Span}
    (boundary : code.IsBoundary start) (ordered : claimed.Pairwise Span.Precedes)
    (within : ∀ span ∈ claimed, span.Within code start code.byteSize) :
    (gaps code.byteSize start claimed).Pairwise Span.Precedes ∧
      ∀ gap ∈ gaps code.byteSize start claimed,
        gap.Within code start code.byteSize ∧ ∀ span ∈ claimed, gap.Apart span := by
  induction claimed generalizing start with
  | nil =>
    refine ⟨List.pairwise_singleton _ _, ?_⟩
    intro gap mem
    obtain rfl := List.mem_singleton.mp mem
    refine ⟨⟨Nat.le_refl _, boundary.le, Nat.le_refl _, boundary, ?_⟩, ?_⟩
    · exact code.isBoundary_byteSize
    · intro _ none
      cases none
  | cons span rest ih =>
    obtain ⟨behind, ordered⟩ := List.pairwise_cons.mp ordered
    have here := within span List.mem_cons_self
    have onward : start ≤ span.stop := Nat.le_trans here.low_le here.ordered
    obtain ⟨later, spec⟩ := ih here.stop_boundary ordered fun other mem =>
      { within other (List.mem_cons_of_mem _ mem) with low_le := behind other mem }
    simp only [gaps]
    refine ⟨List.pairwise_cons.mpr ⟨?_, later⟩, ?_⟩
    · intro gap mem
      exact Nat.le_trans here.ordered (spec gap mem).1.low_le
    · intro gap mem
      rcases List.mem_cons.mp mem with rfl | mem
      · refine ⟨⟨Nat.le_refl _, here.low_le, ?_, boundary, here.start_boundary⟩, ?_⟩
        · exact Nat.le_trans here.ordered here.le_high
        · intro other mem
          rcases List.mem_cons.mp mem with rfl | mem
          · exact .inl (Nat.le_refl _)
          · exact .inl (Nat.le_trans here.ordered (behind other mem))
      · obtain ⟨inside, apart⟩ := spec gap mem
        refine ⟨inside.mono onward (Nat.le_refl _), ?_⟩
        intro other mem
        rcases List.mem_cons.mp mem with rfl | mem
        · exact .inr inside.low_le
        · exact apart other mem

/-- **All finds in windows in order** are in order, each inside its window. -/
theorem exists_findInGaps (rule : Rule) {code : Text} {windows : List Span}
    (ordered : windows.Pairwise Span.Precedes)
    (within : ∀ window ∈ windows, window.Within code 0 code.byteSize) :
    ∃ finds, findInGaps rule code windows = .ok finds ∧ finds.Pairwise Find.Precedes ∧
      ∀ find ∈ finds, ∃ window ∈ windows, rule.Answers code window find ∧
        find.Within code window.start window.stop := by
  induction windows with
  | nil => exact ⟨[], rfl, .nil, by simp⟩
  | cons window rest ih =>
    obtain ⟨behind, ordered⟩ := List.pairwise_cons.mp ordered
    obtain ⟨there, hthere, thereOrdered, thereSpec⟩ :=
      ih ordered fun other mem => within other (List.mem_cons_of_mem _ mem)
    obtain ⟨here, hhere, hereOrdered, hereSpec⟩ :=
      rule.exists_findAll (within window List.mem_cons_self).stop_boundary
    refine ⟨here ++ there, ?_, ?_, ?_⟩
    · simp only [findInGaps, hhere, hthere]
      rfl
    · refine List.pairwise_append.mpr ⟨hereOrdered, thereOrdered, ?_⟩
      intro a ha b hb
      obtain ⟨other, mem, _, inside⟩ := thereSpec b hb
      have before : a.stop ≤ window.stop := (hereSpec a ha).2.span.le_high
      exact Nat.le_trans before (Nat.le_trans (behind other mem) inside.low_le)
    · intro find mem
      rcases List.mem_append.mp mem with mem | mem
      · exact ⟨window, List.mem_cons_self, hereSpec find mem⟩
      · obtain ⟨other, mem, spec⟩ := thereSpec find mem
        exact ⟨other, List.mem_cons_of_mem _ mem, spec⟩

end Tokenize

end Highlight
