import Highlight.Proofs.Tokenize.Spans

/-!
# What the rules have claimed

One invariant carries the whole run: `Progress.Sound` says that every token found so far is a piece
of the source, that tokens are numbered by discovery, and that the claimed spans are the spans of
the tokens, sorted and apart. A rule applied to sound progress succeeds and leaves it sound
(`exists_applyRule`); what it adds (`Extends`) is one stretch of tokens at the end of the list, from
left to right, each the answer to a window between the spans claimed before. So the rules of a
grammar never reach a window or a slice that the source does not have (`exists_applyRules`).
-/

namespace Highlight

open Pattern (Span)

/-- Whether a token is a piece of a source: not empty, and the text that stands in its place. -/
structure Token.CutFrom (code : Text) (token : Token) : Prop where
  nonempty : token.text ≠ []
  slice : code.slice? token.start token.stop = some token.text

namespace Token

variable {code : Text} {token : Token}

/-- A piece of a source has the text that stands in its place. -/
theorem CutFrom.text_eq {front middle back : Text} (h : token.CutFrom code)
    (split : code = front ++ (middle ++ back)) (start : front.byteSize = token.start)
    (stop : (front ++ middle).byteSize = token.stop) : token.text = middle := by
  have cut : code.slice? token.start token.stop = some middle := by
    refine Text.slice?_eq_some_iff.mpr ⟨front, back, split, start, ?_⟩
    rw [← start, ← stop, Text.byteSize_append]
  exact Option.some.inj (h.slice.symm.trans cut)

/-- The span of a piece of a source lies in the source. -/
theorem CutFrom.within (h : token.CutFrom code) : token.span.Within code 0 code.byteSize := by
  obtain ⟨start, stop⟩ := Text.isBoundary_of_slice? h.slice
  exact ⟨Nat.zero_le _, Nat.le_add_right _ _, stop.le, start, stop⟩

theorem CutFrom.start_lt_stop (h : token.CutFrom code) : token.span.start < token.span.stop :=
  Nat.lt_add_of_pos_right (Text.byteSize_pos h.nonempty)

end Token

namespace Tokenize

/-- Whether a window is searched for finds of the rule with a number: it is a gap between the spans
that the rules before have claimed, or what is left of one behind a find. -/
def Searched (code : Text) (rules : List Rule) (number : Nat) (rule : Rule) (window : Span) :
    Prop :=
  rules[number]? = some rule ∧ ∃ progress gap,
    applyRules code code.byteSize .start (rules.take number) = .ok progress ∧
      gap ∈ gaps code.byteSize 0 progress.claimed ∧ rule.Asks code gap window

/-- Whether a token is a find of the rule with a number, in a window that is searched for it. -/
def FoundBy (code : Text) (rules : List Rule) (number : Nat) (token : Token) : Prop :=
  ∃ rule window find, Searched code rules number rule window ∧
    rule.findIn code window.start window.stop = .ok (some find) ∧
      token.span = find.span ∧ token.kind = rule.kind

/-- **The invariant of a run.** -/
structure Progress.Sound (code : Text) (progress : Progress) : Prop where
  cut : ∀ token ∈ progress.tokens, token.CutFrom code
  numbered : progress.tokens.map Token.index = List.range progress.tokens.length
  claims : progress.claimed.Perm (progress.tokens.map Token.span)
  sorted : progress.claimed.Pairwise fun a b => spanIsBefore a b = true
  apart : progress.claimed.Pairwise Span.Apart

/-- Whether progress comes from earlier progress by the finds of one rule. -/
def Extends (code : Text) (rule : Rule) (before after : Progress) : Prop :=
  ∃ found : List Token, after.tokens = before.tokens ++ found ∧
    found.Pairwise (fun a b => a.span.Precedes b.span) ∧
      ∀ token ∈ found, token.kind = rule.kind ∧
        ∃ gap ∈ gaps code.byteSize 0 before.claimed, ∃ find,
          rule.Answers code gap find ∧ token.span = find.span

variable {code : Text}

theorem Progress.start_sound (code : Text) : Progress.start.Sound code where
  cut _ none := absurd none List.not_mem_nil
  numbered := rfl
  claims := .refl _
  sorted := .nil
  apart := .nil

namespace Progress.Sound

variable {progress : Progress}

/-- A claimed span is that of a token. -/
theorem claimed_spec (sound : progress.Sound code) {span : Span} (mem : span ∈ progress.claimed) :
    span.Within code 0 code.byteSize ∧ span.start < span.stop := by
  obtain ⟨token, found, rfl⟩ := List.mem_map.mp (sound.claims.mem_iff.mp mem)
  have cut := sound.cut token found
  exact ⟨cut.within, cut.start_lt_stop⟩

/-- Claimed spans stand one behind the other. -/
theorem claimed_precedes (sound : progress.Sound code) :
    progress.claimed.Pairwise Span.Precedes :=
  precedes_of_sorted id (sound.sorted.imp start_le_of_spanIsBefore)
    (fun _ mem => (sound.claimed_spec mem).2) sound.apart

/-- The spans of the tokens are apart, whatever order they were found in. -/
theorem tokens_apart (sound : progress.Sound code) :
    progress.tokens.Pairwise fun a b => a.span.Apart b.span :=
  List.pairwise_map.mp ((sound.claims.pairwise_iff fun h => h.symm).mp sound.apart)

/-- The gaps between the claimed spans are in order, in the source, and apart from the spans. -/
theorem gaps_spec (sound : progress.Sound code) :
    (gaps code.byteSize 0 progress.claimed).Pairwise Span.Precedes ∧
      ∀ gap ∈ gaps code.byteSize 0 progress.claimed,
        gap.Within code 0 code.byteSize ∧ ∀ span ∈ progress.claimed, gap.Apart span :=
  Tokenize.gaps_spec code.isBoundary_zero sound.claimed_precedes
    fun _ mem => (sound.claimed_spec mem).1

/-- **What is found in the gaps is apart** from what was claimed before, because its gap is. -/
theorem apart_finds (sound : progress.Sound code) {finds : List Find}
    (ordered : finds.Pairwise Find.Precedes)
    (inGaps : ∀ find ∈ finds, ∃ gap ∈ gaps code.byteSize 0 progress.claimed,
      find.Within code gap.start gap.stop) :
    (progress.claimed ++ finds.map Find.span).Pairwise Span.Apart := by
  refine List.pairwise_append.mpr ⟨sound.apart, ?_, ?_⟩
  · exact List.pairwise_map.mpr (ordered.imp Or.inl)
  · intro old hold new hnew
    obtain ⟨find, mem, rfl⟩ := List.mem_map.mp hnew
    obtain ⟨gap, hgap, inside⟩ := inGaps find mem
    have apart := (sound.gaps_spec.2 gap hgap).2 old hold
    exact (apart.of_within inside.span).symm

end Progress.Sound

/-- Finds in the source become tokens: each is cut out in its place, and they are numbered on. -/
theorem exists_tokensOf? (kind : TokenType) (index : Nat) {finds : List Find}
    (within : ∀ find ∈ finds, find.Within code 0 code.byteSize) :
    ∃ tokens, tokensOf? code kind index finds = .ok tokens ∧
      tokens.map Token.span = finds.map Find.span ∧
      tokens.map Token.index = List.range' index finds.length ∧
      ∀ token ∈ tokens, token.CutFrom code ∧ token.kind = kind := by
  induction finds generalizing index with
  | nil => exact ⟨[], rfl, rfl, rfl, by simp⟩
  | cons find rest ih =>
    have here := within find List.mem_cons_self
    obtain ⟨text, hslice, size⟩ := Text.exists_slice? here.start_boundary here.stop_boundary
      (Nat.le_of_lt here.nonempty)
    obtain ⟨tokens, htokens, spans, indices, cut⟩ :=
      ih (index + 1) fun other mem => within other (List.mem_cons_of_mem _ mem)
    let token : Token := { text, start := find.start, kind, index }
    have stop : token.stop = find.stop := size
    refine ⟨token :: tokens, ?_, ?_, ?_, ?_⟩
    · simp only [tokensOf?, tokenOf?, hslice, htokens]
      rfl
    · simp only [List.map_cons, spans, Token.span, stop]
      rfl
    · rw [List.map_cons, indices]
      rfl
    · intro other mem
      rcases List.mem_cons.mp mem with rfl | mem
      · refine ⟨⟨?_, stop ▸ hslice⟩, rfl⟩
        intro empty
        have zero : Text.byteSize text = 0 := Text.byteSize_eq_zero.mpr empty
        have := here.nonempty
        omega
      · exact cut other mem

/-- **A rule applied to sound progress** succeeds, and leaves it sound. -/
theorem exists_applyRule (rule : Rule) {progress : Progress} (sound : progress.Sound code) :
    ∃ next, applyRule code code.byteSize progress rule = .ok next ∧ next.Sound code ∧
      Extends code rule progress next := by
  obtain ⟨gapsOrdered, gapsSpec⟩ := sound.gaps_spec
  obtain ⟨finds, hfinds, findsOrdered, findsSpec⟩ :=
    exists_findInGaps rule gapsOrdered fun gap mem => (gapsSpec gap mem).1
  have within : ∀ find ∈ finds, find.Within code 0 code.byteSize := by
    intro find mem
    obtain ⟨gap, hgap, _, inside⟩ := findsSpec find mem
    exact inside.mono (Nat.zero_le _) (gapsSpec gap hgap).1.le_high
  obtain ⟨tokens, htokens, spans, indices, cut⟩ :=
    exists_tokensOf? rule.kind progress.tokens.length within
  have count : tokens.length = finds.length := by
    simp only [← List.length_map Token.span, spans, List.length_map]
  let claimed := (finds.map Find.span).foldl
    (fun claimed span => insertBy spanIsBefore span claimed) progress.claimed
  have claims : claimed.Perm (progress.claimed ++ finds.map Find.span) := foldl_insertBy_perm _ _
  have apart : (progress.claimed ++ finds.map Find.span).Pairwise Span.Apart := by
    refine sound.apart_finds findsOrdered ?_
    intro find mem
    obtain ⟨gap, hgap, _, inside⟩ := findsSpec find mem
    exact ⟨gap, hgap, inside⟩
  refine ⟨⟨progress.tokens ++ tokens, claimed⟩, ?_, ?_, tokens, rfl, ?_, ?_⟩
  · simp only [applyRule, hfinds]
    dsimp only [bind, Except.bind]
    rw [htokens]
    rfl
  · refine
      { cut := fun token mem => ?_, numbered := ?_, claims := ?_
        sorted := foldl_insertBy_pairwise spanIsBefore_order _ sound.sorted
        apart := (claims.pairwise_iff fun h => h.symm).mpr apart }
    · rcases List.mem_append.mp mem with mem | mem
      · exact sound.cut token mem
      · exact (cut token mem).1
    · rw [List.map_append, sound.numbered, indices, List.length_append, count,
        List.range_eq_range', List.range_eq_range', ← List.range'_append_1, Nat.zero_add]
    · simp only [List.map_append, spans]
      exact claims.trans (sound.claims.append_right _)
  · refine List.pairwise_map.mp ?_
    simp only [spans]
    exact List.pairwise_map.mpr findsOrdered
  · intro token mem
    obtain ⟨find, mem', same⟩ : ∃ find ∈ finds, find.span = token.span :=
      List.mem_map.mp (spans ▸ List.mem_map_of_mem mem)
    obtain ⟨gap, hgap, answers, _⟩ := findsSpec find mem'
    exact ⟨(cut token mem).2, gap, hgap, find, answers, same.symm⟩

/-- **Rules applied in order** keep what each of them keeps, and succeed if each of them does. -/
theorem exists_applyRules {P : List Rule → Progress → Prop}
    (step : ∀ applied progress rule, P applied progress →
      ∃ next, applyRule code code.byteSize progress rule = .ok next ∧ P (applied ++ [rule]) next)
    (rules applied : List Rule) {progress : Progress} (h : P applied progress) :
    ∃ final, applyRules code code.byteSize progress rules = .ok final ∧
      P (applied ++ rules) final := by
  induction rules generalizing applied progress with
  | nil => exact ⟨progress, rfl, by rwa [List.append_nil]⟩
  | cons rule rest ih =>
    obtain ⟨next, applies, keeps⟩ := step applied progress rule h
    obtain ⟨final, run, done⟩ := ih (applied ++ [rule]) keeps
    refine ⟨final, ?_, by rwa [List.append_cons]⟩
    simp only [applyRules, applies]
    exact run

/-- Rules in two parts are applied one part after the other. -/
theorem applyRules_append {progress middle : Progress} {first : List Rule}
    (h : applyRules code code.byteSize progress first = .ok middle) (second : List Rule) :
    applyRules code code.byteSize progress (first ++ second) =
      applyRules code code.byteSize middle second := by
  induction first generalizing progress with
  | nil =>
    cases h
    rfl
  | cons rule rest ih =>
    simp only [List.cons_append, applyRules]
    simp only [applyRules] at h
    cases applies : applyRule code code.byteSize progress rule with
    | error bad =>
      rw [applies] at h
      cases h
    | ok next =>
      rw [applies] at h
      exact ih h

end Tokenize

end Highlight
