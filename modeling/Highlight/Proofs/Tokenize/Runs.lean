import Highlight.Proofs.Tokenize.Pieces

/-!
# Runs of pieces

The tokens that some rules of a grammar have given may span several pieces of a source. As long as
each begins and ends at a border between pieces (`Reading.IsAligned`), every gap between them is a
run of whole pieces (`Reading.IsGap`), and every piece lies in a token or in a gap
(`Reading.IsAligned.covered_or_left`). What the next rule introduces is then known run by run
(`Reading.IsAligned.introduces_iff`).
-/

namespace Highlight

open Pattern (Span)
open Tokenize

namespace Reading

variable {α : Type} (reading : Reading α) {pieces pre post pre' post' run : List α}
  {piece other : α} {offset : Nat}

/-! ## Borders -/

/-- Whether an offset is a border between pieces. -/
def IsBorder (pieces : List α) (offset : Nat) : Prop :=
  ∃ pre post, pieces = pre ++ post ∧ offset = (reading.code pre).byteSize

/-- The span of a piece behind others. -/
def spanOf (pre : List α) (piece : α) : Span :=
  ⟨(reading.code pre).byteSize, (reading.code (pre ++ [piece])).byteSize⟩

theorem spanOf_stop (pre : List α) (piece : α) : (reading.spanOf pre piece).stop =
    (reading.code pre).byteSize + (reading.text piece).byteSize := by
  simp only [spanOf, code_append, code_cons, code_nil, List.append_nil, Text.byteSize_append]

theorem spanOf_nonempty (pre : List α) (piece : α) :
    (reading.spanOf pre piece).start < (reading.spanOf pre piece).stop := by
  rw [spanOf_stop]
  exact Nat.lt_add_of_pos_right (Text.byteSize_pos (reading.nonempty piece))

theorem code_eq_nil (h : (reading.code pieces).byteSize = 0) : pieces = [] := by
  cases pieces with
  | nil => rfl
  | cons piece rest =>
    have pos := Text.byteSize_pos (reading.nonempty piece)
    rw [code_cons, Text.byteSize_append] at h
    omega

/-- Of two ways to part the pieces, the one with the shorter first part parts that of the other. -/
theorem exists_between (split : pre ++ post = pre' ++ post')
    (le : (reading.code pre).byteSize ≤ (reading.code pre').byteSize) :
    ∃ middle, pre' = pre ++ middle ∧ post = middle ++ post' := by
  obtain ⟨middle, hpre, hpost⟩ | ⟨middle, hpre, hpost⟩ := List.append_eq_append_iff.mp split
  · exact ⟨middle, hpre, hpost⟩
  · have empty : middle = [] := by
      rw [hpre, code_append, Text.byteSize_append] at le
      exact reading.code_eq_nil (by omega)
    subst empty
    exact ⟨[], by rw [hpre, List.append_nil, List.append_nil], hpost.symm⟩

/-- A border does not lie inside a piece. -/
theorem IsBorder.le_or_ge (h : reading.IsBorder pieces offset)
    (split : pieces = pre ++ piece :: post) :
    offset ≤ (reading.spanOf pre piece).start ∨ (reading.spanOf pre piece).stop ≤ offset := by
  obtain ⟨front, back, split', rfl⟩ := h
  rcases Nat.lt_or_ge (reading.code pre).byteSize (reading.code front).byteSize with lt | ge
  · obtain ⟨middle, rfl, parts⟩ :=
      reading.exists_between (split.symm.trans split') (Nat.le_of_lt lt)
    cases middle with
    | nil =>
      rw [List.append_nil] at lt
      exact absurd lt (Nat.lt_irrefl _)
    | cons first middle =>
      obtain ⟨rfl, -⟩ := List.cons.inj parts
      rw [spanOf_stop, code_append, code_cons, Text.byteSize_append, Text.byteSize_append]
      exact .inr (by omega)
  · exact .inl ge

/-- Pieces that have a place in common are one and the same. -/
theorem eq_of_overlap (split : pieces = pre ++ piece :: post)
    (split' : pieces = pre' ++ other :: post')
    (lt : (reading.spanOf pre piece).start < (reading.spanOf pre' other).stop)
    (lt' : (reading.spanOf pre' other).start < (reading.spanOf pre piece).stop) :
    pre = pre' ∧ piece = other := by
  have border : reading.IsBorder pieces (reading.spanOf pre piece).start :=
    ⟨pre, piece :: post, split, rfl⟩
  have border' : reading.IsBorder pieces (reading.spanOf pre' other).start :=
    ⟨pre', other :: post', split', rfl⟩
  have le := (border.le_or_ge reading split').resolve_right (Nat.not_le.mpr lt)
  have le' := (border'.le_or_ge reading split).resolve_right (Nat.not_le.mpr lt')
  obtain ⟨middle, rfl, parts⟩ := reading.exists_between (split.symm.trans split') le
  have empty : middle = [] := by
    dsimp only [spanOf] at le'
    rw [code_append, Text.byteSize_append] at le'
    exact reading.code_eq_nil (by omega)
  subst empty
  exact ⟨(List.append_nil pre).symm, (List.cons.inj parts).1⟩

end Reading

namespace Tokenize

/-- What is not divided by an end of a claimed span lies in a claimed span or in a gap. -/
theorem claimed_or_gap {size start : Nat} {claimed : List Span} (span : Span)
    (low : start ≤ span.start) (high : span.stop ≤ size)
    (whole : ∀ other ∈ claimed, (other.start ≤ span.start ∨ span.stop ≤ other.start) ∧
      (other.stop ≤ span.start ∨ span.stop ≤ other.stop)) :
    (∃ other ∈ claimed, other.start ≤ span.start ∧ span.stop ≤ other.stop) ∨
      ∃ gap ∈ gaps size start claimed, gap.start ≤ span.start ∧ span.stop ≤ gap.stop := by
  induction claimed generalizing start with
  | nil => exact .inr ⟨_, List.mem_singleton.mpr rfl, low, high⟩
  | cons other rest ih =>
    obtain ⟨starts, stops⟩ := whole other List.mem_cons_self
    rcases starts with starts | before
    · rcases stops with behind | stops
      · refine (ih behind fun later mem => whole later (List.mem_cons_of_mem _ mem)).imp ?_ ?_
        · rintro ⟨later, mem, covers⟩
          exact ⟨later, List.mem_cons_of_mem _ mem, covers⟩
        · rintro ⟨gap, mem, inside⟩
          exact ⟨gap, List.mem_cons_of_mem _ mem, inside⟩
      · exact .inl ⟨other, List.mem_cons_self, starts, stops⟩
    · exact .inr ⟨_, List.mem_cons_self, low, before⟩

/-- The ends of gaps are the start, the ends of claimed spans and the size. -/
theorem gaps_ends {P : Nat → Prop} {size start : Nat} {claimed : List Span} (first : P start)
    (last : P size) (ends : ∀ span ∈ claimed, P span.start ∧ P span.stop) :
    ∀ gap ∈ gaps size start claimed, P gap.start ∧ P gap.stop := by
  induction claimed generalizing start with
  | nil =>
    intro gap mem
    obtain rfl := List.mem_singleton.mp mem
    exact ⟨first, last⟩
  | cons span rest ih =>
    obtain ⟨starts, stops⟩ := ends span List.mem_cons_self
    intro gap mem
    rcases List.mem_cons.mp mem with rfl | mem
    · exact ⟨first, starts⟩
    · exact ih stops (fun other mem => ends other (List.mem_cons_of_mem _ mem)) gap mem

/-- A gap ends where a claimed span starts, or at the end. -/
theorem gaps_stop {size start : Nat} {claimed : List Span} :
    ∀ gap ∈ gaps size start claimed, gap.stop = size ∨ ∃ span ∈ claimed, gap.stop = span.start := by
  induction claimed generalizing start with
  | nil =>
    intro gap mem
    obtain rfl := List.mem_singleton.mp mem
    exact .inl rfl
  | cons span rest ih =>
    intro gap mem
    rcases List.mem_cons.mp mem with rfl | mem
    · exact .inr ⟨span, List.mem_cons_self, rfl⟩
    · refine (ih gap mem).imp_right ?_
      rintro ⟨other, mem, same⟩
      exact ⟨other, List.mem_cons_of_mem _ mem, same⟩

end Tokenize

namespace Grammar

variable {grammar : Grammar} {code : Text} {number : Nat} {token : Token} {rule : Rule}

/-- The windows that the tokens of a grammar leave to a further rule. -/
def gaps (grammar : Grammar) (code : Text) : List Span :=
  Tokenize.gaps code.byteSize 0 ((grammar.tokenize code).tokens.map Token.span)

/-- The spans that a run has claimed are those of the tokens by position. -/
theorem exists_run_claimed (grammar : Grammar) (code : Text) :
    ∃ progress, applyRules code code.byteSize .start grammar.rules = .ok progress ∧
      progress.Sound code ∧
        Tokenize.gaps code.byteSize 0 progress.claimed = grammar.gaps code := by
  obtain ⟨progress, run, sound, -⟩ := exists_run code grammar.rules
  refine ⟨progress, run, sound, congrArg _ ?_⟩
  rw [tokenize_of_run run sound]
  have perm : progress.claimed.Perm
      ((Tokenized.ofTokens code progress.tokens).tokens.map Token.span) :=
    sound.claims.trans ((sortBy_perm Token.isBefore progress.tokens).map Token.span).symm
  refine List.Perm.eq_of_pairwise ?_ sound.claimed_precedes ?_ perm
  · intro a b ha hb before behind
    have nonempty := (sound.claimed_spec ha).2
    have nonempty' := (sound.claimed_spec (perm.mem_iff.mpr hb)).2
    unfold Span.Precedes at before behind
    omega
  · exact List.pairwise_map.mpr (ofTokens_precedes sound)

/-- The gaps lie in the source and are apart from the tokens. -/
theorem gaps_spec (grammar : Grammar) (code : Text) :
    ∀ gap ∈ grammar.gaps code, gap.Within code 0 code.byteSize ∧
      ∀ token ∈ (grammar.tokenize code).tokens, gap.Apart token.span := by
  have ordered := List.pairwise_map.mpr (grammar.tokenize_precedes code)
  intro gap mem
  obtain ⟨within, apart⟩ := (Tokenize.gaps_spec code.isBoundary_zero ordered (by
    intro span claimed
    obtain ⟨token, mem, rfl⟩ := List.mem_map.mp claimed
    exact (tokenize_cut mem).within)).2 gap mem
  exact ⟨within, fun token mem => apart _ (List.mem_map_of_mem mem)⟩

/-- What a rule introduces answers a window that the rules before it leave. -/
theorem Introduces.exists_answer (h : grammar.Introduces code number token) :
    ∃ rule, grammar.rules[number]? = some rule ∧ ∃ gap ∈ (grammar.firstRules number).gaps code,
      ∃ find, rule.Answers code gap find ∧ token.span = find.span := by
  obtain ⟨rule, first, _, _, here, run, _, _, _, _, _, _, _, answer⟩ := h.exists_found
  obtain ⟨first', run', _, windows⟩ := (grammar.firstRules number).exists_run_claimed code
  obtain rfl := Except.ok.inj (run.symm.trans run')
  rw [windows] at answer
  exact ⟨rule, here, answer⟩

/-- What a rule introduces is what it adds. -/
theorem introduces_iff_mem {first next : Progress} {found : List Token}
    (runFirst : applyRules code code.byteSize .start (grammar.firstRules number).rules = .ok first)
    (runNext : applyRules code code.byteSize .start (grammar.firstRules (number + 1)).rules =
      .ok next)
    (soundFirst : first.Sound code) (soundNext : next.Sound code)
    (tokens : next.tokens = first.tokens ++ found) :
    grammar.Introduces code number token ↔ token ∈ found := by
  unfold Introduces
  rw [mem_tokenize runFirst soundFirst, mem_tokenize runNext soundNext, tokens, List.mem_append]
  refine ⟨fun introduced => introduced.1.resolve_left introduced.2, fun new => ⟨.inr new, ?_⟩⟩
  intro old
  have numbered := soundNext.numbered
  rw [tokens] at numbered
  have low := index_lt_of_mem_before numbered old
  have high := le_index_of_mem_found numbered new
  omega

/-- Two tokens are one, or apart. -/
theorem eq_or_apart {a b : Token} (ha : a ∈ (grammar.tokenize code).tokens)
    (hb : b ∈ (grammar.tokenize code).tokens) : a = b ∨ a.span.Apart b.span := by
  refine List.Pairwise.forall_of_forall_of_flip (R := fun a b : Token =>
    a = b ∨ a.span.Apart b.span) (fun x _ => .inl rfl) ?_ ?_ ha hb
  · exact (grammar.tokenize_precedes code).imp fun before => .inr (.inl before)
  · exact (grammar.tokenize_precedes code).imp fun before => .inr (.inr before)

/-- What the first rules give stays when more rules follow. -/
theorem mem_firstRules_mono {count more : Nat} (le : count ≤ more)
    (mem : token ∈ ((grammar.firstRules count).tokenize code).tokens) :
    token ∈ ((grammar.firstRules more).tokenize code).tokens := by
  obtain ⟨first, final, rest, runFirst, runFinal, soundFirst, soundFinal, tokens⟩ :=
    grammar.exists_firstRules code le
  rw [mem_tokenize runFirst soundFirst] at mem
  rw [mem_tokenize runFinal soundFinal, tokens]
  exact List.mem_append_left _ mem

theorem mem_tokenize_of_firstRules {count : Nat}
    (mem : token ∈ ((grammar.firstRules count).tokenize code).tokens) :
    token ∈ (grammar.tokenize code).tokens := by
  have mem := mem_firstRules_mono (Nat.le_max_left count grammar.rules.length) mem
  rwa [firstRules_of_length_le (Nat.le_max_right _ _)] at mem

/-- Tokens are what the rules introduce. -/
theorem mem_tokenize_iff_introduces :
    token ∈ (grammar.tokenize code).tokens ↔ ∃ number, grammar.Introduces code number token := by
  constructor
  · intro mem
    rw [← firstRules_of_length_le (Nat.le_refl grammar.rules.length)] at mem
    exact exists_introduces mem
  · rintro ⟨number, introduced, -⟩
    exact mem_tokenize_of_firstRules introduced

theorem not_mem_firstRules_zero (token : Token) :
    token ∉ ((grammar.firstRules 0).tokenize code).tokens := by
  obtain ⟨none, run, sound, -⟩ := exists_run code (grammar.firstRules 0).rules
  obtain rfl := Except.ok.inj run
  rw [mem_tokenize run sound]
  exact List.not_mem_nil

/-- The tokens of one more rule are those before and those that it introduces. -/
theorem mem_firstRules_succ : token ∈ ((grammar.firstRules (number + 1)).tokenize code).tokens ↔
    token ∈ ((grammar.firstRules number).tokenize code).tokens ∨
      grammar.Introduces code number token := by
  obtain ⟨first, final, rest, runFirst, runFinal, soundFirst, soundFinal, tokens⟩ :=
    grammar.exists_firstRules code (Nat.le_succ number)
  rw [introduces_iff_mem runFirst runFinal soundFirst soundFinal tokens,
    mem_tokenize runFirst soundFirst, mem_tokenize runFinal soundFinal, tokens, List.mem_append]

/-- The tokens of the first rules are what these introduce. -/
theorem exists_introduces_lt {count : Nat}
    (mem : token ∈ ((grammar.firstRules count).tokenize code).tokens) :
    ∃ number < count, grammar.Introduces code number token := by
  induction count with
  | zero => exact absurd mem (not_mem_firstRules_zero token)
  | succ count ih =>
    rcases mem_firstRules_succ.mp mem with old | new
    · obtain ⟨number, lt, introduced⟩ := ih old
      exact ⟨number, Nat.lt_succ_of_lt lt, introduced⟩
    · exact ⟨count, Nat.lt_succ_self count, new⟩

/-- A token has the category of the rule that introduces it. -/
theorem Introduces.kind_eq (introduced : grammar.Introduces code number token)
    (here : grammar.rules[number]? = some rule) : token.kind = rule.kind := by
  obtain ⟨other, -, -, -, there, -, -, -, -, -, -, -, same, -⟩ := introduced.exists_found
  obtain rfl := Option.some.inj (here.symm.trans there)
  exact same

end Grammar

namespace Reading

variable {α : Type} (reading : Reading α) {pieces pre post run : List α} {piece : α}
  {grammar : Grammar} {number : Nat} {rule : Rule} {span : Span}

/-! ## Gaps -/

/-- Whether the tokens of a grammar begin and end at borders between pieces. -/
def IsAligned (pieces : List α) (grammar : Grammar) : Prop :=
  ∀ token ∈ (grammar.tokenize (reading.code pieces)).tokens,
    reading.IsBorder pieces token.span.start ∧ reading.IsBorder pieces token.span.stop

/-- The span of a run of pieces behind others. -/
def spanOfRun (pre run : List α) : Span :=
  ⟨(reading.code pre).byteSize, (reading.code (pre ++ run)).byteSize⟩

/-- Whether a run of pieces is a gap between the tokens of a grammar. -/
def IsGap (pieces : List α) (grammar : Grammar) (pre run : List α) : Prop :=
  (∃ post, pieces = pre ++ run ++ post) ∧
    reading.spanOfRun pre run ∈ grammar.gaps (reading.code pieces)

/-- Whether a piece behind others lies in a gap between the tokens of a grammar. -/
def IsLeft (pieces : List α) (grammar : Grammar) (pre : List α) (piece : α) : Prop :=
  ∃ front before behind, pre = front ++ before ∧
    reading.IsGap pieces grammar front (before ++ piece :: behind)

/-- Whether a piece behind others lies in a token of a grammar. -/
def IsCovered (pieces : List α) (grammar : Grammar) (pre : List α) (piece : α) : Prop :=
  ∃ token ∈ (grammar.tokenize (reading.code pieces)).tokens,
    token.span.start ≤ (reading.spanOf pre piece).start ∧
      (reading.spanOf pre piece).stop ≤ token.span.stop

variable {reading}

/-- **Where tokens end at borders**, every gap is a run of pieces. -/
theorem IsAligned.exists_isGap (aligned : reading.IsAligned pieces grammar)
    (mem : span ∈ grammar.gaps (reading.code pieces)) :
    ∃ pre run, reading.IsGap pieces grammar pre run ∧ span = reading.spanOfRun pre run := by
  have borders : ∀ claimed ∈ (grammar.tokenize (reading.code pieces)).tokens.map Token.span,
      reading.IsBorder pieces claimed.start ∧ reading.IsBorder pieces claimed.stop := by
    intro claimed mem
    obtain ⟨token, found, rfl⟩ := List.mem_map.mp mem
    exact aligned token found
  obtain ⟨⟨pre, post, split, start⟩, ⟨front, back, split', stop⟩⟩ :=
    gaps_ends ⟨[], pieces, rfl, rfl⟩ ⟨pieces, [], (List.append_nil _).symm, rfl⟩ borders span mem
  have ordered := (grammar.gaps_spec _ span mem).1.ordered
  rw [start, stop] at ordered
  obtain ⟨run, rfl, -⟩ := reading.exists_between (split.symm.trans split') ordered
  have same : span = reading.spanOfRun pre run := by
    rw [spanOfRun, ← start, ← stop]
  exact ⟨pre, run, ⟨⟨back, split'⟩, same ▸ mem⟩, same⟩

/-- **Every piece lies in a token or in a gap.** -/
theorem IsAligned.covered_or_left (aligned : reading.IsAligned pieces grammar)
    (split : pieces = pre ++ piece :: post) :
    reading.IsCovered pieces grammar pre piece ∨ reading.IsLeft pieces grammar pre piece := by
  have high : (reading.spanOf pre piece).stop ≤ (reading.code pieces).byteSize := by
    rw [split, List.append_cons, reading.code_append, Text.byteSize_append]
    exact Nat.le_add_right _ _
  have whole (claimed : Span)
      (mem : claimed ∈ (grammar.tokenize (reading.code pieces)).tokens.map Token.span) :
      (claimed.start ≤ (reading.spanOf pre piece).start ∨
        (reading.spanOf pre piece).stop ≤ claimed.start) ∧
      (claimed.stop ≤ (reading.spanOf pre piece).start ∨
        (reading.spanOf pre piece).stop ≤ claimed.stop) := by
    obtain ⟨token, found, rfl⟩ := List.mem_map.mp mem
    obtain ⟨starts, stops⟩ := aligned token found
    exact ⟨starts.le_or_ge reading split, stops.le_or_ge reading split⟩
  rcases claimed_or_gap _ (Nat.zero_le _) high whole with
    ⟨claimed, mem, covers⟩ | ⟨gap, mem, starts, stops⟩
  · obtain ⟨token, found, rfl⟩ := List.mem_map.mp mem
    exact .inl ⟨token, found, covers⟩
  · obtain ⟨front, run, isGap, rfl⟩ := aligned.exists_isGap mem
    obtain ⟨back, split'⟩ := isGap.1
    rw [List.append_assoc] at split'
    obtain ⟨before, rfl, parts⟩ := reading.exists_between (split'.symm.trans split) starts
    rw [List.append_cons] at parts
    dsimp only [spanOf, spanOfRun] at stops
    rw [List.append_assoc, reading.code_append, reading.code_append front,
      Text.byteSize_append, Text.byteSize_append] at stops
    obtain ⟨behind, rfl, -⟩ := reading.exists_between parts.symm (Nat.le_of_add_le_add_left stops)
    rw [List.append_assoc, List.singleton_append] at isGap
    exact .inr ⟨front, before, behind, rfl, isGap⟩

/-- What lies in a gap is apart from the tokens. -/
theorem IsLeft.apart (left : reading.IsLeft pieces grammar pre piece) {token : Token}
    (mem : token ∈ (grammar.tokenize (reading.code pieces)).tokens) :
    (reading.spanOf pre piece).Apart token.span := by
  obtain ⟨front, before, behind, rfl, -, gap⟩ := left
  refine ((grammar.gaps_spec _ _ gap).2 token mem).imp (Nat.le_trans ?_) (Nat.le_trans · ?_)
  · dsimp only [spanOf, spanOfRun]
    rw [List.append_cons before, ← List.append_assoc, ← List.append_assoc,
      reading.code_append _ behind, Text.byteSize_append]
    exact Nat.le_add_right _ _
  · dsimp only [spanOf, spanOfRun]
    rw [reading.code_append, Text.byteSize_append]
    exact Nat.le_add_right _ _

theorem IsLeft.not_isCovered (left : reading.IsLeft pieces grammar pre piece) :
    ¬ reading.IsCovered pieces grammar pre piece := by
  rintro ⟨token, mem, starts, stops⟩
  have nonempty := reading.spanOf_nonempty pre piece
  rcases left.apart mem with before | behind
  · unfold Span.Precedes at before
    omega
  · unfold Span.Precedes at behind
    omega

/-- What lies in a token still does so when more rules follow. -/
theorem IsCovered.mono {more : Nat} (le : number ≤ more)
    (covered : reading.IsCovered pieces (grammar.firstRules number) pre piece) :
    reading.IsCovered pieces (grammar.firstRules more) pre piece := by
  obtain ⟨token, mem, covers⟩ := covered
  exact ⟨token, Grammar.mem_firstRules_mono le mem, covers⟩

theorem IsLeft.split (left : reading.IsLeft pieces grammar pre piece) :
    ∃ post, pieces = pre ++ piece :: post := by
  obtain ⟨front, before, behind, rfl, ⟨back, split⟩, -⟩ := left
  refine ⟨behind ++ back, ?_⟩
  rw [split]
  simp only [List.append_assoc, List.cons_append]

/-! ## What a rule introduces -/

/-- The finds in windows that are runs of pieces. -/
theorem exists_findInGaps_runs (rule : Rule) {windows : List Span}
    (runs : ∀ window ∈ windows, ∃ pre run,
      (∃ post, pieces = pre ++ run ++ post) ∧ window = reading.spanOfRun pre run) :
    ∃ finds, findInGaps rule (reading.code pieces) windows = .ok finds ∧
      ∀ span, span ∈ finds.map Find.span ↔ ∃ pre run,
        ((∃ post, pieces = pre ++ run ++ post) ∧ reading.spanOfRun pre run ∈ windows) ∧
          span ∈ (rule.findsAt (reading.code pre) (reading.code run)).map Find.span := by
  have findAll (pre run : List α) (split : ∃ post, pieces = pre ++ run ++ post) :
      rule.findAll (reading.code pieces) (reading.spanOfRun pre run).start
        (reading.spanOfRun pre run).stop =
          .ok (rule.findsAt (reading.code pre) (reading.code run)) := by
    obtain ⟨post, rfl⟩ := split
    simp only [spanOfRun, reading.code_append]
    exact rule.findAll_eq _ _ _
  induction windows with
  | nil =>
    refine ⟨[], rfl, fun span => ⟨fun none => absurd none List.not_mem_nil, ?_⟩⟩
    rintro ⟨pre, run, ⟨-, none⟩, -⟩
    cases none
  | cons window rest ih =>
    obtain ⟨front, here, split, rfl⟩ := runs window List.mem_cons_self
    obtain ⟨there, hthere, spec⟩ := ih fun other mem => runs other (List.mem_cons_of_mem _ mem)
    refine ⟨rule.findsAt (reading.code front) (reading.code here) ++ there, ?_, ?_⟩
    · simp only [findInGaps, findAll front here split, hthere]
      rfl
    · intro span
      rw [List.map_append, List.mem_append, spec]
      constructor
      · rintro (mem | ⟨pre, run, ⟨split, mem⟩, found⟩)
        · exact ⟨front, here, ⟨split, List.mem_cons_self⟩, mem⟩
        · exact ⟨pre, run, ⟨split, List.mem_cons_of_mem _ mem⟩, found⟩
      · rintro ⟨pre, run, ⟨split', mem⟩, found⟩
        rcases List.mem_cons.mp mem with same | mem
        · have finds := findAll pre run split'
          rw [same, findAll front here split] at finds
          rw [Except.ok.inj finds]
          exact .inl found
        · exact .inr ⟨pre, run, ⟨split', mem⟩, found⟩

/-- **What a rule introduces** is what it finds in the gaps, run by run. -/
theorem IsAligned.introduces_iff (aligned : reading.IsAligned pieces (grammar.firstRules number))
    (here : grammar.rules[number]? = some rule) (span : Span) :
    (∃ token, grammar.Introduces (reading.code pieces) number token ∧ token.span = span) ↔
      ∃ pre run, reading.IsGap pieces (grammar.firstRules number) pre run ∧
        span ∈ (rule.findsAt (reading.code pre) (reading.code run)).map Find.span := by
  obtain ⟨first, runFirst, soundFirst, windows⟩ :=
    (grammar.firstRules number).exists_run_claimed (reading.code pieces)
  have runs (window : Span)
      (mem : window ∈ (grammar.firstRules number).gaps (reading.code pieces)) :
      ∃ pre run, (∃ post, pieces = pre ++ run ++ post) ∧ window = reading.spanOfRun pre run := by
    obtain ⟨pre, run, isGap, same⟩ := aligned.exists_isGap mem
    exact ⟨pre, run, isGap.1, same⟩
  obtain ⟨finds, hfinds, spec⟩ := exists_findInGaps_runs rule runs
  rw [← windows] at hfinds
  obtain ⟨next, tokens, applies, soundNext, nextTokens, cuts, -⟩ :=
    applyRule_of_findInGaps soundFirst hfinds
  have runNext := Grammar.run_firstRules_succ here runFirst applies
  refine Iff.trans ?_ (spec span)
  rw [← cuts, List.mem_map]
  refine exists_congr fun token => and_congr_left' ?_
  exact Grammar.introduces_iff_mem runFirst runNext soundFirst soundNext nextTokens

/-- A rule that introduces tokens at borders keeps the tokens at borders. -/
theorem IsAligned.succ (aligned : reading.IsAligned pieces (grammar.firstRules number))
    (borders : ∀ token, grammar.Introduces (reading.code pieces) number token →
      reading.IsBorder pieces token.span.start ∧ reading.IsBorder pieces token.span.stop) :
    reading.IsAligned pieces (grammar.firstRules (number + 1)) := by
  intro token mem
  rcases Grammar.mem_firstRules_succ.mp mem with old | introduced
  · exact aligned token old
  · exact borders token introduced

theorem IsAligned.of_le {more : Nat} (le : number ≤ more)
    (aligned : reading.IsAligned pieces (grammar.firstRules more)) :
    reading.IsAligned pieces (grammar.firstRules number) :=
  fun token mem => aligned token (Grammar.mem_firstRules_mono le mem)

/-- Without rules there is nothing that could divide a piece. -/
theorem isAligned_zero (reading : Reading α) (pieces : List α) (grammar : Grammar) :
    reading.IsAligned pieces (grammar.firstRules 0) := by
  intro token mem
  exact absurd mem (Grammar.not_mem_firstRules_zero token)

/-- What can be cut is a border or divides a piece. -/
theorem isBorder_or_divides {front back : Text} (split : reading.code pieces = front ++ back) :
    reading.IsBorder pieces front.byteSize ∨ ∃ pre piece post before behind,
      pieces = pre ++ piece :: post ∧ reading.text piece = before ++ behind ∧ before ≠ [] ∧
        behind ≠ [] ∧ front.byteSize = (reading.code pre).byteSize + before.byteSize := by
  induction pieces generalizing front with
  | nil =>
    obtain ⟨rfl, -⟩ := List.append_eq_nil_iff.mp split.symm
    exact .inl ⟨[], [], rfl, rfl⟩
  | cons piece rest ih =>
    have size : (reading.code [piece]).byteSize = (reading.text piece).byteSize := by
      rw [reading.code_cons, reading.code_nil, List.append_nil]
    rw [reading.code_cons] at split
    rcases List.append_eq_append_iff.mp split with ⟨more, rfl, later⟩ | ⟨more, text, -⟩
    · rcases ih later with ⟨pre, post, rfl, border⟩ |
        ⟨pre, other, post, before, behind, rfl, text, nonempty, nonempty', border⟩
      · refine .inl ⟨piece :: pre, post, rfl, ?_⟩
        rw [Text.byteSize_append, border, reading.code_cons, Text.byteSize_append]
      · refine .inr ⟨piece :: pre, other, post, before, behind, rfl, text, nonempty, nonempty', ?_⟩
        rw [Text.byteSize_append, border, reading.code_cons, Text.byteSize_append, Nat.add_assoc]
    · by_cases start : front = []
      · exact .inl ⟨[], piece :: rest, rfl, by rw [start]; rfl⟩
      · by_cases stop : more = []
        · refine .inl ⟨[piece], rest, rfl, ?_⟩
          rw [size, text, stop, List.append_nil]
        · exact .inr ⟨[], piece, rest, front, more, rfl, text, start, stop,
            (Nat.zero_add _).symm⟩

theorem isBorder_spanOf (split : pieces = pre ++ piece :: post) :
    reading.IsBorder pieces (reading.spanOf pre piece).start ∧
      reading.IsBorder pieces (reading.spanOf pre piece).stop :=
  ⟨⟨pre, piece :: post, split, rfl⟩,
    ⟨pre ++ [piece], post, by rw [split, List.append_cons], rfl⟩⟩

end Reading

end Highlight
