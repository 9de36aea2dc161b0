import Highlight.Proofs.Tokenize.Runs

/-!
# Rules that pick pieces

A rule picks pieces of some kind out of a run if it finds them there and nothing else
(`Rule.Picks`). If it does so in every gap that the rules before it have left, it introduces those
pieces of the kind that are left over (`Reading.IsAligned.introduces_iff_picked`). So as long as the
rules pick pieces, the tokens are the pieces of all kinds so far (`Reading.IsPicked`), and the
tokens of a category are the pieces of it as soon as they have the same spans
(`Reading.tokensOf_eq_piecesOf_iff`).
-/

namespace Highlight

open Pattern (Span)
open Tokenize

/-- Whether a rule finds in a run of pieces behind others those of some kind, and nothing else. -/
def Rule.Picks {α : Type} (rule : Rule) (reading : Reading α) (own : α → Prop)
    (pre run : List α) : Prop :=
  ∀ span, span ∈ (rule.findsAt (reading.code pre) (reading.code run)).map Find.span ↔
    ∃ before piece behind, run = before ++ piece :: behind ∧ own piece ∧
      span = reading.spanOf (pre ++ before) piece

namespace Rule

variable {α : Type} {reading : Reading α} {rule : Rule} {own : α → Prop} {pre run : List α}
  {piece : α}

theorem picks_nil (rule : Rule) (reading : Reading α) (own : α → Prop) (pre : List α) :
    rule.Picks reading own pre [] := by
  intro span
  refine ⟨fun none => absurd none List.not_mem_nil, ?_⟩
  rintro ⟨before, piece, behind, split, -⟩
  exact absurd split.symm (List.append_ne_nil_of_right_ne_nil _ (List.cons_ne_nil _ _))

/-- A piece that is found, in front of a run that is picked from. -/
theorem Picks.take (later : rule.Picks reading own (pre ++ [piece]) run) (isOwn : own piece)
    (take : rule.findsAt (reading.code pre) (reading.code (piece :: run)) =
      ⟨(reading.code pre).byteSize, (reading.code (pre ++ [piece])).byteSize,
          (reading.code (pre ++ [piece])).byteSize⟩ ::
        rule.findsAt (reading.code (pre ++ [piece])) (reading.code run)) :
    rule.Picks reading own pre (piece :: run) := by
  intro span
  rw [take, List.map_cons, List.mem_cons, later span]
  constructor
  · rintro (rfl | ⟨before, other, behind, rfl, isOwn, rfl⟩)
    · exact ⟨[], piece, run, rfl, isOwn, by rw [List.append_nil]; rfl⟩
    · exact ⟨piece :: before, other, behind, rfl, isOwn, by rw [List.append_cons pre piece before]⟩
  · rintro ⟨before, other, behind, split, isOwn, rfl⟩
    rcases List.cons_eq_append_iff.mp split with ⟨rfl, eq⟩ | ⟨before, rfl, rfl⟩
    · obtain ⟨rfl, -⟩ := List.cons.inj eq
      exact .inl (by rw [List.append_nil]; rfl)
    · exact .inr ⟨before, other, behind, rfl, isOwn, by rw [List.append_cons pre piece before]⟩

/-- A piece that is passed over, in front of a run that is picked from. -/
theorem Picks.skip (later : rule.Picks reading own (pre ++ [piece]) run) (notOwn : ¬ own piece)
    (skip : rule.findsAt (reading.code pre) (reading.code (piece :: run)) =
      rule.findsAt (reading.code (pre ++ [piece])) (reading.code run)) :
    rule.Picks reading own pre (piece :: run) := by
  intro span
  rw [skip, later span]
  constructor
  · rintro ⟨before, other, behind, rfl, isOwn, rfl⟩
    exact ⟨piece :: before, other, behind, rfl, isOwn, by rw [List.append_cons pre piece before]⟩
  · rintro ⟨before, other, behind, split, isOwn, rfl⟩
    rcases List.cons_eq_append_iff.mp split with ⟨rfl, eq⟩ | ⟨before, rfl, rfl⟩
    · obtain ⟨rfl, -⟩ := List.cons.inj eq
      exact absurd isOwn notOwn
    · exact ⟨before, other, behind, rfl, isOwn, by rw [List.append_cons pre piece before]⟩

end Rule

namespace Reading

variable {α : Type} {reading : Reading α} {pieces pre post : List α} {piece : α}
  {own more : α → Prop} {grammar : Grammar} {number : Nat} {rule : Rule} {span : Span}

/-- **A rule that picks pieces out of every gap** introduces those that are left. -/
theorem IsAligned.introduces_iff_picked {own : α → Prop}
    (aligned : reading.IsAligned pieces (grammar.firstRules number))
    (here : grammar.rules[number]? = some rule)
    (picks : ∀ pre run, reading.IsGap pieces (grammar.firstRules number) pre run →
      rule.Picks reading own pre run) (span : Span) :
    (∃ token, grammar.Introduces (reading.code pieces) number token ∧ token.span = span) ↔
      ∃ pre piece, reading.IsLeft pieces (grammar.firstRules number) pre piece ∧ own piece ∧
        span = reading.spanOf pre piece := by
  rw [aligned.introduces_iff here]
  constructor
  · rintro ⟨pre, run, isGap, found⟩
    obtain ⟨before, piece, behind, rfl, isOwn, rfl⟩ := (picks pre run isGap span).mp found
    exact ⟨pre ++ before, piece, ⟨pre, before, behind, rfl, isGap⟩, isOwn, rfl⟩
  · rintro ⟨_, piece, ⟨pre, before, behind, rfl, isGap⟩, isOwn, rfl⟩
    exact ⟨pre, _, isGap, (picks _ _ isGap _).mpr ⟨before, piece, behind, rfl, isOwn, rfl⟩⟩

/-- **A rule that picks pieces out of every gap** leaves none of them. -/
theorem IsAligned.pick {own : α → Prop}
    (aligned : reading.IsAligned pieces (grammar.firstRules number))
    (here : grammar.rules[number]? = some rule)
    (picks : ∀ pre run, reading.IsGap pieces (grammar.firstRules number) pre run →
      rule.Picks reading own pre run) :
    reading.IsAligned pieces (grammar.firstRules (number + 1)) ∧
      ∀ pre piece post, pieces = pre ++ piece :: post → own piece →
        reading.IsCovered pieces (grammar.firstRules (number + 1)) pre piece := by
  have introduces := aligned.introduces_iff_picked here picks
  refine ⟨aligned.succ fun token introduced => ?_, fun pre piece post split isOwn => ?_⟩
  · obtain ⟨pre, piece, left, -, same⟩ := (introduces token.span).mp ⟨token, introduced, rfl⟩
    obtain ⟨post, split⟩ := left.split
    rw [same]
    exact isBorder_spanOf split
  · rcases aligned.covered_or_left split with covered | left
    · exact covered.mono (Nat.le_succ number)
    · obtain ⟨token, introduced, same⟩ := (introduces _).mpr ⟨pre, piece, left, isOwn, rfl⟩
      exact ⟨token, Grammar.mem_firstRules_succ.mpr (.inr introduced), same ▸ Nat.le_refl _,
        same ▸ Nat.le_refl _⟩

/-! ## Tokens that are pieces -/

/-- Whether the tokens of a grammar are the pieces of some kind. -/
def IsPicked (reading : Reading α) (pieces : List α) (grammar : Grammar) (own : α → Prop) : Prop :=
  ∀ span, (∃ token ∈ (grammar.tokenize (reading.code pieces)).tokens, token.span = span) ↔
    ∃ pre piece post, pieces = pre ++ piece :: post ∧ own piece ∧ span = reading.spanOf pre piece

namespace IsPicked

theorem isAligned (picked : reading.IsPicked pieces grammar own) :
    reading.IsAligned pieces grammar := by
  intro token mem
  obtain ⟨pre, piece, post, split, -, same⟩ := (picked token.span).mp ⟨token, mem, rfl⟩
  rw [same]
  exact isBorder_spanOf split

/-- What is left over are the pieces of other kinds. -/
theorem isLeft_iff (picked : reading.IsPicked pieces grammar own)
    (split : pieces = pre ++ piece :: post) :
    reading.IsLeft pieces grammar pre piece ↔ ¬ own piece := by
  constructor
  · intro left isOwn
    obtain ⟨token, mem, same⟩ := (picked _).mpr ⟨pre, piece, post, split, isOwn, rfl⟩
    exact left.not_isCovered ⟨token, mem, same ▸ Nat.le_refl _, same ▸ Nat.le_refl _⟩
  · intro notOwn
    refine (picked.isAligned.covered_or_left split).resolve_left ?_
    rintro ⟨token, mem, starts, stops⟩
    obtain ⟨pre', other, post', split', isOwn, same⟩ := (picked _).mp ⟨token, mem, rfl⟩
    have nonempty := reading.spanOf_nonempty pre piece
    rw [same] at starts stops
    obtain ⟨-, rfl⟩ := reading.eq_of_overlap split split' (by omega) (by omega)
    exact notOwn isOwn

/-- A piece in a gap is of another kind. -/
theorem not_own (picked : reading.IsPicked pieces grammar own) {run before behind : List α}
    (gap : reading.IsGap pieces grammar pre run) (split : run = before ++ piece :: behind) :
    ¬ own piece := by
  have left : reading.IsLeft pieces grammar (pre ++ before) piece :=
    ⟨pre, before, behind, rfl, split ▸ gap⟩
  obtain ⟨post, parts⟩ := left.split
  exact (picked.isLeft_iff parts).mp left

/-- What follows a gap is one of the pieces that are picked. -/
theorem own_of_next (picked : reading.IsPicked pieces grammar own) {run : List α}
    (gap : reading.IsGap pieces grammar pre run) (split : pieces = pre ++ run ++ piece :: post) :
    own piece := by
  have pos := Text.byteSize_pos (reading.nonempty piece)
  rcases gaps_stop _ gap.2 with ends | ⟨span, claimed, ends⟩
  · rw [split, reading.code_append, Text.byteSize_append, reading.code_cons,
      Text.byteSize_append] at ends
    dsimp only [spanOfRun] at ends
    omega
  · obtain ⟨token, mem, rfl⟩ := List.mem_map.mp claimed
    obtain ⟨pre', other, post', split', isOwn, same⟩ := (picked _).mp ⟨token, mem, rfl⟩
    have nonempty := reading.spanOf_nonempty pre' other
    have nonempty' := reading.spanOf_nonempty (pre ++ run) piece
    rw [same] at ends
    have starts : (reading.spanOf (pre ++ run) piece).start =
        (reading.spanOf pre' other).start := ends
    obtain ⟨-, rfl⟩ := reading.eq_of_overlap split split' (by omega) (by omega)
    exact isOwn

/-- A gap goes on as long as no piece is picked. -/
theorem exists_more (picked : reading.IsPicked pieces grammar own) {before behind run : List α}
    (gap : reading.IsGap pieces grammar pre (before ++ behind))
    (split : pieces = pre ++ before ++ (run ++ post)) (left : ∀ other ∈ run, ¬ own other) :
    ∃ more, behind = run ++ more := by
  obtain ⟨back, parts⟩ := gap.1
  have tails : run ++ post = behind ++ back := by
    rw [split, ← List.append_assoc pre, List.append_assoc (pre ++ before) behind] at parts
    exact List.append_cancel_left parts
  rcases List.append_eq_append_iff.mp tails with ⟨more, same, -⟩ | ⟨more, rfl, rfl⟩
  · exact ⟨more, same⟩
  · cases more with
    | nil => exact ⟨[], by rw [List.append_nil, List.append_nil]⟩
    | cons piece more =>
      have next : pieces = pre ++ (before ++ behind) ++ piece :: (more ++ post) := by
        rw [parts, List.cons_append]
      exact absurd (picked.own_of_next gap next)
        (left piece (List.mem_append_right _ List.mem_cons_self))

/-- **A further rule that picks pieces** introduces those that no rule before it has picked. -/
theorem introduces_iff (picked : reading.IsPicked pieces (grammar.firstRules number) own)
    (here : grammar.rules[number]? = some rule)
    (picks : ∀ pre run, reading.IsGap pieces (grammar.firstRules number) pre run →
      rule.Picks reading more pre run) (span : Span) :
    (∃ token, grammar.Introduces (reading.code pieces) number token ∧ token.span = span) ↔
      ∃ pre piece post, pieces = pre ++ piece :: post ∧ (more piece ∧ ¬ own piece) ∧
        span = reading.spanOf pre piece := by
  rw [picked.isAligned.introduces_iff_picked here picks]
  constructor
  · rintro ⟨pre, piece, left, isMore, rfl⟩
    obtain ⟨post, split⟩ := left.split
    exact ⟨pre, piece, post, split, ⟨isMore, (picked.isLeft_iff split).mp left⟩, rfl⟩
  · rintro ⟨pre, piece, post, split, ⟨isMore, notOwn⟩, rfl⟩
    exact ⟨pre, piece, (picked.isLeft_iff split).mpr notOwn, isMore, rfl⟩

/-- **Rules that pick pieces, one behind the other**, keep the tokens pieces. -/
theorem succ (picked : reading.IsPicked pieces (grammar.firstRules number) own)
    (here : grammar.rules[number]? = some rule)
    (picks : ∀ pre run, reading.IsGap pieces (grammar.firstRules number) pre run →
      rule.Picks reading more pre run) :
    reading.IsPicked pieces (grammar.firstRules (number + 1)) fun piece =>
      own piece ∨ more piece := by
  intro span
  have introduces := picked.introduces_iff here picks span
  constructor
  · rintro ⟨token, mem, rfl⟩
    rcases Grammar.mem_firstRules_succ.mp mem with old | introduced
    · obtain ⟨pre, piece, post, split, isOwn, same⟩ := (picked _).mp ⟨token, old, rfl⟩
      exact ⟨pre, piece, post, split, .inl isOwn, same⟩
    · obtain ⟨pre, piece, post, split, isMore, same⟩ := introduces.mp ⟨token, introduced, rfl⟩
      exact ⟨pre, piece, post, split, .inr isMore.1, same⟩
  · rintro ⟨pre, piece, post, split, kinds, rfl⟩
    by_cases isOwn : own piece
    · obtain ⟨token, mem, same⟩ := (picked _).mpr ⟨pre, piece, post, split, isOwn, rfl⟩
      exact ⟨token, Grammar.mem_firstRules_succ.mpr (.inl mem), same⟩
    · obtain ⟨token, introduced, same⟩ :=
        introduces.mpr ⟨pre, piece, post, split, ⟨kinds.resolve_left isOwn, isOwn⟩, rfl⟩
      exact ⟨token, Grammar.mem_firstRules_succ.mpr (.inr introduced), same⟩

end IsPicked

theorem isPicked_zero (reading : Reading α) (pieces : List α) (grammar : Grammar) :
    reading.IsPicked pieces (grammar.firstRules 0) fun _ => False := by
  intro span
  constructor
  · rintro ⟨token, mem, -⟩
    exact absurd mem (Grammar.not_mem_firstRules_zero token)
  · rintro ⟨-, -, -, -, none, -⟩
    exact none.elim

/-! ## Tokens of one category -/

theorem mem_classified {kind : TokenType} (hkind : reading.kind piece = some kind)
    (pre post : List α) (offset : Nat) : ⟨offset + (reading.code pre).byteSize,
      reading.text piece, kind⟩ ∈ reading.classified offset (pre ++ piece :: post) := by
  induction pre generalizing offset with
  | nil =>
    simp only [List.nil_append, classified, hkind]
    exact List.mem_cons_self
  | cons first pre ih =>
    have later := ih (offset + (reading.text first).byteSize)
    rw [Nat.add_assoc, ← Text.byteSize_append, ← reading.code_cons] at later
    simp only [List.cons_append, classified]
    split
    · exact List.mem_cons_of_mem _ later
    · exact later

end Reading

namespace Grammar

/-- The tokens of a category by position, without their numbers. -/
def tokensOf (grammar : Grammar) (kind : TokenType) (code : Text) : List Classified :=
  ((grammar.tokenize code).tokens.map Token.classified).filter (·.kind == kind)

/-- The numbers of the rules that give a category. -/
def numbersOf (grammar : Grammar) (kind : TokenType) : List Nat :=
  (List.range grammar.rules.length).filter fun number =>
    (grammar.rules.map Rule.kind)[number]? == some kind

/-- The tokens of a category are what the rules of the category introduce. -/
theorem introduces_of_kind_iff {grammar : Grammar} {code : Text} {kind : TokenType}
    {token : Token} : (token ∈ (grammar.tokenize code).tokens ∧ token.kind = kind) ↔
      ∃ number ∈ grammar.numbersOf kind, grammar.Introduces code number token := by
  have hasKind {number : Nat} (introduced : grammar.Introduces code number token) :
      number < grammar.rules.length ∧
        (grammar.rules.map Rule.kind)[number]? = some token.kind := by
    obtain ⟨rule, -, -, -, here, -, -, -, -, -, -, -, same, -⟩ := introduced.exists_found
    refine ⟨(List.getElem?_eq_some_iff.mp here).1, ?_⟩
    rw [List.getElem?_map, here, same]
    rfl
  constructor
  · rintro ⟨mem, rfl⟩
    obtain ⟨number, introduced⟩ := mem_tokenize_iff_introduces.mp mem
    obtain ⟨inside, same⟩ := hasKind introduced
    exact ⟨number, List.mem_filter.mpr ⟨List.mem_range.mpr inside, beq_iff_eq.mpr same⟩,
      introduced⟩
  · rintro ⟨number, mem, introduced⟩
    refine ⟨mem_tokenize_iff_introduces.mpr ⟨number, introduced⟩, ?_⟩
    have given := beq_iff_eq.mp (List.mem_filter.mp mem).2
    exact Option.some.inj ((hasKind introduced).2.symm.trans given)

end Grammar

namespace Reading

variable {α : Type} {reading : Reading α} {pieces : List α} {grammar : Grammar} {kind : TokenType}

/-- The pieces of a category, with their places. -/
def piecesOf (reading : Reading α) (kind : TokenType) (pieces : List α) : List Classified :=
  (reading.classified 0 pieces).filter (·.kind == kind)

theorem mem_spans_tokensOf {code : Text} {span : Span} :
    span ∈ (grammar.tokensOf kind code).map Classified.span ↔ ∃ number ∈ grammar.numbersOf kind,
      ∃ token, grammar.Introduces code number token ∧ token.span = span := by
  simp only [Grammar.tokensOf, List.mem_map, List.mem_filter, beq_iff_eq]
  constructor
  · rintro ⟨item, ⟨⟨token, mem, rfl⟩, same⟩, rfl⟩
    obtain ⟨number, given, introduced⟩ := Grammar.introduces_of_kind_iff.mp ⟨mem, same⟩
    exact ⟨number, given, token, introduced, rfl⟩
  · rintro ⟨number, given, token, introduced, rfl⟩
    obtain ⟨mem, same⟩ := Grammar.introduces_of_kind_iff.mpr ⟨number, given, introduced⟩
    exact ⟨token.classified, ⟨⟨token, mem, rfl⟩, same⟩, rfl⟩

variable (reading) in
theorem mem_spans_piecesOf (kind : TokenType) (pieces : List α) (span : Span) :
    span ∈ (reading.piecesOf kind pieces).map Classified.span ↔ ∃ pre piece post,
      pieces = pre ++ piece :: post ∧ reading.kind piece = some kind ∧
        span = reading.spanOf pre piece := by
  simp only [piecesOf, List.mem_map, List.mem_filter, beq_iff_eq]
  constructor
  · rintro ⟨item, ⟨mem, rfl⟩, rfl⟩
    obtain ⟨pre, piece, post, split, hkind, text, start⟩ := reading.exists_of_mem_classified mem
    refine ⟨pre, piece, post, split, hkind, ?_⟩
    rw [Nat.zero_add] at start
    rw [Classified.span, start, text, ← reading.spanOf_stop]
    rfl
  · rintro ⟨pre, piece, post, rfl, hkind, rfl⟩
    refine ⟨_, ⟨mem_classified hkind pre post 0, rfl⟩, ?_⟩
    rw [Classified.span, Nat.zero_add, ← reading.spanOf_stop]
    rfl

variable (reading) in
/-- **The tokens of a category are the pieces of it** if its rules introduce their spans. -/
theorem tokensOf_eq_piecesOf_iff (grammar : Grammar) (kind : TokenType) (pieces : List α) :
    grammar.tokensOf kind (reading.code pieces) = reading.piecesOf kind pieces ↔
      ∀ span, (∃ number ∈ grammar.numbersOf kind, ∃ token,
          grammar.Introduces (reading.code pieces) number token ∧ token.span = span) ↔
        ∃ pre piece post, pieces = pre ++ piece :: post ∧ reading.kind piece = some kind ∧
          span = reading.spanOf pre piece := by
  simp only [← mem_spans_tokensOf, ← mem_spans_piecesOf]
  refine ⟨fun same span => by rw [same], fun same => ?_⟩
  refine Classified.eq_of_spans (reading.code pieces) kind ?_ ?_ ?_
  · have rising : ((grammar.tokensOf kind (reading.code pieces)).map Classified.span).Pairwise
        fun a b => a.start < b.start := by
      refine List.pairwise_map.mpr ((List.pairwise_map.mpr ?_).filter _)
      refine (grammar.tokenize_precedes _).imp_of_mem ?_
      intro a b mem _ before
      exact Nat.lt_of_lt_of_le (Grammar.tokenize_cut mem).start_lt_stop before
    have rising' : ((reading.piecesOf kind pieces).map Classified.span).Pairwise
        fun a b => a.start < b.start :=
      List.pairwise_map.mpr ((reading.classified_pairwise 0 pieces).filter _)
    have distinct {spans : List Span} (h : spans.Pairwise fun a b => a.start < b.start) :
        spans.Nodup :=
      h.imp fun before same => absurd (same ▸ before) (Nat.lt_irrefl _)
    have perm := (List.perm_ext_iff_of_nodup (distinct rising) (distinct rising')).mpr same
    refine List.Perm.eq_of_pairwise ?_ rising rising' perm
    intro a b _ _ before behind
    exact absurd behind (Nat.lt_asymm before)
  · intro item mem
    obtain ⟨mem, same⟩ := List.mem_filter.mp mem
    obtain ⟨token, found, rfl⟩ := List.mem_map.mp mem
    exact ⟨beq_iff_eq.mp same, (Grammar.tokenize_cut found).slice⟩
  · intro item mem
    obtain ⟨mem, same⟩ := List.mem_filter.mp mem
    exact ⟨beq_iff_eq.mp same, reading.slice?_classified mem⟩

end Reading


end Highlight
