import Highlight.Proofs.Scan
import Highlight.Proofs.Tokenize.Priority

/-!
# Sources in pieces

A source that is known piece by piece (`Reading`) has the tokens that its pieces say, if every rule
of the grammar reads it so: in the stretches that the rules before have left, the rule finds the
pieces of its own category and nothing else (`Rule.Reads`). What a rule finds is then known from
one piece at a time, and never from the windows it is given: the claimed spans are the spans of the
pieces of the categories so far (`Reading.Covered.claimed`), so the gaps between them are the runs
of the other pieces (`Rule.Reads.findInGaps`). By position the tokens are the classified pieces,
one for one (`Reading.tokenize_eq`).

The first rule has the whole source to itself, and no later rule takes anything back: whatever it
finds is a token (`Grammar.exists_token_of_findsAt`).
-/

namespace Highlight

open Pattern (Span)
open Tokenize

/-- A stretch of source with its category: a token without its number. -/
structure Classified where
  start : Nat
  text : Text
  kind : TokenType
  deriving DecidableEq, Repr

/-- The span of a classified stretch. -/
def Classified.span (item : Classified) : Span := ⟨item.start, item.start + item.text.byteSize⟩

/-- What a token says about the source. -/
def Token.classified (token : Token) : Classified := ⟨token.start, token.text, token.kind⟩

namespace Tokenize

/-- What a rule finds becomes tokens, one for each find. -/
theorem applyRule_of_findInGaps {code : Text} {rule : Rule} {progress : Progress}
    {finds : List Find} (sound : progress.Sound code)
    (h : findInGaps rule code (gaps code.byteSize 0 progress.claimed) = .ok finds) :
    ∃ next tokens, applyRule code code.byteSize progress rule = .ok next ∧ next.Sound code ∧
      next.tokens = progress.tokens ++ tokens ∧ tokens.map Token.span = finds.map Find.span ∧
        ∀ token ∈ tokens, token.CutFrom code ∧ token.kind = rule.kind := by
  obtain ⟨ordered, inside⟩ := sound.gaps_spec
  obtain ⟨same, hsame, -, within⟩ :=
    exists_findInGaps rule ordered fun gap mem => (inside gap mem).1
  obtain rfl := Except.ok.inj (h.symm.trans hsame)
  have inSource : ∀ find ∈ finds, find.Within code 0 code.byteSize := by
    intro find mem
    obtain ⟨gap, hgap, -, within⟩ := within find mem
    exact within.mono (Nat.zero_le _) (inside gap hgap).1.le_high
  obtain ⟨tokens, htokens, cuts, -, cut⟩ :=
    exists_tokensOf? rule.kind progress.tokens.length inSource
  obtain ⟨next, applies, nextSound, -⟩ := exists_applyRule rule sound
  refine ⟨next, tokens, applies, nextSound, ?_, cuts, cut⟩
  simp only [applyRule, h] at applies
  dsimp only [bind, Except.bind] at applies
  rw [htokens] at applies
  rw [← Except.ok.inj applies]

/-- **The claimed spans** are those of the tokens in order. -/
theorem Progress.Sound.claimed_eq {code : Text} {progress : Progress} {spans : List Span}
    (sound : progress.Sound code) (perm : (progress.tokens.map Token.span).Perm spans)
    (ordered : spans.Pairwise fun a b => spanIsBefore a b = true) : progress.claimed = spans := by
  refine List.Perm.eq_of_pairwise ?_ sound.sorted ordered (sound.claims.trans perm)
  rintro ⟨start, stop⟩ ⟨start', stop'⟩ _ _ before behind
  simp only [spanIsBefore, Bool.or_eq_true, Bool.and_eq_true, decide_eq_true_eq,
    beq_iff_eq] at before behind
  rw [Span.mk.injEq]
  omega

end Tokenize

/-- By position every token begins behind the one before. -/
theorem Grammar.classified_pairwise (grammar : Grammar) (code : Text) :
    ((grammar.tokenize code).tokens.map Token.classified).Pairwise
      fun a b => a.start < b.start := by
  refine List.pairwise_map.mpr ?_
  refine (grammar.tokenize_precedes code).imp_of_mem ?_
  intro a b mem _ before
  exact Nat.lt_of_lt_of_le (tokenize_cut mem).start_lt_stop before

/-- The tokens of a source are what the run of the rules has found. -/
theorem Grammar.classified_perm {grammar : Grammar} {code : Text} {final : Progress}
    (run : applyRules code code.byteSize .start grammar.rules = .ok final)
    (sound : final.Sound code) : ((grammar.tokenize code).tokens.map Token.classified).Perm
      (final.tokens.map Token.classified) := by
  rw [tokenize_of_run run sound]
  exact (sortBy_perm Token.isBefore final.tokens).map Token.classified

/-- **The tokens of a source** are, by position, what the run of the rules has found. -/
theorem Grammar.tokenize_eq_of_perm {grammar : Grammar} {code : Text} {final : Progress}
    {items : List Classified}
    (run : applyRules code code.byteSize .start grammar.rules = .ok final)
    (sound : final.Sound code) (perm : (final.tokens.map Token.classified).Perm items)
    (ordered : items.Pairwise fun a b => a.start < b.start) :
    (grammar.tokenize code).tokens.map Token.classified = items := by
  refine List.Perm.eq_of_pairwise ?_ (grammar.classified_pairwise code) ordered
    ((classified_perm run sound).trans perm)
  intro a b _ _ before behind
  exact absurd behind (Nat.lt_asymm before)

/-- **What the first rule of a grammar finds** in the whole source is a token. -/
theorem Grammar.exists_token_of_findsAt {grammar : Grammar} {code : Text} {rule : Rule}
    {later : List Rule} {span : Span} (rules : grammar.rules = rule :: later)
    (mem : span ∈ (rule.findsAt [] code).map Find.span) :
    ∃ token ∈ (grammar.tokenize code).tokens, token.span = span := by
  have found : findInGaps rule code (gaps code.byteSize 0 Progress.start.claimed) =
      .ok (rule.findsAt [] code) := by
    have all := rule.findAll_eq [] code []
    rw [List.nil_append, List.append_nil] at all
    have all : rule.findAll code 0 code.byteSize = .ok (rule.findsAt [] code) := all
    simp only [Progress.start, gaps, findInGaps, all]
    exact congrArg Except.ok (List.append_nil _)
  obtain ⟨next, tokens, applies, sound, nextTokens, cuts, -⟩ :=
    applyRule_of_findInGaps (Progress.start_sound code) found
  obtain ⟨final, run, finalSound, more, finalTokens⟩ := exists_prefix sound later
  have run : applyRules code code.byteSize .start grammar.rules = .ok final := by
    simp only [rules, applyRules, applies]
    exact run
  rw [← cuts] at mem
  obtain ⟨token, mem, same⟩ := List.mem_map.mp mem
  refine ⟨token, (mem_tokenize run finalSound).mpr ?_, same⟩
  rw [finalTokens, nextTokens]
  exact List.mem_append_left _ (List.mem_append_right _ mem)

/-- Pieces cut out of one source in the same places, all of one category, are the same. -/
theorem Classified.eq_of_spans (code : Text) (kind : TokenType) {items others : List Classified}
    (same : items.map Classified.span = others.map Classified.span)
    (cut : ∀ item ∈ items, item.kind = kind ∧
      code.slice? item.span.start item.span.stop = some item.text)
    (cut' : ∀ item ∈ others, item.kind = kind ∧
      code.slice? item.span.start item.span.stop = some item.text) : items = others := by
  let ofSpan (span : Span) : Classified :=
    ⟨span.start, (code.slice? span.start span.stop).getD [], kind⟩
  have back : ∀ {items : List Classified}, (∀ item ∈ items, item.kind = kind ∧
      code.slice? item.span.start item.span.stop = some item.text) →
      (items.map Classified.span).map ofSpan = items := by
    intro items cut
    rw [List.map_map]
    refine (List.map_congr_left ?_).trans (List.map_id items)
    intro item mem
    obtain ⟨rfl, slice⟩ := cut item mem
    simp only [Function.comp, ofSpan, slice]
    rfl
  rw [← back cut, same, back cut']

/-- How pieces are read: the text of each, and the category of those that have one. -/
structure Reading (α : Type) where
  text : α → Text
  kind : α → Option TokenType
  nonempty : ∀ piece, text piece ≠ []

namespace Reading

variable {α : Type} (reading : Reading α) {kinds : List TokenType} {pieces pre run post : List α}
  {piece : α}

/-- The source that pieces make up. -/
def code (pieces : List α) : Text := pieces.flatMap reading.text

/-- The pieces that have a category, from an offset on. -/
def classified : Nat → List α → List Classified
  | _, [] => []
  | offset, piece :: rest =>
    let later := classified (offset + (reading.text piece).byteSize) rest
    match reading.kind piece with
    | some kind => ⟨offset, reading.text piece, kind⟩ :: later
    | none => later

/-- Whether a piece has one of some categories. -/
def isOf (kinds : List TokenType) (piece : α) : Bool := (reading.kind piece).any kinds.contains

/-- The spans of the pieces that have one of some categories. -/
def spans (kinds : List TokenType) (offset : Nat) (pieces : List α) : List Span :=
  ((reading.classified offset pieces).filter fun item => kinds.contains item.kind).map
    Classified.span

@[simp] theorem code_nil : reading.code [] = [] := rfl

@[simp] theorem code_cons (piece : α) (rest : List α) :
    reading.code (piece :: rest) = reading.text piece ++ reading.code rest := rfl

@[simp] theorem code_append (pre post : List α) :
    reading.code (pre ++ post) = reading.code pre ++ reading.code post :=
  List.flatMap_append

@[simp] theorem spans_nil (kinds : List TokenType) (offset : Nat) :
    reading.spans kinds offset [] = [] := rfl

@[simp] theorem isOf_nil (piece : α) : reading.isOf [] piece = false := by
  unfold isOf
  cases reading.kind piece <;> rfl

theorem spans_cons_of_isOf (h : reading.isOf kinds piece = true) (offset : Nat) (rest : List α) :
    reading.spans kinds offset (piece :: rest) =
      ⟨offset, offset + (reading.text piece).byteSize⟩ ::
        reading.spans kinds (offset + (reading.text piece).byteSize) rest := by
  obtain ⟨kind, eq, mem⟩ := (Option.any_eq_true _ _).mp h
  simp only [spans, classified, eq, List.filter_cons, if_pos mem, List.map_cons, Classified.span]

theorem spans_cons_of_not_isOf (h : reading.isOf kinds piece = false) (offset : Nat)
    (rest : List α) : reading.spans kinds offset (piece :: rest) =
      reading.spans kinds (offset + (reading.text piece).byteSize) rest := by
  cases eq : reading.kind piece with
  | none => simp only [spans, classified, eq]
  | some kind =>
    have absent : kinds.contains kind = false := by
      rwa [isOf, eq] at h
    simp only [spans, classified, eq, List.filter_cons, absent, Bool.false_eq_true, if_false]

theorem spans_eq_nil (h : ∀ piece ∈ pieces, reading.isOf kinds piece = false) (offset : Nat) :
    reading.spans kinds offset pieces = [] := by
  induction pieces generalizing offset with
  | nil => rfl
  | cons piece pieces ih =>
    obtain ⟨here, later⟩ := List.forall_mem_cons.mp h
    rw [spans_cons_of_not_isOf reading here, ih later]

theorem spans_append (pre post : List α) (offset : Nat) :
    reading.spans kinds offset (pre ++ post) = reading.spans kinds offset pre ++
      reading.spans kinds (offset + (reading.code pre).byteSize) post := by
  induction pre generalizing offset with
  | nil => rfl
  | cons piece pre ih =>
    rw [List.cons_append]
    cases h : reading.isOf kinds piece with
    | true =>
      rw [spans_cons_of_isOf reading h, spans_cons_of_isOf reading h, ih, code_cons,
        Text.byteSize_append, ← Nat.add_assoc, List.cons_append]
    | false =>
      rw [spans_cons_of_not_isOf reading h, spans_cons_of_not_isOf reading h, ih, code_cons,
        Text.byteSize_append, ← Nat.add_assoc]

/-- A classified piece lies at a place of the source, where nothing of another piece begins. -/
theorem exists_of_mem_classified {offset : Nat} {item : Classified}
    (mem : item ∈ reading.classified offset pieces) :
    ∃ pre piece post, pieces = pre ++ piece :: post ∧
      reading.kind piece = some item.kind ∧ item.text = reading.text piece ∧
        item.start = offset + (reading.code pre).byteSize := by
  induction pieces generalizing offset with
  | nil => cases mem
  | cons piece rest ih =>
    have later (mem : item ∈ reading.classified (offset + (reading.text piece).byteSize) rest) :
        ∃ pre other post, piece :: rest = pre ++ other :: post ∧
          reading.kind other = some item.kind ∧ item.text = reading.text other ∧
            item.start = offset + (reading.code pre).byteSize := by
      obtain ⟨pre, other, post, rfl, kind, text, start⟩ := ih mem
      refine ⟨piece :: pre, other, post, rfl, kind, text, ?_⟩
      rw [start, code_cons, Text.byteSize_append, Nat.add_assoc]
    cases eq : reading.kind piece with
    | none =>
      simp only [classified, eq] at mem
      exact later mem
    | some kind =>
      simp only [classified, eq] at mem
      rcases List.mem_cons.mp mem with rfl | mem
      · exact ⟨[], piece, rest, rfl, eq, rfl, rfl⟩
      · exact later mem

/-- A classified piece is what stands in its place. -/
theorem slice?_classified {item : Classified} (mem : item ∈ reading.classified 0 pieces) :
    (reading.code pieces).slice? item.span.start item.span.stop = some item.text := by
  obtain ⟨pre, piece, post, rfl, -, text, start⟩ := reading.exists_of_mem_classified mem
  refine Text.slice?_eq_some_iff.mpr ⟨reading.code pre, reading.code post, ?_, ?_, rfl⟩
  · rw [code_append, code_cons, text]
  · exact (start.trans (Nat.zero_add _)).symm

/-- Nothing that is classified begins inside a piece. -/
theorem start_of_mem_classified {item : Classified}
    (mem : item ∈ reading.classified 0 (pre ++ piece :: post)) :
    item.start ≤ (reading.code pre).byteSize ∨
      (reading.code pre).byteSize + (reading.text piece).byteSize ≤ item.start := by
  obtain ⟨before, other, after, split, -, -, start⟩ := reading.exists_of_mem_classified mem
  rw [Nat.zero_add] at start
  obtain ⟨more, rfl, eq⟩ | ⟨more, rfl, -⟩ := List.append_eq_append_iff.mp split
  · cases more with
    | nil =>
      rw [start, List.append_nil]
      exact .inl (Nat.le_refl _)
    | cons first more =>
      obtain ⟨rfl, -⟩ := List.cons.inj eq
      rw [start, code_append, code_cons, Text.byteSize_append, Text.byteSize_append]
      exact .inr (by omega)
  · rw [start, code_append, Text.byteSize_append]
    exact .inl (Nat.le_add_right _ _)

/-- Classified pieces stand one behind the other. -/
theorem classified_pairwise (offset : Nat) (pieces : List α) :
    (reading.classified offset pieces).Pairwise fun a b => a.start < b.start := by
  induction pieces generalizing offset with
  | nil => exact .nil
  | cons piece rest ih =>
    have pos := Text.byteSize_pos (reading.nonempty piece)
    simp only [classified]
    split
    · refine List.pairwise_cons.mpr ⟨?_, ih _⟩
      intro item mem
      obtain ⟨pre, -, -, -, -, -, start⟩ := reading.exists_of_mem_classified mem
      dsimp only
      omega
    · exact ih _

end Reading

variable {α : Type} {reading : Reading α} {kinds : List TokenType} {rule : Rule}
  {pieces pre run post : List α} {piece : α} {progress : Progress}

/-- Whether a rule, applied behind the rules of some categories, finds its own pieces and nothing
else: in a run of pieces that are left over, which no other left over piece follows, it finds the
first piece if that is of its category, and goes on behind the piece. -/
def Rule.Reads (rule : Rule) (reading : Reading α) (kinds : List TokenType) (pieces : List α) :
    Prop :=
  ∀ pre piece run post, pieces = pre ++ piece :: run ++ post →
    (∀ other ∈ piece :: run, reading.isOf kinds other = false) →
    (∀ other ∈ post.head?, reading.isOf kinds other = true) →
    (rule.findsAt (reading.code pre) (reading.code (piece :: run))).map Find.span =
      reading.spans [rule.kind] (reading.code pre).byteSize [piece] ++
        (rule.findsAt (reading.code (pre ++ [piece])) (reading.code run)).map Find.span

namespace Rule

/-- A piece that is found. -/
theorem span_findsAt_take (resume : Nat) (kind : reading.kind piece = some rule.kind)
    (take : rule.findsAt (reading.code pre) (reading.code (piece :: run)) =
      ⟨(reading.code pre).byteSize, (reading.code (pre ++ [piece])).byteSize, resume⟩ ::
        rule.findsAt (reading.code (pre ++ [piece])) (reading.code run)) :
    (rule.findsAt (reading.code pre) (reading.code (piece :: run))).map Find.span =
      reading.spans [rule.kind] (reading.code pre).byteSize [piece] ++
        (rule.findsAt (reading.code (pre ++ [piece])) (reading.code run)).map Find.span := by
  have own : reading.isOf [rule.kind] piece = true := by simp [Reading.isOf, kind]
  rw [take, reading.spans_cons_of_isOf own]
  simp [Find.span]

/-- A piece that is passed over. -/
theorem span_findsAt_skip (kind : reading.kind piece ≠ some rule.kind)
    (skip : rule.findsAt (reading.code pre) (reading.code (piece :: run)) =
      rule.findsAt (reading.code (pre ++ [piece])) (reading.code run)) :
    (rule.findsAt (reading.code pre) (reading.code (piece :: run))).map Find.span =
      reading.spans [rule.kind] (reading.code pre).byteSize [piece] ++
        (rule.findsAt (reading.code (pre ++ [piece])) (reading.code run)).map Find.span := by
  have other : reading.isOf [rule.kind] piece = false := by
    cases eq : reading.kind piece with
    | none => simp [Reading.isOf, eq]
    | some given =>
      have ne : given ≠ rule.kind := fun same => kind (same ▸ eq)
      simp [Reading.isOf, eq, ne]
  rw [skip, reading.spans_cons_of_not_isOf other]
  rfl

end Rule

/-- Whether a rule, applied behind the rules of some categories, finds its own pieces and nothing
else in every gap that they leave: a run of left over pieces with claimed ones, or none, around
it. -/
def Rule.ReadsGaps (rule : Rule) (reading : Reading α) (kinds : List TokenType)
    (pieces : List α) : Prop :=
  ∀ pre run post, pieces = pre ++ run ++ post →
    (∀ other ∈ pre.getLast?, reading.isOf kinds other = true) →
    (∀ other ∈ run, reading.isOf kinds other = false) →
    (∀ other ∈ post.head?, reading.isOf kinds other = true) →
    (rule.findsAt (reading.code pre) (reading.code run)).map Find.span =
      reading.spans [rule.kind] (reading.code pre).byteSize run

namespace Rule

/-- What a rule finds in a run of left over pieces are those of its category. -/
theorem Reads.findsAt (reads : rule.Reads reading kinds pieces)
    (split : pieces = pre ++ run ++ post) (left : ∀ other ∈ run, reading.isOf kinds other = false)
    (ends : ∀ other ∈ post.head?, reading.isOf kinds other = true) :
    (rule.findsAt (reading.code pre) (reading.code run)).map Find.span =
      reading.spans [rule.kind] (reading.code pre).byteSize run := by
  induction run generalizing pre with
  | nil => rfl
  | cons piece run ih =>
    have split' : pieces = pre ++ [piece] ++ run ++ post := by
      rw [split]
      simp only [List.append_assoc, List.cons_append, List.nil_append]
    have later := ih split' fun other mem => left other (List.mem_cons_of_mem piece mem)
    rw [reads pre piece run post split left ends, later, reading.code_append,
      Text.byteSize_append]
    exact (reading.spans_append [piece] run _).symm

/-- A rule that reads piece by piece does so in every gap. -/
theorem Reads.readsGaps (reads : rule.Reads reading kinds pieces) :
    rule.ReadsGaps reading kinds pieces :=
  fun _ _ _ split _ left ends => reads.findsAt split left ends

/-- **What a rule finds in all gaps** are the pieces of its category: a gap is a run of left over
pieces. -/
theorem ReadsGaps.findInGaps (reads : rule.ReadsGaps reading kinds pieces)
    (fresh : rule.kind ∉ kinds) (split : pieces = pre ++ run ++ post)
    (begins : ∀ other ∈ pre.getLast?, reading.isOf kinds other = true)
    (left : ∀ other ∈ run, reading.isOf kinds other = false) :
    ∃ finds, findInGaps rule (reading.code pieces) (gaps (reading.code pieces).byteSize
        (reading.code pre).byteSize (reading.spans kinds (reading.code (pre ++ run)).byteSize post))
          = .ok finds ∧
      finds.map Find.span =
        reading.spans [rule.kind] (reading.code pre).byteSize (run ++ post) := by
  induction post generalizing pre run with
  | nil =>
    have here := reads pre run [] split begins left (by intro _ none; cases none)
    have found := rule.findAll_eq (reading.code pre) (reading.code run) []
    rw [List.append_nil, ← reading.code_append] at found
    rw [List.append_nil] at split ⊢
    subst split
    refine ⟨rule.findsAt (reading.code pre) (reading.code run) ++ [], ?_, ?_⟩
    · simp only [reading.spans_nil, gaps, Tokenize.findInGaps, found]
      rfl
    · rw [List.append_nil, here]
  | cons piece post ih =>
    have next : (reading.code (pre ++ run)).byteSize + (reading.text piece).byteSize =
        (reading.code (pre ++ run ++ [piece])).byteSize := by
      simp only [reading.code_append, Text.byteSize_append, reading.code_cons, reading.code_nil,
        List.append_nil]
    cases claimed : reading.isOf kinds piece with
    | true =>
      -- The gap ends here; the next one begins behind the piece.
      have here := reads pre run _ split begins left (by intro other mem; cases mem; exact claimed)
      have found := rule.findAll_eq (reading.code pre) (reading.code run)
        (reading.code (piece :: post))
      rw [← reading.code_append, ← reading.code_append, ← split] at found
      have split' : pieces = pre ++ run ++ [piece] ++ [] ++ post := by
        rw [split]
        simp only [List.append_assoc, List.singleton_append]
      have begins' : ∀ other ∈ (pre ++ run ++ [piece]).getLast?,
          reading.isOf kinds other = true := by
        rw [List.getLast?_concat]
        intro other mem
        cases mem
        exact claimed
      obtain ⟨there, hthere, spans⟩ := ih split' begins' (by intro _ none; cases none)
      have other : reading.isOf [rule.kind] piece = false := by
        obtain ⟨kind, eq, mem⟩ := (Option.any_eq_true _ _).mp claimed
        have ne : kind ≠ rule.kind := by
          rintro rfl
          exact fresh (List.contains_iff_mem.mp mem)
        simp [Reading.isOf, eq, ne]
      refine ⟨rule.findsAt (reading.code pre) (reading.code run) ++ there, ?_, ?_⟩
      · rw [List.append_nil] at hthere
        rw [reading.spans_cons_of_isOf claimed, next]
        simp only [gaps, Tokenize.findInGaps, found, hthere]
        rfl
      · rw [List.map_append, here, spans, List.nil_append, reading.spans_append,
          reading.spans_cons_of_not_isOf other, ← next, reading.code_append, Text.byteSize_append]
    | false =>
      have split' : pieces = pre ++ (run ++ [piece]) ++ post := by
        rw [split]
        simp only [List.append_assoc, List.singleton_append]
      have left' : ∀ other ∈ run ++ [piece], reading.isOf kinds other = false := by
        intro other mem
        rcases List.mem_append.mp mem with mem | mem
        · exact left other mem
        · rw [List.mem_singleton.mp mem, claimed]
      obtain ⟨finds, hfinds, spans⟩ := ih split' begins left'
      refine ⟨finds, ?_, ?_⟩
      · rw [reading.spans_cons_of_not_isOf claimed, next, List.append_assoc]
        exact hfinds
      · rw [spans, List.append_assoc, List.singleton_append]

end Rule

namespace Reading

/-- Whether what has been found so far are the pieces of some categories. -/
structure Covered (reading : Reading α) (pieces : List α) (kinds : List TokenType)
    (progress : Progress) : Prop where
  sound : progress.Sound (reading.code pieces)
  tokens : (progress.tokens.map Token.classified).Perm
    ((reading.classified 0 pieces).filter fun item => kinds.contains item.kind)

theorem start_covered (reading : Reading α) (pieces : List α) :
    reading.Covered pieces [] .start where
  sound := Progress.start_sound _
  tokens := by
    have none : (reading.classified 0 pieces).filter (fun item => [].contains item.kind) = [] :=
      List.filter_eq_nil_iff.mpr fun _ _ h => Bool.noConfusion h
    rw [none]
    exact .refl _

namespace Covered

/-- The claimed spans are those of the pieces. -/
theorem claimed (covered : reading.Covered pieces kinds progress) :
    progress.claimed = reading.spans kinds 0 pieces := by
  have spans := covered.tokens.map Classified.span
  rw [List.map_map] at spans
  refine covered.sound.claimed_eq spans (List.pairwise_map.mpr ?_)
  refine ((reading.classified_pairwise 0 pieces).filter _).imp ?_
  intro a b before
  exact Bool.or_eq_true_iff.mpr (.inl (decide_eq_true before))

/-- **A rule that reads the source** finds the pieces of its category. -/
theorem applyRule (covered : reading.Covered pieces kinds progress)
    (reads : rule.ReadsGaps reading kinds pieces) (fresh : rule.kind ∉ kinds) :
    ∃ next, Tokenize.applyRule (reading.code pieces) (reading.code pieces).byteSize progress rule =
        .ok next ∧ reading.Covered pieces (rule.kind :: kinds) next := by
  have whole : pieces = [] ++ [] ++ pieces := rfl
  obtain ⟨finds, hfinds, spans⟩ := reads.findInGaps fresh whole (by intro _ none; cases none)
    (by intro _ none; cases none)
  have hfinds : findInGaps rule (reading.code pieces)
      (gaps (reading.code pieces).byteSize 0 progress.claimed) = .ok finds := by
    rw [covered.claimed]
    exact hfinds
  obtain ⟨next, tokens, applies, sound, nextTokens, cuts, cut⟩ :=
    applyRule_of_findInGaps covered.sound hfinds
  refine ⟨next, applies, sound, ?_⟩
  have found : tokens.map Token.classified =
      (reading.classified 0 pieces).filter fun item => [rule.kind].contains item.kind := by
    refine Classified.eq_of_spans (reading.code pieces) rule.kind ?_ ?_ ?_
    · rw [List.map_map]
      exact cuts.trans spans
    · intro item mem
      obtain ⟨token, found, rfl⟩ := List.mem_map.mp mem
      exact ⟨(cut token found).2, (cut token found).1.slice⟩
    · intro item mem
      obtain ⟨mem, kind⟩ := List.mem_filter.mp mem
      exact ⟨by simpa using kind, reading.slice?_classified mem⟩
  rw [nextTokens, List.map_append, found]
  refine (covered.tokens.append_right _).trans ?_
  have keep := List.filter_append_perm (fun item : Classified => kinds.contains item.kind)
    ((reading.classified 0 pieces).filter fun item => (rule.kind :: kinds).contains item.kind)
  rw [List.filter_filter, List.filter_filter] at keep
  -- The category of the rule is none of those before, so the selections are disjoint.
  have old : ∀ item : Classified, (kinds.contains item.kind &&
      (rule.kind :: kinds).contains item.kind) = kinds.contains item.kind := by
    intro item
    rw [List.contains_cons]
    cases kinds.contains item.kind <;> simp
  have new : ∀ item : Classified, (!kinds.contains item.kind &&
      (rule.kind :: kinds).contains item.kind) = [rule.kind].contains item.kind := by
    intro item
    by_cases same : item.kind = rule.kind
    · simp [same, fresh]
    · simp [same]
  simpa only [old, new] using keep

end Covered

/-- Whether the rules of a list, applied one behind the other, each read the source, and give
categories of their own. -/
def IsReadBy (reading : Reading α) (pieces : List α) : List TokenType → List Rule → Prop
  | _, [] => True
  | kinds, rule :: rest => rule.ReadsGaps reading kinds pieces ∧ rule.kind ∉ kinds ∧
      IsReadBy reading pieces (rule.kind :: kinds) rest

theorem Covered.applyRules {rules : List Rule} (covered : reading.Covered pieces kinds progress)
    (read : reading.IsReadBy pieces kinds rules) :
    ∃ final, Tokenize.applyRules (reading.code pieces) (reading.code pieces).byteSize progress
        rules = .ok final ∧
      reading.Covered pieces ((rules.map Rule.kind).reverse ++ kinds) final := by
  induction rules generalizing kinds progress with
  | nil => exact ⟨progress, rfl, covered⟩
  | cons rule rest ih =>
    obtain ⟨reads, fresh, later⟩ := read
    obtain ⟨next, applies, covered⟩ := covered.applyRule reads fresh
    obtain ⟨final, run, covered⟩ := ih covered later
    refine ⟨final, ?_, ?_⟩
    · simp only [Tokenize.applyRules, applies]
      exact run
    · simpa only [List.map_cons, List.reverse_cons, List.append_assoc, List.singleton_append]
        using covered

/-- **The tokens of a source that is read by the rules** are, by position, its pieces that have a
category. -/
theorem tokenize_eq {grammar : Grammar} (read : reading.IsReadBy pieces [] grammar.rules)
    (complete : ∀ piece ∈ pieces, ∀ kind ∈ reading.kind piece,
      ∃ rule ∈ grammar.rules, rule.kind = kind) :
    (grammar.tokenize (reading.code pieces)).tokens.map Token.classified =
      reading.classified 0 pieces := by
  obtain ⟨final, run, covered⟩ := (reading.start_covered pieces).applyRules read
  have all : (reading.classified 0 pieces).filter (fun item =>
      ((grammar.rules.map Rule.kind).reverse ++ []).contains item.kind) =
        reading.classified 0 pieces := by
    refine List.filter_eq_self.mpr ?_
    intro item mem
    obtain ⟨pre, piece, post, rfl, kind, -, -⟩ := reading.exists_of_mem_classified mem
    obtain ⟨rule, mem, same⟩ := complete piece (by simp) item.kind kind
    simp only [List.append_nil, List.contains_iff_mem, List.mem_reverse]
    exact same ▸ List.mem_map_of_mem mem
  have perm := covered.tokens
  rw [all] at perm
  exact Grammar.tokenize_eq_of_perm run covered.sound perm (reading.classified_pairwise 0 pieces)

end Reading

end Highlight
