import Highlight.Proofs.Pattern.Language
import Highlight.Proofs.Url.Parts

/-!
# Tokens of a URL

The rules for URLs are not applied in the order of the parts: fragment and query come first, and are
out of reach of all others. Each rule then finds the part of its own category and passes over those
that are left, whatever they contain, so that the tokens of a URL are its parts
(`tokenize_eq_components`). The rule for hosts takes the slashes along without claiming them; it
reads no gap piece by piece, but each gap as a whole (`hostRule_readsGaps`).
-/

namespace Highlight.Url

open Pattern

variable {url : Url} {pre run post : List Piece} {piece : Piece} {rule : Rule}
  {kinds : List TokenType} {mark : Char} {text front rest : Text} {chars : CharSet}

/-! ## The rules -/

/-- The rule for fragments. -/
def fragmentRule : Rule :=
  .whole "hash" .urlHash (seq (char '#') (zeroOrMore (set (.compl .blank))))

/-- The rule for queries. -/
def queryRule : Rule :=
  .whole "query" .urlQuery (seq (char '?') (zeroOrMore (Grammar.noneOfNorBlank "#")))

/-- What a scheme is matched by. -/
def schemeName : Pattern :=
  seqs [set (.union (.range 'A' 'Z') (.range 'a' 'z')), zeroOrMore (set Grammar.schemeChar),
    char ':']

/-- The rule for schemes. -/
def schemeRule : Rule :=
  .part "protocol" .urlProtocol (seqs [wordEdge, group 1 schemeName, char '/', char '/'])

/-- The rule for hosts. -/
def hostRule : Rule :=
  .part "host" .urlHost
    (seqs [char '/', char '/', group 1 (oneOrMore (Grammar.noneOfNorBlank "/?#:"))])

/-- The rule for the slashes. -/
def slashRule : Rule := .whole "slash" .urlSlash (Pattern.text "//")

/-- The rule for ports. -/
def portRule : Rule := .whole "port" .urlPort (seq (char ':') (oneOrMore digit))

/-- The rule for paths. -/
def pathRule : Rule :=
  .whole "path" .urlPath (seq (char '/') (zeroOrMore (Grammar.noneOfNorBlank "?#")))

theorem url_rules : Grammar.url.rules =
    [fragmentRule, queryRule, schemeRule, hostRule, slashRule, portRule, pathRule] := rfl

/-! ## What follows a part -/

theorem code_concat (pre : List Piece) (piece : Piece) :
    reading.code (pre ++ [piece]) = reading.code pre ++ piece.text.val := by
  simp only [Reading.code_append, Reading.code_cons, Reading.code_nil, List.append_nil]
  rfl

theorem rank_lt_of_run (split : url.pieces = pre ++ piece :: run ++ post) {other : Piece}
    (mem : other ∈ run) : piece.part.rank < other.part.rank := by
  rw [List.append_assoc, List.cons_append] at split
  exact rank_lt_of_mem split (List.mem_append_left post mem)

/-- What follows a host or a later part starts with the mark of a part behind it. -/
theorem exists_mark_of_head? (split : url.pieces = pre ++ piece :: run ++ post)
    (late : Part.host.rank ≤ piece.part.rank) {c : Char} (mem : c ∈ (reading.code run).head?) :
    ∃ part : Part, piece.part.rank < part.rank ∧ part.mark? = some c := by
  cases run with
  | nil => cases mem
  | cons next run =>
    have behind := rank_lt_of_run split (List.mem_cons_self (a := next))
    refine ⟨next.part, behind, ?_⟩
    have first := next.text.property.head?_eq (Nat.lt_of_le_of_lt late behind)
    have some : reading.text next ≠ [] := next.text.property.nonempty
    rw [Reading.code_cons, List.head?_append_of_ne_nil _ some] at mem
    exact first.symm.trans mem

/-- A part without the character that a rule begins with is passed over. -/
theorem findsAt_skip_lacking (begins : rule.pattern.Begins (· == mark))
    (lacks : piece.part.lacks mark = true) :
    rule.findsAt (reading.code pre) (reading.code (piece :: run)) =
      rule.findsAt (reading.code (pre ++ [piece])) (reading.code run) := by
  rw [code_concat]
  refine Rule.findsAt_skip_of_begins begins fun c mem => beq_eq_false_iff_ne.mpr ?_
  rintro rfl
  exact piece.text.property.not_mem lacks mem

/-! ## Marks with a run of characters -/

/-- A mark and a run of characters are matched up to the end of the run. -/
theorem prefers_marked {q : Pattern} (all : ∀ c ∈ text, chars.contains c = true)
    (ends : ∀ c ∈ rest.head?, chars.contains c = false)
    (q_eq : q = zeroOrMore (set chars) ∨ q = oneOrMore (set chars) ∧ text ≠ []) :
    (seq (char mark) q).Prefers (State.between front (mark :: text ++ rest) [])
      (State.between (front ++ mark :: text) rest []) := by
  have first := outcomes_set_cons (.char mark) front mark (text ++ rest) []
  rw [CharSet.contains_char, beq_self_eq_true, if_pos rfl] at first
  have place : front ++ mark :: text = front ++ [mark] ++ text := by
    rw [List.append_assoc, List.singleton_append]
  refine (prefers_of_outcomes first).seq ?_
  rw [place]
  rcases q_eq with rfl | ⟨rfl, some⟩
  · exact prefers_star_set _ all ends []
  · exact prefers_plus_set _ some all ends []

/-- **A rule for a mark and a run of characters reads** the part of its category, if the parts that
are left lack the mark. -/
theorem reads_of_marked {q : Pattern} (part : Part) (chars : CharSet) (url : Url)
    (kind : rule.kind = part.kind) (whole : rule.group = 0)
    (pattern : rule.pattern = seq (char mark) q)
    (marked : ∀ text, part.Admits text → ∃ body, text = mark :: body ∧
      (∀ c ∈ body, chars.contains c = true) ∧
        (q = zeroOrMore (set chars) ∨ q = oneOrMore (set chars) ∧ body ≠ []))
    (late : Part.host.rank ≤ part.rank)
    (ends : ∀ other : Part, part.rank < other.rank →
      other.mark?.all fun c => !chars.contains c)
    (lacks : ∀ other : Part, other ≠ part →
      kinds.contains other.kind = true ∨ other.lacks mark = true) :
    rule.Reads reading kinds url.pieces := by
  intro pre piece run post split left _
  by_cases here : piece.part = part
  · refine Rule.span_findsAt_take (reading.code (pre ++ [piece])).byteSize
      (by rw [kind, ← here]; rfl) ?_
    obtain ⟨body, text, all, form⟩ := marked piece.text.val (here ▸ piece.text.property)
    have shown : reading.text piece = mark :: body := text
    have prefers : rule.pattern.Prefers
        (State.between (reading.code pre) (mark :: body ++ reading.code run) [])
        (State.between (reading.code pre ++ mark :: body) (reading.code run) []) := by
      rw [pattern]
      refine prefers_marked all ?_ form
      intro c mem
      obtain ⟨other, behind, first⟩ := exists_mark_of_head? split (here ▸ late) mem
      have stops := ends other (here ▸ behind)
      rw [first] at stops
      exact (Bool.not_eq_true' _).mp stops
    rw [code_concat, Reading.code_cons, shown, text]
    exact Rule.findsAt_take_whole whole prefers (List.cons_ne_nil _ _)
  · rcases lacks piece.part here with claimed | lacks
    · have free := left piece List.mem_cons_self
      exact absurd (free.symm.trans claimed) Bool.false_ne_true
    · refine Rule.span_findsAt_skip ?_
        (findsAt_skip_lacking (pattern ▸ (begins_char mark).seq q) lacks)
      intro same
      rw [kind] at same
      exact here (Part.kind_injective (Option.some.inj same))

theorem contains_noneOf {banned : String} {c : Char} :
    (CharSet.compl (.union (.oneOf banned) .blank)).contains c = true ↔
      Unicode.isWhiteSpace c = false ∧ c ∉ banned.toList := by
  simp [CharSet.contains, CharSet.contains_oneOf, and_comm]

/-- The rule for fragments reads the fragment. -/
theorem fragmentRule_reads (url : Url) : fragmentRule.Reads reading [] url.pieces := by
  refine reads_of_marked .fragment (.compl .blank) url rfl rfl rfl ?_
    (by decide) (by decide) (by decide)
  rintro text ⟨body, rfl, plain⟩
  refine ⟨body, rfl, fun c mem => ?_, .inl rfl⟩
  simp [CharSet.contains, (plain c mem).1]

/-- The rule for queries reads the query. -/
theorem queryRule_reads (url : Url) : queryRule.Reads reading [.urlHash] url.pieces := by
  refine reads_of_marked .query (.compl (.union (.oneOf "#") .blank)) url rfl rfl rfl ?_
    (by decide) (by decide) (by decide)
  rintro text ⟨body, rfl, plain⟩
  exact ⟨body, rfl, fun c mem => contains_noneOf.mpr (plain c mem), .inl rfl⟩

/-- The rule for ports reads the port. -/
theorem portRule_reads (url : Url) :
    portRule.Reads reading [.urlSlash, .urlHost, .urlProtocol, .urlQuery, .urlHash]
      url.pieces := by
  refine reads_of_marked .port .decimal url rfl rfl rfl ?_
    (by decide) (by decide) (by decide)
  rintro text ⟨digits, rfl, some, digit⟩
  exact ⟨digits, rfl, fun c mem => Unicode.isDecimal_of_isDigit (digit c mem), .inr ⟨rfl, some⟩⟩

/-- The rule for paths reads the path. -/
theorem pathRule_reads (url : Url) :
    pathRule.Reads reading [.urlPort, .urlSlash, .urlHost, .urlProtocol, .urlQuery, .urlHash]
      url.pieces := by
  refine reads_of_marked .path (.compl (.union (.oneOf "?#") .blank)) url rfl rfl rfl ?_
    (by decide) (by decide) (by decide)
  rintro text ⟨body, rfl, plain, -⟩
  refine ⟨body, rfl, fun c mem => contains_noneOf.mpr ⟨(plain c mem).1, fun banned => ?_⟩, .inl rfl⟩
  exact (plain c mem).2 (List.mem_append_left [':'] banned)

/-! ## Slashes -/

/-- Nothing is left behind a part if all later ones are claimed. -/
theorem run_eq_nil (split : url.pieces = pre ++ piece :: run ++ post)
    (left : ∀ other ∈ piece :: run, reading.isOf kinds other = false)
    (claimed : ∀ part : Part, piece.part.rank < part.rank → kinds.contains part.kind = true) :
    run = [] := by
  refine List.eq_nil_iff_forall_not_mem.mpr fun other mem => ?_
  have free := left other (List.mem_cons_of_mem _ mem)
  have taken := claimed other.part (rank_lt_of_run split mem)
  exact Bool.false_ne_true (free.symm.trans taken)

/-- Two slashes do not match where no slash follows a slash. -/
theorem slashes_none (avoids : Avoids '/' '/' text) {before after : Text} {c : Char}
    (split : text = before ++ c :: after) :
    slashRule.pattern.matchAt? (Cursor.between front (c :: after)) = none := by
  refine matchAt?_of_not_matches fun taken later shown fits => ?_
  obtain rfl : taken = ['/', '/'] := matches_text.mp fits
  rw [shown] at split
  exact avoids before ('/' :: later) split rfl

/-- The rule for slashes reads the slashes in front of the host. -/
theorem slashRule_reads (url : Url) :
    slashRule.Reads reading [.urlHost, .urlProtocol, .urlQuery, .urlHash] url.pieces := by
  intro pre piece run post split left _
  obtain ⟨part, text, admits⟩ := piece
  cases part with
  | scheme | host | query | fragment => cases left _ List.mem_cons_self
  | slashes =>
    refine Rule.span_findsAt_take (reading.code (pre ++ [⟨.slashes, text, admits⟩])).byteSize rfl ?_
    obtain rfl : text = "//".toList := admits
    rw [code_concat]
    exact Rule.findsAt_take_whole rfl (prefers_of_outcomes (outcomes_text "//" _ _ []))
      (List.cons_ne_nil _ _)
  | port =>
    have lacks : Part.port.lacks '/' = true := rfl
    exact Rule.span_findsAt_skip nofun (findsAt_skip_lacking (begins_text "//" rfl) lacks)
  | path =>
    have last : ∀ part : Part, Part.path.rank < part.rank →
        [TokenType.urlHost, .urlProtocol, .urlQuery, .urlHash].contains part.kind = true := by
      decide
    obtain rfl : run = [] := run_eq_nil split left last
    refine Rule.span_findsAt_skip nofun ?_
    rw [code_concat, Reading.code_cons, Reading.code_nil]
    refine Rule.findsAt_skip_text fun before c after parts => ?_
    rw [List.append_nil]
    exact slashes_none admits.avoids_path parts

/-! ## Schemes -/

/-- A text of parts avoids what the parts avoid, if none but the last ends with the first of the two
characters. -/
theorem avoids_code {c d : Char} (each : ∀ before piece after, run = before ++ piece :: after →
    Avoids c d piece.text.val ∧ (piece.text.val.getLast? ≠ some c ∨ after = [])) :
    Avoids c d (reading.code run) := by
  induction run with
  | nil => exact avoids_of_not_mem List.not_mem_nil d
  | cons piece run ih =>
    obtain ⟨here, stop⟩ := each [] piece run rfl
    have later := ih fun before other after split => each (piece :: before) other after (by
      rw [split, List.cons_append])
    refine Avoids.append here later (stop.imp_right ?_)
    rintro rfl
    exact nofun

/-- Behind the scheme, no slash follows a colon. -/
theorem avoids_colon (behind : ∀ other ∈ run, Part.scheme.rank < other.part.rank ∧
    other.part.rank < Part.query.rank) : Avoids ':' '/' (reading.code run) := by
  refine avoids_code ?_
  rintro before ⟨part, text, admits⟩ after rfl
  obtain ⟨low, high⟩ : Part.scheme.rank < part.rank ∧ part.rank < Part.query.rank :=
    behind _ (List.mem_append_right before List.mem_cons_self)
  have other (lacks : part.lacks ':' = true) :
      Avoids ':' '/' text ∧ (text.getLast? ≠ some ':' ∨ after = []) := by
    have absent := admits.not_mem lacks
    exact ⟨avoids_of_not_mem absent _, .inl fun last => absent (List.mem_of_getLast? last)⟩
  cases part with
  | scheme => exact absurd low (by decide)
  | query | fragment => exact absurd high (by decide)
  | slashes | host | path => exact other rfl
  | port =>
    refine ⟨admits.avoids_port, .inl fun last => ?_⟩
    have digit := admits.getLast?_port
    rw [last] at digit
    cases digit

/-- What the rule for schemes matches has a slash behind a colon. -/
theorem scheme_none (avoids : Avoids ':' '/' text) {before after : Text} {c : Char}
    (split : text = before ++ c :: after) :
    schemeRule.pattern.matchAt? (Cursor.between front (c :: after)) = none := by
  refine matchAt?_of_not_matches ?_
  rintro _ later shown ⟨_, _, rfl, ⟨rfl, -⟩, _, _, rfl, name, slash, last, rfl, single, -⟩
  obtain ⟨letter, _, rfl, -, more, colon, rfl, -, mark⟩ := name
  obtain rfl := matches_char.mp mark
  obtain rfl := matches_char.mp single
  rw [shown] at split
  refine avoids (before ++ letter ++ more) ('/' :: (last ++ later)) (split.trans ?_) rfl
  simp only [List.append_assoc, List.cons_append, List.nil_append]

/-- Behind the scheme the rule for schemes finds nothing. -/
theorem schemeRule_findsAt_eq_nil (behind : ∀ other ∈ run, Part.scheme.rank < other.part.rank ∧
    other.part.rank < Part.query.rank) : schemeRule.findsAt front (reading.code run) = [] :=
  Rule.findsAt_eq_nil fun _ _ _ split => scheme_none (avoids_colon behind) split

theorem contains_letter {c : Char} (h : c.isAlpha = true) :
    (CharSet.union (.range 'A' 'Z') (.range 'a' 'z')).contains c = true := by
  simpa [CharSet.contains] using Unicode.isAlpha_iff.mp h

theorem contains_schemeChar {c : Char} (h : c.isAlphanum = true ∨ c ∈ "+.-".toList) :
    Grammar.schemeChar.contains c = true := by
  rcases h with name | mark
  · rw [Char.isAlphanum, Bool.or_eq_true, Unicode.isAlpha_iff, Unicode.isDigit_iff] at name
    simp [Grammar.schemeChar, CharSet.unions, CharSet.contains]
    tauto
  · revert mark c
    decide

/-- The name of a scheme is matched up to its colon. -/
theorem prefers_schemeName (h : Part.scheme.Admits text) :
    schemeName.Prefers (State.between front (text ++ rest) [])
      (State.between (front ++ text) rest []) := by
  obtain ⟨letter, more, rfl, alpha, others⟩ := h
  have first := outcomes_set_cons (.union (.range 'A' 'Z') (.range 'a' 'z')) front letter
    (more ++ ([':'] ++ rest)) []
  rw [if_pos (contains_letter alpha)] at first
  have runs : Runs (set Grammar.schemeChar)
      (State.between (front ++ [letter]) (more ++ ([':'] ++ rest)) [])
      (State.between (front ++ [letter] ++ more) ([':'] ++ rest) []) := by
    refine runs_set _ (fun c mem => contains_schemeChar (others c mem)) ?_ []
    intro c mem
    cases mem
    decide
  have colon := outcomes_set_cons (.char ':') (front ++ [letter] ++ more) ':' rest []
  rw [CharSet.contains_char, beq_self_eq_true, if_pos rfl] at colon
  have all := (prefers_of_outcomes first).seq (runs.prefers_star.seq (prefers_of_outcomes colon))
  simp only [List.append_assoc, List.cons_append, List.nil_append] at all ⊢
  exact all

/-- The rule for schemes matches the scheme with the slashes behind it. -/
theorem schemeRule_prefers (h : Part.scheme.Admits text) (rest : Text) :
    schemeRule.pattern.Prefers (State.between [] (text ++ "//".toList ++ rest) [])
      (State.between (text ++ "//".toList) rest [(1, ⟨0, text.byteSize⟩)]) := by
  have edge : wordEdge.outcomes (State.between [] (text ++ ("//".toList ++ rest)) []) =
      [State.between [] (text ++ ("//".toList ++ rest)) []] := by
    obtain ⟨letter, more, rfl, alpha, -⟩ := h
    have word : ((letter :: (more ++ [':'])) ++ ("//".toList ++ rest)).head?.any Unicode.isWord =
        true := Unicode.isWord_of_isAlphanum (Bool.or_eq_true_iff.mpr (.inl alpha))
    exact outcomes_wordEdge (by rw [word]; decide) []
  have name : (group 1 schemeName).Prefers
      (State.between [] (text ++ ("//".toList ++ rest)) [])
      (State.between text ("//".toList ++ rest) [(1, ⟨0, text.byteSize⟩)]) :=
    (prefers_schemeName h).group 1
  have slashes := outcomes_text "//" text rest [(1, ⟨0, text.byteSize⟩)]
  have all := (prefers_of_outcomes edge).seq (name.seq (prefers_of_outcomes slashes))
  rw [List.append_assoc]
  exact all

/-- The rule for schemes reads the scheme. -/
theorem schemeRule_reads (url : Url) :
    schemeRule.Reads reading [.urlQuery, .urlHash] url.pieces := by
  intro pre piece run post split left ends
  have early : ∀ other ∈ piece :: run, other.part.rank < Part.query.rank := by
    intro other mem
    have free : [TokenType.urlQuery, .urlHash].contains other.part.kind = false := left other mem
    exact (by decide : ∀ part : Part, [TokenType.urlQuery, .urlHash].contains part.kind = false →
      part.rank < Part.query.rank) other.part free
  have behind : ∀ other ∈ run, Part.scheme.rank < other.part.rank ∧
      other.part.rank < Part.query.rank := fun other mem =>
    ⟨Nat.lt_of_le_of_lt (Nat.zero_le _) (rank_lt_of_run split mem),
      early other (List.mem_cons_of_mem _ mem)⟩
  by_cases here : piece.part = .scheme
  · have kind : reading.kind piece = some schemeRule.kind :=
      congrArg (fun part : Part => some part.kind) here
    rw [List.append_assoc, List.cons_append] at split
    obtain ⟨rfl, slashes, _, _, follow, second, -⟩ := exists_of_scheme split here
    cases run with
    | nil =>
      have claimed := ends slashes (by rw [show post = _ from follow]; rfl)
      have free : [TokenType.urlQuery, .urlHash].contains slashes.part.kind = false := by
        rw [second]
        rfl
      exact absurd (claimed.symm.trans free) (by decide)
    | cons next run =>
      obtain rfl : next = slashes := (List.cons.inj follow).1
      have shown : reading.text next = "//".toList := next.admits second
      have some : piece.text.val ≠ [] := piece.text.property.nonempty
      have found := Rule.findsAt_take_part (show schemeRule.group = 1 from rfl)
        (schemeRule_prefers (piece.admits here) (reading.code run))
        (Text.byteSize_pos some) (List.append_ne_nil_of_left_ne_nil some _)
      have behind' : ∀ other ∈ run, Part.scheme.rank < other.part.rank ∧
          other.part.rank < Part.query.rank :=
        fun other mem => behind other (List.mem_cons_of_mem next mem)
      refine Rule.span_findsAt_take (reading.text piece ++ reading.text next).byteSize kind ?_
      rw [schemeRule_findsAt_eq_nil behind]
      rw [schemeRule_findsAt_eq_nil behind', List.append_assoc, ← shown] at found
      rw [code_concat]
      exact found
  · have low : Part.scheme.rank < piece.part.rank :=
      (by decide : ∀ part : Part, part ≠ .scheme → Part.scheme.rank < part.rank) piece.part here
    refine Rule.span_findsAt_skip ?_ ?_
    · intro same
      exact here (Part.kind_injective (Option.some.inj same))
    · rw [schemeRule_findsAt_eq_nil behind, schemeRule_findsAt_eq_nil]
      exact List.forall_mem_cons.mpr ⟨⟨low, early piece List.mem_cons_self⟩, behind⟩

/-! ## Hosts -/

/-- The rule for hosts matches the slashes with the host behind them. -/
theorem hostRule_prefers (h : Part.host.Admits text) (front : Text)
    (ends : ∀ c ∈ rest.head?, c ∈ "/?#:".toList) :
    hostRule.pattern.Prefers (State.between front ("//".toList ++ text ++ rest) [])
      (State.between (front ++ ("//".toList ++ text)) rest
        [(1, ⟨(front ++ "//".toList).byteSize, (front ++ ("//".toList ++ text)).byteSize⟩)]) := by
  obtain ⟨some, plain⟩ := h
  have taken : (oneOrMore (Grammar.noneOfNorBlank "/?#:")).Prefers
      (State.between (front ++ "//".toList) (text ++ rest) [])
      (State.between (front ++ "//".toList ++ text) rest []) := by
    refine prefers_plus_set _ some (fun c mem => contains_noneOf.mpr (plain c mem)) ?_ []
    intro c mem
    refine Bool.eq_false_iff.mpr fun inside => ?_
    exact (contains_noneOf.mp inside).2 (ends c mem)
  have name := taken.group 1
  have slashes := outcomes_chars_append "//".toList
    [group 1 (oneOrMore (Grammar.noneOfNorBlank "/?#:"))] front ("//".toList ++ (text ++ rest)) []
  have starts : "//".toList.isPrefixOf? ("//".toList ++ (text ++ rest)) =
      Option.some (text ++ rest) := List.isPrefixOf?_eq_some_iff_append_eq.mpr rfl
  rw [starts] at slashes
  rw [List.append_assoc, ← List.append_assoc front]
  exact (congrArg List.head? slashes).trans name

theorem host_none (avoids : Avoids '/' '/' text) {before after : Text} {c : Char}
    (split : text = before ++ c :: after) :
    hostRule.pattern.matchAt? (Cursor.between front (c :: after)) = none := by
  refine matchAt?_of_not_matches ?_
  rintro _ later shown ⟨_, _, rfl, first, _, name, rfl, second, -⟩
  obtain rfl := matches_char.mp first
  obtain rfl := matches_char.mp second
  rw [shown] at split
  exact avoids before ('/' :: (name ++ later)) split rfl

/-- Between host and query no slash follows a slash. -/
theorem avoids_slash (split : url.pieces = pre ++ piece :: run ++ post)
    (here : piece.part = .host) (early : ∀ other ∈ run, other.part.rank < Part.query.rank) :
    Avoids '/' '/' (reading.code run) := by
  refine avoids_code ?_
  rintro before ⟨part, text, admits⟩ after rfl
  have high : part.rank < Part.query.rank :=
    early _ (List.mem_append_right before List.mem_cons_self)
  have low : Part.host.rank < part.rank :=
    here ▸ rank_lt_of_run split (List.mem_append_right before List.mem_cons_self)
  cases part with
  | scheme | slashes | host => exact absurd low (by decide)
  | query | fragment => exact absurd high (by decide)
  | port =>
    have absent := admits.not_mem (c := '/') rfl
    exact ⟨avoids_of_not_mem absent _, .inl fun last => absent (List.mem_of_getLast? last)⟩
  | path =>
    refine ⟨admits.avoids_path, .inr (List.eq_nil_iff_forall_not_mem.mpr fun other mem => ?_)⟩
    have split' : url.pieces =
        (pre ++ piece :: before) ++ (⟨.path, text, admits⟩ : Piece) :: after ++ post := by
      rw [split]
      simp only [List.append_assoc, List.cons_append]
    have behind : Part.path.rank < other.part.rank := rank_lt_of_run split' mem
    have ahead := early other (List.mem_append_right before (List.mem_cons_of_mem _ mem))
    exact absurd (Nat.lt_of_lt_of_le ahead behind) (Nat.lt_irrefl _)

/-- A gap that the rule for hosts is given is empty, or it begins with the slashes and the host. -/
theorem exists_of_gap (split : url.pieces = pre ++ run ++ post)
    (begins : ∀ other ∈ pre.getLast?,
      reading.isOf [.urlProtocol, .urlQuery, .urlHash] other = true)
    (left : ∀ other ∈ run, reading.isOf [.urlProtocol, .urlQuery, .urlHash] other = false)
    (ends : ∀ other ∈ post.head?,
      reading.isOf [.urlProtocol, .urlQuery, .urlHash] other = true) :
    run = [] ∨ ∃ slashes host more, run = slashes :: host :: more ∧
      slashes.part = .slashes ∧ host.part = .host := by
  cases run with
  | nil => exact .inl rfl
  | cons next run =>
    have free := left next List.mem_cons_self
    rcases List.eq_nil_or_concat pre with rfl | ⟨before, last, rfl⟩
    · obtain ⟨rfl, -⟩ := List.cons.inj split
      cases free
    · rw [List.concat_eq_append] at split begins
      have claimed := begins last (List.getLast?_concat ..)
      have split' : url.pieces = before ++ last :: (next :: run ++ post) := by
        rw [split]
        simp only [List.append_assoc, List.cons_append, List.nil_append]
      have only : ∀ part other : Part,
          [TokenType.urlProtocol, .urlQuery, .urlHash].contains part.kind = true →
          [TokenType.urlProtocol, .urlQuery, .urlHash].contains other.kind = false →
          part.rank < other.rank → part = .scheme := by decide
      have scheme :=
        only last.part next.part claimed free (rank_lt_of_mem split' List.mem_cons_self)
      obtain ⟨-, slashes, host, more, both, second, third⟩ := exists_of_scheme split' scheme
      obtain ⟨rfl, follow⟩ := List.cons.inj both
      cases run with
      | nil =>
        have claimed :
            [TokenType.urlProtocol, .urlQuery, .urlHash].contains host.part.kind = true :=
          ends host (congrArg List.head? follow)
        rw [third] at claimed
        exact absurd claimed (by decide)
      | cons _ run =>
        obtain ⟨rfl, -⟩ := List.cons.inj follow
        exact .inr ⟨_, _, _, rfl, second, third⟩

/-- **The rule for hosts reads the host** in the gap behind the scheme. -/
theorem hostRule_readsGaps (url : Url) :
    hostRule.ReadsGaps reading [.urlProtocol, .urlQuery, .urlHash] url.pieces := by
  intro pre run post split begins left ends
  obtain rfl | ⟨slashes, host, run, rfl, second, third⟩ := exists_of_gap split begins left ends
  · rfl
  have shown : reading.text slashes = "//".toList := slashes.admits second
  have split' : url.pieces = (pre ++ [slashes]) ++ host :: run ++ post := by
    rw [split]
    simp only [List.append_assoc, List.cons_append, List.nil_append]
  have early : ∀ other ∈ run, other.part.rank < Part.query.rank := by
    intro other mem
    have free : [TokenType.urlProtocol, .urlQuery, .urlHash].contains other.part.kind = false :=
      left other (List.mem_cons_of_mem _ (List.mem_cons_of_mem _ mem))
    exact (by decide : ∀ part : Part,
      [TokenType.urlProtocol, .urlQuery, .urlHash].contains part.kind = false →
        part.rank < Part.query.rank) other.part free
  have stops : ∀ c ∈ (reading.code run).head?, c ∈ "/?#:".toList := by
    intro c mem
    have late : Part.host.rank ≤ host.part.rank := Nat.le_of_eq (congrArg Part.rank third.symm)
    obtain ⟨part, -, mark⟩ := exists_mark_of_head? split' late mem
    have marks : ∀ part : Part, ∀ c ∈ part.mark?, c ∈ "/?#:".toList := by decide
    exact marks part c mark
  have later : ∀ front, hostRule.findsAt front (reading.code run) = [] := fun front =>
    Rule.findsAt_eq_nil fun _ _ _ parts => host_none (avoids_slash split' third early) parts
  have taken := Rule.findsAt_take_part (show hostRule.group = 1 from rfl)
    (hostRule_prefers (host.admits third) (reading.code pre) stops) (by
      simp only [Text.byteSize_append]
      have pos := Text.byteSize_pos host.text.property.nonempty
      omega) (List.cons_ne_nil _ _)
  have others : ∀ other ∈ run, reading.isOf [TokenType.urlHost] other = false := by
    intro other mem
    have behind := rank_lt_of_run split' mem
    rw [third] at behind
    exact (by decide : ∀ part : Part, Part.host.rank < part.rank →
      [TokenType.urlHost].contains part.kind = false) other.part behind
  have slashesOther : reading.isOf [TokenType.urlHost] slashes = false := by
    change [TokenType.urlHost].contains slashes.part.kind = false
    rw [second]
    rfl
  have hostOwn : reading.isOf [TokenType.urlHost] host = true := by
    change [TokenType.urlHost].contains host.part.kind = true
    rw [third]
    rfl
  rw [Reading.code_cons, Reading.code_cons, shown, ← List.append_assoc]
  refine (congrArg (List.map Find.span) taken).trans ?_
  rw [later, show hostRule.kind = .urlHost from rfl, reading.spans_cons_of_not_isOf slashesOther,
    reading.spans_cons_of_isOf hostOwn, reading.spans_eq_nil others, shown]
  simp only [List.map_cons, List.map_nil, Find.span, Text.byteSize_append, Nat.add_assoc]
  rfl

/-! ## All parts -/

/-- The rules read the parts of a URL, each in its turn. -/
theorem isReadBy_rules (url : Url) : reading.IsReadBy url.pieces [] Grammar.url.rules := by
  rw [url_rules]
  exact ⟨(fragmentRule_reads url).readsGaps, by decide, (queryRule_reads url).readsGaps, by decide,
    (schemeRule_reads url).readsGaps, by decide, hostRule_readsGaps url, by decide,
    (slashRule_reads url).readsGaps, by decide, (portRule_reads url).readsGaps, by decide,
    (pathRule_reads url).readsGaps, by decide, trivial⟩

/-- **The tokens of a URL are its parts**, each with its category, in order, and with nothing left
over: their texts make up the URL. -/
theorem tokenize_eq_components (url : Url) :
    (Grammar.url.tokenize url.text).tokens.map Token.classified = url.components ∧
      (Grammar.url.tokenize url.text).tokens.flatMap Token.text = url.text := by
  have tokens : (Grammar.url.tokenize url.text).tokens.map Token.classified = url.components := by
    refine Reading.tokenize_eq (isReadBy_rules url) fun piece _ kind same => ?_
    obtain rfl : piece.part.kind = kind := Option.some.inj same
    exact (by decide : ∀ part : Part, ∃ rule ∈ Grammar.url.rules, rule.kind = part.kind) piece.part
  refine ⟨tokens, ?_⟩
  have texts := congrArg (List.flatMap Classified.text) tokens
  rw [List.flatMap_map] at texts
  exact texts.trans (flatMap_text_classified 0 url.pieces)

end Highlight.Url
