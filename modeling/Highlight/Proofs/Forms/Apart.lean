import Highlight.Proofs.Forms.Strings

/-!
# Languages where other rules come first

In C, PHP, Python and Lua some rules come before the one for strings, and what they claim may divide
comments and strings. As long as it does not (`Forms.KeepsWhole`), comments and strings keep apart
as the scan says: no string token begins inside a comment of the scan, and no comment token inside a
string (`Grammar.keepsApart_of_keepsWhole`). The strings of the scan are all claimed once the rule
for strings has been applied, and no token that begins elsewhere begins inside a claimed one
(`Forms.keepsApart_of_covered`). Where an earlier rule does divide a comment, the rule for strings
is given a window that begins inside it, and a string may begin there (`divided_not_keepsApart`).

Python and Lua have long strings, and Lua has long comments, of which rules of their own take care:
those that are left whole are claimed by these rules (`Forms.isCovered_of_takes`), so only the short
ones are left to the others (`Forms.Scanned.narrow_string`, `Forms.Scanned.narrow_comment`). The
rule for strings of Lua does not step over comments. It must not find anything in them
(`Forms.DashesQuiet`).
-/

namespace Highlight

open Pattern (Takes Span)

namespace Forms

variable {forms : Forms} {first second comment string : Form} {grammar : Grammar} {rule : Rule}
  {number : Nat} {pieces pre post run : List Piece} {piece : Piece} {front rest : Text}

/-! ## Comments and strings that keep apart -/

/-- Whether an offset of a source lies inside a comment or a string of the scan. -/
def Inside (forms : Forms) (kind : TokenType) (code : Text) (offset : Nat) : Prop :=
  ∃ item ∈ forms.found kind code, item.span.start < offset ∧ offset < item.span.stop

instance (forms : Forms) (kind : TokenType) (code : Text) (offset : Nat) :
    Decidable (forms.Inside kind code offset) :=
  inferInstanceAs (Decidable (∃ item ∈ forms.found kind code, _))

/-- **The law**: no string begins inside a comment of the scan, and no comment inside a string. -/
def KeepsApart (forms : Forms) (grammar : Grammar) (code : Text) : Prop :=
  ∀ token ∈ (grammar.tokenize code).tokens,
    (token.kind = .string → ¬ forms.Inside .comment code token.start) ∧
      (token.kind = .comment → ¬ forms.Inside .string code token.start)

instance (forms : Forms) (grammar : Grammar) (code : Text) :
    Decidable (forms.KeepsApart grammar code) :=
  inferInstanceAs (Decidable (∀ token ∈ (grammar.tokenize code).tokens, _))

/-- Whether no token of a grammar begins or ends inside a comment or a string of the scan. -/
def KeepsWhole (forms : Forms) (grammar : Grammar) (code : Text) : Prop :=
  ∀ token ∈ (grammar.tokenize code).tokens, ∀ kind ∈ [TokenType.comment, .string],
    ¬ forms.Inside kind code token.start ∧ ¬ forms.Inside kind code token.stop

instance (forms : Forms) (grammar : Grammar) (code : Text) :
    Decidable (forms.KeepsWhole grammar code) :=
  inferInstanceAs (Decidable (∀ token ∈ (grammar.tokenize code).tokens, _))

theorem inside_iff {kind : TokenType} {code : Text} {offset : Nat} :
    forms.Inside kind code offset ↔ ∃ pre piece post,
      forms.scan none code = pre ++ piece :: post ∧ reading.kind piece = some kind ∧
        (reading.spanOf pre piece).start < offset ∧ offset < (reading.spanOf pre piece).stop := by
  have spans (span : Span) := reading.mem_spans_piecesOf kind (forms.scan none code) span
  constructor
  · rintro ⟨item, mem, low, high⟩
    obtain ⟨pre, piece, post, split, label, same⟩ :=
      (spans item.span).mp (List.mem_map_of_mem mem)
    rw [same] at low high
    exact ⟨pre, piece, post, split, label, low, high⟩
  · rintro ⟨pre, piece, post, split, label, low, high⟩
    obtain ⟨item, mem, same⟩ :=
      List.mem_map.mp ((spans _).mpr ⟨pre, piece, post, split, label, rfl⟩)
    exact ⟨item, mem, same ▸ low, same ▸ high⟩

/-- A border is not inside anything. -/
theorem not_inside_of_isBorder {kind : TokenType} {code : Text} {offset : Nat}
    (border : reading.IsBorder (forms.scan none code) offset) :
    ¬ forms.Inside kind code offset := by
  intro inside
  obtain ⟨pre, piece, post, split, -, low, high⟩ := inside_iff.mp inside
  rcases border.le_or_ge reading split with before | behind <;> omega

/-- What is not inside a comment or a string is a border: code is one character at a time. -/
theorem isBorder_of_not_inside {code : Text} {offset : Nat} (boundary : code.IsBoundary offset)
    (comment : ¬ forms.Inside .comment code offset) (string : ¬ forms.Inside .string code offset) :
    reading.IsBorder (forms.scan none code) offset := by
  obtain ⟨front, back, split, rfl⟩ := boundary
  rw [← forms.code_scan code] at split
  refine (reading.isBorder_or_divides split).resolve_right ?_
  rintro ⟨pre, piece, post, before, behind, parts, text, nonempty, nonempty', border⟩
  have inside : (reading.spanOf pre piece).start < front.byteSize ∧
      front.byteSize < (reading.spanOf pre piece).stop := by
    have pos := Text.byteSize_pos nonempty
    have pos' := Text.byteSize_pos nonempty'
    rw [reading.spanOf_stop, text, Text.byteSize_append, border]
    simp only [Reading.spanOf]
    omega
  cases label : piece.label with
  | comment => exact comment (inside_iff.mpr ⟨pre, piece, post, parts, by
      exact kind_eq_comment.mpr label, inside⟩)
  | string => exact string (inside_iff.mpr ⟨pre, piece, post, parts, by
      exact kind_eq_string.mpr label, inside⟩)
  | code =>
    obtain ⟨-, -, c, one, -⟩ := ((forms.scanned_scan [] code).2.isNext parts).take_code label
    have text : piece.text = before ++ behind := text
    rw [one] at text
    rcases List.singleton_eq_append_iff.mp text with ⟨rfl, -⟩ | ⟨-, rfl⟩
    · exact nonempty rfl
    · exact nonempty' rfl

theorem KeepsWhole.isAligned {code : Text} (whole : forms.KeepsWhole grammar code) :
    reading.IsAligned (forms.scan none code) grammar := by
  intro token mem
  rw [forms.code_scan] at mem
  have within := (Grammar.tokenize_cut mem).within
  have comment := whole token mem .comment (by decide)
  have string := whole token mem .string (by decide)
  exact ⟨isBorder_of_not_inside within.start_boundary comment.1 string.1,
    isBorder_of_not_inside within.stop_boundary comment.2 string.2⟩

/-- **Once all strings of the scan are claimed** and no further rule is for strings, comments and
strings keep apart. -/
theorem keepsApart_of_covered {code : Text}
    (aligned : reading.IsAligned (forms.scan none code) (grammar.firstRules number))
    (strings : ∀ pre piece post, forms.scan none code = pre ++ piece :: post →
      piece.label = .string →
        reading.IsCovered (forms.scan none code) (grammar.firstRules number) pre piece)
    (only : ∀ other ∈ grammar.numbersOf .string, other < number) :
    forms.KeepsApart grammar code := by
  unfold Reading.IsAligned Reading.IsCovered at *
  rw [forms.code_scan] at aligned strings
  intro token mem
  refine ⟨fun isString => ?_, fun isComment inside => ?_⟩
  · obtain ⟨other, given, introduced⟩ := Grammar.introduces_of_kind_iff.mp ⟨mem, isString⟩
    have early := Grammar.mem_firstRules_mono (only other given) introduced.1
    exact not_inside_of_isBorder (aligned token early).1
  · obtain ⟨pre, piece, post, split, label, low, high⟩ := inside_iff.mp inside
    obtain ⟨claim, early, starts, stops⟩ := strings pre piece post split (kind_eq_string.mp label)
    rcases Grammar.eq_or_apart mem (Grammar.mem_tokenize_of_firstRules early) with rfl | apart
    · exact not_inside_of_isBorder (aligned token early).1 inside
    · have nonempty := (Grammar.tokenize_cut mem).start_lt_stop
      have start : token.span.start = token.start := rfl
      unfold Span.Apart Span.Precedes at apart
      omega

/-! ## Long forms, which have rules of their own -/

/-- **A piece that a rule's form takes is claimed** by the rule or before it, if tokens end at
borders. -/
theorem isCovered_of_takes {form : Form}
    (aligned : reading.IsAligned pieces (grammar.firstRules number))
    (aligned' : reading.IsAligned pieces (grammar.firstRules (number + 1)))
    (here : grammar.rules[number]? = some rule) (takes : rule.pattern.Takes form)
    (whole : rule.group = 0) (split : pieces = pre ++ piece :: post)
    (taken : form.take? (reading.code pre).getLast? (piece.text ++ reading.code post) =
      some (piece.text, reading.code post)) :
    reading.IsCovered pieces (grammar.firstRules (number + 1)) pre piece := by
  rcases aligned.covered_or_left split with covered | left
  · exact covered.mono (Nat.le_succ number)
  · obtain ⟨front, before, behind, rfl, gap⟩ := left
    obtain ⟨back, parts⟩ := gap.1
    have tail : post = behind ++ back := by
      rw [split] at parts
      simpa only [List.append_assoc, List.cons_append, List.append_cancel_left_eq,
        List.cons.injEq, true_and] using parts
    have window : (form.take? (reading.code front ++ reading.code before).getLast?
        (reading.code (piece :: behind))).isSome := by
      rw [tail, reading.code_append front, reading.code_append behind] at taken
      exact Option.isSome_iff_exists.mpr ⟨_, form.cut taken⟩
    obtain ⟨find, mem, starts, beyond⟩ := rule.exists_mem_findsAt takes whole window
    rw [← reading.code_append] at mem
    obtain ⟨token, introduced, same⟩ := (aligned.introduces_iff here find.span).mpr
      ⟨front, before ++ piece :: behind, gap, List.mem_map_of_mem mem⟩
    have mem := Grammar.mem_firstRules_succ.mpr (.inr introduced)
    have start : token.span.start = find.start := congrArg Span.start same
    have stop : token.span.stop = find.stop := congrArg Span.stop same
    rw [← reading.code_append] at starts beyond
    refine ⟨token, mem, start ▸ starts, ?_⟩
    refine ((aligned' token mem).2.le_or_ge reading split).resolve_left ?_
    rw [stop]
    exact Nat.not_le.mpr beyond

/-- A long form takes nothing in the gaps that its rule leaves, where comments or strings are long
ones or short ones. -/
theorem none_of_isGap (second : Form) (label : Label) {later : Nat} (le : number + 1 ≤ later)
    (aligned : reading.IsAligned pieces (grammar.firstRules number))
    (aligned' : reading.IsAligned pieces (grammar.firstRules (number + 1)))
    (here : grammar.rules[number]? = some rule) (takes : rule.pattern.Takes first)
    (whole : rule.group = 0)
    (taken : ∀ pre piece post, pieces = pre ++ piece :: post → piece.label = label →
      (first.orElse second).take? (reading.code pre).getLast?
        (piece.text ++ reading.code post) = some (piece.text, reading.code post))
    (gap : reading.IsGap pieces (grammar.firstRules later) pre run) :
    ∀ before piece behind, run = before ++ piece :: behind → piece.label = label →
      first.take? (reading.code pre ++ reading.code before).getLast?
        (piece.text ++ (reading.code behind ++ [])) = none := by
  rintro before piece behind rfl labelled
  have left : reading.IsLeft pieces (grammar.firstRules later) (pre ++ before) piece :=
    ⟨pre, before, behind, rfl, gap⟩
  obtain ⟨back, parts⟩ := gap.1
  have split : pieces = (pre ++ before) ++ piece :: (behind ++ back) := by
    rw [parts]
    simp only [List.append_assoc, List.cons_append]
  have taken := taken _ piece _ split labelled
  rw [List.append_nil, ← reading.code_append]
  refine first.none_of_append (reading.code back) ?_
  rw [List.append_assoc, ← reading.code_append]
  rcases Option.or_eq_some_iff.mp taken with long | ⟨none, -⟩
  · have covered := isCovered_of_takes aligned aligned' here takes whole split long
    exact absurd (covered.mono le) left.not_isCovered
  · exact none

/-- Strings of a scan that are not long are strings of the scan without the long ones. -/
theorem Scanned.narrow_string (scanned : Scanned ⟨comment, first.orElse second⟩ front run rest)
    (short : ∀ before piece behind, run = before ++ piece :: behind → piece.label = .string →
      first.take? (front ++ reading.code before).getLast?
        (piece.text ++ (reading.code behind ++ rest)) = none) :
    Scanned ⟨comment, second⟩ front run rest := by
  refine scanned.mono fun before piece behind split next => ?_
  have short := short before piece behind split
  unfold IsNext at next ⊢
  cases label : piece.label with
  | comment =>
    rw [label] at next
    exact next
  | string =>
    rw [label] at next
    exact ⟨next.1, (Form.take?_orElse (short label) second).symm.trans next.2⟩
  | code =>
    rw [label] at next
    exact ⟨next.1, (Option.or_eq_none_iff.mp next.2.1).2, next.2.2⟩

/-- Comments of a scan that are not long are comments of the scan without the long ones. -/
theorem Scanned.narrow_comment (scanned : Scanned ⟨first.orElse second, string⟩ front run rest)
    (short : ∀ before piece behind, run = before ++ piece :: behind → piece.label = .comment →
      first.take? (front ++ reading.code before).getLast?
        (piece.text ++ (reading.code behind ++ rest)) = none) :
    Scanned ⟨second, string⟩ front run rest := by
  refine scanned.mono fun before piece behind split next => ?_
  have short := short before piece behind split
  unfold IsNext at next ⊢
  cases label : piece.label with
  | comment =>
    rw [label] at next
    exact (Form.take?_orElse (short label) second).symm.trans next
  | string =>
    rw [label] at next
    exact ⟨(Option.or_eq_none_iff.mp next.1).2, next.2⟩
  | code =>
    rw [label] at next
    exact ⟨(Option.or_eq_none_iff.mp next.1).2, next.2⟩

/-! ## The four languages -/

/-- If the rule for strings picks the strings of every gap that the rules before it leave, comments
and strings keep apart. -/
theorem keepsApart_of_picks {code : Text}
    (aligned : reading.IsAligned (forms.scan none code) (grammar.firstRules number))
    (here : grammar.rules[number]? = some rule)
    (picks : ∀ pre run, reading.IsGap (forms.scan none code) (grammar.firstRules number) pre run →
      rule.Picks reading (fun piece => piece.label = .string) pre run)
    (only : ∀ other ∈ grammar.numbersOf .string, other < number + 1) :
    forms.KeepsApart grammar code := by
  obtain ⟨aligned', covered⟩ := aligned.pick here picks
  exact keepsApart_of_covered aligned' covered only

/-- C and PHP: one rule comes before the one for strings. -/
theorem keepsApart_of_second {code : Text} {name : String} {comments strings : Pattern}
    (whole : forms.KeepsWhole (grammar.firstRules 1) code)
    (here : grammar.rules[1]? =
      some (.part name .string (Lexeme.outsideComments comments strings)))
    (only : ∀ other ∈ grammar.numbersOf .string, other < 2)
    (takesComments : comments.Takes forms.comment) (takesStrings : strings.Takes forms.string) :
    forms.KeepsApart grammar code := by
  have scanned : forms.Scanned [] (forms.scan none code) [] := (forms.scanned_scan [] code).2
  exact keepsApart_of_picks whole.isAligned here (fun pre run gap =>
    Rule.picks_strings name takesComments takesStrings (scanned.gap gap)) only

/-- Python: the rule before claims the strings between three quotes. -/
theorem keepsApart_python {code : Text}
    (whole : python.KeepsWhole (Grammar.python.firstRules 1) code) :
    python.KeepsApart Grammar.python code := by
  have scanned : python.Scanned [] (python.scan none code) [] := (python.scanned_scan [] code).2
  refine keepsApart_of_picks whole.isAligned rfl (fun pre run gap => ?_) (by decide)
  have short : Scanned ⟨.hashComment, Form.lineString.prelude⟩ (reading.code pre) run [] := ?_
  · exact Rule.picks_strings "string" Pattern.takes_hashComment
      (Pattern.takes_prelude Pattern.takes_lineString) short
  refine (scanned.gap gap).narrow_string (none_of_isGap Form.lineString.prelude .string
    (Nat.le_refl 1) (reading.isAligned_zero _ _) whole.isAligned rfl
    (Pattern.takes_prelude Pattern.takes_tripleString) rfl ?_ gap)
  intro pre piece post split label
  have next := scanned.isNext split
  rw [List.append_nil] at next
  exact (next.take_string label).2

/-- Whether no comment to the end of a line holds a complete string in quotes. -/
def DashesQuiet (pieces : List Piece) : Prop :=
  ∀ piece ∈ pieces, piece.label = .comment → Form.longComment.take? none piece.text = none →
    Form.lineString.Absent [] piece.text []

/-- A string in quotes that is nowhere in a line is nowhere when more lines follow. -/
theorem absent_lineString {front text rest : Text} (quiet : Form.lineString.Absent [] text [])
    (line : ∀ c ∈ rest.head?, c = '\n') : Form.lineString.Absent front text rest := by
  intro before behind split nonempty
  have here := quiet before behind split nonempty
  rw [List.append_nil] at here
  obtain ⟨single, double⟩ := Option.or_eq_none_iff.mp here
  exact Option.or_eq_none_iff.mpr ⟨Form.quoted_none_append single nonempty line _,
    Form.quoted_none_append double nonempty line _⟩

/-- Lua: the two rules before claim the long comments and the long strings, and the rule for strings
does not step over the other comments. -/
theorem keepsApart_lua {code : Text} (whole : lua.KeepsWhole (Grammar.lua.firstRules 2) code)
    (quiet : DashesQuiet (lua.scan none code)) : lua.KeepsApart Grammar.lua code := by
  have scanned : lua.Scanned [] (lua.scan none code) [] := (lua.scanned_scan [] code).2
  have aligned := whole.isAligned
  have aligned' := aligned.of_le (Nat.le_succ 1)
  refine keepsApart_of_picks aligned rfl (fun pre run gap => ?_) (by decide)
  have shortComments := none_of_isGap .dashComment .comment
    (Nat.le_succ 1) (reading.isAligned_zero _ _) aligned' rfl Pattern.takes_longComment rfl (by
      intro pre piece post split label
      have next := scanned.isNext split
      rw [List.append_nil] at next
      exact next.take_comment label) gap
  have shortStrings := none_of_isGap .lineString .string
    (Nat.le_refl 2) aligned' aligned rfl Pattern.takes_longString rfl (by
      intro pre piece post split label
      have next := scanned.isNext split
      rw [List.append_nil] at next
      exact (next.take_string label).2) gap
  have short : Scanned ⟨.dashComment, .lineString⟩ (reading.code pre) run [] :=
    ((scanned.gap gap).narrow_comment shortComments).narrow_string shortStrings
  refine Rule.picks_of_form Pattern.takes_lineString rfl fun before piece behind split => ?_
  have next := short.isNext split
  have long := shortComments before piece behind split
  rw [List.append_nil, ← reading.code_append] at next
  cases label : piece.label with
  | comment =>
    have line := Form.head_of_line (by decide) (next.take_comment label)
    refine .inr ⟨Label.noConfusion, absent_lineString ?_ line⟩
    obtain ⟨back, parts⟩ := gap.1
    refine quiet piece ?_ label (Form.longComment.none_of_append _ (long label))
    rw [parts, split]
    simp
  | string => exact .inl ⟨rfl, (next.take_string label).2⟩
  | code => exact .inr ⟨Label.noConfusion, (next.absent label).2⟩

end Forms

namespace Grammar

/-- **Comments and strings keep apart** in C, PHP, Python and Lua: for every source, no string
begins inside a comment of the scan and no comment inside a string, provided that the rules in front
of the one for strings begin and end no token inside a comment or a string of the scan, and, in Lua,
that no comment to the end of a line holds a complete string in quotes. -/
theorem keepsApart_of_keepsWhole (code : Text) :
    (Forms.c.KeepsWhole (c.firstRules 1) code → Forms.c.KeepsApart c code) ∧
      (Forms.php.KeepsWhole (php.firstRules 1) code → Forms.php.KeepsApart php code) ∧
      (Forms.python.KeepsWhole (python.firstRules 1) code → Forms.python.KeepsApart python code) ∧
      (Forms.lua.KeepsWhole (lua.firstRules 2) code →
        Forms.DashesQuiet (Forms.lua.scan none code) → Forms.lua.KeepsApart lua code) := by
  refine ⟨fun whole => ?_, fun whole => ?_, Forms.keepsApart_python, Forms.keepsApart_lua⟩
  · exact Forms.keepsApart_of_second whole rfl (by decide)
      (Pattern.takes_blockComment.orElse Pattern.takes_slashComment) Pattern.takes_lineString
  · exact Forms.keepsApart_of_second whole rfl (by decide)
      (Pattern.takes_blockComment.orElse Pattern.takes_phpLineComment) Pattern.takes_openString

/-- A quote in a comment and the start of a comment in a string, in each of the languages, behind
something that the first rules claim. -/
theorem keepsApart_of_keepsWhole_quoted :
    Forms.c.KeepsApart c "#a\n/* 'a' */ \"// b\"".toList ∧
      Forms.php.KeepsApart php "<?php # 'a'\n\"/* b\"".toList ∧
      Forms.python.KeepsApart python "\"\"\"#\"\"\" # 'a'\n'# b'".toList ∧
      Forms.lua.KeepsApart lua "--[[ 'a' ]] [[--]] -- a\n'-- b'".toList := by
  refine ⟨(keepsApart_of_keepsWhole _).1 (by decide +kernel),
    (keepsApart_of_keepsWhole _).2.1 (by decide +kernel),
    (keepsApart_of_keepsWhole _).2.2.1 (by decide +kernel),
    (keepsApart_of_keepsWhole _).2.2.2 (by decide +kernel) ?_⟩
  unfold Forms.DashesQuiet
  decide +kernel

/-- **Where the conditions fail, so may the law**: a directive, a tag or three quotes inside a
comment divide it, and a string begins in what is left; in Lua a string in a comment needs no such
rule. -/
theorem divided_not_keepsApart :
    ¬ Forms.c.KeepsApart c "/*\n#a\n'b'*/".toList ∧
      ¬ Forms.php.KeepsApart php "/*?>'a'*/".toList ∧
      ¬ Forms.python.KeepsApart python "#'''\n'''".toList ∧
      ¬ Forms.lua.KeepsApart lua "-- 'a'".toList := by
  refine ⟨?_, ?_, ?_, ?_⟩ <;> decide +kernel

end Grammar

end Highlight
