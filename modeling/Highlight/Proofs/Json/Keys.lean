import Highlight.Proofs.Json.Strings

/-!
# What the string rules of JSON find

The rule for keys searches the whole text. Behind a key there is a colon, so a key is found and left
behind; at the opening quote of any other string, and at the escaped quotes in it, nothing is found,
since no colon follows the string. But the search then comes to its closing quote, from which it
goes on to the next opening one. If the content of that next string starts with a colon, apart from
blanks, all between the two is taken for a key (`readsAsKey`). So the rule finds the keys and
nothing else in a text in which this happens nowhere (`isClear`), and otherwise something that
starts at the closing quote of a value (`exists_stray`).

The rule for strings starts behind the rule for keys, where each quote that it meets is an opening
one.
-/

namespace Highlight.Json

open Pattern

variable {front rest text : Text} {piece : Piece} {pieces pre run : List Piece}
  {glyphs : List Glyph}

/-- The rule for keys. -/
def keyRule : Rule := .part "key" .property keyPattern

/-- The rule for other strings. -/
def stringRule : Rule := .whole "string" .string Grammar.jsonString

/-- Whether what follows a closing quote, up to the next quote on the line and a colon, reads as a
key: whether the next string, if it starts on the same line, starts with a colon. -/
def readsAsKey : List Piece → Bool
  | [] | .blank .lineFeed :: _ => false
  | .key glyphs :: _ | .string glyphs :: _ => leadsToColon (body glyphs)
  | _ :: rest => readsAsKey rest

/-- Whether what follows the strings that are no keys never reads as a key. -/
def isClear : List Piece → Bool
  | [] => true
  | .string _ :: rest => !readsAsKey rest && isClear rest
  | _ :: rest => isClear rest

/-! ## Pieces without quotes -/

/-- Whether a piece is a string, or a key. -/
def Piece.isQuoted : Piece → Bool
  | key _ | string _ => true
  | _ => false

/-- The pieces between strings are spelled with plain characters, but for line feeds. -/
theorem isPlain_of_mem {c : Char} (mem : c ∈ piece.text) (bare : piece.isQuoted = false)
    (noBreak : piece ≠ .blank .lineFeed) : IsPlain c := by
  cases piece with
  | blank b =>
    rw [List.mem_singleton.mp mem]
    cases b with
    | lineFeed => exact absurd rfl noBreak
    | _ => exact ⟨by decide, by decide, by decide⟩
  | mark m =>
    rw [List.mem_singleton.mp mem]
    cases m <;> exact ⟨by decide, by decide, by decide⟩
  | key glyphs => cases bare
  | string glyphs => cases bare
  | word w =>
    have letters : (w.name.toList.all fun c => decide (IsPlain c)) = true := by cases w <;> decide
    exact of_decide_eq_true (List.all_eq_true.mp letters c mem)
  | number n =>
    rcases Numeral.mem_text mem with digit | other
    · exact HexDigit.isPlain ⟨c, .inl digit⟩
    · have others : ("-+.eE".toList.all fun c => decide (IsPlain c)) = true := by decide
      exact of_decide_eq_true (List.all_eq_true.mp others c other)

/-- The pieces between strings have no quotes. -/
theorem ne_quote_of_mem {c : Char} (mem : c ∈ piece.text) (bare : piece.isQuoted = false) :
    (c == '"') = false := by
  by_cases noBreak : piece = .blank .lineFeed
  · subst noBreak
    rw [List.mem_singleton.mp mem]
    rfl
  · exact beq_eq_false_iff_ne.mpr (isPlain_of_mem mem bare noBreak).1

/-- Where the string pattern comes from a closing quote, depending on what follows it. -/
inductive Onward (run : List Piece) : Prop
  /-- To the end of the line, or of the text. -/
  | ends (text rest : Text) (code : reading.code run = text ++ rest) (spelled : Spelled text)
      (stops : ∀ c ∈ rest.head?, c = '\n') (clear : readsAsKey run = false)
  /-- To the next opening quote. -/
  | meets (text more : Text) (glyphs : List Glyph)
      (code : reading.code run = text ++ '"' :: (body glyphs ++ '"' :: more))
      (spelled : Spelled text) (same : readsAsKey run = leadsToColon (body glyphs))

/-- A piece without quotes is on the way. -/
theorem Onward.cons (onward : Onward run) (bare : piece.isQuoted = false)
    (noBreak : piece ≠ .blank .lineFeed) (same : readsAsKey (piece :: run) = readsAsKey run) :
    Onward (piece :: run) := by
  have taken : Spelled piece.text := .of_plain fun c mem => isPlain_of_mem mem bare noBreak
  cases onward with
  | ends text rest code spelled stops clear =>
    refine .ends (piece.text ++ text) rest ?_ (taken.append spelled) stops (same.trans clear)
    rw [reading.code_cons, code, List.append_assoc]
    rfl
  | meets text more glyphs code spelled same' =>
    refine .meets (piece.text ++ text) more glyphs ?_ (taken.append spelled) (same.trans same')
    rw [reading.code_cons, code, List.append_assoc]
    rfl

theorem code_string (glyphs : List Glyph) (run : List Piece) :
    reading.code (.string glyphs :: run) = '"' :: (body glyphs ++ '"' :: reading.code run) := by
  rw [reading.code_cons]
  have text : reading.text (.string glyphs) = '"' :: (body glyphs ++ ['"']) := rfl
  rw [text, List.cons_append, List.append_assoc, List.singleton_append]

/-- The pieces behind a closing quote lead to the next opening one on the line, if there is one. -/
theorem onward (run : List Piece) : Onward run := by
  induction run with
  | nil => exact .ends [] [] rfl .nil (by intro _ none; cases none) rfl
  | cons piece run ih =>
    cases piece with
    | blank b =>
      cases b with
      | lineFeed =>
        refine .ends [] ('\n' :: reading.code run) rfl .nil ?_ rfl
        intro c mem
        cases mem
        rfl
      | _ => exact ih.cons rfl (by intro same; cases same) rfl
    | key glyphs => exact .meets [] (reading.code run) glyphs (code_string glyphs run) .nil rfl
    | string glyphs => exact .meets [] (reading.code run) glyphs (code_string glyphs run) .nil rfl
    | mark _ => exact ih.cons rfl (by intro same; cases same) rfl
    | word _ => exact ih.cons rfl (by intro same; cases same) rfl
    | number _ => exact ih.cons rfl (by intro same; cases same) rfl

/-! ## Colons -/

theorem leadsToColon_blank (b : Blank) (text : Text) :
    leadsToColon (b.char :: text) = leadsToColon text := by
  have white : Unicode.isWhiteSpace b.char = true := by cases b <;> decide
  exact leadsToColon_append (List.forall_mem_singleton.mpr white) text

/-- A colon follows a key. -/
theorem leadsToColon_of_separator (h : next? run = some (.mark .nameSeparator)) :
    leadsToColon (reading.code run) = true := by
  induction run with
  | nil => cases h
  | cons piece run ih =>
    cases piece with
    | blank b => exact (leadsToColon_blank b _).trans (ih h)
    | _ =>
      cases h
      try rfl

/-- No colon follows a value. -/
theorem leadsToColon_of_endsValue (h : EndsValue (next? run)) :
    leadsToColon (reading.code run) = false := by
  induction run with
  | nil => rfl
  | cons piece run ih =>
    cases piece with
    | blank b => exact (leadsToColon_blank b _).trans (ih h)
    | mark m =>
      cases m with
      | nameSeparator => exact absurd rfl h
      | _ => rfl
    | _ => exact absurd h id

/-! ## The rule for keys -/

/-- A quote behind which no key is closed is passed over. -/
theorem keyRule_pass (none : keyPattern.outcomes (State.between front ('"' :: rest) []) = []) :
    keyRule.findsAt front ('"' :: rest) = keyRule.findsAt (front ++ ['"']) rest :=
  Rule.findsAt_skip (matchAt?_of_outcomes none)

/-- A text without quotes is passed over. -/
theorem keyRule_skip (none : ∀ c ∈ text, (c == '"') = false) :
    keyRule.findsAt front (text ++ rest) = keyRule.findsAt (front ++ text) rest :=
  Rule.findsAt_skip_of_begins keyPattern_begins none

/-- **A quote with a closing one and a colon** is the beginning of a find. -/
theorem keyRule_take (front : Text) (spelled : Spelled text) (colon : leadsToColon rest = true) :
    ∃ resume, keyRule.findsAt front ('"' :: (text ++ '"' :: rest)) =
      ⟨front.byteSize, (front ++ '"' :: (text ++ ['"'])).byteSize, resume⟩ ::
        keyRule.findsAt (front ++ '"' :: (text ++ ['"'])) rest := by
  obtain ⟨blanks, more, rfl, white⟩ := exists_blanks_colon colon
  let quoted : Text := '"' :: (text ++ ['"'])
  let taken : Text := quoted ++ (blanks ++ [':'])
  have source : '"' :: (text ++ '"' :: (blanks ++ ':' :: more)) = taken ++ more := by
    simp only [taken, quoted, List.cons_append, List.append_assoc, List.nil_append]
  have key : keyPattern.Prefers (State.between front (taken ++ more) [])
      (State.between (front ++ taken) more
        [(1, ⟨front.byteSize, (front ++ quoted).byteSize⟩)]) := by
    refine prefers_of_outcomes ?_
    rw [← source, keyPattern_outcomes spelled, colon_some white, List.append_assoc]
  have here : keyRule.pattern.matchAt? (Cursor.between front (taken ++ more)) =
      some ⟨⟨front.byteSize, (front ++ taken).byteSize⟩,
        [(1, ⟨front.byteSize, (front ++ quoted).byteSize⟩)]⟩ := key.matchAt?
  have nonempty : front.byteSize < (front ++ quoted).byteSize := by
    rw [Text.byteSize_append]
    exact Nat.lt_add_of_pos_right (Text.byteSize_pos (List.cons_ne_nil _ _))
  have finds := Rule.findsAt_take ⟨front.byteSize, (front ++ quoted).byteSize⟩ here rfl nonempty
    rfl (List.cons_ne_nil _ _)
  refine ⟨(front ++ taken).byteSize, ?_⟩
  rw [source, finds]
  -- What is left of the match has no quotes: the search might as well go through it.
  refine congrArg (_ :: ·) ?_
  have rest : blanks ++ ':' :: more = blanks ++ [':'] ++ more := by
    rw [List.append_assoc, List.singleton_append]
  rw [rest, keyRule_skip, List.append_assoc]
  intro c mem
  rcases List.mem_append.mp mem with mem | mem
  · have white := white c mem
    refine beq_eq_false_iff_ne.mpr ?_
    rintro rfl
    revert white
    decide
  · rw [List.mem_singleton.mp mem]
    rfl

theorem keyPattern_none (spelled : Spelled text) (noColon : leadsToColon rest = false) :
    keyPattern.outcomes (State.between front ('"' :: (text ++ '"' :: rest)) []) = [] := by
  rw [keyPattern_outcomes spelled, colon_none noColon]

/-- Inside a string there may be quotes, but only escaped ones. -/
theorem Glyph.eq_of_mem_text {glyph : Glyph} (mem : '"' ∈ glyph.text) :
    glyph = .escaped .quote := by
  cases glyph with
  | plain c =>
    exact absurd (List.mem_singleton.mp mem).symm (Plain.isPlain c).1
  | escaped e =>
    cases e with
    | quote => rfl
    | _ => exact absurd mem (by decide)
  | coded a b c d =>
    have ne (x : HexDigit) : '"' ≠ x.val := (HexDigit.isPlain x).1.symm
    simp only [text, List.mem_cons, ne, List.not_mem_nil, or_false] at mem
    exact absurd mem (by decide)

/-- **A value** is passed over up to its closing quote. -/
theorem keyRule_skip_string (glyphs : List Glyph) (noColon : leadsToColon rest = false) :
    keyRule.findsAt front ('"' :: (body glyphs ++ '"' :: rest)) =
      keyRule.findsAt (front ++ '"' :: body glyphs) ('"' :: rest) := by
  have inside (front : Text) (glyphs : List Glyph) :
      keyRule.findsAt front (body glyphs ++ '"' :: rest) =
        keyRule.findsAt (front ++ body glyphs) ('"' :: rest) := by
    induction glyphs generalizing front with
    | nil => rw [body, List.flatMap_nil, List.nil_append, List.append_nil]
    | cons glyph glyphs ih =>
      have split : body (glyph :: glyphs) = glyph.text ++ body glyphs := rfl
      rw [split, List.append_assoc, ← List.append_assoc front, ← ih]
      by_cases quoted : '"' ∈ glyph.text
      · obtain rfl := Glyph.eq_of_mem_text quoted
        have backslash : ∀ c ∈ ['\\'], (c == '"') = false := List.forall_mem_singleton.mpr rfl
        refine (keyRule_skip backslash).trans ?_
        refine (keyRule_pass (keyPattern_none (spelled_body glyphs) noColon)).trans ?_
        rw [List.append_assoc]
        rfl
      · refine keyRule_skip ?_
        intro c mem
        refine beq_eq_false_iff_ne.mpr ?_
        rintro rfl
        exact quoted mem
  rw [keyRule_pass (keyPattern_none (spelled_body glyphs) noColon), inside, List.append_assoc,
    List.singleton_append]

/-- A closing quote is passed over if what follows does not read as a key. -/
theorem keyRule_skip_quote (clear : readsAsKey run = false) :
    keyRule.findsAt front ('"' :: reading.code run) =
      keyRule.findsAt (front ++ ['"']) (reading.code run) := by
  refine keyRule_pass ?_
  cases onward run with
  | ends text rest code spelled stops _ =>
    rw [code]
    exact keyPattern_nil (jsonString_open spelled stops)
  | meets text more glyphs code spelled same =>
    rw [code]
    refine keyPattern_none spelled ?_
    rw [leadsToColon_quote, ← same, clear]

/-- A closing quote is the beginning of a find if what follows reads as a key. -/
theorem keyRule_take_quote (front : Text) (stray : readsAsKey run = true) :
    ∃ stop resume more, keyRule.findsAt front ('"' :: reading.code run) =
      ⟨front.byteSize, stop, resume⟩ :: more := by
  cases onward run with
  | ends text rest code spelled stops clear =>
    rw [stray] at clear
    cases clear
  | meets text more glyphs code spelled same =>
    have colon : leadsToColon (body glyphs ++ '"' :: more) = true := by
      rw [leadsToColon_quote, ← same, stray]
    obtain ⟨resume, finds⟩ := keyRule_take front spelled colon
    rw [code]
    exact ⟨_, resume, _, finds⟩

theorem code_concat (pre : List Piece) (piece : Piece) :
    reading.code (pre ++ [piece]) = reading.code pre ++ piece.text := by
  rw [reading.code_append, reading.code_cons, reading.code_nil, List.append_nil]
  rfl

/-- **The rule for keys goes piece by piece** as long as no closing quote leads it astray. -/
theorem keyRule_step (ordered : Ordered (piece :: run))
    (clear : ∀ glyphs, piece = .string glyphs → readsAsKey run = false) :
    (keyRule.findsAt (reading.code pre) (reading.code (piece :: run))).map Find.span =
      reading.spans [keyRule.kind] (reading.code pre).byteSize [piece] ++
        (keyRule.findsAt (reading.code (pre ++ [piece])) (reading.code run)).map Find.span := by
  have other (bare : piece.isQuoted = false) :
      keyRule.findsAt (reading.code pre) (reading.code (piece :: run)) =
        keyRule.findsAt (reading.code (pre ++ [piece])) (reading.code run) := by
    rw [code_concat]
    exact keyRule_skip fun c mem => ne_quote_of_mem mem bare
  cases piece with
  | key glyphs =>
    obtain ⟨resume, finds⟩ := keyRule_take (reading.code pre) (spelled_body glyphs)
      (leadsToColon_of_separator ordered.1)
    refine Rule.span_findsAt_take resume rfl ?_
    rw [code_concat]
    refine Eq.trans (congrArg (keyRule.findsAt _) ?_) finds
    exact code_string glyphs run
  | string glyphs =>
    refine Rule.span_findsAt_skip nofun ?_
    rw [code_string, keyRule_skip_string glyphs (leadsToColon_of_endsValue ordered.1),
      keyRule_skip_quote (clear glyphs rfl), code_concat, List.append_assoc]
    rfl
  | blank _ => exact Rule.span_findsAt_skip nofun (other rfl)
  | mark _ => exact Rule.span_findsAt_skip nofun (other rfl)
  | word _ => exact Rule.span_findsAt_skip nofun (other rfl)
  | number _ => exact Rule.span_findsAt_skip nofun (other rfl)

theorem isClear_append (h : isClear (pre ++ .string glyphs :: run) = true) :
    readsAsKey run = false := by
  induction pre with
  | nil =>
    simp only [List.nil_append, isClear, Bool.and_eq_true, Bool.not_eq_true'] at h
    exact h.1
  | cons piece pre ih =>
    refine ih ?_
    cases piece with
    | string glyphs => exact (Bool.and_eq_true_iff.mp h).2
    | _ => exact h

/-- **In a clear text the rule for keys reads** the keys. -/
theorem keyRule_reads (ordered : Ordered pieces) (clear : isClear pieces = true) :
    keyRule.Reads reading [] pieces := by
  intro pre piece run post split left ends
  obtain rfl : post = [] := by
    cases post with
    | nil => rfl
    | cons other _ =>
      have never : reading.isOf [] other = true := ends other rfl
      rw [reading.isOf_nil] at never
      cases never
  rw [List.append_nil] at split
  subst split
  refine keyRule_step ordered.of_append ?_
  rintro glyphs rfl
  exact isClear_append clear

/-- **In any other text the rule for keys is led astray**: something that it finds begins with the
closing quote of a value. -/
theorem exists_stray (pre : List Piece) (ordered : Ordered pieces) (h : isClear pieces = false) :
    ∃ span ∈ (keyRule.findsAt (reading.code pre) (reading.code pieces)).map Find.span,
      ∃ before glyphs after, pieces = before ++ .string glyphs :: after ∧
        span.start = (reading.code (pre ++ before) ++ '"' :: body glyphs).byteSize := by
  induction pieces generalizing pre with
  | nil => cases h
  | cons piece run ih =>
    have later (clear : ∀ glyphs, piece = .string glyphs → readsAsKey run = false)
        (h : isClear run = false) :
        ∃ span ∈ (keyRule.findsAt (reading.code pre) (reading.code (piece :: run))).map Find.span,
          ∃ before glyphs after, piece :: run = before ++ .string glyphs :: after ∧
            span.start = (reading.code (pre ++ before) ++ '"' :: body glyphs).byteSize := by
      obtain ⟨span, mem, before, glyphs, after, rfl, start⟩ := @ih (pre ++ [piece]) ordered.2 h
      refine ⟨span, ?_, piece :: before, glyphs, after, rfl, ?_⟩
      · rw [keyRule_step ordered clear]
        exact List.mem_append_right _ mem
      · rw [start, List.append_assoc, List.singleton_append]
    cases piece with
    | string glyphs =>
      cases stray : readsAsKey run with
      | false =>
        refine later (fun _ _ => stray) ?_
        rwa [isClear, stray, Bool.not_false, Bool.true_and] at h
      | true =>
        obtain ⟨stop, resume, more, finds⟩ :=
          keyRule_take_quote (reading.code pre ++ '"' :: body glyphs) stray
        refine ⟨⟨_, stop⟩, ?_, [], glyphs, run, rfl, by rw [List.append_nil]⟩
        rw [code_string, keyRule_skip_string glyphs (leadsToColon_of_endsValue ordered.1), finds]
        exact List.mem_cons_self
    | _ => exact later nofun h

/-! ## The rule for strings -/

/-- **The rule for strings reads** the strings that are no keys. -/
theorem stringRule_reads (pieces : List Piece) : stringRule.Reads reading [.property] pieces := by
  intro pre piece run post _ left _
  have other (bare : piece.isQuoted = false) :
      stringRule.findsAt (reading.code pre) (reading.code (piece :: run)) =
        stringRule.findsAt (reading.code (pre ++ [piece])) (reading.code run) := by
    rw [code_concat]
    exact Rule.findsAt_skip_of_begins jsonString_begins fun c mem => ne_quote_of_mem mem bare
  cases piece with
  | key glyphs => cases left _ List.mem_cons_self
  | string glyphs =>
    refine Rule.span_findsAt_take (reading.code (pre ++ [.string glyphs])).byteSize rfl ?_
    rw [code_concat]
    exact Rule.findsAt_take_whole rfl (prefers_of_outcomes (jsonString_quote glyphs))
      (List.cons_ne_nil _ _)
  | blank _ => exact Rule.span_findsAt_skip nofun (other rfl)
  | mark _ => exact Rule.span_findsAt_skip nofun (other rfl)
  | word _ => exact Rule.span_findsAt_skip nofun (other rfl)
  | number _ => exact Rule.span_findsAt_skip nofun (other rfl)

end Highlight.Json
