import Highlight.Proofs.Json.Keys

/-!
# What the other rules of JSON find

Literal names and numbers have to stand between word edges. They do, because no two lexemes made of
letters or digits touch (`edge_before`, `edge_behind`). A number is matched part by part, and each
part ends where it is spelled to end, since what follows cannot belong to it.
-/

namespace Highlight.Json

open Pattern Grammar

variable {front rest text : Text} {piece other : Piece}
  {pieces pre run post : List Piece} {c : Char}

/-! ## Word edges -/

/-- Whether a text ends with a character of a word. -/
def endsInWord (front : Text) : Bool := front.getLast?.any CharSet.word.contains

/-- Whether what follows a word or a number, if anything does, is no part of it. -/
def StopsWord (rest : Text) : Prop := ∀ c ∈ rest.head?, Unicode.isWord c = false ∧ c ≠ '.'

/-- Whether a piece may touch any other. -/
def Piece.isLoose : Piece → Bool
  | blank _ | mark _ => true
  | _ => false

theorem Piece.Allows.isLoose (h : piece.Allows (next? (other :: run)))
    (solid : piece.isLoose = false) : other.isLoose = true := by
  cases other with
  | blank _ => rfl
  | mark _ => rfl
  | _ =>
    exfalso
    cases piece with
    | blank _ => cases solid
    | mark _ => cases solid
    | key _ => cases h
    | _ => exact h

/-- The characters that may touch any other are no part of a word or a number. -/
theorem Piece.not_isWord_of_isLoose (loose : piece.isLoose = true) (mem : c ∈ piece.text) :
    Unicode.isWord c = false ∧ c ≠ '.' := by
  cases piece with
  | blank b =>
    rw [List.mem_singleton.mp mem]
    cases b <;> decide
  | mark m =>
    rw [List.mem_singleton.mp mem]
    cases m <;> decide
  | _ => cases loose

theorem Piece.stopsWord_of_isLoose (loose : piece.isLoose = true) :
    StopsWord (reading.code (piece :: run)) := by
  unfold StopsWord
  obtain ⟨first, more, text⟩ := List.exists_cons_of_ne_nil piece.text_ne_nil
  have head : (reading.code (piece :: run)).head? = some first :=
    congrArg (fun text => (text ++ reading.code run).head?) text
  rw [head]
  rintro c ⟨⟩
  exact not_isWord_of_isLoose loose (by rw [text]; exact List.mem_cons_self)

/-- No word stands in front of a word. -/
theorem edge_before (ordered : Ordered (pre ++ piece :: run)) (solid : piece.isLoose = false) :
    endsInWord (reading.code pre) = false := by
  rcases List.eq_nil_or_concat pre with rfl | ⟨before, other, rfl⟩
  · rfl
  · have loose : other.isLoose = true := by
      rw [List.concat_eq_append, List.append_assoc] at ordered
      cases tight : other.isLoose with
      | true => rfl
      | false =>
        rw [ordered.of_append.1.isLoose tight] at solid
        cases solid
    rw [List.concat_eq_append, code_concat]
    exact Text.any_getLast?_append other.text_ne_nil
      (fun c mem => (Piece.not_isWord_of_isLoose loose mem).1) _

/-- No word stands behind a word, in as much of the text as is seen. -/
theorem edge_behind (ordered : Ordered (piece :: run ++ post)) (solid : piece.isLoose = false) :
    StopsWord (reading.code run) := by
  cases run with
  | nil =>
    intro c none
    cases none
  | cons other run => exact Piece.stopsWord_of_isLoose (Piece.Allows.isLoose ordered.1 solid)

theorem StopsWord.any_head? (h : StopsWord rest) :
    rest.head?.any CharSet.word.contains = false := by
  cases head : rest.head? with
  | none => rfl
  | some c => exact (h c head).1

/-- A word edge is where a word starts. -/
theorem wordEdge_start (before : endsInWord front = false)
    (word : Unicode.isWord c = true) :
    wordEdge.outcomes (State.between front (c :: rest) []) =
      [State.between front (c :: rest) []] := by
  have before : front.getLast?.any Unicode.isWord = false := before
  have behind : (c :: rest).head?.any Unicode.isWord = true := word
  exact outcomes_wordEdge (by rw [before, behind]; decide) []

/-- A word edge is where a word stops. -/
theorem wordEdge_stop (word : endsInWord front = true)
    (behind : StopsWord rest) :
    wordEdge.outcomes (State.between front rest []) = [State.between front rest []] := by
  have before : front.getLast?.any Unicode.isWord = true := word
  have behind : rest.head?.any Unicode.isWord = false := behind.any_head?
  exact outcomes_wordEdge (by rw [before, behind]; decide) []

theorem isWord_of_isDecimal (h : Unicode.isDecimal c = true) : Unicode.isWord c = true := by
  unfold Unicode.isDecimal at h
  unfold Unicode.isWord
  split
  · next ascii =>
    rw [if_pos ascii] at h
    rw [Char.isAlphanum, h, Bool.or_true, Bool.true_or]
  · next ascii =>
    rw [if_neg ascii] at h
    rw [Unicode.isDecimal, if_neg ascii, h, Bool.or_true, Bool.true_or]

theorem not_isDecimal_of_not_isWord (h : Unicode.isWord c = false) : Unicode.isDecimal c = false :=
  Bool.eq_false_iff.mpr fun decimal =>
    Bool.false_ne_true (h.symm.trans (isWord_of_isDecimal decimal))

/-! ## Literal names -/

/-- The rule for literal names. -/
def literalRule : Rule := .whole "literal" .literal (Lexeme.words ["true", "false", "null"])

theorem literal_begins :
    literalRule.pattern.Begins fun c => c == 't' || (c == 'f' || c == 'n') := by
  refine Begins.check_seq (Begins.seq ?_ _) _
  refine Begins.alt ((begins_text "true" rfl).mono ?_)
    (Begins.alt ((begins_text "false" rfl).mono ?_) ((begins_text "null" rfl).mono ?_))
  all_goals
    intro c none
    simp only [Bool.or_eq_false_iff] at none
    obtain ⟨t, f, n⟩ := none
    assumption

/-- A literal name between word edges is matched. -/
theorem literal_prefers (w : Word)
    (before : endsInWord front = false)
    (behind : StopsWord rest) :
    literalRule.pattern.Prefers (State.between front (w.name.toList ++ rest) [])
      (State.between (front ++ w.name.toList) rest []) := by
  have start : wordEdge.outcomes (State.between front (w.name.toList ++ rest) []) =
      [State.between front (w.name.toList ++ rest) []] := by
    cases w <;> exact wordEdge_start before (by decide)
  have stop : wordEdge.outcomes (State.between (front ++ w.name.toList) rest []) =
      [State.between (front ++ w.name.toList) rest []] := by
    have letters : w.name.toList.all CharSet.word.contains = true := by cases w <;> decide
    have some : w.name.toList ≠ [] := (Piece.word w).text_ne_nil
    exact wordEdge_stop (Text.any_getLast?_append some (List.all_eq_true.mp letters) front) behind
  have name : (alts (["true", "false", "null"].map Pattern.text)).Prefers
      (State.between front (w.name.toList ++ rest) [])
      (State.between (front ++ w.name.toList) rest []) := by
    have here := prefers_of_outcomes (outcomes_text w.name front rest [])
    cases w with
    | yes => exact here.alt_left
    | no =>
      refine Prefers.alt_right (begins_text "true" rfl _ ?_) here.alt_left
      rintro c ⟨⟩
      rfl
    | null =>
      refine Prefers.alt_right (begins_text "true" rfl _ ?_)
        (Prefers.alt_right (begins_text "false" rfl _ ?_) here)
      · rintro c ⟨⟩
        rfl
      · rintro c ⟨⟩
        rfl
  exact (prefers_of_outcomes start).seq (name.seq (prefers_of_outcomes stop))

/-! ## Numbers -/

/-- The rule for numbers. -/
def numberRule : Rule := .whole "number" .number
  (seqs [zeroOrOne (char '-'), wordEdge, oneOrMore digit, zeroOrOne Lexeme.fraction,
    zeroOrOne Lexeme.exponent, wordEdge])

theorem number_begins : numberRule.pattern.Begins fun c => c == '-' || Unicode.isDecimal c := by
  refine Begins.opt_seq ((begins_char '-').mono ?_) (Begins.check_seq (Begins.seq ?_ _) _)
  · exact fun c none => (Bool.or_eq_false_iff.mp none).1
  · exact ((begins_set .decimal).plus .greedy).mono fun c none => (Bool.or_eq_false_iff.mp none).2

/-- Digits are matched up to their end. -/
theorem digits_prefers (front : Text) (some : text ≠ []) (digits : ∀ c ∈ text, c.isDigit = true)
    (ends : ∀ c ∈ rest.head?, Unicode.isDecimal c = false) :
    (oneOrMore digit).Prefers (State.between front (text ++ rest) [])
      (State.between (front ++ text) rest []) := by
  have all : ∀ c ∈ text, CharSet.decimal.contains c = true :=
    fun c mem => Unicode.isDecimal_of_isDigit (digits c mem)
  exact prefers_plus_set front some all ends []

/-- Digits are the end of a word. -/
theorem endsInWord_digits (some : text ≠ []) (digits : ∀ c ∈ text, c.isDigit = true)
    (front : Text) : endsInWord (front ++ text) = true :=
  Text.any_getLast?_append some
    (fun c mem => isWord_of_isDecimal (Unicode.isDecimal_of_isDigit (digits c mem)))
    front

theorem sign_prefers (front : Text) (n : Numeral) (starts : ∀ c ∈ rest.head?, c.isDigit = true) :
    (zeroOrOne (char '-')).Prefers (State.between front (n.sign ++ rest) [])
      (State.between (front ++ n.sign) rest []) := by
  unfold Numeral.sign
  split
  · exact (prefers_of_outcomes (outcomes_chars ['-'] front rest [])).alt_left
  · rw [List.append_nil]
    refine Prefers.alt_right (begins_char '-' _ ?_) (prefers_empty _)
    intro c mem
    refine beq_eq_false_iff_ne.mpr ?_
    rintro rfl
    cases starts _ mem

theorem fraction_prefers (front : Text) (n : Numeral)
    (ends : ∀ c ∈ rest.head?, Unicode.isDecimal c = false ∧ c ≠ '.') :
    (zeroOrOne Lexeme.fraction).Prefers (State.between front (n.fractionText ++ rest) [])
      (State.between (front ++ n.fractionText) rest []) := by
  unfold Numeral.fractionText
  split
  · rw [List.append_nil]
    refine Prefers.alt_right ((begins_char '.').seq _ _ ?_) (prefers_empty _)
    intro c mem
    exact beq_eq_false_iff_ne.mpr (ends c mem).2
  · next digits _ =>
    refine Prefers.alt_left (Prefers.seq (prefers_of_outcomes
      (outcomes_chars ['.'] front (digits.text ++ rest) [])) ?_)
    have decimals := digits_prefers (front ++ ['.'])
      digits.text_ne_nil (fun _ => Digits.isDigit_of_mem) fun c mem => (ends c mem).1
    rwa [List.append_assoc, List.singleton_append] at decimals

theorem exponent_begins : Lexeme.exponent.Begins fun c => c == 'e' || c == 'E' := by
  refine Begins.seq ((begins_set _).mono ?_) _
  intro c none
  simpa [CharSet.oneOf, CharSet.unions, CharSet.contains, CharSet.contains_char] using none

theorem exponentSign_prefers (front : Text) (exponent : Exponent)
    (starts : ∀ c ∈ rest.head?, c.isDigit = true) :
    (zeroOrOne (oneOf "+-")).Prefers (State.between front (exponent.sign ++ rest) [])
      (State.between (front ++ exponent.sign) rest []) := by
  unfold Exponent.sign
  split
  · rw [List.append_nil]
    refine Prefers.alt_right (begins_set _ _ ?_) (prefers_empty _)
    intro c mem
    have digit := starts c mem
    cases sign : (CharSet.oneOf "+-").contains c with
    | false => rfl
    | true =>
      simp [CharSet.oneOf, CharSet.unions, CharSet.contains, CharSet.contains_char] at sign
      rcases sign with rfl | rfl <;> cases digit
  · next negative _ =>
    refine Prefers.alt_left (prefers_of_outcomes ?_)
    rw [List.singleton_append, oneOf, outcomes_set_cons, if_pos]
    cases negative <;> decide

theorem exponent_prefers (front : Text) (n : Numeral)
    (ends : ∀ c ∈ rest.head?, Unicode.isWord c = false) :
    (zeroOrOne Lexeme.exponent).Prefers (State.between front (n.exponentText ++ rest) [])
      (State.between (front ++ n.exponentText) rest []) := by
  unfold Numeral.exponentText
  split
  · rw [List.append_nil]
    refine Prefers.alt_right (exponent_begins _ ?_) (prefers_empty _)
    intro c mem
    have behind := ends c mem
    cases letter : c == 'e' || c == 'E' with
    | false => exact letter
    | true =>
      rcases Bool.or_eq_true_iff.mp letter with same | same <;>
        (obtain rfl := beq_iff_eq.mp same; cases behind)
  · next exponent _ =>
    have letter : (oneOf "eE").Prefers (State.between front (exponent.text ++ rest) [])
        (State.between (front ++ [exponent.letter])
          (exponent.sign ++ (exponent.digits.text ++ rest)) []) := by
      refine prefers_of_outcomes ?_
      rw [Exponent.text, List.cons_append, List.append_assoc, oneOf, outcomes_set_cons, if_pos]
      unfold Exponent.letter
      split <;> decide
    have first : ∀ c ∈ (exponent.digits.text ++ rest).head?, c.isDigit = true := by
      rintro c ⟨⟩
      exact exponent.digits.first.property
    have sign := exponentSign_prefers (front ++ [exponent.letter]) exponent first
    have digits := digits_prefers (front ++ [exponent.letter] ++ exponent.sign)
      exponent.digits.text_ne_nil (fun _ => Digits.isDigit_of_mem)
      fun c mem => not_isDecimal_of_not_isWord (ends c mem)
    have parts : front ++ exponent.text =
        front ++ [exponent.letter] ++ exponent.sign ++ exponent.digits.text := by
      simp only [Exponent.text, List.append_assoc, List.cons_append, List.nil_append]
    rw [parts]
    exact Prefers.alt_left (letter.seq (sign.seq digits))

namespace Numeral

variable (n : Numeral)

/-- What stands behind the fraction of a number is neither a digit nor another point. -/
theorem head?_exponentText (behind : StopsWord rest) :
    ∀ c ∈ (n.exponentText ++ rest).head?, Unicode.isDecimal c = false ∧ c ≠ '.' := by
  unfold exponentText
  split
  · intro c mem
    obtain ⟨noWord, noPoint⟩ := behind c mem
    exact ⟨not_isDecimal_of_not_isWord noWord, noPoint⟩
  · next exponent _ =>
    rintro c ⟨⟩
    unfold Exponent.letter
    split <;> decide

/-- What stands behind the whole part of a number is no digit. -/
theorem head?_fractionText
    (behind : ∀ c ∈ rest.head?, Unicode.isDecimal c = false ∧ c ≠ '.') :
    ∀ c ∈ (n.fractionText ++ rest).head?, Unicode.isDecimal c = false := by
  unfold fractionText
  split
  · exact fun c mem => (behind c mem).1
  · rintro c ⟨⟩
    decide

/-- A sign is no part of a word. -/
theorem endsInWord_sign (before : endsInWord front = false) :
    endsInWord (front ++ n.sign) = false := by
  unfold sign
  split
  · have minus : CharSet.word.contains '-' = false := by decide
    exact Text.any_getLast?_append (List.cons_ne_nil _ _) (List.forall_mem_singleton.mpr minus)
      front
  · rwa [List.append_nil]

theorem endsInWord_fractionText (before : endsInWord front = true) :
    endsInWord (front ++ n.fractionText) = true := by
  unfold fractionText
  split
  · rwa [List.append_nil]
  · next digits _ =>
    have last := endsInWord_digits digits.text_ne_nil (fun _ => Digits.isDigit_of_mem)
      (front ++ ['.'])
    rwa [List.append_assoc] at last

theorem endsInWord_exponentText (before : endsInWord front = true) :
    endsInWord (front ++ n.exponentText) = true := by
  unfold exponentText
  split
  · rwa [List.append_nil]
  · next exponent _ =>
    have last := endsInWord_digits exponent.digits.text_ne_nil (fun _ => Digits.isDigit_of_mem)
      (front ++ exponent.letter :: exponent.sign)
    rwa [List.append_assoc] at last

end Numeral

/-- **A number between word edges is matched as a whole.** -/
theorem number_prefers (n : Numeral)
    (before : endsInWord front = false) (behind : StopsWord rest) :
    numberRule.pattern.Prefers (State.between front (n.text ++ rest) [])
      (State.between (front ++ n.text) rest []) := by
  obtain ⟨first, more, whole⟩ := List.exists_cons_of_ne_nil n.whole.text_ne_nil
  have digit : first.isDigit = true := by
    have mem : first ∈ n.whole.text := whole ▸ List.mem_cons_self
    exact Whole.isDigit_of_mem mem
  have afterFraction := n.head?_exponentText behind
  have afterWhole := n.head?_fractionText afterFraction
  have source : n.text ++ rest =
      n.sign ++ (n.whole.text ++ (n.fractionText ++ (n.exponentText ++ rest))) := by
    simp only [Numeral.text, List.append_assoc]
  have target : front ++ n.text =
      front ++ n.sign ++ n.whole.text ++ n.fractionText ++ n.exponentText := by
    simp only [Numeral.text, List.append_assoc]
  have starts : ∀ c ∈ (n.whole.text ++ (n.fractionText ++ (n.exponentText ++ rest))).head?,
      c.isDigit = true := by
    rw [whole]
    rintro c ⟨⟩
    exact digit
  have sign := sign_prefers front n starts
  have start : wordEdge.outcomes (State.between (front ++ n.sign)
      (n.whole.text ++ (n.fractionText ++ (n.exponentText ++ rest))) []) =
      [State.between (front ++ n.sign)
        (n.whole.text ++ (n.fractionText ++ (n.exponentText ++ rest))) []] := by
    rw [whole]
    exact wordEdge_start (n.endsInWord_sign before)
      (isWord_of_isDecimal (Unicode.isDecimal_of_isDigit digit))
  have digits := digits_prefers (front ++ n.sign) n.whole.text_ne_nil
    (fun _ => Whole.isDigit_of_mem) afterWhole
  have fraction := fraction_prefers (front ++ n.sign ++ n.whole.text) n afterFraction
  have exponent := exponent_prefers (front ++ n.sign ++ n.whole.text ++ n.fractionText) n
    fun c mem => (behind c mem).1
  have word : endsInWord (front ++ n.sign ++ n.whole.text) = true :=
    endsInWord_digits n.whole.text_ne_nil (fun _ => Whole.isDigit_of_mem) _
  have stop := wordEdge_stop (n.endsInWord_exponentText (n.endsInWord_fractionText word)) behind
  rw [source, target]
  exact sign.seq ((prefers_of_outcomes start).seq
    (digits.seq (fraction.seq (exponent.seq (prefers_of_outcomes stop)))))

/-! ## The rules -/

/-- The rule for structural characters. -/
def punctuationRule : Rule := .whole "punctuation" .operator (oneOf "\x7b\x7d[]:,")

/-- **The rule for literal names reads** the literal names. -/
theorem literalRule_reads (ordered : Ordered pieces) :
    literalRule.Reads reading [.string, .property] pieces := by
  intro pre piece run post split left _
  subst split
  rw [List.append_assoc] at ordered
  have other (none : ∀ c ∈ piece.text, (c == 't' || (c == 'f' || c == 'n')) = false) :
      literalRule.findsAt (reading.code pre) (reading.code (piece :: run)) =
        literalRule.findsAt (reading.code (pre ++ [piece])) (reading.code run) := by
    rw [code_concat]
    exact Rule.findsAt_skip_of_begins literal_begins none
  cases piece with
  | key _ => cases left _ List.mem_cons_self
  | string _ => cases left _ List.mem_cons_self
  | word w =>
    refine Rule.span_findsAt_take (reading.code (pre ++ [.word w])).byteSize rfl ?_
    rw [code_concat]
    exact Rule.findsAt_take_whole rfl
      (literal_prefers w (edge_before ordered rfl) (edge_behind ordered.of_append rfl))
      (Piece.word w).text_ne_nil
  | number n =>
    refine Rule.span_findsAt_skip nofun (other ?_)
    intro c mem
    rcases n.mem_text mem with digit | sign
    · cases letter : c == 't' || (c == 'f' || c == 'n') with
      | false => rfl
      | true =>
        simp only [Bool.or_eq_true, beq_iff_eq] at letter
        rcases letter with rfl | rfl | rfl <;> cases digit
    · have signs : ("-+.eE".toList.all fun c => !(c == 't' || (c == 'f' || c == 'n'))) = true := by
        decide
      exact (Bool.not_eq_true' _).mp (List.all_eq_true.mp signs c sign)
  | blank b =>
    refine Rule.span_findsAt_skip nofun (other (List.forall_mem_singleton.mpr ?_))
    cases b <;> decide
  | mark m =>
    refine Rule.span_findsAt_skip nofun (other (List.forall_mem_singleton.mpr ?_))
    cases m <;> decide

/-- **The rule for numbers reads** the numbers. -/
theorem numberRule_reads (ordered : Ordered pieces) :
    numberRule.Reads reading [.literal, .string, .property] pieces := by
  intro pre piece run post split left _
  subst split
  rw [List.append_assoc] at ordered
  have other (none : ∀ c ∈ piece.text, (c == '-' || Unicode.isDecimal c) = false) :
      numberRule.findsAt (reading.code pre) (reading.code (piece :: run)) =
        numberRule.findsAt (reading.code (pre ++ [piece])) (reading.code run) := by
    rw [code_concat]
    exact Rule.findsAt_skip_of_begins number_begins none
  cases piece with
  | key _ => cases left _ List.mem_cons_self
  | string _ => cases left _ List.mem_cons_self
  | word _ => cases left _ List.mem_cons_self
  | number n =>
    refine Rule.span_findsAt_take (reading.code (pre ++ [.number n])).byteSize rfl ?_
    rw [code_concat]
    exact Rule.findsAt_take_whole rfl
      (number_prefers n (edge_before ordered rfl) (edge_behind ordered.of_append rfl))
      (Piece.number n).text_ne_nil
  | blank b =>
    refine Rule.span_findsAt_skip nofun (other (List.forall_mem_singleton.mpr ?_))
    cases b <;> decide
  | mark m =>
    refine Rule.span_findsAt_skip nofun (other (List.forall_mem_singleton.mpr ?_))
    cases m <;> decide

/-- **The rule for structural characters reads** what is left but blanks. -/
theorem punctuationRule_reads (pieces : List Piece) :
    punctuationRule.Reads reading [.number, .literal, .string, .property] pieces := by
  intro pre piece run post _ left _
  have begins : punctuationRule.pattern.Begins _ := begins_set (.oneOf "\x7b\x7d[]:,")
  cases piece with
  | key _ => cases left _ List.mem_cons_self
  | string _ => cases left _ List.mem_cons_self
  | word _ => cases left _ List.mem_cons_self
  | number _ => cases left _ List.mem_cons_self
  | blank b =>
    refine Rule.span_findsAt_skip nofun ?_
    rw [code_concat]
    exact Rule.findsAt_skip_of_begins begins
      (List.forall_mem_singleton.mpr (by cases b <;> decide))
  | mark m =>
    refine Rule.span_findsAt_take (reading.code (pre ++ [.mark m])).byteSize rfl ?_
    rw [code_concat]
    have mark : (CharSet.oneOf "\x7b\x7d[]:,").contains m.char = true := by cases m <;> decide
    have here := outcomes_set_cons (.oneOf "\x7b\x7d[]:,") (reading.code pre) m.char
      (reading.code run) []
    rw [if_pos mark] at here
    exact Rule.findsAt_take_whole rfl (prefers_of_outcomes here) (Piece.mark m).text_ne_nil

end Highlight.Json
