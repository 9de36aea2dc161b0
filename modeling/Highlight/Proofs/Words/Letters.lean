import Highlight.Pattern.CharSet

/-!
# Letters of words

What the tables say about word characters. White space is none of them
(`not_isWord_of_isWhiteSpace`). Disregard of case leads from the ASCII letters to few characters
beyond, the kelvin sign and the long s, and all of them are word characters that fold to what the
letter folds to (`folds_of_contains_fold`).

The tables are gone through once, pair by pair (`casePairs_ascii`), and only as far as ASCII goes.
-/

namespace Highlight.Unicode

/-! ## White space -/

/-- What holds of every code point of some intervals holds of what they contain. -/
theorem Ranges.of_contains {P : Nat → Prop} {ranges : Ranges}
    (all : ∀ range ∈ ranges, ∀ code ∈ List.range' range.1 (range.2 + 1 - range.1), P code)
    {code : Nat} (h : ranges.contains code = true) : P code := by
  induction ranges with
  | nil => cases h
  | cons range ranges ih =>
    simp only [Ranges.contains] at h
    split at h
    · cases h
    · next above =>
      rcases Bool.or_eq_true_iff.mp h with below | later
      · have below : code ≤ range.2 := of_decide_eq_true below
        refine all range List.mem_cons_self code (List.mem_range'_1.mpr ?_)
        omega
      · exact ih (fun other mem => all other (List.mem_cons_of_mem _ mem)) later

/-- White space is no part of a word. -/
theorem not_isWord_of_isWhiteSpace {c : Char} (h : isWhiteSpace c = true) : isWord c = false := by
  have all : ∀ range ∈ whiteSpaceRanges, ∀ code ∈ List.range' range.1 (range.2 + 1 - range.1),
      isWord (Char.ofNat code) = false := by decide +kernel
  have here := Ranges.of_contains all h
  rwa [Char.ofNat_toNat] at here

/-! ## Case folding -/

/-- What a run sends somewhere is listed with its image. -/
theorem mem_casePairs {run : CaseRun} {code folded : Nat} (mem : run ∈ foldRuns)
    (image : run.image? code = some folded) : (code, folded) ∈ casePairs := by
  unfold CaseRun.image? at image
  split at image
  · next covers =>
    simp only [CaseRun.covers, Bool.and_eq_true, decide_eq_true_eq, beq_iff_eq] at covers
    obtain ⟨⟨low, high⟩, steps⟩ := covers
    have whole : (code - run.first) / run.step * run.step = code - run.first :=
      Nat.div_mul_cancel (Nat.dvd_of_mod_eq_zero steps)
    have place : run.first + (code - run.first) / run.step * run.step = code := by omega
    refine List.mem_flatMap.mpr ⟨run, mem, List.mem_map.mpr ?_⟩
    refine ⟨(code - run.first) / run.step, List.mem_range.mpr (Nat.lt_succ_of_le ?_), ?_⟩
    · exact Nat.div_le_div_right (Nat.sub_le_sub_right high run.first)
    · rw [place]
      exact congrArg (code, ·) (Option.some.inj image)
  · cases image

/-- What does not fold to itself is listed with what it folds to. -/
theorem mem_casePairs_of_foldCode_ne {code : Nat} (h : foldCode code ≠ code) :
    (code, foldCode code) ∈ casePairs := by
  unfold foldCode at h ⊢
  cases found : foldRuns.findSome? fun run => run.image? code with
  | none =>
    rw [found] at h
    exact absurd rfl h
  | some folded =>
    obtain ⟨run, mem, image⟩ := List.exists_of_findSome?_eq_some found
    exact mem_casePairs mem image

/-- **The table as far as ASCII goes**: ASCII folds into ASCII, and what folds into ASCII is listed
with what it folds to, which folds to itself, and is a word character. -/
theorem casePairs_ascii : ∀ pair ∈ casePairs, (pair.1 < 128 → pair.2 < 128) ∧
    (pair.2 < 128 → foldCode pair.1 = pair.2 ∧ foldCode pair.2 = pair.2 ∧
      isWord (Char.ofNat pair.1) = true) := by decide +kernel

/-- An ASCII letter is one of its two forms, of which one folds to the other. -/
theorem ascii_forms : ∀ code < 128, (Char.ofNat code).isAlpha = true →
    ((Char.ofNat code).toUpper.toNat, (Char.ofNat code).toLower.toNat) ∈ casePairs ∧
      (Char.ofNat code).toLower.toNat < 128 ∧
        Char.ofNat code ∈ [(Char.ofNat code).toLower, (Char.ofNat code).toUpper] := by
  decide +kernel

variable {w c : Char}

/-- A word character stands for its code point, as what is no character stands for the code 0. -/
theorem eq_toNat_of_ofNat {code : Nat} (h : Char.ofNat code = w) (word : isWord w = true) :
    code = w.toNat := by
  by_cases valid : code.isValidChar
  · rw [← h, Char.ofNat, dif_pos valid]
    rfl
  · rw [Char.ofNat, dif_neg valid] at h
    rw [← h] at word
    cases word

/-- What has a form of an ASCII letter folds to ASCII. -/
theorem foldCode_lt_of_mem_tableVariants (ascii : w.toNat < 128) (word : isWord w = true)
    (mem : w ∈ tableVariants c) : foldCode c.toNat < 128 ∧
      (foldCode c.toNat = w.toNat ∨ (w.toNat, foldCode c.toNat) ∈ casePairs) := by
  obtain ⟨code, listed, same⟩ := List.mem_map.mp mem
  obtain rfl := eq_toNat_of_ofNat same word
  rcases List.mem_cons.mp listed with folded | source
  · exact ⟨folded ▸ ascii, .inl folded.symm⟩
  · obtain ⟨run, inTable, preimage⟩ := List.mem_filterMap.mp source
    have pair : (w.toNat, foldCode c.toNat) ∈ casePairs := by
      unfold CaseRun.preimage? at preimage
      dsimp only at preimage
      split at preimage
      · next here =>
        rw [Option.some.inj preimage] at here
        exact mem_casePairs inTable (beq_iff_eq.mp (Bool.and_eq_true_iff.mp here).2)
      · cases preimage
    exact ⟨(casePairs_ascii _ pair).1 ascii, .inr pair⟩

/-- **Disregard of case leads from ASCII word characters** to characters that fold to the same, and
are word characters too. -/
theorem folds_of_mem_caseVariants (ascii : w.toNat < 128) (word : isWord w = true)
    (mem : w ∈ caseVariants c) : foldCode c.toNat = foldCode w.toNat ∧ isWord c = true := by
  unfold caseVariants at mem
  split at mem
  · next low =>
    unfold asciiVariants at mem
    split at mem
    · next letter =>
      refine ⟨?_, by simp only [isWord, if_pos low, Char.isAlphanum, letter, Bool.true_or]⟩
      obtain ⟨pair, small, own⟩ := ascii_forms c.toNat low (by rwa [Char.ofNat_toNat])
      rw [Char.ofNat_toNat] at pair small own
      obtain ⟨upper, lower, -⟩ := (casePairs_ascii _ pair).2 small
      have forms : ∀ form ∈ [c.toLower, c.toUpper], foldCode form.toNat = c.toLower.toNat := by
        simp only [List.forall_mem_cons]
        exact ⟨lower, upper, List.forall_mem_nil _⟩
      have other : w ∈ [c.toLower, c.toUpper] := by
        rw [List.mem_cons, List.mem_cons] at mem
        rw [List.mem_cons, List.mem_cons]
        refine mem.imp_right fun mem => mem.imp_right fun beyond => ?_
        -- The kelvin sign and the long s are no ASCII letters.
        exfalso
        split at beyond
        · rw [List.mem_singleton.mp beyond] at ascii
          exact absurd ascii (by decide)
        · split at beyond
          · rw [List.mem_singleton.mp beyond] at ascii
            exact absurd ascii (by decide)
          · exact List.not_mem_nil beyond
      exact (forms c own).trans (forms w other).symm
    · obtain rfl := List.mem_singleton.mp mem
      exact ⟨rfl, word⟩
  · next high =>
    obtain ⟨small, forms⟩ := foldCode_lt_of_mem_tableVariants ascii word mem
    have pair : (c.toNat, foldCode c.toNat) ∈ casePairs :=
      mem_casePairs_of_foldCode_ne (by omega)
    obtain ⟨-, self, isWord⟩ := (casePairs_ascii _ pair).2 small
    rw [Char.ofNat_toNat] at isWord
    refine ⟨?_, isWord⟩
    rcases forms with same | pair
    · rw [← same]
      exact self.symm
    · exact ((casePairs_ascii _ pair).2 small).1.symm

end Highlight.Unicode

namespace Highlight.Pattern.CharSet

/-- What is equal to an ASCII word character without regard to case. -/
theorem folds_of_contains_fold {w c : Char} (ascii : w.toNat < 128)
    (word : Unicode.isWord w = true) (h : (fold (char w)).contains c = true) :
    Unicode.foldCode c.toNat = Unicode.foldCode w.toNat ∧ Unicode.isWord c = true := by
  simp only [contains, contains_char, Bool.or_eq_true, beq_iff_eq, List.any_eq_true] at h
  rcases h with rfl | ⟨variant, mem, rfl⟩
  · exact ⟨rfl, word⟩
  · exact Unicode.folds_of_mem_caseVariants ascii word mem

end Highlight.Pattern.CharSet
