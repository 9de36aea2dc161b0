import Highlight.Text.Decimal

/-!
# Numerals are read back

What is written for a value is digits only, so nothing is trimmed from it, and it is read as the
value (`toNumeral?_ofNumeral`). The text of bytes that are UTF-8 has those bytes for its form.
-/

namespace Highlight.Text

variable {value : Nat} {c : Char}

theorem isDigit_of_mem_ofNumeral (mem : c ∈ ofNumeral value) : c.isDigit = true :=
  Nat.isDigit_of_mem_toDigits (by decide) (by decide) mem

theorem ofNumeral_ne_nil (value : Nat) : ofNumeral value ≠ [] := Nat.toDigits_ne_nil

theorem not_mem_ofNumeral (h : c.isDigit = false) (value : Nat) : c ∉ ofNumeral value := by
  intro mem
  rw [isDigit_of_mem_ofNumeral mem] at h
  cases h

/-- A digit is no blank. -/
theorem isWhiteSpace_of_isDigit (h : c.isDigit = true) : Unicode.isWhiteSpace c = false := by
  simp only [Char.isDigit, Bool.and_eq_true, decide_eq_true_eq, ge_iff_le,
    UInt32.le_iff_toNat_le] at h
  have none : ∀ code < 58, 48 ≤ code → Unicode.whiteSpaceRanges.contains code = false := by decide
  exact none c.toNat (Nat.lt_succ_of_le h.2) h.1

/-- A text without blanks is trimmed already. -/
theorem trim_eq_self {text : Text} (h : ∀ c ∈ text, Unicode.isWhiteSpace c = false) :
    text.trim = text := by
  have keeps : ∀ text : Text, (∀ c ∈ text, Unicode.isWhiteSpace c = false) →
      text.dropWhile Unicode.isWhiteSpace = text := by
    intro text h
    cases text with
    | nil => rfl
    | cons c rest => exact List.dropWhile_cons_of_neg (by simp [h c List.mem_cons_self])
  rw [trim, keeps text h, keeps text.reverse fun c mem => h c (List.mem_reverse.mp mem),
    List.reverse_reverse]

@[simp] theorem trim_ofNumeral (value : Nat) : (ofNumeral value).trim = ofNumeral value :=
  trim_eq_self fun _ mem => isWhiteSpace_of_isDigit (isDigit_of_mem_ofNumeral mem)

/-- **A numeral is read as its value.** -/
theorem toNumeral?_ofNumeral (h : value < numeralBound) :
    (ofNumeral value).toNumeral? = some value := by
  have none : (ofNumeral value).any (fun c => !c.isDigit) = false := by
    refine List.any_eq_false.mpr ?_
    intro c mem
    simp [isDigit_of_mem_ofNumeral mem]
  have read : Nat.ofDigitChars 10 (ofNumeral value) 0 = value := Nat.ofDigitChars_ten_toDigits
  unfold toNumeral?
  split
  · next rest eq =>
    have plus : '+' ∈ ofNumeral value := eq ▸ List.mem_cons_self
    exact absurd plus (not_mem_ofNumeral (by decide) value)
  · simp only [none, List.isEmpty_eq_false_iff.mpr (ofNumeral_ne_nil value), read, Bool.or_self,
      Bool.false_eq_true, if_false, if_pos h]

/-- The text of some bytes is the one that has them for its form. -/
theorem ofUtf8?_eq_some_iff {bytes : ByteArray} {text : Text} :
    ofUtf8? bytes = some text ↔ bytes = toUtf8 text := by
  constructor
  · intro h
    obtain ⟨chars, decoded, rfl⟩ := Option.map_eq_some_iff.mp h
    have valid : bytes.utf8Decode?.isSome = true := by rw [decoded]; rfl
    have encoded := ByteArray.utf8Encode_get_utf8Decode? (h := valid)
    simp only [decoded, Option.get_some] at encoded
    exact encoded.symm
  · rintro rfl
    exact ofUtf8?_toUtf8 text

end Highlight.Text
