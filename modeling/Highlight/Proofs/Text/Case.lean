import Highlight.Text.Basic

/-!
# Case and surroundings

White space around a text is gone after trimming (`trim_append`), and the case of ASCII letters is
gone in lowercase (`lower_map_toLower`). The second needs a look at the properties that decide
where a word ends, because a sigma there has a form of its own: a letter and its lowercase have the
same ones.
-/

namespace Highlight.Unicode

/-- A character that is its own ASCII lowercase, or a capital letter. -/
theorem toLower_cases (c : Char) :
    c.toLower = c ∨ c ∈ "ABCDEFGHIJKLMNOPQRSTUVWXYZ".toList := by
  unfold Char.toLower
  split
  · next capital =>
    right
    have each : ∀ code < 91, 65 ≤ code →
        Char.ofNat code ∈ "ABCDEFGHIJKLMNOPQRSTUVWXYZ".toList := by decide
    have low : 65 ≤ c.toNat := UInt32.le_iff_toNat_le.mp capital.1
    have high : c.toNat ≤ 90 := UInt32.le_iff_toNat_le.mp capital.2
    have mem := each c.toNat (Nat.lt_succ_of_le high) low
    rwa [Char.ofNat_toNat] at mem
  · exact .inl rfl

/-- What the tables do not tell apart in the capital letters and their lowercase, they do not tell
apart in any character and its ASCII lowercase. -/
theorem toLower_eq_of_capitals {α : Type} {f : Char → α}
    (each : ∀ c ∈ "ABCDEFGHIJKLMNOPQRSTUVWXYZ".toList, f c.toLower = f c) (c : Char) :
    f c.toLower = f c := by
  rcases toLower_cases c with same | capital
  · rw [same]
  · exact each c capital

theorem isWhiteSpace_toLower (c : Char) : isWhiteSpace c.toLower = isWhiteSpace c :=
  toLower_eq_of_capitals (by decide) c

theorem isCased_toLower (c : Char) : isCased c.toLower = isCased c :=
  toLower_eq_of_capitals (by decide) c

theorem isCaseIgnorable_toLower (c : Char) : isCaseIgnorable c.toLower = isCaseIgnorable c :=
  toLower_eq_of_capitals (by decide) c

theorem lowerChar_toLower (c : Char) : lowerChar c.toLower = lowerChar c :=
  toLower_eq_of_capitals (by decide) c

theorem toLower_eq_sigma (c : Char) : (c.toLower = '\u03a3') = (c = '\u03a3') :=
  toLower_eq_of_capitals (f := fun c => c = '\u03a3') (by decide) c

theorem meetsCased_map_toLower (text : List Char) :
    meetsCased (text.map Char.toLower) = meetsCased text := by
  have same : isCaseIgnorable ∘ Char.toLower = isCaseIgnorable := funext isCaseIgnorable_toLower
  rw [meetsCased, meetsCased, List.dropWhile_map, same]
  cases text.dropWhile isCaseIgnorable with
  | nil => rfl
  | cons c _ => exact isCased_toLower c

theorem lowerAfter_map_toLower (before text : List Char) :
    lowerAfter (before.map Char.toLower) (text.map Char.toLower) = lowerAfter before text := by
  induction text generalizing before with
  | nil => rfl
  | cons c rest ih =>
    have later := ih (c :: before)
    rw [List.map_cons] at later
    simp only [List.map_cons, lowerAfter, toLower_eq_sigma, meetsCased_map_toLower,
      lowerChar_toLower, later]

end Highlight.Unicode

namespace Highlight.Text

/-- **The case of ASCII letters is gone in lowercase.** -/
theorem lower_map_toLower (text : Text) : lower (text.map Char.toLower) = lower text :=
  Unicode.lowerAfter_map_toLower [] text

theorem trim_map_toLower (text : Text) :
    trim (text.map Char.toLower) = (trim text).map Char.toLower := by
  have same : Unicode.isWhiteSpace ∘ Char.toLower = Unicode.isWhiteSpace :=
    funext Unicode.isWhiteSpace_toLower
  simp only [trim, List.dropWhile_map, same, ← List.map_reverse]

/-- **White space around a text is gone after trimming.** -/
theorem trim_append {front back : Text} (leading : ∀ c ∈ front, Unicode.isWhiteSpace c = true)
    (trailing : ∀ c ∈ back, Unicode.isWhiteSpace c = true) (text : Text) :
    trim (front ++ text ++ back) = trim text := by
  rw [trim, trim, List.append_assoc, List.dropWhile_append_of_pos leading, List.dropWhile_append]
  split
  · next blank =>
    have none : (back ++ []).dropWhile Unicode.isWhiteSpace = [] :=
      List.dropWhile_append_of_pos trailing
    rw [List.append_nil] at none
    rw [List.isEmpty_iff.mp blank, none]
  · have trailing : ∀ c ∈ back.reverse, Unicode.isWhiteSpace c = true :=
      fun c mem => trailing c (List.mem_reverse.mp mem)
    rw [List.reverse_append, List.dropWhile_append_of_pos trailing]

end Highlight.Text
