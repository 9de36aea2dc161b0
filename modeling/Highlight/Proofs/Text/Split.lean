import Highlight.Text.Basic

/-!
# Texts divided at a mark

The first occurrence of a mark divides a text into what is before it, which has none, and the rest
(`splitOnce?_eq_some_iff`). All occurrences divide it into parts, and a part in which there is no
mark stays whole (`splitOn_append_cons`).
-/

namespace Highlight.Text

variable {mark : Char} {text front back : Text}

theorem splitOnce?_append (absent : mark ∉ front) (back : Text) :
    splitOnce? mark (front ++ mark :: back) = some (front, back) := by
  induction front with
  | nil => exact if_pos rfl
  | cons c front ih =>
    obtain ⟨first, others⟩ := List.ne_and_not_mem_of_not_mem_cons absent
    simp only [List.cons_append, splitOnce?, if_neg first.symm, ih others]
    rfl

/-- What is before and after the first mark is the text, and there is no mark before it. -/
theorem eq_of_splitOnce? (h : text.splitOnce? mark = some (front, back)) :
    text = front ++ mark :: back ∧ mark ∉ front := by
  induction text generalizing front with
  | nil => cases h
  | cons c rest ih =>
    simp only [splitOnce?] at h
    split at h
    · next same =>
      obtain ⟨rfl, rfl⟩ := Prod.mk.inj (Option.some.inj h)
      exact ⟨congrArg (· :: rest) same, List.not_mem_nil⟩
    · next differs =>
      obtain ⟨⟨front', back'⟩, split, eq⟩ := Option.map_eq_some_iff.mp h
      obtain ⟨rfl, rfl⟩ := Prod.mk.inj eq
      obtain ⟨whole, absent⟩ := ih split
      refine ⟨congrArg (c :: ·) whole, ?_⟩
      intro mem
      rcases List.mem_cons.mp mem with same | later
      · exact differs same.symm
      · exact absent later

theorem splitOnce?_eq_some_iff :
    text.splitOnce? mark = some (front, back) ↔ text = front ++ mark :: back ∧ mark ∉ front :=
  ⟨eq_of_splitOnce?, fun ⟨whole, absent⟩ => whole ▸ splitOnce?_append absent back⟩

/-- A text without the mark is not divided. -/
theorem splitOnce?_of_not_mem (absent : mark ∉ text) : text.splitOnce? mark = none := by
  cases split : text.splitOnce? mark with
  | none => rfl
  | some parts =>
    rw [(eq_of_splitOnce? split).1] at absent
    exact absurd (List.mem_append_right _ List.mem_cons_self) absent

/-- There is at least one part. -/
theorem splitOn_ne_nil (mark : Char) (text : Text) : splitOn mark text ≠ [] := by
  cases text with
  | nil => exact List.cons_ne_nil _ _
  | cons c rest =>
    simp only [splitOn]
    split
    · exact List.cons_ne_nil _ _
    · split <;> exact List.cons_ne_nil _ _

theorem splitOn_of_not_mem (absent : mark ∉ text) : splitOn mark text = [text] := by
  induction text with
  | nil => rfl
  | cons c rest ih =>
    obtain ⟨first, others⟩ := List.ne_and_not_mem_of_not_mem_cons absent
    simp only [splitOn, if_neg first.symm, ih others]

/-- The parts before a mark and those after it are all parts. -/
theorem splitOn_append_cons (mark : Char) (front back : Text) :
    splitOn mark (front ++ mark :: back) = splitOn mark front ++ splitOn mark back := by
  induction front with
  | nil => simp only [List.nil_append, splitOn, if_pos, List.cons_append]
  | cons c front ih =>
    simp only [List.cons_append, splitOn, ih]
    split
    · rfl
    · cases parts : splitOn mark front with
      | nil => exact absurd parts (splitOn_ne_nil mark front)
      | cons part parts => rfl

end Highlight.Text
