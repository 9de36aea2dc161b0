import Highlight.Text.Basic

/-!
# Boundaries

A byte offset is a boundary of a text if the text falls into two parts there. Offsets are compared
by these parts: two boundaries in order cut out one stretch of the text (`exists_slice?`), and
where a text is cut twice the outer parts determine what lies between (`exists_middle`).
-/

namespace Highlight.Text

/-- Whether a text can be cut at a byte offset. -/
def IsBoundary (text : Text) (offset : Nat) : Prop :=
  ∃ front back : Text, text = front ++ back ∧ front.byteSize = offset

/-- Only the empty text takes no bytes. -/
theorem byteSize_eq_zero {text : Text} : text.byteSize = 0 ↔ text = [] := by
  cases text with
  | nil => exact iff_of_true rfl rfl
  | cons c rest =>
    have pos : 0 < c.utf8Size := c.utf8Size_pos
    refine iff_of_false ?_ (List.cons_ne_nil c rest)
    simp only [byteSize]
    omega

theorem byteSize_pos {text : Text} (h : text ≠ []) : 0 < text.byteSize :=
  Nat.pos_of_ne_zero fun zero => h (byteSize_eq_zero.mp zero)

/-- A boundary of a text lies inside it. -/
theorem IsBoundary.le {text : Text} {offset : Nat} (h : text.IsBoundary offset) :
    offset ≤ text.byteSize := by
  obtain ⟨front, back, rfl, rfl⟩ := h
  rw [byteSize_append]
  omega

theorem isBoundary_zero (text : Text) : text.IsBoundary 0 := ⟨[], text, rfl, rfl⟩

theorem isBoundary_byteSize (text : Text) : text.IsBoundary text.byteSize :=
  ⟨text, [], (List.append_nil text).symm, rfl⟩

/-- A text can be cut wherever its first part can. -/
theorem IsBoundary.append {front : Text} {offset : Nat} (h : front.IsBoundary offset)
    (back : Text) : (front ++ back).IsBoundary offset := by
  obtain ⟨a, b, rfl, size⟩ := h
  exact ⟨a, b ++ back, List.append_assoc a b back, size⟩

/-- **Two cuts in order** leave one text between them. -/
theorem exists_middle {a b c d : Text} (h : a ++ b = c ++ d) (le : a.byteSize ≤ c.byteSize) :
    ∃ middle, c = a ++ middle ∧ b = middle ++ d := by
  obtain ⟨middle, hc, hb⟩ | ⟨middle, ha, hd⟩ := List.append_eq_append_iff.mp h
  · exact ⟨middle, hc, hb⟩
  · have none : byteSize middle = 0 := by
      rw [ha, byteSize_append] at le
      omega
    rw [byteSize_eq_zero] at none
    subst none
    rw [List.append_nil] at ha
    exact ⟨[], by rw [ha, List.append_nil], hd.symm⟩

/-- Two cuts at one offset are one. -/
theorem append_inj_of_byteSize {a b c d : Text} (h : a ++ b = c ++ d)
    (size : a.byteSize = c.byteSize) : a = c ∧ b = d := by
  obtain ⟨middle, rfl, rfl⟩ := exists_middle h (Nat.le_of_eq size)
  rw [byteSize_append] at size
  have none : byteSize middle = 0 := by omega
  obtain rfl := byteSize_eq_zero.mp none
  exact ⟨(List.append_nil a).symm, rfl⟩

/-- What a slice is: the text between two cuts. -/
theorem slice?_eq_some_iff {text middle : Text} {start stop : Nat} :
    text.slice? start stop = some middle ↔
      ∃ front back : Text, text = front ++ (middle ++ back) ∧ front.byteSize = start ∧
        start + middle.byteSize = stop := by
  constructor
  · intro h
    unfold slice? at h
    split at h
    · next order =>
      obtain ⟨⟨front, tail⟩, cutStart, h⟩ := Option.bind_eq_some_iff.mp h
      obtain ⟨⟨inner, back⟩, cutStop, h⟩ := Option.bind_eq_some_iff.mp h
      obtain rfl : inner = middle := Option.some.inj h
      obtain ⟨rfl, rfl⟩ := eq_append_of_cutAt?_eq_some cutStart
      obtain ⟨rfl, size⟩ := eq_append_of_cutAt?_eq_some cutStop
      exact ⟨front, back, rfl, rfl, by omega⟩
    · simp at h
  · rintro ⟨front, back, rfl, rfl, rfl⟩
    simp only [slice?, if_pos (Nat.le_add_right _ _), cutAt?_append, Nat.add_sub_cancel_left]
    simp

/-- Boundaries in order cut out a slice. -/
theorem exists_slice? {text : Text} {start stop : Nat} (hstart : text.IsBoundary start)
    (hstop : text.IsBoundary stop) (le : start ≤ stop) :
    ∃ middle, text.slice? start stop = some middle ∧ start + middle.byteSize = stop := by
  obtain ⟨front, rest, rfl, rfl⟩ := hstart
  obtain ⟨long, back, eq, rfl⟩ := hstop
  obtain ⟨middle, rfl, rfl⟩ := exists_middle eq le
  refine ⟨middle, ?_, (byteSize_append front middle).symm⟩
  exact slice?_eq_some_iff.mpr ⟨front, back, rfl, rfl, (byteSize_append front middle).symm⟩

/-- The ends of a slice are boundaries. -/
theorem isBoundary_of_slice? {text middle : Text} {start stop : Nat}
    (h : text.slice? start stop = some middle) : text.IsBoundary start ∧ text.IsBoundary stop := by
  obtain ⟨front, back, rfl, rfl, rfl⟩ := slice?_eq_some_iff.mp h
  refine ⟨⟨front, middle ++ back, rfl, rfl⟩, front ++ middle, back, ?_, byteSize_append _ _⟩
  exact (List.append_assoc front middle back).symm

/-- The last character of a text is one of its own, whatever stands in front. -/
theorem any_getLast?_append {text : Text} {p : Char → Bool} {value : Bool} (some : text ≠ [])
    (all : ∀ c ∈ text, p c = value) (front : Text) : (front ++ text).getLast?.any p = value := by
  rw [List.getLast?_append, List.getLast?_eq_some_getLast some]
  exact all _ (List.getLast_mem some)

/-- There are no characters of a kind at the end of a text that does not end with one. -/
theorem eq_nil_of_any_getLast? {front text : Text} {p : Char → Bool}
    (all : ∀ c ∈ text, p c = true) (clear : (front ++ text).getLast?.any p = false) :
    text = [] := by
  refine Decidable.byContradiction fun some => ?_
  exact absurd ((any_getLast?_append some all front).symm.trans clear) Bool.noConfusion

/-- And none at the beginning of one that does not begin with one. -/
theorem eq_nil_of_any_head? {text back : Text} {p : Char → Bool}
    (all : ∀ c ∈ text, p c = true) (ends : (text ++ back).head?.any p = false) : text = [] := by
  cases text with
  | nil => rfl
  | cons c text => exact absurd ((all c List.mem_cons_self).symm.trans ends) Bool.noConfusion

end Highlight.Text
