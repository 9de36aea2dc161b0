import Highlight.Markup.Escape

/-!
# Entities

Escaped text reads back as the text (`unescape_escape`), and nothing in it can be taken for markup:
it has no angle bracket and no quote, and an ampersand only where an entity begins
(`isSafe_escape`).
-/

namespace Highlight.Markup

/-- The text that markup without tags stands for: each entity is read once, from the left. -/
def unescape : Text → Text
  | '&' :: 'a' :: 'm' :: 'p' :: ';' :: rest => '&' :: unescape rest
  | '&' :: 'l' :: 't' :: ';' :: rest => '<' :: unescape rest
  | '&' :: 'g' :: 't' :: ';' :: rest => '>' :: unescape rest
  | '&' :: 'q' :: 'u' :: 'o' :: 't' :: ';' :: rest => '"' :: unescape rest
  | '&' :: '#' :: '0' :: '3' :: '9' :: ';' :: rest => '\'' :: unescape rest
  | c :: rest => c :: unescape rest
  | [] => []

/-- The entities of escaped content. -/
def entities : List Text := ["&amp;", "&lt;", "&gt;", "&quot;"]

/-- Whether markup holds no character that has a meaning of its own in it, except for the
ampersands with which entities begin. -/
def IsSafe (markup : Text) : Prop :=
  (∀ c ∈ markup, c ≠ '<' ∧ c ≠ '>' ∧ c ≠ '"') ∧
    ∀ before after, markup = before ++ '&' :: after → ∃ entity ∈ entities, entity <+: '&' :: after

/-- A character that escaping leaves alone. -/
theorem escapeChar_of_ne {c : Char} (amp : c ≠ '&') (lt : c ≠ '<') (gt : c ≠ '>')
    (quote : c ≠ '"') : escapeChar c = [c] := by
  unfold escapeChar
  split <;> first | contradiction | rfl

/-- A character is escaped to one of the entities, or left alone. -/
theorem escapeChar_cases (c : Char) :
    escapeChar c ∈ entities ∨
      (escapeChar c = [c] ∧ c ≠ '&' ∧ c ≠ '<' ∧ c ≠ '>' ∧ c ≠ '"') := by
  by_cases amp : c = '&'
  · subst amp; exact .inl (by decide)
  by_cases lt : c = '<'
  · subst lt; exact .inl (by decide)
  by_cases gt : c = '>'
  · subst gt; exact .inl (by decide)
  by_cases quote : c = '"'
  · subst quote; exact .inl (by decide)
  exact .inr ⟨escapeChar_of_ne amp lt gt quote, amp, lt, gt, quote⟩

theorem unescape_cons {c : Char} (h : c ≠ '&') (rest : Text) :
    unescape (c :: rest) = c :: unescape rest := by
  simp [unescape, h]

/-- An escaped character reads back as the character. -/
theorem unescape_escapeChar (c : Char) (rest : Text) :
    unescape (escapeChar c ++ rest) = c :: unescape rest := by
  by_cases amp : c = '&'
  · subst amp; rfl
  by_cases lt : c = '<'
  · subst lt; rfl
  by_cases gt : c = '>'
  · subst gt; rfl
  by_cases quote : c = '"'
  · subst quote; rfl
  rw [escapeChar_of_ne amp lt gt quote]
  exact unescape_cons amp rest

/-- **Escaping is undone by reading entities**, once each. -/
@[simp] theorem unescape_escape (text : Text) : unescape (escape text) = text := by
  induction text with
  | nil => rfl
  | cons c rest ih =>
    rw [escape_cons, unescape_escapeChar, ih]

theorem escapeChar_ne {c d : Char} (mem : d ∈ escapeChar c) : d ≠ '<' ∧ d ≠ '>' ∧ d ≠ '"' := by
  rcases escapeChar_cases c with entity | ⟨alone, -, lt, gt, quote⟩
  · have plain : ∀ entity ∈ entities, '<' ∉ entity ∧ '>' ∉ entity ∧ '"' ∉ entity := by decide
    obtain ⟨lt, gt, quote⟩ := plain _ entity
    exact ⟨fun same => lt (same ▸ mem), fun same => gt (same ▸ mem), fun same => quote (same ▸ mem)⟩
  · rw [alone] at mem
    obtain rfl := List.mem_singleton.mp mem
    exact ⟨lt, gt, quote⟩

/-- Escaped text holds no angle bracket and no quote. -/
theorem escape_ne {text : Text} {c : Char} (mem : c ∈ escape text) :
    c ≠ '<' ∧ c ≠ '>' ∧ c ≠ '"' := by
  rw [escape_eq_flatMap] at mem
  obtain ⟨_, _, mem⟩ := List.mem_flatMap.mp mem
  exact escapeChar_ne mem

/-- An ampersand in an escaped character is the first character of an entity. -/
theorem escapeChar_eq_append {c : Char} {before after : Text}
    (h : escapeChar c = before ++ '&' :: after) : before = [] ∧ escapeChar c ∈ entities := by
  rcases escapeChar_cases c with entity | ⟨alone, amp, -⟩
  · have single : ∀ entity ∈ entities, '&' ∉ entity.tail := by decide
    refine ⟨?_, entity⟩
    cases before with
    | nil => rfl
    | cons first before =>
      have no := single _ entity
      rw [h] at no
      exact absurd (List.mem_append_right before List.mem_cons_self) no
  · have mem : '&' ∈ escapeChar c := by
      rw [h]
      exact List.mem_append_right before List.mem_cons_self
    rw [alone] at mem
    exact absurd (List.mem_singleton.mp mem).symm amp

/-- Where every ampersand of a written character begins an entity, so does every ampersand of a
text. -/
theorem exists_entity_of_flatMap {write : Char → Text} {known : List Text}
    (each : ∀ c before after, write c = before ++ '&' :: after → before = [] ∧ write c ∈ known)
    {text before after : Text} (h : text.flatMap write = before ++ '&' :: after) :
    ∃ entity ∈ known, entity <+: '&' :: after := by
  induction text generalizing before with
  | nil => exact absurd h.symm (List.append_ne_nil_of_right_ne_nil _ (List.cons_ne_nil _ _))
  | cons c rest ih =>
    rw [List.flatMap_cons] at h
    obtain ⟨between, rfl, later⟩ | ⟨here, hc, hafter⟩ := List.append_eq_append_iff.mp h
    · exact ih later
    · cases here with
      | nil =>
        have later : rest.flatMap write = [] ++ '&' :: after := hafter.symm
        exact ih later
      | cons first here =>
        obtain ⟨rfl, rfl⟩ := List.cons.inj hafter
        obtain ⟨rfl, entity⟩ := each c _ _ hc
        refine ⟨_, entity, ?_⟩
        rw [hc]
        exact List.prefix_append ('&' :: here) _

/-- **Escaped text is safe.** -/
theorem isSafe_escape (text : Text) : IsSafe (escape text) := by
  refine ⟨fun c mem => escape_ne mem, ?_⟩
  intro before after h
  rw [escape_eq_flatMap] at h
  exact exists_entity_of_flatMap (fun _ _ _ => escapeChar_eq_append) h

end Highlight.Markup
