import Highlight.Proofs.Markup.Attribute

/-!
# Escaping can be undone

A text is escaped for content and for attribute values in the same way (`IsEscaping`): some
characters do not get into the markup, ampersands stand in front of entities only, and reading each
entity once gives the text back, also where the text looks like an entity itself. It does not matter
whether a text is escaped on its own, where nothing is done to one without reserved characters, or
is written behind something else (`escape_reversible`).
-/

namespace Highlight.Markup

/-- The entities of attribute values. -/
def attributeEntities : List Text := "&#039;".toList :: entities

/-- Whether texts are written without some characters, with known entities for these and for
ampersands, so that reading the entities undoes it. -/
structure IsEscaping (write : Text → Text) (known : List Text) (barred : Text) : Prop where
  barred : ∀ text, ∀ c ∈ write text, c ∉ barred
  entity : ∀ text before after, write text = before ++ '&' :: after →
    ∃ entity ∈ known, entity <+: '&' :: after
  undone : ∀ text, unescape (write text) = text
  injective : Function.Injective write
  append : ∀ a b, write (a ++ b) = write a ++ write b

/-- An ampersand in a character of a value is the first character of an entity. -/
theorem escapeAttributeChar_eq_append {c : Char} {before after : Text}
    (h : escapeAttributeChar c = before ++ '&' :: after) :
    before = [] ∧ escapeAttributeChar c ∈ attributeEntities := by
  by_cases apostrophe : c = '\''
  · subst apostrophe
    refine ⟨?_, List.mem_cons_self⟩
    cases before with
    | nil => rfl
    | cons first before =>
      have single : '&' ∉ (escapeAttributeChar '\'').tail := by decide
      rw [h] at single
      exact absurd (List.mem_append_right before List.mem_cons_self) single
  · rw [escapeAttributeChar_of_ne apostrophe] at h ⊢
    obtain ⟨first, entity⟩ := escapeChar_eq_append h
    exact ⟨first, List.mem_cons_of_mem _ entity⟩

/-- Content is escaped with four entities. -/
theorem isEscaping_escape : IsEscaping escape entities "<>\"" where
  barred text c mem := by
    obtain ⟨lt, gt, quote⟩ := escape_ne mem
    simp [lt, gt, quote]
  entity text := (isSafe_escape text).2
  undone := unescape_escape
  injective := Function.LeftInverse.injective unescape_escape
  append := escape_append

/-- Values are escaped with a fifth, for the apostrophe. -/
theorem isEscaping_escapeAttribute : IsEscaping escapeAttribute attributeEntities "<>\"'" where
  barred text c mem := by
    obtain ⟨lt, gt, quote, apostrophe⟩ := escapeAttribute_ne mem
    simp [lt, gt, quote, apostrophe]
  entity text _ _ := exists_entity_of_flatMap fun _ _ _ => escapeAttributeChar_eq_append
  undone := unescape_escapeAttribute
  injective := Function.LeftInverse.injective unescape_escapeAttribute
  append := escapeAttribute_append

/-- **Escaping can be undone**, for content and for attribute values. Writing escaped text behind
what is there leaves that as it is, and writes what escaping the text alone gives. -/
theorem escape_reversible :
    (∀ out text, (escapeInto out text).toList = out.toList ++ escape text) ∧
      IsEscaping escape entities "<>\"" ∧
      IsEscaping escapeAttribute attributeEntities "<>\"'" := by
  refine ⟨fun out text => ?_, isEscaping_escape, isEscaping_escapeAttribute⟩
  rw [toList_escapeInto, escape_eq_flatMap]

/-- Text that looks like entities is escaped all the same, and read back as it was. -/
example : escape "&amp;lt; &#039; &" = "&amp;amp;lt; &amp;#039; &amp;".toList ∧
    escapeAttribute "'&#039;'" = "&#039;&amp;#039;&#039;".toList := by
  decide

end Highlight.Markup
