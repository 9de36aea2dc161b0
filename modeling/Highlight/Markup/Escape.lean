import Highlight.Text.Basic

/-!
# Escaping

Source text as element content and as attribute value. In content the apostrophe stands for itself;
in an attribute it is escaped too, so the value is safe in quotes of either kind. Escaping works
character by character and is not idempotent: a text is escaped once.
-/

namespace Highlight.Markup

/-- The characters that have a meaning of their own in content. -/
def reserved : Text := "&<>\""

/-- A character as element content. -/
def escapeChar : Char → Text
  | '&' => "&amp;"
  | '<' => "&lt;"
  | '>' => "&gt;"
  | '"' => "&quot;"
  | c => [c]

/-- What is written so far, with a text as element content behind it. -/
def escapeInto (out : Array Char) (text : Text) : Array Char :=
  text.foldl (fun out c => out ++ escapeChar c) out

/-- A text as element content. One without reserved characters is taken as it is. -/
def escape (text : Text) : Text :=
  if text.any reserved.contains then (escapeInto #[] text).toList else text

/-- A character as part of an attribute value. -/
def escapeAttributeChar : Char → Text
  | '\'' => "&#039;"
  | c => escapeChar c

/-- A text as attribute value. -/
def escapeAttribute (text : Text) : Text := text.flatMap escapeAttributeChar

/-- A character that is not reserved stands for itself. -/
theorem escapeChar_of_not_reserved {c : Char} (h : reserved.contains c = false) :
    escapeChar c = [c] := by
  unfold escapeChar
  split
  · cases h
  · cases h
  · cases h
  · cases h
  · rfl

/-- Escaping writes the characters one after another, behind what is there. -/
theorem toList_escapeInto (out : Array Char) (text : Text) :
    (escapeInto out text).toList = out.toList ++ text.flatMap escapeChar := by
  induction text generalizing out with
  | nil => exact (List.append_nil _).symm
  | cons c rest ih =>
    have written := ih (out ++ escapeChar c)
    rw [Array.toList_appendList, List.append_assoc] at written
    exact written

/-- A text is escaped character by character, whether anything in it is reserved or not. -/
theorem escape_eq_flatMap (text : Text) : escape text = text.flatMap escapeChar := by
  unfold escape
  split
  · exact toList_escapeInto #[] text
  · next none =>
    have plain : ∀ c ∈ text, escapeChar c = [c] := by
      intro c mem
      refine escapeChar_of_not_reserved (Bool.eq_false_iff.mpr fun reserved => ?_)
      exact none (List.any_eq_true.mpr ⟨c, mem, reserved⟩)
    rw [List.flatMap_def, List.map_congr_left plain, ← List.flatMap_def, List.flatMap_singleton']

theorem escape_cons (c : Char) (rest : Text) : escape (c :: rest) = escapeChar c ++ escape rest := by
  rw [escape_eq_flatMap, escape_eq_flatMap, List.flatMap_cons]

@[simp] theorem escape_append (a b : Text) : escape (a ++ b) = escape a ++ escape b := by
  rw [escape_eq_flatMap, escape_eq_flatMap, escape_eq_flatMap, List.flatMap_append]

@[simp] theorem escapeAttribute_append (a b : Text) :
    escapeAttribute (a ++ b) = escapeAttribute a ++ escapeAttribute b :=
  List.flatMap_append

end Highlight.Markup
