import Highlight.Markup.Element
import Highlight.Proofs.Markup.Lexeme

/-!
# Attributes

An attribute value is escaped, so it holds neither quotes nor brackets and reads back as the text it
was (`unescape_escapeAttribute`). What stands between the brackets of an opening tag is the name of
the element and its attributes, and it is read as these (`startTag?_tagText`): no value can close
its attribute or begin another.
-/

namespace Highlight.Markup

/-! ## Values -/

theorem escapeAttributeChar_of_ne {c : Char} (h : c ≠ '\'') :
    escapeAttributeChar c = escapeChar c := by
  unfold escapeAttributeChar
  split
  · contradiction
  · rfl

/-- An escaped character reads back as the character, in a value too. -/
theorem unescape_escapeAttributeChar (c : Char) (rest : Text) :
    unescape (escapeAttributeChar c ++ rest) = c :: unescape rest := by
  by_cases apostrophe : c = '\''
  · subst apostrophe; rfl
  rw [escapeAttributeChar_of_ne apostrophe]
  exact unescape_escapeChar c rest

/-- **A value reads back as the text it was.** -/
@[simp] theorem unescape_escapeAttribute (text : Text) :
    unescape (escapeAttribute text) = text := by
  induction text with
  | nil => rfl
  | cons c rest ih =>
    simp only [escapeAttribute, List.flatMap_cons, unescape_escapeAttributeChar]
    exact congrArg (c :: ·) ih

/-- A value holds no bracket and no quote of either kind. -/
theorem escapeAttribute_ne {text : Text} {c : Char} (mem : c ∈ escapeAttribute text) :
    c ≠ '<' ∧ c ≠ '>' ∧ c ≠ '"' ∧ c ≠ '\'' := by
  obtain ⟨d, _, mem⟩ := List.mem_flatMap.mp mem
  by_cases apostrophe : d = '\''
  · subst apostrophe
    have entity : ∀ c ∈ escapeAttributeChar '\'', c ≠ '<' ∧ c ≠ '>' ∧ c ≠ '"' ∧ c ≠ '\'' := by
      decide
    exact entity c mem
  · rw [escapeAttributeChar_of_ne apostrophe] at mem
    obtain ⟨lt, gt, quote⟩ := escapeChar_ne mem
    refine ⟨lt, gt, quote, ?_⟩
    rcases escapeChar_cases d with entity | ⟨alone, -⟩
    · have plain : ∀ entity ∈ entities, '\'' ∉ entity := by decide
      exact fun same => plain _ entity (same ▸ mem)
    · rw [alone] at mem
      exact List.mem_singleton.mp mem ▸ apostrophe

theorem not_mem_escapeAttribute (text : Text) : '<' ∉ escapeAttribute text :=
  fun mem => (escapeAttribute_ne mem).1 rfl

/-- A class is its own value. -/
theorem escapeAttribute_of_isClassPrefix {name : Text}
    (h : Config.isClassPrefix name = true) : escapeAttribute name = name := by
  induction name with
  | nil => rfl
  | cons c rest ih =>
    rw [Config.isClassPrefix, List.all_cons, Bool.and_eq_true] at h
    have plain : ∀ d : Char, d ∈ ("&<>\"'" : Text) → d ≠ c := by
      rintro d mem rfl
      have none : ∀ d ∈ ("&<>\"'" : Text), Config.isClassPrefix [d] = false := by decide
      have here := none d mem
      rw [Config.isClassPrefix, List.all_cons, h.1] at here
      cases here
    have alone : escapeAttributeChar c = [c] := by
      rw [escapeAttributeChar_of_ne (plain '\'' (by decide)).symm]
      exact escapeChar_of_ne (plain '&' (by decide)).symm (plain '<' (by decide)).symm
        (plain '>' (by decide)).symm (plain '"' (by decide)).symm
    rw [escapeAttribute, List.flatMap_cons, alone, List.singleton_append]
    exact congrArg (c :: ·) (ih h.2)

/-! ## Reading a tag -/

/-- Whether a character may stand in the name of an element or of an attribute. -/
def isNameChar (c : Char) : Bool := c.isAlphanum || c == '-'

/-- The name of an element or of an attribute. -/
structure Name where
  text : Text
  nonempty : text ≠ [] := by decide
  each : ∀ c ∈ text, isNameChar c = true := by decide

/-- A text as a name, if it can be one. -/
def Name.of? (text : Text) : Option Name :=
  if h : text ≠ [] ∧ ∀ c ∈ text, isNameChar c = true then some ⟨text, h.1, h.2⟩ else none

/-- An attribute, with the text that its value stands for. -/
structure Attribute where
  name : Name
  value : Text

/-- An attribute as it is written. -/
def Attribute.text (a : Attribute) : Text := quoted a.name.text a.value

/-- How far the reading of attributes has come. -/
inductive InAttributes where
  | between
  | name (sofar : Text)
  | equals (name : Name)
  | value (name : Name) (sofar : Text)

/-- The attributes in a tag, each behind one blank and with its value in double quotes. -/
def attributesFrom : InAttributes → Text → Option (List Attribute)
  | .between, [] => some []
  | _, [] => none
  | .between, c :: rest => if c = ' ' then attributesFrom (.name []) rest else none
  | .name sofar, c :: rest =>
    if c = '=' then (Name.of? sofar).bind fun name => attributesFrom (.equals name) rest
    else attributesFrom (.name (sofar ++ [c])) rest
  | .equals name, c :: rest => if c = '"' then attributesFrom (.value name []) rest else none
  | .value name sofar, c :: rest =>
    if c = '"' then (attributesFrom .between rest).map (⟨name, unescape sofar⟩ :: ·)
    else attributesFrom (.value name (sofar ++ [c])) rest

/-- The name of an element and its attributes, from what stands in its opening tag. -/
def startTag? (inside : Text) : Option (Name × List Attribute) :=
  (Name.of? (inside.takeWhile isNameChar)).bind fun name =>
    (attributesFrom .between (inside.dropWhile isNameChar)).map fun attributes => (name, attributes)

/-- What stands in the opening tag of an element. -/
def tagText (tag : Name) (attributes : List Attribute) : Text :=
  tag.text ++ attributes.flatMap Attribute.text

@[simp] theorem Name.of?_text (name : Name) : Name.of? name.text = some name :=
  dif_pos ⟨name.nonempty, name.each⟩

theorem Name.not_mem (name : Name) {c : Char} (differs : isNameChar c = false) :
    c ∉ name.text := by
  intro mem
  rw [name.each c mem] at differs
  cases differs

theorem attributesFrom_name {text : Text} (plain : '=' ∉ text) (sofar rest : Text) :
    attributesFrom (.name sofar) (text ++ '=' :: rest) =
      (Name.of? (sofar ++ text)).bind fun name => attributesFrom (.equals name) rest :=
  collects (fun sofar => attributesFrom (.name sofar))
    (fun sofar rest => (Name.of? sofar).bind fun name => attributesFrom (.equals name) rest)
    (fun _ _ _ => rfl) plain sofar rest

theorem attributesFrom_value {value : Text} (plain : '"' ∉ value) (name : Name)
    (sofar rest : Text) : attributesFrom (.value name sofar) (value ++ '"' :: rest) =
      (attributesFrom .between rest).map (⟨name, unescape (sofar ++ value)⟩ :: ·) :=
  collects (fun sofar => attributesFrom (.value name sofar))
    (fun sofar rest => (attributesFrom .between rest).map (⟨name, unescape sofar⟩ :: ·))
    (fun _ _ _ => rfl) plain sofar rest

/-- **An attribute is read as its name and the text of its value**, whatever that is. -/
theorem attributesFrom_text (a : Attribute) (rest : Text) :
    attributesFrom .between (a.text ++ rest) = (attributesFrom .between rest).map (a :: ·) := by
  have whole : a.text ++ rest =
      ' ' :: (a.name.text ++ '=' :: '"' :: (escapeAttribute a.value ++ '"' :: rest)) := by
    simp [Attribute.text, quoted]
  have name : '=' ∉ a.name.text := a.name.not_mem (by decide)
  have value : '"' ∉ escapeAttribute a.value := fun mem => (escapeAttribute_ne mem).2.2.1 rfl
  rw [whole, attributesFrom, if_pos rfl, attributesFrom_name name, List.nil_append, Name.of?_text,
    Option.bind_some, attributesFrom, if_pos rfl, attributesFrom_value value, List.nil_append,
    unescape_escapeAttribute]

theorem attributesFrom_flatMap_text (attributes : List Attribute) :
    attributesFrom .between (attributes.flatMap Attribute.text) = some attributes := by
  induction attributes with
  | nil => rfl
  | cons a attributes ih =>
    rw [List.flatMap_cons, attributesFrom_text, ih]
    rfl

/-- **An opening tag is read as what was written in it.** -/
theorem startTag?_tagText (tag : Name) (attributes : List Attribute) :
    startTag? (tagText tag attributes) = some (tag, attributes) := by
  -- a blank ends the name, or the tag does
  have blank : (attributes.flatMap Attribute.text).takeWhile isNameChar = [] ∧
      (attributes.flatMap Attribute.text).dropWhile isNameChar =
        attributes.flatMap Attribute.text := by
    cases attributes <;> exact ⟨rfl, rfl⟩
  have name : (tagText tag attributes).takeWhile isNameChar = tag.text := by
    rw [tagText, List.takeWhile_append_of_pos tag.each, blank.1, List.append_nil]
  have others : (tagText tag attributes).dropWhile isNameChar =
      attributes.flatMap Attribute.text := by
    rw [tagText, List.dropWhile_append_of_pos tag.each, blank.2]
  rw [startTag?, name, others, Name.of?_text, attributesFrom_flatMap_text]
  rfl

/-- No closing bracket stands in an opening tag. -/
theorem not_mem_tagText (tag : Name) (attributes : List Attribute) :
    '>' ∉ tagText tag attributes := by
  have written : ∀ a ∈ attributes, '>' ∉ a.text := by
    intro a _
    have name : '>' ∉ a.name.text := a.name.not_mem (by decide)
    have value : '>' ∉ escapeAttribute a.value := fun mem => (escapeAttribute_ne mem).2.1 rfl
    simp [Attribute.text, quoted, name, value]
  rw [tagText, List.mem_append, not_or]
  refine ⟨tag.not_mem (by decide), fun mem => ?_⟩
  obtain ⟨a, here, mem⟩ := List.mem_flatMap.mp mem
  exact written a here mem

end Highlight.Markup
