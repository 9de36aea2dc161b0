import Highlight.Proofs.Markup.Attribute

/-!
# Elements of markup

Markup is read as a forest: characters, and elements with their attributes and with what stands
between their tags. The reading goes from lexeme to lexeme and keeps the elements that are open. It
fails where a tag closes another element than the innermost, where an opening tag is none, and where
an element is left open.

A forest is read back from its lexemes, wherever they stand (`run_lexemesOf`). So markup with these
lexemes is read as the forest (`Reads.forest_eq`), and the lexemes of larger markup are put together
from those of its parts (`Reads.element`, `Marks.exists_nodes`).
-/

namespace Highlight.Markup

/-- A character, or an element: its name, its attributes and what is between its tags. -/
inductive Node where
  | char (c : Char)
  | element (tag : Name) (attributes : List Attribute) (content : List Node)

mutual

/-- A node as it is written. -/
def Node.lexemes : Node → List Lexeme
  | .char c => [.char c]
  | .element tag attributes content =>
    .tag (tagText tag attributes) :: (lexemesOf content ++ [.tag ('/' :: tag.text)])

/-- A forest as it is written. -/
def lexemesOf : List Node → List Lexeme
  | [] => []
  | node :: rest => node.lexemes ++ lexemesOf rest

end

mutual

/-- What is left of a node without its tags. -/
def Node.text : Node → Text
  | .char c => [c]
  | .element _ _ content => textOf content

/-- What is left of a forest without its tags. -/
def textOf : List Node → Text
  | [] => []
  | node :: rest => node.text ++ textOf rest

end

@[simp] theorem lexemesOf_append (nodes more : List Node) :
    lexemesOf (nodes ++ more) = lexemesOf nodes ++ lexemesOf more := by
  induction nodes with
  | nil => rfl
  | cons node nodes ih => rw [List.cons_append, lexemesOf, ih, lexemesOf, List.append_assoc]

@[simp] theorem lexemesOf_chars (text : Text) :
    lexemesOf (text.map .char) = text.map .char := by
  induction text with
  | nil => rfl
  | cons c text ih => exact congrArg (.char c :: ·) ih

@[simp] theorem textOf_chars (text : Text) : textOf (text.map .char) = text := by
  induction text with
  | nil => rfl
  | cons c text ih => exact congrArg (c :: ·) ih

/-! ## Reading elements -/

/-- An element whose content is being read. -/
structure OpenElement where
  tag : Name
  attributes : List Attribute
  /-- What stands before it in the element around it. -/
  before : List Node

/-- How far the reading of elements has come. -/
structure Reading where
  /-- The elements that are open, the innermost first. -/
  opened : List OpenElement
  /-- What has been read of the content of the innermost. -/
  sofar : List Node

namespace Reading

/-- More is read of the content of the innermost element. -/
def grow (r : Reading) (nodes : List Node) : Reading := { r with sofar := r.sofar ++ nodes }

/-- Opens an element, given by what stands in its tag. -/
def open? (r : Reading) (inside : Text) : Option Reading :=
  (startTag? inside).map fun (tag, attributes) => ⟨⟨tag, attributes, r.sofar⟩ :: r.opened, []⟩

/-- Closes the innermost element, if it has this name. -/
def close? (r : Reading) (name : Text) : Option Reading :=
  match r.opened with
  | [] => none
  | innermost :: outer =>
    if name = innermost.tag.text then
      some ⟨outer, innermost.before ++ [.element innermost.tag innermost.attributes r.sofar]⟩
    else none

/-- One lexeme: a tag closes an element if it begins with a slash, and opens one otherwise. -/
def step (r : Reading) : Lexeme → Option Reading
  | .char c => some (r.grow [.char c])
  | .tag ('/' :: name) => r.close? name
  | .tag inside => r.open? inside

/-- Lexemes one after another. -/
def run (r : Reading) (read : List Lexeme) : Option Reading := read.foldlM step r

end Reading

/-- The forest that markup is, if all its elements are closed. -/
def forest (markup : Text) : Option (List Node) :=
  (Reading.run ⟨[], []⟩ (lexemes markup)).bind fun r =>
    if r.opened.isEmpty then some r.sofar else none

namespace Reading

variable {r : Reading}

theorem grow_append (nodes more : List Node) : r.grow (nodes ++ more) = (r.grow nodes).grow more :=
  congrArg (Reading.mk r.opened) (List.append_assoc _ _ _).symm

@[simp] theorem grow_nil (r : Reading) : r.grow [] = r :=
  congrArg (Reading.mk r.opened) (List.append_nil _)

theorem run_append (r : Reading) (read more : List Lexeme) :
    r.run (read ++ more) = (r.run read).bind fun r => r.run more :=
  List.foldlM_append

theorem step_start (r : Reading) (tag : Name) (attributes : List Attribute) :
    r.step (.tag (tagText tag attributes)) =
      some ⟨⟨tag, attributes, r.sofar⟩ :: r.opened, []⟩ := by
  have opens : r.open? (tagText tag attributes) =
      some ⟨⟨tag, attributes, r.sofar⟩ :: r.opened, []⟩ := by
    rw [open?, startTag?_tagText]
    rfl
  -- the name is there, and it does not begin with a slash
  obtain ⟨c, rest, named⟩ := List.exists_cons_of_ne_nil tag.nonempty
  have differs : c ≠ '/' := by
    rintro rfl
    exact tag.not_mem (by decide) (named ▸ List.mem_cons_self)
  rw [← opens, tagText, named, List.cons_append]
  unfold step
  split
  · next h => cases h
  · next h => exact absurd (List.cons.inj (Lexeme.tag.inj h)).1 differs
  · next h => rw [Lexeme.tag.inj h]

theorem step_end (outer : List OpenElement) (innermost : OpenElement) (sofar : List Node) :
    (⟨innermost :: outer, sofar⟩ : Reading).step (.tag ('/' :: innermost.tag.text)) =
      some ⟨outer, innermost.before ++ [.element innermost.tag innermost.attributes sofar]⟩ :=
  if_pos rfl

mutual

/-- A node is read from its lexemes. -/
theorem run_lexemes : ∀ (node : Node) (r : Reading), r.run node.lexemes = some (r.grow [node])
  | .char c, r => rfl
  | .element tag attributes content, r => by
    have inner := run_lexemesOf content ⟨⟨tag, attributes, r.sofar⟩ :: r.opened, []⟩
    have start : r.run (Node.element tag attributes content).lexemes =
        Reading.run ⟨⟨tag, attributes, r.sofar⟩ :: r.opened, []⟩
          (lexemesOf content ++ [.tag ('/' :: tag.text)]) := by
      rw [Node.lexemes, run, List.foldlM_cons, step_start]
      rfl
    rw [start, run_append, inner, Option.bind_some, run, List.foldlM_cons]
    exact congrArg (·.bind fun r => some r) (step_end r.opened ⟨tag, attributes, r.sofar⟩ content)

/-- **A forest is read from its lexemes**, whatever has been read before. -/
theorem run_lexemesOf : ∀ (nodes : List Node) (r : Reading),
    r.run (lexemesOf nodes) = some (r.grow nodes)
  | [], r => congrArg some r.grow_nil.symm
  | node :: rest, r => by
    rw [lexemesOf, run_append, run_lexemes node r, Option.bind_some, run_lexemesOf rest,
      ← grow_append]
    rfl

end

end Reading

/-- Markup that is read as the lexemes of a forest is that forest. -/
theorem Reads.forest_eq {markup : Text} {nodes : List Node} (h : Reads markup (lexemesOf nodes)) :
    forest markup = some nodes := by
  rw [forest, h.lexemes_eq, Reading.run_lexemesOf]
  rfl

/-! ## Elements in markup -/

variable {classPrefix name content : Text}

/-- Text without an opening bracket is read as its characters. -/
theorem reads_text {text : Text} (plain : '<' ∉ text) :
    Reads text (lexemesOf (text.map .char)) := by
  rw [lexemesOf_chars]
  exact reads_chars plain

theorem Reads.append_nodes {a b : Text} {nodes more : List Node} (ha : Reads a (lexemesOf nodes))
    (hb : Reads b (lexemesOf more)) : Reads (a ++ b) (lexemesOf (nodes ++ more)) := by
  rw [lexemesOf_append]
  exact ha.append hb

/-- The attribute for a class. -/
def classAttribute (value : Text) : Attribute := ⟨.mk "class", value⟩

theorem reads_endTag (tag : Name) : Reads (closing tag.text) [.tag ('/' :: tag.text)] := by
  have plain : '>' ∉ '/' :: tag.text :=
    List.not_mem_cons_of_ne_of_not_mem (by decide) (tag.not_mem (by decide))
  have whole : closing tag.text = '<' :: ('/' :: tag.text ++ ['>']) := by simp [closing]
  exact whole ▸ reads_tag plain

theorem reads_startTag (tag : Name) (attributes : List Attribute)
    (named : Config.isClassPrefix (classPrefix ++ name) = true) :
    Reads (opening tag.text classPrefix name (attributes.flatMap Attribute.text))
      [.tag (tagText tag (classAttribute (classPrefix ++ name) :: attributes))] := by
  have whole : opening tag.text classPrefix name (attributes.flatMap Attribute.text) =
      '<' :: (tagText tag (classAttribute (classPrefix ++ name) :: attributes) ++ ['>']) := by
    simp [opening, tagText, classAttribute, Attribute.text, quoted,
      escapeAttribute_of_isClassPrefix named]
  exact whole ▸ reads_tag (not_mem_tagText _ _)

/-- **An element is read as what it was made of**, its class among the attributes. -/
theorem Reads.element {nodes : List Node} (tag : Name) (attributes : List Attribute)
    (named : Config.isClassPrefix (classPrefix ++ name) = true)
    (h : Reads content (lexemesOf nodes)) :
    Reads (element tag.text classPrefix name (attributes.flatMap Attribute.text) content)
      (lexemesOf [.element tag (classAttribute (classPrefix ++ name) :: attributes) nodes]) := by
  have whole := ((reads_startTag tag attributes named).append h).append (reads_endTag tag)
  rw [lexemesOf, lexemesOf, Node.lexemes, List.append_nil]
  exact whole

/-- The tag that opens a span says nothing but its class. -/
theorem Lexeme.eq_of_spanClass? {start : Lexeme} {value : Text}
    (starts : start.spanClass? = some value)
    (named : Config.isClassPrefix value = true) :
    start = .tag (tagText (.mk "span") [classAttribute value]) := by
  cases start with
  | char c => cases starts
  | tag inside =>
    obtain ⟨behind, opens, starts⟩ := Option.bind_eq_some_iff.mp starts
    obtain ⟨⟨front, back⟩, split, starts⟩ := Option.bind_eq_some_iff.mp starts
    have ends : back.isEmpty = true ∧ front = value := by simpa using starts
    have whole : inside = ("span class=\"" : Text) ++ (front ++ ['"']) := by
      rw [← List.isPrefixOf?_eq_some_iff_append_eq.mp opens, (Text.eq_of_splitOnce? split).1,
        List.isEmpty_iff.mp ends.1]
    rw [whole, ends.2]
    simp [tagText, classAttribute, Attribute.text, quoted, escapeAttribute_of_isClassPrefix named]

/-- Wrapped text is a forest whose text it is. -/
theorem Wrapped.exists_nodes {read : List Lexeme} {text : Text}
    (named : Config.isClassPrefix classPrefix = true) (h : Wrapped classPrefix read text) :
    ∃ nodes, lexemesOf nodes = read ∧ textOf nodes = text := by
  induction h with
  | nil => exact ⟨[], rfl, rfl⟩
  | char c _ ih =>
    obtain ⟨nodes, rfl, rfl⟩ := ih
    exact ⟨.char c :: nodes, rfl, rfl⟩
  | @span name _ _ _ _ _ mem starts _ _ inner after =>
    obtain ⟨inside, rfl, rfl⟩ := inner
    obtain ⟨nodes, rfl, rfl⟩ := after
    obtain rfl := Lexeme.eq_of_spanClass? starts
      (isClassPrefix_append named (isClassPrefix_of_mem_spanNames mem))
    refine ⟨.element (.mk "span") [classAttribute (classPrefix ++ name)] inside :: nodes, ?_, ?_⟩
    · rw [lexemesOf, Node.lexemes, List.cons_append, List.append_assoc]
      rfl
    · rw [textOf, Node.text]

/-- Marked text is read as a forest whose text it is. -/
theorem Marks.exists_nodes {markup text : Text}
    (named : Config.isClassPrefix classPrefix = true) (h : Marks classPrefix markup text) :
    ∃ nodes, Reads markup (lexemesOf nodes) ∧ textOf nodes = text := by
  obtain ⟨read, reads, wrapped⟩ := h
  obtain ⟨nodes, rfl, text⟩ := wrapped.exists_nodes named
  exact ⟨nodes, reads, text⟩

end Highlight.Markup
