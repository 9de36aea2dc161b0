import Highlight.Config
import Highlight.Markup.Query
import Highlight.Proofs.Markup.Entity
import Highlight.Proofs.Text.Split
import Mathlib.Data.List.Basic

/-!
# Reading markup

Markup is read as tags and single characters, and of the tags those are told apart that open or
close a span of a highlighter: the others, and whatever is no tag, are content
(`withoutSpans`). Nesting is counted on the same reading (`isNested`).

The reading is undone by writing its lexemes one after another (`flatMap_text_lexemes`), so taking
tags out of it is taking them out of the markup. Markup that was put together from text and spans
is read as it was put together: `Marks` says so of a piece of markup, whatever stands behind it, and
`Wrapped` is the structure over which everything else is proved.
-/

namespace Highlight.Markup

/-- A tag of markup, given by what stands between its brackets, or a single character. -/
inductive Lexeme where
  | char (c : Char)
  | tag (inside : Text)
  deriving DecidableEq, Repr

/-- The names that end the class of a highlighter's span. -/
def spanNames : List Text :=
  TokenType.all.map TokenType.name ++
    [QueryPart.mark, .key, .equals, .value, .separator].map QueryPart.name

namespace Lexeme

/-- The markup of a lexeme. -/
def text : Lexeme → Text
  | char c => [c]
  | tag inside => '<' :: (inside ++ ['>'])

/-- The class of the span that a tag opens, if it opens one and says nothing else. -/
def spanClass? : Lexeme → Option Text
  | char _ => none
  | tag inside => do
    let value ← Text.splitOnce? '"' (← ("span class=\"" : Text).isPrefixOf? inside)
    if value.2.isEmpty then some value.1 else none

/-- Whether a tag opens a span of a highlighter. -/
def opensSpan (classPrefix : Text) (lexeme : Lexeme) : Bool :=
  spanNames.any fun name => lexeme.spanClass? == some (classPrefix ++ name)

/-- Whether a tag closes a span. -/
def closesSpan (lexeme : Lexeme) : Bool := lexeme == tag "/span"

end Lexeme

/-- The lexemes of markup; with `some inside` the reading has come so far in a tag. A tag that is
not closed is no tag. -/
def lexemesFrom : Option Text → Text → List Lexeme
  | none, [] => []
  | some inside, [] => ('<' :: inside).map .char
  | none, c :: rest =>
    if c = '<' then lexemesFrom (some []) rest else .char c :: lexemesFrom none rest
  | some inside, c :: rest =>
    if c = '>' then .tag inside :: lexemesFrom none rest
    else lexemesFrom (some (inside ++ [c])) rest

/-- The lexemes of markup. -/
def lexemes (markup : Text) : List Lexeme := lexemesFrom none markup

/-- Markup without the tags that open and close a highlighter's spans. -/
def withoutSpans (classPrefix markup : Text) : Text :=
  ((lexemes markup).filter fun lexeme =>
    !(lexeme.opensSpan classPrefix || lexeme.closesSpan)).flatMap Lexeme.text

/-- Whether the spans of a highlighter are nested, with some of them open: each is closed after it
was opened, and nothing is closed that is not open. -/
def isNested (classPrefix : Text) : Nat → List Lexeme → Bool
  | depth, [] => depth == 0
  | depth, lexeme :: rest =>
    if lexeme.opensSpan classPrefix then isNested classPrefix (depth + 1) rest
    else if lexeme.closesSpan then 0 < depth && isNested classPrefix (depth - 1) rest
    else isNested classPrefix depth rest

/-! ## Reading what was written -/

theorem flatMap_text_chars (chars : Text) :
    (chars.map Lexeme.char).flatMap Lexeme.text = chars := by
  induction chars with
  | nil => rfl
  | cons c rest ih => exact congrArg (c :: ·) ih

/-- **Reading loses nothing**: the lexemes one after another are the markup. -/
theorem flatMap_text_lexemes (markup : Text) : (lexemes markup).flatMap Lexeme.text = markup := by
  suffices ∀ state, (lexemesFrom state markup).flatMap Lexeme.text =
      (state.elim [] fun inside => '<' :: inside) ++ markup from this none
  induction markup with
  | nil =>
    intro state
    cases state with
    | none => rfl
    | some inside => exact (flatMap_text_chars _).trans (List.append_nil _).symm
  | cons c rest ih =>
    intro state
    cases state with
    | none =>
      simp only [lexemesFrom]
      split
      · next bracket => rw [ih, bracket]; rfl
      · rw [List.flatMap_cons, ih]; rfl
    | some inside =>
      simp only [lexemesFrom]
      split
      · next bracket => simp [ih, bracket, Lexeme.text]
      · simp [ih]

/-- The lexemes of a piece of markup, whatever stands behind it. -/
def Reads (markup : Text) (read : List Lexeme) : Prop :=
  ∀ rest, lexemes (markup ++ rest) = read ++ lexemes rest

theorem Reads.lexemes_eq {markup : Text} {read : List Lexeme} (h : Reads markup read) :
    lexemes markup = read := by
  have whole := h []
  rwa [List.append_nil, show lexemes [] = [] from rfl, List.append_nil] at whole

theorem Reads.append {a b : Text} {left right : List Lexeme} (ha : Reads a left)
    (hb : Reads b right) : Reads (a ++ b) (left ++ right) := by
  intro rest
  rw [List.append_assoc, ha, hb, List.append_assoc]

/-- Text without an opening bracket is read as its characters. -/
theorem reads_chars {text : Text} (plain : '<' ∉ text) : Reads text (text.map .char) := by
  intro rest
  induction text with
  | nil => rfl
  | cons c text ih =>
    obtain ⟨first, others⟩ := List.ne_and_not_mem_of_not_mem_cons plain
    simp only [List.cons_append, lexemes, lexemesFrom, if_neg first.symm]
    exact congrArg (.char c :: ·) (ih others)

/-- A reading that collects characters up to a mark collects a text without the mark. -/
theorem collects {α : Type} {mark : Char} (collect done : Text → Text → α)
    (step : ∀ sofar c rest, collect sofar (c :: rest) =
      if c = mark then done sofar rest else collect (sofar ++ [c]) rest)
    {text : Text} (plain : mark ∉ text) (sofar rest : Text) :
    collect sofar (text ++ mark :: rest) = done (sofar ++ text) rest := by
  induction text generalizing sofar with
  | nil => rw [List.nil_append, step, if_pos rfl, List.append_nil]
  | cons c text ih =>
    obtain ⟨first, others⟩ := List.ne_and_not_mem_of_not_mem_cons plain
    rw [List.cons_append, step, if_neg first.symm, ih others, List.append_assoc,
      List.singleton_append]

/-- A tag without a closing bracket inside is read as a tag. -/
theorem reads_tag {inside : Text} (plain : '>' ∉ inside) :
    Reads ('<' :: (inside ++ ['>'])) [.tag inside] := by
  intro rest
  rw [List.cons_append, List.append_assoc]
  exact collects (fun sofar => lexemesFrom (some sofar))
    (fun sofar rest => .tag sofar :: lexemes rest) (fun _ _ _ => rfl) plain [] rest

/-! ## Text in spans -/

/-- Lexemes that are a text with spans of a highlighter around parts of it. -/
inductive Wrapped (classPrefix : Text) : List Lexeme → Text → Prop
  | nil : Wrapped classPrefix [] []
  | char (c : Char) {rest : List Lexeme} {text : Text} : Wrapped classPrefix rest text →
      Wrapped classPrefix (.char c :: rest) (c :: text)
  | span {name : Text} {start : Lexeme} {inner rest : List Lexeme} {inside text : Text} :
      name ∈ spanNames → start.spanClass? = some (classPrefix ++ name) →
      Wrapped classPrefix inner inside → Wrapped classPrefix rest text →
      Wrapped classPrefix (start :: (inner ++ .tag "/span" :: rest)) (inside ++ text)

namespace Wrapped

variable {classPrefix : Text} {read : List Lexeme} {text : Text}

theorem append {more : List Lexeme} {other : Text} (h : Wrapped classPrefix read text)
    (h' : Wrapped classPrefix more other) : Wrapped classPrefix (read ++ more) (text ++ other) := by
  induction h with
  | nil => exact h'
  | char c _ ih => exact .char c ih
  | span mem starts inner _ _ ih =>
    rw [List.cons_append, List.append_assoc, List.append_assoc]
    exact .span mem starts inner ih

theorem chars (classPrefix text : Text) : Wrapped classPrefix (text.map .char) text := by
  induction text with
  | nil => exact .nil
  | cons c rest ih => exact .char c ih

theorem opensSpan_eq_true {name : Text} {start : Lexeme} (mem : name ∈ spanNames)
    (starts : start.spanClass? = some (classPrefix ++ name)) :
    start.opensSpan classPrefix = true :=
  List.any_eq_true.mpr ⟨name, mem, beq_iff_eq.mpr starts⟩

theorem opensSpan_char (classPrefix : Text) (c : Char) :
    (Lexeme.char c).opensSpan classPrefix = false :=
  List.any_eq_false.mpr fun _ _ => Bool.false_ne_true

theorem opensSpan_end (classPrefix : Text) :
    (Lexeme.tag "/span").opensSpan classPrefix = false :=
  List.any_eq_false.mpr fun _ _ => Bool.false_ne_true

/-- Without its spans, wrapped text is the text. -/
theorem filter_eq (h : Wrapped classPrefix read text) :
    (read.filter fun lexeme => !(lexeme.opensSpan classPrefix || lexeme.closesSpan)) =
      text.map .char := by
  induction h with
  | nil => rfl
  | char c _ ih =>
    rw [List.filter_cons_of_pos (by rw [opensSpan_char]; rfl), ih]
    rfl
  | span mem starts _ _ inner rest =>
    rw [List.filter_cons_of_neg (by simp [opensSpan_eq_true mem starts]),
      List.filter_append, List.filter_cons_of_neg (by rw [opensSpan_end]; decide), inner, rest,
      List.map_append]

/-- The spans of wrapped text are nested, wherever it stands. -/
theorem isNested_append (h : Wrapped classPrefix read text) (depth : Nat) (rest : List Lexeme) :
    isNested classPrefix depth (read ++ rest) = isNested classPrefix depth rest := by
  induction h generalizing depth rest with
  | nil => rfl
  | char c _ ih =>
    simp only [List.cons_append, isNested, opensSpan_char]
    exact ih depth rest
  | span mem starts _ _ inner after =>
    simp only [List.cons_append, isNested, if_pos (opensSpan_eq_true mem starts), List.append_assoc,
      inner, opensSpan_end]
    exact after depth rest

end Wrapped

/-- Whether markup is a text with spans of a highlighter around parts of it. -/
def Marks (classPrefix markup text : Text) : Prop :=
  ∃ read, Reads markup read ∧ Wrapped classPrefix read text

namespace Marks

variable {classPrefix markup text : Text}

theorem append {a b left right : Text} (h : Marks classPrefix a left)
    (h' : Marks classPrefix b right) : Marks classPrefix (a ++ b) (left ++ right) := by
  obtain ⟨_, reads, wrapped⟩ := h
  obtain ⟨_, reads', wrapped'⟩ := h'
  exact ⟨_, reads.append reads', wrapped.append wrapped'⟩

theorem chars (classPrefix : Text) (plain : '<' ∉ text) : Marks classPrefix text text :=
  ⟨_, reads_chars plain, .chars classPrefix text⟩

/-- Without its spans, marked text is the text. -/
theorem withoutSpans_eq (h : Marks classPrefix markup text) :
    withoutSpans classPrefix markup = text := by
  obtain ⟨read, reads, wrapped⟩ := h
  simp only [withoutSpans, reads.lexemes_eq, wrapped.filter_eq, flatMap_text_chars]

/-- The spans of marked text are nested. -/
theorem isNested_lexemes (h : Marks classPrefix markup text) :
    isNested classPrefix 0 (lexemes markup) = true := by
  obtain ⟨read, reads, wrapped⟩ := h
  have nested := wrapped.isNested_append 0 []
  rw [List.append_nil] at nested
  rw [reads.lexemes_eq, nested]
  rfl

end Marks

/-! ## The spans of a highlighter -/

/-- What the characters of a class are not. -/
theorem not_mem_of_isClassPrefix {name : Text} (h : Config.isClassPrefix name = true) :
    '"' ∉ name ∧ '>' ∉ name := by
  have each := List.all_eq_true.mp h
  exact ⟨fun mem => absurd (each _ mem) (by decide), fun mem => absurd (each _ mem) (by decide)⟩

theorem isClassPrefix_append {a b : Text} (ha : Config.isClassPrefix a = true)
    (hb : Config.isClassPrefix b = true) : Config.isClassPrefix (a ++ b) = true := by
  simp only [Config.isClassPrefix, List.all_append]
  exact Bool.and_eq_true_iff.mpr ⟨ha, hb⟩

/-- The names of spans may stand in a class. -/
theorem isClassPrefix_of_mem_spanNames {name : Text} (mem : name ∈ spanNames) :
    Config.isClassPrefix name = true := by
  have all : ∀ name ∈ spanNames, Config.isClassPrefix name = true := by decide
  exact all name mem

/-- What stands between the brackets of the tag that opens a span. -/
def spanTag (name : Text) : Text := ("span class=\"" : Text) ++ name ++ ['"']

/-- The opening tag of a span is read as a tag with the class of the span. -/
theorem spanClass?_spanTag {name : Text} (h : Config.isClassPrefix name = true) :
    (Lexeme.tag (spanTag name)).spanClass? = some name := by
  have front : ("span class=\"" : Text).isPrefixOf? (spanTag name) = some (name ++ ['"']) :=
    List.isPrefixOf?_eq_some_iff_append_eq.mpr (List.append_assoc _ _ _).symm
  simp only [Lexeme.spanClass?, front]
  dsimp only [bind, Option.bind]
  rw [Text.splitOnce?_append (not_mem_of_isClassPrefix h).1]
  rfl

theorem reads_spanTag {name : Text} (h : Config.isClassPrefix name = true) :
    Reads ('<' :: (spanTag name ++ ['>'])) [.tag (spanTag name)] := by
  refine reads_tag ?_
  intro mem
  unfold spanTag at mem
  rcases List.mem_append.mp mem with mem | mem
  · rcases List.mem_append.mp mem with mem | mem
    · exact absurd mem (by decide)
    · exact (not_mem_of_isClassPrefix h).2 mem
  · exact absurd mem (by decide)

theorem reads_spanEnd : Reads "</span>" [.tag "/span"] :=
  have plain : '>' ∉ ("/span" : Text) := by decide
  reads_tag plain

/-- A span in markup: its tags and what is between them. -/
theorem span_eq (classPrefix name content : Text) : span classPrefix name content =
    ('<' :: (spanTag (classPrefix ++ name) ++ ['>'])) ++ (content ++ ("</span>" : Text)) := by
  unfold span element opening closing spanTag
  simp

/-- The lexemes of a span. -/
theorem Reads.span {classPrefix name content : Text} {read : List Lexeme}
    (named : Config.isClassPrefix classPrefix = true) (mem : name ∈ spanNames)
    (h : Reads content read) : Reads (span classPrefix name content)
      (.tag (spanTag (classPrefix ++ name)) :: (read ++ [.tag "/span"])) := by
  have hname := isClassPrefix_append named (isClassPrefix_of_mem_spanNames mem)
  rw [span_eq]
  exact (reads_spanTag hname).append (h.append reads_spanEnd)

/-- **A span around marked text** is marked text. -/
theorem Marks.span {classPrefix name content text : Text}
    (named : Config.isClassPrefix classPrefix = true) (mem : name ∈ spanNames)
    (h : Marks classPrefix content text) :
    Marks classPrefix (Markup.span classPrefix name content) text := by
  obtain ⟨read, reads, wrapped⟩ := h
  have hname := isClassPrefix_append named (isClassPrefix_of_mem_spanNames mem)
  refine ⟨_, reads.span named mem, ?_⟩
  have whole := Wrapped.span mem (spanClass?_spanTag hname) wrapped .nil
  rwa [List.append_nil] at whole

end Highlight.Markup
