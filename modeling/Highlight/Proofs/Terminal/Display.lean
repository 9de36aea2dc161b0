import Highlight.Proofs.Segment
import Highlight.Proofs.Text.Decimal
import Highlight.Terminal

/-!
# What a terminal shows

A terminal reads its input as characters and as control sequences that select renditions, and shows
each character in the renditions selected since the last reset (`shown`). A preview of source in
which no control sequence begins is shown as the source, every placed token in the renditions of its
style and all else in none (`shown_preview`). Whatever follows a preview is shown as if the preview
were not there: no rendition is left on.
-/

namespace Highlight.Terminal

/-- What a terminal is told: to show a character, or to select renditions. -/
inductive Signal where
  | char (c : Char)
  | select (parameters : Text)
  deriving DecidableEq, Repr

/-- The character of a signal, if it has one. -/
def Signal.char? : Signal → Option Char
  | char c => some c
  | select _ => none

/-- The character that begins a control sequence. -/
def esc : Char := '\x1b'

/-- Whether a character may stand among the parameters of a control sequence. -/
def isParameter (c : Char) : Bool := '0' ≤ c && c ≤ '?'

/-- The parameters of the control sequence with which a text begins, if that selects renditions. -/
def selection? : Text → Option Text
  | '\x1b' :: '[' :: rest =>
    let parameters := rest.takeWhile isParameter
    if (rest.drop parameters.length).head? = some 'm' then some parameters else none
  | _ => none

/-- The signals of a text of which some characters belong to the sequence before. -/
def signalsFrom : Nat → Text → List Signal
  | _, [] => []
  | skip + 1, _ :: rest => signalsFrom skip rest
  | 0, c :: rest =>
    match selection? (c :: rest) with
    | some parameters => .select parameters :: signalsFrom (parameters.length + 2) rest
    | none => .char c :: signalsFrom 0 rest

/-- The signals of a text. -/
def signals (text : Text) : List Signal := signalsFrom 0 text

/-- The text without the sequences that select renditions. -/
def withoutSelections (text : Text) : Text := (signals text).filterMap Signal.char?

/-- The renditions that are on after one more was selected. -/
def afterSelect (renditions : List Text) (parameters : Text) : List Text :=
  if parameters = ['0'] then [] else renditions ++ [parameters]

/-- The characters that are shown, each with the renditions that are on. -/
def shownFrom : List Text → List Signal → List (Char × List Text)
  | _, [] => []
  | renditions, .char c :: rest => (c, renditions) :: shownFrom renditions rest
  | renditions, .select parameters :: rest => shownFrom (afterSelect renditions parameters) rest

/-- What a terminal shows of a text. -/
def shown (text : Text) : List (Char × List Text) := shownFrom [] (signals text)

/-- A text in some renditions. -/
def inRenditions (renditions : List Text) (text : Text) : List (Char × List Text) :=
  text.map fun c => (c, renditions)

/-! ## Reading what was written -/

theorem signalsFrom_append (text rest : Text) :
    signalsFrom text.length (text ++ rest) = signals rest := by
  induction text with
  | nil => rfl
  | cons c text ih => exact ih

/-- A sequence that selects renditions is read as one signal. -/
theorem signals_select {parameters : Text} (each : ∀ c ∈ parameters, isParameter c = true)
    (rest : Text) : signals (select parameters ++ rest) = .select parameters :: signals rest := by
  have taken : (parameters ++ 'm' :: rest).takeWhile isParameter = parameters := by
    rw [List.takeWhile_append_of_pos each, List.takeWhile_cons_of_neg (by decide), List.append_nil]
  have whole : select parameters ++ rest = esc :: '[' :: (parameters ++ 'm' :: rest) := by
    simp [select, esc]
  have selects : selection? (esc :: '[' :: (parameters ++ 'm' :: rest)) = some parameters := by
    simp [selection?, esc, taken]
  have skipped := signalsFrom_append ('[' :: (parameters ++ ['m'])) rest
  rw [whole, signals, signalsFrom, selects]
  simpa using skipped

/-- Text in which no control sequence begins is read as its characters. -/
theorem signals_text {text : Text} (plain : esc ∉ text) (rest : Text) :
    signals (text ++ rest) = text.map .char ++ signals rest := by
  induction text with
  | nil => rfl
  | cons c text ih =>
    obtain ⟨first, others⟩ := List.ne_and_not_mem_of_not_mem_cons plain
    have none : selection? (c :: (text ++ rest)) = none := by
      unfold selection?
      split
      · next same => exact absurd (List.cons.inj same).1.symm first
      · rfl
    rw [List.cons_append, signals, signalsFrom, none]
    exact congrArg (.char c :: ·) (ih others)

theorem shownFrom_text (renditions : List Text) (text : Text) (rest : List Signal) :
    shownFrom renditions (text.map .char ++ rest) =
      inRenditions renditions text ++ shownFrom renditions rest := by
  induction text with
  | nil => rfl
  | cons c text ih => exact congrArg ((c, renditions) :: ·) ih

/-- The characters that are shown are those of the text without selections. -/
theorem map_fst_shownFrom (renditions : List Text) (read : List Signal) :
    (shownFrom renditions read).map Prod.fst = read.filterMap Signal.char? := by
  induction read generalizing renditions with
  | nil => rfl
  | cons signal rest ih =>
    cases signal with
    | char c => exact congrArg (c :: ·) (ih renditions)
    | select parameters => exact ih _

/-! ## Styles -/

/-- The parameters that choose a foreground color. -/
def colorParameters (color : Color) : Text :=
  match color.paletteIndex? with
  | some index => "38;5;".toList ++ Text.ofNumeral index
  | none => "39"

/-- The renditions of a style. -/
def renditions (style : Style) : List Text :=
  colorParameters style.foreground :: ((if style.bold then [['1']] else []) ++
    (if style.italic then [['3']] else []) ++ if style.underline then [['4']] else [])

/-- A style is turned on by selecting its renditions. -/
theorem enter_eq (style : Style) : enter style = (renditions style).flatMap select := by
  have color : foreground style.foreground = select (colorParameters style.foreground) := by
    unfold foreground colorParameters
    cases style.foreground.paletteIndex? <;> rfl
  rw [enter, color, renditions]
  cases style.bold <;> cases style.italic <;> cases style.underline <;> simp

/-- The renditions of a style are written in parameters, and none of them is the reset. -/
theorem spec_of_mem_renditions {style : Style} {parameters : Text}
    (mem : parameters ∈ renditions style) :
    (∀ c ∈ parameters, isParameter c = true) ∧ parameters ≠ ['0'] := by
  have color : ∀ color, (∀ c ∈ colorParameters color, isParameter c = true) ∧
      colorParameters color ≠ ['0'] := by
    intro color
    cases color <;> decide
  simp only [renditions, List.mem_cons, List.mem_append, List.mem_ite_nil_right,
    List.not_mem_nil, or_false] at mem
  rcases mem with rfl | (⟨-, rfl⟩ | ⟨-, rfl⟩) | ⟨-, rfl⟩
  · exact color style.foreground
  all_goals decide

/-- Selecting renditions turns them on. -/
theorem shownFrom_selections {selected : List Text}
    (spec : ∀ parameters ∈ selected,
      (∀ c ∈ parameters, isParameter c = true) ∧ parameters ≠ ['0'])
    (before : List Text) (rest : Text) :
    shownFrom before (signals (selected.flatMap select ++ rest)) =
      shownFrom (before ++ selected) (signals rest) := by
  induction selected generalizing before with
  | nil => rw [List.append_nil]; rfl
  | cons parameters selected ih =>
    obtain ⟨each, noReset⟩ := spec parameters List.mem_cons_self
    rw [List.flatMap_cons, List.append_assoc, signals_select each, shownFrom, afterSelect,
      if_neg noReset, ih fun other mem => spec other (List.mem_cons_of_mem _ mem),
      List.append_assoc, List.singleton_append]

/-- A reset turns all renditions off. -/
theorem shownFrom_reset (before : List Text) (rest : Text) :
    shownFrom before (signals (reset ++ rest)) = shown rest := by
  have zero : ∀ c ∈ ("0" : Text), isParameter c = true := by decide
  rw [reset, signals_select zero]
  rfl

/-- **A painted text** is shown in the renditions of its style, and what follows in none. -/
theorem shown_painted (style : Style) {text : Text} (plain : esc ∉ text) (rest : Text) :
    shown (enter style ++ text ++ reset ++ rest) =
      inRenditions (renditions style) text ++ shown rest := by
  rw [enter_eq, List.append_assoc, List.append_assoc, shown,
    shownFrom_selections fun _ => spec_of_mem_renditions, List.nil_append, signals_text plain,
    shownFrom_text, shownFrom_reset]

/-! ## Previews -/

/-- A token is painted: no category has the plain style. -/
theorem segment_placed (token : Token) : segment (.placed token) =
    enter token.kind.style ++ token.text ++ reset := by
  rw [segment, paint, TokenType.isPlain_style, if_neg Bool.false_ne_true]

/-- What is shown of a segment. -/
def shownSegment : Segment → List (Char × List Text)
  | .between text => inRenditions [] text
  | .placed token => inRenditions (renditions token.kind.style) token.text

theorem map_fst_shownSegment (s : Segment) : (shownSegment s).map Prod.fst = s.text := by
  cases s <;> simp [shownSegment, inRenditions, Segment.text, Function.comp_def]

/-- A segment is shown, and leaves no rendition on. -/
theorem shown_segment {s : Segment} (plain : esc ∉ s.text) (rest : Text) :
    shown (segment s ++ rest) = shownSegment s ++ shown rest := by
  cases s with
  | between text =>
    have plain : esc ∉ text := plain
    rw [segment, shown, signals_text plain, shownFrom_text]
    rfl
  | placed token =>
    have plain : esc ∉ token.text := plain
    rw [segment_placed, shown_painted _ plain]
    rfl

theorem shown_segments {segments : List Segment}
    (plain : esc ∉ segments.flatMap Segment.text) (rest : Text) :
    shown (segments.flatMap segment ++ rest) = segments.flatMap shownSegment ++ shown rest := by
  induction segments with
  | nil => rfl
  | cons s segments ih =>
    rw [List.flatMap_cons, List.mem_append, not_or] at plain
    rw [List.flatMap_cons, List.append_assoc, shown_segment plain.1, ih plain.2,
      List.flatMap_cons, List.append_assoc]

/-- **What a terminal shows of a preview**, whatever follows. -/
theorem shown_preview {tokenized : Tokenized} (plain : esc ∉ tokenized.source) (rest : Text) :
    shown (preview tokenized ++ rest) = tokenized.segments.flatMap shownSegment ++ shown rest :=
  shown_segments (by rwa [Tokenized.flatMap_text_segments]) rest

/-- Without selections, a preview is the source. -/
theorem withoutSelections_preview {tokenized : Tokenized} (plain : esc ∉ tokenized.source) :
    withoutSelections (preview tokenized) = tokenized.source := by
  have all := shown_preview plain []
  rw [List.append_nil, show shown [] = [] from rfl, List.append_nil] at all
  rw [withoutSelections, ← map_fst_shownFrom [], ← shown, all, List.map_flatMap]
  simp only [map_fst_shownSegment, Tokenized.flatMap_text_segments]

end Highlight.Terminal
