import Highlight.Proofs.Forms.Form
import Highlight.Proofs.Tokenize.Pieces

/-!
# Scanning for comments and strings

A language says with two forms what a comment is and what a string is (`Forms`). One scan from left
to right tells them apart: at each place it takes a comment if one starts there, else a string, else
one character (`Forms.scan`). Whichever opens first wins, so what looks like a string inside a
comment is none, and the other way round.

A part of a scan is known by what is left behind it (`Forms.Scanned`): each piece is what the scan
takes in front of the others. It stays a scan if the text ends earlier, at the end of a piece
(`Forms.Scanned.cut`).
-/

namespace Highlight

/-- What a scan takes a piece for. -/
inductive Label where
  | comment
  | string
  | code
  deriving DecidableEq, Repr

/-- The category of tokens that a label stands for. -/
def Label.kind : Label → Option TokenType
  | comment => some .comment
  | string => some .string
  | code => none

/-- A piece of a scan: a comment, a string, or a character outside of both. -/
structure Piece where
  label : Label
  text : Text
  nonempty : text ≠ []
  deriving DecidableEq, Repr

/-- What comments and strings of a language are. -/
structure Forms where
  comment : Form
  string : Form

namespace Forms

/-- How the pieces of a scan are read as tokens. -/
def reading : Reading Piece where
  text := Piece.text
  kind piece := piece.label.kind
  nonempty := Piece.nonempty

variable {forms : Forms} {before : Option Char} {front text rest back : Text} {piece : Piece}
  {pieces pre run post : List Piece}

/-- What stands at a place: a comment, else a string, else one character. -/
def next? (forms : Forms) (before : Option Char) (text : Text) : Option (Piece × Text) :=
  match comment : forms.comment.take? before text with
  | some (taken, rest) => some (⟨.comment, taken, (forms.comment.taken comment).2⟩, rest)
  | none =>
    match string : forms.string.take? before text with
    | some (taken, rest) => some (⟨.string, taken, (forms.string.taken string).2⟩, rest)
    | none =>
      match text with
      | [] => none
      | c :: rest => some (⟨.code, [c], List.cons_ne_nil c []⟩, rest)

/-- Whether a piece is what stands at a place, for each label. -/
def IsNext (forms : Forms) (before : Option Char) (text : Text) (piece : Piece) (rest : Text) :
    Prop :=
  match piece.label with
  | .comment => forms.comment.take? before text = some (piece.text, rest)
  | .string => forms.comment.take? before text = none ∧
      forms.string.take? before text = some (piece.text, rest)
  | .code => forms.comment.take? before text = none ∧ forms.string.take? before text = none ∧
      ∃ c, piece.text = [c] ∧ text = c :: rest

theorem isNext_of_next? (h : forms.next? before text = some (piece, rest)) :
    forms.IsNext before text piece rest := by
  unfold next? at h
  split at h
  · next comment =>
    cases h
    exact comment
  · next comment =>
    split at h
    · next string =>
      cases h
      exact ⟨comment, string⟩
    · next string =>
      cases text with
      | nil => cases h
      | cons c rest =>
        cases h
        exact ⟨comment, string, c, rfl, rfl⟩

theorem IsNext.eq_append (h : forms.IsNext before text piece rest) : text = piece.text ++ rest := by
  unfold IsNext at h
  split at h
  · exact (forms.comment.taken h).1
  · exact (forms.string.taken h.2).1
  · obtain ⟨-, -, c, taken, split⟩ := h
    rw [taken, split]
    rfl

theorem IsNext.take_comment (h : forms.IsNext before text piece rest)
    (label : piece.label = .comment) :
    forms.comment.take? before text = some (piece.text, rest) := by
  rwa [IsNext, label] at h

theorem IsNext.take_string (h : forms.IsNext before text piece rest)
    (label : piece.label = .string) : forms.comment.take? before text = none ∧
      forms.string.take? before text = some (piece.text, rest) := by
  rwa [IsNext, label] at h

theorem IsNext.take_code (h : forms.IsNext before text piece rest) (label : piece.label = .code) :
    forms.comment.take? before text = none ∧ forms.string.take? before text = none ∧
      ∃ c, piece.text = [c] ∧ text = c :: rest := by
  rwa [IsNext, label] at h

/-- There is something at every place but the end. -/
theorem next?_eq_none (h : forms.next? before text = none) : text = [] := by
  unfold next? at h
  split at h
  · cases h
  · split at h
    · cases h
    · cases text with
      | nil => rfl
      | cons c rest => cases h

/-- **The scan of a text** from left to right, given the character before it. -/
def scan (forms : Forms) (before : Option Char) (text : Text) : List Piece :=
  match _here : forms.next? before text with
  | none => []
  | some (piece, rest) => piece :: scan forms piece.text.getLast? rest
termination_by text.length
decreasing_by
  rw [(isNext_of_next? _here).eq_append, List.length_append]
  exact Nat.lt_add_of_pos_left (List.length_pos_iff.mpr piece.nonempty)

/-- Whether pieces are what a scan takes between two parts of a text. -/
inductive Scanned (forms : Forms) : Text → List Piece → Text → Prop
  | done {front rest : Text} : Scanned forms front [] rest
  | next {front rest : Text} {piece : Piece} {pieces : List Piece} :
      forms.IsNext front.getLast? (piece.text ++ (reading.code pieces ++ rest)) piece
        (reading.code pieces ++ rest) →
      Scanned forms (front ++ piece.text) pieces rest → Scanned forms front (piece :: pieces) rest

/-- The pieces of a scan make up the text, and each is what is taken in front of the others. -/
theorem scanned_scan (forms : Forms) (front text : Text) :
    reading.code (forms.scan front.getLast? text) = text ∧
      forms.Scanned front (forms.scan front.getLast? text) [] := by
  induction size : text.length using Nat.strongRecOn generalizing front text with
  | ind size ih =>
    subst size
    rw [scan]
    split
    · next none => exact ⟨(next?_eq_none none).symm, .done⟩
    · next piece rest here =>
      have next := isNext_of_next? here
      have split := next.eq_append
      have shorter : rest.length < text.length := by
        rw [split, List.length_append]
        exact Nat.lt_add_of_pos_left (List.length_pos_iff.mpr piece.nonempty)
      have last : (front ++ piece.text).getLast? = piece.text.getLast? := by
        rw [List.getLast?_append, List.getLast?_eq_some_getLast piece.nonempty, Option.some_or]
      obtain ⟨code, later⟩ := ih rest.length shorter (front ++ piece.text) rest rfl
      rw [last] at code later
      refine ⟨?_, .next ?_ later⟩
      · rw [reading.code_cons, code]
        exact split.symm
      · rw [code, List.append_nil, ← split]
        exact next

theorem code_scan (forms : Forms) (text : Text) : reading.code (forms.scan none text) = text :=
  (forms.scanned_scan [] text).1

/-- What stands at a place stays the same if the text ends earlier, but not before the end of it. -/
theorem IsNext.cut (h : forms.IsNext before (piece.text ++ (rest ++ back)) piece (rest ++ back)) :
    forms.IsNext before (piece.text ++ rest) piece rest := by
  have shorter {form : Form} (none : form.take? before (piece.text ++ (rest ++ back)) = none) :
      form.take? before (piece.text ++ rest) = Option.none := by
    rw [← List.append_assoc] at none
    exact form.none_of_append back none
  unfold IsNext at h ⊢
  split
  · next comment =>
    rw [comment] at h
    exact forms.comment.cut h
  · next string =>
    rw [string] at h
    exact ⟨shorter h.1, forms.string.cut h.2⟩
  · next code =>
    rw [code] at h
    obtain ⟨comment, string, c, text, -⟩ := h
    refine ⟨shorter comment, shorter string, c, text, ?_⟩
    rw [text]
    rfl

/-- **A scan stays a scan** if the text ends earlier, at the end of a piece. -/
theorem Scanned.cut (back : Text) (h : forms.Scanned front pieces (rest ++ back)) :
    forms.Scanned front pieces rest := by
  induction pieces generalizing front with
  | nil => exact .done
  | cons piece pieces ih =>
    cases h with
    | next here later =>
      refine .next ?_ (ih later)
      rw [← List.append_assoc (reading.code pieces)] at here
      exact here.cut

/-- A scan in two parts. -/
theorem Scanned.append (h : forms.Scanned front (pre ++ post) rest) :
    forms.Scanned front pre (reading.code post ++ rest) ∧
      forms.Scanned (front ++ reading.code pre) post rest := by
  induction pre generalizing front with
  | nil =>
    rw [reading.code_nil, List.append_nil]
    exact ⟨.done, h⟩
  | cons piece pre ih =>
    cases h with
    | next here later =>
      obtain ⟨first, second⟩ := ih later
      rw [List.append_eq, reading.code_append, List.append_assoc] at here
      rw [List.append_assoc] at second
      exact ⟨.next here first, second⟩

/-- **A run of pieces in a scan** is a scan of what a window shows that ends with the run. -/
theorem Scanned.window (h : forms.Scanned front (pre ++ run ++ post) rest) :
    forms.Scanned (front ++ reading.code pre) run [] := by
  rw [List.append_assoc] at h
  have tail := h.append.2.append.1
  exact Scanned.cut (reading.code post ++ rest) tail

end Forms

end Highlight
