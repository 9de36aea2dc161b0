import Highlight.Proofs.Forms.Match
import Highlight.Proofs.Forms.Scan
import Highlight.Proofs.Tokenize.Picked

/-!
# What rules of forms find

A rule whose pattern takes a form finds, going from left to right, whatever the form takes next:
each find is something that it takes (`Rule.exists_of_mem_findsAt`), and nothing that it could take
is passed over, unless a find covers the place (`Rule.exists_mem_findsAt`).

In a run of a scan such a rule picks the pieces that its form takes, provided that nothing it could
take begins inside another piece (`Rule.picks_of_form`). A rule for strings that matches comments
too, and classifies the strings only, needs no such condition: it scans as the scan does
(`Rule.picks_strings`).
-/

namespace Highlight

open Pattern (Cursor Match Span State Takes)

namespace Rule

variable {rule : Rule} {form : Form} {front text taken rest before behind : Text} {c : Char}

/-! ## One form -/

theorem findsAt_take_form (takes : rule.pattern.Takes form) (whole : rule.group = 0)
    (here : form.take? front.getLast? (taken ++ rest) = some (taken, rest)) :
    rule.findsAt front (taken ++ rest) =
      ⟨front.byteSize, (front ++ taken).byteSize, (front ++ taken).byteSize⟩ ::
        rule.findsAt (front ++ taken) rest :=
  findsAt_take_whole whole (takes.prefers here) (form.taken here).2

theorem findsAt_skip_form (takes : rule.pattern.Takes form)
    (none : form.take? front.getLast? (c :: rest) = none) :
    rule.findsAt front (c :: rest) = rule.findsAt (front ++ [c]) rest :=
  findsAt_skip (Pattern.matchAt?_of_outcomes (takes.outcomes_nil none))

/-- A text where the form takes nothing is passed over. -/
theorem findsAt_skip_absent (takes : rule.pattern.Takes form)
    (absent : form.Absent front text rest) :
    rule.findsAt front (text ++ rest) = rule.findsAt (front ++ text) rest := by
  refine findsAt_skip_text ?_
  intro before c behind split
  refine Pattern.matchAt?_of_outcomes (takes.outcomes_nil ?_)
  exact absent before (c :: behind) split (List.cons_ne_nil c behind)

/-- **What is found is what the form takes** at its place. -/
theorem exists_of_mem_findsAt (takes : rule.pattern.Takes form) (whole : rule.group = 0)
    {find : Find} (mem : find ∈ rule.findsAt front text) :
    ∃ before taken rest, text = before ++ (taken ++ rest) ∧
      form.take? (front ++ before).getLast? (taken ++ rest) = some (taken, rest) ∧
        find.start = (front ++ before).byteSize := by
  induction size : text.length using Nat.strongRecOn generalizing front text with
  | ind size ih =>
    subst size
    have later {first rest : Text} (split : text = first ++ rest) (nonempty : first ≠ [])
        (mem : find ∈ rule.findsAt (front ++ first) rest) :
        ∃ before taken rest, text = before ++ (taken ++ rest) ∧
          form.take? (front ++ before).getLast? (taken ++ rest) = some (taken, rest) ∧
            find.start = (front ++ before).byteSize := by
      have shorter : rest.length < text.length := by
        rw [split, List.length_append]
        exact Nat.lt_add_of_pos_left (List.length_pos_iff.mpr nonempty)
      obtain ⟨before, taken, after, parts, here, start⟩ := ih rest.length shorter mem rfl
      rw [List.append_assoc] at here start
      refine ⟨first ++ before, taken, after, ?_, here, start⟩
      rw [split, parts, List.append_assoc]
    cases here : form.take? front.getLast? text with
    | some pair =>
      obtain ⟨taken, rest⟩ := pair
      obtain ⟨rfl, nonempty⟩ := form.taken here
      rw [findsAt_take_form takes whole here] at mem
      rcases List.mem_cons.mp mem with rfl | mem
      · refine ⟨[], taken, rest, rfl, ?_, ?_⟩ <;> rw [List.append_nil]
        exact here
      · exact later rfl nonempty mem
    | none =>
      cases text with
      | nil => exact absurd mem List.not_mem_nil
      | cons c text =>
        rw [findsAt_skip_form takes here] at mem
        exact later rfl (List.cons_ne_nil c []) mem

/-- **Nothing that the form takes is missed**: a find covers its place. -/
theorem exists_mem_findsAt (rule : Rule) (takes : rule.pattern.Takes form) (whole : rule.group = 0)
    (here : (form.take? (front ++ before).getLast? behind).isSome) :
    ∃ find ∈ rule.findsAt front (before ++ behind), find.start ≤ (front ++ before).byteSize ∧
      (front ++ before).byteSize < find.stop := by
  induction size : before.length using Nat.strongRecOn generalizing front before with
  | ind size ih =>
    subst size
    have later {first more : Text} (split : before = first ++ more) (nonempty : first ≠ []) :
        ∃ find ∈ rule.findsAt (front ++ first) (more ++ behind),
          find.start ≤ (front ++ before).byteSize ∧ (front ++ before).byteSize < find.stop := by
      have shorter : more.length < before.length := by
        rw [split, List.length_append]
        exact Nat.lt_add_of_pos_left (List.length_pos_iff.mpr nonempty)
      rw [split, ← List.append_assoc] at here ⊢
      exact ih more.length shorter here rfl
    cases first : form.take? front.getLast? (before ++ behind) with
    | some pair =>
      obtain ⟨taken, rest⟩ := pair
      obtain ⟨parts, nonempty⟩ := form.taken first
      rw [parts] at first ⊢
      rw [findsAt_take_form takes whole first]
      rcases Nat.lt_or_ge before.byteSize taken.byteSize with lt | ge
      · have sizes := Text.byteSize_append front before
        have sizes' := Text.byteSize_append front taken
        exact ⟨_, List.mem_cons_self, by dsimp only; omega, by dsimp only; omega⟩
      · obtain ⟨more, split, rfl⟩ := Text.exists_middle parts.symm ge
        obtain ⟨find, mem, covers⟩ := later split nonempty
        exact ⟨find, List.mem_cons_of_mem _ mem, covers⟩
    | none =>
      cases before with
      | nil =>
        rw [List.append_nil] at here
        rw [List.nil_append] at first
        rw [first] at here
        cases here
      | cons c more =>
        rw [List.cons_append] at first ⊢
        rw [findsAt_skip_form takes first]
        exact later rfl (List.cons_ne_nil c [])

end Rule

/-! ## Runs of pieces -/

namespace Rule

variable {α : Type} {reading : Reading α} {rule : Rule} {form : Form} {own : α → Prop}
  {pre run : List α} {piece : α}

/-- **A rule of a form picks the pieces that the form takes**, if it takes nothing that begins
inside of the others. -/
theorem picks_of_form (takes : rule.pattern.Takes form) (whole : rule.group = 0)
    (spec : ∀ before piece behind, run = before ++ piece :: behind →
      (own piece ∧ form.take? (reading.code (pre ++ before)).getLast?
          (reading.text piece ++ reading.code behind) =
        some (reading.text piece, reading.code behind)) ∨
      (¬ own piece ∧
        form.Absent (reading.code (pre ++ before)) (reading.text piece) (reading.code behind))) :
    rule.Picks reading own pre run := by
  induction run generalizing pre with
  | nil => exact rule.picks_nil reading own pre
  | cons piece run ih =>
    have later : rule.Picks reading own (pre ++ [piece]) run := by
      refine ih fun before other behind split => ?_
      rw [List.append_assoc, List.singleton_append]
      exact spec (piece :: before) other behind (by rw [split, List.cons_append])
    have code : reading.code (pre ++ [piece]) = reading.code pre ++ reading.text piece := by
      simp only [reading.code_append, reading.code_cons, reading.code_nil, List.append_nil]
    have here := spec [] piece run rfl
    rw [List.append_nil] at here
    rcases here with ⟨isOwn, here⟩ | ⟨notOwn, absent⟩
    · refine later.take isOwn ?_
      rw [code]
      exact findsAt_take_form takes whole here
    · refine later.skip notOwn ?_
      rw [code]
      exact findsAt_skip_absent takes absent

end Rule

namespace Forms

variable {forms narrow : Forms} {front rest : Text} {pieces pre run before behind : List Piece}
  {piece : Piece} {comment string : Pattern} {c : Char}

/-- What stands at the place of a piece of a scan. -/
theorem Scanned.isNext (h : forms.Scanned front pieces rest)
    (split : pieces = before ++ piece :: behind) :
    forms.IsNext (front ++ reading.code before).getLast?
      (piece.text ++ (reading.code behind ++ rest)) piece (reading.code behind ++ rest) := by
  subst split
  cases h.append.2 with
  | next here _ => exact here

/-- The same pieces are a scan for other forms that take the same at each place. -/
theorem Scanned.mono (h : forms.Scanned front pieces rest)
    (sub : ∀ before piece behind, pieces = before ++ piece :: behind →
      forms.IsNext (front ++ reading.code before).getLast?
        (piece.text ++ (reading.code behind ++ rest)) piece (reading.code behind ++ rest) →
      narrow.IsNext (front ++ reading.code before).getLast?
        (piece.text ++ (reading.code behind ++ rest)) piece (reading.code behind ++ rest)) :
    narrow.Scanned front pieces rest := by
  induction pieces generalizing front with
  | nil => exact .done
  | cons piece pieces ih =>
    cases h with
    | next here later =>
      refine .next ?_ (ih later fun before other behind split next => ?_)
      · have first := sub [] piece pieces rfl
        rw [reading.code_nil, List.append_nil] at first
        exact first here
      · have more := sub (piece :: before) other behind (by rw [split, List.cons_append])
        rw [reading.code_cons, ← List.append_assoc] at more
        exact more next

end Forms

namespace Rule

variable {forms : Forms} {front rest taken : Text} {pre run : List Piece} {comment string : Pattern}
  {c : Char}

/-- What a rule for strings steps over. -/
theorem findsAt_comment (name : String) (comments : comment.Takes forms.comment)
    (here : forms.comment.take? front.getLast? (taken ++ rest) = some (taken, rest)) :
    (Rule.part name .string (Lexeme.outsideComments comment string)).findsAt front (taken ++ rest) =
      (Rule.part name .string (Lexeme.outsideComments comment string)).findsAt (front ++ taken)
        rest :=
  findsAt_pass ((comments.prefers here).alt_left (q := .group 1 string)).matchAt? rfl rfl
    (forms.comment.taken here).2

/-- What a rule for strings finds. -/
theorem findsAt_string (name : String) (comments : comment.Takes forms.comment)
    (strings : string.Takes forms.string)
    (none : forms.comment.take? front.getLast? (taken ++ rest) = none)
    (here : forms.string.take? front.getLast? (taken ++ rest) = some (taken, rest)) :
    (Rule.part name .string (Lexeme.outsideComments comment string)).findsAt front (taken ++ rest) =
      ⟨front.byteSize, (front ++ taken).byteSize, (front ++ taken).byteSize⟩ ::
        (Rule.part name .string (Lexeme.outsideComments comment string)).findsAt (front ++ taken)
          rest := by
  have nonempty := (forms.string.taken here).2
  have grouped : (Pattern.group 1 string).Prefers (State.between front (taken ++ rest) [])
      (State.between (front ++ taken) rest
        [(1, ⟨front.byteSize, (front ++ taken).byteSize⟩)]) := by
    have whole : string.Prefers (State.between front (taken ++ rest) [])
        (State.between (front ++ taken) rest []) := strings.prefers here
    rw [Pattern.Prefers] at whole ⊢
    rw [Pattern.outcomes, List.head?_map, whole]
    rfl
  have found := (Pattern.Prefers.alt_right (comments.outcomes_nil none) grouped).matchAt?
  refine findsAt_take ⟨front.byteSize, (front ++ taken).byteSize⟩ found rfl ?_ rfl nonempty
  rw [Text.byteSize_append]
  exact Nat.lt_add_of_pos_right (Text.byteSize_pos nonempty)

theorem findsAt_code (name : String) (comments : comment.Takes forms.comment)
    (strings : string.Takes forms.string)
    (none : forms.comment.take? front.getLast? (c :: rest) = none)
    (none' : forms.string.take? front.getLast? (c :: rest) = Option.none) :
    (Rule.part name .string (Lexeme.outsideComments comment string)).findsAt front (c :: rest) =
      (Rule.part name .string (Lexeme.outsideComments comment string)).findsAt (front ++ [c])
        rest := by
  refine findsAt_skip (Pattern.matchAt?_of_outcomes ?_)
  have nothing : (Pattern.group 1 string).outcomes (State.between front (c :: rest) []) = [] := by
    rw [Pattern.outcomes, strings.outcomes_nil none', List.map_nil]
  exact (Pattern.outcomes_alt_right (comments.outcomes_nil none)).trans nothing

/-- **A rule for strings that steps over comments** picks the strings of a scan. -/
theorem picks_strings (name : String) (comments : comment.Takes forms.comment)
    (strings : string.Takes forms.string)
    (scanned : forms.Scanned (Forms.reading.code pre) run []) :
    (Rule.part name .string (Lexeme.outsideComments comment string)).Picks Forms.reading
      (fun piece => piece.label = .string) pre run := by
  induction run generalizing pre with
  | nil => exact picks_nil _ _ _ pre
  | cons piece run ih =>
    have code : Forms.reading.code (pre ++ [piece]) = Forms.reading.code pre ++ piece.text := by
      simp only [Forms.reading.code_append, Forms.reading.code_cons, Forms.reading.code_nil,
        List.append_nil]
      rfl
    cases scanned with
    | next here later =>
      have behind : forms.Scanned (Forms.reading.code (pre ++ [piece])) run [] := by rwa [code]
      have later := ih behind
      rw [List.append_nil] at here
      cases label : piece.label with
      | comment =>
        refine later.skip (by rw [label]; exact Label.noConfusion) ?_
        rw [code]
        exact findsAt_comment name comments (here.take_comment label)
      | string =>
        obtain ⟨none, taken⟩ := here.take_string label
        refine later.take label ?_
        rw [code]
        exact findsAt_string name comments strings none taken
      | code =>
        obtain ⟨none, none', c, text, -⟩ := here.take_code label
        refine later.skip (by rw [label]; exact Label.noConfusion) ?_
        rw [code, Forms.reading.code_cons]
        have one : Forms.reading.text piece = [c] := text
        rw [text] at none none'
        rw [text, one]
        exact findsAt_code name comments strings none none'

end Rule

end Highlight
