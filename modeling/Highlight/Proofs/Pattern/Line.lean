import Highlight.Proofs.Pattern.Language
import Mathlib.Data.List.TakeWhile

/-!
# Patterns on one line

A pattern that cannot take a line feed, and tells no line feed from an end of the text, sees no more
of a text than the line it stands on. This is read off its form (`isLocal`), and it means that
wherever a line stands, with whatever behind it, a match in the line is the match that the line
alone has, moved to where it stands (`matchAt?_eq_shift`).

A state of a line is taken along to a text by `State.inText`, and so is what an exploration has
reached. Every part of a pattern commutes with that (`outcomes_inText`). The number of steps that an
exploration may take differs, as more text is left, but it is enough on either side
(`explore_fuel`).
-/

namespace Highlight

/-- A span that begins and ends later. -/
def Pattern.Span.shift (k : Nat) (span : Span) : Span := ⟨span.start + k, span.stop + k⟩

/-- Whether what stands at a place is what stands at the end of a line. -/
def IsLineEdge (c : Option Char) : Prop := c = none ∨ c = some '\n'

/-- The first line of a text. -/
def Text.firstLine (text : Text) : Text := text.takeWhile (· != '\n')

theorem Text.newline_not_mem_firstLine (text : Text) : '\n' ∉ text.firstLine := by
  intro mem
  have other : ('\n' != '\n') = true := List.mem_takeWhile_imp (p := (· != '\n')) mem
  exact absurd other (by decide)

/-- Behind its first line a text goes on with a line feed, if at all. -/
theorem Text.exists_firstLine_append (text : Text) :
    ∃ tail, text = text.firstLine ++ tail ∧ IsLineEdge tail.head? := by
  refine ⟨text.dropWhile (· != '\n'), List.takeWhile_append_dropWhile.symm, ?_⟩
  cases rest : text.dropWhile (· != '\n') with
  | nil => exact .inl rfl
  | cons c more =>
    have stops := List.head_dropWhile_not (p := (· != '\n')) (l := text) (by simp [rest])
    simp only [rest, List.head_cons, bne_eq_false_iff_eq] at stops
    exact .inr (congrArg some stops)

namespace Pattern

variable {p : Pattern} {s t : State} {front rest tail : Text} {edge : Option Char} {k : Nat}
  {trail : Trail} {round : State → List State} {greed : Greed}

/-! ## What the form of a pattern tells -/

/-- Whether an assertion is seen to tell no line feed from an end of the text. -/
def Assertion.isLocal : Assertion → Bool
  | lineStart returns | lineEnd returns => !returns
  | word _ letters => !letters.contains '\n'
  | textStart | textEnd => false

/-- Whether a pattern is seen to look no further than its line. -/
def isLocal : Pattern → Bool
  | empty => true
  | set chars => !chars.contains '\n'
  | check assertion => assertion.isLocal
  | seq p q | alt p q => p.isLocal && q.isLocal
  | plus _ p | group _ p => p.isLocal
  | _ => false

/-! ## A line in a text -/

/-- A state of a line as one of a text in which the line stands: from an offset on, behind a
character, and in front of more text. -/
def State.inText (k : Nat) (edge : Option Char) (tail : Text) (s : State) : State :=
  { s with
    offset := s.offset + k
    before := s.before.or edge
    rest := s.rest ++ tail
    groups := s.groups.map fun entry => (entry.1, entry.2.shift k) }

theorem State.inText_advance (s : State) (c : Char) (rest : Text) :
    (s.inText k edge tail).advance c (rest ++ tail) = (s.advance c rest).inText k edge tail := by
  simp only [advance, inText, Nat.add_right_comm, Option.some_or]

theorem State.inText_close (s : State) (index opened : Nat) :
    (s.inText k edge tail).close index (opened + k) =
      (s.close index opened).inText k edge tail := by
  simp only [close, inText, Span.shift, List.map_cons, List.filter_map]
  rfl

/-- What has been reached in a line, as reached in a text. -/
def Trail.inText (k : Nat) (edge : Option Char) (tail : Text) (trail : Trail) : Trail :=
  ⟨trail.reached.map (· + k), trail.found.map (State.inText k edge tail)⟩

/-- Whether a state stands on the last line of what it sees. -/
def State.OnLine (s : State) : Prop :=
  ∃ front rest, s.toCursor = Cursor.between front rest ∧ '\n' ∉ rest

theorem Assertion.holds_inText {assertion : Assertion} (isLocal : assertion.isLocal = true)
    (start : IsLineEdge edge) (stop : IsLineEdge tail.head?) (before : Option Char) (rest : Text) :
    assertion.holds (before.or edge) (rest ++ tail).head? =
      assertion.holds before rest.head? := by
  have ahead : (rest ++ tail).head? = rest.head?.or tail.head? := List.head?_append
  rw [ahead]
  have same {P : Option Char → Bool} (edges : P (some '\n') = P none) {c : Option Char}
      (isEdge : IsLineEdge c) (d : Option Char) : P (d.or c) = P d := by
    cases d with
    | some d => rfl
    | none =>
      rcases isEdge with rfl | rfl
      · rfl
      · exact edges
  cases assertion with
  | textStart | textEnd => cases isLocal
  | lineStart returns =>
    obtain rfl : returns = false := (Bool.not_eq_true' _).mp isLocal
    simp only [holds, Bool.false_and, Bool.or_false]
    exact same (P := fun c => c.isNone || c == some '\n') rfl start before
  | lineEnd returns =>
    obtain rfl : returns = false := (Bool.not_eq_true' _).mp isLocal
    simp only [holds, Bool.false_and, Bool.or_false]
    exact same (P := fun c => c.isNone || (c == some '\n' && !false)) rfl stop rest.head?
  | word kind letters =>
    have absent : letters.contains '\n' = false := (Bool.not_eq_true' _).mp isLocal
    have edges : (some '\n').any letters.contains = none.any letters.contains := absent
    exact congrArg₂ kind.holds (same (P := fun c => c.any letters.contains) edges start before)
      (same (P := fun c => c.any letters.contains) edges stop rest.head?)

/-- What a state leads to on its line is on the line, and not longer. -/
theorem State.OnLine.lead (h : s.OnLine) (mem : t ∈ p.outcomes s) :
    t.OnLine ∧ (t.offset ≠ s.offset → t.rest.length < s.rest.length) := by
  obtain ⟨front, rest, place, single⟩ := h
  obtain ⟨taken, later, rfl, place', -⟩ := exists_matches_of_mem place mem
  refine ⟨⟨_, _, place', fun inside => single (List.mem_append_right taken inside)⟩, ?_⟩
  intro moved
  have offset : s.offset = front.byteSize := congrArg Cursor.offset place
  have offset' : t.offset = (front ++ taken).byteSize := congrArg Cursor.offset place'
  have some : taken ≠ [] := by
    rintro rfl
    rw [offset, offset', List.append_nil] at moved
    exact moved rfl
  rw [show s.rest = taken ++ later from congrArg Cursor.rest place,
    show t.rest = later from congrArg Cursor.rest place', List.length_append]
  exact Nat.lt_add_of_pos_left (List.length_pos_iff.mpr some)

/-! ## Explorations -/

theorem Trail.insert?_map_add (k offset : Nat) (reached : List Nat) :
    Trail.insert? (offset + k) (reached.map (· + k)) =
      (Trail.insert? offset reached).map (List.map (· + k)) := by
  induction reached with
  | nil => rfl
  | cons top below ih =>
    simp only [List.map_cons, Trail.insert?, Nat.add_lt_add_iff_right, Nat.add_right_cancel_iff, ih]
    split
    · rfl
    · split
      · rfl
      · rw [Option.map_map, Option.map_map]
        rfl

theorem Trail.mark?_inText (offset : Nat) : (trail.inText k edge tail).mark? (offset + k) =
    (trail.mark? offset).map (Trail.inText k edge tail) := by
  rw [Trail.mark?, Trail.mark?, Trail.inText, Trail.insert?_map_add, Option.map_map, Option.map_map]
  rfl

/-- **More steps than characters** make no difference to an exploration in which every round that
goes on consumes something. -/
theorem explore_fuel (greed : Greed) {P : State → Prop}
    (shrinks : ∀ s, P s → ∀ t ∈ round s,
      P t ∧ (t.offset ≠ s.offset → t.rest.length < s.rest.length))
    {fuel fuel' : Nat} (given : P s) (enough : s.rest.length < fuel)
    (enough' : s.rest.length < fuel') (trail : Trail) :
    explore round greed fuel s trail = explore round greed fuel' s trail := by
  induction fuel generalizing fuel' s trail with
  | zero => exact absurd enough (Nat.not_lt_zero _)
  | succ fuel ih =>
    obtain ⟨fuel', rfl⟩ : ∃ n, fuel' = n + 1 := ⟨fuel' - 1, by omega⟩
    simp only [explore]
    refine List.foldl_ext _ _ trail fun trail t mem => ?_
    obtain ⟨given', shorter⟩ := shrinks s given t mem
    cases trail.mark? t.offset with
    | none => rfl
    | some marked =>
      dsimp only
      split
      · rfl
      · next moved =>
        have shorter := shorter moved
        cases greed with
        | greedy => exact congrArg (Trail.add · t) (ih given' (by omega) (by omega) marked)
        | lazy => exact ih given' (by omega) (by omega) (marked.add t)

/-- **An exploration in a line** is one in a text, if its rounds are. -/
theorem explore_inText (greed : Greed) {P : State → Prop}
    (keeps : ∀ s, P s → ∀ t ∈ round s, P t)
    (moves : ∀ s, P s → round (s.inText k edge tail) = (round s).map (State.inText k edge tail))
    (fuel : Nat) (given : P s) (trail : Trail) :
    explore round greed fuel (s.inText k edge tail) (trail.inText k edge tail) =
      (explore round greed fuel s trail).inText k edge tail := by
  induction fuel generalizing s trail with
  | zero => rfl
  | succ fuel ih =>
    simp only [explore, moves s given, List.foldl_map]
    have later := keeps s given
    generalize round s = states at later
    induction states generalizing trail with
    | nil => rfl
    | cons t states ih' =>
      obtain ⟨here, there⟩ := List.forall_mem_cons.mp later
      rw [List.foldl_cons, List.foldl_cons, ← ih' _ there]
      refine congrArg (fun trail => List.foldl _ trail states) ?_
      rw [show (t.inText k edge tail).offset = t.offset + k from rfl, Trail.mark?_inText]
      cases trail.mark? t.offset with
      | none => rfl
      | some marked =>
        simp only [Option.map_some]
        by_cases same : t.offset = s.offset
        · have same' : t.offset + k = (s.inText k edge tail).offset := congrArg (· + k) same
          rw [if_pos same, if_pos same']
          rfl
        · have differ : t.offset + k ≠ (s.inText k edge tail).offset :=
            fun same' => same (Nat.add_right_cancel same')
          rw [if_neg same, if_neg differ]
          cases greed with
          | greedy => exact congrArg (Trail.add · (t.inText k edge tail)) (ih here marked)
          | lazy => exact ih here (marked.add t)

/-! ## Outcomes -/

/-- **A pattern on one line** has in a text the outcomes that it has on the line. -/
theorem outcomes_inText (isLocal : p.isLocal = true) (start : IsLineEdge edge)
    (stop : IsLineEdge tail.head?) (onLine : s.OnLine) :
    p.outcomes (s.inText k edge tail) = (p.outcomes s).map (State.inText k edge tail) := by
  induction p generalizing s with
  | empty => rfl
  | set chars =>
    have absent : chars.contains '\n' = false := (Bool.not_eq_true' _).mp isLocal
    have shown : (s.inText k edge tail).rest = s.rest ++ tail := rfl
    unfold outcomes
    rw [shown]
    cases next : s.rest with
    | nil =>
      cases tail with
      | nil => rfl
      | cons c tail =>
        obtain rfl : c = '\n' := Option.some.inj (stop.resolve_left (Option.some_ne_none c))
        simp only [List.nil_append, absent, Bool.false_eq_true, if_false, List.map_nil]
    | cons c rest =>
      simp only [List.cons_append]
      split
      · exact congrArg ([·]) (State.inText_advance s c rest)
      · rfl
  | check assertion =>
    unfold outcomes
    have same := assertion.holds_inText isLocal start stop s.before s.rest
    rw [show assertion.holds (s.inText k edge tail).before (s.inText k edge tail).rest.head? = _
      from same]
    split <;> rfl
  | seq p q hp hq =>
    obtain ⟨left, right⟩ := Bool.and_eq_true_iff.mp isLocal
    rw [outcomes, outcomes, hp left onLine, List.flatMap_map, List.map_flatMap]
    exact List.flatMap_congr fun t mem => hq right (onLine.lead mem).1
  | alt p q hp hq =>
    obtain ⟨left, right⟩ := Bool.and_eq_true_iff.mp isLocal
    rw [outcomes, outcomes, List.map_append, hp left onLine, hq right onLine]
  | plus greed p ih =>
    have shrinks : ∀ s : State, s.OnLine → ∀ t ∈ p.outcomes s,
        t.OnLine ∧ (t.offset ≠ s.offset → t.rest.length < s.rest.length) :=
      fun s given t mem => given.lead mem
    have longer : s.rest.length < (s.inText k edge tail).rest.length + 1 := by
      rw [show (s.inText k edge tail).rest = s.rest ++ tail from rfl, List.length_append]
      omega
    have moved := explore_inText greed (fun s given t mem => (shrinks s given t mem).1)
      (fun s given => ih isLocal given) ((s.inText k edge tail).rest.length + 1) onLine Trail.empty
    have fuel := explore_fuel greed shrinks onLine longer
      (Nat.lt_add_one s.rest.length) Trail.empty
    rw [outcomes, outcomes, ← fuel, List.map_reverse]
    exact congrArg (fun trail => trail.found.reverse) moved
  | group index p ih =>
    rw [outcomes, outcomes, ih isLocal onLine, List.map_map, List.map_map]
    exact List.map_congr_left fun t _ => State.inText_close t index s.offset
  | once | times | atMost | settled | forget => cases isLocal

/-! ## Matches -/

/-- A match that begins and ends later. -/
def Match.shift (k : Nat) (m : Match) : Match :=
  ⟨m.whole.shift k, m.groups.map fun entry => (entry.1, entry.2.shift k)⟩

theorem Match.shift_shift (m : Match) (k d : Nat) : (m.shift k).shift d = m.shift (k + d) := by
  simp only [shift, Span.shift, List.map_map, Function.comp_def, Nat.add_assoc]

/-- A match on a line is one in a text. -/
theorem matchAt?_inText (front : Text) (k : Nat) (isLocal : p.isLocal = true)
    (start : IsLineEdge edge) (stop : IsLineEdge tail.head?) (single : '\n' ∉ rest) :
    p.matchAt? ⟨front.byteSize + k, front.getLast?.or edge, rest ++ tail⟩ =
      (p.matchAt? (Cursor.between front rest)).map (Match.shift k) := by
  have onLine : (State.start (Cursor.between front rest)).OnLine := ⟨front, rest, rfl, single⟩
  have moved : p.outcomes (State.start ⟨front.byteSize + k, front.getLast?.or edge, rest ++ tail⟩) =
      _ := outcomes_inText isLocal start stop onLine
  rw [matchAt?, moved, matchAt?, List.head?_map, Option.map_map, Option.map_map]
  rfl

/-- What stands in front of a place on its line, as far as it is seen there. -/
def lineFront : Option Char → Text
  | none => []
  | some c => if c = '\n' then [] else [c]

theorem exists_lineFront (front : Text) : ∃ k edge, IsLineEdge edge ∧
    front.byteSize = (lineFront front.getLast?).byteSize + k ∧
      front.getLast? = (lineFront front.getLast?).getLast?.or edge := by
  rcases List.eq_nil_or_concat front with rfl | ⟨init, c, rfl⟩
  · exact ⟨0, none, .inl rfl, rfl, rfl⟩
  · rw [List.concat_eq_append, List.getLast?_concat, lineFront]
    by_cases newline : c = '\n'
    · rw [if_pos newline]
      exact ⟨_, some c, .inr (congrArg some newline), (Nat.zero_add _).symm, rfl⟩
    · rw [if_neg newline]
      exact ⟨Text.byteSize init, none, .inl rfl,
        (Text.byteSize_append init [c]).trans (Nat.add_comm _ _), rfl⟩

/-- **Where a line stands makes no difference**: in two places with the same in front of them and
behind them on the line, the same is matched. -/
theorem matchAt?_eq_shift (isLocal : p.isLocal = true) {front front' rest rest' : Text} {d : Nat}
    (size : front'.byteSize = front.byteSize + d)
    (before : lineFront front'.getLast? = lineFront front.getLast?)
    (line : rest'.firstLine = rest.firstLine) :
    p.matchAt? (Cursor.between front' rest') =
      (p.matchAt? (Cursor.between front rest)).map (Match.shift d) := by
  have single := rest.newline_not_mem_firstLine
  obtain ⟨tail, split, stop⟩ := rest.exists_firstLine_append
  obtain ⟨tail', split', stop'⟩ := rest'.exists_firstLine_append
  obtain ⟨k, edge, start, far, last⟩ := exists_lineFront front
  obtain ⟨k', edge', start', far', last'⟩ := exists_lineFront front'
  rw [before] at far' last'
  obtain rfl : k' = k + d := by omega
  rw [line] at split'
  have here := matchAt?_inText (lineFront front.getLast?) k isLocal start stop single
  have there := matchAt?_inText (lineFront front.getLast?) (k + d) isLocal start' stop' single
  rw [← far, ← last, ← split] at here
  rw [← far', ← last', ← split'] at there
  change p.matchAt? (Cursor.between front rest) = _ at here
  change p.matchAt? (Cursor.between front' rest') = _ at there
  rw [there, here, Option.map_map]
  refine congrArg (Option.map · _) (funext fun m => ?_)
  exact (m.shift_shift k d).symm

end Pattern

end Highlight
