import Highlight.Pattern.Build
import Highlight.Pattern.Search
import Highlight.Proofs.Text.Boundary
import Mathlib.Data.List.Basic

/-!
# What a pattern prefers

A match at a given place of a text is the first outcome there, so of the outcomes of a pattern it is
enough to know that there are none, or which is the first (`Prefers`). States are named by the two
parts of the text they stand between (`State.between`): consuming a text moves it from the one part
to the other.

A repetition whose rounds leave no choice goes as far as it can first (`Runs.prefers_plus`); and
where what follows the repetition cannot start as one of its rounds does, it goes as far as it can
or nowhere (`Runs.outcomes_seq_star`).
-/

namespace Highlight.Pattern

variable {p q r body : Pattern} {s t u : State} {front rest text : Text}
  {groups : List (Nat × Span)} {c : Char} {chars : CharSet} {first : Char → Bool}

/-- The cursor between two parts of a text. -/
def Cursor.between (front rest : Text) : Cursor := ⟨front.byteSize, front.getLast?, rest⟩

/-- The state of a match between two parts of a text, with the groups closed so far. -/
def State.between (front rest : Text) (groups : List (Nat × Span)) : State :=
  { Cursor.between front rest with groups, entered := [], raised := 0 }

theorem State.advance_between (front : Text) (c : Char) (rest : Text)
    (groups : List (Nat × Span)) :
    (State.between front (c :: rest) groups).advance c rest =
      State.between (front ++ [c]) rest groups := by
  simp only [State.advance, State.between, Cursor.between, Text.byteSize_append, Text.byteSize,
    Nat.add_zero, List.getLast?_concat]

/-- Consuming a text leads further. -/
theorem State.offset_between_lt (front rest : Text) (some : text ≠ []) :
    (State.between front (text ++ rest) groups).offset <
      (State.between (front ++ text) rest groups).offset := by
  have pos := Text.byteSize_pos some
  simp only [State.between, Cursor.between, Text.byteSize_append]
  omega

/-- Whether a pattern cannot begin unless a character of some kind is next. -/
def Begins (p : Pattern) (first : Char → Bool) : Prop :=
  ∀ s : State, (∀ c ∈ s.rest.head?, first c = false) → p.outcomes s = []

/-- Whether the first outcome of a pattern is a given one. -/
def Prefers (p : Pattern) (s t : State) : Prop := (p.outcomes s).head? = some t

theorem prefers_of_outcomes (h : p.outcomes s = [t]) : p.Prefers s t := by
  rw [Prefers, h]
  rfl

/-! ## Parts of patterns -/

theorem outcomes_set_cons (chars : CharSet) (front : Text) (c : Char) (rest : Text)
    (groups : List (Nat × Span)) : (set chars).outcomes (State.between front (c :: rest) groups) =
      if chars.contains c then [State.between (front ++ [c]) rest groups] else [] := by
  rw [← State.advance_between]
  rfl

theorem begins_set (chars : CharSet) : (set chars).Begins chars.contains := by
  intro s none
  unfold outcomes
  split
  · rfl
  · next c rest eq =>
    rw [if_neg]
    simpa using none c (by rw [eq]; rfl)

theorem outcomes_check (h : assertion.holds front.getLast? rest.head? = true) :
    (check assertion).outcomes (State.between front rest groups) =
      [State.between front rest groups] :=
  if_pos h

/-- A word starts or ends where only one side belongs to a word. -/
theorem outcomes_wordEdge
    (edge : front.getLast?.any Unicode.isWord ≠ rest.head?.any Unicode.isWord)
    (groups : List (Nat × Span)) : wordEdge.outcomes (State.between front rest groups) =
      [State.between front rest groups] :=
  outcomes_check (bne_iff_ne.mpr edge)

theorem outcomes_seq (h : p.outcomes s = [t]) : (seq p q).outcomes s = q.outcomes t := by
  rw [outcomes, h, List.flatMap_singleton]

theorem outcomes_seq_nil (h : p.outcomes s = []) : (seq p q).outcomes s = [] := by
  rw [outcomes, h, List.flatMap_nil]

theorem Prefers.seq (h : p.Prefers s t) (h' : q.Prefers t u) : (seq p q).Prefers s u := by
  unfold Prefers at h h' ⊢
  obtain ⟨more, eq⟩ := List.head?_eq_some_iff.mp h
  rw [outcomes, eq, List.flatMap_cons, List.head?_append, h']
  rfl

theorem Prefers.alt_left (h : p.Prefers s t) : (alt p q).Prefers s t := by
  unfold Prefers at h ⊢
  rw [outcomes, List.head?_append, h]
  rfl

theorem outcomes_alt_right (h : p.outcomes s = []) : (alt p q).outcomes s = q.outcomes s := by
  rw [outcomes, h, List.nil_append]

theorem outcomes_alt_left (h : q.outcomes s = []) : (alt p q).outcomes s = p.outcomes s := by
  rw [outcomes, h, List.append_nil]

theorem Prefers.alt_right (h : p.outcomes s = []) (h' : q.Prefers s t) : (alt p q).Prefers s t := by
  rwa [Prefers, outcomes_alt_right h]

theorem outcomes_seq_assoc (p q r : Pattern) (s : State) :
    (seq (seq p q) r).outcomes s = (seq p (seq q r)).outcomes s := by
  simp only [outcomes, List.flatMap_assoc]

/-- What follows a choice follows each of its sides. -/
theorem outcomes_alt_seq (p q r : Pattern) (s : State) :
    (seq (alt p q) r).outcomes s = (alt (seq p r) (seq q r)).outcomes s := by
  simp only [outcomes, List.flatMap_append]

/-- In front of a pattern, a choice goes for its first side if that leads on. -/
theorem Prefers.alt_seq_left (h : (Pattern.seq p r).Prefers s t) :
    (Pattern.seq (Pattern.alt p q) r).Prefers s t := by
  rw [Prefers, outcomes_alt_seq]
  exact h.alt_left

/-- And for the second if the first does not. -/
theorem Prefers.alt_seq_right (none : (Pattern.seq p r).outcomes s = [])
    (h : (Pattern.seq q r).Prefers s t) : (Pattern.seq (Pattern.alt p q) r).Prefers s t := by
  rw [Prefers, outcomes_alt_seq]
  exact h.alt_right none

theorem outcomes_seqs_cons (p : Pattern) (rest : List Pattern) (s : State) :
    (seqs (p :: rest)).outcomes s = (p.outcomes s).flatMap (seqs rest).outcomes := by
  cases rest with
  | nil => exact (List.flatMap_singleton' _).symm
  | cons q rest => rfl

theorem prefers_empty (s : State) : empty.Prefers s s := rfl

theorem Begins.seq (h : p.Begins first) (q : Pattern) : (seq p q).Begins first :=
  fun s none => outcomes_seq_nil (h s none)

theorem Begins.alt (h : p.Begins first) (h' : q.Begins first) : (alt p q).Begins first :=
  fun s none => (outcomes_alt_right (h s none)).trans (h' s none)

theorem begins_alts {patterns : List Pattern} (h : ∀ p ∈ patterns, p.Begins first) :
    (alts patterns).Begins first := by
  induction patterns with
  | nil => exact fun s _ => begins_set .nothing s fun _ _ => rfl
  | cons p patterns ih =>
    obtain ⟨here, later⟩ := List.forall_mem_cons.mp h
    cases patterns with
    | nil => exact here
    | cons q patterns => exact here.alt (ih later)

theorem Begins.group (h : p.Begins first) (index : Nat) : (group index p).Begins first := by
  intro s none
  rw [outcomes, h s none, List.map_nil]

theorem Begins.mono {other : Char → Bool} (h : p.Begins first)
    (imp : ∀ c, other c = false → first c = false) : p.Begins other :=
  fun s none => h s fun c mem => imp c (none c mem)

/-- A group reports what its body prefers. -/
theorem Prefers.group {front' rest' : Text}
    (h : p.Prefers (State.between front rest []) (State.between front' rest' [])) (index : Nat) :
    (group index p).Prefers (State.between front rest [])
      (State.between front' rest' [(index, ⟨front.byteSize, front'.byteSize⟩)]) := by
  unfold Prefers at h ⊢
  rw [outcomes, List.head?_map, h]
  rfl

/-- Where one pattern matches, another that begins differently does not. -/
theorem Begins.apart {other : Char → Bool} (h : p.Begins first) (h' : q.Begins other)
    (disjoint : ∀ c, first c = true → other c = false) (some : p.outcomes s ≠ []) :
    q.outcomes s = [] := by
  refine h' s ?_
  intro c mem
  cases starts : first c with
  | true => exact disjoint c starts
  | false =>
    refine absurd (h s ?_) some
    intro d mem'
    rwa [Option.mem_unique mem' mem]

/-- An assertion in front of a pattern consumes nothing. -/
theorem Begins.check_seq (h : q.Begins first) (assertion : Assertion) :
    (Pattern.seq (check assertion) q).Begins first := by
  intro s none
  unfold outcomes
  rw [outcomes]
  split
  · rw [List.flatMap_singleton, h s none]
  · rfl

/-- What may be left out leaves the beginning to what follows. -/
theorem Begins.opt_seq (h : p.Begins first) (h' : q.Begins first) :
    (Pattern.seq (opt .greedy p) q).Begins first := by
  intro s none
  have out : (opt .greedy p).outcomes s = [s] := outcomes_alt_right (h s none)
  rw [outcomes_seq out, h' s none]

/-! ## Texts -/

/-- Characters in front of other patterns take a text that the rest starts with. -/
theorem outcomes_chars_append (literal : Text) (later : List Pattern) (front text : Text)
    (groups : List (Nat × Span)) :
    (seqs (literal.map char ++ later)).outcomes (State.between front text groups) =
      match literal.isPrefixOf? text with
      | some rest => (seqs later).outcomes (State.between (front ++ literal) rest groups)
      | none => [] := by
  induction literal generalizing front text with
  | nil =>
    rw [List.append_nil]
    rfl
  | cons c literal ih =>
    rw [List.map_cons, List.cons_append, outcomes_seqs_cons]
    cases text with
    | nil => rfl
    | cons d text =>
      rw [char, outcomes_set_cons, CharSet.contains_char,
        show (c :: literal).isPrefixOf? (d :: text) =
          if c == d then literal.isPrefixOf? text else none from rfl]
      by_cases same : d = c
      · subst same
        simp only [beq_self_eq_true, if_true, List.flatMap_singleton, ih, List.append_assoc,
          List.singleton_append]
      · simp only [beq_eq_false_iff_ne.mpr same, beq_eq_false_iff_ne.mpr (Ne.symm same),
          Bool.false_eq_true, if_false, List.flatMap_nil]

/-- The characters of a text match the text. -/
theorem outcomes_chars (literal front rest : Text) (groups : List (Nat × Span)) :
    (seqs (literal.map char)).outcomes (State.between front (literal ++ rest) groups) =
      [State.between (front ++ literal) rest groups] := by
  have starts : literal.isPrefixOf? (literal ++ rest) = some rest :=
    List.isPrefixOf?_eq_some_iff_append_eq.mpr rfl
  have taken := outcomes_chars_append literal [] front (literal ++ rest) groups
  rw [List.append_nil, starts] at taken
  exact taken

theorem outcomes_text (literal : String) (front rest : Text) (groups : List (Nat × Span)) :
    (Pattern.text literal).outcomes (State.between front (literal.toList ++ rest) groups) =
      [State.between (front ++ literal.toList) rest groups] :=
  outcomes_chars literal.toList front rest groups

/-- Where a text does not stand, it is not matched. -/
theorem outcomes_text_nil {literal : String} (absent : ¬ literal.toList <+: text) (front : Text)
    (groups : List (Nat × Span)) :
    (Pattern.text literal).outcomes (State.between front text groups) = [] := by
  have taken := outcomes_chars_append literal.toList [] front text groups
  rw [List.append_nil] at taken
  refine taken.trans ?_
  cases starts : literal.toList.isPrefixOf? text with
  | none => rfl
  | some rest =>
    rw [← List.isPrefixOf?_eq_some_iff_append_eq.mp starts] at absent
    exact absurd (List.prefix_append _ _) absent

/-- **Of several texts** the one that stands there is matched, if no other does. -/
theorem prefers_alts_text {list : List String} {word : String} (listed : word ∈ list)
    (others : ∀ other ∈ list, other ≠ word → ¬ other.toList <+: word.toList ++ rest)
    (front : Text) (groups : List (Nat × Span)) : (alts (list.map Pattern.text)).Prefers
      (State.between front (word.toList ++ rest) groups)
      (State.between (front ++ word.toList) rest groups) := by
  have here := prefers_of_outcomes (outcomes_text word front rest groups)
  induction list with
  | nil => cases listed
  | cons first list ih =>
    cases list with
    | nil =>
      obtain rfl := List.mem_singleton.mp listed
      exact here
    | cons second list =>
      by_cases same : first = word
      · rw [← same] at here ⊢
        exact here.alt_left
      · have later := List.mem_of_ne_of_mem (Ne.symm same) listed
        refine Prefers.alt_right ?_ (ih later fun other mem => others other (.tail first mem))
        exact outcomes_text_nil (others first List.mem_cons_self same) front groups

theorem begins_char (c : Char) : (char c).Begins (· == c) :=
  (begins_set _).mono fun d none => (CharSet.contains_char c d).trans none

/-- A text begins with its first character. -/
theorem begins_text (literal : String) {more : Text} (h : literal.toList = c :: more) :
    (Pattern.text literal).Begins (· == c) := by
  rw [Pattern.text, chars, h]
  cases more with
  | nil => exact begins_char c
  | cons d more => exact (begins_char c).seq _

/-! ## Repetitions -/

/-- The rounds of a repetition from a state on: there is one at a time, each consumes something, and
after the last there is none. -/
inductive Rounds (body : Pattern) : State → List State → Prop
  | stop {s : State} : body.outcomes s = [] → Rounds body s []
  | next {s t : State} {later : List State} : body.outcomes s = [t] → s.offset < t.offset →
      t.rest.length < s.rest.length → Rounds body t later → Rounds body s (t :: later)

/-- Whether a repetition without choice ends in a state. -/
def Runs (body : Pattern) (s u : State) : Prop :=
  ∃ later, Rounds body s later ∧ (s :: later).getLast? = some u

theorem Runs.stop (h : body.outcomes s = []) : Runs body s s := ⟨[], .stop h, rfl⟩

theorem Runs.next (h : body.outcomes s = [t]) (offset : s.offset < t.offset)
    (shorter : t.rest.length < s.rest.length) (runs : Runs body t u) : Runs body s u := by
  obtain ⟨later, rounds, last⟩ := runs
  exact ⟨t :: later, .next h offset shorter rounds, (List.getLast?_cons_cons ..).trans last⟩

theorem Rounds.length_le {later : List State} (rounds : Rounds body s later) :
    later.length ≤ s.rest.length := by
  induction rounds with
  | stop => exact Nat.zero_le _
  | next _ _ shorter _ ih => exact Nat.lt_of_le_of_lt ih shorter

/-- The order in which a repetition prefers the ends of its rounds. -/
def Greed.arrange (greed : Greed) (ends : List State) : List State :=
  match greed with
  | .greedy => ends.reverse
  | .lazy => ends

/-- Exploring rounds without choice passes them all. -/
theorem Rounds.explore {later : List State} (rounds : Rounds body s later) (greed : Greed)
    {fuel : Nat} (enough : later.length ≤ fuel) (trail : Trail)
    (behind : ∀ offset ∈ trail.reached.head?, offset ≤ s.offset) :
    (explore body.outcomes greed fuel s trail).found =
      (greed.arrange later).reverse ++ trail.found := by
  induction rounds generalizing fuel trail with
  | @stop s none =>
    have nothing : (greed.arrange []).reverse = [] := by cases greed <;> rfl
    rw [nothing]
    cases fuel with
    | zero => rfl
    | succ fuel =>
      unfold Pattern.explore
      rw [none]
      rfl
  | @next s t later one further _ _ ih =>
    cases fuel with
    | zero => cases enough
    | succ fuel =>
      have marked : trail.mark? t.offset =
          some { trail with reached := t.offset :: trail.reached } := by
        unfold Trail.mark?
        cases reached : trail.reached with
        | nil => rfl
        | cons top below =>
          have lower : top < t.offset :=
            Nat.lt_of_le_of_lt (behind top (by rw [reached]; rfl)) further
          rw [Trail.insert?, if_pos lower]
          rfl
      have later := fun found => ih (Nat.le_of_succ_le_succ enough)
        ⟨t.offset :: trail.reached, found⟩ (by intro offset mem; cases mem; exact Nat.le_refl _)
      unfold Pattern.explore
      rw [one]
      simp only [List.foldl_cons, List.foldl_nil, marked, if_neg (Nat.ne_of_gt further)]
      cases greed with
      | greedy =>
        refine (congrArg (t :: ·) (later trail.found)).trans ?_
        simp only [Greed.arrange, List.reverse_reverse, List.cons_append]
      | lazy =>
        refine (later (t :: trail.found)).trans ?_
        simp only [Greed.arrange, List.reverse_cons, List.append_assoc, List.singleton_append]

theorem Rounds.outcomes_plus {later : List State} (rounds : Rounds body s later) (greed : Greed) :
    (plus greed body).outcomes s = greed.arrange later := by
  have found := rounds.explore greed (Nat.le_succ_of_le rounds.length_le) Trail.empty
    (by intro _ none; cases none)
  rw [outcomes, found]
  refine (congrArg List.reverse (List.append_nil _)).trans ?_
  rw [List.reverse_reverse]

theorem Begins.plus (h : p.Begins first) (greed : Greed) : (plus greed p).Begins first := by
  intro s none
  rw [(Rounds.stop (h s none)).outcomes_plus]
  cases greed <;> rfl

theorem Rounds.outcomes_star {later : List State} (rounds : Rounds body s later) (greed : Greed) :
    (star greed body).outcomes s = greed.arrange (s :: later) := by
  cases greed with
  | greedy =>
    refine (congrArg (· ++ [s]) (rounds.outcomes_plus .greedy)).trans ?_
    simp only [Greed.arrange, List.reverse_cons]
  | lazy => exact congrArg (s :: ·) (rounds.outcomes_plus .lazy)

/-- **A repetition without choice prefers to go on** as long as it can. -/
theorem Runs.prefers_plus (runs : Runs body s u) (h : s ≠ u) : (plus .greedy body).Prefers s u := by
  obtain ⟨later, rounds, last⟩ := runs
  rw [Prefers, rounds.outcomes_plus, Greed.arrange, List.head?_reverse]
  cases later with
  | nil => exact absurd (Option.some.inj last) h
  | cons t later => rwa [List.getLast?_cons_cons] at last

theorem Runs.prefers_star (runs : Runs body s u) : (star .greedy body).Prefers s u := by
  obtain ⟨later, rounds, last⟩ := runs
  rw [Prefers, rounds.outcomes_star, Greed.arrange, List.head?_reverse, last]

/-- **What cannot start as a round does** follows a repetition at its end only. -/
theorem Runs.outcomes_seq_star (runs : Runs body s u)
    (apart : ∀ t, body.outcomes t ≠ [] → q.outcomes t = []) :
    (seq (star .greedy body) q).outcomes s = q.outcomes u := by
  obtain ⟨later, rounds, last⟩ := runs
  rw [outcomes, rounds.outcomes_star, Greed.arrange]
  induction rounds with
  | stop =>
    cases last
    exact List.flatMap_singleton ..
  | @next s t later one _ _ _ ih =>
    rw [List.getLast?_cons_cons] at last
    have early : q.outcomes s = [] := apart s (by rw [one]; exact List.cons_ne_nil _ _)
    rw [List.reverse_cons, List.flatMap_append, ih last, List.flatMap_singleton, early,
      List.append_nil]

/-- A run of characters of a set, up to one that is not. -/
theorem runs_set (front : Text) (all : ∀ c ∈ text, chars.contains c = true)
    (ends : ∀ c ∈ rest.head?, chars.contains c = false) (groups : List (Nat × Span)) :
    Runs (set chars) (State.between front (text ++ rest) groups)
      (State.between (front ++ text) rest groups) := by
  induction text generalizing front with
  | nil =>
    rw [List.nil_append, List.append_nil]
    exact .stop (begins_set chars _ ends)
  | cons c text ih =>
    have one := outcomes_set_cons chars front c (text ++ rest) groups
    rw [if_pos (all c List.mem_cons_self)] at one
    refine .next one ?_ (Nat.lt_succ_self _) ?_
    · exact State.offset_between_lt front (text ++ rest) (List.cons_ne_nil c [])
    · have later : Runs (set chars) (State.between (front ++ [c]) (text ++ rest) groups)
          (State.between (front ++ [c] ++ text) rest groups) :=
        ih (front ++ [c]) fun d mem => all d (List.mem_cons_of_mem c mem)
      rwa [List.append_assoc] at later

/-- **As many characters of a set as there are** are preferred. -/
theorem prefers_star_set (front : Text) (all : ∀ c ∈ text, chars.contains c = true)
    (ends : ∀ c ∈ rest.head?, chars.contains c = false) (groups : List (Nat × Span)) :
    (star .greedy (set chars)).Prefers (State.between front (text ++ rest) groups)
      (State.between (front ++ text) rest groups) :=
  (runs_set front all ends groups).prefers_star

theorem prefers_plus_set (front : Text) (some : text ≠ [])
    (all : ∀ c ∈ text, chars.contains c = true) (ends : ∀ c ∈ rest.head?, chars.contains c = false)
    (groups : List (Nat × Span)) :
    (plus .greedy (set chars)).Prefers (State.between front (text ++ rest) groups)
      (State.between (front ++ text) rest groups) := by
  refine (runs_set front all ends groups).prefers_plus fun same => ?_
  exact Nat.ne_of_lt (State.offset_between_lt front rest some) (congrArg (fun s => s.offset) same)

/-! ## Matches -/

/-- The preferred outcome is the match. -/
theorem Prefers.matchAt? {front' rest' : Text}
    (h : p.Prefers (State.between front rest []) (State.between front' rest' groups)) :
    p.matchAt? (Cursor.between front rest) =
      some ⟨⟨front.byteSize, front'.byteSize⟩, groups⟩ := by
  unfold Prefers at h
  have start : State.start (Cursor.between front rest) = State.between front rest [] := rfl
  rw [Pattern.matchAt?, start, h]
  rfl

theorem matchAt?_of_outcomes (h : p.outcomes (State.between front rest []) = []) :
    p.matchAt? (Cursor.between front rest) = none := by
  have start : State.start (Cursor.between front rest) = State.between front rest [] := rfl
  rw [Pattern.matchAt?, start, h]
  rfl

end Highlight.Pattern
