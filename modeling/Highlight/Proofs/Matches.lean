import Highlight.Proofs.Scan

/-!
# The matches of a text, one after another

The matches of a pattern from an offset on, none of which overlaps another (`Successive`): each is
searched from the end of the one before, and an empty match that touches it is passed over by going
on one byte further. What a rule finds in a window by asking again and again (`Repeated`) are the
groups of these matches that hold something (`repeated_iff_successive`), although the rule asks from
other offsets: it passes over a match whose group holds nothing by itself, and behind an empty one
it goes on at the next boundary. Two facts carry this: a search from where a match starts finds the
same match (`search?_start`), and a search from inside a character is one from behind it
(`search?_nextBoundary`).
-/

namespace Highlight

open Pattern (Cursor Match Span)

namespace Pattern

variable {p : Pattern} {text front rest : Text} {ended : Option Nat} {start : Nat} {m : Match}

/-- The next match when the last one ended at `ended`: the leftmost from an offset on, unless it is
empty and touches the last one; then the search goes on one byte further. -/
def next? (p : Pattern) (text : Text) (ended : Option Nat) (start : Nat) : Option Match :=
  (p.search? text start).bind fun m =>
    if m.whole.isEmpty ∧ ended = some m.whole.stop then p.search? text (start + 1) else some m

/-- The matches from an offset on when the last one before it ended at `ended`. -/
inductive Successive (p : Pattern) (text : Text) : Option Nat → Nat → List Match → Prop
  | done {ended : Option Nat} {start : Nat} (none : p.next? text ended start = none) :
    Successive p text ended start []
  | next {ended : Option Nat} {start : Nat} {m : Match} {later : List Match}
    (found : p.next? text ended start = some m)
    (onward : Successive p text (some m.whole.stop) m.whole.stop later) :
    Successive p text ended start (m :: later)

/-- There is one way in which matches follow each other. -/
theorem Successive.unique {series series' : List Match}
    (h : p.Successive text ended start series) (h' : p.Successive text ended start series') :
    series' = series := by
  induction h generalizing series' with
  | done none =>
    cases h' with
    | done _ => rfl
    | next found _ =>
      rw [none] at found
      cases found
  | next found _ ih =>
    cases h' with
    | done none =>
      rw [found] at none
      cases none
    | next found' onward =>
      rw [found] at found'
      cases found'
      rw [ih onward]

/-! ## Searches from other offsets -/

/-- **A search from where a match starts** finds the match. -/
theorem search?_start (h : p.search? text start = some m) :
    p.search? text m.whole.start = some m := by
  obtain ⟨cursor, ⟨front, whole, size, before⟩, _, here⟩ := exists_matchAt?_of_search? h
  obtain ⟨_, _, rfl⟩ := exists_of_matchAt? here
  have between : cursor = Cursor.between front cursor.rest := by
    rw [Cursor.between, size, ← before]
  rw [between] at here
  rw [whole]
  exact size ▸ search?_here here

/-- Inside a character the boundary behind it is sought out. -/
theorem seek?_inside {c : Char} {offset : Nat} {before : Option Char}
    (low : offset + front.byteSize < start)
    (high : start ≤ offset + front.byteSize + c.utf8Size) :
    seek? start offset before (front ++ c :: rest) =
      seek? (offset + front.byteSize + c.utf8Size) offset before (front ++ c :: rest) := by
  induction front generalizing offset before with
  | nil =>
    simp only [Text.byteSize, Nat.add_zero] at low high
    have pos : 0 < c.utf8Size := c.utf8Size_pos
    simp only [List.nil_append, Text.byteSize, Nat.add_zero, seek?,
      if_neg (Nat.not_le.mpr low), if_neg (Nat.not_le.mpr (Nat.lt_add_of_pos_right pos))]
    cases rest with
    | nil => simp only [seek?, if_pos high, if_pos (Nat.le_refl _)]
    | cons d rest => simp only [seek?, if_pos high, if_pos (Nat.le_refl _)]
  | cons d front ih =>
    simp only [Text.byteSize] at low high ⊢
    have pos : 0 < d.utf8Size := d.utf8Size_pos
    simp only [List.cons_append, seek?]
    rw [if_neg (by omega), if_neg (by omega), ih (by omega) (by omega)]
    congr 1
    omega

/-- **A search from one byte behind a boundary** is one from the next boundary. -/
theorem search?_nextBoundary (boundary : text.IsBoundary start) :
    p.search? text (start + 1) = p.search? text (Rule.nextBoundary text start) := by
  obtain ⟨front, rest, rfl, rfl⟩ := boundary
  unfold Rule.nextBoundary
  rw [Text.cutAt?_append]
  cases rest with
  | nil =>
    dsimp only
    rw [List.append_nil]
  | cons c rest =>
    dsimp only
    have pos : 0 < c.utf8Size := c.utf8Size_pos
    have sought : seek? (front.byteSize + 1) 0 none (front ++ c :: rest) =
        seek? (0 + front.byteSize + c.utf8Size) 0 none (front ++ c :: rest) :=
      seek?_inside (by omega) (by omega)
    rw [Nat.zero_add] at sought
    rw [search?, search?, sought]

/-! ## From one match to the next -/

/-- The next match is one that is searched from the offset or later. -/
theorem exists_search?_of_next? (found : p.next? text ended start = some m) :
    ∃ place, start ≤ place ∧ p.search? text place = some m := by
  obtain ⟨first, searched, found⟩ := Option.bind_eq_some_iff.mp found
  split at found
  · exact ⟨start + 1, Nat.le_succ start, found⟩
  · cases found
    exact ⟨start, Nat.le_refl _, searched⟩

/-- Behind a match that ended at the offset, the next one ends further on. -/
theorem lt_stop_of_next? (found : p.next? text (some start) start = some m) :
    start < m.whole.stop := by
  obtain ⟨first, searched, found⟩ := Option.bind_eq_some_iff.mp found
  split at found
  · have within := (search?_within found).whole
    exact Nat.lt_of_lt_of_le within.low_le within.ordered
  · next apart =>
    cases found
    have within := (search?_within searched).whole
    have low := within.low_le
    have ordered := within.ordered
    simp only [Span.isEmpty, decide_eq_true_eq, Option.some.injEq] at apart
    omega

/-- Whether the second of two matches begins further on and not before the end of the first. -/
def Match.Precedes (a b : Match) : Prop :=
  a.whole.start < b.whole.start ∧ a.whole.stop ≤ b.whole.start

/-- **The next match** begins behind the last one. -/
theorem precedes_of_next? {last : Match} (searched : p.search? text start = some last)
    (found : p.next? text (some last.whole.stop) last.whole.stop = some m) : last.Precedes m := by
  have within := (search?_within searched).whole
  obtain ⟨place, low, searched'⟩ := exists_search?_of_next? found
  have onward : last.whole.stop ≤ m.whole.start :=
    Nat.le_trans low (search?_within searched').whole.low_le
  refine ⟨?_, onward⟩
  by_cases empty : last.whole.isEmpty = true
  · -- Where an empty match ended it is searched again, so the next one comes from one byte further.
    have same : last.whole.stop = last.whole.start :=
      Nat.le_antisymm (of_decide_eq_true empty) within.ordered
    have again := search?_start searched
    rw [← same] at again
    unfold next? at found
    rw [again, Option.bind_some, if_pos ⟨empty, rfl⟩] at found
    have further := (search?_within found).whole.low_le
    omega
  · have nonempty : last.whole.start < last.whole.stop := by
      simpa [Span.isEmpty] using empty
    exact Nat.lt_of_lt_of_le nonempty onward

/-- Successive matches stand in order. -/
theorem Successive.precedes {last : Match} {later : List Match}
    (searched : p.search? text start = some last)
    (h : p.Successive text (some last.whole.stop) last.whole.stop later) :
    (last :: later).Pairwise Match.Precedes := by
  induction later generalizing last start with
  | nil => exact List.pairwise_singleton _ last
  | cons m rest ih =>
    cases h with
    | next found onward =>
      obtain ⟨_, _, searched'⟩ := exists_search?_of_next? found
      have ordered := ih searched' onward
      have first := precedes_of_next? searched found
      refine List.pairwise_cons.mpr ⟨?_, ordered⟩
      intro other mem
      rcases List.mem_cons.mp mem with rfl | mem
      · exact first
      · have second := (List.pairwise_cons.mp ordered).1 other mem
        have behind := (search?_within searched').whole.ordered
        exact ⟨Nat.lt_trans first.1 second.1,
          Nat.le_trans first.2 (Nat.le_trans behind second.2)⟩

theorem Successive.pairwise {series : List Match} (h : p.Successive text ended start series) :
    series.Pairwise Match.Precedes := by
  cases h with
  | done _ => exact .nil
  | next found onward =>
    obtain ⟨_, _, searched⟩ := exists_search?_of_next? found
    exact onward.precedes searched

/-- Matches follow each other to an end. -/
theorem exists_successive_of_stop (p : Pattern) (text : Text) (start : Nat) :
    ∃ series, p.Successive text (some start) start series := by
  induction left : text.byteSize + 1 - start using Nat.strongRecOn generalizing start with
  | _ _ ih =>
    cases found : p.next? text (some start) start with
    | none => exact ⟨[], .done found⟩
    | some m =>
      have further := lt_stop_of_next? found
      obtain ⟨_, _, searched⟩ := exists_search?_of_next? found
      have high := (search?_within searched).whole.le_high
      obtain ⟨later, onward⟩ := ih _ (by omega) m.whole.stop rfl
      exact ⟨m :: later, .next found onward⟩

theorem exists_successive (p : Pattern) (text : Text) (start : Nat) :
    ∃ series, p.Successive text none start series := by
  cases found : p.next? text none start with
  | none => exact ⟨[], .done found⟩
  | some m =>
    obtain ⟨later, onward⟩ := exists_successive_of_stop p text m.whole.stop
    exact ⟨m :: later, .next found onward⟩

end Pattern

namespace Rule

variable {rule : Rule} {text : Text} {ended : Option Nat} {start stop : Nat} {m : Match}

/-- The find of a match: its group, unless that took no part or is empty. -/
def findOf? (rule : Rule) (m : Match) : Option Find :=
  ((m.group? rule.group).filter (!·.isEmpty)).map fun span =>
    ⟨span.start, span.stop, m.whole.stop⟩

/-- What is found in a window by asking again and again, each time from where the last find says
that the search goes on, until nothing is found or the window is exhausted. -/
inductive Repeated (rule : Rule) (text : Text) (stop : Nat) : Nat → List Find → Prop
  | exhausted {start : Nat} (behind : stop ≤ start) : Repeated rule text stop start []
  | done {start : Nat} (inside : start < stop) (none : rule.findIn text start stop = .ok none) :
    Repeated rule text stop start []
  | next {start : Nat} {find : Find} {later : List Find} (inside : start < stop)
    (found : rule.findIn text start stop = .ok (some find))
    (onward : Repeated rule text stop find.resume later) :
    Repeated rule text stop start (find :: later)

/-- All finds of a text from an offset on. -/
def finds (rule : Rule) (text : Text) (start : Nat) : List Find :=
  rule.findsFrom text (text.byteSize - start) start

/-! ## One find after another -/

theorem finds_of_none (none : rule.find? text start = none) : rule.finds text start = [] := by
  unfold finds
  cases text.byteSize - start with
  | zero => rfl
  | succ fuel => rw [findsFrom, none]

theorem finds_of_some {find : Find} (found : rule.find? text start = some find) :
    rule.finds text start = find :: rule.finds text find.resume := by
  have within := find?_within found
  have low := within.low_le
  have nonempty := within.nonempty
  have behind := within.stop_le_resume
  have high := within.resume_le
  unfold finds
  obtain ⟨fuel, hfuel⟩ : ∃ k, text.byteSize - start = k + 1 :=
    ⟨text.byteSize - start - 1, by omega⟩
  rw [hfuel, findsFrom, found]
  exact congrArg (find :: ·) (findsFrom_fuel (by omega) (Nat.le_refl _))

/-- An empty match gives no find. -/
theorem findOf?_of_isEmpty {low : Nat} (within : m.Within text low)
    (empty : m.whole.isEmpty = true) : rule.findOf? m = none := by
  unfold findOf?
  rw [Option.map_eq_none_iff, Option.filter_eq_none_iff]
  intro span group
  have inside := within.groups _ _ group
  have low := inside.low_le
  have high := inside.le_high
  simp only [Span.isEmpty, decide_eq_true_eq] at empty
  simp only [Span.isEmpty, Bool.not_eq_true', decide_eq_false_iff_not, Nat.not_le]
  omega

/-- **The first find** is that of the match that is searched; a match that gives none is passed
over. -/
theorem find?_eq (rule : Rule) (text : Text) (start : Nat) :
    rule.find? text start = (rule.pattern.search? text start).bind fun m =>
      (rule.findOf? m).or (rule.find? text
        (if m.whole.isEmpty then nextBoundary text m.whole.start else m.whole.stop)) := by
  cases searched : rule.pattern.search? text start with
  | none =>
    unfold find?
    dsimp only
    cases text.byteSize - start with
    | zero => rfl
    | succ fuel =>
      rw [findFrom, searched]
      exact ite_self none
  | some m =>
    have further := lt_passOver searched
    by_cases inside : start < text.byteSize
    · obtain ⟨fuel, hfuel⟩ : ∃ k, text.byteSize - start = k + 1 :=
        ⟨text.byteSize - start - 1, by omega⟩
      unfold find? findOf?
      dsimp only
      rw [hfuel, findFrom, if_pos inside, searched]
      dsimp only
      split
      · next span kept =>
        rw [Option.bind_some, kept]
        rfl
      · next none =>
        rw [Option.bind_some, none]
        exact findFrom_fuel (by omega) (Nat.le_refl _)
    · -- Every match at the end is empty, and behind it nothing is searched.
      have within := Pattern.search?_within searched
      have empty : m.whole.isEmpty = true := by
        have low := within.whole.low_le
        have high := within.whole.le_high
        simp only [Span.isEmpty, decide_eq_true_eq]
        omega
      have here : rule.find? text start = none := findFrom_of_le (Nat.not_lt.mp inside) _
      rw [here, Option.bind_some, findOf?_of_isEmpty within empty, Option.none_or]
      exact (findFrom_of_le (by omega) _).symm

theorem finds_congr {start' : Nat} (same : rule.find? text start = rule.find? text start') :
    rule.finds text start = rule.finds text start' := by
  cases found : rule.find? text start with
  | none => rw [finds_of_none found, finds_of_none (same ▸ found)]
  | some find =>
    rw [finds_of_some found]
    exact (finds_of_some (same ▸ found)).symm

/-- **The finds from an offset on** are that of the match that is searched, if it gives one, and
those from its end on. -/
theorem finds_of_search? (searched : rule.pattern.search? text start = some m) :
    rule.finds text start = (rule.findOf? m).toList ++ rule.finds text m.whole.stop := by
  have first := find?_eq rule text start
  rw [searched, Option.bind_some] at first
  cases classified : rule.findOf? m with
  | some find =>
    rw [classified, Option.some_or] at first
    obtain ⟨span, _, rfl⟩ := Option.map_eq_some_iff.mp classified
    exact finds_of_some first
  | none =>
    rw [classified, Option.none_or] at first
    refine finds_congr ?_
    by_cases empty : m.whole.isEmpty = true
    · -- From the place of an empty match the same match is searched, and passed over.
      have again := find?_eq rule text m.whole.start
      rw [Pattern.search?_start searched, Option.bind_some, classified, Option.none_or] at again
      have whole := (Pattern.search?_within searched).whole
      have place : m.whole.stop = m.whole.start :=
        Nat.le_antisymm (of_decide_eq_true empty) whole.ordered
      rw [first, ← again, place]
    · rwa [if_neg empty] at first

/-- The finds from an offset at which an empty match is searched are those from one byte on. -/
theorem finds_of_touching (searched : rule.pattern.search? text start = some m)
    (empty : m.whole.isEmpty = true) (touches : m.whole.stop = start) :
    rule.finds text start = rule.finds text (start + 1) := by
  have within := Pattern.search?_within searched
  have place : m.whole.start = start := by
    have low := within.whole.low_le
    have ordered := within.whole.ordered
    omega
  have boundary := within.whole.start_boundary
  rw [place] at boundary
  refine finds_congr ?_
  rw [find?_eq rule text start, searched, Option.bind_some, findOf?_of_isEmpty within empty,
    Option.none_or, if_pos empty, place, find?_eq rule text (start + 1),
    Pattern.search?_nextBoundary boundary, ← find?_eq]

/-- **One match after another**: the finds from an offset on are that of the next match and those
from its end on. -/
theorem finds_of_next? (since : ∀ stop, ended = some stop → stop = start) :
    rule.finds text start = (rule.pattern.next? text ended start).elim [] fun m =>
      (rule.findOf? m).toList ++ rule.finds text m.whole.stop := by
  have here : ∀ start, rule.finds text start = (rule.pattern.search? text start).elim [] fun m =>
      (rule.findOf? m).toList ++ rule.finds text m.whole.stop := by
    intro start
    cases searched : rule.pattern.search? text start with
    | none => exact finds_of_none (by rw [find?_eq, searched, Option.bind_none])
    | some m => exact finds_of_search? searched
  unfold Pattern.next?
  cases searched : rule.pattern.search? text start with
  | none => rw [here, searched, Option.bind_none]
  | some m =>
    rw [Option.bind_some]
    split
    · next touching =>
      rw [finds_of_touching searched touching.1 (since _ touching.2), here]
    · rw [here, searched]

/-- **The finds** are those of successive matches. -/
theorem finds_of_successive {series : List Match}
    (h : rule.pattern.Successive text ended start series)
    (since : ∀ stop, ended = some stop → stop = start) :
    rule.finds text start = series.filterMap rule.findOf? := by
  induction h with
  | done none => rw [finds_of_next? since, none, Option.elim_none, List.filterMap_nil]
  | @next _ _ m _ found _ ih =>
    rw [finds_of_next? since, found, Option.elim_some, ih fun _ same => (Option.some.inj same).symm,
      List.filterMap_cons]
    cases rule.findOf? m <;> rfl

/-! ## Asking again and again -/

variable {front back : Text}

theorem findIn_append (rule : Rule) (front back : Text) (start : Nat) :
    rule.findIn (front ++ back) start front.byteSize = .ok (rule.find? front start) := by
  rw [findIn, Text.cutAt?_append]

/-- **Asking again and again** comes to an end, in one way, and gives all finds. -/
theorem repeated_iff {found : List Find} :
    rule.Repeated (front ++ back) front.byteSize start found ↔ found = rule.finds front start := by
  constructor
  · intro h
    induction h with
    | exhausted behind => exact (finds_of_none (findFrom_of_le behind _)).symm
    | done _ none =>
      rw [findIn_append] at none
      exact (finds_of_none (Except.ok.inj none)).symm
    | next _ found _ ih =>
      rw [findIn_append] at found
      rw [finds_of_some (Except.ok.inj found), ih]
  · rintro rfl
    induction left : front.byteSize - start using Nat.strongRecOn generalizing start with
    | _ _ ih =>
      by_cases inside : start < front.byteSize
      · cases found : rule.find? front start with
        | none =>
          rw [finds_of_none found]
          exact .done inside (by rw [findIn_append, found])
        | some find =>
          have within := find?_within found
          have low := within.low_le
          have nonempty := within.nonempty
          have behind := within.stop_le_resume
          rw [finds_of_some found]
          exact .next inside (by rw [findIn_append, found]) (ih _ (by omega) rfl)
      · rw [finds_of_none (findFrom_of_le (Nat.not_lt.mp inside) _)]
        exact .exhausted (Nat.not_lt.mp inside)

/-- **The finds of a window are the groups of successive matches.** From any offset on there is one
series of matches that follow each other up to the end of the window, in order. A rule that is asked
for a find in the window again and again comes to an end with the groups of these matches that took
part and are not empty, and with nothing else. -/
theorem repeated_iff_successive (rule : Rule) (front back : Text) (start : Nat) :
    ∃ series, (∀ other, rule.pattern.Successive front none start other ↔ other = series) ∧
      series.Pairwise Match.Precedes ∧
      (∀ found, rule.Repeated (front ++ back) front.byteSize start found ↔
        found = series.filterMap rule.findOf?) ∧
      rule.findAll (front ++ back) start front.byteSize = .ok (series.filterMap rule.findOf?) := by
  obtain ⟨series, successive⟩ := Pattern.exists_successive rule.pattern front start
  have finds : rule.finds front start = series.filterMap rule.findOf? :=
    finds_of_successive successive fun _ none => by cases none
  refine ⟨series, ?_, successive.pairwise, ?_, ?_⟩
  · intro other
    exact ⟨successive.unique, fun same => same ▸ successive⟩
  · intro found
    rw [← finds]
    exact repeated_iff
  · rw [findAll, Text.cutAt?_append, ← finds]
    rfl

end Rule

end Highlight
