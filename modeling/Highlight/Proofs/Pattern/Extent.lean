import Highlight.Pattern.Search
import Highlight.Proofs.Text.Boundary

/-!
# How far a match reaches

A match consumes characters of the searched text and nothing else: whatever the pattern, its
outcomes stand in the text (`Cursor.StandsIn`), no earlier than where the match began, and every
group it reports is a stretch of what was matched (`State.Inside`). This is the one invariant of
`outcomes`; the loops (`goRounds`, `descend`) keep every property that their rounds keep, and a
repetition leads where rounds of its body do (`rounds_of_mem_plus`), so each is gone through once,
for any property.

From it follows what a search promises (`search?_within`): a match lies at or after the offset it
was asked for, its ends are boundaries, and so are those of its groups, which lie inside it.
-/

namespace Highlight.Pattern

/-- Whether a cursor stands in a text: what is left of the text starts there, and the character
before it is the last of those passed. -/
def Cursor.StandsIn (text : Text) (cursor : Cursor) : Prop :=
  ∃ front : Text, text = front ++ cursor.rest ∧ front.byteSize = cursor.offset ∧
    cursor.before = front.getLast?

/-- Whether a span is a stretch of a text between two offsets. -/
structure Span.Within (text : Text) (low high : Nat) (span : Span) : Prop where
  low_le : low ≤ span.start
  ordered : span.start ≤ span.stop
  le_high : span.stop ≤ high
  start_boundary : text.IsBoundary span.start
  stop_boundary : text.IsBoundary span.stop

/-- Whether a state is one of a match that began no earlier than at `low`. -/
structure State.Inside (text : Text) (low : Nat) (s : State) : Prop where
  stands : s.toCursor.StandsIn text
  begun : low ≤ s.offset
  groups : ∀ entry ∈ s.groups, entry.2.Within text low s.offset

/-- Whether a match may come from one state to another: never backwards, and never out of the
text. -/
def State.LeadsTo (text : Text) (low : Nat) (s t : State) : Prop :=
  t.Inside text low ∧ s.offset ≤ t.offset

variable {text : Text} {low : Nat}

theorem Cursor.StandsIn.isBoundary {cursor : Cursor} (h : cursor.StandsIn text) :
    text.IsBoundary cursor.offset := by
  obtain ⟨front, eq, size, _⟩ := h
  exact ⟨front, cursor.rest, eq, size⟩

/-- Behind the next character a cursor stands in the text too. -/
theorem Cursor.StandsIn.next {cursor : Cursor} (h : cursor.StandsIn text) {c : Char} {rest : Text}
    (next : cursor.rest = c :: rest) :
    Cursor.StandsIn text ⟨cursor.offset + c.utf8Size, some c, rest⟩ := by
  obtain ⟨front, eq, size, _⟩ := h
  refine ⟨front ++ [c], ?_, ?_, List.getLast?_concat.symm⟩
  · simp only [eq, next]
    exact (List.append_assoc front [c] rest).symm
  · simp only [Text.byteSize_append, size]
    rfl

/-- A span stays within wider bounds. -/
theorem Span.Within.mono {span : Span} {high low' high' : Nat} (h : span.Within text low high)
    (lower : low' ≤ low) (higher : high ≤ high') : span.Within text low' high' :=
  ⟨Nat.le_trans lower h.low_le, h.ordered, Nat.le_trans h.le_high higher, h.start_boundary,
    h.stop_boundary⟩

/-- A span cuts the text in three. -/
theorem Span.Within.exists_parts {span : Span} {high : Nat} (h : span.Within text low high) :
    ∃ front run back : Text, text = front ++ run ++ back ∧
      span = ⟨front.byteSize, (front ++ run).byteSize⟩ := by
  obtain ⟨front, rest, split, start⟩ := h.start_boundary
  obtain ⟨long, back, split', stop⟩ := h.stop_boundary
  have ordered := h.ordered
  rw [← start, ← stop] at ordered
  obtain ⟨run, rfl, -⟩ := Text.exists_middle (split.symm.trans split') ordered
  exact ⟨front, run, back, split', by rw [start, stop]⟩

theorem State.Inside.leadsTo {s : State} (h : s.Inside text low) : s.LeadsTo text low s :=
  ⟨h, Nat.le_refl _⟩

theorem State.LeadsTo.trans {s t u : State} (h : s.LeadsTo text low t)
    (h' : t.LeadsTo text low u) : s.LeadsTo text low u :=
  ⟨h'.1, Nat.le_trans h.2 h'.2⟩

/-- Consuming the next character leads on. -/
theorem State.Inside.advance {s : State} (h : s.Inside text low) {c : Char} {rest : Text}
    (next : s.rest = c :: rest) : s.LeadsTo text low (s.advance c rest) := by
  have further : s.offset ≤ s.offset + c.utf8Size := Nat.le_add_right _ _
  refine ⟨⟨h.stands.next next, Nat.le_trans h.begun further, ?_⟩, further⟩
  intro entry mem
  exact (h.groups entry mem).mono (Nat.le_refl _) further

/-- Closing a group where a state leads reports a stretch that was matched. -/
theorem State.LeadsTo.close {s t : State} (inside : s.Inside text low) (h : s.LeadsTo text low t)
    (index : Nat) : s.LeadsTo text low (t.close index s.offset) := by
  refine ⟨⟨h.1.stands, h.1.begun, ?_⟩, h.2⟩
  intro entry mem
  rcases List.mem_cons.mp mem with rfl | older
  · exact ⟨inside.begun, h.2, Nat.le_refl _, inside.stands.isBoundary, h.1.stands.isBoundary⟩
  · exact h.1.groups entry (List.mem_filter.mp older).1

/-- Entering a node moves nothing. -/
theorem State.Inside.enter {s t : State} (h : s.Inside text low) {mark : Nat}
    (entered : s.enter? mark = some t) : s.LeadsTo text low t := by
  unfold State.enter? at entered
  split at entered
  · cases entered
  · cases entered
    exact ⟨⟨h.stands, h.begun, h.groups⟩, Nat.le_refl _⟩

/-- How far marks are raised says nothing about the place. -/
theorem State.LeadsTo.withRaised {s t : State} (h : s.LeadsTo text low t) (raised : Nat) :
    s.LeadsTo text low { t with raised } :=
  ⟨⟨h.1.stands, h.1.begun, h.1.groups⟩, h.2⟩

/-! ## Loops keep what their rounds keep -/

section Loops

variable {P : State → Prop}

theorem mem_of_mem_unseen {seen : Std.HashSet Nat} {states : List State} {t : State}
    (mem : t ∈ unseen seen states) : t ∈ states := by
  induction states generalizing seen with
  | nil => exact mem
  | cons s rest ih =>
    simp only [unseen] at mem
    split at mem
    · exact List.mem_cons_of_mem s (ih mem)
    · rcases List.mem_cons.mp mem with rfl | later
      · exact List.mem_cons_self
      · exact List.mem_cons_of_mem s (ih later)

theorem mem_of_mem_distinct {states : List State} {t : State} (mem : t ∈ distinct states) :
    t ∈ states := by
  unfold distinct at mem
  split at mem
  · exact mem
  · exact mem
  · exact mem_of_mem_unseen mem

/-- Whether one or more rounds lead from one state to another. -/
abbrev RoundsLead (round : State → List State) : State → State → Prop :=
  Relation.TransGen fun s t => t ∈ round s

/-- Every state on the trail of a repetition is where rounds lead. -/
theorem explore_rounds (round : State → List State) (greed : Greed) (fuel : Nat) (s : State)
    (trail : Trail) : ∀ t ∈ (explore round greed fuel s trail).found,
      t ∈ trail.found ∨ RoundsLead round s t := by
  induction fuel generalizing s trail with
  | zero => exact fun t old => .inl old
  | succ fuel ih =>
    simp only [explore]
    -- What is on the trail stays accounted for from one end of the round to the next.
    refine List.foldlRecOn (motive := fun later : Trail => ∀ t ∈ later.found,
      t ∈ trail.found ∨ RoundsLead round s t) _ _ (fun t => .inl) ?_
    intro later found t mem
    have here : RoundsLead round s t := .single mem
    have add : ∀ more : Trail,
        (∀ u ∈ more.found, u ∈ trail.found ∨ RoundsLead round s u) →
        ∀ u ∈ (more.add t).found, u ∈ trail.found ∨ RoundsLead round s u := by
      intro more found u mem
      rcases List.mem_cons.mp mem with rfl | older
      · exact .inr here
      · exact found u older
    have onward : ∀ more : Trail,
        (∀ u ∈ more.found, u ∈ trail.found ∨ RoundsLead round s u) →
        ∀ u ∈ (explore round greed fuel t more).found,
          u ∈ trail.found ∨ RoundsLead round s u := by
      intro more found u mem
      rcases ih t more u mem with older | rounds
      · exact found u older
      · exact .inr (here.trans rounds)
    cases marked : later.mark? t.offset with
    | none => exact found
    | some next =>
      obtain ⟨reached, _, rfl⟩ := Option.map_eq_some_iff.mp marked
      simp only
      split
      · exact add _ found
      · cases greed with
        | greedy => exact add _ (onward _ found)
        | lazy => exact onward _ (add _ found)

/-- **A repetition** leads where one or more rounds of its body do. -/
theorem rounds_of_mem_plus {p : Pattern} {greed : Greed} {s t : State}
    (mem : t ∈ (plus greed p).outcomes s) :
    RoundsLead p.outcomes s t := by
  simp only [outcomes, List.mem_reverse] at mem
  exact (explore_rounds p.outcomes greed _ s Trail.empty t mem).resolve_left List.not_mem_nil

/-- Counted rounds keep what one round keeps. -/
theorem goRounds_keeps {round : Nat → State → List State}
    (keeps : ∀ index s, P s → ∀ t ∈ round index s, P t) (count index : Nat) {states : List State}
    (hs : ∀ s ∈ states, P s) : ∀ t ∈ goRounds round count index states, P t := by
  induction count generalizing index states with
  | zero => exact hs
  | succ count ih =>
    have following : ∀ t ∈ distinct (states.flatMap (round index)), P t := by
      intro t mem
      obtain ⟨s, before, mem⟩ := List.mem_flatMap.mp (mem_of_mem_distinct mem)
      exact keeps index s (hs s before) t mem
    simp only [goRounds]
    split
    · exact following
    · exact ih (index + 1) following

/-- Optional rounds keep what one round and the choice before it keep. -/
theorem descend_found {round : Nat → State → List State} {choose : Nat → State → Option State}
    (keeps : ∀ left s, P s → ∀ t ∈ round left s, P t)
    (chooses : ∀ left s t, choose left s = some t → P s → P t) (greed : Greed) (left : Nat)
    {s : State} (hs : P s) {descent : Descent} (found : ∀ t ∈ descent.found, P t) :
    ∀ t ∈ (descend round choose greed left s descent).found, P t := by
  induction left generalizing s descent with
  | zero =>
    intro t mem
    rcases List.mem_cons.mp mem with rfl | older
    · exact hs
    · exact found t older
  | succ left ih =>
    simp only [descend]
    split
    · exact found
    · cases chosen : choose left s with
      | none => exact found
      | some u =>
        have hu : P u := chooses left s u chosen hs
        have goOn : ∀ descent : Descent, (∀ t ∈ descent.found, P t) →
            ∀ t ∈ ((round left u).foldl
              (fun descent t => descend round choose greed left t descent) descent).found, P t := by
          intro descent found
          refine List.foldlRecOn (motive := fun descent : Descent => ∀ t ∈ descent.found, P t)
            _ _ found ?_
          intro descent found t mem
          exact ih (keeps left u hu t mem) found
        have stop : ∀ descent : Descent, (∀ t ∈ descent.found, P t) →
            ∀ t ∈ u :: descent.found, P t := by
          intro descent found t mem
          rcases List.mem_cons.mp mem with rfl | older
          · exact hu
          · exact found t older
        cases greed with
        | greedy => exact stop _ (goOn _ found)
        | lazy => exact goOn _ (stop _ found)

end Loops

/-! ## Outcomes -/

/-- **Every outcome of a pattern stands in the text**, no earlier than where it started, and so do
its groups. By induction over the pattern; a loop is left to the lemma about it. -/
theorem outcomes_leadsTo (p : Pattern) {s : State} (inside : s.Inside text low) :
    ∀ t ∈ p.outcomes s, s.LeadsTo text low t := by
  induction p generalizing s with
  | empty =>
    intro t mem
    obtain rfl := List.mem_singleton.mp mem
    exact inside.leadsTo
  | set chars =>
    intro t mem
    simp only [outcomes] at mem
    split at mem
    · cases mem
    · next c rest next =>
      split at mem
      · obtain rfl := List.mem_singleton.mp mem
        exact inside.advance next
      · cases mem
  | check assertion =>
    intro t mem
    simp only [outcomes] at mem
    split at mem
    · obtain rfl := List.mem_singleton.mp mem
      exact inside.leadsTo
    · cases mem
  | seq p q hp hq =>
    intro t mem
    obtain ⟨u, first, second⟩ := List.mem_flatMap.mp mem
    have led := hp inside u first
    exact led.trans (hq led.1 t second)
  | alt p q hp hq =>
    intro t mem
    rcases List.mem_append.mp mem with left | right
    · exact hp inside t left
    · exact hq inside t right
  | plus greed p ih =>
    intro t mem
    have rounds := rounds_of_mem_plus mem
    clear mem
    induction rounds with
    | single first => exact ih inside _ first
    | tail _ last led => exact led.trans (ih led.1 _ last)
  | group index p ih =>
    intro t mem
    obtain ⟨u, reached, rfl⟩ := List.mem_map.mp mem
    exact (ih inside u reached).close inside index
  | once mark p ih =>
    intro t mem
    simp only [outcomes] at mem
    split at mem
    · cases mem
    · next u entered =>
      have led := inside.enter entered
      exact led.trans (ih led.1 t mem)
  | times count stride p ih =>
    refine goRounds_keeps (P := s.LeadsTo text low) ?_ count 0 ?_
    · intro index u led t mem
      obtain ⟨v, reached, rfl⟩ := List.mem_map.mp mem
      have raised := led.withRaised (u.raised + index * stride)
      exact (raised.trans (ih raised.1 v reached)).withRaised s.raised
    · intro t mem
      obtain rfl := List.mem_singleton.mp mem
      exact inside.leadsTo
  | atMost greed mark count stride p ih =>
    intro t mem
    simp only [outcomes] at mem
    have mem := List.mem_reverse.mp (mem_of_mem_distinct mem)
    refine descend_found (P := s.LeadsTo text low) ?_
      ?_ greed _ inside.leadsTo
      (by simp) t mem
    · intro left u led v mem
      obtain ⟨w, reached, rfl⟩ := List.mem_map.mp mem
      have raised := led.withRaised (u.raised + (usefulRounds mark count s - 1 - left) * stride)
      exact (raised.trans (ih raised.1 w reached)).withRaised s.raised
    · intro left u v chosen led
      cases mark with
      | none =>
        cases chosen
        exact led
      | some mark =>
        obtain ⟨w, entered, rfl⟩ := Option.map_eq_some_iff.mp chosen
        have raised :=
          led.withRaised (u.raised + (usefulRounds (some mark) count s - 1 - left) * stride)
        exact (raised.trans (raised.1.enter entered)).withRaised s.raised
  | settled p ih =>
    intro t mem
    exact ih inside t (mem_of_mem_distinct mem)
  | forget p ih =>
    intro t mem
    obtain ⟨u, reached, rfl⟩ := List.mem_map.mp mem
    have led := ih inside u reached
    exact ⟨⟨led.1.stands, led.1.begun, led.1.groups⟩, led.2⟩

/-! ## Searches -/

/-- Whether a match and its groups are stretches of a text, the groups inside the match. -/
structure Match.Within (text : Text) (low : Nat) (m : Match) : Prop where
  whole : m.whole.Within text low text.byteSize
  groups : ∀ index span, m.group? index = some span →
    span.Within text m.whole.start m.whole.stop

/-- A match starts in a state that stands at its position. -/
theorem Cursor.StandsIn.inside_start {cursor : Cursor} (stands : cursor.StandsIn text) :
    (State.start cursor).Inside text cursor.offset :=
  ⟨stands, Nat.le_refl _, fun _ none => absurd none List.not_mem_nil⟩

/-- A match at a position is the way to an outcome. -/
theorem exists_of_matchAt? {p : Pattern} {cursor : Cursor} {m : Match}
    (h : p.matchAt? cursor = some m) :
    ∃ t ∈ p.outcomes (State.start cursor), m = ⟨⟨cursor.offset, t.offset⟩, t.groups⟩ := by
  obtain ⟨t, first, rfl⟩ := Option.map_eq_some_iff.mp h
  exact ⟨t, List.mem_of_mem_head? first, rfl⟩

/-- A group of a match other than the whole is one that took part. -/
theorem mem_groups_of_group? {m : Match} {index : Nat} {span : Span} (part : index ≠ 0)
    (h : m.group? index = some span) : (index, span) ∈ m.groups := by
  rw [Match.group?, if_neg part] at h
  obtain ⟨before, after, split, _⟩ := List.lookup_eq_some_iff.mp h
  rw [split]
  exact List.mem_append_right before List.mem_cons_self

/-- A match at a position starts there. -/
theorem matchAt?_within {p : Pattern} {cursor : Cursor} {m : Match}
    (stands : cursor.StandsIn text) (h : p.matchAt? cursor = some m) :
    m.Within text cursor.offset := by
  obtain ⟨t, mem, rfl⟩ := exists_of_matchAt? h
  obtain ⟨inside', le⟩ := outcomes_leadsTo p stands.inside_start t mem
  have boundary : text.IsBoundary t.offset := inside'.stands.isBoundary
  have whole : (⟨cursor.offset, t.offset⟩ : Span).Within text cursor.offset t.offset :=
    ⟨Nat.le_refl _, le, Nat.le_refl _, stands.isBoundary, boundary⟩
  refine ⟨whole.mono (Nat.le_refl _) boundary.le, ?_⟩
  intro index span hspan
  by_cases zero : index = 0
  · subst zero
    cases hspan
    exact whole
  · exact inside'.groups (index, span) (mem_groups_of_group? zero hspan)

/-- A match found from a position on is one at a position there or later. -/
theorem exists_matchAt?_of_searchFrom? {p : Pattern} {offset : Nat} {before : Option Char}
    {rest : Text} {m : Match} (stands : Cursor.StandsIn text ⟨offset, before, rest⟩)
    (h : p.searchFrom? offset before rest = some m) :
    ∃ cursor, cursor.StandsIn text ∧ offset ≤ cursor.offset ∧ p.matchAt? cursor = some m := by
  induction rest generalizing offset before with
  | nil => exact ⟨_, stands, Nat.le_refl _, h⟩
  | cons c rest ih =>
    simp only [searchFrom?] at h
    cases here : p.matchAt? ⟨offset, before, c :: rest⟩ with
    | some found =>
      rw [here] at h
      cases h
      exact ⟨_, stands, Nat.le_refl _, here⟩
    | none =>
      rw [here] at h
      obtain ⟨cursor, stands, le, found⟩ := ih (stands.next rfl) h
      exact ⟨cursor, stands, Nat.le_of_add_right_le le, found⟩

/-- A position that was sought is in the text, and not before the target. -/
theorem seek?_standsIn {target offset : Nat} {before : Option Char} {rest : Text}
    {cursor : Cursor} (stands : Cursor.StandsIn text ⟨offset, before, rest⟩)
    (h : seek? target offset before rest = some cursor) :
    cursor.StandsIn text ∧ target ≤ cursor.offset := by
  induction rest generalizing offset before with
  | nil =>
    simp only [seek?] at h
    split at h
    · next reached =>
      cases h
      exact ⟨stands, reached⟩
    · cases h
  | cons c rest ih =>
    simp only [seek?] at h
    split at h
    · next reached =>
      cases h
      exact ⟨stands, reached⟩
    · exact ih (stands.next rfl) h

/-- **What a search finds** is a match at a position of the text, at the given offset or later. -/
theorem exists_matchAt?_of_search? {p : Pattern} {start : Nat} {m : Match}
    (h : p.search? text start = some m) :
    ∃ cursor, cursor.StandsIn text ∧ start ≤ cursor.offset ∧ p.matchAt? cursor = some m := by
  obtain ⟨cursor, sought, found⟩ := Option.bind_eq_some_iff.mp h
  obtain ⟨stands, reached⟩ := seek?_standsIn ⟨[], rfl, rfl, rfl⟩ sought
  obtain ⟨place, stands, le, here⟩ := exists_matchAt?_of_searchFrom? stands found
  exact ⟨place, stands, Nat.le_trans reached le, here⟩

/-- What a search finds lies in the text from the given offset on, and its groups lie in it. -/
theorem search?_within {p : Pattern} {start : Nat} {m : Match}
    (h : p.search? text start = some m) : m.Within text start := by
  obtain ⟨cursor, stands, reached, here⟩ := exists_matchAt?_of_search? h
  have within := matchAt?_within stands here
  exact ⟨within.whole.mono reached (Nat.le_refl _), within.groups⟩

end Highlight.Pattern
