import Highlight.Proofs.Pattern.Extent
import Highlight.Proofs.Pattern.Preference
import Mathlib.Data.List.Basic
import Mathlib.Data.List.Induction

/-!
# What a pattern can match

`Matches` tells, by recursion over the pattern, which texts it can match between two others. It
leaves out which match is preferred, so it is a bound on what is found and no more: every outcome is
such a match (`exists_matches_of_mem`). The counted forms are not looked into.

Where a pattern ends with a group, the group is what its body matches at the end
(`exists_matches_of_group`).
-/

namespace Highlight.Pattern

/-- Whether a text consists of one or more stretches of which each is in its place. -/
inductive Iterated (Fits : Text → Text → Text → Prop) : Text → Text → Text → Prop
  | one {front taken rest : Text} : Fits front taken rest → Iterated Fits front taken rest
  | more {front first second rest : Text} : Iterated Fits front first (second ++ rest) →
      Fits (front ++ first) second rest → Iterated Fits front (first ++ second) rest

/-- Whether a pattern can match a text between two others. -/
def Matches : Pattern → Text → Text → Text → Prop
  | empty, _, taken, _ => taken = []
  | set chars, _, taken, _ => ∃ c, taken = [c] ∧ chars.contains c = true
  | check assertion, front, taken, rest =>
    taken = [] ∧ assertion.holds front.getLast? rest.head? = true
  | seq p q, front, taken, rest => ∃ first second, taken = first ++ second ∧
      p.Matches front first (second ++ rest) ∧ q.Matches (front ++ first) second rest
  | alt p q, front, taken, rest => p.Matches front taken rest ∨ q.Matches front taken rest
  | plus _ p, front, taken, rest => Iterated p.Matches front taken rest
  | group _ p, front, taken, rest | once _ p, front, taken, rest | settled p, front, taken, rest
  | forget p, front, taken, rest => p.Matches front taken rest
  | times _ _ _, _, _, _ | atMost _ _ _ _ _, _, _, _ => True

variable {p : Pattern} {patterns : List Pattern} {s t : State} {chars : CharSet} {greed : Greed}
  {front taken rest : Text} {m : Match}

/-! ## Forms of patterns -/

theorem matches_set : (set chars).Matches front taken rest ↔
    ∃ c, taken = [c] ∧ chars.contains c = true :=
  Iff.rfl

theorem matches_char {c : Char} : (char c).Matches front taken rest ↔ taken = [c] := by
  unfold char
  simp only [matches_set, CharSet.contains_char, beq_iff_eq]
  constructor
  · rintro ⟨_, rfl, rfl⟩
    rfl
  · rintro rfl
    exact ⟨c, rfl, rfl⟩

theorem matches_plus_set : (plus greed (set chars)).Matches front taken rest ↔
    taken ≠ [] ∧ ∀ c ∈ taken, chars.contains c = true := by
  constructor
  · intro iterated
    unfold Matches at iterated
    induction iterated with
    | one fits =>
      obtain ⟨c, rfl, mem⟩ := fits
      exact ⟨List.cons_ne_nil _ _, List.forall_mem_singleton.mpr mem⟩
    | more _ fits ih =>
      obtain ⟨c, rfl, mem⟩ := fits
      exact ⟨List.append_ne_nil_of_left_ne_nil ih.1 _,
        List.forall_mem_append.mpr ⟨ih.2, List.forall_mem_singleton.mpr mem⟩⟩
  · rintro ⟨nonempty, all⟩
    induction taken using List.reverseRecOn generalizing rest with
    | nil => exact absurd rfl nonempty
    | append_singleton taken c ih =>
      obtain ⟨earlier, last⟩ := List.forall_mem_append.mp all
      have fits : (set chars).Matches (front ++ taken) [c] rest :=
        ⟨c, rfl, last c List.mem_cons_self⟩
      cases taken with
      | nil => exact .one (by rwa [List.append_nil] at fits)
      | cons d taken => exact .more (ih (List.cons_ne_nil _ _) earlier) fits

/-- A part that may be left out. -/
theorem matches_opt : (opt greed p).Matches front taken rest ↔
    p.Matches front taken rest ∨ taken = [] := by
  cases greed with
  | greedy => exact Iff.rfl
  | lazy => exact Or.comm

theorem matches_star_set : (star greed (set chars)).Matches front taken rest ↔
    ∀ c ∈ taken, chars.contains c = true := by
  rw [star, matches_opt, matches_plus_set]
  constructor
  · rintro (⟨-, all⟩ | rfl)
    · exact all
    · exact List.forall_mem_nil _
  · intro all
    by_cases nonempty : taken = []
    · exact .inr nonempty
    · exact .inl ⟨nonempty, all⟩

theorem matches_seqs_cons : (seqs (p :: patterns)).Matches front taken rest ↔
    ∃ first second, taken = first ++ second ∧ p.Matches front first (second ++ rest) ∧
      (seqs patterns).Matches (front ++ first) second rest := by
  cases patterns with
  | cons q patterns => exact Iff.rfl
  | nil =>
    constructor
    · intro fits
      exact ⟨taken, [], (List.append_nil _).symm, fits, rfl⟩
    · rintro ⟨first, second, rfl, fits, empty⟩
      obtain rfl : second = [] := empty
      rwa [List.append_nil]

theorem matches_seqs_nil : (seqs []).Matches front taken rest ↔ taken = [] := Iff.rfl

theorem matches_seqs_append {others : List Pattern} :
    (seqs (patterns ++ others)).Matches front taken rest ↔
      ∃ first second, taken = first ++ second ∧
        (seqs patterns).Matches front first (second ++ rest) ∧
          (seqs others).Matches (front ++ first) second rest := by
  induction patterns generalizing front taken with
  | nil =>
    constructor
    · intro fits
      exact ⟨[], taken, rfl, rfl, by rwa [List.append_nil]⟩
    · rintro ⟨_, second, rfl, rfl, fits⟩
      rwa [List.append_nil] at fits
  | cons p patterns ih =>
    rw [List.cons_append, matches_seqs_cons]
    constructor
    · rintro ⟨first, _, rfl, here, there⟩
      obtain ⟨second, third, rfl, fits, fits'⟩ := ih.mp there
      refine ⟨first ++ second, third, (List.append_assoc ..).symm, ?_, ?_⟩
      · rw [List.append_assoc] at here
        exact matches_seqs_cons.mpr ⟨first, second, rfl, here, fits⟩
      · rwa [← List.append_assoc]
    · rintro ⟨_, third, rfl, fits, fits'⟩
      obtain ⟨first, second, rfl, here, there⟩ := matches_seqs_cons.mp fits
      rw [← List.append_assoc] at fits'
      rw [← List.append_assoc] at here
      exact ⟨first, second ++ third, List.append_assoc .., here,
        ih.mpr ⟨second, third, rfl, there, fits'⟩⟩

/-- Characters in front of other patterns. -/
theorem matches_chars_append {literal : Text} :
    (seqs (literal.map char ++ patterns)).Matches front taken rest ↔
      ∃ later, taken = literal ++ later ∧
        (seqs patterns).Matches (front ++ literal) later rest := by
  induction literal generalizing front taken with
  | nil =>
    rw [List.map_nil, List.nil_append, List.append_nil]
    exact ⟨fun fits => ⟨taken, rfl, fits⟩, fun ⟨_, same, fits⟩ => same ▸ fits⟩
  | cons c literal ih =>
    rw [List.map_cons, List.cons_append, matches_seqs_cons]
    constructor
    · rintro ⟨first, second, rfl, here, there⟩
      obtain rfl := matches_char.mp here
      obtain ⟨later, rfl, fits⟩ := ih.mp there
      rw [List.append_assoc] at fits
      exact ⟨later, rfl, fits⟩
    · rintro ⟨later, rfl, fits⟩
      refine ⟨[c], literal ++ later, rfl, matches_char.mpr rfl, ih.mpr ⟨later, rfl, ?_⟩⟩
      rwa [List.append_assoc]

theorem matches_text {literal : String} :
    (Pattern.text literal).Matches front taken rest ↔ taken = literal.toList := by
  have spelled : (seqs (literal.toList.map char ++ [])).Matches front taken rest ↔ _ :=
    matches_chars_append
  rw [List.append_nil] at spelled
  refine spelled.trans ?_
  simp only [matches_seqs_nil, exists_eq_right, List.append_nil]

theorem matches_alts : (alts patterns).Matches front taken rest ↔
    ∃ p ∈ patterns, p.Matches front taken rest := by
  induction patterns with
  | nil =>
    refine iff_of_false ?_ ?_
    · rintro ⟨c, -, none⟩
      cases none
    · rintro ⟨p, none, -⟩
      cases none
  | cons p patterns ih =>
    rw [List.exists_mem_cons_iff]
    cases patterns with
    | nil => simp [alts]
    | cons q patterns => exact or_congr Iff.rfl ih

/-! ## Outcomes are matches -/

/-- Whether a state stands somewhere behind a text, in what follows it. -/
def State.Reached (front rest : Text) (t : State) : Prop :=
  ∃ taken later, rest = taken ++ later ∧ t.toCursor = Cursor.between (front ++ taken) later

/-- What is reached behind what has been reached. -/
theorem State.Reached.trans {later : Text} (h : t.Reached (front ++ taken) later)
    (split : rest = taken ++ later) : t.Reached front rest := by
  obtain ⟨more, last, rfl, place⟩ := h
  refine ⟨taken ++ more, last, ?_, ?_⟩
  · rw [split, List.append_assoc]
  · rw [place, List.append_assoc]

/-- To enter a part does not move. -/
theorem State.toCursor_of_enter? {mark : Nat} (entered : s.enter? mark = some t) :
    t.toCursor = s.toCursor := by
  unfold enter? at entered
  split at entered
  · cases entered
  · cases entered
    rfl

section Counted

variable {count stride : Nat} (reaches : ∀ {front rest : Text} {s t : State},
  s.toCursor = Cursor.between front rest → t ∈ p.outcomes s → t.Reached front rest)

include reaches

/-- Counted rounds reach what a round can reach. -/
theorem reached_of_mem_times (place : s.toCursor = Cursor.between front rest)
    (mem : t ∈ (times count stride p).outcomes s) : t.Reached front rest := by
  refine goRounds_keeps (P := State.Reached front rest) ?_ count 0 ?_ t mem
  · rintro index u ⟨taken, later, split, place'⟩ v mem
    obtain ⟨w, round, rfl⟩ := List.mem_map.mp mem
    have raised : (u.raise (index * stride)).toCursor = _ := place'
    have reached : w.Reached (front ++ taken) later := reaches raised round
    exact reached.trans split
  · intro u mem
    obtain rfl := List.mem_singleton.mp mem
    exact ⟨[], rest, rfl, by rwa [List.append_nil]⟩

/-- And so do rounds that may be left out. -/
theorem reached_of_mem_atMost {mark : Option Nat} (place : s.toCursor = Cursor.between front rest)
    (mem : t ∈ (atMost greed mark count stride p).outcomes s) : t.Reached front rest := by
  simp only [outcomes] at mem
  have mem := List.mem_reverse.mp (mem_of_mem_distinct mem)
  refine descend_found (P := State.Reached front rest) ?_ ?_ greed _
    ⟨[], rest, rfl, by rwa [List.append_nil]⟩ (by simp) t mem
  · rintro left u ⟨taken, later, split, place'⟩ v mem
    obtain ⟨w, round, rfl⟩ := List.mem_map.mp mem
    have raised : (u.raise ((usefulRounds mark count s - 1 - left) * stride)).toCursor = _ := place'
    have reached : w.Reached (front ++ taken) later := reaches raised round
    exact reached.trans split
  · intro left u v chosen reached
    cases mark with
    | none =>
      cases chosen
      exact reached
    | some mark =>
      obtain ⟨w, entered, rfl⟩ := Option.map_eq_some_iff.mp chosen
      obtain ⟨taken, later, split, place'⟩ := reached
      exact ⟨taken, later, split, (State.toCursor_of_enter? entered).trans place'⟩

end Counted

/-- **Every outcome is a match**: it stands behind a text that the pattern can match there. -/
theorem exists_matches_of_mem (place : s.toCursor = Cursor.between front rest)
    (mem : t ∈ p.outcomes s) : ∃ taken later, rest = taken ++ later ∧
      t.toCursor = Cursor.between (front ++ taken) later ∧ p.Matches front taken later := by
  induction p generalizing s t front rest with
  | empty =>
    obtain rfl := List.mem_singleton.mp mem
    exact ⟨[], rest, rfl, by rwa [List.append_nil], rfl⟩
  | set chars =>
    unfold outcomes at mem
    have next : s.rest = rest := congrArg Cursor.rest place
    rw [next] at mem
    cases rest with
    | nil => cases mem
    | cons c rest =>
      dsimp only at mem
      split at mem
      · next inside =>
        obtain rfl := List.mem_singleton.mp mem
        refine ⟨[c], rest, rfl, ?_, c, rfl, inside⟩
        have same : s.offset = front.byteSize := congrArg Cursor.offset place
        simp only [State.advance, Cursor.between, same, Text.byteSize_append, Text.byteSize,
          Nat.add_zero, List.getLast?_concat]
      · cases mem
  | check assertion =>
    unfold outcomes at mem
    split at mem
    · next holds =>
      obtain rfl := List.mem_singleton.mp mem
      refine ⟨[], rest, rfl, by rwa [List.append_nil], rfl, ?_⟩
      rwa [show t.before = front.getLast? from congrArg Cursor.before place,
        show t.rest = rest from congrArg Cursor.rest place] at holds
    · cases mem
  | seq p q hp hq =>
    obtain ⟨u, first, second⟩ := List.mem_flatMap.mp mem
    obtain ⟨taken, middle, rfl, place', fits⟩ := hp place first
    obtain ⟨more, later, rfl, reached, fits'⟩ := hq place' second
    refine ⟨taken ++ more, later, (List.append_assoc ..).symm, ?_, taken, more, rfl, fits, fits'⟩
    rw [reached, List.append_assoc]
  | alt p q hp hq =>
    rcases List.mem_append.mp mem with mem | mem
    · obtain ⟨taken, later, split, reached, fits⟩ := hp place mem
      exact ⟨taken, later, split, reached, .inl fits⟩
    · obtain ⟨taken, later, split, reached, fits⟩ := hq place mem
      exact ⟨taken, later, split, reached, .inr fits⟩
  | plus greed p ih =>
    have rounds := rounds_of_mem_plus mem
    clear mem
    induction rounds with
    | single first =>
      obtain ⟨taken, later, split, reached, fits⟩ := ih place first
      exact ⟨taken, later, split, reached, .one fits⟩
    | tail _ last earlier =>
      obtain ⟨taken, middle, rfl, place', iterated⟩ := earlier
      obtain ⟨more, later, rfl, reached, fits⟩ := ih place' last
      refine ⟨taken ++ more, later, (List.append_assoc ..).symm, ?_, .more iterated fits⟩
      rw [reached, List.append_assoc]
  | group index p ih =>
    obtain ⟨u, reached, rfl⟩ := List.mem_map.mp mem
    have body := ih place reached
    exact body
  | once mark p ih =>
    unfold outcomes at mem
    split at mem
    · cases mem
    · next u entered => exact ih ((State.toCursor_of_enter? entered).trans place) mem
  | times count stride p ih =>
    obtain ⟨taken, later, split, reached⟩ := reached_of_mem_times (fun place mem => by
      obtain ⟨taken, later, split, reached, -⟩ := ih place mem
      exact ⟨taken, later, split, reached⟩) place mem
    exact ⟨taken, later, split, reached, trivial⟩
  | atMost greed mark count stride p ih =>
    obtain ⟨taken, later, split, reached⟩ := reached_of_mem_atMost (fun place mem => by
      obtain ⟨taken, later, split, reached, -⟩ := ih place mem
      exact ⟨taken, later, split, reached⟩) place mem
    exact ⟨taken, later, split, reached, trivial⟩
  | settled p ih =>
    have body := ih place (mem_of_mem_distinct mem)
    exact body
  | forget p ih =>
    obtain ⟨u, reached, rfl⟩ := List.mem_map.mp mem
    have body := ih place reached
    exact body

/-- A pattern that can match nothing in a place does not match there. -/
theorem matchAt?_of_not_matches (absent : ∀ taken later, rest = taken ++ later →
    ¬ p.Matches front taken later) : p.matchAt? (Cursor.between front rest) = none := by
  refine matchAt?_of_outcomes (List.eq_nil_iff_forall_not_mem.mpr fun t mem => ?_)
  obtain ⟨taken, later, split, -, fits⟩ := exists_matches_of_mem rfl mem
  exact absent taken later split fits

/-- What is matched as a whole. -/
theorem exists_matches_of_whole (h : p.matchAt? (Cursor.between front rest) = some m) :
    ∃ taken later, rest = taken ++ later ∧ p.Matches front taken later ∧
      m.whole = ⟨front.byteSize, (front ++ taken).byteSize⟩ := by
  obtain ⟨t, mem, rfl⟩ := exists_of_matchAt? h
  obtain ⟨taken, later, split, reached, fits⟩ := exists_matches_of_mem rfl mem
  refine ⟨taken, later, split, fits, ?_⟩
  rw [show t.offset = (front ++ taken).byteSize from congrArg Cursor.offset reached]
  rfl

theorem outcomes_seqs_append (patterns others : List Pattern) (s : State) :
    (seqs (patterns ++ others)).outcomes s =
      ((seqs patterns).outcomes s).flatMap (seqs others).outcomes := by
  induction patterns generalizing s with
  | nil => exact (List.flatMap_singleton ..).symm
  | cons p patterns ih =>
    simp only [List.cons_append, outcomes_seqs_cons, List.flatMap_assoc]
    exact List.flatMap_congr fun t _ => ih t

/-- **What a group at the end of a pattern is**: what its body matches behind what stands in front
of it. -/
theorem exists_matches_of_group {index : Nat} (part : index ≠ 0) {span : Span}
    (h : (seqs (patterns ++ [group index p])).matchAt? (Cursor.between front rest) = some m)
    (span_eq : m.group? index = some span) :
    ∃ lead taken later, rest = lead ++ (taken ++ later) ∧
      (seqs patterns).Matches front lead (taken ++ later) ∧
        p.Matches (front ++ lead) taken later ∧
          span = ⟨(front ++ lead).byteSize, (front ++ lead ++ taken).byteSize⟩ ∧
            m.whole = ⟨front.byteSize, span.stop⟩ := by
  obtain ⟨t, mem, rfl⟩ := exists_of_matchAt? h
  rw [outcomes_seqs_append] at mem
  obtain ⟨u, first, second⟩ := List.mem_flatMap.mp mem
  obtain ⟨v, last, rfl⟩ := List.mem_map.mp second
  obtain ⟨lead, middle, rfl, place, fits⟩ := exists_matches_of_mem rfl first
  obtain ⟨taken, later, rfl, reached, fits'⟩ := exists_matches_of_mem place last
  have start : u.offset = (front ++ lead).byteSize := congrArg Cursor.offset place
  have stop : v.offset = (front ++ lead ++ taken).byteSize := congrArg Cursor.offset reached
  have closed : span = ⟨u.offset, v.offset⟩ := by
    rw [Match.group?, if_neg part] at span_eq
    simp only [State.close, List.lookup_cons, beq_self_eq_true] at span_eq
    exact (Option.some.inj span_eq).symm
  rw [start, stop] at closed
  refine ⟨lead, taken, later, rfl, fits, fits', closed, ?_⟩
  rw [closed, ← stop]
  rfl

end Highlight.Pattern
