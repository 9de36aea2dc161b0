import Highlight.Proofs.Finds
import Highlight.Proofs.Words.Letters

/-!
# Places outside words

A word edge at the end of a window is one at the end of the text there, so it says nothing about the
source unless the window ends where a word does. Windows end where tokens begin. This module tells
from the form of a rule that its tokens begin outside words, whatever the source and the window.

What is read off a pattern is an approximation, and each function stands with its meaning:
`isGuarded` (nothing is matched inside a word, `not_inWord_of_isGuarded`), `startsOutside` (nothing
is taken there, `startsOutside_sound`), `endsOutside` (what is matched ends outside words,
`endsOutside_sound`) and `groupsOutside` (no group begins inside a word, `groupsOutside_sound`). The
counted forms, of which the grammars that come with the program have none, are not looked into.
-/

namespace Highlight

open Pattern (Span)

namespace Text

/-- Whether an offset lies inside a word: there are word characters on both sides. -/
def InWord (text : Text) (offset : Nat) : Prop :=
  ∃ front back : Text, text = front ++ back ∧ front.byteSize = offset ∧
    front.getLast?.any Unicode.isWord = true ∧ back.head?.any Unicode.isWord = true

theorem inWord_append {front back : Text} : InWord (front ++ back) front.byteSize ↔
    front.getLast?.any Unicode.isWord = true ∧ back.head?.any Unicode.isWord = true := by
  constructor
  · rintro ⟨front', back', parts, size, sides⟩
    obtain ⟨rfl, rfl⟩ := append_inj_of_byteSize parts size.symm
    exact sides
  · intro sides
    exact ⟨front, back, rfl, rfl, sides⟩

/-- What lies inside a word, before the text ends earlier, does so when it ends earlier. -/
theorem InWord.of_append {front back : Text} {offset : Nat} (h : InWord (front ++ back) offset)
    (lt : offset < front.byteSize) : front.InWord offset := by
  obtain ⟨before, behind, parts, rfl, last, first⟩ := h
  obtain ⟨middle, rfl, rfl⟩ := exists_middle parts.symm (Nat.le_of_lt lt)
  cases middle with
  | nil => simp at lt
  | cons c middle => exact ⟨before, c :: middle, rfl, rfl, last, first⟩

/-- No word goes on at the end. -/
theorem not_inWord_byteSize (text : Text) : ¬ text.InWord text.byteSize := by
  rintro ⟨front, back, rfl, size, -, first⟩
  rw [byteSize_append] at size
  obtain rfl := byteSize_eq_zero.mp (show back.byteSize = 0 by omega)
  cases first

end Text

namespace Pattern

variable {text : Text} {low : Nat} {s t : State} {p q : Pattern} {chars : CharSet} {c : Char}

/-- Whether a cursor stands inside a word. -/
def Cursor.inWord (cursor : Cursor) : Bool :=
  cursor.before.any Unicode.isWord && cursor.rest.head?.any Unicode.isWord

theorem Cursor.StandsIn.inWord_iff {cursor : Cursor} (stands : cursor.StandsIn text) :
    text.InWord cursor.offset ↔ cursor.inWord = true := by
  obtain ⟨front, rfl, size, before⟩ := stands
  rw [← size, Text.inWord_append, Cursor.inWord, before, Bool.and_eq_true]

/-! ## What the form of a pattern tells -/

/-- Whether a set is seen to hold no word characters. -/
def CharSet.isApart : CharSet → Bool
  | nothing | blank => true
  | range first last => first == last && !Unicode.isWord first
  | union a b => a.isApart && b.isApart
  | _ => false

theorem CharSet.not_isWord_of_isApart (apart : chars.isApart = true)
    (mem : chars.contains c = true) : Unicode.isWord c = false := by
  induction chars with
  | nothing => cases mem
  | blank => exact Unicode.not_isWord_of_isWhiteSpace mem
  | range first last =>
    obtain ⟨same, outside⟩ := Bool.and_eq_true_iff.mp apart
    obtain rfl := beq_iff_eq.mp same
    obtain rfl := beq_iff_eq.mp ((contains_char first c).symm.trans mem)
    exact Bool.not_eq_true' _ |>.mp outside
  | union a b ha hb =>
    obtain ⟨left, right⟩ := Bool.and_eq_true_iff.mp apart
    exact (Bool.or_eq_true_iff.mp mem).elim (ha left) (hb right)
  | decimal | word | within | compl | fold => cases apart

/-- Whether a pattern is seen to match nothing, not even the empty text, inside a word. -/
def isGuarded : Pattern → Bool
  | check (.lineStart _) => true
  | check (.word .boundary letters) => letters == .word
  | set chars => chars.isApart
  | seq p _ | plus _ p | group _ p => p.isGuarded
  | alt p q => p.isGuarded && q.isGuarded
  | _ => false

/-- Whether a pattern is seen to take nothing inside a word; it may match the empty text there. -/
def startsOutside : Pattern → Bool
  | empty | check _ => true
  | set chars => chars.isApart
  | seq p q => p.isGuarded || (p.startsOutside && q.startsOutside)
  | alt p q => p.startsOutside && q.startsOutside
  | plus _ p | group _ p => p.startsOutside
  | _ => false

/-- Whether what a pattern matches is seen to end outside words, where `outside` says whether it is
known to begin there. -/
def endsOutside (outside : Bool) : Pattern → Bool
  | empty => outside
  | check assertion => outside || (check assertion).isGuarded
  | set chars => chars.isApart
  | seq p q => q.endsOutside (p.endsOutside outside)
  | alt p q => p.endsOutside outside && q.endsOutside outside
  | plus _ p => p.endsOutside false
  | group _ p => p.endsOutside outside
  | _ => false

/-- Whether the groups of a pattern that are not empty are seen to begin outside words. -/
def groupsOutside (outside : Bool) : Pattern → Bool
  | empty | check _ | set _ => true
  | seq p q => p.groupsOutside outside && q.groupsOutside (p.endsOutside outside)
  | alt p q => p.groupsOutside outside && q.groupsOutside outside
  | plus _ p => p.groupsOutside false
  | group _ p => p.groupsOutside outside && (outside || p.startsOutside)
  | _ => false

/-! ## What it means -/

/-- A line starts behind no word. -/
theorem not_isWord_of_lineStart {returns : Bool} {before after : Option Char}
    (h : (Assertion.lineStart returns).holds before after = true) :
    before.any Unicode.isWord = false := by
  simp only [Assertion.holds, Bool.or_eq_true, Bool.and_eq_true, Option.isNone_iff_eq_none,
    beq_iff_eq] at h
  rcases h with (rfl | rfl) | ⟨⟨-, rfl⟩, -⟩
  · rfl
  · rfl
  · rfl

/-- An assertion holds where it is passed, and nothing is taken. -/
theorem holds_of_mem_check {assertion : Assertion} (mem : t ∈ (check assertion).outcomes s) :
    assertion.holds s.before s.rest.head? = true ∧ t = s := by
  simp only [outcomes] at mem
  split at mem
  · next holds => exact ⟨holds, List.mem_singleton.mp mem⟩
  · cases mem

/-- What a set takes stands at the place, and is what stands before the place reached. -/
theorem exists_of_mem_set (mem : t ∈ (set chars).outcomes s) :
    ∃ c rest, s.rest = c :: rest ∧ chars.contains c = true ∧ t = s.advance c rest := by
  simp only [outcomes] at mem
  split at mem
  · cases mem
  · next c rest next =>
    split at mem
    · next inside => exact ⟨c, rest, next, inside, List.mem_singleton.mp mem⟩
    · cases mem

/-- A guarded pattern matches nothing inside a word. -/
theorem not_inWord_of_isGuarded (guarded : p.isGuarded = true) (mem : t ∈ p.outcomes s) :
    s.inWord = false := by
  induction p generalizing s t with
  | set chars =>
    obtain ⟨c, rest, next, inside, -⟩ := exists_of_mem_set mem
    have outside : Unicode.isWord c = false := CharSet.not_isWord_of_isApart guarded inside
    rw [Cursor.inWord, next, List.head?_cons, Option.any_some, outside, Bool.and_false]
  | check assertion =>
    obtain ⟨holds, -⟩ := holds_of_mem_check mem
    cases assertion with
    | lineStart returns => rw [Cursor.inWord, not_isWord_of_lineStart holds, Bool.false_and]
    | word edge letters =>
      cases edge with
      | boundary =>
        obtain rfl : letters = .word := beq_iff_eq.mp guarded
        have differ := bne_iff_ne.mp holds
        refine Bool.eq_false_iff.mpr fun inside => differ ?_
        obtain ⟨before, behind⟩ := Bool.and_eq_true_iff.mp inside
        exact before.trans behind.symm
      | interior | start | stop | startHalf | stopHalf => cases guarded
    | textStart | textEnd | lineEnd => cases guarded
  | seq p q hp _ =>
    obtain ⟨u, first, -⟩ := List.mem_flatMap.mp mem
    exact hp guarded first
  | alt p q hp hq =>
    obtain ⟨left, right⟩ := Bool.and_eq_true_iff.mp guarded
    rcases List.mem_append.mp mem with mem | mem
    · exact hp left mem
    · exact hq right mem
  | plus greed p ih =>
    have rounds := rounds_of_mem_plus mem
    clear mem
    induction rounds with
    | single first => exact ih guarded first
    | tail _ _ earlier => exact earlier
  | group index p ih =>
    obtain ⟨u, reached, -⟩ := List.mem_map.mp mem
    exact ih guarded reached
  | empty | once | times | atMost | settled | forget => cases guarded

/-- A pattern that starts outside words takes nothing inside a word: it is still in place, or began
outside. -/
theorem startsOutside_sound (outside : p.startsOutside = true) (mem : t ∈ p.outcomes s) :
    t.toCursor = s.toCursor ∨ s.inWord = false := by
  induction p generalizing s t with
  | empty => exact .inl (congrArg State.toCursor (List.mem_singleton.mp mem))
  | check assertion => exact .inl (congrArg State.toCursor (holds_of_mem_check mem).2)
  | set chars =>
    have guarded : (set chars).isGuarded = true := outside
    exact .inr (not_inWord_of_isGuarded guarded mem)
  | seq p q hp hq =>
    obtain ⟨u, first, second⟩ := List.mem_flatMap.mp mem
    rcases Bool.or_eq_true_iff.mp outside with guarded | both
    · exact .inr (not_inWord_of_isGuarded guarded first)
    · obtain ⟨left, right⟩ := Bool.and_eq_true_iff.mp both
      rcases hp left first with inPlace | done
      · rw [← inPlace]
        exact hq right second
      · exact .inr done
  | alt p q hp hq =>
    obtain ⟨left, right⟩ := Bool.and_eq_true_iff.mp outside
    rcases List.mem_append.mp mem with mem | mem
    · exact hp left mem
    · exact hq right mem
  | plus greed p ih =>
    have rounds := rounds_of_mem_plus mem
    clear mem
    induction rounds with
    | single first => exact ih outside first
    | tail _ last earlier =>
      rcases earlier with inPlace | done
      · rw [← inPlace]
        exact ih outside last
      · exact .inr done
  | group index p ih =>
    obtain ⟨u, reached, rfl⟩ := List.mem_map.mp mem
    have body := ih outside reached
    exact body
  | once | times | atMost | settled | forget => cases outside

/-- A pattern that ends outside words does so, if it begins where it is known to. -/
theorem endsOutside_sound {outside : Bool} (ends : p.endsOutside outside = true)
    (start : outside = true → s.inWord = false) (mem : t ∈ p.outcomes s) : t.inWord = false := by
  induction p generalizing s t outside with
  | empty =>
    obtain rfl := List.mem_singleton.mp mem
    exact start ends
  | check assertion =>
    obtain ⟨-, rfl⟩ := holds_of_mem_check mem
    rcases Bool.or_eq_true_iff.mp ends with known | guarded
    · exact start known
    · exact not_inWord_of_isGuarded guarded mem
  | set chars =>
    obtain ⟨c, rest, -, inside, rfl⟩ := exists_of_mem_set mem
    have apart : Unicode.isWord c = false := CharSet.not_isWord_of_isApart ends inside
    simp only [Cursor.inWord, State.advance, Option.any_some, apart, Bool.false_and]
  | seq p q hp hq =>
    obtain ⟨u, first, second⟩ := List.mem_flatMap.mp mem
    exact hq ends (fun known => hp known start first) second
  | alt p q hp hq =>
    obtain ⟨left, right⟩ := Bool.and_eq_true_iff.mp ends
    rcases List.mem_append.mp mem with mem | mem
    · exact hp left start mem
    · exact hq right start mem
  | plus greed p ih =>
    cases rounds_of_mem_plus mem with
    | single first => exact ih ends Bool.noConfusion first
    | tail _ last => exact ih ends Bool.noConfusion last
  | group index p ih =>
    obtain ⟨u, reached, rfl⟩ := List.mem_map.mp mem
    have body := ih ends start reached
    exact body
  | once | times | atMost | settled | forget => cases ends

/-- Whether the groups of a state that are not empty begin outside words. -/
def State.GroupsOutside (text : Text) (s : State) : Prop :=
  ∀ entry ∈ s.groups, entry.2.start < entry.2.stop → ¬ text.InWord entry.2.start

/-- A group that begins outside words leaves the groups outside words. -/
theorem State.GroupsOutside.close (groups : t.GroupsOutside text) (index : Nat) {opened : Nat}
    (outside : opened < t.offset → ¬ text.InWord opened) :
    (t.close index opened).GroupsOutside text := by
  intro entry mem nonempty
  rcases List.mem_cons.mp mem with rfl | older
  · exact outside nonempty
  · exact groups entry (List.mem_filter.mp older).1 nonempty

/-- Groups that are seen to begin outside words do. -/
theorem groupsOutside_sound {outside : Bool} (apart : p.groupsOutside outside = true)
    (inside : s.Inside text low) (start : outside = true → s.inWord = false)
    (groups : s.GroupsOutside text) (mem : t ∈ p.outcomes s) : t.GroupsOutside text := by
  induction p generalizing s t outside with
  | empty =>
    obtain rfl := List.mem_singleton.mp mem
    exact groups
  | check assertion =>
    obtain ⟨-, rfl⟩ := holds_of_mem_check mem
    exact groups
  | set chars =>
    obtain ⟨c, rest, -, -, rfl⟩ := exists_of_mem_set mem
    exact groups
  | seq p q hp hq =>
    obtain ⟨left, right⟩ := Bool.and_eq_true_iff.mp apart
    obtain ⟨u, first, second⟩ := List.mem_flatMap.mp mem
    have led := (outcomes_leadsTo p inside u first).1
    exact hq right led (fun known => endsOutside_sound known start first)
      (hp left inside start groups first) second
  | alt p q hp hq =>
    obtain ⟨left, right⟩ := Bool.and_eq_true_iff.mp apart
    rcases List.mem_append.mp mem with mem | mem
    · exact hp left inside start groups mem
    · exact hq right inside start groups mem
  | plus greed p ih =>
    have rounds := rounds_of_mem_plus mem
    clear mem
    have kept : t.Inside text low ∧ t.GroupsOutside text := by
      induction rounds with
      | single first =>
        exact ⟨(outcomes_leadsTo p inside _ first).1,
          ih apart inside Bool.noConfusion groups first⟩
      | tail _ last earlier =>
        exact ⟨(outcomes_leadsTo p earlier.1 _ last).1,
          ih apart earlier.1 Bool.noConfusion earlier.2 last⟩
    exact kept.2
  | group index p ih =>
    obtain ⟨within, first⟩ := Bool.and_eq_true_iff.mp apart
    obtain ⟨u, reached, rfl⟩ := List.mem_map.mp mem
    refine (ih within inside start groups reached).close index fun onward => ?_
    rw [inside.stands.inWord_iff, Bool.not_eq_true]
    rcases Bool.or_eq_true_iff.mp first with known | starts
    · exact start known
    · refine (startsOutside_sound starts reached).resolve_left fun inPlace => ?_
      rw [inPlace] at onward
      exact Nat.lt_irrefl _ onward
  | once | times | atMost | settled | forget => cases apart

end Pattern

/-! ## Rules whose tokens begin outside words -/

namespace Rule

variable {rule : Rule} {code : Text} {find : Find} {start stop : Nat}

/-- Whether the tokens of a rule are seen to begin outside words. -/
def startsOutside (rule : Rule) : Bool :=
  if rule.group = 0 then rule.pattern.startsOutside else rule.pattern.groupsOutside false

/-- **What such a rule finds begins outside words** of the source, whatever the window. -/
theorem not_inWord_of_findIn (outside : rule.startsOutside = true)
    (found : rule.findIn code start stop = .ok (some find)) : ¬ code.InWord find.start := by
  have within := findIn_within found
  obtain ⟨front, back, cursor, m, rfl, rfl, stands, matched, group, nonempty⟩ :=
    exists_matchAt?_of_findIn found
  obtain ⟨t, mem, rfl⟩ := Pattern.exists_of_matchAt? matched
  have seen : find.start < front.byteSize :=
    Nat.lt_of_lt_of_le nonempty (Nat.le_trans within.stop_le_resume within.resume_le)
  refine fun inWord => absurd (inWord.of_append seen) ?_
  unfold startsOutside at outside
  split at outside
  · next whole =>
    rw [whole] at group
    obtain ⟨begins, ends⟩ := Span.mk.inj (Option.some.inj group)
    rw [← begins, ← ends] at nonempty
    rw [← begins, stands.inWord_iff, Bool.not_eq_true]
    refine (Pattern.startsOutside_sound outside mem).resolve_left fun inPlace => ?_
    exact Nat.ne_of_gt nonempty (congrArg Pattern.Cursor.offset inPlace)
  · next part =>
    have groups := Pattern.groupsOutside_sound outside stands.inside_start Bool.noConfusion
      (fun _ none => absurd none List.not_mem_nil) mem
    exact groups _ (Pattern.mem_groups_of_group? part group) nonempty

end Rule

end Highlight
