import Highlight.Grammar.Ini
import Highlight.Grammar.Url
import Highlight.Proofs.Lines.Scan
import Highlight.Proofs.Tokenize.Pieces

/-!
# Grammars that read line by line

A grammar whose patterns look no further than their line highlights each line as if it stood alone:
the tokens of two lines are those of the first and, moved to where it stands, those of the second
(`Grammar.classified_lines`). One invariant carries the run of the rules: what has been found in the
two lines is what has been found in each (`Tokenize.Joins`). Then the claimed spans are those of
each, the windows between them are those of each but for the one across the line feed, and so a rule
finds in the two lines what it finds in each (`Tokenize.Joins.applyRule`).

INI and URL are such grammars (`Grammar.tokenize_lines`).
-/

namespace Highlight

open Pattern (Span)
open Tokenize

/-- A classified stretch that lies further on. -/
def Classified.shift (k : Nat) (item : Classified) : Classified :=
  { item with start := item.start + k }

variable {a b : Text} {rule : Rule} {first second both : Progress} {token : Token}

/-! ## Pieces of two lines -/

theorem Text.slice?_append {text middle : Text} {start stop : Nat}
    (h : text.slice? start stop = some middle) (tail : Text) :
    (text ++ tail).slice? start stop = some middle := by
  obtain ⟨front, back, rfl, start, stop⟩ := slice?_eq_some_iff.mp h
  refine slice?_eq_some_iff.mpr ⟨front, back ++ tail, ?_, start, stop⟩
  simp only [List.append_assoc]

theorem Text.slice?_behind {text middle : Text} {start stop : Nat}
    (h : text.slice? start stop = some middle) (front : Text) :
    (front ++ '\n' :: text).slice? (start + (front.byteSize + 1)) (stop + (front.byteSize + 1)) =
      some middle := by
  obtain ⟨before, back, rfl, rfl, rfl⟩ := slice?_eq_some_iff.mp h
  refine slice?_eq_some_iff.mpr ⟨front ++ '\n' :: before, back, ?_, byteSize_append_newline _ _, ?_⟩
  · simp only [List.append_assoc, List.cons_append]
  · exact Nat.add_right_comm ..

theorem Classified.span_shift (item : Classified) (k : Nat) :
    (item.shift k).span = item.span.shift k :=
  congrArg (Span.mk _) (Nat.add_right_comm ..)

theorem Classified.shift_shift (item : Classified) (k d : Nat) :
    (item.shift k).shift d = item.shift (d + k) := by
  simp only [shift, Nat.add_assoc, Nat.add_comm k d]

/-- What stands in its place in the second line does so where the line stands. -/
theorem Classified.slice?_shift {item : Classified}
    (h : b.slice? item.span.start item.span.stop = some item.text) (a : Text) :
    (a ++ '\n' :: b).slice? (item.shift (a.byteSize + 1)).span.start
      (item.shift (a.byteSize + 1)).span.stop = some (item.shift (a.byteSize + 1)).text := by
  rw [Classified.span_shift]
  exact Text.slice?_behind h a

theorem map_span_classified (tokens : List Token) :
    (tokens.map Token.classified).map Classified.span = tokens.map Token.span :=
  List.map_map

theorem map_span_shift (items : List Classified) (k : Nat) :
    (items.map (Classified.shift k)).map Classified.span =
      (items.map Classified.span).map (Span.shift k) := by
  rw [List.map_map, List.map_map]
  exact List.map_congr_left fun item _ => item.span_shift k

theorem Tokenize.spanIsBefore_shift (x y : Span) (k : Nat) :
    spanIsBefore (x.shift k) (y.shift k) = spanIsBefore x y := by
  rw [Bool.eq_iff_iff]
  simp [spanIsBefore, Span.shift]

/-! ## The run of the rules -/

/-- Whether what has been found in two lines is what has been found in each of them. -/
structure Tokenize.Joins (a b : Text) (first second both : Progress) : Prop where
  soundFirst : first.Sound a
  soundSecond : second.Sound b
  sound : both.Sound (a ++ '\n' :: b)
  tokens : (both.tokens.map Token.classified).Perm (first.tokens.map Token.classified ++
    (second.tokens.map Token.classified).map (Classified.shift (a.byteSize + 1)))

namespace Tokenize.Joins

theorem start (a b : Text) : Tokenize.Joins a b .start .start .start :=
  ⟨Progress.start_sound a, Progress.start_sound b, Progress.start_sound _, .nil⟩

/-- The claimed spans are those of each line. -/
theorem claimed (joins : Tokenize.Joins a b first second both) :
    both.claimed = first.claimed ++ second.claimed.map (Span.shift (a.byteSize + 1)) := by
  refine joins.sound.claimed_eq ?_ (List.pairwise_append.mpr ⟨joins.soundFirst.sorted, ?_, ?_⟩)
  · have spans := joins.tokens.map Classified.span
    rw [List.map_append, map_span_shift, map_span_classified, map_span_classified,
      map_span_classified] at spans
    exact spans.trans (joins.soundFirst.claims.symm.append (joins.soundSecond.claims.symm.map _))
  · refine List.pairwise_map.mpr (joins.soundSecond.sorted.imp ?_)
    exact fun before => (spanIsBefore_shift ..).trans before
  · intro x here y there
    obtain ⟨y, -, rfl⟩ := List.mem_map.mp there
    have within := (joins.soundFirst.claimed_spec here).1
    have high := Nat.le_trans within.ordered within.le_high
    refine Bool.or_eq_true_iff.mpr (.inl (decide_eq_true ?_))
    exact Nat.lt_of_lt_of_le (Nat.lt_add_one_of_le high) (Nat.le_add_left _ _)

/-- What a rule finds between the claimed spans is what it finds in each line. -/
theorem findInGaps (joins : Tokenize.Joins a b first second both)
    (isLocal : rule.pattern.isLocal = true) :
    ∃ found found', findInGaps rule a (gaps a.byteSize 0 first.claimed) = .ok found ∧
      findInGaps rule b (gaps b.byteSize 0 second.claimed) = .ok found' ∧
      findInGaps rule (a ++ '\n' :: b) (gaps (a ++ '\n' :: b).byteSize 0 both.claimed) =
        .ok (found ++ found'.map (Find.shift (a.byteSize + 1))) := by
  have inFirst := fun gap mem => (joins.soundFirst.gaps_spec.2 gap mem).1
  have inSecond := fun gap mem => (joins.soundSecond.gaps_spec.2 gap mem).1
  refine ⟨_, _, rule.findInGaps_eq inFirst, rule.findInGaps_eq inSecond, ?_⟩
  rw [rule.findInGaps_eq fun gap mem => (joins.sound.gaps_spec.2 gap mem).1, joins.claimed,
    Text.byteSize_append_newline]
  obtain ⟨before, start, stop, after, firstGaps, secondGaps, bothGaps⟩ :=
    gaps_lines a.byteSize b.byteSize (a.byteSize + 1) 0 first.claimed second.claimed
  rw [firstGaps, List.forall_mem_append, List.forall_mem_singleton] at inFirst
  rw [secondGaps, List.forall_mem_cons] at inSecond
  rw [firstGaps, secondGaps, bothGaps]
  simp only [List.flatMap_append, List.flatMap_cons, List.flatMap_nil, List.append_nil,
    List.flatMap_map, List.map_append, List.map_flatMap, List.append_assoc,
    Rule.foundIn_across isLocal inFirst.2 inSecond.1]
  have early := List.flatMap_congr fun gap mem =>
    rule.foundIn_append (inFirst.1 gap mem) ('\n' :: b)
  have late := List.flatMap_congr fun gap mem => Rule.foundIn_behind isLocal (inSecond.2 gap mem) a
  rw [early, late]

/-- **A rule finds in two lines** what it finds in each of them. -/
theorem applyRule (joins : Tokenize.Joins a b first second both)
    (isLocal : rule.pattern.isLocal = true) :
    ∃ first' second' both', applyRule a a.byteSize first rule = .ok first' ∧
      applyRule b b.byteSize second rule = .ok second' ∧
      applyRule (a ++ '\n' :: b) (a ++ '\n' :: b).byteSize both rule = .ok both' ∧
        Tokenize.Joins a b first' second' both' := by
  obtain ⟨found, found', hfirst, hsecond, hboth⟩ := joins.findInGaps isLocal
  obtain ⟨first', tokens, run, sound, eq, spans, cut⟩ :=
    applyRule_of_findInGaps joins.soundFirst hfirst
  obtain ⟨second', tokens', run', sound', eq', spans', cut'⟩ :=
    applyRule_of_findInGaps joins.soundSecond hsecond
  obtain ⟨both', all, runBoth, soundBoth, eqBoth, spansBoth, cutBoth⟩ :=
    applyRule_of_findInGaps joins.sound hboth
  refine ⟨first', second', both', run, run', runBoth, sound, sound', soundBoth, ?_⟩
  have items : all.map Token.classified = tokens.map Token.classified ++
      (tokens'.map Token.classified).map (Classified.shift (a.byteSize + 1)) := by
    refine Classified.eq_of_spans (a ++ '\n' :: b) rule.kind ?_ ?_ ?_
    · have later : (found'.map (Find.shift (a.byteSize + 1))).map Find.span =
          (found'.map Find.span).map (Span.shift (a.byteSize + 1)) := by
        rw [List.map_map, List.map_map]
        rfl
      rw [List.map_append, map_span_shift, map_span_classified, map_span_classified,
        map_span_classified, spansBoth, List.map_append, later, ← spans, ← spans']
    · intro item mem
      obtain ⟨token, found, rfl⟩ := List.mem_map.mp mem
      exact ⟨(cutBoth token found).2, (cutBoth token found).1.slice⟩
    · intro item mem
      rcases List.mem_append.mp mem with here | there
      · obtain ⟨token, found, rfl⟩ := List.mem_map.mp here
        exact ⟨(cut token found).2, Text.slice?_append (cut token found).1.slice _⟩
      · rw [List.map_map] at there
        obtain ⟨token, found, rfl⟩ := List.mem_map.mp there
        exact ⟨(cut' token found).2, Classified.slice?_shift (cut' token found).1.slice a⟩
  rw [eq, eq', eqBoth]
  simp only [List.map_append, items]
  refine (joins.tokens.append_right _).trans ?_
  rw [List.append_assoc, List.append_assoc]
  exact (List.perm_append_comm_assoc _ _ _).append_left _

/-- The rules find in two lines what they find in each of them. -/
theorem applyRules {rules : List Rule} (joins : Tokenize.Joins a b first second both)
    (isLocal : ∀ rule ∈ rules, rule.pattern.isLocal = true) :
    ∃ first' second' both', applyRules a a.byteSize first rules = .ok first' ∧
      applyRules b b.byteSize second rules = .ok second' ∧
      applyRules (a ++ '\n' :: b) (a ++ '\n' :: b).byteSize both rules = .ok both' ∧
        Tokenize.Joins a b first' second' both' := by
  induction rules generalizing first second both with
  | nil => exact ⟨first, second, both, rfl, rfl, rfl, joins⟩
  | cons rule rules ih =>
    obtain ⟨here, later⟩ := List.forall_mem_cons.mp isLocal
    obtain ⟨first', second', both', run, run', runBoth, joins⟩ := joins.applyRule here
    obtain ⟨final, final', finalBoth, rest, rest', restBoth, joins⟩ := ih joins later
    refine ⟨final, final', finalBoth, ?_, ?_, ?_, joins⟩
    · simp only [Tokenize.applyRules, run]
      exact rest
    · simp only [Tokenize.applyRules, run']
      exact rest'
    · simp only [Tokenize.applyRules, runBoth]
      exact restBoth

end Tokenize.Joins

/-! ## Tokens -/

namespace Grammar

variable {grammar : Grammar}

/-- Whether every rule of a grammar is seen to look no further than its line. -/
def isLocal (grammar : Grammar) : Bool := grammar.rules.all fun rule => rule.pattern.isLocal

/-- **The tokens of two lines** are those of each. -/
theorem classified_lines (isLocal : grammar.isLocal = true) (a b : Text) :
    (grammar.tokenize (a ++ '\n' :: b)).tokens.map Token.classified =
      (grammar.tokenize a).tokens.map Token.classified ++
        ((grammar.tokenize b).tokens.map Token.classified).map
          (Classified.shift (a.byteSize + 1)) := by
  obtain ⟨first, second, both, run, run', runBoth, joins⟩ :=
    (Joins.start a b).applyRules (List.all_eq_true.mp isLocal)
  have perm := (classified_perm run joins.soundFirst).symm.append
    ((classified_perm run' joins.soundSecond).symm.map (Classified.shift (a.byteSize + 1)))
  refine tokenize_eq_of_perm runBoth joins.sound (joins.tokens.trans perm) ?_
  refine List.pairwise_append.mpr ⟨grammar.classified_pairwise a, ?_, ?_⟩
  · refine List.pairwise_map.mpr ((grammar.classified_pairwise b).imp ?_)
    exact fun before => Nat.add_lt_add_right before _
  · intro x here y there
    obtain ⟨token, mem, rfl⟩ := List.mem_map.mp here
    obtain ⟨y, -, rfl⟩ := List.mem_map.mp there
    have within := (tokenize_cut mem).within
    have high := Nat.le_trans within.ordered within.le_high
    exact Nat.lt_of_lt_of_le (Nat.lt_add_one_of_le high) (Nat.le_add_left _ _)

/-- No token goes over a line feed. -/
theorem newline_not_mem_text (isLocal : grammar.isLocal = true) {code : Text}
    (mem : token ∈ (grammar.tokenize code).tokens) : '\n' ∉ token.text := by
  intro inside
  obtain ⟨front, back, split, start, -⟩ := Text.slice?_eq_some_iff.mp (tokenize_cut mem).slice
  obtain ⟨init, tail, line⟩ := List.append_of_mem inside
  have parts : code = (front ++ init) ++ '\n' :: (tail ++ back) := by
    rw [split, line]
    simp only [List.append_assoc, List.cons_append]
  have size : token.span.stop = front.byteSize + token.text.byteSize := congrArg (· + _) start.symm
  rw [line, Text.byteSize_append_newline] at size
  subst parts
  have found := List.mem_map_of_mem (f := Token.classified) mem
  rw [classified_lines isLocal] at found
  rcases List.mem_append.mp found with here | there
  · obtain ⟨other, mem, same⟩ := List.mem_map.mp here
    have high := (tokenize_cut mem).within.le_high
    have stop : other.span.stop = token.span.stop := congrArg (fun item => item.span.stop) same
    rw [Text.byteSize_append] at high
    omega
  · obtain ⟨item, -, same⟩ := List.mem_map.mp there
    have low : (front ++ init).byteSize + 1 ≤ token.start :=
      Nat.le_trans (Nat.le_add_left _ _) (Nat.le_of_eq (congrArg Classified.start same))
    rw [Text.byteSize_append] at low
    omega

/-- **INI and URL are highlighted line by line.** The tokens of two lines, as starts, texts and
categories, are those of the first and, moved to where it stands, those of the second; so no token
goes over a line feed, and a line that stands between others has the tokens that it has alone, and
changes nothing of theirs. -/
theorem tokenize_lines (given : grammar ∈ [Grammar.ini, Grammar.url]) (a b : Text) :
    (grammar.tokenize (a ++ '\n' :: b)).tokens.map Token.classified =
        (grammar.tokenize a).tokens.map Token.classified ++
          ((grammar.tokenize b).tokens.map Token.classified).map
            (Classified.shift (a.byteSize + 1)) ∧
      (∀ token ∈ (grammar.tokenize (a ++ '\n' :: b)).tokens, '\n' ∉ token.text) ∧
      ∀ line : Text,
        (grammar.tokenize (a ++ '\n' :: (line ++ '\n' :: b))).tokens.map Token.classified =
          (grammar.tokenize a).tokens.map Token.classified ++
            ((grammar.tokenize line).tokens.map Token.classified).map
              (Classified.shift (a.byteSize + 1)) ++
            ((grammar.tokenize b).tokens.map Token.classified).map
              (Classified.shift (a.byteSize + 1 + (line.byteSize + 1))) := by
  have isLocal : grammar.isLocal = true :=
    (show ∀ grammar ∈ [Grammar.ini, Grammar.url], grammar.isLocal = true by decide +kernel)
      grammar given
  refine ⟨classified_lines isLocal a b, fun token mem => newline_not_mem_text isLocal mem, ?_⟩
  intro line
  rw [classified_lines isLocal, classified_lines isLocal, List.map_append, List.append_assoc]
  refine congrArg (_ ++ ·) (congrArg (_ ++ ·) (List.map_map.trans ?_))
  exact List.map_congr_left fun item _ => item.shift_shift ..

/-- A section, and a key with its value on the next line. -/
theorem tokenize_lines_section : Grammar.ini ∈ [Grammar.ini, Grammar.url] ∧
    (Grammar.ini.tokenize ("[a]".toList ++ '\n' :: "b=1".toList)).tokens.map Token.classified =
      (Grammar.ini.tokenize "[a]".toList).tokens.map Token.classified ++
        ((Grammar.ini.tokenize "b=1".toList).tokens.map Token.classified).map
          (Classified.shift 4) :=
  ⟨List.mem_cons_self, (tokenize_lines List.mem_cons_self "[a]".toList "b=1".toList).1⟩

end Grammar

end Highlight
