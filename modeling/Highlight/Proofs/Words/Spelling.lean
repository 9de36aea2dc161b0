import Highlight.Grammar.Lexeme
import Highlight.Proofs.Pattern.Preference
import Highlight.Proofs.Words.Outside
import Mathlib.Data.List.Forall2

/-!
# Words and their spelling

A list of words is a choice between sequences of sets, one set for each letter, with a word edge on
either side (`Pattern.wholeWord`). With case the set is that of the letter, and what is matched is
the word (`Spells.eq`); without regard to case it folds to what the word folds to
(`Spells.folded_eq`). Either way, what is matched is made of word characters, so that the two edges
are where a word begins and where it ends in the text that is seen
(`exists_parts_of_mem_wholeWord`).

That a pattern is one for whole words, and that the words are made of letters, is seen from its form
(`choice?`, `isSolid`).
-/

namespace Highlight

/-- What the characters of a text fold to. -/
def Text.folded (text : Text) : List Nat := text.map fun c => Unicode.foldCode c.toNat

namespace Pattern

variable {p : Pattern} {patterns : List Pattern} {sets : List CharSet} {s t : State}
  {letter : Char → CharSet} {list : List String} {word : String} {taken text : Text}

/-- A word, each letter of it spelled by a set of characters. -/
def spelling (letter : Char → CharSet) (word : String) : Pattern :=
  seqs (word.toList.map fun c => set (letter c))

/-- One of some words, whole, each letter of it spelled by a set of characters. -/
def wholeWord (letter : Char → CharSet) (list : List String) : Pattern :=
  seqs [wordEdge, alts (list.map (spelling letter)), wordEdge]

/-- Whether a text is spelled by the letters of another. -/
def Spells (letter : Char → CharSet) : Text → Text → Prop :=
  List.Forall₂ fun w c => (letter w).contains c = true

theorem words_eq (list : List String) : Lexeme.words list = wholeWord .char list := rfl

theorem wordsNoCase_eq (list : List String) :
    Lexeme.wordsNoCase list = wholeWord (fun c => .fold (.char c)) list := rfl

/-! ## What is matched -/

/-- A choice matches what one of its patterns does. -/
theorem exists_of_mem_alts (mem : t ∈ (alts patterns).outcomes s) :
    ∃ p ∈ patterns, t ∈ p.outcomes s := by
  induction patterns with
  | nil =>
    obtain ⟨c, rest, -, none, -⟩ := exists_of_mem_set mem
    cases none
  | cons p rest ih =>
    cases rest with
    | nil => exact ⟨p, List.mem_cons_self, mem⟩
    | cons q rest =>
      rcases List.mem_append.mp mem with here | later
      · exact ⟨p, List.mem_cons_self, here⟩
      · obtain ⟨r, inRest, mem⟩ := ih later
        exact ⟨r, List.mem_cons_of_mem p inRest, mem⟩

/-- A spelling takes a character for each letter. -/
theorem exists_of_mem_spelling {letters : Text}
    (mem : t ∈ (seqs (letters.map fun c => set (letter c))).outcomes s) :
    ∃ taken, s.rest = taken ++ t.rest ∧ Spells letter letters taken := by
  induction letters generalizing s with
  | nil =>
    obtain rfl := List.mem_singleton.mp mem
    exact ⟨[], rfl, .nil⟩
  | cons w letters ih =>
    rw [List.map_cons, outcomes_seqs_cons] at mem
    obtain ⟨u, first, second⟩ := List.mem_flatMap.mp mem
    obtain ⟨c, rest, next, inside, rfl⟩ := exists_of_mem_set first
    obtain ⟨taken, split, later⟩ := ih second
    exact ⟨c :: taken, next.trans (congrArg (c :: ·) split), .cons inside later⟩

/-- A whole word is matched between two edges. -/
theorem exists_of_mem_wholeWord (mem : t ∈ (wholeWord letter list).outcomes s) :
    ∃ word ∈ list, ∃ taken, s.rest = taken ++ t.rest ∧ Spells letter word.toList taken ∧
      s.before.any Unicode.isWord ≠ s.rest.head?.any Unicode.isWord ∧
      t.before.any Unicode.isWord ≠ t.rest.head?.any Unicode.isWord := by
  obtain ⟨u, first, later⟩ := List.mem_flatMap.mp mem
  obtain ⟨v, second, third⟩ := List.mem_flatMap.mp later
  obtain ⟨starts, rfl⟩ := holds_of_mem_check first
  obtain ⟨stops, rfl⟩ := holds_of_mem_check third
  obtain ⟨p, given, mem⟩ := exists_of_mem_alts second
  obtain ⟨word, listed, rfl⟩ := List.mem_map.mp given
  obtain ⟨taken, split, spelled⟩ := exists_of_mem_spelling mem
  exact ⟨word, listed, taken, split, spelled, bne_iff_ne.mp starts, bne_iff_ne.mp stops⟩

/-! ## Letters -/

/-- Whether a set is seen to hold ASCII word characters only, perhaps without regard to case. -/
def CharSet.holdsLetters : CharSet → Bool
  | nothing => true
  | range first last | fold (range first last) =>
    first == last && (decide (first.toNat < 128) && Unicode.isWord first)
  | _ => false

theorem CharSet.isWord_of_holdsLetters {chars : CharSet} {c : Char}
    (letters : chars.holdsLetters = true) (mem : chars.contains c = true) :
    Unicode.isWord c = true := by
  unfold holdsLetters at letters
  split at letters
  · cases mem
  · next first last =>
    simp only [Bool.and_eq_true, beq_iff_eq, decide_eq_true_eq] at letters
    obtain ⟨rfl, -, word⟩ := letters
    obtain rfl := beq_iff_eq.mp ((contains_char first c).symm.trans mem)
    exact word
  · next first last =>
    simp only [Bool.and_eq_true, beq_iff_eq, decide_eq_true_eq] at letters
    obtain ⟨rfl, ascii, word⟩ := letters
    exact (folds_of_contains_fold ascii word mem).2
  · cases letters

/-- What is spelled by letters is a word, and not empty if they are not. -/
theorem Spells.isWord {letters : Text} (spelled : Spells letter letters taken)
    (holds : ∀ w ∈ letters, (letter w).holdsLetters = true) :
    ∀ c ∈ taken, Unicode.isWord c = true := by
  induction spelled with
  | nil => exact List.forall_mem_nil _
  | cons here _ ih =>
    obtain ⟨first, later⟩ := List.forall_mem_cons.mp holds
    exact List.forall_mem_cons.mpr ⟨CharSet.isWord_of_holdsLetters first here, ih later⟩

/-- Each letter spelled by itself is the word. -/
theorem Spells.eq {letters : Text} (spelled : Spells .char letters taken) : taken = letters := by
  induction spelled with
  | nil => rfl
  | cons here _ ih =>
    rw [CharSet.contains_char, beq_iff_eq] at here
    rw [here, ih]

/-- Letters spelled without regard to case fold to the same. -/
theorem Spells.folded_eq {letters : Text}
    (spelled : Spells (fun c => .fold (.char c)) letters taken)
    (holds : ∀ w ∈ letters, (CharSet.fold (.char w)).holdsLetters = true) :
    taken.folded = letters.folded := by
  induction spelled with
  | nil => rfl
  | cons here _ ih =>
    obtain ⟨first, later⟩ := List.forall_mem_cons.mp holds
    simp only [CharSet.holdsLetters, CharSet.char, Bool.and_eq_true, decide_eq_true_eq] at first
    obtain ⟨-, ascii, word⟩ := first
    have same := (CharSet.folds_of_contains_fold ascii word here).1
    exact congrArg₂ List.cons same (ih later)

/-! ## Which rules are for words -/

/-- Whether a pattern is a choice between sequences of sets. -/
def isSpelled : Pattern → Bool
  | empty | set _ => true
  | seq p q | alt p q => p.isSpelled && q.isSpelled
  | _ => false

/-- Whether a pattern is seen to take letters only, and one at least. -/
def isSolid : Pattern → Bool
  | set chars => chars.holdsLetters
  | seq p q | alt p q => p.isSolid && q.isSolid
  | _ => false

/-- The choice of a pattern for whole words. -/
def choice? : Pattern → Option Pattern
  | seq first (seq body last) =>
    if first = wordEdge ∧ last = wordEdge ∧ body.isSpelled = true then some body else none
  | _ => none

theorem isSpelled_alts (spelled : ∀ p ∈ patterns, p.isSpelled = true) :
    (alts patterns).isSpelled = true := by
  induction patterns with
  | nil => rfl
  | cons p rest ih =>
    obtain ⟨first, later⟩ := List.forall_mem_cons.mp spelled
    cases rest with
    | nil => exact first
    | cons q rest => exact Bool.and_eq_true_iff.mpr ⟨first, ih later⟩

theorem isSpelled_spelling (letters : Text) :
    (seqs (letters.map fun c => set (letter c))).isSpelled = true := by
  induction letters with
  | nil => rfl
  | cons w letters ih =>
    cases letters with
    | nil => rfl
    | cons w' letters => exact ih

theorem choice?_wholeWord :
    (wholeWord letter list).choice? = some (alts (list.map (spelling letter))) := by
  refine if_pos ⟨rfl, rfl, isSpelled_alts fun p given => ?_⟩
  obtain ⟨word, -, rfl⟩ := List.mem_map.mp given
  exact isSpelled_spelling word.toList

theorem isSolid_of_alts (solid : (alts patterns).isSolid = true) :
    ∀ p ∈ patterns, p.isSolid = true := by
  induction patterns with
  | nil => exact List.forall_mem_nil _
  | cons p rest ih =>
    cases rest with
    | nil => exact List.forall_mem_singleton.mpr solid
    | cons q rest =>
      obtain ⟨first, later⟩ := Bool.and_eq_true_iff.mp solid
      exact List.forall_mem_cons.mpr ⟨first, ih later⟩

theorem holdsLetters_of_isSolid {letters : Text}
    (solid : (seqs (letters.map fun c => set (letter c))).isSolid = true) :
    letters ≠ [] ∧ ∀ w ∈ letters, (letter w).holdsLetters = true := by
  induction letters with
  | nil => cases solid
  | cons w letters ih =>
    refine ⟨List.cons_ne_nil _ _, ?_⟩
    cases letters with
    | nil => exact List.forall_mem_singleton.mpr solid
    | cons w' letters =>
      obtain ⟨first, later⟩ := Bool.and_eq_true_iff.mp solid
      exact List.forall_mem_cons.mpr ⟨first, (ih later).2⟩

/-- **What a whole word is in the text that is seen**: it begins behind no word character, and ends
with one, in front of none. -/
theorem exists_parts_of_mem_wholeWord {cursor : Cursor} (stands : cursor.StandsIn text)
    (lettered : ∀ word ∈ list,
      word.toList ≠ [] ∧ ∀ w ∈ word.toList, (letter w).holdsLetters = true)
    (mem : t ∈ (wholeWord letter list).outcomes (State.start cursor)) :
    ∃ before taken rest, text = before ++ (taken ++ rest) ∧ before.byteSize = cursor.offset ∧
      (before ++ taken).byteSize = t.offset ∧ before.getLast?.any Unicode.isWord = false ∧
        (before ++ taken).getLast?.any Unicode.isWord = true ∧
          rest.head?.any Unicode.isWord = false ∧
            ∃ word ∈ list, Spells letter word.toList taken := by
  have inside := (outcomes_leadsTo _ stands.inside_start t mem).1
  obtain ⟨word, listed, taken, split, spelled, starts, stops⟩ := exists_of_mem_wholeWord mem
  obtain ⟨some, letters⟩ := lettered word listed
  obtain ⟨before, rfl, start, beforeLast⟩ := stands
  obtain ⟨reached, parts, stop, reachedLast⟩ := inside.stands
  have split : cursor.rest = taken ++ t.rest := split
  obtain rfl : before ++ taken = reached := by
    rw [split, ← List.append_assoc] at parts
    exact List.append_cancel_right parts
  have words := spelled.isWord letters
  have nonempty : taken ≠ [] := by
    intro empty
    rw [empty] at spelled
    exact some (List.eq_nil_of_length_eq_zero (List.Forall₂.length_eq spelled))
  have first : (taken ++ t.rest).head?.any Unicode.isWord = true := by
    obtain ⟨c, more, rfl⟩ := List.exists_cons_of_ne_nil nonempty
    exact words c List.mem_cons_self
  have last : (before ++ taken).getLast?.any Unicode.isWord = true :=
    Text.any_getLast?_append nonempty words before
  have clear : before.getLast?.any Unicode.isWord = false := by
    rw [← split] at first
    rw [← beforeLast]
    exact Bool.eq_false_iff.mpr fun word => starts (word.trans first.symm)
  have clear' : t.rest.head?.any Unicode.isWord = false := by
    rw [reachedLast, last] at stops
    exact Bool.eq_false_iff.mpr stops.symm
  refine ⟨before, taken, t.rest, by rw [split], start, stop, clear, last, clear', word, listed,
    spelled⟩

end Pattern

end Highlight
