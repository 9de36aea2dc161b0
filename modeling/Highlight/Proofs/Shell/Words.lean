import Highlight.Grammar.Shell
import Highlight.Proofs.Words.Finds

/-!
# Commands of a shell source

What a reader takes for a command is said here of the source alone: a maximal run of the characters
of names (`Shell.IsName`) at a place where a command may stand (`Shell.AtCommand`), or behind a
wrapper that does (`Shell.AfterWrapper`). A place where a command may stand is one behind a mark,
and every such place has one mark that a scan from left to right finds (`Shell.Opens`): of two
vertical bars it finds both.
-/

namespace Highlight

open Pattern (CharSet)

/-- **What overlaps a maximal run** of characters of a kind, and is made of such, lies in it. -/
theorem Text.exists_inside_run {p : Char → Bool} {front run back before part behind : Text}
    (same : front ++ (run ++ back) = before ++ (part ++ behind)) (all : ∀ c ∈ part, p c = true)
    (clear : front.getLast?.any p = false) (ends : back.head?.any p = false)
    (begins : before.byteSize < (front ++ run).byteSize)
    (reaches : front.byteSize < (before ++ part).byteSize) :
    ∃ first last, run = first ++ (part ++ last) ∧ before = front ++ first ∧
      behind = last ++ back := by
  rcases Nat.lt_or_ge before.byteSize front.byteSize with early | late
  · -- What begins in front of the run reaches into it, so it has the last character there.
    obtain ⟨middle, rfl, rest⟩ := exists_middle same.symm (Nat.le_of_lt early)
    have some : middle ≠ [] := by
      rintro rfl
      rw [List.append_nil] at early
      exact absurd early (Nat.lt_irrefl _)
    rw [Text.byteSize_append, Text.byteSize_append before] at reaches
    obtain ⟨more, rfl, -⟩ :=
      exists_middle rest.symm (Nat.le_of_lt (Nat.lt_of_add_lt_add_left reaches))
    exact absurd (eq_nil_of_any_getLast? (List.forall_mem_append.mp all).1 clear) some
  obtain ⟨first, rfl, rest⟩ := exists_middle same late
  rw [Text.byteSize_append, Text.byteSize_append front] at begins
  obtain ⟨more, rfl, later⟩ :=
    exists_middle rest.symm (Nat.le_of_lt (Nat.lt_of_add_lt_add_left begins))
  rcases List.append_eq_append_iff.mp later with ⟨last, rfl, rfl⟩ | ⟨beyond, rfl, rfl⟩
  · exact ⟨first, last, rfl, rfl, rfl⟩
  · obtain rfl := eq_nil_of_any_head? (List.forall_mem_append.mp all).2 ends
    exact ⟨first, [], by rw [List.append_nil, List.append_nil], rfl, rfl⟩

namespace Shell

/-- The keywords. -/
def keywords : List String := [
  "if", "then", "else", "elif", "fi", "for", "while", "until", "do", "done", "case", "esac", "in",
  "function", "select"]

/-- The commands that run the command behind them. -/
def wrappers : List String :=
  ["sudo", "env", "time", "nice", "nohup", "watch", "xargs", "exec", "command"]

/-- What a command may follow, other than the start of the source. -/
def separators : List String := ["\n", ";", "&&", "||", "|"]

/-- Whether a character may be part of the name of a command. -/
def isNameChar (c : Char) : Bool := c.isAlphanum || c == '_' || c == '-'

/-- Whether a character is a space or a tab. -/
def isSpacing (c : Char) : Bool := c == ' ' || c == '\t'

/-- Whether a text between two others is a whole run of the characters of names, and a name: two
characters at least, of which the first is a letter or an underscore. -/
structure IsName (front name back : Text) : Prop where
  long : 2 ≤ name.length
  begins : ∀ c ∈ name.head?, c.isAlpha = true ∨ c = '_'
  all : ∀ c ∈ name, isNameChar c = true
  clear : front.getLast?.any isNameChar = false
  ends : back.head?.any isNameChar = false

theorem IsName.nonempty {front name back : Text} (h : IsName front name back) : name ≠ [] :=
  List.ne_nil_of_length_pos (Nat.lt_of_succ_lt h.long)

/-- Whether a command may stand behind a text: only blanks stand between it and the start of the
source, the start of the line or a separator. -/
def AtCommand (front : Text) : Prop :=
  ∃ lead blanks, front = lead ++ blanks ∧ (∀ c ∈ blanks, isSpacing c = true) ∧
    (lead = [] ∨ ∃ separator ∈ separators, ∃ before, lead = before ++ separator.toList)

/-- Whether a text ends with a wrapper that stands where a command may, and with blanks behind
it. -/
def AfterWrapper (front : Text) : Prop :=
  ∃ lead, ∃ wrapper ∈ wrappers, ∃ blanks, front = lead ++ (wrapper.toList ++ blanks) ∧
    blanks ≠ [] ∧ (∀ c ∈ blanks, isSpacing c = true) ∧ AtCommand lead

variable {front name back before mark blanks : Text} {c : Char}

/-! ## Characters -/

theorem contains_nameChar (c : Char) :
    (CharSet.unions (Grammar.commandChar ++ [.char '-'])).contains c = isNameChar c := by
  rw [CharSet.contains_unions, Bool.eq_iff_iff]
  simp [Grammar.commandChar, CharSet.contains, CharSet.contains_char, isNameChar, Char.isAlphanum,
    Unicode.isAlpha_iff, Unicode.isDigit_iff]
  tauto

theorem contains_commandStart : Grammar.commandStart.contains c = true ↔
    c.isAlpha = true ∨ c = '_' := by
  rw [Grammar.commandStart, CharSet.contains_unions]
  simp [CharSet.contains, CharSet.contains_char, Unicode.isAlpha_iff]
  tauto

theorem isNameChar_of_start (h : c.isAlpha = true ∨ c = '_') : isNameChar c = true := by
  rcases h with alpha | rfl
  · rw [isNameChar, Char.isAlphanum, alpha]
    rfl
  · decide

theorem isNameChar_of_isSpacing (h : isSpacing c = true) : isNameChar c = false := by
  rcases Bool.or_eq_true_iff.mp h with same | same
  · rw [eq_of_beq same]
    decide
  · rw [eq_of_beq same]
    decide

theorem isSpacing_of_isNameChar (h : isNameChar c = true) : isSpacing c = false := by
  refine Bool.eq_false_iff.mpr fun spacing => ?_
  exact absurd (h.symm.trans (isNameChar_of_isSpacing spacing)) (by decide)

theorem contains_spacing (c : Char) : (CharSet.oneOf " \t").contains c = isSpacing c := by
  rw [CharSet.contains_oneOf, isSpacing, Bool.eq_iff_iff]
  simp

theorem not_isWord_of_isSpacing (h : isSpacing c = true) : Unicode.isWord c = false := by
  rcases Bool.or_eq_true_iff.mp h with same | same
  · rw [eq_of_beq same]
    decide
  · rw [eq_of_beq same]
    decide

theorem separators_apart : ∀ separator ∈ separators, separator.toList ≠ [] ∧
    ∀ c ∈ separator.toList,
      isNameChar c = false ∧ isSpacing c = false ∧ Unicode.isWord c = false := by
  decide +kernel

theorem wrappers_spelled : ∀ wrapper ∈ wrappers, wrapper.toList ≠ [] ∧
    ∀ c ∈ wrapper.toList, isNameChar c = true ∧ isSpacing c = false ∧ Unicode.isWord c = true := by
  decide +kernel

theorem keywords_spelled : ∀ keyword ∈ keywords,
    keyword.toList ≠ [] ∧ ∀ c ∈ keyword.toList, isNameChar c = true := by
  decide

/-! ## Places -/

/-- What no blank and no separator is does not stand in front of a command. -/
theorem AtCommand.not_last {p : Char → Bool} (h : AtCommand front)
    (blank : ∀ c, isSpacing c = true → p c = false)
    (apart : ∀ separator ∈ separators, ∀ c ∈ separator.toList, p c = false) :
    front.getLast?.any p = false := by
  obtain ⟨lead, blanks, rfl, spacing, place⟩ := h
  by_cases some : blanks = []
  · rw [some, List.append_nil]
    rcases place with rfl | ⟨separator, listed, before, rfl⟩
    · rfl
    · exact Text.any_getLast?_append (separators_apart separator listed).1
        (apart separator listed) before
  · exact Text.any_getLast?_append some (fun c mem => blank c (spacing c mem)) lead

/-- In front of a command stands no word. -/
theorem AtCommand.clear (h : AtCommand front) : front.getLast?.any Unicode.isWord = false :=
  h.not_last (fun _ => not_isWord_of_isSpacing) fun separator listed c mem =>
    ((separators_apart separator listed).2 c mem).2.2

/-- And no name. -/
theorem AtCommand.not_named (h : AtCommand front) : front.getLast?.any isNameChar = false :=
  h.not_last (fun _ => isNameChar_of_isSpacing) fun separator listed c mem =>
    ((separators_apart separator listed).2 c mem).1

/-- Behind a wrapper stands no word either. -/
theorem AfterWrapper.clear (h : AfterWrapper front) :
    front.getLast?.any Unicode.isWord = false := by
  obtain ⟨lead, wrapper, -, blanks, rfl, some, spacing, -⟩ := h
  rw [← List.append_assoc]
  exact Text.any_getLast?_append some (fun c mem => not_isWord_of_isSpacing (spacing c mem)) _

/-- What stands behind a wrapper is not where a command may stand. -/
theorem AtCommand.not_wrapped {lead : Text} {wrapper : String} (listed : wrapper ∈ wrappers)
    (spacing : ∀ c ∈ blanks, isSpacing c = true) :
    ¬ AtCommand (lead ++ (wrapper.toList ++ blanks)) := by
  rintro ⟨lead', blanks', split, spacing', place⟩
  obtain ⟨some, spelled⟩ := wrappers_spelled wrapper listed
  rw [← List.append_assoc] at split
  have clear : (lead ++ wrapper.toList).getLast?.any isSpacing = false :=
    Text.any_getLast?_append some (fun c mem => (spelled c mem).2.1) lead
  have clear' : lead'.getLast?.any isSpacing = false := by
    rcases place with rfl | ⟨separator, listed, before, rfl⟩
    · rfl
    · obtain ⟨some, apart⟩ := separators_apart separator listed
      exact Text.any_getLast?_append some (fun c mem => (apart c mem).2.1) before
  obtain ⟨same, -⟩ := Text.eq_of_last_runs split spacing spacing' clear clear'
  have name : lead'.getLast?.any isNameChar = true := by
    rw [← same]
    exact Text.any_getLast?_append some (fun c mem => (spelled c mem).1) lead
  have place' : AtCommand lead' :=
    ⟨lead', [], (List.append_nil _).symm, List.forall_mem_nil _, place⟩
  exact absurd (name.symm.trans place'.not_named) Bool.noConfusion

/-- The mark that a scan finds in front of a command: the start of a line, or a separator, of which
a vertical bar does not stand behind another. -/
inductive Opens (before : Text) : Text → Prop
  | line : before = [] ∨ before.getLast? = some '\n' → Opens before []
  | separator {mark : Text} : mark ∈ [[';'], ['&', '&'], ['|', '|']] → Opens before mark
  | pipe : before.getLast? ≠ some '|' → Opens before ['|']

/-- **Where a command may stand**, a mark stands behind which only blanks follow. -/
theorem AtCommand.exists_opens (h : AtCommand front) : ∃ before mark blanks,
    front = before ++ (mark ++ blanks) ∧ Opens before mark ∧
      ∀ c ∈ blanks, isSpacing c = true := by
  obtain ⟨lead, blanks, rfl, spacing, place⟩ := h
  rcases place with rfl | ⟨separator, listed, before, rfl⟩
  · exact ⟨[], [], blanks, rfl, .line (.inl rfl), spacing⟩
  have marked {mark : Text} (same : separator.toList = mark) (opens : Opens before mark) :
      ∃ before' mark' blanks', before ++ separator.toList ++ blanks =
        before' ++ (mark' ++ blanks') ∧ Opens before' mark' ∧ ∀ c ∈ blanks', isSpacing c = true :=
    ⟨before, mark, blanks, by rw [same, List.append_assoc], opens, spacing⟩
  simp only [separators, List.mem_cons, List.not_mem_nil, or_false] at listed
  rcases listed with rfl | rfl | rfl | rfl | rfl
  · exact ⟨before ++ ['\n'], [], blanks, rfl, .line (.inr List.getLast?_concat), spacing⟩
  · exact marked rfl (.separator (by decide))
  · exact marked rfl (.separator (by decide))
  · exact marked rfl (.separator (by decide))
  · by_cases double : before.getLast? = some '|'
    · obtain ⟨init, rfl⟩ := List.getLast?_eq_some_iff.mp double
      exact ⟨init, ['|', '|'], blanks, by simp, .separator (by decide), spacing⟩
    · exact marked rfl (.pipe double)

end Shell

end Highlight
