import Highlight.Config
import Highlight.Proofs.Text.Case
import Highlight.Proofs.Text.Split

/-!
# Lines that set a key

A line sets a key to a value if it is no comment and the text before its first `=` is the key,
blanks and case aside (`Sets`); it is read so (`binding?_eq_some_iff`). What a file says of a key is
what the last of its lines for the key says (`lookup_bindings_eq_some_iff`), whatever other lines
stand before, between and behind these.
-/

namespace Highlight

namespace Text

variable {mark : Char} {text front back : Text}

/-- What is visible ends the blanks in front of it. -/
theorem dropWhile_append_cons (visible : Unicode.isWhiteSpace mark = false) (front back : Text) :
    (front ++ mark :: back).dropWhile Unicode.isWhiteSpace =
      front.dropWhile Unicode.isWhiteSpace ++ mark :: back := by
  have stop : (mark :: back).dropWhile Unicode.isWhiteSpace = mark :: back :=
    List.dropWhile_cons_of_neg (by simp [visible])
  rw [List.dropWhile_append, stop]
  split
  · next blank => rw [List.isEmpty_iff.mp blank, List.nil_append]
  · rfl

theorem trim_dropWhile (text : Text) : trim (text.dropWhile Unicode.isWhiteSpace) = trim text := by
  have leading : ∀ c ∈ text.takeWhile Unicode.isWhiteSpace, Unicode.isWhiteSpace c = true :=
    List.all_eq_true.mp List.all_takeWhile
  have trailing : ∀ c ∈ ([] : Text), Unicode.isWhiteSpace c = true := by simp
  have whole := trim_append leading trailing (text.dropWhile Unicode.isWhiteSpace)
  rw [List.append_nil, List.takeWhile_append_dropWhile] at whole
  exact whole.symm

/-- The text without the white space at its end. -/
theorem trim_reverse_dropWhile (text : Text) :
    trim (text.reverse.dropWhile Unicode.isWhiteSpace).reverse = trim text := by
  have leading : ∀ c ∈ ([] : Text), Unicode.isWhiteSpace c = true := by simp
  have trailing : ∀ c ∈ (text.reverse.takeWhile Unicode.isWhiteSpace).reverse,
      Unicode.isWhiteSpace c = true :=
    fun c mem => List.all_eq_true.mp List.all_takeWhile c (List.mem_reverse.mp mem)
  have whole := trim_append leading trailing (text.reverse.dropWhile Unicode.isWhiteSpace).reverse
  rw [List.nil_append, ← List.reverse_append, List.takeWhile_append_dropWhile,
    List.reverse_reverse] at whole
  exact whole.symm

theorem trim_subset (text : Text) : trim text ⊆ text := by
  intro c mem
  have mem := List.mem_reverse.mp mem
  have mem := List.mem_reverse.mp ((List.dropWhile_sublist _).subset mem)
  exact (List.dropWhile_sublist _).subset mem

/-- **Trimming a text trims the parts before and after a mark** on their outer sides. -/
theorem splitOnce?_trim (visible : Unicode.isWhiteSpace mark = false) (text : Text) :
    (trim text).splitOnce? mark = (text.splitOnce? mark).map fun (front, back) =>
      (front.dropWhile Unicode.isWhiteSpace,
        (back.reverse.dropWhile Unicode.isWhiteSpace).reverse) := by
  by_cases mem : mark ∈ text
  · obtain ⟨front, back, rfl, first⟩ := List.eq_append_cons_of_mem mem
    have first' : mark ∉ front.dropWhile Unicode.isWhiteSpace :=
      fun mem => first ((List.dropWhile_sublist _).subset mem)
    rw [splitOnce?_append first, trim, dropWhile_append_cons visible, List.reverse_append,
      List.reverse_cons, List.append_assoc, List.singleton_append, dropWhile_append_cons visible,
      List.reverse_append, List.reverse_cons, List.reverse_reverse, List.append_assoc,
      List.singleton_append, splitOnce?_append first']
    rfl
  · have absent : mark ∉ trim text := fun inside => mem (trim_subset text inside)
    rw [splitOnce?_of_not_mem mem, splitOnce?_of_not_mem absent]
    rfl

end Text

namespace Config

variable {line key value : Text} {lines rest : List Text}

/-! ## One line -/

/-- Whether a line sets a key to a value: it is no comment, and the text before its first `=` is the
key. Blanks around the two and the case of the key do not count. -/
def Sets (line key value : Text) : Prop :=
  line.trim.head? ≠ some '#' ∧ ∃ name rest : Text, line = name ++ '=' :: rest ∧ '=' ∉ name ∧
    name.trim.lower = key ∧ rest.trim = value

/-- A line is read as what it sets. -/
theorem binding?_eq_some_iff : binding? line = some (key, value) ↔ Sets line key value := by
  have visible : Unicode.isWhiteSpace '=' = false := by decide
  unfold binding? Sets
  by_cases comment : line.trim.head? = some '#'
  · simp only [comment, if_true, ne_eq, not_true, false_and, reduceCtorEq]
  · simp only [Text.splitOnce?_trim visible, Option.map_map, ne_eq, comment, if_false,
      not_false_eq_true, true_and, Option.map_eq_some_iff, Text.splitOnce?_eq_some_iff,
      Function.comp_apply, Prod.exists, Prod.mk.injEq, Text.trim_dropWhile,
      Text.trim_reverse_dropWhile, and_assoc]

/-- A line sets one key at most, to one value. -/
theorem Sets.unique {key' value' : Text} (h : Sets line key value) (h' : Sets line key' value') :
    key = key' ∧ value = value' := by
  have same := (binding?_eq_some_iff.mpr h).symm.trans (binding?_eq_some_iff.mpr h')
  exact Prod.mk.inj (Option.some.inj same)

/-- Whether a line sets a key. -/
def IsFor (key line : Text) : Prop := ∃ value, Sets line key value

theorem isFor_iff : IsFor key line ↔ (binding? line).map Prod.fst = some key := by
  unfold IsFor
  simp only [← binding?_eq_some_iff]
  cases binding? line with
  | none => simp
  | some binding => simp [Prod.ext_iff]

instance (key line : Text) : Decidable (IsFor key line) := decidable_of_iff' _ isFor_iff

/-! ## The last line -/

/-- The lines that set a key, in their order. -/
def linesFor (key : Text) (lines : List Text) : List Text :=
  lines.filter fun line => IsFor key line

theorem linesFor_append (key : Text) (lines rest : List Text) :
    linesFor key (lines ++ rest) = linesFor key lines ++ linesFor key rest :=
  List.filter_append lines rest

/-- Lines that do not set a key do not count for it. -/
theorem linesFor_cons_of_not (h : ¬ IsFor key line) (rest : List Text) :
    linesFor key (line :: rest) = linesFor key rest :=
  List.filter_cons_of_neg (by simpa using h)

/-- Whether the last of the lines that set a key sets it to a value. -/
def LastSets (lines : List Text) (key value : Text) : Prop :=
  ∃ line, (linesFor key lines).getLast? = some line ∧ Sets line key value

/-- What is first read for a key is what the first line for it sets. -/
theorem lookup_filterMap_eq_some_iff : (lines.filterMap binding?).lookup key = some value ↔
    ∃ line, lines.find? (fun line => IsFor key line) = some line ∧ Sets line key value := by
  induction lines with
  | nil => simp
  | cons line rest ih =>
    by_cases mine : IsFor key line
    · obtain ⟨value', sets⟩ := id mine
      rw [List.filterMap_cons_some (binding?_eq_some_iff.mpr sets), List.lookup_cons_self,
        List.find?_cons_of_pos (by simpa using mine), Option.some_inj]
      constructor
      · rintro rfl
        exact ⟨line, rfl, sets⟩
      · rintro ⟨_, ⟨⟩, sets'⟩
        exact (sets.unique sets').2
    · rw [List.find?_cons_of_neg (by simpa using mine), ← ih]
      cases read : binding? line with
      | none => rw [List.filterMap_cons_none read]
      | some binding =>
        have other : (key == binding.1) = false := by
          refine beq_eq_false_iff_ne.mpr ?_
          rintro rfl
          exact mine ⟨binding.2, binding?_eq_some_iff.mp read⟩
        rw [List.filterMap_cons_some read, List.lookup_cons, other]

/-- **The last line for a key decides** what is read for it. -/
theorem lookup_bindings_eq_some_iff {content : Text} :
    (bindings content).lookup key = some value ↔ LastSets (content.splitOn '\n') key value := by
  rw [bindings, ← List.filterMap_reverse, lookup_filterMap_eq_some_iff, LastSets, linesFor,
    List.getLast?_filter]

end Config

end Highlight
