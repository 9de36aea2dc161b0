import Highlight.Unicode.Fold
import Highlight.Unicode.WhiteSpace
import Highlight.Unicode.Word

/-!
# Character sets

A set of characters as a grammar names it: intervals, the three named classes, and the operations
on them. The set is kept symbolic and asked for one character at a time, so it never has to be
expanded over all of Unicode, and disregard of case is one more operation (`fold`) instead of a
second kind of set. A class that was spelled out arrives as the list of its intervals (`within`).
-/

namespace Highlight.Pattern

/-- A set of characters. -/
inductive CharSet where
  | nothing
  | range (first last : Char)
  | decimal
  | blank
  | word
  | within (members : Unicode.Ranges)
  | union (a b : CharSet)
  | compl (a : CharSet)
  | fold (a : CharSet)
  deriving DecidableEq, Repr

namespace CharSet

/-- Membership. A folded set holds every character equal to one of its members without regard to
case. -/
def contains : CharSet → Char → Bool
  | nothing, _ => false
  | range first last, c => first.toNat ≤ c.toNat && c.toNat ≤ last.toNat
  | decimal, c => Unicode.isDecimal c
  | blank, c => Unicode.isWhiteSpace c
  | word, c => Unicode.isWord c
  | within members, c => members.contains c.toNat
  | union a b, c => a.contains c || b.contains c
  | compl a, c => !a.contains c
  | fold a, c => a.contains c || (Unicode.caseVariants c).any a.contains

/-- The set of one character. -/
def char (c : Char) : CharSet := range c c

/-- The set of all characters. -/
def all : CharSet := compl nothing

/-- The set of all characters but a line feed. -/
def notNewline : CharSet := compl (char '\n')

/-- The members of some set of a list. -/
def unions : List CharSet → CharSet
  | [] => nothing
  | [a] => a
  | a :: rest => union a (unions rest)

/-- The set of the characters of a string. -/
def oneOf (chars : String) : CharSet := unions (chars.toList.map char)

/-- The set of all characters that are not in a string. -/
def noneOf (chars : String) : CharSet := compl (oneOf chars)

theorem contains_char (a c : Char) : (char a).contains c = (c == a) := by
  by_cases h : c = a
  · subst h; simp [char, contains]
  · have hne : c.toNat ≠ a.toNat := fun e => h (Char.toNat_inj.mp e)
    have : ¬(a.toNat ≤ c.toNat ∧ c.toNat ≤ a.toNat) :=
      fun ⟨h₁, h₂⟩ => hne (Nat.le_antisymm h₂ h₁)
    rw [beq_eq_false_iff_ne.mpr h]
    simpa [char, contains] using this

theorem contains_unions (sets : List CharSet) (c : Char) :
    (unions sets).contains c = sets.any (·.contains c) := by
  induction sets with
  | nil => rfl
  | cons a rest ih =>
    cases rest with
    | nil => simp only [unions, List.any_cons, List.any_nil, Bool.or_false]
    | cons b rest => simp only [unions, contains, List.any_cons (a := a), ih]

theorem contains_oneOf (chars : String) (c : Char) :
    (oneOf chars).contains c = chars.toList.contains c := by
  simp only [oneOf, contains_unions, List.any_map, Function.comp_def, contains_char,
    List.contains_eq_any_beq]

end CharSet

end Highlight.Pattern
