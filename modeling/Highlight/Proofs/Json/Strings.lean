import Highlight.Grammar.Json
import Highlight.Proofs.Forms.Languages
import Highlight.Proofs.Json.Syntax

/-!
# What the string patterns of JSON match

A string is matched up to its closing quote (`Quotes.outcomes_quoted`), and the search for that goes
through what a string is spelled with, characters and escapes (`Spelled`). Other text is spelled so
too: the pattern may start at any quote, and from a closing one it goes through what stands between
two strings, up to the next opening quote on the line. So behind every quote, whichever it is, there
is one place where the pattern can end, or none (`jsonString_closed`, `jsonString_open`).

The pattern of keys asks for a colon behind that place, with blanks before it (`leadsToColon`).
Behind a value there is none; behind the opening quote that ends a match from a closing one it is
the content of the next string that decides.
-/

namespace Highlight.Json

open Pattern

variable {front rest text more : Text} {groups : List (Nat × Span)} {c : Char}
  {glyphs : List Glyph}

/-! ## Strings -/

/-- The sets of characters of the string pattern. -/
theorem jsonString_quotes : Quotes '"' false .notNewline (.noneOf "\"\\\n") :=
  quotes_line '"' "\"\\\n" (by decide) (by decide) (by decide)

/-- Whether a character goes through the string pattern on its own. -/
def IsPlain (c : Char) : Prop := c ≠ '"' ∧ c ≠ '\\' ∧ c ≠ '\n'

instance : DecidablePred IsPlain := fun c =>
  inferInstanceAs (Decidable (c ≠ '"' ∧ c ≠ '\\' ∧ c ≠ '\n'))

/-- Whether a text goes through the string pattern. -/
inductive Spelled : Text → Prop
  | nil : Spelled []
  | plain {c : Char} {text : Text} : IsPlain c → Spelled text → Spelled (c :: text)
  | escape {c : Char} {text : Text} : c ≠ '\n' → Spelled text → Spelled ('\\' :: c :: text)

theorem Spelled.of_plain (h : ∀ c ∈ text, IsPlain c) : Spelled text := by
  induction text with
  | nil => exact .nil
  | cons c text ih =>
    exact .plain (h c List.mem_cons_self) (ih fun d mem => h d (List.mem_cons_of_mem c mem))

theorem Spelled.append (first : Spelled text) (second : Spelled more) : Spelled (text ++ more) := by
  induction first with
  | nil => exact second
  | plain plain _ ih => exact .plain plain ih
  | escape noBreak _ ih => exact .escape noBreak ih

theorem HexDigit.isPlain (c : HexDigit) : IsPlain c.val := by
  obtain ⟨c, digit | letter⟩ := c
  · refine ⟨?_, ?_, ?_⟩ <;> (rintro rfl; revert digit; decide)
  · refine ⟨?_, ?_, ?_⟩ <;> (rintro rfl; revert letter; decide)

theorem Plain.isPlain (c : Plain) : IsPlain c.val := by
  obtain ⟨c, printable, noQuote, noBackslash⟩ := c
  refine ⟨noQuote, noBackslash, ?_⟩
  rintro rfl
  revert printable
  decide

theorem Glyph.spelled (glyph : Glyph) : Spelled glyph.text := by
  cases glyph with
  | plain c => exact .plain (Plain.isPlain c) .nil
  | escaped e => exact .escape (by cases e <;> decide) .nil
  | coded a b c d =>
    refine .escape (by decide) (.of_plain ?_)
    intro x mem
    simp only [List.mem_cons, List.not_mem_nil, or_false] at mem
    rcases mem with rfl | rfl | rfl | rfl <;> exact HexDigit.isPlain _

theorem spelled_body (glyphs : List Glyph) : Spelled (body glyphs) := by
  induction glyphs with
  | nil => exact .nil
  | cons glyph glyphs ih => exact glyph.spelled.append ih

/-- The search for a closing quote goes through a spelled text. -/
theorem Spelled.closed? (spelled : Spelled text) (rest : Text) :
    Text.closed? '"' false false (text ++ rest) =
      (Text.closed? '"' false false rest).map fun (taken, after) => (text ++ taken, after) := by
  induction spelled with
  | nil => exact Option.map_id'.symm
  | @plain c text plain _ ih =>
    obtain ⟨noQuote, noBackslash, noBreak⟩ := plain
    have inside : (CharSet.noneOf "\"\\\n").contains c = true := by
      simp [jsonString_quotes.plain, noQuote, noBackslash, noBreak]
    rw [List.cons_append, jsonString_quotes.closed?_plain inside, ih, Option.map_map]
    rfl
  | @escape c text noBreak _ ih =>
    have along : CharSet.notNewline.contains c = true := by
      simp [jsonString_quotes.escaped, noBreak]
    rw [List.cons_append, List.cons_append, jsonString_quotes.closed?_escape along, ih,
      Option.map_map]
    rfl

theorem jsonString_begins : Grammar.jsonString.Begins (· == '"') := (begins_char '"').seq _

/-- **A quote closes** what another one has opened. -/
theorem jsonString_closed (spelled : Spelled text) :
    Grammar.jsonString.outcomes (State.between front ('"' :: (text ++ '"' :: rest)) groups) =
      [State.between (front ++ '"' :: (text ++ ['"'])) rest groups] := by
  refine (jsonString_quotes.outcomes_quoted front _ groups).trans ?_
  rw [spelled.closed?]
  rfl

theorem jsonString_quote (glyphs : List Glyph) :
    Grammar.jsonString.outcomes (State.between front (quote glyphs ++ rest) groups) =
      [State.between (front ++ quote glyphs) rest groups] := by
  rw [quote, List.cons_append, List.append_assoc, List.singleton_append]
  exact jsonString_closed (spelled_body glyphs)

/-- What is not closed on the line is no string. -/
theorem jsonString_open (spelled : Spelled text) (ends : ∀ c ∈ rest.head?, c = '\n') :
    Grammar.jsonString.outcomes (State.between front ('"' :: (text ++ rest)) groups) = [] := by
  refine (jsonString_quotes.outcomes_quoted front _ groups).trans ?_
  rw [spelled.closed?]
  cases rest with
  | nil => rfl
  | cons c rest =>
    obtain rfl := ends c rfl
    rfl

/-! ## Keys -/

/-- Whether a text starts with a colon, apart from blanks. -/
def leadsToColon (text : Text) : Bool := (text.dropWhile Unicode.isWhiteSpace).head? == some ':'

/-- The pattern of keys. -/
def keyPattern : Pattern := seqs [group 1 Grammar.jsonString, zeroOrMore blank, char ':']

theorem leadsToColon_append {blanks : Text} (white : ∀ c ∈ blanks, Unicode.isWhiteSpace c = true)
    (text : Text) : leadsToColon (blanks ++ text) = leadsToColon text := by
  rw [leadsToColon, leadsToColon, List.dropWhile_append_of_pos white]

/-- A text that is followed by a quote leads to a colon only if it does so on its own. -/
theorem leadsToColon_quote (text rest : Text) :
    leadsToColon (text ++ '"' :: rest) = leadsToColon text := by
  induction text with
  | nil => rfl
  | cons c text ih =>
    cases white : Unicode.isWhiteSpace c with
    | true =>
      have skip (text : Text) : leadsToColon (c :: text) = leadsToColon text := by
        rw [leadsToColon, leadsToColon, List.dropWhile_cons_of_pos white]
      rw [List.cons_append, skip, skip, ih]
    | false =>
      have stay (text : Text) : leadsToColon (c :: text) = (some c == some ':') := by
        rw [leadsToColon, List.dropWhile_cons_of_neg (by simp [white]), List.head?_cons]
      rw [List.cons_append, stay, stay]

theorem exists_blanks_colon (h : leadsToColon text = true) :
    ∃ blanks rest, text = blanks ++ ':' :: rest ∧
      ∀ c ∈ blanks, Unicode.isWhiteSpace c = true := by
  obtain ⟨rest, eq⟩ := List.head?_eq_some_iff.mp (beq_iff_eq.mp h)
  refine ⟨text.takeWhile Unicode.isWhiteSpace, rest, ?_, ?_⟩
  · rw [← eq, List.takeWhile_append_dropWhile]
  · intro c mem
    exact List.all_eq_true.mp List.all_takeWhile c mem

/-- A colon with blanks before it. -/
def colon : Pattern := seq (zeroOrMore blank) (char ':')

theorem colon_outcomes (front text : Text) (groups : List (Nat × Span)) :
    colon.outcomes (State.between front text groups) =
      (char ':').outcomes (State.between (front ++ text.takeWhile Unicode.isWhiteSpace)
        (text.dropWhile Unicode.isWhiteSpace) groups) := by
  have white : ∀ c ∈ text.takeWhile Unicode.isWhiteSpace, CharSet.blank.contains c = true :=
    List.all_eq_true.mp List.all_takeWhile
  have ends : ∀ c ∈ (text.dropWhile Unicode.isWhiteSpace).head?,
      CharSet.blank.contains c = false := by
    intro c mem
    have first := List.head?_dropWhile_not Unicode.isWhiteSpace text
    rw [Option.mem_def.mp mem] at first
    exact first
  have runs := runs_set front white ends groups
  rw [List.takeWhile_append_dropWhile] at runs
  refine runs.outcomes_seq_star ?_
  -- A colon is no blank.
  intro t some
  refine (begins_set _).apart (begins_char ':') ?_ some
  intro c white
  refine beq_eq_false_iff_ne.mpr ?_
  rintro rfl
  revert white
  decide

theorem colon_none (h : leadsToColon text = false) :
    colon.outcomes (State.between front text groups) = [] := by
  rw [colon_outcomes]
  refine begins_char ':' _ ?_
  intro c mem
  refine beq_eq_false_iff_ne.mpr ?_
  rintro rfl
  have starts : (text.dropWhile Unicode.isWhiteSpace).head? = some ':' := mem
  rw [leadsToColon, starts] at h
  cases h

theorem colon_some {blanks : Text} (white : ∀ c ∈ blanks, Unicode.isWhiteSpace c = true) :
    colon.outcomes (State.between front (blanks ++ ':' :: rest) groups) =
      [State.between (front ++ (blanks ++ [':'])) rest groups] := by
  have take : (blanks ++ ':' :: rest).takeWhile Unicode.isWhiteSpace = blanks := by
    rw [List.takeWhile_append_of_pos white, List.takeWhile_cons_of_neg (by decide),
      List.append_nil]
  have drop : (blanks ++ ':' :: rest).dropWhile Unicode.isWhiteSpace = ':' :: rest := by
    rw [List.dropWhile_append_of_pos white, List.dropWhile_cons_of_neg (by decide)]
  rw [colon_outcomes, take, drop, char, outcomes_set_cons, if_pos (by decide), List.append_assoc]

theorem keyPattern_begins : keyPattern.Begins (· == '"') := (jsonString_begins.group 1).seq _

theorem keyPattern_nil
    (h : Grammar.jsonString.outcomes (State.between front rest groups) = []) :
    keyPattern.outcomes (State.between front rest groups) = [] := by
  refine outcomes_seq_nil ?_
  rw [outcomes, h, List.map_nil]

/-- From a quote with a closing one it is a colon behind the closing one that makes a key. -/
theorem keyPattern_outcomes (spelled : Spelled text) :
    keyPattern.outcomes (State.between front ('"' :: (text ++ '"' :: rest)) []) =
      colon.outcomes (State.between (front ++ '"' :: (text ++ ['"'])) rest
        [(1, ⟨front.byteSize, (front ++ '"' :: (text ++ ['"'])).byteSize⟩)]) := by
  refine outcomes_seq ?_
  rw [outcomes, jsonString_closed spelled]
  rfl

end Highlight.Json
