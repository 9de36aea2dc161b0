import Highlight.Text.Basic
import Highlight.Unicode.Word
import Mathlib.Data.List.Basic

/-!
# Forms

A form is what may start at a place of a text, such as a comment or a string: it takes a part of the
text from there on, or nothing. It may look at the character before the place, but what it takes
does not depend on what stands further on: it stays the same in a text that ends earlier
(`Form.cut`), and what takes nothing in a text takes nothing in a first part of it
(`Form.isSome_append`). So a form may be told by the window that a rule is given.

The forms of the built-in languages are put together from three: a stretch between two marks
(`Form.enclosed`), the rest of a line (`Form.line`) and a quoted string (`Form.quoted`).
-/

namespace Highlight

namespace Text

variable {front rest back text mark : Text} {quote c : Char} {breaks escaped : Bool}

/-- The text up to and with the first occurrence of a mark, and what follows. -/
def through? (mark : Text) : Text → Option (Text × Text)
  | [] => (mark.isPrefixOf? []).map fun after => (mark, after)
  | c :: rest =>
    match mark.isPrefixOf? (c :: rest) with
    | some after => some (mark, after)
    | none => (through? mark rest).map fun (front, after) => (c :: front, after)

/-- The text up to and with the quote that ends a string, and what follows. A backslash takes the
character after it along (`escaped` if one stands before the text), and only a string that may span
lines (`breaks`) goes past a line feed. -/
def closed? (quote : Char) (breaks : Bool) : Bool → Text → Option (Text × Text)
  | _, [] => none
  | escaped, c :: rest =>
    if c = '\n' ∧ breaks = false then none
    else if c = quote ∧ escaped = false then some ([c], rest)
    else (closed? quote breaks (c == '\\' && !escaped) rest).map
      fun (front, after) => (c :: front, after)

theorem isPrefixOf?_append (h : mark.isPrefixOf? text = some rest) (back : Text) :
    mark.isPrefixOf? (text ++ back) = some (rest ++ back) := by
  rw [List.isPrefixOf?_eq_some_iff_append_eq] at h ⊢
  rw [← h, List.append_assoc]

theorem isPrefixOf?_eq_none_of_append (back : Text) (h : mark.isPrefixOf? (text ++ back) = none) :
    mark.isPrefixOf? text = none := by
  cases short : mark.isPrefixOf? text with
  | none => rfl
  | some rest =>
    rw [isPrefixOf?_append short back] at h
    cases h

theorem isPrefixOf?_self (mark rest : Text) : mark.isPrefixOf? (mark ++ rest) = some rest :=
  List.isPrefixOf?_eq_some_iff_append_eq.mpr rfl

theorem through?_of_isPrefixOf? (h : mark.isPrefixOf? text = some rest) :
    through? mark text = some (mark, rest) := by
  cases text <;> simp only [through?, h, Option.map_some]

theorem through?_cons (h : mark.isPrefixOf? (c :: text) = none) :
    through? mark (c :: text) =
      (through? mark text).map fun (front, after) => (c :: front, after) := by
  simp only [through?, h]

theorem eq_append_of_through? (h : through? mark text = some (front, rest)) :
    text = front ++ rest := by
  induction text generalizing front with
  | nil =>
    obtain ⟨after, found, eq⟩ := Option.map_eq_some_iff.mp h
    obtain ⟨rfl, rfl⟩ := Prod.mk.inj eq
    exact (List.isPrefixOf?_eq_some_iff_append_eq.mp found).symm
  | cons c text ih =>
    cases found : mark.isPrefixOf? (c :: text) with
    | some after =>
      rw [through?_of_isPrefixOf? found] at h
      obtain ⟨rfl, rfl⟩ := Prod.mk.inj (Option.some.inj h)
      exact (List.isPrefixOf?_eq_some_iff_append_eq.mp found).symm
    | none =>
      rw [through?_cons found] at h
      obtain ⟨⟨front, after⟩, later, eq⟩ := Option.map_eq_some_iff.mp h
      obtain ⟨rfl, rfl⟩ := Prod.mk.inj eq
      rw [ih later, List.cons_append]

theorem through?_cut (h : through? mark (front ++ (rest ++ back)) = some (front, rest ++ back)) :
    through? mark (front ++ rest) = some (front, rest) := by
  induction front with
  | nil =>
    -- Nothing before the mark and nothing of it: the mark is empty.
    have empty : mark = [] := by
      rw [List.nil_append] at h
      cases text : rest ++ back with
      | nil =>
        rw [text] at h
        obtain ⟨after, -, eq⟩ := Option.map_eq_some_iff.mp h
        exact (Prod.mk.inj eq).1
      | cons c more =>
        rw [text, through?] at h
        split at h
        · exact (Prod.mk.inj (Option.some.inj h)).1
        · obtain ⟨_, -, eq⟩ := Option.map_eq_some_iff.mp h
          cases (Prod.mk.inj eq).1
    rw [empty]
    exact through?_of_isPrefixOf? (isPrefixOf?_self [] rest)
  | cons c front ih =>
    cases found : mark.isPrefixOf? (c :: (front ++ (rest ++ back))) with
    | some after =>
      rw [List.cons_append, through?_of_isPrefixOf? found] at h
      obtain ⟨rfl, -⟩ := Prod.mk.inj (Option.some.inj h)
      exact through?_of_isPrefixOf? (isPrefixOf?_self _ rest)
    | none =>
      rw [List.cons_append, through?_cons found] at h
      obtain ⟨⟨front', after⟩, later, eq⟩ := Option.map_eq_some_iff.mp h
      obtain ⟨same, rfl⟩ := Prod.mk.inj eq
      obtain ⟨-, rfl⟩ := List.cons.inj same
      have short : mark.isPrefixOf? (c :: (front' ++ rest)) = none := by
        refine isPrefixOf?_eq_none_of_append back ?_
        rwa [List.cons_append, List.append_assoc]
      rw [List.cons_append, through?_cons short, ih later]
      rfl

theorem isSome_through?_append (h : (through? mark text).isSome) (back : Text) :
    (through? mark (text ++ back)).isSome := by
  induction text with
  | nil =>
    obtain ⟨⟨_, after⟩, found⟩ := Option.isSome_iff_exists.mp h
    obtain ⟨after, here, -⟩ := Option.map_eq_some_iff.mp found
    rw [through?_of_isPrefixOf? (isPrefixOf?_append here back)]
    rfl
  | cons c text ih =>
    cases found : mark.isPrefixOf? (c :: (text ++ back)) with
    | some after =>
      rw [List.cons_append, through?_of_isPrefixOf? found]
      rfl
    | none =>
      have short : mark.isPrefixOf? (c :: text) = none :=
        isPrefixOf?_eq_none_of_append back found
      rw [through?_cons short, Option.isSome_map] at h
      rw [List.cons_append, through?_cons found, Option.isSome_map]
      exact ih h

theorem eq_append_of_closed? (h : closed? quote breaks escaped text = some (front, rest)) :
    text = front ++ rest ∧ front ≠ [] := by
  induction text generalizing escaped front with
  | nil => cases h
  | cons c text ih =>
    simp only [closed?] at h
    split at h
    · cases h
    · split at h
      · cases h
        exact ⟨rfl, List.cons_ne_nil _ _⟩
      · obtain ⟨⟨front, after⟩, later, eq⟩ := Option.map_eq_some_iff.mp h
        obtain ⟨rfl, rfl⟩ := Prod.mk.inj eq
        rw [(ih later).1]
        exact ⟨rfl, List.cons_ne_nil _ _⟩

/-- The end of a string is where it is, whatever follows. -/
theorem closed?_append (h : closed? quote breaks escaped text = some (front, rest)) (back : Text) :
    closed? quote breaks escaped (text ++ back) = some (front, rest ++ back) := by
  induction text generalizing escaped front with
  | nil => cases h
  | cons c text ih =>
    simp only [closed?, List.cons_append] at h ⊢
    split at h
    · cases h
    · next line =>
      rw [if_neg line]
      split at h
      · next ends =>
        cases h
        rw [if_pos ends]
      · next goes =>
        obtain ⟨⟨front, after⟩, later, eq⟩ := Option.map_eq_some_iff.mp h
        obtain ⟨rfl, rfl⟩ := Prod.mk.inj eq
        rw [if_neg goes, ih later]
        rfl

theorem closed?_cut (h : closed? quote breaks escaped (front ++ (rest ++ back)) =
    some (front, rest ++ back)) : closed? quote breaks escaped (front ++ rest) =
      some (front, rest) := by
  induction front generalizing escaped with
  | nil => exact absurd rfl (eq_append_of_closed? h).2
  | cons c front ih =>
    simp only [closed?, List.cons_append] at h ⊢
    split at h
    · cases h
    · next line =>
      rw [if_neg line]
      split at h
      · next ends =>
        obtain ⟨same, -⟩ := Prod.mk.inj (Option.some.inj h)
        obtain ⟨-, rfl⟩ := List.cons.inj same
        rw [if_pos ends]
        rfl
      · next goes =>
        obtain ⟨⟨front', after⟩, later, eq⟩ := Option.map_eq_some_iff.mp h
        obtain ⟨same, rfl⟩ := Prod.mk.inj eq
        obtain ⟨-, rfl⟩ := List.cons.inj same
        rw [if_neg goes, ih later]
        rfl

/-- A string that stays on its line is not closed behind the line. -/
theorem closed?_none_append (h : closed? quote false escaped text = none)
    (line : ∀ c ∈ rest.head?, c = '\n') : closed? quote false escaped (text ++ rest) = none := by
  induction text generalizing escaped with
  | nil =>
    cases rest with
    | nil => rfl
    | cons c rest =>
      rw [List.nil_append, closed?, if_pos ⟨line c rfl, rfl⟩]
  | cons c text ih =>
    simp only [closed?, List.cons_append] at h ⊢
    split at h
    · next ends => rw [if_pos ends]
    · next goes =>
      rw [if_neg goes]
      split at h
      · cases h
      · next inside =>
        rw [if_neg inside, ih (Option.map_eq_none_iff.mp h)]
        rfl

end Text

/-- What may start at a place of a text. From the character before the place and the text from there
on, it says what it takes of the text, and what it leaves. -/
structure Form where
  take? : Option Char → Text → Option (Text × Text)
  /-- What is taken and what is left make up the text, and something is taken. -/
  taken : ∀ {before text front rest}, take? before text = some (front, rest) →
    text = front ++ rest ∧ front ≠ []
  /-- What is taken stays the same if the text ends earlier, but not before the end of it. -/
  cut : ∀ {before front rest back}, take? before (front ++ (rest ++ back)) =
    some (front, rest ++ back) → take? before (front ++ rest) = some (front, rest)
  /-- What takes something in a first part of a text takes something in the text. -/
  isSome_append : ∀ {before text}, (take? before text).isSome → ∀ back,
    (take? before (text ++ back)).isSome

namespace Form

/-- What takes nothing in a text takes nothing in a first part of it. -/
theorem none_of_append (form : Form) {before : Option Char} {text : Text} (back : Text)
    (h : form.take? before (text ++ back) = none) : form.take? before text = none := by
  cases short : form.take? before text with
  | none => rfl
  | some pair =>
    have some := form.isSome_append (Option.isSome_iff_exists.mpr ⟨pair, short⟩) back
    rw [h] at some
    cases some

/-- The first of two forms that takes something. -/
def orElse (first second : Form) : Form where
  take? before text := (first.take? before text).or (second.take? before text)
  taken := by
    intro before text front rest h
    rcases Option.or_eq_some_iff.mp h with here | ⟨-, here⟩
    · exact first.taken here
    · exact second.taken here
  cut := by
    intro before front rest back h
    rcases Option.or_eq_some_iff.mp h with here | ⟨none, here⟩
    · rw [first.cut here, Option.some_or]
    · rw [← List.append_assoc] at none
      rw [first.none_of_append back none, Option.none_or]
      exact second.cut here
  isSome_append := by
    intro before text h back
    rw [Option.isSome_or, Bool.or_eq_true] at h ⊢
    exact h.imp (first.isSome_append · back) (second.isSome_append · back)

/-- Where the first of two forms takes nothing, it is up to the second. -/
theorem take?_orElse {first : Form} {before : Option Char} {text : Text}
    (none : first.take? before text = none) (second : Form) :
    (first.orElse second).take? before text = second.take? before text := by
  simp only [orElse, none, Option.none_or]

/-- A stretch from one mark to the first occurrence of another behind it. -/
def enclosed (opening closing : Text) (some : opening ≠ []) : Form where
  take? _ text := (opening.isPrefixOf? text).bind fun inside =>
    (Text.through? closing inside).map fun (front, rest) => (opening ++ front, rest)
  taken := by
    intro before text front rest h
    obtain ⟨inside, opens, h⟩ := Option.bind_eq_some_iff.mp h
    obtain ⟨⟨middle, after⟩, closes, eq⟩ := Option.map_eq_some_iff.mp h
    obtain ⟨rfl, rfl⟩ := Prod.mk.inj eq
    rw [← List.isPrefixOf?_eq_some_iff_append_eq.mp opens, Text.eq_append_of_through? closes]
    exact ⟨(List.append_assoc ..).symm, List.append_ne_nil_of_left_ne_nil some _⟩
  cut := by
    intro before front rest back h
    obtain ⟨inside, opens, h⟩ := Option.bind_eq_some_iff.mp h
    obtain ⟨⟨middle, after⟩, closes, eq⟩ := Option.map_eq_some_iff.mp h
    obtain ⟨rfl, rfl⟩ := Prod.mk.inj eq
    rw [List.isPrefixOf?_eq_some_iff_append_eq, List.append_assoc, List.append_right_inj] at opens
    subst opens
    rw [List.append_assoc, Text.isPrefixOf?_self, Option.bind_some, Text.through?_cut closes]
    rfl
  isSome_append := by
    intro before text h back
    obtain ⟨pair, h⟩ := Option.isSome_iff_exists.mp h
    obtain ⟨inside, opens, h⟩ := Option.bind_eq_some_iff.mp h
    have closes : (Text.through? closing inside).isSome := by
      rw [← Option.isSome_map, h]
      rfl
    rw [Text.isPrefixOf?_append opens, Option.bind_some, Option.isSome_map]
    exact Text.isSome_through?_append closes back

/-- A mark and the rest of its line. -/
def line (opening : Text) (some : opening ≠ []) : Form where
  take? _ text := (opening.isPrefixOf? text).map fun inside =>
    (opening ++ inside.takeWhile (· != '\n'), inside.dropWhile (· != '\n'))
  taken := by
    intro before text front rest h
    obtain ⟨inside, opens, eq⟩ := Option.map_eq_some_iff.mp h
    obtain ⟨rfl, rfl⟩ := Prod.mk.inj eq
    rw [← List.isPrefixOf?_eq_some_iff_append_eq.mp opens, List.append_assoc,
      List.takeWhile_append_dropWhile]
    exact ⟨rfl, List.append_ne_nil_of_left_ne_nil some _⟩
  cut := by
    intro before front rest back h
    obtain ⟨inside, opens, eq⟩ := Option.map_eq_some_iff.mp h
    obtain ⟨rfl, left⟩ := Prod.mk.inj eq
    have all : ∀ c ∈ inside.takeWhile (· != '\n'), (c != '\n') = true :=
      List.all_eq_true.mp List.all_takeWhile
    -- The line ends where the rest begins, also if nothing is left of the rest.
    have ends : rest.takeWhile (· != '\n') = [] ∧ rest.dropWhile (· != '\n') = rest := by
      cases rest with
      | nil => exact ⟨rfl, rfl⟩
      | cons d rest =>
        have first := List.head?_dropWhile_not (· != '\n') inside
        rw [left] at first
        have stop : (d != '\n') = false := first
        rw [List.takeWhile_cons, List.dropWhile_cons, stop]
        exact ⟨rfl, rfl⟩
    rw [List.append_assoc, Text.isPrefixOf?_self, Option.map_some,
      List.takeWhile_append_of_pos all, List.dropWhile_append_of_pos all, ends.1, ends.2,
      List.append_nil]
  isSome_append := by
    intro before text h back
    rw [Option.isSome_map] at h ⊢
    obtain ⟨inside, opens⟩ := Option.isSome_iff_exists.mp h
    rw [Text.isPrefixOf?_append opens]
    rfl

/-- What follows the opening quote of a string, up to and with the closing one. -/
def closing (quote : Char) (breaks : Bool) : Form where
  take? _ text := Text.closed? quote breaks false text
  taken := Text.eq_append_of_closed?
  cut := Text.closed?_cut
  isSome_append := by
    intro before text h back
    obtain ⟨⟨front, rest⟩, closes⟩ := Option.isSome_iff_exists.mp h
    rw [Text.closed?_append closes]
    rfl

/-- A form with one character of some kind in front of it. -/
def behind (letter : Char → Bool) (form : Form) : Form where
  take?
    | _, [] => none
    | _, c :: inside =>
      if letter c then (form.take? (some c) inside).map fun (front, rest) => (c :: front, rest)
      else none
  taken := by
    intro before text front rest h
    cases text with
    | nil => cases h
    | cons c inside =>
      simp only at h
      split at h
      · obtain ⟨⟨middle, after⟩, here, eq⟩ := Option.map_eq_some_iff.mp h
        obtain ⟨rfl, rfl⟩ := Prod.mk.inj eq
        rw [(form.taken here).1]
        exact ⟨rfl, List.cons_ne_nil _ _⟩
      · cases h
  cut := by
    intro before front rest back h
    cases text : front ++ (rest ++ back) with
    | nil =>
      rw [text] at h
      cases h
    | cons c inside =>
      rw [text] at h
      simp only at h
      split at h
      · next opens =>
        obtain ⟨⟨middle, after⟩, here, eq⟩ := Option.map_eq_some_iff.mp h
        obtain ⟨rfl, rfl⟩ := Prod.mk.inj eq
        obtain ⟨-, rfl⟩ := List.cons.inj text
        simp only [List.cons_append, if_pos opens, form.cut here, Option.map_some]
      · cases h
  isSome_append := by
    intro before text h back
    cases text with
    | nil => cases h
    | cons c inside =>
      simp only [List.cons_append] at h ⊢
      split at h
      · next opens =>
        rw [Option.isSome_map] at h
        rw [if_pos opens, Option.isSome_map]
        exact form.isSome_append h back
      · cases h

/-- A string from a quote to the next one that no backslash takes along; if it does not span lines
(`breaks`), on the same line. -/
def quoted (quote : Char) (breaks : Bool) : Form := (closing quote breaks).behind (· == quote)

/-- A form that does not start behind a character of a word. -/
def atWord (form : Form) : Form where
  take? before text := if before.any Unicode.isWord then none else form.take? before text
  taken := by
    intro before text front rest h
    split at h
    · cases h
    · exact form.taken h
  cut := by
    intro before front rest back h
    split at h
    · cases h
    · next start =>
      rw [if_neg start]
      exact form.cut h
  isSome_append := by
    intro before text h back
    split at h
    · cases h
    · next start =>
      rw [if_neg start]
      exact form.isSome_append h back

/-! ## Places where nothing is taken -/

/-- Whether a form takes nothing at any place of a text that stands between two others. -/
def Absent (form : Form) (front text rest : Text) : Prop :=
  ∀ before behind, text = before ++ behind → behind ≠ [] →
    form.take? (front ++ before).getLast? (behind ++ rest) = none

variable {form first second : Form} {front text taken rest : Text} {before : Option Char}
  {c : Char}

instance (form : Form) (front text rest : Text) : Decidable (form.Absent front text rest) :=
  decidable_of_iff (∀ place < text.length,
      form.take? (front ++ text.take place).getLast? (text.drop place ++ rest) = none) <| by
    constructor
    · rintro all before behind rfl nonempty
      have here := all before.length (by
        rw [List.length_append]
        exact Nat.lt_add_of_pos_right (List.length_pos_iff.mpr nonempty))
      rwa [List.take_left, List.drop_left] at here
    · intro absent place inside
      refine absent _ _ (List.take_append_drop place text).symm ?_
      intro empty
      have length := congrArg List.length empty
      rw [List.length_drop, List.length_nil] at length
      omega

theorem absent_singleton (h : form.take? front.getLast? (c :: rest) = none) :
    form.Absent front [c] rest := by
  intro before behind split nonempty
  rcases List.singleton_eq_append_iff.mp split with ⟨rfl, rfl⟩ | ⟨-, rfl⟩
  · rwa [List.append_nil]
  · exact absurd rfl nonempty

theorem absent_orElse : (first.orElse second).Absent front text rest ↔
    first.Absent front text rest ∧ second.Absent front text rest := by
  simp only [Absent, orElse, Option.or_eq_none_iff]
  exact ⟨fun both => ⟨fun before behind split nonempty => (both before behind split nonempty).1,
    fun before behind split nonempty => (both before behind split nonempty).2⟩,
    fun both before behind split nonempty =>
      ⟨both.1 before behind split nonempty, both.2 before behind split nonempty⟩⟩

/-- A string that stays on its line is nowhere in a text if it is nowhere in the first part of it,
up to the end of a line. -/
theorem quoted_none_append {quote : Char} (h : (quoted quote false).take? before text = none)
    (nonempty : text ≠ []) (line : ∀ c ∈ rest.head?, c = '\n') (before' : Option Char) :
    (quoted quote false).take? before' (text ++ rest) = none := by
  cases text with
  | nil => exact absurd rfl nonempty
  | cons c inside =>
    simp only [quoted, behind, closing, List.cons_append] at h ⊢
    split at h
    · next opens =>
      rw [if_pos opens, Text.closed?_none_append (Option.map_eq_none_iff.mp h) line]
      rfl
    · next other => rw [if_neg other]

/-- What is enclosed starts with the opening mark. -/
theorem prefix_of_enclosed {opening closing : Text} {nonempty : opening ≠ []}
    (h : (enclosed opening closing nonempty).take? before text = some (taken, rest)) :
    opening <+: taken := by
  obtain ⟨inside, -, h⟩ := Option.bind_eq_some_iff.mp h
  obtain ⟨pair, -, eq⟩ := Option.map_eq_some_iff.mp h
  rw [← (Prod.mk.inj eq).1]
  exact List.prefix_append _ _

/-- A line starts with its mark. -/
theorem prefix_of_line {opening : Text} {nonempty : opening ≠ []}
    (h : (line opening nonempty).take? before text = some (taken, rest)) : opening <+: taken := by
  obtain ⟨inside, -, eq⟩ := Option.map_eq_some_iff.mp h
  rw [← (Prod.mk.inj eq).1]
  exact List.prefix_append _ _

/-- What follows a line is the end of it. -/
theorem head_of_line {opening : Text} (nonempty : opening ≠ [])
    (h : (line opening nonempty).take? before text = some (taken, rest)) :
    ∀ c ∈ rest.head?, c = '\n' := by
  obtain ⟨inside, -, eq⟩ := Option.map_eq_some_iff.mp h
  rw [← (Prod.mk.inj eq).2]
  intro c mem
  have first := List.head?_dropWhile_not (· != '\n') inside
  rw [Option.mem_def.mp mem] at first
  exact bne_eq_false_iff_eq.mp first

end Form

end Highlight
