import Highlight.Proofs.Tokenize.Pieces

/-!
# JSON texts

The grammar of RFC 8259 as trees, with all that a text may vary in: the blanks around its lexemes,
the spelling of its strings and of its numbers. A tree holds a value, or a part of one, and lists
its lexemes with the blanks between them (`Tree.pieces`); so a text is its pieces, and every JSON
text is the text of a tree.

Of the structure of a text the rules of a grammar see only what stands next to each other. A key has
the separator of a name behind it, any other value does not, and no two lexemes made of letters or
digits touch (`Tree.ordered`).
-/

namespace Highlight.Json

/-! ## Lexemes -/

/-- A character that may stand between lexemes. -/
inductive Blank where
  | space
  | tab
  | lineFeed
  | carriageReturn

/-- A structural character. -/
inductive Mark where
  | beginArray
  | endArray
  | beginObject
  | endObject
  | nameSeparator
  | valueSeparator

/-- A literal name. -/
inductive Word where
  | yes
  | no
  | null

/-- A decimal digit. -/
abbrev Digit := {c : Char // c.isDigit = true}

/-- Decimal digits, at least one. -/
structure Digits where
  first : Digit
  rest : List Digit

/-- The whole part of a number, which starts with a zero only if it is one. -/
inductive Whole where
  | zero
  | positive (digits : Digits) (h : digits.first.val ≠ '0')

/-- The exponent of a number. -/
structure Exponent where
  capital : Bool
  /-- A plus sign (`false`) or a minus sign (`true`), if there is a sign. -/
  negative : Option Bool
  digits : Digits

/-- A number as it is spelled. -/
structure Numeral where
  negative : Bool
  whole : Whole
  fraction : Option Digits
  exponent : Option Exponent

/-- A character that a string may hold as it is. -/
abbrev Plain := {c : Char // 0x20 ≤ c.toNat ∧ c ≠ '"' ∧ c ≠ '\\'}

/-- A character that a backslash turns into a character of a string. -/
inductive Escape where
  | quote
  | backslash
  | slash
  | backspace
  | formFeed
  | lineFeed
  | carriageReturn
  | tab

/-- A hexadecimal digit. -/
abbrev HexDigit := {c : Char // c.isDigit = true ∨ c ∈ "abcdefABCDEF".toList}

/-- A character of a string as it is spelled. -/
inductive Glyph where
  | plain (c : Plain)
  | escaped (e : Escape)
  | coded (a b c d : HexDigit)

/-- A lexeme, or a blank. The strings that name the members of objects are set apart. -/
inductive Piece where
  | blank (b : Blank)
  | mark (m : Mark)
  | key (glyphs : List Glyph)
  | string (glyphs : List Glyph)
  | word (w : Word)
  | number (n : Numeral)

/-! ## Spelling -/

def Blank.char : Blank → Char
  | space => ' '
  | tab => '\t'
  | lineFeed => '\n'
  | carriageReturn => '\r'

def Mark.char : Mark → Char
  | beginArray => '['
  | endArray => ']'
  | beginObject => '\x7b'
  | endObject => '\x7d'
  | nameSeparator => ':'
  | valueSeparator => ','

def Word.name : Word → String
  | yes => "true"
  | no => "false"
  | null => "null"

def Digits.text (digits : Digits) : Text := digits.first.val :: digits.rest.map Subtype.val

def Whole.text : Whole → Text
  | zero => ['0']
  | positive digits _ => digits.text

def Exponent.letter (exponent : Exponent) : Char := if exponent.capital then 'E' else 'e'

def Exponent.sign (exponent : Exponent) : Text :=
  match exponent.negative with
  | none => []
  | some negative => [if negative then '-' else '+']

def Exponent.text (exponent : Exponent) : Text :=
  exponent.letter :: (exponent.sign ++ exponent.digits.text)

def Numeral.sign (n : Numeral) : Text := if n.negative then ['-'] else []

def Numeral.fractionText (n : Numeral) : Text :=
  match n.fraction with
  | none => []
  | some digits => '.' :: digits.text

def Numeral.exponentText (n : Numeral) : Text :=
  match n.exponent with
  | none => []
  | some exponent => exponent.text

def Numeral.text (n : Numeral) : Text :=
  n.sign ++ (n.whole.text ++ (n.fractionText ++ n.exponentText))

def Escape.char : Escape → Char
  | quote => '"'
  | backslash => '\\'
  | slash => '/'
  | backspace => 'b'
  | formFeed => 'f'
  | lineFeed => 'n'
  | carriageReturn => 'r'
  | tab => 't'

def Glyph.text : Glyph → Text
  | plain c => [c.val]
  | escaped e => ['\\', e.char]
  | coded a b c d => ['\\', 'u', a.val, b.val, c.val, d.val]

/-- What stands between the quotes of a string. -/
def body (glyphs : List Glyph) : Text := glyphs.flatMap Glyph.text

/-- A string with its quotes. -/
def quote (glyphs : List Glyph) : Text := '"' :: (body glyphs ++ ['"'])

def Piece.text : Piece → Text
  | blank b => [b.char]
  | mark m => [m.char]
  | key glyphs | string glyphs => quote glyphs
  | word w => w.name
  | number n => n.text

/-- The category that a lexeme should get. -/
def Piece.kind : Piece → Option TokenType
  | blank _ => none
  | mark _ => some .operator
  | key _ => some .property
  | string _ => some .string
  | word _ => some .literal
  | number _ => some .number

theorem Digits.text_ne_nil (digits : Digits) : digits.text ≠ [] := List.cons_ne_nil _ _

theorem Whole.text_ne_nil (whole : Whole) : whole.text ≠ [] := by
  cases whole with
  | zero => exact List.cons_ne_nil _ _
  | positive digits _ => exact digits.text_ne_nil

theorem Piece.text_ne_nil (piece : Piece) : piece.text ≠ [] := by
  cases piece with
  | word w => cases w <;> exact List.cons_ne_nil _ _
  | number n =>
    have digits := List.append_ne_nil_of_left_ne_nil n.whole.text_ne_nil
    exact List.append_ne_nil_of_right_ne_nil n.sign (digits _)
  | _ => exact List.cons_ne_nil _ _

/-! ## Characters -/

theorem Digits.isDigit_of_mem {digits : Digits} {c : Char} (mem : c ∈ digits.text) :
    c.isDigit = true := by
  rcases List.mem_cons.mp mem with rfl | mem
  · exact digits.first.property
  · obtain ⟨digit, -, rfl⟩ := List.mem_map.mp mem
    exact digit.property

theorem Whole.isDigit_of_mem {whole : Whole} {c : Char} (mem : c ∈ whole.text) :
    c.isDigit = true := by
  cases whole with
  | zero =>
    obtain rfl := List.mem_singleton.mp mem
    rfl
  | positive digits _ => exact digits.isDigit_of_mem mem

/-- A number is spelled with digits, signs, a point and the letter of an exponent. -/
theorem Numeral.mem_text {n : Numeral} {c : Char} (mem : c ∈ n.text) :
    c.isDigit = true ∨ c ∈ "-+.eE".toList := by
  have exponent (exponent : Exponent) (mem : c ∈ exponent.text) :
      c.isDigit = true ∨ c ∈ "-+.eE".toList := by
    rcases List.mem_cons.mp mem with rfl | mem
    · rw [Exponent.letter]
      split <;> exact .inr (by decide)
    · rcases List.mem_append.mp mem with mem | mem
      · unfold Exponent.sign at mem
        split at mem
        · cases mem
        · rw [List.mem_singleton.mp mem]
          split <;> exact .inr (by decide)
      · exact .inl (Digits.isDigit_of_mem mem)
  rcases List.mem_append.mp mem with mem | mem
  · unfold sign at mem
    split at mem
    · rw [List.mem_singleton.mp mem]
      exact .inr (by decide)
    · cases mem
  rcases List.mem_append.mp mem with mem | mem
  · exact .inl (Whole.isDigit_of_mem mem)
  rcases List.mem_append.mp mem with mem | mem
  · unfold fractionText at mem
    split at mem
    · cases mem
    · rcases List.mem_cons.mp mem with rfl | mem
      · exact .inr (by decide)
      · exact .inl (Digits.isDigit_of_mem mem)
  · unfold exponentText at mem
    split at mem
    · cases mem
    · exact exponent _ mem

/-- The pieces of JSON texts. -/
def reading : Reading Piece := ⟨Piece.text, Piece.kind, Piece.text_ne_nil⟩

/-! ## Trees -/

/-- What a tree is a tree of. -/
inductive Part where
  | value
  | element
  | elements
  | member
  | members

/-- The parts of JSON texts. An element is a value with the blanks around it. -/
inductive Tree : Part → Type
  | word (w : Word) : Tree .value
  | number (n : Numeral) : Tree .value
  | string (glyphs : List Glyph) : Tree .value
  | emptyArray (inside : List Blank) : Tree .value
  | array (items : Tree .elements) : Tree .value
  | emptyObject (inside : List Blank) : Tree .value
  | object (entries : Tree .members) : Tree .value
  | element (before : List Blank) (value : Tree .value) (behind : List Blank) : Tree .element
  | oneElement (item : Tree .element) : Tree .elements
  | moreElements (item : Tree .element) (rest : Tree .elements) : Tree .elements
  | member (before : List Blank) (name : List Glyph) (behind : List Blank)
      (item : Tree .element) : Tree .member
  | oneMember (entry : Tree .member) : Tree .members
  | moreMembers (entry : Tree .member) (rest : Tree .members) : Tree .members

/-- A JSON text. -/
abbrev Document := Tree .element

/-- The lexemes of a tree, and the blanks between them. -/
def Tree.pieces : {part : Part} → Tree part → List Piece
  | _, word w => [.word w]
  | _, number n => [.number n]
  | _, string glyphs => [.string glyphs]
  | _, emptyArray inside => .mark .beginArray :: (inside.map .blank ++ [.mark .endArray])
  | _, array items => .mark .beginArray :: (items.pieces ++ [.mark .endArray])
  | _, emptyObject inside => .mark .beginObject :: (inside.map .blank ++ [.mark .endObject])
  | _, object entries => .mark .beginObject :: (entries.pieces ++ [.mark .endObject])
  | _, element before value behind => before.map .blank ++ (value.pieces ++ behind.map .blank)
  | _, oneElement item => item.pieces
  | _, moreElements item rest => item.pieces ++ .mark .valueSeparator :: rest.pieces
  | _, member before name behind item =>
    before.map .blank ++ .key name :: (behind.map .blank ++ .mark .nameSeparator :: item.pieces)
  | _, oneMember entry => entry.pieces
  | _, moreMembers entry rest => entry.pieces ++ .mark .valueSeparator :: rest.pieces

/-! ## Neighbours -/

/-- The first piece that is not a blank. -/
def next? : List Piece → Option Piece
  | [] => none
  | .blank _ :: rest => next? rest
  | piece :: _ => some piece

/-- Whether a piece may follow a value, with blanks between them. -/
def EndsValue : Option Piece → Prop
  | none => True
  | some (.mark m) => m ≠ .nameSeparator
  | some _ => False

/-- Whether a piece may follow another, with blanks between them. -/
def Piece.Allows : Piece → Option Piece → Prop
  | blank _, _ | mark _, _ => True
  | key _, following => following = some (.mark .nameSeparator)
  | string _, following | word _, following | number _, following => EndsValue following

/-- Whether each piece may follow the one before. -/
def Ordered : List Piece → Prop
  | [] => True
  | piece :: rest => piece.Allows (next? rest) ∧ Ordered rest

theorem next?_blanks (blanks : List Blank) (rest : List Piece) :
    next? (blanks.map .blank ++ rest) = next? rest := by
  induction blanks with
  | nil => rfl
  | cons _ _ ih => exact ih

theorem ordered_blanks (blanks : List Blank) {rest : List Piece} (h : Ordered rest) :
    Ordered (blanks.map .blank ++ rest) := by
  induction blanks with
  | nil => exact h
  | cons _ _ ih => exact ⟨trivial, ih⟩

theorem Ordered.of_append {pre post : List Piece} (h : Ordered (pre ++ post)) : Ordered post := by
  induction pre with
  | nil => exact h
  | cons _ _ ih => exact ih h.2

/-- The pieces of a part, in front of what may follow a value, may follow each other. -/
theorem Tree.ordered_append {part : Part} (tree : Tree part) {rest : List Piece}
    (ordered : Ordered rest) (ends : EndsValue (next? rest)) : Ordered (tree.pieces ++ rest) := by
  induction tree generalizing rest with
  | word _ => exact ⟨ends, ordered⟩
  | number _ => exact ⟨ends, ordered⟩
  | string _ => exact ⟨ends, ordered⟩
  | emptyArray inside =>
    simp only [pieces, List.cons_append, List.append_assoc]
    exact ⟨trivial, ordered_blanks inside ⟨trivial, ordered⟩⟩
  | array items ih =>
    simp only [pieces, List.cons_append, List.append_assoc]
    exact ⟨trivial, ih ⟨trivial, ordered⟩ Mark.noConfusion⟩
  | emptyObject inside =>
    simp only [pieces, List.cons_append, List.append_assoc]
    exact ⟨trivial, ordered_blanks inside ⟨trivial, ordered⟩⟩
  | object entries ih =>
    simp only [pieces, List.cons_append, List.append_assoc]
    exact ⟨trivial, ih ⟨trivial, ordered⟩ Mark.noConfusion⟩
  | element before value behind ih =>
    simp only [pieces, List.append_assoc]
    refine ordered_blanks before (ih (ordered_blanks behind ordered) ?_)
    rwa [next?_blanks]
  | oneElement item ih => exact ih ordered ends
  | moreElements item rest ih later =>
    simp only [pieces, List.append_assoc, List.cons_append]
    exact ih ⟨trivial, later ordered ends⟩ Mark.noConfusion
  | member before name behind item ih =>
    simp only [pieces, List.append_assoc, List.cons_append]
    refine ordered_blanks before ⟨?_, ordered_blanks behind ⟨trivial, ih ordered ends⟩⟩
    exact next?_blanks behind _
  | oneMember entry ih => exact ih ordered ends
  | moreMembers entry rest ih later =>
    simp only [pieces, List.append_assoc, List.cons_append]
    exact ih ⟨trivial, later ordered ends⟩ Mark.noConfusion

/-- **The pieces of a part** may follow each other. -/
theorem Tree.ordered {part : Part} (tree : Tree part) : Ordered tree.pieces := by
  have h : Ordered (tree.pieces ++ []) := tree.ordered_append trivial trivial
  rwa [List.append_nil] at h

end Highlight.Json
