import Highlight.Unicode.Lower
import Highlight.Unicode.WhiteSpace

/-!
# Text

Source code, names and markup are lists of characters. Positions are byte offsets of the UTF-8
form, because that is how editors and browsers address source; an offset inside a character is no
position at all, and cutting there fails instead of rounding.
-/

namespace Highlight

/-- A text is the list of its characters. -/
abbrev Text := List Char

/-- A literal stands for the text of its characters. -/
instance : Coe String Text := ⟨String.toList⟩

/-- What is said of every character of a text is decided by going through the text, not through all
characters there are. -/
instance (priority := 1100) decidableForallMem (text : Text) (P : Char → Prop)
    [DecidablePred P] : Decidable (∀ c ∈ text, P c) :=
  List.decidableBAll P text

/-- And what is said of a character that may be absent. -/
instance (priority := 1100) decidableForallMem? (c? : Option Char) (P : Char → Prop)
    [DecidablePred P] : Decidable (∀ c ∈ c?, P c) :=
  Option.decidableForallMem c?

namespace Text

/-- The number of bytes of the UTF-8 form. -/
def byteSize : Text → Nat
  | [] => 0
  | c :: rest => c.utf8Size + byteSize rest

/-- The two parts of a text at a byte offset. An offset past the end or inside a character has
no parts. -/
def cutAt? : Text → Nat → Option (Text × Text)
  | text, 0 => some ([], text)
  | [], _ + 1 => none
  | c :: rest, offset + 1 =>
    if c.utf8Size ≤ offset + 1 then
      (cutAt? rest (offset + 1 - c.utf8Size)).map fun (front, back) => (c :: front, back)
    else none

/-- The text between two byte offsets, if both are boundaries in order. -/
def slice? (text : Text) (start stop : Nat) : Option Text :=
  if start ≤ stop then do
    let (_, back) ← cutAt? text start
    let (middle, _) ← cutAt? back (stop - start)
    pure middle
  else none

/-- Without the white space at both ends. -/
def trim (text : Text) : Text :=
  ((text.dropWhile Unicode.isWhiteSpace).reverse.dropWhile Unicode.isWhiteSpace).reverse

/-- The lowercase form, by the rules for whole texts. -/
def lower (text : Text) : Text := Unicode.lowercase text

/-- The parts before and after the first occurrence of a character. -/
def splitOnce? (mark : Char) : Text → Option (Text × Text)
  | [] => none
  | c :: rest =>
    if c = mark then some ([], rest)
    else (splitOnce? mark rest).map fun (front, back) => (c :: front, back)

/-- The parts between the occurrences of a character; never empty. -/
def splitOn (mark : Char) : Text → List Text
  | [] => [[]]
  | c :: rest =>
    if c = mark then [] :: splitOn mark rest
    else match splitOn mark rest with
      | [] => [[c]]
      | part :: parts => (c :: part) :: parts

/-- The texts joined, with `separator` between neighbours. -/
def join (separator : Text) : List Text → Text
  | [] => []
  | [text] => text
  | text :: rest => text ++ separator ++ join separator rest

/-- The order of texts by code point, which is also the order of their UTF-8 forms. -/
def isBefore : Text → Text → Bool
  | [], _ => true
  | _ :: _, [] => false
  | a :: as, b :: bs => a.toNat < b.toNat || (a == b && isBefore as bs)

/-- The UTF-8 bytes, as a list. -/
def bytes (text : Text) : List UInt8 := text.flatMap String.utf8EncodeChar

/-- The UTF-8 form. -/
def toUtf8 (text : Text) : ByteArray := (String.ofList text).toByteArray

/-- The text with this UTF-8 form; bytes that are not UTF-8 have none. -/
def ofUtf8? (bytes : ByteArray) : Option Text := bytes.utf8Decode?.map Array.toList

@[simp] theorem byteSize_append (a b : Text) : byteSize (a ++ b) = byteSize a + byteSize b := by
  induction a with
  | nil => simp [byteSize]
  | cons c a ih => simp [byteSize, ih, Nat.add_assoc]

/-- A text falls into the two parts it was joined from at the size of the first. -/
@[simp] theorem cutAt?_append (a b : Text) : cutAt? (a ++ b) (byteSize a) = some (a, b) := by
  induction a with
  | nil => simp [byteSize, cutAt?]
  | cons c a ih =>
    have pos : 0 < c.utf8Size := c.utf8Size_pos
    obtain ⟨n, hn⟩ : ∃ n, byteSize (c :: a) = n + 1 := ⟨c.utf8Size + byteSize a - 1, by
      simp only [byteSize]
      omega⟩
    have size : n + 1 = c.utf8Size + byteSize a := by rw [← hn, byteSize]
    rw [hn, List.cons_append, cutAt?, if_pos (by omega), size, Nat.add_sub_cancel_left, ih]
    rfl

/-- Cutting loses nothing, and the first part has the size that was asked for. -/
theorem eq_append_of_cutAt?_eq_some {text front back : Text} {offset : Nat}
    (h : cutAt? text offset = some (front, back)) :
    text = front ++ back ∧ byteSize front = offset := by
  induction text generalizing offset front with
  | nil =>
    cases offset with
    | zero =>
      simp only [cutAt?, Option.some.injEq, Prod.mk.injEq] at h
      obtain ⟨rfl, rfl⟩ := h
      exact ⟨rfl, rfl⟩
    | succ n => simp [cutAt?] at h
  | cons c rest ih =>
    cases offset with
    | zero =>
      simp only [cutAt?, Option.some.injEq, Prod.mk.injEq] at h
      obtain ⟨rfl, rfl⟩ := h
      exact ⟨rfl, rfl⟩
    | succ n =>
      rw [cutAt?] at h
      split at h
      · next fits =>
        obtain ⟨⟨front', back'⟩, hcut, heq⟩ := Option.map_eq_some_iff.mp h
        simp only [Prod.mk.injEq] at heq
        obtain ⟨rfl, rfl⟩ := heq
        obtain ⟨rfl, size⟩ := ih hcut
        refine ⟨rfl, ?_⟩
        rw [byteSize, size]
        omega
      · simp at h

theorem ofUtf8?_toUtf8 (text : Text) : ofUtf8? (toUtf8 text) = some text := by
  simp [ofUtf8?, toUtf8]

end Text

end Highlight
