import Highlight.Cache.Key
import Mathlib.Algebra.Group.Nat.Defs

/-!
# Fields behind their lengths

What is hashed for a key can be read back into its fields: eight bytes say how many bytes the first
field has, and behind those the next field begins (`unframe_frame`). So different fields never hash
the same bytes, whatever they hold (`keyBytes_inj`). The lengths are cut to eight bytes, which loses
nothing of a field that fits in a memory of 64 bits.
-/

namespace Highlight

namespace Text

theorem length_bytes (text : Text) : text.bytes.length = text.byteSize := by
  induction text with
  | nil => rfl
  | cons c rest ih =>
    rw [bytes, List.flatMap_cons, List.length_append, String.length_utf8EncodeChar, byteSize]
    exact congrArg _ ih

theorem bytes_append (a b : Text) : (a ++ b).bytes = a.bytes ++ b.bytes := List.flatMap_append

theorem toUtf8_eq (text : Text) : text.toUtf8 = text.bytes.toByteArray := by
  unfold toUtf8
  rfl

/-- Texts with the same bytes are the same. -/
theorem bytes_injective : Function.Injective bytes := by
  intro a b same
  have read := congrArg ofUtf8? (congrArg List.toByteArray same)
  rw [← toUtf8_eq, ← toUtf8_eq, ofUtf8?_toUtf8, ofUtf8?_toUtf8] at read
  exact Option.some.inj read

end Text

namespace Cache

variable {field other : Text} {rest rest' : List UInt8}

/-! ## Numbers in bytes -/

/-- The number that bytes stand for, the lowest first. -/
def ofLittleEndian : List UInt8 → Nat
  | [] => 0
  | byte :: rest => byte.toNat + 256 * ofLittleEndian rest

/-- A number is read back from as many bytes as it needs. -/
theorem ofLittleEndian_littleEndian {width n : Nat} (small : n < 256 ^ width) :
    ofLittleEndian (littleEndian width n) = n := by
  induction width generalizing n with
  | zero =>
    rw [Nat.pow_zero, Nat.lt_one_iff] at small
    exact small.symm
  | succ width ih =>
    have higher : n / 256 < 256 ^ width := Nat.div_lt_of_lt_mul (by rwa [Nat.pow_succ'] at small)
    have lowest : (UInt8.ofNat (n % 256)).toNat = n % 256 := by simp
    rw [littleEndian, ofLittleEndian, ih higher, lowest]
    exact Nat.mod_add_div n 256

/-! ## Frames -/

/-- The bytes of the field that bytes begin with, and those behind it. -/
def unframe (bytes : List UInt8) : List UInt8 × List UInt8 :=
  (bytes.drop 8).splitAt (ofLittleEndian (bytes.take 8))

/-- **A frame is read back** from before whatever stands behind it. -/
theorem unframe_frame (small : field.byteSize < 2 ^ 64) (rest : List UInt8) :
    unframe (frame field ++ rest) = (field.bytes, rest) := by
  have length : (littleEndian 8 field.byteSize).length = 8 := length_littleEndian 8 _
  have size : ofLittleEndian (littleEndian 8 field.byteSize) = field.bytes.length := by
    rw [Text.length_bytes]
    exact ofLittleEndian_littleEndian small
  rw [unframe, frame, List.append_assoc, List.take_left' length, List.drop_left' length, size,
    List.splitAt_eq, List.take_left, List.drop_left]

/-- Two frames in front of whatever there is are told apart by what they frame. -/
theorem frame_append_inj (small : field.byteSize < 2 ^ 64) (small' : other.byteSize < 2 ^ 64) :
    frame field ++ rest = frame other ++ rest' ↔ field = other ∧ rest = rest' := by
  constructor
  · intro same
    have read := congrArg unframe same
    rw [unframe_frame small, unframe_frame small'] at read
    obtain ⟨bytes, behind⟩ := Prod.mk.inj read
    exact ⟨Text.bytes_injective bytes, behind⟩
  · rintro ⟨rfl, rfl⟩
    rfl

theorem frame_inj (small : field.byteSize < 2 ^ 64) (small' : other.byteSize < 2 ^ 64) :
    frame field = frame other ↔ field = other := by
  have alone : frame field ++ [] = frame other ++ [] ↔ _ := frame_append_inj small small'
  simpa only [List.append_nil, and_true] using alone

/-! ## Keys -/

/-- Whether the lengths of fields are counted in full. -/
def Framable (fields : List Text) : Prop := ∀ field ∈ fields, field.byteSize < 2 ^ 64

instance (fields : List Text) : Decidable (Framable fields) :=
  inferInstanceAs (Decidable (∀ field ∈ fields, field.byteSize < 2 ^ 64))

/-- **What is hashed for a key determines its fields.** -/
theorem keyBytes_inj
    {code language version classPrefix code' language' version' classPrefix' : Text}
    (framable : Framable [code, language, version, classPrefix])
    (framable' : Framable [code', language', version', classPrefix']) :
    keyBytes code language version classPrefix = keyBytes code' language' version' classPrefix' ↔
      code = code' ∧ language = language' ∧ version = version' ∧ classPrefix = classPrefix' := by
  simp only [Framable, List.forall_mem_cons, List.not_mem_nil, false_implies, implies_true,
    and_true] at framable framable'
  obtain ⟨sizeCode, sizeLanguage, sizeVersion, sizePrefix⟩ := framable
  obtain ⟨sizeCode', sizeLanguage', sizeVersion', sizePrefix'⟩ := framable'
  simp only [keyBytes, List.append_assoc, frame_append_inj sizeCode sizeCode',
    frame_append_inj sizeLanguage sizeLanguage', frame_append_inj sizeVersion sizeVersion',
    frame_inj sizePrefix sizePrefix']

/-- A language that looks like the length of an empty field does not pass for one. -/
theorem keyBytes_inj_zeros :
    let zeros : Text := List.replicate 8 '\x00'
    Framable [[], zeros, [], []] ∧ Framable [zeros, [], [], []] ∧
      keyBytes [] zeros [] [] ≠ keyBytes zeros [] [] [] := by
  intro zeros
  have framable : Framable [[], zeros, [], []] := by decide
  have framable' : Framable [zeros, [], [], []] := by decide
  refine ⟨framable, framable', ?_⟩
  intro same
  have fields := (keyBytes_inj framable framable').mp same
  exact absurd fields.1 (by decide)

end Cache

end Highlight
