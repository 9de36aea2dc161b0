import Highlight.Cache.File
import Highlight.Proofs.Cache.Frame

/-!
# Keys told apart

Each step of the hash can be undone: the factor is odd, so it has an inverse, and what is mixed in
can be mixed out. So bytes that differ in one place hash differently, whatever stands before and
behind it (`Fnv.hash_ne`). The digits of a key lose nothing of the hash (`key_inj`), and they are
digits only, so that a key can name a file (`FileCache.isKey_key`).
-/

namespace Highlight

namespace Cache

/-! ## The hash -/

namespace Fnv

variable {hash hash' : BitVec 128} {byte byte' : UInt8}

/-- What undoes the factor of each step. -/
def inverse : BitVec 128 := 0xb1041ad2562ff2ff2ff2ff2ff2ff2ff3

theorem prime_mul_inverse : prime * inverse = 1#128 := by decide

theorem mul_prime_inj : hash * prime = hash' * prime ↔ hash = hash' := by
  constructor
  · intro same
    have undone := congrArg (· * inverse) same
    simpa only [BitVec.mul_assoc, prime_mul_inverse, BitVec.mul_one] using undone
  · exact congrArg (· * prime)

/-- A step with the same byte keeps different hashes apart. -/
theorem step_left_inj : step hash byte = step hash' byte ↔ hash = hash' := by
  rw [step, step, mul_prime_inj, BitVec.xor_left_inj]

/-- A step with another byte gives another hash. -/
theorem step_right_inj : step hash byte = step hash byte' ↔ byte = byte' := by
  rw [step, step, mul_prime_inj, BitVec.xor_right_inj, ← UInt8.toBitVec_inj]
  constructor
  · intro same
    have narrowed := congrArg (BitVec.setWidth 8) same
    simpa only [BitVec.setWidth_setWidth_of_le _ (show 8 ≤ 128 by decide), BitVec.setWidth_eq]
      using narrowed
  · exact congrArg (BitVec.setWidth 128)

/-- The same bytes keep different hashes apart. -/
theorem foldl_step_inj (bytes : List UInt8) :
    bytes.foldl step hash = bytes.foldl step hash' ↔ hash = hash' := by
  induction bytes generalizing hash hash' with
  | nil => rfl
  | cons byte rest ih => rw [List.foldl_cons, List.foldl_cons, ih, step_left_inj]

/-- **Another byte in one place changes the hash**, whatever stands before and behind it. -/
theorem hash_ne (differ : byte ≠ byte') (front back : List UInt8) :
    Fnv.hash (front ++ byte :: back) ≠ Fnv.hash (front ++ byte' :: back) := by
  simpa only [Fnv.hash, List.foldl_append, List.foldl_cons, ne_eq, foldl_step_inj, step_right_inj]
    using differ

end Fnv

/-! ## Digits -/

/-- The digits of a hash. -/
def hexAlphabet : Text := "0123456789abcdef"

theorem digitChar_inj {m n : Nat} (hm : m < 16) (hn : n < 16) :
    Nat.digitChar m = Nat.digitChar n ↔ m = n := by
  have each : ∀ m < 16, ∀ n < 16, Nat.digitChar m = Nat.digitChar n → m = n := by decide
  exact ⟨each m hm n hn, congrArg Nat.digitChar⟩

@[simp] theorem length_hexDigits (width n : Nat) : (hexDigits width n).length = width := by
  induction width generalizing n with
  | zero => rfl
  | succ width ih => rw [hexDigits, List.length_append, ih, List.length_singleton]

theorem mem_hexAlphabet_of_mem_hexDigits {c : Char} {width n : Nat}
    (mem : c ∈ hexDigits width n) : c ∈ hexAlphabet := by
  have digits : ∀ digit < 16, Nat.digitChar digit ∈ hexAlphabet := by decide
  induction width generalizing n with
  | zero => cases mem
  | succ width ih =>
    rcases List.mem_append.mp mem with higher | lowest
    · exact ih higher
    · rw [List.mem_singleton.mp lowest]
      exact digits (n % 16) (Nat.mod_lt n (by decide))

/-- As many digits as a number needs tell it from others. -/
theorem hexDigits_inj {width m n : Nat} (hm : m < 16 ^ width) (hn : n < 16 ^ width) :
    hexDigits width m = hexDigits width n ↔ m = n := by
  refine ⟨?_, congrArg (hexDigits width)⟩
  induction width generalizing m n with
  | zero =>
    rw [Nat.pow_zero, Nat.lt_one_iff] at hm hn
    intro _
    rw [hm, hn]
  | succ width ih =>
    intro same
    rw [Nat.pow_succ'] at hm hn
    obtain ⟨higher, lowest⟩ := List.append_inj' same rfl
    have lowest : m % 16 = n % 16 :=
      (digitChar_inj (Nat.mod_lt m (by decide)) (Nat.mod_lt n (by decide))).mp
        (List.singleton_inj.mp lowest)
    have higher : m / 16 = n / 16 :=
      ih (Nat.div_lt_of_lt_mul hm) (Nat.div_lt_of_lt_mul hn) higher
    rw [← Nat.mod_add_div m 16, ← Nat.mod_add_div n 16, lowest, higher]

end Cache

/-! ## Keys -/

namespace FileCache

/-- The key of a rendering can name a file. -/
theorem isKey_key (code language version classPrefix : Text) :
    isKey (Cache.key code language version classPrefix) = true := by
  have start : Cache.keyStart.all (fun c => c.isAlphanum || c == '_') = true := by decide
  have nonempty : Cache.keyStart ≠ [] := by decide
  have alphabet : ∀ c ∈ Cache.hexAlphabet, (c.isAlphanum || c == '_') = true := by decide
  have digits : ∀ n, (Cache.hexDigits 32 n).all (fun c => c.isAlphanum || c == '_') = true := by
    intro n
    refine List.all_eq_true.mpr fun c mem => ?_
    exact alphabet c (Cache.mem_hexAlphabet_of_mem_hexDigits mem)
  simp only [isKey, Cache.key, List.all_append, start, digits, Bool.and_self, Bool.and_true,
    Bool.not_eq_true', List.isEmpty_eq_false_iff]
  exact List.append_ne_nil_of_left_ne_nil nonempty _

end FileCache

namespace Cache

variable {code language version classPrefix code' language' version' classPrefix' : Text}

/-- **Keys are the same where the hashes are.** -/
theorem key_inj :
    key code language version classPrefix = key code' language' version' classPrefix' ↔
      Fnv.hash (keyBytes code language version classPrefix) =
        Fnv.hash (keyBytes code' language' version' classPrefix') := by
  have bound : ∀ hash : BitVec 128, hash.toNat < 16 ^ 32 := fun hash => hash.isLt
  rw [key, key, List.append_cancel_left_eq, hexDigits_inj (bound _) (bound _), BitVec.toNat_inj]

/-- In how many places two rows of bytes of one length differ. -/
def differences (a b : List UInt8) : Nat := (a.zip b).countP fun pair => pair.1 != pair.2

theorem differences_cons (x y : UInt8) (a b : List UInt8) :
    differences (x :: a) (y :: b) = differences a b + if x = y then 0 else 1 := by
  rw [differences, List.zip_cons_cons, List.countP_cons, differences]
  by_cases same : x = y <;> simp [same]

theorem eq_of_differences_eq_zero {a b : List UInt8} (length : a.length = b.length)
    (none : differences a b = 0) : a = b := by
  induction a generalizing b with
  | nil => exact (List.length_eq_zero_iff.mp length.symm).symm
  | cons x a ih =>
    cases b with
    | nil => cases length
    | cons y b =>
      rw [differences_cons] at none
      split at none
      · next same => rw [same, ih (Nat.succ.inj length) none]
      · cases none

/-- Where one place differs, the rest is the same. -/
theorem exists_of_differences_eq_one {a b : List UInt8} (length : a.length = b.length)
    (one : differences a b = 1) : ∃ front x y back, x ≠ y ∧
      a = front ++ x :: back ∧ b = front ++ y :: back := by
  induction a generalizing b with
  | nil =>
    cases one
  | cons x a ih =>
    cases b with
    | nil => cases length
    | cons y b =>
      rw [differences_cons] at one
      have length := Nat.succ.inj length
      split at one
      · next same =>
        obtain ⟨front, u, v, back, differ, rfl, rfl⟩ := ih length one
        exact ⟨x :: front, u, v, back, differ, rfl, same ▸ rfl⟩
      · next differ =>
        obtain rfl := eq_of_differences_eq_zero length (Nat.succ.inj one)
        exact ⟨[], x, y, a, differ, rfl, rfl⟩

theorem key_ne_of_differences_eq_one
    (length : (keyBytes code language version classPrefix).length =
      (keyBytes code' language' version' classPrefix').length)
    (one : differences (keyBytes code language version classPrefix)
      (keyBytes code' language' version' classPrefix') = 1) :
    key code language version classPrefix ≠ key code' language' version' classPrefix' := by
  obtain ⟨front, x, y, back, differ, bytes, bytes'⟩ := exists_of_differences_eq_one length one
  rw [ne_eq, key_inj, bytes, bytes']
  exact Fnv.hash_ne differ front back

/-- A character of ASCII is one byte. -/
theorem utf8EncodeChar_of_lt {c : Char} (ascii : c.toNat < 128) :
    String.utf8EncodeChar c = [UInt8.ofNat c.toNat] := by
  rw [String.utf8EncodeChar.eq_def]
  exact if_pos (Nat.le_of_lt_succ ascii)

theorem frame_ascii {front back : Text} {c : Char} (ascii : c.toNat < 128) :
    frame (front ++ c :: back) = littleEndian 8 (front.byteSize + 1 + back.byteSize) ++
      (front.bytes ++ UInt8.ofNat c.toNat :: back.bytes) := by
  have bytes : Text.bytes (c :: back) = UInt8.ofNat c.toNat :: back.bytes := by
    rw [Text.bytes, List.flatMap_cons, utf8EncodeChar_of_lt ascii]
    rfl
  have size : c.utf8Size = 1 := by
    rw [← String.length_utf8EncodeChar, utf8EncodeChar_of_lt ascii, List.length_singleton]
  rw [frame, Text.bytes_append, bytes, Text.byteSize_append, Text.byteSize, size, Nat.add_assoc]

/-- Versions that differ in one character of ASCII have different keys. -/
theorem key_ne_of_version {front back : Text} {a b : Char} (ascii : a.toNat < 128)
    (ascii' : b.toNat < 128) (differ : a ≠ b) :
    key code language (front ++ a :: back) classPrefix ≠
      key code language (front ++ b :: back) classPrefix := by
  have differ : UInt8.ofNat a.toNat ≠ UInt8.ofNat b.toNat := by
    intro same
    have same := congrArg UInt8.toNat same
    rw [UInt8.toNat_ofNat_of_lt' (Nat.lt_trans ascii (by decide)),
      UInt8.toNat_ofNat_of_lt' (Nat.lt_trans ascii' (by decide))] at same
    exact differ (Char.toNat_inj.mp same)
  rw [ne_eq, key_inj, keyBytes, keyBytes, frame_ascii ascii, frame_ascii ascii']
  simpa only [List.append_assoc, List.cons_append] using
    Fnv.hash_ne differ (frame code ++ (frame language ++
      (littleEndian 8 (front.byteSize + 1 + back.byteSize) ++ front.bytes)))
      (back.bytes ++ frame classPrefix)

/-- **One byte changes the key**, whichever field it is in, and so does one character of the
version. Every key is its start and 32 digits, and can name a file. -/
theorem one_byte_changes_key :
    (∀ code language version classPrefix code' language' version' classPrefix',
      (keyBytes code language version classPrefix).length =
        (keyBytes code' language' version' classPrefix').length →
      differences (keyBytes code language version classPrefix)
        (keyBytes code' language' version' classPrefix') = 1 →
      key code language version classPrefix ≠ key code' language' version' classPrefix') ∧
    (∀ code language classPrefix front back, ∀ a b : Char, a.toNat < 128 → b.toNat < 128 → a ≠ b →
      key code language (front ++ a :: back) classPrefix ≠
        key code language (front ++ b :: back) classPrefix) ∧
    ∀ code language version classPrefix, ∃ digits,
      key code language version classPrefix = "fmc_".toList ++ digits ∧ digits.length = 32 ∧
      (∀ c ∈ digits, c ∈ "0123456789abcdef".toList) ∧
      FileCache.isKey (key code language version classPrefix) = true := by
  refine ⟨?_, ?_, ?_⟩
  · intro code language version classPrefix code' language' version' classPrefix' length one
    exact key_ne_of_differences_eq_one length one
  · intro code language classPrefix front back a b ascii ascii' differ
    exact key_ne_of_version ascii ascii' differ
  · intro code language version classPrefix
    exact ⟨_, rfl, length_hexDigits 32 _, fun _ => mem_hexAlphabet_of_mem_hexDigits,
      FileCache.isKey_key _ _ _ _⟩

/-- The last byte of a letter beyond ASCII is enough, and so is the last character of a version. -/
theorem one_byte_changes_key_accent :
    (keyBytes "é" "js" "1.0" "p").length = (keyBytes "ê" "js" "1.0" "p").length ∧
      differences (keyBytes "é" "js" "1.0" "p") (keyBytes "ê" "js" "1.0" "p") = 1 ∧
      key "é" "js" "1.0" "p" ≠ key "ê" "js" "1.0" "p" ∧
      '0'.toNat < 128 ∧ '1'.toNat < 128 ∧ '0' ≠ '1' ∧
      key "é" "js" ("1.".toList ++ ['0']) "p" ≠ key "é" "js" ("1.".toList ++ ['1']) "p" := by
  obtain ⟨bytes, version, _⟩ := one_byte_changes_key
  have length : (keyBytes "é" "js" "1.0" "p").length = (keyBytes "ê" "js" "1.0" "p").length := by
    decide
  have one : differences (keyBytes "é" "js" "1.0" "p") (keyBytes "ê" "js" "1.0" "p") = 1 := by
    decide
  refine ⟨length, one, bytes _ _ _ _ _ _ _ _ length one, by decide, by decide, by decide, ?_⟩
  exact version _ _ _ "1." [] '0' '1' (by decide) (by decide) (by decide)

end Cache

end Highlight
