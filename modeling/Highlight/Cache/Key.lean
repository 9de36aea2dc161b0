import Highlight.Text.Basic

/-!
# Cache keys

A rendering is a function of its source, its language, the version of the rules and the class
prefix, and is kept under a hash of these four. Each field is hashed behind its length, so what is
hashed can be read back into the fields: moving characters from one field to the next hashes
something else. A new version changes every key and so retires what older rules have written.

The hash is the 128-bit form of FNV-1a.
-/

namespace Highlight.Cache

/-- The lowest `width` bytes of a number, lowest first. -/
def littleEndian : Nat → Nat → List UInt8
  | 0, _ => []
  | width + 1, n => UInt8.ofNat (n % 256) :: littleEndian width (n / 256)

@[simp] theorem length_littleEndian (width n : Nat) : (littleEndian width n).length = width := by
  induction width generalizing n with
  | zero => rfl
  | succ width ih => simp [littleEndian, ih]

/-- A field behind its length in eight bytes. -/
def frame (field : Text) : List UInt8 := littleEndian 8 field.byteSize ++ field.bytes

/-- What is hashed: the frames of the fields. -/
def keyBytes (code language version classPrefix : Text) : List UInt8 :=
  frame code ++ frame language ++ frame version ++ frame classPrefix

namespace Fnv

/-- The hash of no bytes. -/
def offset : BitVec 128 := 0x6c62272e07bb014262b821756295c58d

/-- The factor of each step. -/
def prime : BitVec 128 := 0x0000000001000000000000000000013b

/-- The hash with one more byte. -/
def step (hash : BitVec 128) (byte : UInt8) : BitVec 128 :=
  (hash ^^^ byte.toBitVec.setWidth 128) * prime

/-- The hash of bytes. -/
def hash (bytes : List UInt8) : BitVec 128 := bytes.foldl step offset

end Fnv

/-- The lowest `width` hexadecimal digits of a number, highest first. -/
def hexDigits : Nat → Nat → Text
  | 0, _ => []
  | width + 1, n => hexDigits width (n / 16) ++ [Nat.digitChar (n % 16)]

/-- What every key starts with. -/
def keyStart : Text := "fmc_"

/-- The key of a rendering. -/
def key (code language version classPrefix : Text) : Text :=
  keyStart ++ hexDigits 32 (Fnv.hash (keyBytes code language version classPrefix)).toNat

end Highlight.Cache
