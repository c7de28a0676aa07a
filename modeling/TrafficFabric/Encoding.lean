import Mathlib.Algebra.Ring.Nat
import TrafficFabric.Text

/-!
# Big-endian words

The words of journal records and of frames are written most significant byte
first and read back from the offset at which they stand.
-/

namespace TrafficFabric

variable {data rest : Bytes} {offset : Nat}

/-- Big-endian bytes of a 16-bit value. -/
def bigEndian16 (value : UInt16) : Bytes :=
  [(value >>> 8).toUInt8, value.toUInt8]

/-- The 16-bit word at an offset, most significant byte first. -/
def readWord16 (data : Bytes) (offset : Nat) : UInt16 :=
  ((data.drop offset).take 2).foldl
    (fun word byte => (word <<< 8) ||| byte.toUInt16) 0

/-- The 32-bit word at an offset. -/
def readWord32 (data : Bytes) (offset : Nat) : UInt32 :=
  ((data.drop offset).take 4).foldl
    (fun word byte => (word <<< 8) ||| byte.toUInt32) 0

/-- The 64-bit word at an offset. -/
def readWord64 (data : Bytes) (offset : Nat) : UInt64 :=
  ((data.drop offset).take 8).foldl
    (fun word byte => (word <<< 8) ||| byte.toUInt64) 0

/-- `wire::kMaxPayloadBytes`. -/
def maxPayloadBytes : Nat := 1048576

/-! ## Reading back what was written -/

/-- A byte is appended to a word whose upper bits are lost. -/
theorem shiftLeft_or_byte
    (width word : Nat) {byte : Nat} (low : byte < 2 ^ 8) :
    word <<< 8 % 2 ^ (width + 8) ||| byte =
      (word * 256 + byte) % 2 ^ (width + 8) := by
  have split : 2 ^ (width + 8) = 2 ^ width * 256 := Nat.pow_add 2 width 8
  have kept : word <<< 8 % 2 ^ (width + 8) = (word % 2 ^ width) <<< 8 := by
    rw [split, Nat.shiftLeft_eq, Nat.shiftLeft_eq]
    exact Nat.mul_mod_mul_right 256 word (2 ^ width)
  have divided : (word * 256 + byte) / 256 = word := by
    omega
  have rest : (word * 256 + byte) % 256 = byte := by
    omega
  rw [kept, ← Nat.shiftLeft_add_eq_or_of_lt low, Nat.shiftLeft_eq, split,
    Nat.mul_comm (2 ^ width), Nat.mod_mul, divided, rest]
  omega

/-- Appending a byte to a word of two bytes. -/
theorem toNat_push16 (word : UInt16) (byte : UInt8) :
    ((word <<< 8) ||| byte.toUInt16).toNat =
      (word.toNat * 256 + byte.toNat) % 65536 := by
  rw [UInt16.toNat_or, UInt16.toNat_shiftLeft, UInt8.toNat_toUInt16]
  exact shiftLeft_or_byte 8 word.toNat byte.toNat_lt

/-- Appending a byte to a word of four bytes. -/
theorem toNat_push32 (word : UInt32) (byte : UInt8) :
    ((word <<< 8) ||| byte.toUInt32).toNat =
      (word.toNat * 256 + byte.toNat) % 4294967296 := by
  rw [UInt32.toNat_or, UInt32.toNat_shiftLeft, UInt8.toNat_toUInt32]
  exact shiftLeft_or_byte 24 word.toNat byte.toNat_lt

/-- Appending a byte to a word of eight bytes. -/
theorem toNat_push64 (word : UInt64) (byte : UInt8) :
    ((word <<< 8) ||| byte.toUInt64).toNat =
      (word.toNat * 256 + byte.toNat) % 18446744073709551616 := by
  rw [UInt64.toNat_or, UInt64.toNat_shiftLeft, UInt8.toNat_toUInt64]
  exact shiftLeft_or_byte 56 word.toNat byte.toNat_lt

theorem readWord16_eq
    {word : UInt16}
    (found : data.drop offset = bigEndian16 word ++ rest) :
    readWord16 data offset = word := by
  apply UInt16.toNat.inj
  have bounded := word.toNat_lt
  simp only [readWord16, found, bigEndian16, List.cons_append,
    List.nil_append, List.take_succ_cons, List.take_zero, List.foldl_cons,
    List.foldl_nil, toNat_push16, UInt16.toNat_toUInt8,
    UInt16.toNat_shiftRight, Nat.shiftRight_eq_div_pow,
    UInt16.reduceToNat, Nat.reduceMod, Nat.reducePow]
  omega

theorem readWord32_eq
    {word : UInt32}
    (found : data.drop offset = bigEndian32 word ++ rest) :
    readWord32 data offset = word := by
  apply UInt32.toNat.inj
  have bounded := word.toNat_lt
  simp only [readWord32, found, bigEndian32, List.cons_append,
    List.nil_append, List.take_succ_cons, List.take_zero, List.foldl_cons,
    List.foldl_nil, toNat_push32, UInt32.toNat_toUInt8,
    UInt32.toNat_shiftRight, Nat.shiftRight_eq_div_pow,
    UInt32.reduceToNat, Nat.reduceMod, Nat.reducePow]
  omega

theorem readWord64_eq
    {word : UInt64}
    (found : data.drop offset = bigEndian64 word ++ rest) :
    readWord64 data offset = word := by
  apply UInt64.toNat.inj
  have bounded := word.toNat_lt
  simp only [readWord64, found, bigEndian64, List.cons_append,
    List.nil_append, List.take_succ_cons, List.take_zero, List.foldl_cons,
    List.foldl_nil, toNat_push64, UInt64.toNat_toUInt8,
    UInt64.toNat_shiftRight, Nat.shiftRight_eq_div_pow,
    UInt64.reduceToNat, Nat.reduceMod, Nat.reducePow]
  omega

end TrafficFabric
