import Mathlib.Algebra.Ring.Nat
import Mathlib.Data.List.Nodup
import Mathlib.Data.Nat.Bitwise
import Mathlib.Data.UInt
import TrafficFabric.Digest
import TrafficFabric.Foundation.Checksums

/-!
# What CRC-32C detects

The top bytes of the table entries are all different.  So a step of the
table-driven loop determines the entry that it used, and with it the low byte
of the register; the rest of the register is shifted, not lost.  A single
changed byte therefore always changes the checksum.
-/

namespace TrafficFabric

open Foundation

/-- The table entry of one step. -/
def crcIndex (crc : UInt32) (byte : UInt8) : Nat :=
  ((crc ^^^ byte.toUInt32) &&& 0xFF).toNat

theorem crcIndex_eq (crc : UInt32) (byte : UInt8) :
    crcIndex crc byte = crc.toNat % 2 ^ 8 ^^^ byte.toNat := by
  have low : byte.toNat % 2 ^ 8 = byte.toNat :=
    Nat.mod_eq_of_lt byte.toNat_lt
  unfold crcIndex
  rw [UInt32.toNat_and, UInt32.toNat_xor, UInt8.toNat_toUInt32]
  rw [show (0xFF : UInt32).toNat = 2 ^ 8 - 1 from rfl,
    Nat.and_two_pow_sub_one_eq_mod, Nat.xor_mod_two_pow, low]

theorem crcIndex_lt (crc : UInt32) (byte : UInt8) :
    crcIndex crc byte < 256 := by
  rw [crcIndex_eq]
  exact Nat.xor_lt_two_pow (Nat.mod_lt _ (by decide)) byte.toNat_lt

/-- The top byte of a word. -/
def topByte (word : UInt32) : Nat :=
  word.toNat >>> 24

theorem crcTable_tops : (makeCrcTable.map topByte).Nodup := by
  decide +kernel

theorem length_makeCrcTable : makeCrcTable.length = 256 := by
  simp [makeCrcTable]

/-- The top byte of an entry determines where it stands. -/
theorem crcTable_injective
    {left right : Nat} (leftBound : left < 256) (rightBound : right < 256)
    (same :
      topByte (makeCrcTable.getD left 0) =
        topByte (makeCrcTable.getD right 0)) :
    left = right := by
  have leftInside : left < makeCrcTable.length := by
    rwa [length_makeCrcTable]
  have rightInside : right < makeCrcTable.length := by
    rwa [length_makeCrcTable]
  rw [List.getD_eq_getElem _ _ leftInside,
    List.getD_eq_getElem _ _ rightInside] at same
  have leftTop : left < (makeCrcTable.map topByte).length := by
    rwa [List.length_map]
  have rightTop : right < (makeCrcTable.map topByte).length := by
    rwa [List.length_map]
  have tops :
      (makeCrcTable.map topByte)[left] =
        (makeCrcTable.map topByte)[right] := by
    rwa [List.getElem_map, List.getElem_map]
  exact crcTable_tops.getElem_inj_iff.mp tops

theorem toNat_shiftRight_eight (word : UInt32) :
    (word >>> 8).toNat = word.toNat / 256 := by
  rw [UInt32.toNat_shiftRight, Nat.shiftRight_eq_div_pow]
  rfl

/-- The register that a step shifts leaves the top byte of the entry as it
is. -/
theorem top_xor_shifted (entry word : UInt32) :
    topByte (entry ^^^ (word >>> 8)) = topByte entry := by
  have bound := word.toNat_lt
  have gone : word.toNat / 256 / 2 ^ 24 = 0 := by omega
  rw [topByte, UInt32.toNat_xor, toNat_shiftRight_eight,
    Nat.shiftRight_xor_distrib, Nat.shiftRight_eq_div_pow (word.toNat / 256),
    gone, Nat.xor_zero, topByte]

/-- Equal results of two steps come from one entry. -/
theorem crcIndex_eq_of_crcByte_eq
    {left right : UInt32} {first second : UInt8}
    (same : crcByte left first = crcByte right second) :
    crcIndex left first = crcIndex right second := by
  refine crcTable_injective (crcIndex_lt _ _) (crcIndex_lt _ _) ?_
  have tops := congrArg topByte same
  dsimp only [crcByte] at tops
  rw [top_xor_shifted, top_xor_shifted] at tops
  exact tops

/-- Neither the register nor the byte is lost in a step. -/
theorem crcByte_reversible : Reversible crcByte where
  register := by
    intro byte left right same
    have index := crcIndex_eq_of_crcByte_eq same
    have shifted : left >>> 8 = right >>> 8 := by
      have entries : makeCrcTable.getD (crcIndex left byte) 0 ^^^ (left >>> 8) =
          makeCrcTable.getD (crcIndex right byte) 0 ^^^ (right >>> 8) :=
        same
      rw [index] at entries
      exact (UInt32.xor_right_inj _).mp entries
    have high := congrArg UInt32.toNat shifted
    rw [toNat_shiftRight_eight, toNat_shiftRight_eight] at high
    rw [crcIndex_eq, crcIndex_eq] at index
    have low := Nat.xor_left_injective index
    apply UInt32.toNat.inj
    omega
  letter := by
    intro register first second same
    have index := crcIndex_eq_of_crcByte_eq same
    rw [crcIndex_eq, crcIndex_eq] at index
    exact UInt8.toNat.inj (Nat.xor_right_injective index)

/-- A changed byte changes the checksum. -/
theorem crc32c_set_ne
    {data : Bytes} {position : Nat} {byte : UInt8}
    (inside : position < data.length) (changed : data[position]? ≠ some byte)
    (seed : UInt32) :
    crc32c (data.set position byte) seed ≠ crc32c data seed := by
  intro same
  have different : data[position] ≠ byte := by
    rw [List.getElem?_eq_getElem inside] at changed
    exact fun equal => changed (congrArg some equal)
  exact crcByte_reversible.foldl_set_ne inside different _
    (UInt32.not_inj.mp same)

end TrafficFabric
