import Mathlib.Algebra.Ring.Nat
import Mathlib.Data.Nat.Basic
import Mathlib.Data.UInt
import Mathlib.Order.Lattice

/-!
# Machine words as numbers

Byte counters are 64-bit words, counters of events 32-bit ones.  An invariant
about them is stated over their values; these rules say when an operation on
words is the one on values.
-/

namespace Foundation

namespace Word

theorem min_eq (left right : UInt64) :
    min left right = if left ≤ right then left else right :=
  rfl

@[simp]
theorem min_self (word : UInt64) : min word word = word := by
  rw [min_eq, ite_self]

theorem toNat_min (left right : UInt64) :
    (min left right).toNat = min left.toNat right.toNat := by
  rw [min_eq]
  split
  · rename_i ordered
    rw [UInt64.le_iff_toNat_le] at ordered
    omega
  · rename_i ordered
    rw [UInt64.le_iff_toNat_le] at ordered
    omega

theorem toNat_max (left right : UInt64) :
    (max left right).toNat = max left.toNat right.toNat := by
  change (if left ≤ right then right else left).toNat = _
  split
  · rename_i ordered
    rw [UInt64.le_iff_toNat_le] at ordered
    omega
  · rename_i ordered
    rw [UInt64.le_iff_toNat_le] at ordered
    omega

theorem min_le_left (left right : UInt64) : min left right ≤ left := by
  rw [UInt64.le_iff_toNat_le, toNat_min]
  exact Nat.min_le_left _ _

/-- A sum that stays below the modulus does not wrap. -/
theorem toNat_add_of_lt
    {left right : UInt64}
    (bounded : left.toNat + right.toNat < 2 ^ 64) :
    (left + right).toNat = left.toNat + right.toNat := by
  rw [UInt64.toNat_add, Nat.mod_eq_of_lt bounded]

/-- A sum that is not below its first term did not wrap. -/
theorem add_lt_of_le
    {left right : UInt64} (grown : left ≤ left + right) :
    left.toNat + right.toNat < 2 ^ 64 := by
  rw [UInt64.le_iff_toNat_le, UInt64.toNat_add] at grown
  have leftBound := left.toNat_lt
  have rightBound := right.toNat_lt
  by_contra wrapped
  rw [Nat.mod_eq_sub_mod (by omega), Nat.mod_eq_of_lt (by omega)] at grown
  omega

/-- A difference does not wrap when the subtrahend fits. -/
theorem toNat_sub_of_le
    {left right : UInt64} (fits : right.toNat ≤ left.toNat) :
    (left - right).toNat = left.toNat - right.toNat :=
  UInt64.toNat_sub_of_le _ _ (UInt64.le_iff_toNat_le.mpr fits)

/-- The guarded difference of the source is truncated subtraction. -/
theorem toNat_monus (left right : UInt64) :
    (if right < left then left - right else 0).toNat =
      left.toNat - right.toNat := by
  split
  · rename_i ordered
    rw [UInt64.lt_iff_toNat_lt] at ordered
    exact toNat_sub_of_le ordered.le
  · rename_i ordered
    rw [UInt64.lt_iff_toNat_lt] at ordered
    have : (0 : UInt64).toNat = 0 := rfl
    omega

/-- A difference clamped at the minuend is truncated subtraction. -/
theorem toNat_sub_min (left right : UInt64) :
    (left - min right left).toNat = left.toNat - right.toNat := by
  have fits : (min right left).toNat ≤ left.toNat := by
    rw [toNat_min]
    exact Nat.min_le_right _ _
  rw [toNat_sub_of_le fits, toNat_min]
  omega

end Word

namespace Counter

/-- A guarded decrement is truncated subtraction. -/
theorem toNat_lower (count : UInt32) :
    (if 0 < count then count - 1 else count).toNat = count.toNat - 1 := by
  split
  · rename_i positive
    have ordered := UInt32.lt_iff_toNat_lt.mp positive
    exact UInt32.toNat_sub_of_le _ _ (UInt32.le_iff_toNat_le.mpr ordered)
  · rename_i zero
    have ordered := UInt32.lt_iff_toNat_lt.not.mp zero
    change ¬ 0 < _ at ordered
    omega

/-- A counter below a bound can be incremented. -/
theorem toNat_raise {count bound : UInt32} (below : count < bound) :
    (count + 1).toNat = count.toNat + 1 := by
  have ordered := UInt32.lt_iff_toNat_lt.mp below
  have fits := bound.toNat_lt
  rw [UInt32.toNat_add]
  exact Nat.mod_eq_of_lt (Nat.lt_of_le_of_lt ordered fits)

end Counter

end Foundation
