import Mathlib.Algebra.Ring.Nat
import Mathlib.Data.UInt
import Mathlib.Order.Basic

/-!
# Sums of signed times

Times are signed 64-bit words, and so are the spans that are added to them.
A sum is exact as long as it stays below the largest word; past it the sum is
in the past.
-/

namespace Foundation

namespace Instant

/-- A time that lies exactly the given span after another. -/
def Follows (now span time : Int64) : Prop :=
  time.toInt = now.toInt + span.toInt ∧ now < time

instance (now span time : Int64) : Decidable (Follows now span time) :=
  inferInstanceAs (Decidable (_ ∧ _))

theorem toInt_add_of_lt
    {now span : Int64} (ahead : 0 ≤ span)
    (dated : now.toInt + span.toInt < 2 ^ 63) :
    (now + span).toInt = now.toInt + span.toInt := by
  have forward : (0 : Int) ≤ span.toInt := Int64.le_iff_toInt_le.mp ahead
  have least := now.le_toInt
  rw [Int64.toInt_add, Int.bmod_def]
  split <;> omega

/-- The sum is exact and later exactly when it is in range. -/
theorem follows_add_iff {now span : Int64} (positive : 0 < span) :
    Follows now span (now + span) ↔ now.toInt + span.toInt < 2 ^ 63 := by
  have forward : (0 : Int) < span.toInt := Int64.lt_iff_toInt_lt.mp positive
  constructor
  · rintro ⟨same, _⟩
    have most := (now + span).toInt_lt
    omega
  · intro dated
    have same := toInt_add_of_lt (Int64.le_of_lt positive) dated
    refine ⟨same, ?_⟩
    rw [Int64.lt_iff_toInt_lt, same]
    omega

theorem toInt_toInt64 {word : UInt64} (small : word.toNat < 2 ^ 63) :
    word.toInt64.toInt = word.toNat := by
  change word.toBitVec.toInt = (word.toBitVec.toNat : Int)
  have signed := BitVec.toInt_eq_toNat_cond word.toBitVec
  change word.toBitVec.toNat < 2 ^ 63 at small
  split at signed <;> omega

theorem toInt_sub_of_le
    {earlier later : Int64} (ordered : earlier ≤ later)
    (since : 0 ≤ earlier) :
    (later - earlier).toInt = later.toInt - earlier.toInt := by
  have forward : earlier.toInt ≤ later.toInt :=
    Int64.le_iff_toInt_le.mp ordered
  have begun : (0 : Int) ≤ earlier.toInt := Int64.le_iff_toInt_le.mp since
  have most := later.toInt_lt
  rw [Int64.toInt_sub, Int.bmod_def]
  split <;> omega

end Instant

end Foundation
