import Mathlib.Data.Nat.Notation
import Mathlib.Tactic.Common

/-!
# Bisection

The position at which a decreasing predicate on positions turns false, found
by halving an interval that contains it.
-/

namespace Foundation

/-- Halve the interval from `low` to `high`; `fuel` bounds the halvings. -/
def bisect (below : ℕ → Bool) : ℕ → ℕ → ℕ → ℕ
  | 0, low, _ => low
  | fuel + 1, low, high =>
      if low < high then
        let middle := low + (high - low) / 2
        if below middle then bisect below fuel (middle + 1) high
        else bisect below fuel low middle
      else low

/-- A predicate that holds before a boundary and fails from it on holds exactly
before the boundary. -/
theorem holds_iff_lt
    {below : ℕ → Bool} {boundary : ℕ}
    (before : ∀ position < boundary, below position = true)
    (after : ∀ position, boundary ≤ position → below position = false)
    (position : ℕ) : below position = true ↔ position < boundary := by
  refine ⟨?_, before position⟩
  intro holds
  by_contra late
  rw [after position (Nat.not_lt.mp late)] at holds
  cases holds

/-- With as much fuel as the interval is wide, the positions before the result
are exactly those at which the predicate holds. -/
theorem bisect_spec
    {below : ℕ → Bool}
    (decreasing :
      ∀ earlier later, earlier ≤ later → below later = true →
        below earlier = true)
    {fuel low high : ℕ} (ordered : low ≤ high) (enough : high ≤ low + fuel)
    (before : ∀ position < low, below position = true)
    (after : ∀ position, high ≤ position → below position = false)
    (position : ℕ) :
    below position = true ↔ position < bisect below fuel low high := by
  -- the interval shrinks around the boundary
  induction fuel generalizing low high with
  | zero =>
      obtain rfl : high = low := by omega
      exact holds_iff_lt before after position
  | succ fuel hypothesis =>
      rw [bisect]
      split
      · rename_i proper
        dsimp only
        split
        · rename_i early
          refine hypothesis (by omega) (by omega) ?_ after
          intro other within
          exact decreasing other _ (Nat.lt_succ_iff.mp within) early
        · rename_i late
          refine hypothesis (by omega) (by omega) before ?_
          intro other beyond
          rw [Bool.eq_false_iff]
          exact fun holds => late (decreasing _ other beyond holds)
      · obtain rfl : high = low := by omega
        exact holds_iff_lt before after position

end Foundation
