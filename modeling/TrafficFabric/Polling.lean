import TrafficFabric.Accrual

/-!
# Refills in between

Each refill rounds the bytes that have accrued down and clamps the time that
has passed to one second.  A refill in between therefore loses a fraction of
what a single refill would add, and after long pauses it saves some.
-/

namespace TrafficFabric

open Foundation

/-! ## What two refills add -/

/-- Filling in two steps is filling with the sum. -/
theorem filled_filled (capacity tokens first second : Nat) :
    filled capacity (filled capacity tokens first) second =
      filled capacity tokens (first + second) := by
  unfold filled
  split <;> split <;> split <;> omega

/-- Different amounts fill a bucket alike when both reach its capacity. -/
theorem filled_eq_iff {capacity tokens first second : Nat} :
    filled capacity tokens first = filled capacity tokens second ↔
      first = second ∨
        capacity ≤ tokens + first ∧ capacity ≤ tokens + second ∧
          (capacity < tokens → 0 < first ∧ 0 < second) := by
  unfold filled
  split <;> split <;> omega

namespace TokenBucket

variable {bucket : TokenBucket}

/-- Nothing is lost or gained by a refill in between: the bytes that accrue
before it and after it add up to those of the whole time, or either amount
fills the bucket. -/
def PollsFairly (bucket : TokenBucket) (between now : Nanos) : Prop :=
  accrual bucket.rateBps.toNat (countedSpan bucket.lastNs between) +
      accrual bucket.rateBps.toNat (countedSpan between now) =
    accrual bucket.rateBps.toNat (countedSpan bucket.lastNs now) ∨
  bucket.capacityBytes.toNat ≤
      bucket.tokens.toNat +
        (accrual bucket.rateBps.toNat (countedSpan bucket.lastNs between) +
          accrual bucket.rateBps.toNat (countedSpan between now)) ∧
    bucket.capacityBytes.toNat ≤
      bucket.tokens.toNat +
        accrual bucket.rateBps.toNat (countedSpan bucket.lastNs now) ∧
    (bucket.capacityBytes.toNat < bucket.tokens.toNat →
      0 < accrual bucket.rateBps.toNat (countedSpan bucket.lastNs between) +
          accrual bucket.rateBps.toNat (countedSpan between now) ∧
        0 < accrual bucket.rateBps.toNat (countedSpan bucket.lastNs now))

/-- A refill in between leaves the tokens of a single refill exactly when it
is fair. -/
theorem polling_keeps_credit_iff
    (bucket : TokenBucket) (configured : bucket.configured = true)
    {between now : Nanos} (since : bucket.lastNs ≤ between)
    (until_ : between ≤ now) :
    ((bucket.refill between).refill now).tokens =
        (bucket.refill now).tokens ↔
      bucket.PollsFairly between now := by
  obtain ⟨first, polled, some_⟩ := refill_eq configured since
  obtain ⟨whole, once, all⟩ :=
    refill_eq configured (Int64.le_trans since until_)
  rw [polled, once, ← UInt64.toNat_inj]
  obtain ⟨second, twice, both⟩ :=
    @refill_eq { bucket with lastNs := between, tokens := first } configured
      now until_
  rw [twice]
  dsimp only at both ⊢
  rw [both, some_, all, filled_filled, filled_eq_iff]
  rfl

/-- A bucket of two bytes per nanosecond loses nothing. -/
theorem polling_keeps_credit_at_whole_rate :
    (((TokenBucket.mk 2000000000 10 0 0 true).refill 1).refill 2).tokens =
      ((TokenBucket.mk 2000000000 10 0 0 true).refill 2).tokens :=
  (polling_keeps_credit_iff ⟨2000000000, 10, 0, 0, true⟩ rfl
    (by decide) (by decide)).mpr (.inl (by decide))

/-- A bucket of one byte per second that is polled after half a second is
empty when a byte has accrued. -/
theorem polling_destroys_credit :
    (((TokenBucket.mk 1 10 0 0 true).refill 500000000).refill
        1000000000).tokens = 0 ∧
      ((TokenBucket.mk 1 10 0 0 true).refill 1000000000).tokens = 1 := by
  decide

end TokenBucket

end TrafficFabric
