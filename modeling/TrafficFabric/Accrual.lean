import TrafficFabric.Shaper
import TrafficFabric.Foundation.Words

/-!
# What a token bucket lets through

A bucket is refilled and drawn on at clock readings that may arrive in any
order.  Between two bounds on the readings it lets through its capacity and
what accrues between the bounds: each refill rounds down, is clamped to one
second and capped, and none of this helps the requester.
-/

namespace TrafficFabric

open Foundation

variable {bytes : Nat} {after : Option TokenBucket}

/-! ## Accrual -/

/-- Bytes at a rate over an interval in nanoseconds. -/
def accrual (rateBps elapsedNs : Nat) : Nat :=
  rateBps * elapsedNs / 1000000000

theorem accrual_mono
    {rateBps first second : Nat} (ordered : first ≤ second) :
    accrual rateBps first ≤ accrual rateBps second :=
  Nat.div_le_div_right (Nat.mul_le_mul_left _ ordered)

/-- Rounding down twice gives no more than rounding down once. -/
theorem accrual_add (rateBps first second : Nat) :
    accrual rateBps first + accrual rateBps second ≤
      accrual rateBps (first + second) := by
  unfold accrual
  rw [Nat.mul_add]
  omega

/-- Splitting the rate into a multiple of the divisor and a rest avoids
overflow and changes nothing else. -/
theorem accrual_split (rateBps elapsedNs : Nat) :
    rateBps / 1000000000 * elapsedNs +
        rateBps % 1000000000 * elapsedNs / 1000000000 =
      accrual rateBps elapsedNs := by
  unfold accrual
  conv_rhs =>
    rw [← Nat.div_add_mod rateBps 1000000000, Nat.add_mul, Nat.mul_assoc,
      Nat.mul_add_div (by decide)]

namespace Nanos

theorem toNat_toUInt64_of_pos
    {value : Nanos} (positive : 0 < value) :
    value.toUInt64.toNat = value.toInt.toNat := by
  have signed : value.toInt = value.toUInt64.toBitVec.toInt := rfl
  have word : value.toUInt64.toNat = value.toUInt64.toBitVec.toNat := rfl
  have above := Int64.lt_iff_toInt_lt.mp positive
  have zero : (0 : Nanos).toInt = 0 := rfl
  have below := value.toUInt64.toBitVec.isLt
  rw [BitVec.toInt_eq_toNat_cond] at signed
  split at signed <;> omega

theorem toNat_pos {value : Nanos} (positive : 0 < value) :
    0 < value.toInt.toNat := by
  have above : (0 : Int) < value.toInt := Int64.lt_iff_toInt_lt.mp positive
  omega

theorem min_pos
    {left right : Nanos} (first : 0 < left) (second : 0 < right) :
    0 < min left right := by
  change 0 < if left ≤ right then left else right
  split
  · exact first
  · exact second

/-- A difference that wraps is negative. -/
theorem toInt_sub_le {later earlier : Nanos} (ordered : earlier < later) :
    (later - earlier).toInt ≤ later.toInt - earlier.toInt := by
  have positive := Int64.lt_iff_toInt_lt.mp ordered
  rw [Int64.toInt_sub, Int.bmod_def]
  split <;> omega

end Nanos

/-- The time between two readings that counts for a refill. -/
def countedSpan (earlier later : Nanos) : Nat :=
  min (later - earlier).toInt.toNat 1000000000

/-- The tokens of a bucket once some bytes have accrued. -/
def filled (capacity tokens added : Nat) : Nat :=
  if added = 0 then tokens else min capacity (tokens + added)

/-- The words of `refill_bytes` do not wrap. -/
theorem toNat_refillBytes (rateBps : UInt64) (elapsedNs : Nanos) :
    (refillBytes rateBps elapsedNs).toNat =
      accrual rateBps.toNat (min elapsedNs.toInt.toNat 1000000000) := by
  unfold refillBytes
  split
  · rename_i idle
    rcases idle with rfl | idle
    · simp [accrual]
    · have none_ := Int64.le_iff_toInt_le.mp idle
      change elapsedNs.toInt ≤ 0 at none_
      rw [Int.toNat_of_nonpos none_]
      simp [accrual]
  · rename_i flows
    rcases not_or.mp flows with ⟨_, elapsed⟩
    have later := Int64.not_le.mp elapsed
    have span :
        (min elapsedNs nanosPerSecond).toUInt64.toNat =
          min elapsedNs.toInt.toNat 1000000000 := by
      rw [Nanos.toNat_toUInt64_of_pos (Nanos.min_pos later (by decide))]
      change (if elapsedNs ≤ nanosPerSecond then elapsedNs
        else nanosPerSecond).toInt.toNat = _
      have second : nanosPerSecond.toInt = 1000000000 := rfl
      split
      · rename_i short
        have := Int64.le_iff_toInt_le.mp short
        omega
      · rename_i long
        have := Int64.lt_iff_toInt_lt.mp (Int64.not_le.mp long)
        omega
    dsimp only
    generalize (min elapsedNs nanosPerSecond).toUInt64 = word at span
    rw [← span]
    have short : word.toNat ≤ 1000000000 := by
      rw [span]
      exact Nat.min_le_right _ _
    have total := accrual_split rateBps.toNat word.toNat
    have bounded : accrual rateBps.toNat word.toNat ≤ rateBps.toNat := by
      unfold accrual
      exact Nat.div_le_of_le_mul
        ((Nat.mul_le_mul_left _ short).trans_eq (Nat.mul_comm _ _))
    have below := rateBps.toNat_lt
    have rest :
        rateBps.toNat % 1000000000 * word.toNat < 2 ^ 64 := by
      have := Nat.mul_le_mul
        (Nat.le_of_lt (Nat.mod_lt rateBps.toNat (show 1000000000 > 0 by decide)))
        short
      omega
    rw [UInt64.toNat_add, UInt64.toNat_mul, UInt64.toNat_div,
      UInt64.toNat_div, UInt64.toNat_mul, UInt64.toNat_mod]
    change (rateBps.toNat / 1000000000 * word.toNat % 2 ^ 64 +
      rateBps.toNat % 1000000000 * word.toNat % 2 ^ 64 / 1000000000) %
        2 ^ 64 = _
    have whole : rateBps.toNat / 1000000000 * word.toNat < 2 ^ 64 := by
      omega
    rw [Nat.mod_eq_of_lt rest, Nat.mod_eq_of_lt whole, total,
      Nat.mod_eq_of_lt (by omega)]

/-! ## Refills and draws -/

namespace TokenBucket

variable {bucket : TokenBucket}

/-- A configured bucket is brought up to date at every later reading. -/
theorem refill_eq
    (configured : bucket.configured = true) {now : Nanos}
    (ordered : bucket.lastNs ≤ now) :
    ∃ tokens : UInt64,
      bucket.refill now = { bucket with lastNs := now, tokens := tokens } ∧
        tokens.toNat =
          filled bucket.capacityBytes.toNat bucket.tokens.toNat
            (accrual bucket.rateBps.toNat
              (countedSpan bucket.lastNs now)) := by
  unfold refill
  have added := toNat_refillBytes bucket.rateBps (now - bucket.lastNs)
  change _ = accrual _ (countedSpan bucket.lastNs now) at added
  rw [← added]
  by_cases same : now ≤ bucket.lastNs
  · have current : bucket.lastNs = now := Int64.le_antisymm ordered same
    rw [if_pos (.inr same)]
    refine ⟨bucket.tokens, by rw [← current], ?_⟩
    rw [← current, Int64.sub_self]
    have idle : refillBytes bucket.rateBps 0 = 0 :=
      if_pos (.inr (Int64.le_refl 0))
    rw [idle]
    rfl
  rw [if_neg (by simp [configured, same])]
  dsimp only
  generalize refillBytes bucket.rateBps (now - bucket.lastNs) = accrued
  split
  · rename_i none_
    subst none_
    exact ⟨bucket.tokens, rfl, rfl⟩
  · rename_i some_
    have positive : accrued.toNat ≠ 0 :=
      fun zero => some_ (UInt64.toNat_inj.mp zero)
    unfold filled
    rw [if_neg positive]
    split
    · rename_i full
      refine ⟨bucket.capacityBytes, rfl, ?_⟩
      rcases full with full | full
      · have := UInt64.le_iff_toNat_le.mp full
        omega
      · have room := UInt64.le_iff_toNat_le.mp full
        by_cases beyond : bucket.capacityBytes ≤ bucket.tokens
        · have := UInt64.le_iff_toNat_le.mp beyond
          omega
        · rw [UInt64.toNat_sub_of_le _ _
            (UInt64.le_of_lt (UInt64.not_le.mp beyond))] at room
          omega
    · rename_i room
      rcases not_or.mp room with ⟨below, fits⟩
      have less := UInt64.not_le.mp below
      have bounded := UInt64.lt_iff_toNat_lt.mp (UInt64.not_le.mp fits)
      rw [UInt64.toNat_sub_of_le _ _ (UInt64.le_of_lt less)] at bounded
      have size := bucket.capacityBytes.toNat_lt
      have sum := Word.toNat_add_of_lt
        (show bucket.tokens.toNat + accrued.toNat < 2 ^ 64 by omega)
      exact ⟨bucket.tokens + accrued, rfl, by omega⟩

/-- A refill leaves the bucket, or brings it up to date with no more than has
accrued. -/
theorem refill_cases (bucket : TokenBucket) (now : Nanos) :
    bucket.refill now = bucket ∧
        (bucket.configured = true → now ≤ bucket.lastNs) ∨
      bucket.lastNs < now ∧
        ∃ tokens : UInt64,
          bucket.refill now =
              { bucket with lastNs := now, tokens := tokens } ∧
            tokens.toNat ≤ bucket.tokens.toNat +
              accrual bucket.rateBps.toNat
                (now.toInt - bucket.lastNs.toInt).toNat ∧
            (bucket.tokens ≤ bucket.capacityBytes →
              tokens ≤ bucket.capacityBytes) := by
  by_cases idle : ¬ bucket.configured ∨ now ≤ bucket.lastNs
  · left
    exact ⟨if_pos idle, fun configured =>
      idle.resolve_left (by simp [configured])⟩
  · obtain ⟨configured, stale⟩ := not_or.mp idle
    have later := Int64.not_le.mp stale
    obtain ⟨tokens, same, added⟩ :=
      refill_eq (not_not.mp configured) (Int64.le_of_lt later)
    have accrued :
        accrual bucket.rateBps.toNat (countedSpan bucket.lastNs now) ≤
          accrual bucket.rateBps.toNat
            (now.toInt - bucket.lastNs.toInt).toNat :=
      accrual_mono (Nat.le_trans (Nat.min_le_left _ _)
        (Int.toNat_le_toNat (Nanos.toInt_sub_le later)))
    unfold filled at added
    refine .inr ⟨later, tokens, same, ?_, ?_⟩
    · split at added <;> omega
    · intro bounded
      rw [UInt64.le_iff_toNat_le] at bounded ⊢
      split at added <;> omega

/-- A second refill at the same reading does nothing. -/
theorem refill_refill (bucket : TokenBucket) (now : Nanos) :
    (bucket.refill now).refill now = bucket.refill now := by
  rcases bucket.refill_cases now with ⟨same, _⟩ | ⟨_, tokens, same, _⟩
  · rw [same, same]
  · rw [same]
    unfold refill
    rw [if_pos (.inr (Int64.le_refl _))]

end TokenBucket

/-- What a request at `now` can do to a bucket, and the bytes it takes. -/
inductive Drawn (now : Nanos) :
    Option TokenBucket → Nat → Option TokenBucket → Prop
  | untouched (bucket : Option TokenBucket) : Drawn now bucket 0 bucket
  | drawn (bucket : TokenBucket) (bytes : UInt64)
      (available : bytes ≤ (bucket.refill now).tokens) :
      Drawn now (some bucket) bytes.toNat
        (some { bucket.refill now with
          tokens := (bucket.refill now).tokens - bytes })

namespace Drawn

variable {now : Nanos}

theorem refilled (bucket : TokenBucket) :
    Drawn now (some bucket) 0 (some (bucket.refill now)) := by
  have drawn : Drawn now (some bucket) (0 : UInt64).toNat _ :=
    .drawn bucket 0 (by simp)
  rw [UInt64.sub_zero] at drawn
  exact drawn

/-- A bucket that is drawn on stays. -/
theorem isSome
    {before : Option TokenBucket}
    (drawn : Drawn now before bytes after) (some_ : before.isSome) :
    after.isSome := by
  cases drawn with
  | untouched =>
      exact some_
  | drawn =>
      rfl

/-- Nothing is drawn where there is no bucket. -/
theorem of_none
    (drawn : Drawn now none bytes after) : after = none ∧ bytes = 0 := by
  cases drawn with
  | untouched =>
      exact ⟨rfl, rfl⟩

/-- A draw on a bucket that the same request has refilled. -/
theorem of_refilled
    {before : Option TokenBucket}
    (drawn :
      Drawn now (before.map (fun bucket => bucket.refill now)) bytes after) :
    Drawn now before bytes after := by
  cases before with
  | none =>
      exact drawn
  | some bucket =>
      cases drawn with
      | untouched =>
          exact .refilled bucket
      | drawn _ bytes available =>
          rw [TokenBucket.refill_refill] at available ⊢
          exact .drawn bucket bytes available

end Drawn

/-! ## Draws within an interval -/

/-- The part of the interval that the bucket has been brought up to date
with. -/
def TokenBucket.covered (bucket : TokenBucket) (start stop : Nanos) : Nat :=
  if bucket.lastNs ≤ stop then (bucket.lastNs.toInt - start.toInt).toNat
  else 0

/-- The account of a bucket of some rate and capacity after `granted` bytes
since the start of an interval. -/
structure TokenBucket.Spent
    (rateBps capacityBytes : UInt64) (start stop : Nanos) (granted : Nat)
    (bucket : TokenBucket) : Prop where
  configured : bucket.configured = true
  rate : bucket.rateBps = rateBps
  capacity : bucket.capacityBytes = capacityBytes
  bounded : bucket.tokens ≤ capacityBytes
  unopened : bucket.lastNs < start → granted = 0
  balance :
    granted + bucket.tokens.toNat ≤
      capacityBytes.toNat +
        accrual rateBps.toNat (bucket.covered start stop)

namespace TokenBucket.Spent

variable {rateBps capacityBytes : UInt64} {start stop now : Nanos}
  {granted : Nat} {bucket : TokenBucket}

/-- A bucket that has let nothing through yet. -/
theorem initial
    (configured : bucket.configured = true)
    (bounded : bucket.tokens ≤ bucket.capacityBytes) :
    bucket.Spent bucket.rateBps bucket.capacityBytes start stop 0 where
  configured := configured
  rate := rfl
  capacity := rfl
  bounded := bounded
  unopened := fun _ => rfl
  balance := by
    have := UInt64.le_iff_toNat_le.mp bounded
    omega

theorem refill
    (spent : bucket.Spent rateBps capacityBytes start stop granted)
    (since : start ≤ now) (until_ : now ≤ stop) :
    (bucket.refill now).Spent rateBps capacityBytes start stop granted ∧
      start ≤ (bucket.refill now).lastNs := by
  rcases bucket.refill_cases now with
    ⟨same, recent⟩ | ⟨later, tokens, same, accrued, capped⟩
  · rw [same]
    exact ⟨spent, Int64.le_trans since (recent spent.configured)⟩
  · rw [same]
    have bounded : tokens ≤ capacityBytes := by
      rw [spent.capacity] at capped
      exact capped spent.bounded
    refine ⟨⟨spent.configured, spent.rate, spent.capacity, bounded, ?_, ?_⟩,
      since⟩
    · exact fun early => absurd since (Int64.not_le.mpr early)
    · dsimp only [covered]
      rw [if_pos until_]
      by_cases opened : start ≤ bucket.lastNs
      · -- the new span is the old one and what has passed since
        have balance := spent.balance
        unfold covered at balance
        rw [if_pos (Int64.le_trans (Int64.le_of_lt later) until_)] at balance
        rw [spent.rate] at accrued
        have opened' := Int64.le_iff_toInt_le.mp opened
        have later' := Int64.lt_iff_toInt_lt.mp later
        have joined := accrual_add rateBps.toNat
          (bucket.lastNs.toInt - start.toInt).toNat
          (now.toInt - bucket.lastNs.toInt).toNat
        rw [show (bucket.lastNs.toInt - start.toInt).toNat +
          (now.toInt - bucket.lastNs.toInt).toNat =
            (now.toInt - start.toInt).toNat by omega] at joined
        omega
      · -- nothing was granted before the interval began for the bucket
        have none_ := spent.unopened (Int64.not_le.mp opened)
        have full := UInt64.le_iff_toNat_le.mp bounded
        omega

/-- A draw adds its bytes to what was granted. -/
theorem draw
    (spent : bucket.Spent rateBps capacityBytes start stop granted)
    (since : start ≤ now) (until_ : now ≤ stop)
    (drawn : Drawn now (some bucket) bytes after) :
    ∃ left, after = some left ∧
      left.Spent rateBps capacityBytes start stop (granted + bytes) := by
  cases drawn with
  | untouched =>
      exact ⟨bucket, rfl, spent⟩
  | drawn _ _ available =>
      rcases spent.refill since until_ with ⟨refilled, opened⟩
      have fits := UInt64.le_iff_toNat_le.mp available
      have rest := UInt64.toNat_sub_of_le _ _ available
      refine ⟨_, rfl, refilled.configured, refilled.rate, refilled.capacity,
        ?_, ?_, ?_⟩
      · have bounded := UInt64.le_iff_toNat_le.mp refilled.bounded
        rw [UInt64.le_iff_toNat_le]
        dsimp only
        omega
      · exact fun early => absurd opened (Int64.not_le.mpr early)
      · have balance := refilled.balance
        unfold covered at balance ⊢
        dsimp only
        omega

/-- What a bucket has let through by the end of the interval. -/
theorem granted_le
    (spent : bucket.Spent rateBps capacityBytes start stop granted) :
    granted ≤
      capacityBytes.toNat +
        accrual rateBps.toNat (stop.toInt - start.toInt).toNat := by
  have balance := spent.balance
  have covered :
      bucket.covered start stop ≤ (stop.toInt - start.toInt).toNat := by
    unfold TokenBucket.covered
    split
    · rename_i ended
      have := Int64.le_iff_toInt_le.mp ended
      omega
    · exact Nat.zero_le _
  have := @accrual_mono rateBps.toNat _ _ covered
  omega

end TokenBucket.Spent

end TrafficFabric
