import TrafficFabric.Engine.Ceilings
import TrafficFabric.Engine.Refusals
import TrafficFabric.Foundation.Instants

/-!
# Promised retries

A request for credit that is put off names a time at which to ask again.  The
time is estimated from the bytes that are missing in one bucket.  The promise
is kept at those later times at which the class holds the least chunk and the
workload as much as the class then allows to ask for.  That is so when a
refill, which counts at most one second, can add what is missing, when the
bucket can hold it, and when the other bucket already holds its share.
-/

namespace TrafficFabric

open Foundation

variable {outcome : WaveOutcome} {index : ShardIndex} {target : ShardTarget}

/-! ## One bucket -/

/-- A wait that is a little too long gives enough, up to a second. -/
theorem le_accrual
    {missing rate span : Nat} (flows : 0 < rate) (within : missing ≤ rate)
    (waited : min (missing * 1000000000 / rate + 1) 1000000000 ≤ span) :
    missing ≤ accrual rate span := by
  unfold accrual
  rw [Nat.le_div_iff_mul_le (by decide)]
  by_cases long : 1000000000 ≤ span
  · exact Nat.mul_le_mul within long
  · have enough : missing * 1000000000 / rate + 1 ≤ span := by
      omega
    have less := Nat.lt_mul_div_succ (missing * 1000000000) flows
    exact (Nat.le_of_lt less).trans (Nat.mul_le_mul_left rate enough)

theorem le_filled
    {capacity tokens added bytes : Nat} (holds : bytes ≤ capacity)
    (enough : bytes ≤ tokens + added) :
    bytes ≤ filled capacity tokens added := by
  unfold filled
  split <;> omega

namespace TokenBucket

/-- The bucket holds the bytes. -/
@[mk_iff]
structure Covers (bucket : TokenBucket) (bytes : UInt64) : Prop where
  capacity : bytes.toNat ≤ bucket.capacityBytes.toNat
  tokens : bytes.toNat ≤ bucket.tokens.toNat

/-- The bucket can hold the bytes, and a second brings what is missing. -/
@[mk_iff]
structure Reaches (bucket : TokenBucket) (bytes : UInt64) : Prop where
  capacity : bytes.toNat ≤ bucket.capacityBytes.toNat
  rate : bytes.toNat ≤ bucket.tokens.toNat + bucket.rateBps.toNat

instance (bucket : TokenBucket) (bytes : UInt64) :
    Decidable (bucket.Covers bytes) :=
  decidable_of_iff _ (covers_iff bucket bytes).symm

instance (bucket : TokenBucket) (bytes : UInt64) :
    Decidable (bucket.Reaches bytes) :=
  decidable_of_iff _ (reaches_iff bucket bytes).symm

theorem refill_configured (bucket : TokenBucket) (now : Nanos) :
    (bucket.refill now).configured = bucket.configured := by
  unfold refill
  split
  · rfl
  · dsimp only
    split
    · rfl
    · split <;> rfl

variable {bucket : TokenBucket} {now later : Nanos} {bytes : UInt64}

theorem refill_capacityBytes (bucket : TokenBucket) (now : Nanos) :
    (bucket.refill now).capacityBytes = bucket.capacityBytes := by
  rcases bucket.refill_cases now with ⟨same, _⟩ | ⟨_, tokens, same, _⟩
  · rw [same]
  · rw [same]

/-- A refill does not exceed the capacity. -/
theorem refill_bounded
    (bounded : bucket.tokens ≤ bucket.capacityBytes) (now : Nanos) :
    (bucket.refill now).tokens ≤ (bucket.refill now).capacityBytes := by
  rw [refill_capacityBytes]
  rcases bucket.refill_cases now with
    ⟨same, _⟩ | ⟨_, tokens, same, _, limited⟩
  · rw [same]
    exact bounded
  · rw [same]
    exact limited bounded

/-- What a bucket holds it holds after a refill. -/
theorem Covers.refill
    (covers : bucket.Covers bytes) (configured : bucket.configured = true)
    (ordered : bucket.lastNs ≤ now) : (bucket.refill now).Covers bytes := by
  obtain ⟨tokens, same, filled_⟩ := refill_eq configured ordered
  rw [same]
  refine ⟨covers.capacity, ?_⟩
  change bytes.toNat ≤ tokens.toNat
  rw [filled_]
  exact le_filled covers.capacity
    (covers.tokens.trans (Nat.le_add_right _ _))

/-- A later refill brings no less. -/
theorem Covers.of_refill
    (covers : (bucket.refill now).Covers bytes)
    (configured : bucket.configured = true) (since : 0 ≤ bucket.lastNs)
    (ordered : bucket.lastNs ≤ now) (after : now ≤ later) :
    (bucket.refill later).Covers bytes := by
  have whole := Int64.le_trans ordered after
  obtain ⟨early, first, earlier⟩ := refill_eq configured ordered
  obtain ⟨late, second, latest⟩ := refill_eq configured whole
  rw [first] at covers
  rw [second]
  refine ⟨covers.capacity, ?_⟩
  have enough : bytes.toNat ≤ early.toNat := covers.tokens
  have limit : bytes.toNat ≤ bucket.capacityBytes.toNat := covers.capacity
  change bytes.toNat ≤ late.toNat
  have longer :
      countedSpan bucket.lastNs now ≤ countedSpan bucket.lastNs later := by
    unfold countedSpan
    rw [Instant.toInt_sub_of_le ordered since,
      Instant.toInt_sub_of_le whole since]
    have forward := Int64.le_iff_toInt_le.mp after
    exact min_le_min_right _ (by omega)
  have more := @accrual_mono bucket.rateBps.toNat _ _ longer
  rw [latest]
  rw [earlier] at enough
  refine le_filled limit ?_
  unfold filled at enough
  split at enough <;> omega

theorem refill_lastNs
    (configured : bucket.configured = true) (ordered : bucket.lastNs ≤ now) :
    (bucket.refill now).lastNs = now := by
  obtain ⟨tokens, same, _⟩ := refill_eq configured ordered
  rw [same]

/-- The words of `time_until` do not wrap for a chunk. -/
theorem toInt_timeUntil
    (configured : bucket.configured = true) (flows : bucket.rateBps ≠ 0)
    (short : bucket.tokens < bytes) (small : bytes ≤ 1048576) :
    (bucket.timeUntil bytes).toInt =
      ((bytes.toNat - bucket.tokens.toNat) * 1000000000 /
        bucket.rateBps.toNat + 1 : Nat) := by
  have less := UInt64.lt_iff_toNat_lt.mp short
  have most := UInt64.le_iff_toNat_le.mp small
  change bytes.toNat ≤ 1048576 at most
  have missing :
      (bytes - bucket.tokens).toNat = bytes.toNat - bucket.tokens.toNat :=
    UInt64.toNat_sub_of_le _ _ (UInt64.le_of_lt short)
  have some_ : bytes - bucket.tokens ≠ 0 := by
    intro none_
    rw [none_] at missing
    change 0 = _ at missing
    omega
  unfold timeUntil
  rw [if_neg (by simp [configured, flows])]
  dsimp only
  rw [if_pos short, if_neg some_]
  have nanos :
      ((bytes - bucket.tokens) * nanosPerSecondU64 / bucket.rateBps).toNat =
        (bytes.toNat - bucket.tokens.toNat) * 1000000000 /
          bucket.rateBps.toNat := by
    rw [UInt64.toNat_div, UInt64.toNat_mul, missing]
    change _ * 1000000000 % 2 ^ 64 / _ = _
    rw [Nat.mod_eq_of_lt (by omega)]
  have bounded :
      (bytes.toNat - bucket.tokens.toNat) * 1000000000 /
          bucket.rateBps.toNat < 2 ^ 62 :=
    lt_of_le_of_lt (Nat.div_le_self _ _) (by omega)
  generalize
    (bytes - bucket.tokens) * nanosPerSecondU64 / bucket.rateBps = word
    at nanos
  rw [← nanos] at bounded ⊢
  have signed := Instant.toInt_toInt64 (show word.toNat < 2 ^ 63 by omega)
  rw [Instant.toInt_add_of_lt (by decide) (by rw [signed]; change _ + 1 < _; omega),
    signed]
  rfl

/-- The estimate is a second at most, and later than now. -/
theorem Reaches.timeUntil
    (reaches : bucket.Reaches bytes) (configured : bucket.configured = true)
    (short : bucket.tokens < bytes) (small : bytes ≤ 1048576) :
    (bucket.timeUntil bytes).toInt =
        ((bytes.toNat - bucket.tokens.toNat) * 1000000000 /
          bucket.rateBps.toNat + 1 : Nat) ∧
      bucket.rateBps ≠ 0 ∧
      (bytes.toNat - bucket.tokens.toNat) * 1000000000 /
          bucket.rateBps.toNat ≤ 1000000000 := by
  have less := UInt64.lt_iff_toNat_lt.mp short
  have within := reaches.rate
  have flows : bucket.rateBps ≠ 0 := by
    intro idle
    rw [idle] at within
    change _ ≤ _ + 0 at within
    omega
  refine ⟨toInt_timeUntil configured flows short small, flows, ?_⟩
  refine Nat.div_le_of_le_mul ?_
  rw [Nat.mul_comm bucket.rateBps.toNat]
  rw [Nat.mul_comm]
  exact Nat.mul_le_mul_left _ (by omega)

/-- After the estimated time the bucket holds the bytes. -/
theorem Reaches.refill
    (reaches : bucket.Reaches bytes) (configured : bucket.configured = true)
    (since : 0 ≤ now) (dated : now.toInt + 1000000001 < 2 ^ 63)
    (current : bucket.lastNs = now) (short : bucket.tokens < bytes)
    (small : bytes ≤ 1048576) (due : now + bucket.timeUntil bytes ≤ later) :
    now ≤ later ∧ (bucket.refill later).Covers bytes := by
  obtain ⟨wait, flows, second⟩ := reaches.timeUntil configured short small
  have less := UInt64.lt_iff_toNat_lt.mp short
  have within := reaches.rate
  generalize span_ :
    (bytes.toNat - bucket.tokens.toNat) * 1000000000 / bucket.rateBps.toNat =
      span at wait second
  have ahead : 0 ≤ bucket.timeUntil bytes := by
    rw [Int64.le_iff_toInt_le, wait]
    exact Int.natCast_nonneg _
  have reached := Int64.le_iff_toInt_le.mp due
  rw [Instant.toInt_add_of_lt ahead (by rw [wait]; omega), wait] at reached
  have ordered : now ≤ later := by
    rw [Int64.le_iff_toInt_le]
    omega
  refine ⟨ordered, ?_⟩
  obtain ⟨tokens, same, filled_⟩ :=
    refill_eq configured (show bucket.lastNs ≤ later by rw [current]; exact ordered)
  rw [same]
  refine ⟨reaches.capacity, ?_⟩
  change bytes.toNat ≤ tokens.toNat
  rw [filled_]
  refine le_filled reaches.capacity ?_
  have passed : span + 1 ≤ (later.toInt - now.toInt).toNat := by
    omega
  have counted :
      min (span + 1) 1000000000 ≤ countedSpan bucket.lastNs later := by
    unfold countedSpan
    rw [current, Instant.toInt_sub_of_le ordered since]
    exact min_le_min_right _ passed
  rw [← span_] at counted
  have some_ : 0 < bucket.rateBps.toNat :=
    Nat.pos_of_ne_zero (fun idle => flows (UInt64.toNat_inj.mp idle))
  have gained := le_accrual some_
    (show bytes.toNat - bucket.tokens.toNat ≤ bucket.rateBps.toNat by omega)
    counted
  omega

end TokenBucket

/-! ## Both buckets -/

namespace RateShaper

variable {shaper : RateShaper} {isolation : IsolationClass}
  {workload : WorkloadId} {classBucket workloadBucket : TokenBucket}
  {now : Nanos}

theorem refillClass_lookup
    (known : shaper.classes.lookup isolation = some classBucket) :
    (shaper.refillClass isolation now).classes.lookup isolation =
        some (classBucket.refill now) ∧
      (shaper.refillClass isolation now).workloads = shaper.workloads := by
  unfold refillClass
  rw [known]
  exact ⟨Table.lookup_replace_self (Table.mem_of_lookup known), rfl⟩

theorem classTokensAt_of_lookup
    (known : shaper.classes.lookup isolation = some classBucket) :
    shaper.classTokensAt isolation now =
      ((classBucket.refill now).tokens,
        shaper.refillClass isolation now) := by
  unfold classTokensAt
  dsimp only
  rw [(refillClass_lookup known).1]

theorem classTimeUntilAt_of_lookup
    (known : shaper.classes.lookup isolation = some classBucket)
    (bytes : UInt64) :
    shaper.classTimeUntilAt isolation bytes now =
      ((classBucket.refill now).timeUntil bytes,
        shaper.refillClass isolation now) := by
  unfold classTimeUntilAt
  dsimp only
  rw [(refillClass_lookup known).1]

/-- A configured bucket that holds the bytes once it is refilled. -/
def Supply
    (entry : Option TokenBucket) (bytes : UInt64) (now : Nanos) : Prop :=
  ∃ bucket, entry = some bucket ∧ bucket.configured = true ∧
    bytes ≤ (bucket.refill now).tokens

/-- Exactly what both buckets hold is granted. -/
theorem tryConsume_admitted_iff {bytes : UInt64} :
    (shaper.tryConsume isolation workload bytes now).1.admitted = true ↔
      Supply (shaper.classes.lookup isolation) bytes now ∧
        Supply (shaper.workloads.lookup workload) bytes now := by
  unfold tryConsume
  cases classed : shaper.classes.lookup isolation with
  | none =>
      exact ⟨nofun, fun ⟨⟨_, missing, _⟩, _⟩ => by cases missing⟩
  | some classBucket =>
      cases contracted : shaper.workloads.lookup workload with
      | none =>
          refine ⟨?_, fun ⟨_, _, missing, _⟩ => by cases missing⟩
          dsimp only
          split <;> exact nofun
      | some workloadBucket =>
          dsimp only
          by_cases first : classBucket.configured = true
          · by_cases second : workloadBucket.configured = true
            · rw [if_neg (not_not.mpr first), if_neg (not_not.mpr second)]
              simp only [Supply, Option.some_inj, exists_eq_left', first,
                second, true_and]
              unfold tryConsume.consumeBoth
              dsimp only
              split
              · rename_i short
                exact ⟨nofun, fun held =>
                  absurd held.1 (UInt64.not_le.mpr short)⟩
              · rename_i inClass
                split
                · rename_i short
                  exact ⟨nofun, fun held =>
                    absurd held.2 (UInt64.not_le.mpr short)⟩
                · rename_i inWorkload
                  unfold TokenBucket.tryConsume
                  dsimp only
                  rw [TokenBucket.refill_refill, TokenBucket.refill_refill,
                    if_neg inClass, if_neg inWorkload]
                  exact iff_of_true rfl
                    ⟨UInt64.not_lt.mp inClass, UInt64.not_lt.mp inWorkload⟩
            · rw [if_neg (not_not.mpr first), if_pos second]
              refine ⟨nofun, ?_⟩
              rintro ⟨_, _, same, configured, _⟩
              cases same
              exact absurd configured second
          · rw [if_pos first]
            refine ⟨nofun, ?_⟩
            rintro ⟨⟨_, same, configured, _⟩, _⟩
            cases same
            exact absurd configured first

/-- A shortage in the bucket of the workload is dated by that bucket. -/
theorem tryConsume_short
    (classed : shaper.classes.lookup isolation = some classBucket)
    (contracted : shaper.workloads.lookup workload = some workloadBucket)
    (first : classBucket.configured = true)
    (second : workloadBucket.configured = true) {bytes : UInt64}
    (inClass : bytes ≤ (classBucket.refill now).tokens)
    (refused :
      (shaper.tryConsume isolation workload bytes now).1.admitted ≠ true) :
    (workloadBucket.refill now).tokens < bytes ∧
      (shaper.tryConsume isolation workload bytes now).1.retryAfter =
        now + (workloadBucket.refill now).timeUntil bytes ∧
      (shaper.tryConsume isolation workload bytes now).2.classes.lookup
          isolation = some (classBucket.refill now) ∧
      (shaper.tryConsume isolation workload bytes now).2.workloads.lookup
          workload = some (workloadBucket.refill now) := by
  by_cases short : (workloadBucket.refill now).tokens < bytes
  · refine ⟨short, ?_⟩
    unfold tryConsume
    rw [classed, contracted]
    dsimp only
    rw [if_neg (by simp [first]), if_neg (by simp [second])]
    unfold tryConsume.consumeBoth
    dsimp only
    rw [if_neg (UInt64.not_lt.mpr inClass), if_pos short]
    exact ⟨rfl, Table.lookup_replace_self (Table.mem_of_lookup classed),
      Table.lookup_replace_self (Table.mem_of_lookup contracted)⟩
  · refine absurd (tryConsume_admitted_iff.mpr ?_) refused
    exact ⟨⟨classBucket, classed, first, inClass⟩,
      ⟨workloadBucket, contracted, second, UInt64.not_lt.mp short⟩⟩

end RateShaper

/-! ## The request -/

/-- What the buckets of a session hold for it at a given time: the least chunk
in that of its class, and in that of its workload as much of the whole chunk
as the class then allows. -/
def Engine.Funds
    (engine : Engine) (session : SessionRecord) (useful whole : UInt64)
    (now : Nanos) : Prop :=
  ∃ classBucket,
    engine.shaper.classes.lookup session.envelope.isolation =
        some classBucket ∧
      classBucket.configured = true ∧
      useful ≤ (classBucket.refill now).tokens ∧
      RateShaper.Supply
        (engine.shaper.workloads.lookup session.request.workload)
        (min whole (classBucket.refill now).tokens) now

namespace ShardTarget

/-- The least chunk worth granting for a shard. -/
def usefulChunk (target : ShardTarget) : UInt64 :=
  min (Engine.remainingBytes target.shard) minGrantChunk

/-- The largest chunk that a shard is granted. -/
def wholeChunk (target : ShardTarget) : UInt64 :=
  min (Engine.remainingBytes target.shard) maxGrantChunk

theorem usefulChunk_le (target : ShardTarget) :
    target.usefulChunk.toNat ≤ target.wholeChunk.toNat := by
  unfold usefulChunk wholeChunk
  rw [Word.toNat_min, Word.toNat_min]
  exact min_le_min_left _ (by decide)

theorem wholeChunk_le (target : ShardTarget) :
    target.wholeChunk ≤ 1048576 := by
  unfold wholeChunk
  rw [UInt64.le_iff_toNat_le, Word.toNat_min]
  exact Nat.min_le_right _ _

variable {target : ShardTarget} {now later : Nanos}
  {classBucket workloadBucket : TokenBucket}

/-- Credit is granted exactly for what the buckets hold. -/
theorem requestCredit_granted_iff :
    (∃ reply, (target.requestCredit now).1 = .ok reply ∧
        reply.granted = true) ↔
      target.focus.engine.Funds target.focus.session target.usefulChunk
        target.wholeChunk now := by
  cases classed :
      target.focus.engine.shaper.classes.lookup
        target.focus.session.envelope.isolation with
  | none =>
      refine iff_of_false ?_ ?_
      · rintro ⟨reply, answered, granted⟩
        unfold requestCredit at answered
        dsimp only at answered
        split at answered
        · cases answered
          cases granted
        · split at answered
          · cases answered
            cases granted
          · rename_i admitted
            have supplied := RateShaper.tryConsume_admitted_iff.mp
              (not_not.mp admitted)
            obtain ⟨_, missing, _⟩ := supplied.1
            simp only [RateShaper.classTokensAt, RateShaper.refillClass,
              classed] at missing
            cases missing
      · rintro ⟨_, missing, _⟩
        cases classed.symm.trans missing
  | some classBucket =>
      obtain ⟨refilled, kept⟩ :=
        @RateShaper.refillClass_lookup _ _ _ now classed
      have funds :
          target.focus.engine.Funds target.focus.session target.usefulChunk
              target.wholeChunk now ↔
            classBucket.configured = true ∧
              target.usefulChunk ≤ (classBucket.refill now).tokens ∧
              RateShaper.Supply
                (target.focus.engine.shaper.workloads.lookup
                  target.focus.session.request.workload)
                (min target.wholeChunk (classBucket.refill now).tokens)
                now := by
        unfold Engine.Funds
        simp only [classed, Option.some_inj, exists_eq_left']
      rw [funds]
      unfold requestCredit
      dsimp only
      rw [RateShaper.classTokensAt_of_lookup classed]
      dsimp only
      have class_ (chunk : UInt64)
          (within : chunk ≤ (classBucket.refill now).tokens) :
          RateShaper.Supply
              ((target.focus.engine.shaper.refillClass
                target.focus.session.envelope.isolation now).classes.lookup
                  target.focus.session.envelope.isolation) chunk now ↔
            classBucket.configured = true := by
        unfold RateShaper.Supply
        rw [refilled]
        simp only [Option.some_inj, exists_eq_left',
          TokenBucket.refill_configured, TokenBucket.refill_refill, within,
          and_true]
      split
      · rename_i short
        refine iff_of_false ?_ ?_
        · rintro ⟨reply, answered, granted⟩
          cases answered
          cases granted
        · rintro ⟨_, enough, _⟩
          exact UInt64.not_lt.mpr enough short
      · rename_i enough
        have verdict :=
          @RateShaper.tryConsume_admitted_iff
            (target.focus.engine.shaper.refillClass
              target.focus.session.envelope.isolation now)
            target.focus.session.envelope.isolation
            target.focus.session.request.workload now
            (min target.wholeChunk (classBucket.refill now).tokens)
        rw [class_ _ Std.min_le_right, kept] at verdict
        split
        · rename_i refused
          refine iff_of_false ?_ ?_
          · rintro ⟨reply, answered, granted⟩
            cases answered
            cases granted
          · rintro ⟨configured, _, supplied⟩
            exact refused (verdict.mpr ⟨configured, supplied⟩)
        · rename_i admitted
          obtain ⟨configured, supplied⟩ := verdict.mp (not_not.mp admitted)
          exact iff_of_true ⟨_, rfl, rfl⟩
            ⟨configured, UInt64.not_lt.mp enough, supplied⟩

end ShardTarget

/-- A state of both buckets under which the promise of a retry is kept for
good: their clocks are not ahead, and what is missing in one of them comes
within a second while the other holds what the class can ever allow. -/
@[mk_iff]
structure RetryPromise
    (classBucket workloadBucket : TokenBucket) (useful whole : UInt64)
    (now : Nanos) : Prop where
  configured :
    classBucket.configured = true ∧ workloadBucket.configured = true
  since : 0 ≤ classBucket.lastNs ∧ 0 ≤ workloadBucket.lastNs
  current : classBucket.lastNs ≤ now ∧ workloadBucket.lastNs ≤ now
  dated : now.toInt + 1000000001 < 2 ^ 63
  bounded : classBucket.tokens ≤ classBucket.capacityBytes
  short :
    (classBucket.refill now).tokens < useful →
      (classBucket.refill now).Reaches useful ∧
        (workloadBucket.refill now).Covers
          (min whole classBucket.capacityBytes)
  enough :
    useful ≤ (classBucket.refill now).tokens →
      (classBucket.refill now).Covers (min whole classBucket.capacityBytes) ∧
        (workloadBucket.refill now).Reaches
          (min whole classBucket.capacityBytes)

instance
    (classBucket workloadBucket : TokenBucket) (useful whole : UInt64)
    (now : Nanos) :
    Decidable
      (RetryPromise classBucket workloadBucket useful whole now) :=
  decidable_of_iff _
    (retryPromise_iff classBucket workloadBucket useful whole now).symm

namespace ShardTarget

variable {target again : ShardTarget} {now later : Nanos}
  {classBucket workloadBucket : TokenBucket}

/-- At the promised time the buckets hold enough. -/
theorem retry_funded
    (classed :
      target.focus.engine.shaper.classes.lookup
        target.focus.session.envelope.isolation = some classBucket)
    (contracted :
      target.focus.engine.shaper.workloads.lookup
        target.focus.session.request.workload = some workloadBucket)
    (promise :
      RetryPromise classBucket workloadBucket target.usefulChunk
        target.wholeChunk now)
    (answered : (target.requestCredit now).1 = .ok outcome)
    (deferred : outcome.granted = false) {retry : Nanos}
    (promised : outcome.retryAfter = some retry) (due : retry ≤ later) :
    (target.requestCredit now).2.Funds target.focus.session
      target.usefulChunk target.wholeChunk later := by
  obtain ⟨first, second⟩ := promise.configured
  obtain ⟨refilled, kept⟩ :=
    @RateShaper.refillClass_lookup _ _ _ now classed
  have configured := (classBucket.refill_configured now).trans first
  have begun : 0 ≤ now := Int64.le_trans promise.since.1 promise.current.1
  have stamped := TokenBucket.refill_lastNs first promise.current.1
  have limited (time : Nanos) :
      min target.wholeChunk ((classBucket.refill now).refill time).tokens ≤
        min target.wholeChunk classBucket.capacityBytes := by
    have bounded := TokenBucket.refill_bounded
      (TokenBucket.refill_bounded promise.bounded now) time
    rw [TokenBucket.refill_capacityBytes,
      TokenBucket.refill_capacityBytes] at bounded
    rw [UInt64.le_iff_toNat_le, Word.toNat_min, Word.toNat_min]
    exact min_le_min_left _ (UInt64.le_iff_toNat_le.mp bounded)
  unfold requestCredit at answered ⊢
  dsimp only at answered ⊢
  rw [RateShaper.classTokensAt_of_lookup classed] at answered ⊢
  dsimp only at answered ⊢
  by_cases short : (classBucket.refill now).tokens < target.usefulChunk
  · obtain ⟨reaches, covers⟩ := promise.short short
    have small : target.usefulChunk ≤ 1048576 :=
      UInt64.le_trans (UInt64.le_iff_toNat_le.mpr target.usefulChunk_le)
        target.wholeChunk_le
    have shortage :
        (classBucket.refill now).tokens <
          min (Engine.remainingBytes target.shard) minGrantChunk := short
    rw [if_pos shortage] at answered ⊢
    rw [RateShaper.classTimeUntilAt_of_lookup refilled] at answered ⊢
    rw [TokenBucket.refill_refill] at answered
    cases answered
    cases promised
    obtain ⟨after, gained⟩ := reaches.refill configured begun promise.dated
      stamped short small due
    obtain ⟨again, same⟩ :=
      @RateShaper.refillClass_lookup _ _ _ now refilled
    rw [TokenBucket.refill_refill] at again
    refine ⟨classBucket.refill now, again, configured,
      UInt64.le_iff_toNat_le.mpr gained.tokens, workloadBucket, ?_, second,
      ?_⟩
    · change AList.lookup _ (RateShaper.refillClass _ _ now).workloads = _
      rw [same, kept]
      exact contracted
    · exact UInt64.le_trans (limited later) (UInt64.le_iff_toNat_le.mpr
        (covers.of_refill second promise.since.2 promise.current.2
          after).tokens)
  · obtain ⟨covers, reaches⟩ := promise.enough (UInt64.not_lt.mp short)
    have enough :
        ¬ (classBucket.refill now).tokens <
          min (Engine.remainingBytes target.shard) minGrantChunk := short
    have chunk :
        min (min (Engine.remainingBytes target.shard) maxGrantChunk)
            (classBucket.refill now).tokens =
          min target.wholeChunk classBucket.capacityBytes := by
      have most := limited now
      rw [TokenBucket.refill_refill] at most
      refine UInt64.le_antisymm most ?_
      rw [UInt64.le_iff_toNat_le, Word.toNat_min, Word.toNat_min]
      refine le_min (Nat.min_le_left _ _) ?_
      rw [← Word.toNat_min]
      exact covers.tokens
    rw [if_neg enough, chunk] at answered ⊢
    by_cases admitted :
        ((target.focus.engine.shaper.refillClass
          target.focus.session.envelope.isolation now).tryConsume
            target.focus.session.envelope.isolation
            target.focus.session.request.workload
            (min target.wholeChunk classBucket.capacityBytes)
            now).1.admitted = true
    · rw [if_neg (not_not.mpr admitted)] at answered
      cases answered
      cases deferred
    · rw [if_pos admitted] at answered ⊢
      obtain ⟨missing, wait, classes, workloads⟩ :=
        RateShaper.tryConsume_short refilled (kept ▸ contracted) configured
          second
          (by
            rw [TokenBucket.refill_refill]
            exact UInt64.le_iff_toNat_le.mpr covers.tokens) admitted
      rw [TokenBucket.refill_refill] at classes
      rw [wait] at answered
      cases answered
      cases promised
      have stamped_ := TokenBucket.refill_lastNs second promise.current.2
      have configured_ := (workloadBucket.refill_configured now).trans second
      obtain ⟨after, gained⟩ := reaches.refill configured_ begun
        promise.dated stamped_ missing
        (UInt64.le_trans Std.min_le_left target.wholeChunk_le) due
      have held : (classBucket.refill now).Covers target.usefulChunk := by
        refine ⟨?_, UInt64.le_iff_toNat_le.mp (UInt64.not_lt.mp short)⟩
        exact (UInt64.le_iff_toNat_le.mp (UInt64.not_lt.mp short)).trans
          (UInt64.le_iff_toNat_le.mp
            (TokenBucket.refill_bounded promise.bounded now))
      refine ⟨classBucket.refill now, classes, configured, ?_,
        workloadBucket.refill now, workloads, configured_, ?_⟩
      · exact UInt64.le_iff_toNat_le.mpr (held.refill configured
          (by rw [stamped]; exact after)).tokens
      · exact UInt64.le_trans (limited later)
          (UInt64.le_iff_toNat_le.mpr gained.tokens)

end ShardTarget

/-! ## Asking again -/

namespace Engine

variable {observed engine : Engine} {now later : Nanos} {id : SessionId}
  {fence : CommandFence} {focus : Focus}

/-- The guards on the session pass again before its deadline. -/
theorem creditHolder_again
    (stored : engine.sessions.lookup id = some focus.session)
    (authority : engine.authority = observed.authority)
    (passed : observed.creditHolder now id fence = .ok focus)
    (ahead : later < focus.session.envelope.deadlineTarget) :
    engine.creditHolder later id fence =
      .ok { focus with engine := engine } := by
  have status := checkFenceStatus_of_authority authority fence
  have contracts : engine.contracts = observed.contracts :=
    congrArg Authority.contracts authority
  have workload (session : SessionRecord) :
      engine.validateWorkloadFence session fence =
        observed.validateWorkloadFence session fence := by
    unfold validateWorkloadFence
    rw [contracts]
  simp only [creditHolder, workloadFencedSession, fencedSession, bind_eq_ok,
    requireSome_eq_ok, refuseWhen_eq_ok] at passed ⊢
  rcases passed with
    ⟨_, ⟨_, ⟨_, held, _, fabric, same⟩, _, agreed, same'⟩, _,
      generation, _, fresh, _, running, _, unsuperseded, _, active, _, _,
      same''⟩
  cases same
  cases same'
  cases same''
  rcases Engine.hold_eq_some.mp held with ⟨rfl, rfl, _⟩
  have again :
      engine.hold focus.key = some { focus with engine := engine } :=
    Engine.hold_eq_some.mpr ⟨rfl, rfl, stored⟩
  exact ⟨_, ⟨_, ⟨_, again, _, status.trans fabric, rfl⟩, _,
    (workload _).trans agreed, rfl⟩, _, generation, (), fresh, (), running,
    (), unsuperseded, (), active, (), Int64.not_le.mpr ahead, rfl⟩

/-- So do the guards on the shard. -/
theorem waveTarget_again
    (wanted : waveTarget focus index fence = .ok target) (engine : Engine) :
    waveTarget { focus with engine := engine } index fence =
      .ok { target with focus := { focus with engine := engine } } := by
  simp only [waveTarget, shardTarget, bind_eq_ok, requireSome_eq_ok,
    refuseWhen_eq_ok] at wanted ⊢
  rcases wanted with
    ⟨_, ⟨position, indexed, shard, listed, same⟩, _, unsettled, _, certain,
      _, unsequenced, _, unheld, _, some_, same'⟩
  cases same
  cases same'
  exact ⟨_, ⟨position, indexed, shard, listed, rfl⟩, (), unsettled, (),
    certain, (), unsequenced, (), unheld, (), some_, rfl⟩

/-- A request that passes the guards is one for credit. -/
theorem requestWave_of_guards
    (passed : (engine.observe now).creditHolder now id fence = .ok focus)
    (free :
      ¬ (engine.observe now).policy.maxAttemptsInFlight ≤
        (engine.observe now).accounting.activeAttempts)
    (wanted : waveTarget focus index fence = .ok target) :
    engine.requestWave now id index fence = target.requestCredit now := by
  unfold requestWave guarded
  dsimp only
  rw [passed]
  dsimp only
  rw [if_neg free, wanted]

/-- A request that is answered with a credit reason passed the guards. -/
theorem guards_of_requestWave
    (answered : (engine.requestWave now id index fence).1 = .ok outcome)
    (credit : outcome.reason ≠ .resourceLimit) :
    ∃ focus target,
      (engine.observe now).creditHolder now id fence = .ok focus ∧
        ¬ (engine.observe now).policy.maxAttemptsInFlight ≤
          (engine.observe now).accounting.activeAttempts ∧
        waveTarget focus index fence = .ok target := by
  unfold requestWave guarded at answered
  dsimp only at answered
  split at answered
  · cases answered
  · rename_i focus passed
    split at answered
    · cases answered
      exact absurd rfl credit
    · rename_i free
      split at answered
      · cases answered
      · rename_i target wanted
        exact ⟨focus, target, passed, free, wanted⟩

end Engine

/-- A request for credit changes the shaper only. -/
theorem ShardTarget.requestCredit_deferred
    {now : Nanos}
    (answered : (target.requestCredit now).1 = .ok outcome)
    (deferred : outcome.granted = false) :
    (target.requestCredit now).2 =
      { target.focus.engine with
        shaper := (target.requestCredit now).2.shaper } := by
  revert answered
  unfold ShardTarget.requestCredit
  dsimp only
  split
  · intro _
    rfl
  · split
    · intro _
      rfl
    · intro answered
      cases answered
      cases deferred

/-- A time for which a deferral gives its promise: not before the time it names
and before the deadline of the session. -/
structure WaveOutcome.Promises
    (outcome : WaveOutcome) (engine : Engine) (id : SessionId)
    (later : Nanos) : Prop where
  due : ∃ retry, outcome.retryAfter = some retry ∧ retry ≤ later
  ahead :
    ∀ session, engine.sessions.lookup id = some session →
      later < session.envelope.deadlineTarget

/-- What the engine that has put a request off must have at the time of its
retry: room for another attempt, and credit in both buckets. -/
def RetryCondition
    (engine : Engine) (now : Nanos) (id : SessionId) (index : ShardIndex)
    (fence : CommandFence) (later : Nanos) : Prop :=
  let left := (engine.requestWave now id index fence).2
  (left.observe later).accounting.activeAttempts <
      engine.policy.maxAttemptsInFlight ∧
    ∀ focus target,
      (engine.observe now).creditHolder now id fence = .ok focus →
        Engine.waveTarget focus index fence = .ok target →
          left.Funds focus.session target.usefulChunk target.wholeChunk later

section Retry

variable {engine : Engine} {now : Nanos} {id : SessionId} {index : ShardIndex}
  {fence : CommandFence} {outcome : WaveOutcome} {later : Nanos}
  {focus : Focus} {target : ShardTarget}

/-- The enforcement of deadlines leaves the buckets alone. -/
theorem Engine.funds_observe
    {session : SessionRecord} {useful whole : UInt64} (time : Nanos) :
    (engine.observe time).Funds session useful whole later ↔
      engine.Funds session useful whole later := by
  have quiet := engine.observe_quiet time
  have classes :
      (engine.observe time).shaper.classes.lookup
          session.envelope.isolation =
        engine.shaper.classes.lookup session.envelope.isolation :=
    quiet.bucket (.isolation session.envelope.isolation)
  have workloads :
      (engine.observe time).shaper.workloads.lookup session.request.workload =
        engine.shaper.workloads.lookup session.request.workload :=
    quiet.bucket (.workload session.request.workload)
  unfold Engine.Funds
  rw [classes, workloads]

/-- What a request that was put off for credit leaves behind. -/
theorem Engine.requestWave_deferred
    (passed : (engine.observe now).creditHolder now id fence = .ok focus)
    (free :
      ¬ (engine.observe now).policy.maxAttemptsInFlight ≤
        (engine.observe now).accounting.activeAttempts)
    (wanted : waveTarget focus index fence = .ok target)
    (answered : (engine.requestWave now id index fence).1 = .ok outcome)
    (deferred : outcome.granted = false) :
    (engine.requestWave now id index fence).2 =
      { engine.observe now with
        shaper := (target.requestCredit now).2.shaper } := by
  have held := (Engine.creditHolder_ok passed).1
  have same := (Engine.waveTarget_ok wanted).1
  rw [Engine.requestWave_of_guards passed free wanted] at answered ⊢
  rw [ShardTarget.requestCredit_deferred answered deferred, same, held.engine]

/-- A request that was put off for credit is granted at a later time before
the deadline exactly when there is room and credit by then. -/
theorem Engine.retry_granted_iff
    (answered : (engine.requestWave now id index fence).1 = .ok outcome)
    (deferred : outcome.granted = false)
    (credit : outcome.reason ≠ .resourceLimit)
    (ahead :
      ∀ session,
        (engine.requestWave now id index fence).2.sessions.lookup id =
            some session →
          later < session.envelope.deadlineTarget) :
    (∃ reply,
        ((engine.requestWave now id index fence).2.requestWave later id index
          fence).1 = .ok reply ∧ reply.granted = true) ↔
      RetryCondition engine now id index fence later := by
  obtain ⟨focus, target, passed, free, wanted⟩ :=
    Engine.guards_of_requestWave answered credit
  have held := (Engine.creditHolder_ok passed).1
  have active := (Engine.creditHolder_ok passed).2.1
  have kept :=
    Engine.requestWave_deferred passed free wanted answered deferred
  unfold RetryCondition
  dsimp only
  generalize (engine.requestWave now id index fence).2 = left at ahead kept ⊢
  have stored : left.sessions.lookup id = some focus.session := by
    rw [kept]
    exact held.lookup
  have still :
      (left.observe later).sessions.lookup id = some focus.session :=
    (Engine.enforceFrom_elapses later _ _).kept id focus.session stored
      active (ahead focus.session stored)
  have authority :
      (left.observe later).authority = (engine.observe now).authority := by
    rw [left.observe_authority later, kept]
    rfl
  have policy : (left.observe later).policy = engine.policy :=
    (congrArg Authority.policy authority).trans
      (congrArg Authority.policy (engine.observe_authority now))
  have again := Engine.creditHolder_again still authority passed
    (ahead focus.session stored)
  have shard := Engine.waveTarget_again wanted (left.observe later)
  by_cases room :
      engine.policy.maxAttemptsInFlight ≤
        (left.observe later).accounting.activeAttempts
  · refine iff_of_false ?_
      (fun condition => UInt32.not_lt.mpr room condition.1)
    rintro ⟨reply, answered, granted⟩
    unfold Engine.requestWave Engine.guarded at answered
    dsimp only at answered
    rw [again] at answered
    dsimp only at answered
    rw [policy, if_pos room] at answered
    cases answered
    cases granted
  · have free_ :
        ¬ (left.observe later).policy.maxAttemptsInFlight ≤
          (left.observe later).accounting.activeAttempts := by
      rw [policy]
      exact room
    rw [Engine.requestWave_of_guards again free_ shard,
      ShardTarget.requestCredit_granted_iff]
    change (left.observe later).Funds focus.session target.usefulChunk
      target.wholeChunk later ↔ _
    rw [Engine.funds_observe later]
    constructor
    · intro funds
      refine ⟨UInt32.not_le.mp room, ?_⟩
      intro other wanted_ holds found
      cases passed.symm.trans holds
      cases wanted.symm.trans found
      exact funds
    · intro condition
      exact condition.2 focus target passed wanted

end Retry

/-- The buckets that a request for credit draws on allow its retry. -/
def Engine.AllowsRetry
    (engine : Engine) (now : Nanos) (id : SessionId) (index : ShardIndex)
    (fence : CommandFence) : Prop :=
  ∀ focus, (engine.observe now).creditHolder now id fence = .ok focus →
    ∀ target, Engine.waveTarget focus index fence = .ok target →
      ∃ classBucket workloadBucket,
        (engine.observe now).shaper.classes.lookup
            focus.session.envelope.isolation = some classBucket ∧
          (engine.observe now).shaper.workloads.lookup
              focus.session.request.workload = some workloadBucket ∧
          RetryPromise classBucket workloadBucket target.usefulChunk
            target.wholeChunk now

/-- A condition on the buckets at the time of the deferral alone, which is
enough as long as no deadline falls due. -/
theorem Engine.AllowsRetry.condition
    {engine : Engine} {now later : Nanos} {id : SessionId}
    {index : ShardIndex} {fence : CommandFence} {outcome : WaveOutcome}
    (allows : engine.AllowsRetry now id index fence)
    (answered : (engine.requestWave now id index fence).1 = .ok outcome)
    (deferred : outcome.granted = false)
    (credit : outcome.reason ≠ .resourceLimit)
    (undue : (engine.requestWave now id index fence).2.Undue later)
    (promised :
      outcome.Promises (engine.requestWave now id index fence).2 id later) :
    RetryCondition engine now id index fence later := by
  obtain ⟨focus, target, passed, free, wanted⟩ :=
    Engine.guards_of_requestWave answered credit
  have held := (Engine.creditHolder_ok passed).1
  have same := (Engine.waveTarget_ok wanted).1
  have kept :=
    Engine.requestWave_deferred passed free wanted answered deferred
  have policy : (engine.observe now).policy = engine.policy :=
    congrArg Authority.policy (engine.observe_authority now)
  constructor
  · rw [undue.observe, kept]
    rw [policy] at free
    exact UInt32.not_le.mp free
  · intro other wanted_ holds found
    cases passed.symm.trans holds
    cases wanted.symm.trans found
    obtain ⟨classBucket, workloadBucket, classed, contracted, promise⟩ :=
      allows focus passed target wanted
    obtain ⟨retry, named, due⟩ := promised.due
    have engine_ : target.focus.engine = engine.observe now := by
      rw [same, held.engine]
    rw [← engine_, ← same] at classed contracted
    rw [Engine.requestWave_of_guards passed free wanted] at answered ⊢
    have funded := ShardTarget.retry_funded classed contracted promise
      answered deferred named due
    rw [same] at funded
    exact funded

/-- The sample deployment with a narrow class. -/
def narrowConfig : EngineConfig :=
  { Sample.config with
    policy :=
      { Sample.policy 1 with
        envelopes :=
          [{ isolation := .trainingCritical, ceilingBps := 1000000000 },
            { isolation := .servingLatency, ceilingBps := 1000000000 },
            { isolation := .trainingBulk, ceilingBps := 1000 },
            { isolation := .bestEffort, ceilingBps := 1000000000 }] } }

/-- A session whose first shard has been granted what the class holds. -/
def drainedScript : List (Nanos × Command) :=
  [(1, .submitSession (Sample.request 2 [80, 80]) (Sample.fence 1)),
    (2, .requestWave ⟨Sample.drawn 0⟩ ⟨0⟩ (Sample.fence 1))]

def drainedEngine : Engine :=
  ((Engine.construct narrowConfig 0).executeAll drainedScript).2

/-- A session whose shard is larger than the bucket of its class. -/
def oversizedScript : List (Nanos × Command) :=
  [(1, .submitSession (Sample.request 2 [2000]) (Sample.fence 1))]

def oversizedEngine : Engine :=
  ((Engine.construct narrowConfig 0).executeAll oversizedScript).2

/-- What an answer says of credit. -/
def WaveOutcome.credit (outcome : WaveOutcome) :
    Bool × ReasonCode × Option Nanos :=
  (outcome.granted, outcome.reason, outcome.retryAfter)

/-- One evaluation of the drained run: its buckets allow a retry, the request is
put off, and the only deadline is that of its session. -/
theorem drainedEngine_evaluated :
    ((drainedEngine.observe 3).creditHolder 3 ⟨Sample.drawn 0⟩
        (Sample.fence 1)).toOption.all (fun focus =>
      (Engine.waveTarget focus ⟨1⟩ (Sample.fence 1)).toOption.all
        (fun target =>
          ((drainedEngine.observe 3).shaper.classes.lookup
              focus.session.envelope.isolation).any (fun classBucket =>
            ((drainedEngine.observe 3).shaper.workloads.lookup
                focus.session.request.workload).any (fun workloadBucket =>
              RetryPromise classBucket workloadBucket target.usefulChunk
                target.wholeChunk 3)))) = true ∧
      (drainedEngine.requestWave 3 ⟨Sample.drawn 0⟩ ⟨1⟩
          (Sample.fence 1)).1.toOption.map WaveOutcome.credit =
        some (false, .classCeilingSaturated, some 60000004) ∧
      (drainedEngine.requestWave 3 ⟨Sample.drawn 0⟩ ⟨1⟩
          (Sample.fence 1)).2.deadlines.head?.map Prod.fst =
        some 300000000001 ∧
      ((drainedEngine.requestWave 3 ⟨Sample.drawn 0⟩ ⟨1⟩
          (Sample.fence 1)).2.sessions.lookup ⟨Sample.drawn 0⟩).map
          (fun session => session.envelope.deadlineTarget) =
        some 300000000001 := by
  decide +kernel

theorem drainedEngine_allowsRetry :
    drainedEngine.AllowsRetry 3 ⟨Sample.drawn 0⟩ ⟨1⟩ (Sample.fence 1) := by
  have evaluated := drainedEngine_evaluated.1
  intro focus passed target wanted
  rw [passed] at evaluated
  simp only [Except.toOption, Option.all_some] at evaluated
  rw [wanted] at evaluated
  simp only [Option.all_some] at evaluated
  cases classed :
      (drainedEngine.observe 3).shaper.classes.lookup
        focus.session.envelope.isolation with
  | none =>
      rw [classed] at evaluated
      cases evaluated
  | some classBucket =>
      rw [classed, Option.any_some] at evaluated
      cases contracted :
          (drainedEngine.observe 3).shaper.workloads.lookup
            focus.session.request.workload with
      | none =>
          rw [contracted] at evaluated
          cases evaluated
      | some workloadBucket =>
          rw [contracted, Option.any_some, decide_eq_true_eq] at evaluated
          exact ⟨classBucket, workloadBucket, rfl, rfl, evaluated⟩

end TrafficFabric
