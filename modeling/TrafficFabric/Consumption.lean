import TrafficFabric.Accrual

/-!
# Consuming from two buckets

`RateShaper::try_consume` refills both buckets to compare them with the
request, and consumption refills each of them again.  A second refill at the
same reading does nothing, so both consumptions succeed after the comparison,
and the request takes its bytes from both buckets or from neither.  No
operation leaves a bucket above its capacity.
-/

namespace TrafficFabric

open Foundation

variable {bucket fresh : TokenBucket} {now : Nanos} {bytes : UInt64}

/-! ## Calls -/

/-- The calls that change a shaper. -/
inductive ShaperCall where
  | configureClass (isolation : IsolationClass) (ceilingBps : UInt64)
      (burstWindowNs now : Nanos)
  | configureWorkload (workload : WorkloadId) (ceilingBps : UInt64)
      (burstWindowNs now : Nanos)
  | dropWorkload (workload : WorkloadId)
  | reservePathRate (path : PathClassId) (rateBps : UInt64)
  | releasePathRate (path : PathClassId) (rateBps : UInt64)
  | tryConsume (isolation : IsolationClass) (workload : WorkloadId)
      (bytes : UInt64) (now : Nanos)
  | release (isolation : IsolationClass) (workload : WorkloadId)
      (bytes : UInt64) (now : Nanos)
  | classTokensAt (isolation : IsolationClass) (now : Nanos)
  | workloadTokensAt (workload : WorkloadId) (now : Nanos)
  | classTimeUntilAt (isolation : IsolationClass) (bytes : UInt64)
      (now : Nanos)

/-- The shaper after a call. -/
def RateShaper.call (shaper : RateShaper) : ShaperCall → RateShaper
  | .configureClass isolation ceilingBps burstWindowNs now =>
      shaper.configureClass isolation ceilingBps burstWindowNs now
  | .configureWorkload workload ceilingBps burstWindowNs now =>
      shaper.configureWorkload workload ceilingBps burstWindowNs now
  | .dropWorkload workload => shaper.dropWorkload workload
  -- a reservation that would overflow is refused
  | .reservePathRate path rateBps =>
      (shaper.reservePathRate path rateBps).getD shaper
  | .releasePathRate path rateBps => shaper.releasePathRate path rateBps
  | .tryConsume isolation workload bytes now =>
      (shaper.tryConsume isolation workload bytes now).2
  | .release isolation workload bytes now =>
      shaper.release isolation workload bytes now
  | .classTokensAt isolation now => (shaper.classTokensAt isolation now).2
  | .workloadTokensAt workload now =>
      (shaper.workloadTokensAt workload now).2
  | .classTimeUntilAt isolation bytes now =>
      (shaper.classTimeUntilAt isolation bytes now).2

/-! ## What a request does -/

namespace TokenBucket

/-- A bucket that holds no more than its capacity. -/
def Bounded (bucket : TokenBucket) : Prop :=
  bucket.tokens ≤ bucket.capacityBytes

theorem Bounded.refill
    (bounded : bucket.Bounded) (now : Nanos) :
    (bucket.refill now).Bounded := by
  rcases bucket.refill_cases now with
    ⟨same, _⟩ | ⟨_, tokens, same, _, capped⟩
  · rw [same]
    exact bounded
  · rw [same]
    exact capped bounded

/-- A bucket that holds no more than its capacity is not lowered by a
refill. -/
theorem Bounded.le_refill
    (bounded : bucket.Bounded) (now : Nanos) :
    bucket.tokens ≤ (bucket.refill now).tokens := by
  unfold TokenBucket.refill
  split
  · exact UInt64.le_refl _
  dsimp only
  split
  · exact UInt64.le_refl _
  split
  · exact bounded
  · rename_i room
    obtain ⟨below, fits⟩ := not_or.mp room
    have less := UInt64.not_le.mp below
    have bound := UInt64.lt_iff_toNat_lt.mp (UInt64.not_le.mp fits)
    rw [UInt64.toNat_sub_of_le _ _ (UInt64.le_of_lt less)] at bound
    have size := bucket.capacityBytes.toNat_lt
    rw [UInt64.le_iff_toNat_le, Word.toNat_add_of_lt (by omega)]
    exact Nat.le_add_right _ _

theorem Bounded.release
    (bytes : UInt64) :
    (bucket.release bytes).Bounded := by
  unfold TokenBucket.release
  split
  · exact UInt64.le_refl _
  · rename_i room
    obtain ⟨below, fits⟩ := not_or.mp room
    have less := UInt64.not_le.mp below
    have bound := UInt64.lt_iff_toNat_lt.mp (UInt64.not_le.mp fits)
    rw [UInt64.toNat_sub_of_le _ _ (UInt64.le_of_lt less)] at bound
    have size := bucket.capacityBytes.toNat_lt
    change bucket.tokens + bytes ≤ bucket.capacityBytes
    rw [UInt64.le_iff_toNat_le, Word.toNat_add_of_lt (by omega)]
    omega

/-- The bucket with some bytes taken from its refilled level. -/
def lowered (bucket : TokenBucket) (now : Nanos) (bytes : UInt64) :
    TokenBucket :=
  { bucket.refill now with tokens := (bucket.refill now).tokens - bytes }

theorem tryConsume_refilled
    (available : ¬ (bucket.refill now).tokens < bytes) :
    (bucket.refill now).tryConsume now bytes =
      (true, bucket.lowered now bytes) := by
  unfold TokenBucket.tryConsume
  rw [bucket.refill_refill]
  exact if_neg available

theorem lowered_tokens
    (available : ¬ (bucket.refill now).tokens < bytes) :
    (bucket.lowered now bytes).tokens.toNat + bytes.toNat =
      (bucket.refill now).tokens.toNat := by
  have enough := UInt64.not_lt.mp available
  have left := UInt64.toNat_sub_of_le _ _ enough
  have fits := UInt64.le_iff_toNat_le.mp enough
  change ((bucket.refill now).tokens - bytes).toNat + _ = _
  omega

theorem Bounded.lowered
    (bounded : bucket.Bounded)
    (available : ¬ (bucket.refill now).tokens < bytes) :
    (bucket.lowered now bytes).Bounded := by
  have kept := UInt64.le_iff_toNat_le.mp (bounded.refill now)
  have taken := lowered_tokens available
  change (bucket.lowered now bytes).tokens ≤ (bucket.refill now).capacityBytes
  rw [UInt64.le_iff_toNat_le]
  omega

end TokenBucket

/-- The answers to a request for bytes: the shaper as it was, both buckets
refilled, or both of them lowered. -/
inductive RateShaper.Consumption
    (shaper : RateShaper) (isolation : IsolationClass)
    (workload : WorkloadId) (bytes : UInt64) (now : Nanos) :
    ShaperVerdict × RateShaper → Prop
  | unconfigured {verdict : ShaperVerdict}
      (refused : verdict.admitted = false)
      (agreed : verdict.reason ≠ .creditUnavailable) :
      Consumption shaper isolation workload bytes now (verdict, shaper)
  | short {verdict : ShaperVerdict} {first second : TokenBucket}
      (classed : shaper.classes.lookup isolation = some first)
      (contracted : shaper.workloads.lookup workload = some second)
      (refused : verdict.admitted = false)
      (agreed : verdict.reason ≠ .creditUnavailable) :
      Consumption shaper isolation workload bytes now
        (verdict,
          { shaper with
            classes := shaper.classes.replace isolation (first.refill now)
            workloads :=
              shaper.workloads.replace workload (second.refill now) })
  | admitted {first second : TokenBucket}
      (classed : shaper.classes.lookup isolation = some first)
      (contracted : shaper.workloads.lookup workload = some second)
      (inClass : ¬ (first.refill now).tokens < bytes)
      (inWorkload : ¬ (second.refill now).tokens < bytes) :
      Consumption shaper isolation workload bytes now
        ({ admitted := true, reason := .admitted },
          { shaper with
            classes :=
              shaper.classes.replace isolation (first.lowered now bytes)
            workloads :=
              shaper.workloads.replace workload (second.lowered now bytes) })

namespace RateShaper

variable (shaper : RateShaper) (isolation : IsolationClass)
  (workload : WorkloadId) (bytes : UInt64) (now : Nanos)

theorem tryConsume_consumption :
    shaper.Consumption isolation workload bytes now
      (shaper.tryConsume isolation workload bytes now) := by
  unfold tryConsume
  split
  · exact .unconfigured rfl nofun
  rename_i first classed
  split
  · exact .unconfigured rfl nofun
  split
  · exact .unconfigured rfl nofun
  rename_i second contracted
  split
  · exact .unconfigured rfl nofun
  unfold tryConsume.consumeBoth
  dsimp only
  split
  · exact .short classed contracted rfl nofun
  rename_i inClass
  split
  · exact .short classed contracted rfl nofun
  rename_i inWorkload
  -- both consumptions see the levels that were just compared
  rw [TokenBucket.tryConsume_refilled inClass,
    TokenBucket.tryConsume_refilled inWorkload, if_neg (by simp)]
  exact .admitted classed contracted inClass inWorkload

end RateShaper

/-! ## Runs -/

/-- Every bucket of a table holds no more than its capacity. -/
def BoundedTable
    {Key : Type} [DecidableEq Key] (table : Table Key TokenBucket) : Prop :=
  ∀ key bucket, table.lookup key = some bucket → bucket.Bounded

namespace BoundedTable

variable {Key : Type} [DecidableEq Key] {table : Table Key TokenBucket}

theorem replace
    (bounded : BoundedTable table) (own : Key)
    (fits : fresh.Bounded) :
    BoundedTable (table.replace own fresh) := by
  intro key bucket found
  by_cases same : key = own
  · subst same
    by_cases present : key ∈ table
    · rw [Table.lookup_replace_self present] at found
      cases found
      exact fits
    · rw [Table.replace_of_not_mem present] at found
      exact bounded key bucket found
  · rw [Table.lookup_replace_ne same] at found
    exact bounded key bucket found

theorem insert
    (bounded : BoundedTable table) (own : Key)
    (fits : fresh.Bounded) :
    BoundedTable (table.insert own fresh) := by
  intro key bucket found
  by_cases same : key = own
  · subst same
    rw [AList.lookup_insert] at found
    cases found
    exact fits
  · rw [AList.lookup_insert_ne same] at found
    exact bounded key bucket found

theorem erase (bounded : BoundedTable table) (own : Key) :
    BoundedTable (table.erase own) := by
  intro key bucket found
  by_cases same : key = own
  · subst same
    rw [AList.lookup_erase] at found
    cases found
  · rw [AList.lookup_erase_ne same] at found
    exact bounded key bucket found

end BoundedTable

/-- No bucket of the shaper holds more than its capacity. -/
structure RateShaper.Bounded (shaper : RateShaper) : Prop where
  classes : BoundedTable shaper.classes
  workloads : BoundedTable shaper.workloads

namespace RateShaper.Bounded

variable {shaper : RateShaper}

theorem refillClass
    (bounded : shaper.Bounded) (isolation : IsolationClass) (now : Nanos) :
    (shaper.refillClass isolation now).Bounded := by
  unfold RateShaper.refillClass
  split
  · exact bounded
  · rename_i bucket found
    exact
      ⟨bounded.classes.replace isolation
          ((bounded.classes isolation bucket found).refill now),
        bounded.workloads⟩

theorem consumption
    (bounded : shaper.Bounded) {isolation : IsolationClass}
    {workload : WorkloadId}
    {answer : ShaperVerdict × RateShaper}
    (consumed : shaper.Consumption isolation workload bytes now answer) :
    answer.2.Bounded := by
  cases consumed with
  | unconfigured =>
      exact bounded
  | short classed contracted =>
      exact
        ⟨bounded.classes.replace isolation
            ((bounded.classes _ _ classed).refill now),
          bounded.workloads.replace workload
            ((bounded.workloads _ _ contracted).refill now)⟩
  | admitted classed contracted inClass inWorkload =>
      exact
        ⟨bounded.classes.replace isolation
            ((bounded.classes _ _ classed).lowered inClass),
          bounded.workloads.replace workload
            ((bounded.workloads _ _ contracted).lowered inWorkload)⟩

theorem release
    (bounded : shaper.Bounded) (isolation : IsolationClass)
    (workload : WorkloadId) (bytes : UInt64) (now : Nanos) :
    (shaper.release isolation workload bytes now).Bounded := by
  unfold RateShaper.release
  constructor
  · dsimp only
    split
    · exact bounded.classes
    · exact bounded.classes.replace isolation (.release bytes)
  · dsimp only
    split
    · exact bounded.workloads
    · exact bounded.workloads.replace workload (.release bytes)

theorem workloadTokensAt
    (bounded : shaper.Bounded) (workload : WorkloadId) (now : Nanos) :
    (shaper.workloadTokensAt workload now).2.Bounded := by
  unfold RateShaper.workloadTokensAt
  split
  · exact bounded
  · rename_i bucket found
    exact
      ⟨bounded.classes,
        bounded.workloads.replace workload
          ((bounded.workloads workload bucket found).refill now)⟩

/-- Every call leaves every bucket within its capacity. -/
theorem call (bounded : shaper.Bounded) (call : ShaperCall) :
    (shaper.call call).Bounded := by
  cases call with
  | configureClass isolation =>
      exact
        ⟨bounded.classes.insert isolation (UInt64.le_refl _),
          bounded.workloads⟩
  | configureWorkload workload =>
      exact
        ⟨bounded.classes,
          bounded.workloads.insert workload (UInt64.le_refl _)⟩
  | dropWorkload workload =>
      exact ⟨bounded.classes, bounded.workloads.erase workload⟩
  | reservePathRate =>
      unfold RateShaper.call RateShaper.reservePathRate
      dsimp only
      split
      · exact ⟨bounded.classes, bounded.workloads⟩
      · split
        · exact bounded
        · exact ⟨bounded.classes, bounded.workloads⟩
  | releasePathRate =>
      unfold RateShaper.call RateShaper.releasePathRate
      dsimp only
      split
      · exact bounded
      · exact ⟨bounded.classes, bounded.workloads⟩
  | tryConsume isolation workload bytes now =>
      exact bounded.consumption
        (shaper.tryConsume_consumption isolation workload bytes now)
  | release isolation workload bytes now =>
      exact bounded.release isolation workload bytes now
  | classTokensAt isolation now =>
      unfold RateShaper.call RateShaper.classTokensAt
      dsimp only
      split <;> exact bounded.refillClass isolation now
  | workloadTokensAt workload now =>
      exact bounded.workloadTokensAt workload now
  | classTimeUntilAt isolation _ now =>
      unfold RateShaper.call RateShaper.classTimeUntilAt
      dsimp only
      split <;> exact bounded.refillClass isolation now

theorem run (bounded : shaper.Bounded) (calls : List ShaperCall) :
    (calls.foldl RateShaper.call shaper).Bounded := by
  induction calls generalizing shaper with
  | nil =>
      exact bounded
  | cons call _ ih =>
      exact ih (bounded.call call)

theorem initial : RateShaper.Bounded {} :=
  ⟨nofun, nofun⟩

end RateShaper.Bounded

/-- An entry is present after a call as it was, or refilled. -/
def Unlowered (now : Nanos) (before after : Option TokenBucket) : Prop :=
  after = before ∨ after = before.map (TokenBucket.refill · now)

/-- From any state of the shaper a request takes its bytes from both buckets
at their refilled levels, or it is refused and takes nothing from either, and
the two buckets never disagree.  In a shaper that was made by its own calls no
bucket is above its capacity, so that a refill lowers none of them either. -/
theorem consumption_is_atomic
    (shaper : RateShaper) (isolation : IsolationClass)
    (workload : WorkloadId) (bytes : UInt64) (now : Nanos) :
    let answer := shaper.tryConsume isolation workload bytes now
    ((answer.1.admitted = true ∧
          ∃ first second first' second' : TokenBucket,
            shaper.classes.lookup isolation = some first ∧
              shaper.workloads.lookup workload = some second ∧
              answer.2.classes.lookup isolation = some first' ∧
              answer.2.workloads.lookup workload = some second' ∧
              first'.tokens.toNat + bytes.toNat =
                (first.refill now).tokens.toNat ∧
              second'.tokens.toNat + bytes.toNat =
                (second.refill now).tokens.toNat) ∨
        (answer.1.admitted = false ∧
          Unlowered now (shaper.classes.lookup isolation)
            (answer.2.classes.lookup isolation) ∧
          Unlowered now (shaper.workloads.lookup workload)
            (answer.2.workloads.lookup workload))) ∧
      answer.1.reason ≠ .creditUnavailable ∧
      ∀ calls : List ShaperCall,
        let reached := calls.foldl RateShaper.call {}
        ∀ bucket : TokenBucket,
          (∃ key, reached.classes.lookup key = some bucket) ∨
              (∃ key, reached.workloads.lookup key = some bucket) →
            bucket.tokens ≤ bucket.capacityBytes ∧
              bucket.tokens ≤ (bucket.refill now).tokens := by
  intro answer
  have consumed : shaper.Consumption isolation workload bytes now answer :=
    shaper.tryConsume_consumption isolation workload bytes now
  clear_value answer
  refine ⟨?_, ?_, ?_⟩
  · cases consumed with
    | unconfigured refused =>
        exact .inr ⟨refused, .inl rfl, .inl rfl⟩
    | short classed contracted refused =>
        refine .inr ⟨refused, .inr ?_, .inr ?_⟩
        · rw [Table.lookup_replace_self (Table.mem_of_lookup classed),
            classed]
          rfl
        · rw [Table.lookup_replace_self (Table.mem_of_lookup contracted),
            contracted]
          rfl
    | admitted classed contracted inClass inWorkload =>
        exact .inl
          ⟨rfl, _, _, _, _, classed, contracted,
            Table.lookup_replace_self (Table.mem_of_lookup classed),
            Table.lookup_replace_self (Table.mem_of_lookup contracted),
            TokenBucket.lowered_tokens inClass,
            TokenBucket.lowered_tokens inWorkload⟩
  · cases consumed with
    | unconfigured _ agreed =>
        exact agreed
    | short _ _ _ agreed =>
        exact agreed
    | admitted =>
        exact nofun
  · intro calls reached bucket present
    have bounded := RateShaper.Bounded.initial.run calls
    have fits : bucket.Bounded := by
      rcases present with ⟨key, found⟩ | ⟨key, found⟩
      · exact bounded.classes key bucket found
      · exact bounded.workloads key bucket found
    exact ⟨fits, fits.le_refill now⟩

end TrafficFabric
