import TrafficFabric.Engine.Feasibility
import TrafficFabric.Engine.Retries
import TrafficFabric.Engine.Terms
import TrafficFabric.Foundation.Failures

/-!
# Deadlines and retry times

Deadlines are the current time plus a horizon, and times to retry the current
time plus the defer horizon or an estimated wait.  Horizons are any positive
times, so the sums of those can leave the range of a time; the estimates are
bounded, and their sums cannot.
-/

namespace TrafficFabric

open Foundation

variable {made : AdmissionDecision} {retry now : Nanos} {id : SessionId}
  {outcome : WaveOutcome} {engine : Engine} {command : Command}

/-- The time at which an answer says to ask again. -/
def Response.retryAfter : Response → Option Nanos
  | .decision (.ok made) => made.retryAfter
  | .wave (.ok outcome) => outcome.retryAfter
  | _ => none

/-! ## Deferred decisions -/

/-- The rejection defers to the given time, if it defers. -/
def Rejection.RetriesAt (time : Nanos) : Rejection → Prop
  | .deferred _ _ retry => retry = time
  | _ => True

section

variable {engine : Engine} {now : Nanos} {request : SessionRequest}
  {fence : CommandFence}

theorem Engine.planRate_retries
    (contract : WorkloadContract) (envelope : IsolationEnvelopeConfig)
    (path : PathClass) :
    FailsWith
      (fun refusal : RateRefusal =>
        refusal.retryAfter.getD (now + engine.policy.deferHorizonNs) =
          now + engine.policy.deferHorizonNs)
      (engine.planRate request contract envelope path now) := by
  unfold Engine.planRate
  exact .bind (.refuse rfl) fun _ => .bind (.refuse rfl) fun _ =>
    .bind (.refuse rfl) fun _ => .bind (.refuse rfl) fun _ =>
    .bind (.refuse rfl) fun _ => .ok _

theorem Engine.submissionFenced_retries (time : Nanos) :
    FailsWith (Rejection.RetriesAt time)
      (engine.submissionFenced request fence) := by
  unfold Engine.submissionFenced
  refine .bind ?_ fun _ => .bind (.refuse trivial) fun _ =>
    .bind (.refuse trivial) fun _ => .bind (.refuse trivial) fun _ => ?_
  · unfold refusing
    split
    · exact .error trivial
    · exact .ok _
  · split
    · exact .ok _
    · exact .bind (.refuse trivial) fun _ => .error trivial

theorem Engine.supersedeTargets_retries
    (time : Nanos) (ids : List SessionId) :
    FailsWith (Rejection.RetriesAt time)
      (engine.supersedeTargets request ids) := by
  induction ids with
  | nil =>
      exact .ok _
  | cons _ _ hypothesis =>
      unfold Engine.supersedeTargets
      split
      · exact hypothesis
      · refine .bind (.refuse trivial) fun _ => ?_
        split
        · exact hypothesis
        · exact .bind (.refuse trivial) fun _ => .bind (.refuse trivial)
            fun _ => .bind hypothesis fun _ => .ok _

/-- Submissions are deferred by the defer horizon. -/
theorem Engine.admissionPlan_retries :
    FailsWith
      (Rejection.RetriesAt (now + engine.policy.deferHorizonNs))
      (engine.admissionPlan now request fence) := by
  unfold Engine.admissionPlan
  refine .bind (Engine.submissionFenced_retries _) fun _ =>
    .bind (.refuse trivial) fun _ => .bind (.require trivial) fun contract =>
    .bind (.refuse trivial) fun _ => .bind ?_ fun _ =>
    .bind (.require trivial) fun envelope => .bind (.require trivial)
      fun _ => .bind (.refuse trivial) fun _ => .bind (.require trivial)
      fun path => .bind (Engine.supersedeTargets_retries _ _) fun _ =>
    .bind (.refuse trivial) fun _ => .bind (.refuse trivial) fun _ =>
    .bind (.refuse trivial) fun _ => .bind ?_ fun _ => ?_
  · unfold Engine.manifestAccepted denyingManifest
    refine .bind ?_ fun _ => .refuse trivial
    split
    · exact .error trivial
    · exact .ok _
  · unfold Engine.boundsAvailable
    exact .bind (.refuse rfl) fun _ => .bind (.refuse rfl) fun _ =>
      .refuse rfl
  · split
    · rename_i refusal refused
      refine .error ?_
      have retries :=
        Engine.planRate_retries contract envelope path refusal refused
      unfold Engine.rateRejection
      split
      · trivial
      · exact retries
    · exact .ok _

theorem Engine.submitSession_retryAfter
    (answered : (engine.submitSession now request fence).1 = .ok made)
    (later : made.retryAfter = some retry) :
    retry = now + engine.policy.deferHorizonNs := by
  have policy : (engine.observe now).policy = engine.policy :=
    congrArg Authority.policy (engine.observe_authority now)
  unfold Engine.submitSession at answered
  dsimp only at answered
  split at answered
  · rename_i rejection rejected
    have retries := Engine.admissionPlan_retries rejection rejected
    rw [policy] at retries
    cases rejection with
    | deferred =>
        cases answered
        cases later
        exact retries
    | _ =>
        cases answered <;> cases later
  · unfold Engine.commitAdmission at answered
    dsimp only at answered
    split at answered
    · cases answered
      cases later
    · cases answered
      cases later

theorem Engine.revalidateSession_retryAfter
    (answered : (engine.revalidateSession now id fence).1 = .ok made)
    (later : made.retryAfter = some retry) :
    retry = now + engine.policy.deferHorizonNs := by
  have policy : (engine.observe now).policy = engine.policy :=
    congrArg Authority.policy (engine.observe_authority now)
  unfold Engine.revalidateSession Engine.guarded at answered
  dsimp only at answered
  split at answered
  · cases answered
  · rename_i focus passed
    have same := (Engine.revalidationTarget_ok passed).1.engine
    unfold Focus.revalidate at answered
    dsimp only at answered
    split at answered
    · cases answered
      cases later
    · split at answered
      · rename_i contract known envelope path configured found
        split at answered
        · rename_i refusal refused
          split at answered
          · cases answered
            cases later
          · cases answered
            cases later
            rw [Engine.planRate_retries _ _ _ refusal refused, same, policy]
        · unfold Focus.readmit at answered
          dsimp only at answered
          split at answered
          · cases answered
          · cases answered
            cases later
      · cases answered
        cases later

end

/-! ## Deferred credit -/

/-- Both buckets that a session draws on are configured and flow. -/
def Engine.Supplied (engine : Engine) (session : SessionRecord) : Prop :=
  ∃ classBucket workloadBucket,
    (engine.shaper.classes.lookup session.envelope.isolation =
        some classBucket ∧
      engine.shaper.workloads.lookup session.request.workload =
        some workloadBucket) ∧
    (classBucket.configured = true ∧ classBucket.rateBps ≠ 0) ∧
    workloadBucket.configured = true ∧ workloadBucket.rateBps ≠ 0

namespace TokenBucket

variable {bucket : TokenBucket}

theorem refill_rateBps (bucket : TokenBucket) (now : Nanos) :
    (bucket.refill now).rateBps = bucket.rateBps := by
  rcases bucket.refill_cases now with ⟨same, _⟩ | ⟨_, tokens, same, _⟩
  · rw [same]
  · rw [same]

/-- The estimate for a chunk is positive and less than a month. -/
theorem timeUntil_bounds
    {bytes : UInt64} (configured : bucket.configured = true)
    (flows : bucket.rateBps ≠ 0) (short : bucket.tokens < bytes)
    (small : bytes ≤ 1048576) :
    0 < bucket.timeUntil bytes ∧
      (bucket.timeUntil bytes).toInt < 2 ^ 51 := by
  have dated := toInt_timeUntil configured flows short small
  have most := UInt64.le_iff_toNat_le.mp small
  change bytes.toNat ≤ 1048576 at most
  have bounded :
      (bytes.toNat - bucket.tokens.toNat) * 1000000000 /
          bucket.rateBps.toNat ≤ 1048576 * 1000000000 :=
    (Nat.div_le_self _ _).trans (Nat.mul_le_mul_right _ (by omega))
  rw [Int64.lt_iff_toInt_lt, dated]
  generalize
    (bytes.toNat - bucket.tokens.toNat) * 1000000000 /
      bucket.rateBps.toNat = span at bounded
  constructor
  · change (0 : Int) < _
    omega
  · omega

end TokenBucket

/-- Credit is deferred by a bounded wait. -/
theorem ShardTarget.requestCredit_retryAfter
    {target : ShardTarget}
    (supplied : target.focus.engine.Supplied target.focus.session)
    (answered : (target.requestCredit now).1 = .ok outcome)
    (later : outcome.retryAfter = some retry) :
    ∃ wait, 0 < wait ∧ wait.toInt < 2 ^ 51 ∧ retry = now + wait := by
  obtain ⟨classBucket, workloadBucket, ⟨classed, contracted⟩,
    ⟨first, classRate⟩, second, workloadRate⟩ := supplied
  obtain ⟨refilled, kept⟩ :=
    @RateShaper.refillClass_lookup _ _ _ now classed
  have configured := (classBucket.refill_configured now).trans first
  unfold ShardTarget.requestCredit at answered
  dsimp only at answered
  rw [RateShaper.classTokensAt_of_lookup classed] at answered
  dsimp only at answered
  split at answered
  · rename_i short
    rw [RateShaper.classTimeUntilAt_of_lookup refilled,
      TokenBucket.refill_refill] at answered
    cases answered
    cases later
    have small : target.usefulChunk ≤ 1048576 :=
      UInt64.le_trans (UInt64.le_iff_toNat_le.mpr target.usefulChunk_le)
        target.wholeChunk_le
    obtain ⟨positive, bounded⟩ := TokenBucket.timeUntil_bounds configured
      (by rw [TokenBucket.refill_rateBps]; exact classRate) short small
    exact ⟨_, positive, bounded, rfl⟩
  · split at answered
    · rename_i enough refused
      have small :
          min (min (Engine.remainingBytes target.shard) maxGrantChunk)
            (classBucket.refill now).tokens ≤ 1048576 :=
        UInt64.le_trans Std.min_le_left target.wholeChunk_le
      obtain ⟨short, wait, _, _⟩ :=
        RateShaper.tryConsume_short refilled (kept ▸ contracted) configured
          second
          (by
            rw [TokenBucket.refill_refill]
            exact Std.min_le_right) refused
      rw [wait] at answered
      cases answered
      cases later
      obtain ⟨positive, bounded⟩ := TokenBucket.timeUntil_bounds
        ((workloadBucket.refill_configured now).trans second)
        (by rw [TokenBucket.refill_rateBps]; exact workloadRate) short small
      exact ⟨_, positive, bounded, rfl⟩
    · cases answered
      cases later

theorem Engine.requestWave_retryAfter
    {index : ShardIndex}
    {fence : CommandFence}
    (supplied :
      ∀ focus, (engine.observe now).creditHolder now id fence = .ok focus →
        (engine.observe now).Supplied focus.session)
    (answered : (engine.requestWave now id index fence).1 = .ok outcome)
    (later : outcome.retryAfter = some retry) :
    retry = now + engine.policy.deferHorizonNs ∨
      ∃ wait, 0 < wait ∧ wait.toInt < 2 ^ 51 ∧ retry = now + wait := by
  have policy : (engine.observe now).policy = engine.policy :=
    congrArg Authority.policy (engine.observe_authority now)
  unfold Engine.requestWave Engine.guarded at answered
  dsimp only at answered
  split at answered
  · cases answered
  · rename_i focus passed
    split at answered
    · cases answered
      cases later
      rw [policy]
      exact .inl rfl
    · split at answered
      · cases answered
      · rename_i target wanted
        have same := (Engine.waveTarget_ok wanted).1
        have held := (Engine.creditHolder_ok passed).1
        refine .inr (ShardTarget.requestCredit_retryAfter ?_ answered later)
        rw [same, held.engine]
        exact supplied focus passed

/-- Under valid terms the session of a request has both buckets, whatever has
happened since an accepted configuration. -/
theorem EngineRun.supplied
    {config : EngineConfig} {boot : Nanos} {history : List Event}
    {fence : CommandFence} {focus : Focus}
    (run : EngineRun config boot history engine)
    (accepted : (Engine.construct config boot).configStatus = .ok ())
    (lawful : engine.Lawful)
    (passed : (engine.observe now).creditHolder now id fence = .ok focus) :
    (engine.observe now).Supplied focus.session := by
  have quiet := engine.observe_quiet now
  have equipped := (Engine.Equipped.run accepted run).of_quiet quiet
  have calibrated := (Engine.Calibrated.run run).of_quiet quiet
  have same := engine.observe_authority now
  have policy : (engine.observe now).policy = engine.policy :=
    congrArg Authority.policy same
  have contracts : (engine.observe now).contracts = engine.contracts :=
    congrArg Authority.contracts same
  obtain ⟨envelope, listed, classed⟩ := validatePolicy_covers lawful.policy
    focus.session.envelope.isolation
  obtain ⟨contract, contracted⟩ := Engine.creditHolder_contracted passed
  obtain ⟨classBucket, found⟩ := Option.isSome_iff_exists.mp
    (equipped (.isolation focus.session.envelope.isolation) _
      ⟨envelope, policy ▸ listed, classed, rfl⟩)
  obtain ⟨workloadBucket, held⟩ := Option.isSome_iff_exists.mp
    (equipped (.workload focus.session.request.workload) _
      ⟨contract, contracted, rfl⟩)
  have first := calibrated _ _ found
  have second := calibrated _ _ held
  refine ⟨classBucket, workloadBucket, ⟨found, held⟩,
    ⟨first.configured, ?_⟩, second.configured, ?_⟩
  · obtain ⟨set_, member, _, rate⟩ := first.rate
    rw [← rate]
    exact (validatePolicy_positive lawful.policy (policy ▸ member)).1
  · obtain ⟨agreed, known, rate⟩ := second.rate
    rw [← rate]
    exact (validateContract_positive
      (lawful.contracts _ _ (contracts ▸ known))).1

/-! ## All computed times -/

/-- The retry times of an answer. -/
theorem Engine.retryAfter_eq
    (supplied :
      ∀ id index fence focus, command = .requestWave id index fence →
        (engine.observe now).creditHolder now id fence = .ok focus →
          (engine.observe now).Supplied focus.session)
    (later : (engine.execute now command).1.retryAfter = some retry) :
    retry = now + engine.policy.deferHorizonNs ∨
      ∃ wait, 0 < wait ∧ wait.toInt < 2 ^ 51 ∧ retry = now + wait := by
  cases command with
  | submitSession request fence =>
      change (Response.decision
        (engine.submitSession now request fence).1).retryAfter = _ at later
      cases answered : (engine.submitSession now request fence).1 with
      | error =>
          rw [answered] at later
          cases later
      | ok =>
          rw [answered] at later
          exact .inl (Engine.submitSession_retryAfter answered later)
  | revalidateSession id fence =>
      change (Response.decision
        (engine.revalidateSession now id fence).1).retryAfter = _ at later
      cases answered : (engine.revalidateSession now id fence).1 with
      | error =>
          rw [answered] at later
          cases later
      | ok =>
          rw [answered] at later
          exact .inl (Engine.revalidateSession_retryAfter answered later)
  | requestWave id index fence =>
      change (Response.wave
        (engine.requestWave now id index fence).1).retryAfter = _ at later
      cases answered : (engine.requestWave now id index fence).1 with
      | error =>
          rw [answered] at later
          cases later
      | ok =>
          rw [answered] at later
          exact Engine.requestWave_retryAfter
            (fun focus => supplied id index fence focus rfl) answered later
  | _ =>
      cases later

/--
Under valid terms every computed time is the current time plus a positive
span, and it is exact and ahead exactly when the sum is in range.  The span of
a deadline is the horizon of the request or of its contract; that of a retry
is the defer horizon or an estimated wait, whose sum is always in range.
-/
theorem computed_times_are_exact_iff
    {config : EngineConfig} {boot : Nanos} {history : List Event}
    {engine : Engine} (run : EngineRun config boot history engine)
    (accepted : (Engine.construct config boot).configStatus = .ok ())
    (lawful : engine.Lawful) {now : Nanos}
    (clock : now.toInt ≤ 2 ^ 62) {command : Command}
    (fresh :
      ∀ request fence, command = .submitSession request fence →
        ⟨(engine.observe now).idFactory.next.1⟩ ∉
          (engine.observe now).sessions) :
    (∀ retry, (engine.execute now command).1.retryAfter = some retry →
      (∃ wait, wait.toInt < 2 ^ 51 ∧ Instant.Follows now wait retry) ∨
        retry = now + engine.policy.deferHorizonNs ∧
          (Instant.Follows now engine.policy.deferHorizonNs retry ↔
            now.toInt + engine.policy.deferHorizonNs.toInt < 2 ^ 63)) ∧
    ∀ id envelope,
      (engine.execute now command).1.issued = some (id, envelope) →
        ∃ request contract, engine.requestOf command = some request ∧
          engine.contracts.lookup request.workload = some contract ∧
          (Instant.Follows now (chooseHorizon request contract)
              envelope.deadlineTarget ↔
            now.toInt + (chooseHorizon request contract).toInt < 2 ^ 63) := by
  constructor
  · intro retry later
    rcases Engine.retryAfter_eq
        (fun _ _ _ _ _ => run.supplied accepted lawful) later with
      rfl | ⟨wait, positive, bounded, rfl⟩
    · exact .inr ⟨rfl, Instant.follows_add_iff
        (validatePolicy_deferHorizon lawful.policy)⟩
    · exact .inl ⟨wait, bounded,
        (Instant.follows_add_iff positive).mpr (by omega)⟩
  · intro id envelope issued
    obtain ⟨request, contract, _, own, known, _, _, _, due⟩ :=
      Engine.issued_terms issued fresh
    refine ⟨request, contract, own, known, ?_⟩
    rw [due]
    exact Instant.follows_add_iff (chooseHorizon_pos
      (validateContract_positive (lawful.contracts _ _ known)).2)

theorem sampleEngine_accepted :
    (Engine.construct Sample.config 0).configStatus = .ok () := by
  decide +kernel

theorem sampleEngine_lawful : (Engine.construct Sample.config 0).Lawful :=
  EngineRun.lawful Run.start (by decide +kernel)

/-- A request for the largest horizon. -/
def distantRequest : SessionRequest :=
  { Sample.request 2 [2] with deadlineHorizonNs := 9223372036854775807 }

theorem sampleDeadlines_evaluated :
    ((Engine.construct Sample.config 0).execute 1
        (.submitSession (Sample.request 2 [2])
          (Sample.fence 1))).1.issued.isSome = true ∧
      ⟨((Engine.construct Sample.config 0).observe 1).idFactory.next.1⟩ ∉
        ((Engine.construct Sample.config 0).observe 1).sessions ∧
      (Engine.construct Sample.config 0).contracts.lookup
        (Sample.request 2 [2]).workload = some Sample.contract ∧
      ((Engine.construct Sample.config 0).execute 1
          (.submitSession distantRequest (Sample.fence 1))).1.issued.map
          (fun issued => issued.2.deadlineTarget) =
        some (-9223372036854775808) := by
  decide +kernel

/-- The deadline of an ordinary request is exact. -/
theorem computed_times_are_exact_in_sample_deployment :
    ∃ id envelope,
      ((Engine.construct Sample.config 0).execute 1
          (.submitSession (Sample.request 2 [2]) (Sample.fence 1))).1.issued =
          some (id, envelope) ∧
        Instant.Follows 1 Sample.contract.deadlineBudgetNs
          envelope.deadlineTarget := by
  obtain ⟨answered, fresh, known, _⟩ := sampleDeadlines_evaluated
  obtain ⟨⟨id, envelope⟩, issued⟩ := Option.isSome_iff_exists.mp answered
  obtain ⟨request, contract, own, agreed, dated⟩ :=
    (computed_times_are_exact_iff Run.start sampleEngine_accepted
      sampleEngine_lawful (by decide) (fun _ _ _ => fresh)).2 id envelope
        issued
  cases own
  cases known.symm.trans agreed
  exact ⟨id, envelope, issued, dated.mpr (by decide +kernel)⟩

/-- The deadline of the largest horizon is the earliest time there is. -/
theorem distant_deadline_wraps :
    (Engine.construct Sample.config 0).Lawful ∧
      ((Engine.construct Sample.config 0).execute 1
          (.submitSession distantRequest (Sample.fence 1))).1.issued.map
          (fun issued => issued.2.deadlineTarget) =
        some (-9223372036854775808) :=
  ⟨sampleEngine_lawful, sampleDeadlines_evaluated.2.2.2⟩

end TrafficFabric
