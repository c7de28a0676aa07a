import TrafficFabric.Engine.Change

/-!
# What the guards of the commands establish

Every command on a session first looks the session up and then refuses on a
chain of conditions.  The results below read off what a passed chain says.
-/

namespace TrafficFabric

open Foundation

variable {id : SessionId} {focus : Focus} {session : SessionRecord}
  {index : ShardIndex} {position : Nat} {now : Nanos} {target : ShardTarget}
  {request : SessionRequest} {ids targets : List SessionId}
  {plan : AdmissionPlan}

/-- The session `id` of an engine is held. -/
structure Engine.Holds
    (engine : Engine) (id : SessionId) (focus : Focus) : Prop where
  engine : focus.engine = engine
  key : focus.key = id
  held : focus.Held

theorem isTerminal_eq_false
    {state : SessionState} (active : ¬ isTerminal state = true) :
    isTerminal state = false :=
  Bool.eq_false_iff.mpr active

theorem Engine.hold_holds
    {engine : Engine}
    (found : engine.hold id = some focus) :
    engine.Holds id focus := by
  rcases Engine.hold_eq_some.mp found with ⟨same, key, held⟩
  exact ⟨same, key, held⟩

/-! ## Positions -/

theorem SessionRecord.index_of_shardPosition
    {shard : ShardRecord}
    (found : session.shardPosition index = some position)
    (at_ : session.shards[position]? = some shard) :
    shard.index = index := by
  unfold SessionRecord.shardPosition at found
  dsimp only at found
  split at found
  · rename_i matching
    cases found
    rw [at_] at matching
    simpa using matching
  · cases found

theorem SessionRecord.id_of_attemptPosition
    {id : TransferAttemptId}
    {attempt : AttemptRecord}
    (found : session.attemptPosition id = some position)
    (at_ : session.attempts[position]? = some attempt) :
    attempt.id = id := by
  unfold SessionRecord.attemptPosition at found
  rcases List.findIdx?_eq_some_iff_getElem.mp found with
    ⟨inRange, matching, _⟩
  rw [List.getElem?_eq_getElem inRange] at at_
  cases at_
  simpa using matching

/-! ## Guards on the session -/

namespace Engine

variable {engine : Engine} {id : SessionId} {fence : CommandFence}

theorem fencedSession_ok
    (passed : engine.fencedSession id fence = .ok focus) :
    engine.Holds id focus := by
  simp only [fencedSession, bind_eq_ok, requireSome_eq_ok] at passed
  rcases passed with ⟨held, found, _, _, same⟩
  cases same
  exact Engine.hold_holds found

/-- Besides holding the session, its contract is configured and the fence
names its generation. -/
theorem workloadFencedSession_ok
    (passed : engine.workloadFencedSession id fence = .ok focus) :
    engine.Holds id focus ∧
      ∃ contract,
        engine.contracts.lookup focus.session.request.workload =
          some contract ∧
        fence.contractGeneration = contract.generation := by
  simp only [workloadFencedSession, validateWorkloadFence, bind_eq_ok,
    requireSome_eq_ok, refuseWhen_eq_ok] at passed
  rcases passed with ⟨held, found, _, ⟨contract, known, current⟩, same⟩
  cases same
  exact ⟨fencedSession_ok found, contract, known, not_not.mp current⟩

theorem pauseTarget_ok
    (passed : engine.pauseTarget id fence = .ok focus) :
    engine.Holds id focus ∧
      isTerminal focus.session.state = false ∧
      focus.session.state ≠ .revalidationRequired ∧
      focus.session.paused = false := by
  simp only [pauseTarget, bind_eq_ok, refuseWhen_eq_ok] at passed
  rcases passed with ⟨held, found, _, active, _, authorised, _, unpaused, same⟩
  cases same
  exact ⟨(workloadFencedSession_ok found).1, isTerminal_eq_false active,
    authorised, Bool.eq_false_iff.mpr unpaused⟩

theorem resumeTarget_ok
    (passed : engine.resumeTarget id fence = .ok focus) :
    engine.Holds id focus ∧ focus.session.paused = true := by
  simp only [resumeTarget, bind_eq_ok, refuseWhen_eq_ok] at passed
  rcases passed with ⟨held, found, _, paused, same⟩
  cases same
  exact ⟨(workloadFencedSession_ok found).1, not_not.mp paused⟩

/-- The session that `resume_session` finds has not ended, although its guards
do not ask for that. -/
def ResumesActive
    (engine : Engine) (now : Nanos) (id : SessionId) (fence : CommandFence) :
    Prop :=
  ∀ focus, (engine.observe now).resumeTarget id fence = .ok focus →
    isTerminal focus.session.state = false

instance :
    Decidable (engine.ResumesActive now id fence) := by
  unfold ResumesActive
  infer_instance

theorem cancelTarget_ok
    (passed : engine.cancelTarget id fence = .ok focus) :
    engine.Holds id focus ∧ isTerminal focus.session.state = false := by
  simp only [cancelTarget, bind_eq_ok, refuseWhen_eq_ok] at passed
  rcases passed with ⟨held, found, _, active, same⟩
  cases same
  exact ⟨fencedSession_ok found, isTerminal_eq_false active⟩

theorem revalidationTarget_ok
    (passed : engine.revalidationTarget id fence = .ok focus) :
    engine.Holds id focus ∧
      (focus.session.state = .revalidationRequired ∨
        focus.session.state = .deferred) := by
  simp only [revalidationTarget, bind_eq_ok, requireSome_eq_ok,
    refuseWhen_eq_ok] at passed
  rcases passed with ⟨held, found, _, _, _, _, _, stale, _, _, same⟩
  cases same
  exact ⟨Engine.hold_holds found, by tauto⟩

theorem openSession_ok
    {stale : String}
    (passed : engine.openSession id fence stale = .ok focus) :
    engine.Holds id focus ∧ isTerminal focus.session.state = false := by
  simp only [openSession, bind_eq_ok, refuseWhen_eq_ok] at passed
  rcases passed with ⟨held, found, _, active, same⟩
  cases same
  exact ⟨(workloadFencedSession_ok found).1, isTerminal_eq_false active⟩

theorem durabilityTarget_ok
    {assertion : DurabilityAssertion}
    (passed : engine.durabilityTarget id assertion fence = .ok focus) :
    engine.Holds id focus := by
  simp only [durabilityTarget, bind_eq_ok, refuseWhen_eq_ok] at passed
  rcases passed with ⟨held, found, _, _, _, _, same⟩
  cases same
  exact fencedSession_ok found

/-- What a session must be to request credit. -/
theorem creditHolder_ok
    (passed : engine.creditHolder now id fence = .ok focus) :
    engine.Holds id focus ∧
      isTerminal focus.session.state = false ∧
      focus.session.paused = false ∧
      focus.session.state ≠ .revalidationRequired ∧
      focus.session.state ≠ .deferred ∧
      focus.session.state ≠ .paused := by
  simp only [creditHolder, bind_eq_ok, refuseWhen_eq_ok, not_or] at passed
  rcases passed with
    ⟨held, found, _, _, _, authorised, _, unpaused, _, _, _, active, _, _,
      same⟩
  cases same
  exact ⟨(workloadFencedSession_ok found).1, isTerminal_eq_false active,
    Bool.eq_false_iff.mpr unpaused.1, authorised.1, authorised.2,
    unpaused.2⟩

/-- Its workload has a contract. -/
theorem creditHolder_contracted
    (passed : engine.creditHolder now id fence = .ok focus) :
    ∃ contract,
      engine.contracts.lookup focus.session.request.workload =
        some contract := by
  simp only [creditHolder, workloadFencedSession, validateWorkloadFence,
    bind_eq_ok, requireSome_eq_ok] at passed
  rcases passed with
    ⟨_, ⟨held, _, _, ⟨contract, known, _⟩, same⟩, _, _, _, _, _, _, _, _, _,
      _, _, _, same'⟩
  cases same
  cases same'
  exact ⟨contract, known⟩

/-! ## Guards on shards and attempts -/

theorem shardTarget_ok
    (passed : shardTarget focus index = .ok target) :
    target.focus = focus ∧
      focus.session.shards[target.position]? = some target.shard ∧
      target.shard.index = index := by
  simp only [shardTarget, bind_eq_ok, requireSome_eq_ok] at passed
  rcases passed with ⟨position, found, shard, at_, same⟩
  cases same
  exact ⟨rfl, at_, SessionRecord.index_of_shardPosition found at_⟩

theorem waveTarget_ok
    (passed : waveTarget focus index fence = .ok target) :
    target.focus = focus ∧
      focus.session.shards[target.position]? = some target.shard ∧
      (target.shard.state ≠ .verified ∧ target.shard.state ≠ .transferred ∧
        target.shard.state ≠ .ambiguous) ∧
      holdsAttempt focus.session target.shard = false := by
  simp only [waveTarget, bind_eq_ok, refuseWhen_eq_ok, not_or] at passed
  rcases passed with
    ⟨found, position, _, unsettled, _, certain, _, _, _, unheld, _, _, same⟩
  cases same
  rcases shardTarget_ok position with ⟨same, at_, _⟩
  exact ⟨same, at_, ⟨unsettled.1, unsettled.2, certain⟩,
    Bool.eq_false_iff.mpr unheld⟩

theorem sourceCompleteTarget_ok
    {evidence : SourceCompleteEvidence}
    (passed : engine.sourceCompleteTarget evidence fence = .ok target) :
    engine.Holds evidence.session target.focus ∧ target.Valid := by
  simp only [sourceCompleteTarget, bind_eq_ok, refuseWhen_eq_ok] at passed
  rcases passed with ⟨focus, opened, found, at_, _, _, _, _, same⟩
  cases same
  rcases openSession_ok opened with ⟨holds, active⟩
  rcases shardTarget_ok at_ with ⟨rfl, shardAt, _⟩
  exact ⟨holds, holds.held.live, shardAt, active⟩

theorem transferTarget_ok
    {evidence : TransferEvidence} {target : EvidenceTarget}
    (passed : engine.transferTarget evidence fence = .ok target) :
    engine.Holds evidence.session target.focus ∧ target.Valid ∧
      evidence.arrivedBytes ≤ target.attempt.grantedBytes ∧
      target.attempt.deliveredBytes ≤ evidence.arrivedBytes ∧
      target.attempt.outcome ≠ .ambiguous ∧
      target.attempt.outcome ≠ .failed ∧
      target.attempt.outcome ≠ .released ∧
      target.attempt.outcome ≠ .superseded := by
  simp only [transferTarget, bind_eq_ok, refuseWhen_eq_ok,
    requireSome_eq_ok, not_or, ne_eq, not_not] at passed
  rcases passed with
    ⟨focus, opened, found, at_, _, current, position, attemptFound,
      attempt, attemptAt, _, _, _, certain, _, unfailed, _, unreleased,
      _, within, _, grows, same⟩
  cases same
  rcases openSession_ok opened with ⟨holds, active⟩
  rcases shardTarget_ok at_ with ⟨rfl, shardAt, _⟩
  have named := SessionRecord.id_of_attemptPosition attemptFound attemptAt
  refine ⟨holds, ⟨holds.held.live, shardAt, attemptAt, ?_, active⟩,
    UInt64.not_lt.mp within, UInt64.not_lt.mp grows, certain, unfailed,
    unreleased.1, unreleased.2⟩
  rw [named]
  exact current

theorem verificationTarget_ok
    {evidence : VerificationEvidence} {target : EvidenceTarget}
    (passed : engine.verificationTarget evidence fence = .ok target) :
    engine.Holds evidence.session target.focus ∧ target.Valid ∧
      (evidence.outcome = .verified →
        target.attempt.outcome = .deliveredAcked ∨
          target.attempt.outcome = .verified) := by
  simp only [verificationTarget, bind_eq_ok, refuseWhen_eq_ok,
    requireSome_eq_ok, ne_eq, not_not] at passed
  rcases passed with
    ⟨focus, opened, found, at_, _, current, position, attemptFound,
      attempt, attemptAt, _, _, _, arrived, same⟩
  cases same
  rcases openSession_ok opened with ⟨holds, active⟩
  rcases shardTarget_ok at_ with ⟨rfl, shardAt, _⟩
  have named := SessionRecord.id_of_attemptPosition attemptFound attemptAt
  refine ⟨holds, ⟨holds.held.live, shardAt, attemptAt, ?_, active⟩, ?_⟩
  · rw [named]
    exact current
  · intro verified
    tauto

theorem ambiguityTarget_ok
    {attemptId : TransferAttemptId} {sequence : AttemptSequence}
    {target : AttemptTarget}
    (passed :
      engine.ambiguityTarget id attemptId sequence fence = .ok target) :
    engine.Holds id target.focus ∧ target.Valid := by
  simp only [ambiguityTarget, bind_eq_ok, refuseWhen_eq_ok,
    requireSome_eq_ok] at passed
  rcases passed with
    ⟨focus, found, _, active, position, _, attempt, attemptAt, _, _, same⟩
  cases same
  have holds := fencedSession_ok found
  exact ⟨holds, holds.held.live, attemptAt, isTerminal_eq_false active⟩

/-! ## The admission checks -/

/-- Only active sessions of the list are superseded. -/
theorem supersedeTargets_ok
    (passed : engine.supersedeTargets request ids = .ok targets) :
    ∀ id ∈ targets,
      id ∈ ids ∧ ∃ session,
        engine.sessions.lookup id = some session ∧
          isTerminal session.state = false := by
  induction ids generalizing targets with
  | nil =>
      cases passed
      simp
  | cons first rest hypothesis =>
      unfold supersedeTargets at passed
      split at passed
      · exact fun id member =>
          (hypothesis passed id member).imp_left (List.mem_cons_of_mem _)
      · rename_i existing found
        simp only [bind_eq_ok, refuseWhen_eq_ok] at passed
        rcases passed with ⟨_, _, chosen⟩
        split at chosen
        · exact fun id member =>
            (hypothesis chosen id member).imp_left (List.mem_cons_of_mem _)
        · rename_i active
          simp only [bind_eq_ok, refuseWhen_eq_ok] at chosen
          rcases chosen with ⟨_, _, _, _, others, rest_, same⟩
          cases same
          intro id member
          rcases List.mem_cons.mp member with rfl | later
          · exact ⟨List.mem_cons_self, existing, found,
              isTerminal_eq_false active⟩
          · exact (hypothesis rest_ id later).imp_left
              (List.mem_cons_of_mem _)

/-- Every listed session of the checkpoint is at most as new as the
request, and if it is active it is of another generation and superseded. -/
theorem supersedeTargets_listed
    (passed : engine.supersedeTargets request ids = .ok targets)
    (listed : id ∈ ids)
    (found : engine.sessions.lookup id = some session) :
    ¬ request.checkpointGeneration < session.request.checkpointGeneration ∧
      (isTerminal session.state = true ∨
        id ∈ targets ∧
          session.request.checkpointGeneration ≠
            request.checkpointGeneration) := by
  induction ids generalizing targets with
  | nil =>
      cases listed
  | cons first rest hypothesis =>
      unfold supersedeTargets at passed
      split at passed
      · rename_i missing
        rcases List.mem_cons.mp listed with rfl | later
        · rw [found] at missing
          cases missing
        · exact hypothesis passed later
      · rename_i existing known
        simp only [bind_eq_ok, refuseWhen_eq_ok] at passed
        rcases passed with ⟨_, newer, chosen⟩
        split at chosen
        · rename_i terminal
          rcases List.mem_cons.mp listed with rfl | later
          · rw [found] at known
            cases known
            exact ⟨newer, .inl terminal⟩
          · exact hypothesis chosen later
        · simp only [bind_eq_ok, refuseWhen_eq_ok] at chosen
          rcases chosen with ⟨_, _, _, distinct, others, rest_, same⟩
          cases same
          rcases List.mem_cons.mp listed with rfl | later
          · rw [found] at known
            cases known
            exact ⟨newer, .inr ⟨List.mem_cons_self, distinct⟩⟩
          · exact (hypothesis rest_ later).imp_right
              (Or.imp_right (And.imp_left (List.mem_cons_of_mem _)))

/-- What the admission checks establish. -/
structure Admissible
    (engine : Engine) (request : SessionRequest) (plan : AdmissionPlan) :
    Prop where
  contract :
    engine.contracts.lookup request.workload = some plan.contract
  manifest : validateManifest request.manifest engine.limits = .ok ()
  matched : request.manifest.checkpoint = request.checkpoint
  targets :
    ∀ id ∈ plan.targets,
      ∃ session,
        engine.sessions.lookup id = some session ∧
          isTerminal session.state = false

theorem denyingManifest_ok
    {result : Result Unit} (passed : denyingManifest result = .ok ()) :
    result = .ok () := by
  unfold denyingManifest at passed
  split at passed
  · cases passed
  · rfl

/-- All the admission checks establish about the sessions there are. -/
structure Planned
    (engine : Engine) (request : SessionRequest) (plan : AdmissionPlan) :
    Prop extends engine.Admissible request plan where
  chosen :
    engine.supersedeTargets request
      (engine.byCheckpoint.findD request.checkpoint []) = .ok plan.targets
  permitted :
    plan.targets ≠ [] → plan.contract.allowSupersession = true
  fabricBound :
    engine.accounting.activeSessions < engine.policy.maxSessions
  workloadBound :
    engine.workloadActive.findD request.workload 0 <
      plan.contract.maxInFlightSessions
  isolationBound :
    ∃ envelope : IsolationEnvelopeConfig,
      engine.classActive plan.isolation < envelope.maxInFlightSessions

theorem admissionPlan_planned
    (passed : engine.admissionPlan now request fence = .ok plan) :
    engine.Planned request plan := by
  simp only [admissionPlan, manifestAccepted, boundsAvailable, bind_eq_ok,
    requireSome_eq_ok, refuseWhen_eq_ok, not_not, UInt32.not_le] at passed
  rcases passed with
    ⟨_, _, _, _, contract, known, _, _, _, ⟨_, manifest, matched⟩, envelope,
      _, _, _, _, _, _, _, targets, chosen, _, permitted, _, _, _, _, _,
      ⟨_, fabric, _, workload, isolation⟩, planned⟩
  split at planned
  · cases planned
  · cases planned
    refine ⟨⟨known, denyingManifest_ok manifest,
        not_not.mp (fun other => matched (.inl other)),
        fun id member => (supersedeTargets_ok chosen id member).2⟩,
      chosen, ?_, fabric, workload, envelope, isolation⟩
    intro some_
    by_contra forbidden
    exact permitted ⟨some_, forbidden⟩

theorem admissionPlan_ok
    (passed : engine.admissionPlan now request fence = .ok plan) :
    engine.Admissible request plan :=
  (admissionPlan_planned passed).toAdmissible

end Engine

/-- The record of a session whose submission passed the admission checks. -/
def SessionRecord.Admitted (session : SessionRecord) : Prop :=
  ∃ (engine : Engine) (now : Nanos) (request : SessionRequest)
      (plan : AdmissionPlan),
    engine.Admissible request plan ∧
      session = engine.newSession now request plan

end TrafficFabric
