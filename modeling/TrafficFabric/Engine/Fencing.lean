import TrafficFabric.Engine.Observation
import TrafficFabric.Engine.Script

/-!
# What a fence is compared with

Every command on a session carries a fence.  Its guards compare some of the
fence with the current authority, each command its own part.  Success means
that the whole fence is current exactly when the part that the command
overlooks happens to be current as well.
-/

namespace TrafficFabric

open Foundation

variable {fence : CommandFence} {now : Nanos} {evidence : TransferEvidence}
  {target : EvidenceTarget} {request : SessionRequest} {engine held : Engine}
  {id : SessionId} {focus : Focus} {Ticket Value : Type} {command : Command}

/-! ## Current fences -/

/-- The fence names the current epoch, policy and topology. -/
structure Authority.FabricFence
    (authority : Authority) (fence : CommandFence) : Prop where
  epoch : fence.epoch = authority.epoch
  policy : fence.policyGeneration = authority.policy.generation
  topology : fence.topologyGeneration = authority.topology.generation

/-- The fence names the current contract of the workload. -/
def Authority.ContractFence
    (authority : Authority) (workload : WorkloadId) (fence : CommandFence) :
    Prop :=
  ∃ contract,
    authority.contracts.lookup workload = some contract ∧
      fence.contractGeneration = contract.generation

/-- The checkpoint generation in the fence, if any, is the requested one. -/
def SessionRequest.CheckpointFence
    (request : SessionRequest) (fence : CommandFence) : Prop :=
  ∀ generation ∈ fence.checkpointGeneration,
    generation = request.checkpointGeneration

/-- The fence is current in every dimension. -/
structure Authority.Exact
    (authority : Authority) (request : SessionRequest)
    (fence : CommandFence) : Prop where
  fabric : authority.FabricFence fence
  contract : authority.ContractFence request.workload fence
  checkpoint : request.CheckpointFence fence

/-! ## The comparisons -/

theorem Generation.eq_of_not_lt
    {domain : GenerationDomain} {left right : Generation domain}
    (notLess : ¬ left < right) (notGreater : ¬ right < left) :
    left = right := by
  rcases left with ⟨left⟩
  rcases right with ⟨right⟩
  have upper : right ≤ left := UInt64.not_lt.mp notLess
  have lower : left ≤ right := UInt64.not_lt.mp notGreater
  rw [UInt64.le_antisymm lower upper]

/-- `validate_fence` accepts exactly the current fences. -/
theorem validateFence_ok
    {current : FenceContext}
    (passed : validateFence fence current = .ok ()) :
    fence.epoch = current.epoch ∧
      fence.policyGeneration = current.policyGeneration ∧
      fence.topologyGeneration = current.topologyGeneration ∧
      fence.contractGeneration = current.contractGeneration := by
  simp only [validateFence, bind_eq_ok, refuseWhen_eq_ok, ne_eq, not_not]
    at passed
  rcases passed with
    ⟨_, incarnation, _, termLow, _, termHigh, _, policyLow, _, policyHigh,
      _, topologyLow, _, topologyHigh, _, contractLow, contractHigh⟩
  refine ⟨?_, Generation.eq_of_not_lt policyLow policyHigh,
    Generation.eq_of_not_lt topologyLow topologyHigh,
    Generation.eq_of_not_lt contractLow contractHigh⟩
  have term := Generation.eq_of_not_lt termLow termHigh
  cases epoch : fence.epoch
  cases active : current.epoch
  rw [epoch, active] at incarnation term
  exact congrArg₂ CoordinatorEpoch.mk incarnation term

theorem fenceStatus_ok
    {verdict : Except FenceRefusal Unit}
    (passed : Engine.fenceStatus verdict = .ok ()) : verdict = .ok () := by
  cases verdict with
  | error =>
      cases passed
  | ok =>
      rfl

namespace Engine

variable {engine : Engine} {id : SessionId} {fence : CommandFence}
  {focus : Focus}

theorem checkFenceStatus_ok
    (passed : engine.checkFenceStatus fence = .ok ()) :
    engine.authority.FabricFence fence := by
  rcases validateFence_ok (fenceStatus_ok passed) with
    ⟨epoch, policy, topology, _⟩
  exact ⟨epoch, policy, topology⟩

theorem validateCheckpointGeneration_ok
    {session : SessionRecord}
    (passed : validateCheckpointGeneration session fence = .ok ()) :
    session.request.CheckpointFence fence := by
  unfold validateCheckpointGeneration at passed
  rw [refuseWhen_eq_ok] at passed
  intro generation named
  rw [Option.mem_def.mp named] at passed
  simpa using passed

theorem fencedSession_fence
    (passed : engine.fencedSession id fence = .ok focus) :
    engine.Holds id focus ∧ engine.authority.FabricFence fence := by
  refine ⟨fencedSession_ok passed, ?_⟩
  simp only [fencedSession, bind_eq_ok] at passed
  rcases passed with ⟨_, _, _, checked, _⟩
  exact checkFenceStatus_ok checked

theorem workloadFencedSession_fence
    (passed : engine.workloadFencedSession id fence = .ok focus) :
    engine.Holds id focus ∧ engine.authority.FabricFence fence ∧
      engine.authority.ContractFence focus.session.request.workload fence := by
  rcases workloadFencedSession_ok passed with ⟨holds, contract⟩
  simp only [workloadFencedSession, bind_eq_ok] at passed
  rcases passed with ⟨_, found, _, _, _⟩
  exact ⟨holds, (fencedSession_fence found).2, contract⟩

/-! ## The commands -/

theorem revalidationTarget_fence
    (passed : engine.revalidationTarget id fence = .ok focus) :
    engine.Holds id focus ∧ engine.authority.FabricFence fence ∧
      (focus.session.request.workload ∈ engine.contracts →
        engine.authority.ContractFence focus.session.request.workload
          fence) ∧
      focus.session.request.CheckpointFence fence := by
  have holds := (revalidationTarget_ok passed).1
  simp only [revalidationTarget, bind_eq_ok, requireSome_eq_ok,
    refuseWhen_eq_ok] at passed
  rcases passed with ⟨_, found, _, fenced, _, checkpoint, _, _, _, _, same⟩
  cases same
  rcases validateFence_ok (fenceStatus_ok fenced) with
    ⟨epoch, policy, topology, contract⟩
  refine ⟨holds, ⟨epoch, policy, topology⟩, ?_,
    validateCheckpointGeneration_ok checkpoint⟩
  intro known
  rcases Table.exists_lookup_of_mem known with ⟨current, stored⟩
  rw [stored] at contract
  exact ⟨current, stored, contract⟩

theorem pauseTarget_fenced
    (passed : engine.pauseTarget id fence = .ok focus) :
    engine.workloadFencedSession id fence = .ok focus := by
  simp only [pauseTarget, bind_eq_ok, refuseWhen_eq_ok] at passed
  rcases passed with ⟨_, found, _, _, _, _, _, _, same⟩
  cases same
  exact found

theorem resumeTarget_fenced
    (passed : engine.resumeTarget id fence = .ok focus) :
    engine.workloadFencedSession id fence = .ok focus := by
  simp only [resumeTarget, bind_eq_ok, refuseWhen_eq_ok] at passed
  rcases passed with ⟨_, found, _, _, same⟩
  cases same
  exact found

theorem cancelTarget_fenced
    (passed : engine.cancelTarget id fence = .ok focus) :
    engine.fencedSession id fence = .ok focus := by
  simp only [cancelTarget, bind_eq_ok, refuseWhen_eq_ok] at passed
  rcases passed with ⟨_, found, _, _, same⟩
  cases same
  exact found

theorem creditHolder_fenced
    (passed : engine.creditHolder now id fence = .ok focus) :
    engine.workloadFencedSession id fence = .ok focus ∧
      focus.session.request.CheckpointFence fence := by
  simp only [creditHolder, bind_eq_ok] at passed
  rcases passed with
    ⟨_, found, _, checkpoint, _, _, _, _, _, _, _, _, _, _, same⟩
  cases same
  exact ⟨found, validateCheckpointGeneration_ok checkpoint⟩

theorem openSession_fenced
    {stale : String} (passed : engine.openSession id fence stale = .ok focus) :
    engine.workloadFencedSession id fence = .ok focus := by
  simp only [openSession, bind_eq_ok, refuseWhen_eq_ok] at passed
  rcases passed with ⟨_, found, _, _, same⟩
  cases same
  exact found

theorem sourceCompleteTarget_fenced
    {evidence : SourceCompleteEvidence} {target : ShardTarget}
    (passed : engine.sourceCompleteTarget evidence fence = .ok target) :
    engine.workloadFencedSession evidence.session fence =
      .ok target.focus := by
  simp only [sourceCompleteTarget, bind_eq_ok] at passed
  rcases passed with ⟨_, opened, _, at_, _, _, _, _, same⟩
  cases same
  rcases shardTarget_ok at_ with ⟨rfl, _, _⟩
  exact openSession_fenced opened

theorem transferTarget_fenced
    (passed : engine.transferTarget evidence fence = .ok target) :
    engine.workloadFencedSession evidence.session fence =
      .ok target.focus := by
  simp only [transferTarget, bind_eq_ok] at passed
  rcases passed with
    ⟨_, opened, _, _, _, _, _, _, _, _, _, _, _, _, _, _, _, _, _, _, _, _,
      same⟩
  cases same
  exact openSession_fenced opened

theorem verificationTarget_fenced
    {evidence : VerificationEvidence}
    (passed : engine.verificationTarget evidence fence = .ok target) :
    engine.workloadFencedSession evidence.session fence =
      .ok target.focus := by
  simp only [verificationTarget, bind_eq_ok] at passed
  rcases passed with ⟨_, opened, _, _, _, _, _, _, _, _, _, _, _, _, same⟩
  cases same
  exact openSession_fenced opened

theorem ambiguityTarget_fenced
    {attemptId : TransferAttemptId} {sequence : AttemptSequence}
    {target : AttemptTarget}
    (passed :
      engine.ambiguityTarget id attemptId sequence fence = .ok target) :
    engine.fencedSession id fence = .ok target.focus := by
  simp only [ambiguityTarget, bind_eq_ok] at passed
  rcases passed with ⟨_, found, _, _, _, _, _, _, _, _, same⟩
  cases same
  exact found

theorem durabilityTarget_fenced
    {assertion : DurabilityAssertion}
    (passed : engine.durabilityTarget id assertion fence = .ok focus) :
    engine.fencedSession id fence = .ok focus := by
  simp only [durabilityTarget, bind_eq_ok] at passed
  rcases passed with ⟨_, found, _, _, _, _, same⟩
  cases same
  exact found

/-! ## Submissions -/

/-- The fence and replay checks end in a refusal or a replay. -/
theorem submissionFenced_error
    {rejection : Rejection}
    (failed : engine.submissionFenced request fence = .error rejection) :
    (∃ status, rejection = .refused status) ∨
      (engine.authority.FabricFence fence ∧
        ∃ record, rejection = .replayed record) := by
  unfold submissionFenced at failed
  rcases bind_cases failed with ⟨failure, refused, same⟩ | ⟨_, fenced, rest⟩
  · cases same
    unfold refusing at refused
    split at refused
    · cases refused
      exact .inl ⟨_, rfl⟩
    · cases refused
  have fabric : engine.authority.FabricFence fence := by
    refine checkFenceStatus_ok ?_
    unfold refusing at fenced
    split at fenced
    · cases fenced
    · rename_i checked
      exact checked
  rcases bind_cases rest with ⟨_, refused, same⟩ | ⟨_, _, rest⟩
  · cases same
    exact .inl ⟨_, (refuseWhen_eq_error.mp refused).2.symm⟩
  rcases bind_cases rest with ⟨_, refused, same⟩ | ⟨_, _, rest⟩
  · cases same
    exact .inl ⟨_, (refuseWhen_eq_error.mp refused).2.symm⟩
  rcases bind_cases rest with ⟨_, refused, same⟩ | ⟨_, _, rest⟩
  · cases same
    exact .inl ⟨_, (refuseWhen_eq_error.mp refused).2.symm⟩
  split at rest
  · cases rest
  · rename_i record known
    rcases bind_cases rest with ⟨_, refused, same⟩ | ⟨_, _, replayed⟩
    · cases same
      exact .inl ⟨_, (refuseWhen_eq_error.mp refused).2.symm⟩
    · cases replayed
      exact .inr ⟨fabric, record, rfl⟩

theorem submissionFenced_ok
    (passed : engine.submissionFenced request fence = .ok ()) :
    engine.authority.FabricFence fence ∧
      request.contractGeneration = fence.contractGeneration := by
  simp only [submissionFenced, bind_eq_ok, refuseWhen_eq_ok, ne_eq,
    not_not] at passed
  rcases passed with ⟨_, fenced, _, _, _, _, _, contract, _⟩
  refine ⟨checkFenceStatus_ok ?_, contract⟩
  unfold refusing at fenced
  split at fenced
  · cases fenced
  · rename_i checked
    exact checked

/-- Replays are answered once the fabric-wide part of the fence is known to
be current; the other submissions that are decided `Admit` have the contract
compared as well. -/
theorem admissionPlan_fence
    {result : Except Rejection AdmissionPlan}
    (planned : engine.admissionPlan now request fence = result) :
    (∃ status, result = .error (.refused status)) ∨
      (∃ reason detail, result = .error (.denied reason detail)) ∨
      (engine.authority.FabricFence fence ∧
        ((∃ record, result = .error (.replayed record)) ∨
          engine.authority.ContractFence request.workload fence)) := by
  unfold admissionPlan at planned
  rcases bind_cases planned with ⟨_, failed, rfl⟩ | ⟨_, fenced, rest⟩
  · rcases submissionFenced_error failed with
      ⟨status, rfl⟩ | ⟨fabric, record, rfl⟩
    · exact .inl ⟨status, rfl⟩
    · exact .inr (.inr ⟨fabric, .inl ⟨record, rfl⟩⟩)
  rcases submissionFenced_ok fenced with ⟨fabric, carried⟩
  rcases bind_cases rest with ⟨_, refused, rfl⟩ | ⟨_, _, rest⟩
  · exact .inr (.inl ⟨_, _, congrArg _
      (refuseWhen_eq_error.mp refused).2.symm⟩)
  rcases bind_cases rest with ⟨_, missing, rfl⟩ | ⟨contract, known, rest⟩
  · unfold requireSome at missing
    split at missing
    · cases missing
    · cases missing
      exact .inr (.inl ⟨_, _, rfl⟩)
  rcases bind_cases rest with ⟨_, refused, rfl⟩ | ⟨_, current, _⟩
  · exact .inr (.inl ⟨_, _, congrArg _
      (refuseWhen_eq_error.mp refused).2.symm⟩)
  refine .inr (.inr ⟨fabric, .inr ⟨contract, requireSome_eq_ok.mp known, ?_⟩⟩)
  rw [refuseWhen_eq_ok, ne_eq, not_not] at current
  rw [← carried, current]

end Engine

/-! ## Success -/

/-- The operation returned no error. -/
def Response.succeeded : Response → Bool
  | .status result => result.isOk
  | .decision result => result.isOk
  | .wave result => result.isOk

/-- The session a fenced command acts on, and its fence. -/
def Command.addressee : Command → Option (SessionId × CommandFence)
  | .revalidateSession id fence => some (id, fence)
  | .pauseSession id fence _ => some (id, fence)
  | .resumeSession id fence => some (id, fence)
  | .cancelSession id fence _ _ => some (id, fence)
  | .requestWave id _ fence => some (id, fence)
  | .reportSourceComplete evidence fence => some (evidence.session, fence)
  | .reportTransfer evidence fence => some (evidence.session, fence)
  | .reportVerification evidence fence => some (evidence.session, fence)
  | .reportAmbiguous id _ _ _ fence => some (id, fence)
  | .recordDurabilityAssertion id _ fence => some (id, fence)
  | _ => none

/-- The fence of a command that succeeds is current, for the session it acts
on or for the request it admits. -/
def Engine.ExactOnSuccess
    (engine : Engine) (now : Nanos) (command : Command) : Prop :=
  (∀ id fence, command.addressee = some (id, fence) →
    (engine.execute now command).1.succeeded = true →
    ∃ session, engine.sessions.lookup id = some session ∧
      engine.authority.Exact session.request fence) ∧
  ∀ request fence decision, command = .submitSession request fence →
    (engine.submitSession now request fence).1 = .ok decision →
    decision.kind = .admitted →
    engine.authority.Exact request fence

/-- One more command. -/
def Engine.counted (engine : Engine) : Engine :=
  { engine with commandsProcessed := engine.commandsProcessed + 1 }

/-- What the guards of a command overlook is current when they pass. -/
def FenceCondition (engine : Engine) (now : Nanos) : Command → Prop
  | .revalidateSession id fence =>
      ∀ focus,
        (engine.observe now).revalidationTarget id fence = .ok focus →
        focus.session.request.workload ∈ engine.contracts
  | .pauseSession id fence _ =>
      ∀ focus, (engine.observe now).pauseTarget id fence = .ok focus →
        focus.session.request.CheckpointFence fence
  | .resumeSession id fence =>
      ∀ focus, (engine.observe now).resumeTarget id fence = .ok focus →
        focus.session.request.CheckpointFence fence
  | .cancelSession id fence _ _ =>
      ∀ focus, (engine.observe now).cancelTarget id fence = .ok focus →
        engine.authority.ContractFence focus.session.request.workload fence ∧
          focus.session.request.CheckpointFence fence
  | .reportSourceComplete evidence fence =>
      ∀ target,
        (engine.observe now).sourceCompleteTarget evidence fence =
          .ok target →
        target.focus.session.request.CheckpointFence fence
  | .reportTransfer evidence fence =>
      ∀ target,
        (engine.observe now).transferTarget evidence fence = .ok target →
        (evidence.sinkAcknowledged = true →
          evidence.arrivedBytes - target.attempt.deliveredBytes ≤
            target.focus.session.outstandingBytes) →
        target.focus.session.request.CheckpointFence fence
  | .reportVerification evidence fence =>
      ∀ target,
        (engine.observe now).verificationTarget evidence fence =
          .ok target →
        (evidence.outcome = .verified → evidence.Matches target.shard) →
        target.focus.session.request.CheckpointFence fence
  | .reportAmbiguous id attempt sequence _ fence =>
      ∀ target,
        (engine.observe now).ambiguityTarget id attempt sequence fence =
          .ok target →
        engine.authority.ContractFence
            target.focus.session.request.workload fence ∧
          target.focus.session.request.CheckpointFence fence
  | .recordDurabilityAssertion id assertion fence =>
      ∀ focus, engine.counted.durabilityTarget id assertion fence =
          .ok focus →
        engine.authority.ContractFence focus.session.request.workload fence ∧
          focus.session.request.CheckpointFence fence
  | .submitSession request fence =>
      match (engine.observe now).admissionPlan now request fence with
      | .error (.replayed record) =>
          record.kind = .admitted →
            engine.authority.ContractFence request.workload fence ∧
              request.CheckpointFence fence
      | .error (.duplicate _) => request.CheckpointFence fence
      | .error _ => True
      | .ok plan =>
          ((engine.observe now).shaper.reservePathRate plan.path
            plan.rateBps).isSome = true →
          request.CheckpointFence fence
  | _ => True

/-! ## Sessions before and after time is observed -/

/-- A session still there when time has been observed carries the request it
had before. -/
theorem Engine.Holds.exact_iff
    (holds : held.Holds id focus)
    (table : held = engine.observe now ∨ held = engine.counted) :
    (∃ session, engine.sessions.lookup id = some session ∧
        engine.authority.Exact session.request fence) ↔
      engine.authority.Exact focus.session.request fence := by
  rcases holds with ⟨rfl, rfl, stored⟩
  have earlier :
      ∃ original,
        engine.sessions.lookup focus.key = some original ∧
          focus.session.request = original.request := by
    rcases table with observed | counted
    · refine @Engine.observe_request engine now _ _ ?_
      rw [← observed]
      exact stored
    · refine ⟨focus.session, ?_, rfl⟩
      rw [show engine.sessions = focus.engine.sessions by rw [counted]; rfl]
      exact stored
  rcases earlier with ⟨original, found, same⟩
  rw [same]
  constructor
  · rintro ⟨session, known, exact_⟩
    rw [found] at known
    cases known
    exact exact_
  · exact fun exact_ => ⟨original, found, exact_⟩

theorem Engine.guarded_isOk
    {guard : Result Ticket}
    {body : Ticket → Result Value × Engine} :
    (engine.guarded guard body).1.isOk = true ↔
      ∃ ticket, guard = .ok ticket ∧ (body ticket).1.isOk = true := by
  unfold Engine.guarded
  cases guard with
  | error =>
      simp [Except.isOk, Except.toBool]
  | ok =>
      simp

/-- For a command whose guard finds a session, exactness is a statement about
the tickets of the guard. -/
theorem Engine.exactOnSuccess_iff
    (guard : Result Ticket) (body : Ticket → Result Value × Engine)
    (focusOf : Ticket → Focus)
    (addressed : command.addressee = some (id, fence))
    (table : held = engine.observe now ∨ held = engine.counted)
    (guarded :
      (engine.execute now command).1.succeeded =
        (held.guarded guard body).1.isOk)
    (holds : ∀ ticket, guard = .ok ticket → held.Holds id (focusOf ticket)) :
    engine.ExactOnSuccess now command ↔
      ∀ ticket, guard = .ok ticket → (body ticket).1.isOk = true →
        engine.authority.Exact (focusOf ticket).session.request fence := by
  constructor
  · intro whole ticket passed succeeds
    refine ((holds ticket passed).exact_iff table).mp
      (whole.1 id fence addressed ?_)
    rw [guarded, Engine.guarded_isOk]
    exact ⟨ticket, passed, succeeds⟩
  · intro whole
    refine ⟨?_, ?_⟩
    · intro other otherFence same succeeded
      rw [addressed] at same
      cases same
      rw [guarded, Engine.guarded_isOk] at succeeded
      rcases succeeded with ⟨ticket, passed, succeeds⟩
      exact ((holds ticket passed).exact_iff table).mpr
        (whole ticket passed succeeds)
    · rintro request otherFence decision rfl
      cases addressed

/-- Most commands succeed once their guards pass. -/
theorem Engine.exactOnSuccess_iff_of_total
    (guard : Result Ticket) (body : Ticket → Engine)
    (focusOf : Ticket → Focus)
    (addressed : command.addressee = some (id, fence))
    (table : held = engine.observe now ∨ held = engine.counted)
    (guarded :
      (engine.execute now command).1.succeeded =
        (held.guarded guard
          (fun ticket => ((.ok () : Result Unit), body ticket))).1.isOk)
    (holds : ∀ ticket, guard = .ok ticket → held.Holds id (focusOf ticket)) :
    engine.ExactOnSuccess now command ↔
      ∀ ticket, guard = .ok ticket →
        engine.authority.Exact (focusOf ticket).session.request fence := by
  rw [Engine.exactOnSuccess_iff guard _ focusOf addressed table guarded holds]
  simp [Except.isOk, Except.toBool]

/-! ## Every command -/

namespace EvidenceTarget

/-- An acknowledgement fails when it exceeds the outstanding authority. -/
theorem transfer_isOk :
    (target.transfer evidence now).1.isOk = true ↔
      (evidence.sinkAcknowledged = true →
        evidence.arrivedBytes - target.attempt.deliveredBytes ≤
          target.focus.session.outstandingBytes) := by
  unfold transfer
  dsimp only
  split
  · rename_i acknowledged
    split
    · rename_i exceeds
      simp [Except.isOk, Except.toBool, acknowledged, exceeds]
    · rename_i within
      simp [Except.isOk, Except.toBool, UInt64.not_lt.mp within]
  · rename_i silent
    simp [Except.isOk, Except.toBool, silent]

/-- A verification fails when it contradicts the declaration. -/
theorem verification_isOk
    {evidence : VerificationEvidence} :
    (target.verification evidence now).1.isOk = true ↔
      (evidence.outcome = .verified → evidence.Matches target.shard) := by
  unfold verification VerificationEvidence.Matches
  split
  · rename_i outcome
    split
    · rename_i size
      simp [Except.isOk, Except.toBool, outcome, size]
    · rename_i size
      rw [ne_eq, not_not] at size
      split
      · rename_i digest
        simp [Except.isOk, Except.toBool, outcome, digest]
      · rename_i digest
        rw [not_and_or, not_not, ne_eq, not_not] at digest
        simp [Except.isOk, Except.toBool, size, digest]
  all_goals
    rename_i outcome
    simp [Except.isOk, Except.toBool, outcome]

end EvidenceTarget

/-- Without a contract, revalidation still answers. -/
theorem Focus.revalidate_isOk_of_unknown
    (now : Nanos)
    (unknown :
      focus.session.request.workload ∉ focus.engine.contracts) :
    (focus.revalidate now).1.isOk = true := by
  unfold Focus.revalidate
  dsimp only
  rw [AList.lookup_eq_none.mpr unknown]
  rfl

/-- Commands that act on no session have nothing to compare. -/
theorem Engine.exactOnSuccess_of_unaddressed
    (unaddressed : command.addressee = none)
    (unsubmitted : ∀ request fence, command ≠ .submitSession request fence) :
    engine.ExactOnSuccess now command := by
  refine ⟨?_, ?_⟩
  · intro id fence addressed
    rw [unaddressed] at addressed
    cases addressed
  · intro request fence _ submitted
    exact (unsubmitted request fence submitted).elim

section Commands

variable {engine : Engine} {now : Nanos} {fence : CommandFence}

/-- A session found in the observed engine, with what remains to compare. -/
theorem Engine.workloadFenced_exact
    (passed :
      (engine.observe now).workloadFencedSession id fence = .ok focus) :
    engine.authority.Exact focus.session.request fence ↔
      focus.session.request.CheckpointFence fence := by
  rcases workloadFencedSession_fence passed with ⟨_, fabric, contract⟩
  rw [Engine.observe_authority] at fabric contract
  exact ⟨fun whole => whole.checkpoint,
    fun checkpoint => ⟨fabric, contract, checkpoint⟩⟩

theorem Engine.fenced_exact
    (unchanged : held.authority = engine.authority)
    (passed : held.fencedSession id fence = .ok focus) :
    engine.authority.Exact focus.session.request fence ↔
      engine.authority.ContractFence focus.session.request.workload fence ∧
        focus.session.request.CheckpointFence fence := by
  have fabric := (fencedSession_fence passed).2
  rw [unchanged] at fabric
  exact ⟨fun whole => ⟨whole.contract, whole.checkpoint⟩,
    fun rest => ⟨fabric, rest.1, rest.2⟩⟩

/-- Revalidation overlooks that a contract may be missing. -/
theorem Engine.revalidateSession_exact (id : SessionId) :
    engine.ExactOnSuccess now (.revalidateSession id fence) ↔
      FenceCondition engine now (.revalidateSession id fence) := by
  rw [Engine.exactOnSuccess_iff
    ((engine.observe now).revalidationTarget id fence)
    (fun focus => focus.revalidate now) (fun focus => focus) rfl (.inl rfl)
    rfl (fun _ passed => (revalidationTarget_fence passed).1)]
  refine forall_congr' fun focus => forall_congr' fun passed => ?_
  rcases revalidationTarget_fence passed with
    ⟨holds, fabric, contract, checkpoint⟩
  rw [Engine.observe_authority] at fabric contract
  rw [Engine.observe_contracts] at contract
  constructor
  · intro exactly
    by_contra unknown
    have answered : (focus.revalidate now).1.isOk = true := by
      refine Focus.revalidate_isOk_of_unknown now ?_
      rw [holds.1, Engine.observe_contracts]
      exact unknown
    rcases (exactly answered).contract with ⟨_, known, _⟩
    exact unknown (Table.mem_of_lookup known)
  · intro known _
    exact ⟨fabric, contract known, checkpoint⟩

/-- Credit requests overlook nothing. -/
theorem Engine.requestWave_exact (id : SessionId) (shard : ShardIndex) :
    engine.ExactOnSuccess now (.requestWave id shard fence) := by
  rw [Engine.exactOnSuccess_iff
    ((engine.observe now).creditHolder now id fence) _ (fun focus => focus)
    rfl (.inl rfl) rfl (fun _ passed =>
      (workloadFencedSession_fence (creditHolder_fenced passed).1).1)]
  intro focus passed _
  rcases creditHolder_fenced passed with ⟨fenced, checkpoint⟩
  exact (Engine.workloadFenced_exact fenced).mpr checkpoint

theorem Engine.reportTransfer_exact (evidence : TransferEvidence) :
    engine.ExactOnSuccess now (.reportTransfer evidence fence) ↔
      FenceCondition engine now (.reportTransfer evidence fence) := by
  rw [Engine.exactOnSuccess_iff
    ((engine.observe now).transferTarget evidence fence)
    (fun target => target.transfer evidence now)
    (fun target => target.focus) rfl (.inl rfl) rfl (fun _ passed =>
      (workloadFencedSession_fence (transferTarget_fenced passed)).1)]
  refine forall_congr' fun target => forall_congr' fun passed => ?_
  rw [EvidenceTarget.transfer_isOk,
    Engine.workloadFenced_exact (transferTarget_fenced passed)]

theorem Engine.reportVerification_exact (evidence : VerificationEvidence) :
    engine.ExactOnSuccess now (.reportVerification evidence fence) ↔
      FenceCondition engine now (.reportVerification evidence fence) := by
  rw [Engine.exactOnSuccess_iff
    ((engine.observe now).verificationTarget evidence fence)
    (fun target => target.verification evidence now)
    (fun target => target.focus) rfl (.inl rfl) rfl (fun _ passed =>
      (workloadFencedSession_fence (verificationTarget_fenced passed)).1)]
  refine forall_congr' fun target => forall_congr' fun passed => ?_
  rw [EvidenceTarget.verification_isOk,
    Engine.workloadFenced_exact (verificationTarget_fenced passed)]

/-- A command on an observed session that compares all of the fence but the
checkpoint generation. -/
theorem Engine.exactOnSuccess_of_workloadFenced
    {guard : Result Ticket} {body : Ticket → Engine}
    (focusOf : Ticket → Focus)
    (addressed : command.addressee = some (id, fence))
    (guarded :
      (engine.execute now command).1.succeeded =
        ((engine.observe now).guarded guard
          (fun ticket => ((.ok () : Result Unit), body ticket))).1.isOk)
    (fenced : ∀ ticket, guard = .ok ticket →
      (engine.observe now).workloadFencedSession id fence =
        .ok (focusOf ticket)) :
    engine.ExactOnSuccess now command ↔
      ∀ ticket, guard = .ok ticket →
        (focusOf ticket).session.request.CheckpointFence fence := by
  rw [Engine.exactOnSuccess_iff_of_total guard body focusOf addressed
    (.inl rfl) guarded
    (fun ticket passed => (workloadFencedSession_fence (fenced ticket passed)).1)]
  exact forall_congr' fun ticket => forall_congr' fun passed =>
    Engine.workloadFenced_exact (fenced ticket passed)

/-- A command that compares only the fabric-wide part of the fence. -/
theorem Engine.exactOnSuccess_of_fenced
    {guard : Result Ticket} {body : Ticket → Engine}
    (focusOf : Ticket → Focus)
    (addressed : command.addressee = some (id, fence))
    (table : held = engine.observe now ∨ held = engine.counted)
    (guarded :
      (engine.execute now command).1.succeeded =
        (held.guarded guard
          (fun ticket => ((.ok () : Result Unit), body ticket))).1.isOk)
    (fenced : ∀ ticket, guard = .ok ticket →
      held.fencedSession id fence = .ok (focusOf ticket)) :
    engine.ExactOnSuccess now command ↔
      ∀ ticket, guard = .ok ticket →
        engine.authority.ContractFence
            (focusOf ticket).session.request.workload fence ∧
          (focusOf ticket).session.request.CheckpointFence fence := by
  have unchanged : held.authority = engine.authority := by
    rcases table with rfl | rfl
    · exact engine.observe_authority now
    · rfl
  rw [Engine.exactOnSuccess_iff_of_total guard body focusOf addressed table
    guarded
    (fun ticket passed => (fencedSession_fence (fenced ticket passed)).1)]
  exact forall_congr' fun ticket => forall_congr' fun passed =>
    Engine.fenced_exact unchanged (fenced ticket passed)

/-- The decision of a submission, by where it comes from. -/
theorem Engine.submitSession_admitted
    (request : SessionRequest) :
    (∃ decision,
        (engine.submitSession now request fence).1 = .ok decision ∧
          decision.kind = .admitted) ↔
      match (engine.observe now).admissionPlan now request fence with
      | .error (.replayed record) => record.kind = .admitted
      | .error (.duplicate _) => True
      | .error _ => False
      | .ok plan =>
          ((engine.observe now).shaper.reservePathRate plan.path
            plan.rateBps).isSome = true := by
  unfold Engine.submitSession
  dsimp only
  cases (engine.observe now).admissionPlan now request fence with
  | error rejection =>
      cases rejection <;>
        simp [Engine.reject, Engine.denySubmission, Engine.deferSubmission,
          Engine.makeDecision]
  | ok plan =>
      simp only [Engine.commitAdmission]
      rw [show (engine.observe now).drawn.shaper =
        (engine.observe now).shaper from rfl]
      cases (engine.observe now).shaper.reservePathRate plan.path
          plan.rateBps <;>
        simp [Engine.denySubmission, Engine.makeDecision]

theorem Engine.submitSession_exact (request : SessionRequest) :
    engine.ExactOnSuccess now (.submitSession request fence) ↔
      FenceCondition engine now (.submitSession request fence) := by
  have restated :
      engine.ExactOnSuccess now (.submitSession request fence) ↔
        ((∃ decision,
          (engine.submitSession now request fence).1 = .ok decision ∧
            decision.kind = .admitted) →
          engine.authority.Exact request fence) := by
    constructor
    · rintro ⟨_, whole⟩ ⟨decision, answered, admitted⟩
      exact whole request fence decision rfl answered admitted
    · intro whole
      constructor
      · intro _ _ addressed
        cases addressed
      · intro _ _ decision same answered admitted
        cases same
        exact whole ⟨decision, answered, admitted⟩
  rw [restated, Engine.submitSession_admitted]
  have compared := admissionPlan_fence
    (rfl : (engine.observe now).admissionPlan now request fence = _)
  rw [Engine.observe_authority] at compared
  dsimp only [FenceCondition]
  generalize (engine.observe now).admissionPlan now request fence = answer
    at compared
  cases answer with
  | error rejection =>
      cases rejection with
      | replayed =>
          have fabric : engine.authority.FabricFence fence := by
            simpa using compared
          exact forall_congr' fun _ =>
            ⟨fun whole => ⟨whole.contract, whole.checkpoint⟩,
              fun rest => ⟨fabric, rest.1, rest.2⟩⟩
      | duplicate =>
          have current :
              engine.authority.FabricFence fence ∧
                engine.authority.ContractFence request.workload fence := by
            simpa using compared
          exact ⟨fun whole => (whole trivial).checkpoint,
            fun checkpoint _ => ⟨current.1, current.2, checkpoint⟩⟩
      | _ =>
          exact iff_of_true False.elim trivial
  | ok =>
      have current :
          engine.authority.FabricFence fence ∧
            engine.authority.ContractFence request.workload fence := by
        simpa using compared
      exact forall_congr' fun _ => ⟨fun whole => whole.checkpoint,
        fun checkpoint => ⟨current.1, current.2, checkpoint⟩⟩

end Commands

/-- A successful command carries a current fence exactly when the part of the
fence that its guards overlook is current. -/
theorem success_implies_current_fence
    (engine : Engine) (now : Nanos) (command : Command) :
    engine.ExactOnSuccess now command ↔
      FenceCondition engine now command := by
  cases command with
  | revalidateSession id =>
      exact Engine.revalidateSession_exact id
  | pauseSession =>
      exact Engine.exactOnSuccess_of_workloadFenced (fun focus => focus) rfl
        rfl (fun _ passed => Engine.pauseTarget_fenced passed)
  | resumeSession =>
      exact Engine.exactOnSuccess_of_workloadFenced (fun focus => focus) rfl
        rfl (fun _ passed => Engine.resumeTarget_fenced passed)
  | cancelSession =>
      exact Engine.exactOnSuccess_of_fenced (fun focus => focus) rfl
        (.inl rfl) rfl (fun _ passed => Engine.cancelTarget_fenced passed)
  | requestWave id shard =>
      exact iff_of_true (Engine.requestWave_exact id shard) trivial
  | reportSourceComplete =>
      exact Engine.exactOnSuccess_of_workloadFenced
        (fun target : ShardTarget => target.focus) rfl rfl
        (fun _ passed => Engine.sourceCompleteTarget_fenced passed)
  | reportTransfer evidence =>
      exact Engine.reportTransfer_exact evidence
  | reportVerification evidence =>
      exact Engine.reportVerification_exact evidence
  | reportAmbiguous =>
      exact Engine.exactOnSuccess_of_fenced
        (fun target : AttemptTarget => target.focus) rfl (.inl rfl) rfl
        (fun _ passed => Engine.ambiguityTarget_fenced passed)
  | recordDurabilityAssertion =>
      exact Engine.exactOnSuccess_of_fenced (fun focus => focus) rfl
        (.inr rfl) rfl (fun _ passed => Engine.durabilityTarget_fenced passed)
  | submitSession request =>
      exact Engine.submitSession_exact request
  | _ =>
      exact iff_of_true
        (Engine.exactOnSuccess_of_unaddressed rfl (fun _ _ => nofun)) trivial

/-- A session whose contract is then replaced. -/
def replacedContractScript : List (Nanos × Command) :=
  [(1, .submitSession (Sample.request 2 [2]) (Sample.fence 1)),
    (2, .upsertContract { Sample.contract with generation := ⟨2⟩ })]

/-- A session can be cancelled under a contract that has been replaced. -/
theorem stale_contract_cancels_session :
    ∃ history engine,
      EngineRun Sample.config 0 history engine ∧
        (engine.execute 3 (.cancelSession ⟨Sample.drawn 0⟩ (Sample.fence 1)
          .cancelledByOperator [])).1.succeeded = true ∧
        ¬ engine.ExactOnSuccess 3 (.cancelSession ⟨Sample.drawn 0⟩
          (Sample.fence 1) .cancelledByOperator []) := by
  have evaluated :
      (((Engine.construct Sample.config 0).executeAll
          replacedContractScript).2.execute 3
            (.cancelSession ⟨Sample.drawn 0⟩ (Sample.fence 1)
              .cancelledByOperator [])).1.succeeded = true ∧
        ∀ session ∈ ((Engine.construct Sample.config 0).executeAll
            replacedContractScript).2.sessions.lookup ⟨Sample.drawn 0⟩,
          ∀ contract ∈ ((Engine.construct Sample.config 0).executeAll
              replacedContractScript).2.contracts.lookup
                session.request.workload,
            (Sample.fence 1).contractGeneration ≠ contract.generation := by
    decide +kernel
  have run := Engine.executeAll_run (Engine.construct Sample.config 0)
    replacedContractScript
  generalize ((Engine.construct Sample.config 0).executeAll
    replacedContractScript).2 = engine at evaluated run
  refine ⟨_, engine, run, evaluated.1, ?_⟩
  intro whole
  rcases whole.1 _ _ rfl evaluated.1 with ⟨session, found, current⟩
  rcases current.contract with ⟨contract, known, same⟩
  exact evaluated.2 session (Option.mem_def.mpr found) contract
    (Option.mem_def.mpr known) same

end TrafficFabric
