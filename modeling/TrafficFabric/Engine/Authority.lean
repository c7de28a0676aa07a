import TrafficFabric.Engine.Focus

/-!
# Authority changes, fences and deadlines

`apply_policy`, `apply_topology`, `upsert_contract` and `advance_epoch`, the
fence checks every command shares, and the enforcement of deadlines with
which almost every command begins.
-/

namespace TrafficFabric

open Foundation

namespace Engine

/-- Run `body` when the guard succeeds; a refusal changes nothing. -/
def guarded {Ticket Value : Type}
    (engine : Engine) (guard : Result Ticket)
    (body : Ticket → Result Value × Engine) : Result Value × Engine :=
  match guard with
  | .error status => (.error status, engine)
  | .ok ticket => body ticket

end Engine

/-! ## Revalidation required -/

namespace Focus

/-- The session must be revalidated before it regains credit. -/
def withdraw (focus : Focus) (reason : Text) : Focus :=
  focus.revise (fun session => { session with
    state := .revalidationRequired
    staleReason := reason })

/-- An active session loses its envelope's authority. -/
def markStale
    (focus : Focus) (now : Nanos) (reason line : String) : Engine :=
  if isTerminal focus.session.state ∨
      focus.session.state = .revalidationRequired then
    focus.engine
  else
    (((focus.withdraw (ascii reason)).touch now).appendTimeline now
      (ascii line)).commit

/-- Attempts whose outcome was never settled become ambiguous. -/
def blurAttempt (now : Nanos) (attempt : AttemptRecord) : AttemptRecord :=
  if attempt.outcome = .granted ∨ attempt.outcome = .inFlight ∨
      attempt.outcome = .deliveredUnacked then
    { attempt with outcome := .ambiguous, updatedAt := now }
  else attempt

/-- Shards in flight become pending again. -/
def rearmShard (shard : ShardRecord) : ShardRecord :=
  if shard.state = .granted ∨ shard.state = .inFlight then
    { shard with
      state := .pending
      sequence := ⟨0⟩
      attempt := none
      grantedBytes := 0 }
  else shard

/-- What a restart does to a session once its bytes at risk are booked. -/
def rearm (focus : Focus) (now : Nanos) : Focus :=
  let blurred := focus.revise (fun session =>
    { session with attempts := session.attempts.map (blurAttempt now) })
  let lowered := blurred.book (fun accounting => { accounting with
    activeAttempts :=
      accounting.activeAttempts - blurred.session.activeAttempts })
  lowered.revise (fun session =>
    { session.releaseAttempts with
      shards := session.shards.map rearmShard
      state := .revalidationRequired
      paused := false
      staleReason :=
        ascii "coordinator restarted: authority must be re-established" })

/-- The loop body of `advance_epoch`. -/
def restart (focus : Focus) (now : Nanos) : Engine :=
  if isTerminal focus.session.state then focus.engine
  else
    let unproven := focus.markUnproven focus.session.atRiskBytes
    (((unproven.rearm now).touch now).appendTimeline now
      (ascii "revalidation required: coordinator restart")).commit

/-- The loop body of `enforce_deadlines`. -/
def expire (focus : Focus) (deadline now : Nanos) : Engine :=
  if isTerminal focus.session.state ∨
      focus.session.envelope.deadlineTarget ≠ deadline then
    focus.engine
  else
    let unproven := focus.markUnproven focus.session.outstandingBytes
    let settled := unproven.settleTerminal .failed .deadlineUnreachable
      (ascii "checkpoint deadline elapsed before completion") now
    ((settled.book (fun accounting => { accounting with
      sessionsFailed := accounting.sessionsFailed + 1 })).appendTimeline now
      (ascii "failed reason=DeadlineUnreachable")).commit

end Focus

namespace Engine

/-- The loop of `enforce_deadlines`.  Nothing it calls touches the index, so
it runs over the entries that were there at the start. -/
def enforceFrom (now : Nanos) :
    List (Nanos × List SessionId) → Engine → Engine
  | [], engine => { engine with deadlines := [] }
  | (deadline, due) :: later, engine =>
      if now < deadline then
        { engine with deadlines := (deadline, due) :: later }
      else
        enforceFrom now later
          (engine.visit due (fun focus => focus.expire deadline now))

/-- `enforce_deadlines`. -/
def enforceDeadlines (engine : Engine) (now : Nanos) : Engine :=
  enforceFrom now engine.deadlines engine

/-- The common beginning of the commands: count, then observe time. -/
def observe (engine : Engine) (now : Nanos) : Engine :=
  enforceDeadlines
    { engine with commandsProcessed := engine.commandsProcessed + 1 } now

/-! ## Authority changes -/

def applyPolicy (engine : Engine) (now : Nanos) (policy : PolicySnapshot) :
    Result Unit × Engine :=
  engine.guarded
    (do
      refuseWhen (¬ engine.policy.generation < policy.generation)
        (.error .stalePolicyGeneration
          "new policy generation must be greater than the active generation")
      validatePolicy policy)
    (fun _ =>
      let applied := { engine with policy := policy }.configureShaper now
      (.ok (), applied.visit applied.sessions.keys (fun focus =>
        focus.markStale now
          "policy generation advanced after this envelope was issued"
          "revalidation required: policy generation")))

def applyTopology
    (engine : Engine) (now : Nanos) (topology : TopologySnapshot) :
    Result Unit × Engine :=
  engine.guarded
    (do
      refuseWhen (¬ engine.topology.generation < topology.generation)
        (.error .staleTopologyGeneration
          "new topology generation must be greater than the active generation")
      validateTopology topology engine.limits)
    (fun _ =>
      let applied := { engine with topology := topology }
      (.ok (), applied.visit applied.sessions.keys (fun focus =>
        focus.markStale now
          "topology generation advanced after this envelope was issued"
          "revalidation required: topology generation")))

/-- The guards of `upsert_contract`. -/
def contractAccepted (engine : Engine) (contract : WorkloadContract) :
    Result Unit := do
  refuseWhen
    (((engine.contracts.lookup contract.workload).any
      (fun existing => ¬ existing.generation < contract.generation)))
    (.error .staleContractGeneration
      "new contract generation must be greater than the active generation")
  validateContract contract engine.limits
  refuseWhen
    (engine.limits.maxWorkloads.toNat ≤ engine.contracts.entries.length ∧
      engine.contracts.lookup contract.workload = none)
    (.error .resourceExhausted "workload contract bound reached")

def upsertContract
    (engine : Engine) (now : Nanos) (contract : WorkloadContract) :
    Result Unit × Engine :=
  engine.guarded (engine.contractAccepted contract) (fun _ =>
    let applied := { engine with
      shaper := engine.shaper.configureWorkload contract.workload
        contract.ceilingBps workloadBurstWindow now
      contracts := engine.contracts.insert contract.workload contract }
    (.ok (), applied.visit (applied.byWorkload.findD contract.workload [])
      (fun focus => focus.markStale now
        "workload contract generation advanced after this envelope was issued"
        "revalidation required: contract generation")))

def advanceEpoch
    (engine : Engine) (now : Nanos) (epoch : CoordinatorEpoch) :
    Result Unit × Engine :=
  engine.guarded
    (refuseWhen (¬ engine.epoch < epoch)
      (.error .staleEpoch "new epoch must be greater than the active epoch"))
    (fun _ =>
      let applied := { engine with epoch := epoch, deadlines := [] }
      (.ok (), applied.visit applied.sessions.keys
        (fun focus => focus.restart now)))

/-! ## Fences -/

/-- The status half of a fence verdict. -/
def fenceStatus (verdict : Except FenceRefusal Unit) : Result Unit :=
  match verdict with
  | .error refusal => .error refusal.status
  | .ok _ => .ok ()

/-- `check_fence_status`: the fabric-wide dimensions only. -/
def checkFenceStatus (engine : Engine) (fence : CommandFence) : Result Unit :=
  fenceStatus (validateFence fence
    { epoch := engine.epoch
      policyGeneration := engine.policy.generation
      topologyGeneration := engine.topology.generation
      contractGeneration := fence.contractGeneration })

/-- `validate_workload_fence`. -/
def validateWorkloadFence
    (engine : Engine) (session : SessionRecord) (fence : CommandFence) :
    Result Unit := do
  let contract ← requireSome
    (.error .staleContractGeneration
      "workload contract is no longer configured")
    (engine.contracts.lookup session.request.workload)
  refuseWhen (fence.contractGeneration ≠ contract.generation)
    (.error
      (if fence.contractGeneration < contract.generation then
        .staleContractGeneration
      else .notAuthorized)
      "command contract generation is not the active contract generation")

/-- `validate_checkpoint_generation`. -/
def validateCheckpointGeneration
    (session : SessionRecord) (fence : CommandFence) : Result Unit :=
  refuseWhen
    (fence.checkpointGeneration.any
      (fun generation => generation ≠ session.request.checkpointGeneration))
    (.error .staleCheckpointGeneration
      "command carries a checkpoint generation other than the session's")

/-- Find a session and check the fabric-wide fence. -/
def fencedSession
    (engine : Engine) (id : SessionId) (fence : CommandFence) :
    Result Focus := do
  let focus ← requireSome (.error .notFound "session is not known")
    (engine.hold id)
  engine.checkFenceStatus fence
  return focus

end Engine

end TrafficFabric
