import TrafficFabric.Engine.Authority

/-!
# Planning an admission

The parts of `submit_session` and `revalidate_session` that decide without
changing the engine: the replay fingerprint, the rate plan, the envelope and
the chain of admission checks.
-/

namespace TrafficFabric

open Foundation

/-! ## Replay -/

/-- `mix64`. -/
def mix64 (hash value : UInt64) : UInt64 :=
  (hash ^^^ value) * 0x100000001B3

def DestinationClass.code : DestinationClass → UInt8
  | .localAttachedStore => 0
  | .remoteObjectStore => 1
  | .peerNodeMemory => 2
  | .syntheticLab => 3

/-- `fingerprint_request`. -/
def fingerprintRequest (request : SessionRequest) : UInt64 :=
  let digest := computeManifestDigest request.manifest
  let words : List UInt64 :=
    request.checkpoint.value.bytes.map UInt8.toUInt64 ++
      [request.checkpointGeneration.value] ++
      request.workload.value.bytes.map UInt8.toUInt64 ++
      [request.contractGeneration.value, request.policyGeneration.value,
        request.topologyGeneration.value,
        (isolationRank request.requestedIsolation).toUInt64,
        request.destination.code.toUInt64, request.requestedRateBps,
        request.deadlineHorizonNs.toUInt64, request.manifest.totalBytes,
        request.manifest.shards.length.toUInt64, digest.crc.toUInt64,
        digest.fnv]
  words.foldl mix64 0xCBF29CE484222325

/-- `remember_command`. -/
def Engine.rememberCommand
    (engine : Engine) (command : CommandId) (record : CommandRecord) :
    Engine :=
  let bound := commandBound engine.timelineBound
  let known := command ∈ engine.commandIndex
  let order :=
    if known then engine.commandOrder else engine.commandOrder ++ [command]
  let dropped := if known then [] else order.take (order.length - bound)
  { engine with
    commandIndexBound := bound
    commandOrder := order.drop dropped.length
    commandIndex :=
      (dropped.foldl (fun index old => index.erase old)
        engine.commandIndex).insert command record }

/-- `make_decision`. -/
def Engine.makeDecision
    (engine : Engine) (kind : DecisionKind) (reason : ReasonCode)
    (detail : Text) (session : SessionId) (now : Nanos) :
    AdmissionDecision where
  kind := kind
  reason := reason
  detail := detail
  session := session
  epoch := engine.epoch
  decidedAt := now

/-! ## Envelopes -/

/-- The wave loop of `build_envelope`.  A new plan starts from `WavePlan{}`,
so its index is one whichever wave it is. -/
def buildWaves (waveWidth : UInt32) :
    List ShardDescriptor → WavePlan → UInt32 → List WavePlan
  | [], plan, _ => if plan.shards = [] then [] else [plan]
  | shard :: rest, plan, inWave =>
      if inWave = waveWidth then
        plan :: buildWaves waveWidth rest
          { index := ⟨({} : WavePlan).index.value + 1⟩
            shards := [shard.index]
            plannedBytes := shard.declaredBytes } 1
      else
        buildWaves waveWidth rest
          { plan with
            shards := plan.shards ++ [shard.index]
            plannedBytes := plan.plannedBytes + shard.declaredBytes }
          (inWave + 1)

/-- `build_envelope`. -/
def buildEnvelope
    (request : SessionRequest) (session : SessionId)
    (isolation : IsolationClass) (path : PathClassId)
    (rateBps burstBytes : UInt64) (waveWidth : UInt32)
    (now deadlineTarget : Nanos) (envelopeSequence : UInt64) :
    TrafficEnvelope where
  session := session
  sequence := ⟨envelopeSequence⟩
  isolation := isolation
  rateBps := rateBps
  burstBytes := burstBytes
  waveWidth := waveWidth
  waves := buildWaves waveWidth request.manifest.shards {} 0
  pathClass := some path
  issuedAt := now
  deadlineTarget := deadlineTarget

/-- The number of shards in a wave. -/
def chooseWaveWidth
    (contract : WorkloadContract) (policy : PolicySnapshot)
    (shards : Nat) : UInt32 :=
  max 1 (min (min contract.maxShardsPerWave policy.maxWaveWidth)
    shards.toUInt32)

/-- A tenth of a second's worth of the rate, at least 64 KiB. -/
def chooseBurst (rateBps : UInt64) : UInt64 :=
  max (rateBps / 10) 65536

/-- The requested deadline horizon, or the contract's budget. -/
def chooseHorizon
    (request : SessionRequest) (contract : WorkloadContract) : Nanos :=
  if 0 < request.deadlineHorizonNs then request.deadlineHorizonNs
  else contract.deadlineBudgetNs

/-! ## Rates -/

/-- `ceil_rate`. -/
def ceilRate (bytes : UInt64) (horizonNs : Nanos) : UInt64 :=
  if horizonNs ≤ 0 then 18446744073709551615
  else
    let horizon := horizonNs.toUInt64
    let whole := bytes / horizon
    let remainder := bytes % horizon
    whole * nanosPerSecondU64 +
      (remainder * nanosPerSecondU64 + horizon - 1) / horizon

/-- Why no rate can be planned. -/
structure RateRefusal where
  reason : ReasonCode
  detail : Text
  retryAfter : Option Nanos := none
deriving DecidableEq

/-- Refusals that no later moment can lift. -/
def RateRefusal.permanent (refusal : RateRefusal) : Bool :=
  refusal.reason == .requestedRateUnsupported ||
    refusal.reason == .deadlineUnreachable

/-- `plan_rate`. -/
def Engine.planRate
    (engine : Engine) (request : SessionRequest)
    (contract : WorkloadContract) (envelope : IsolationEnvelopeConfig)
    (path : PathClass) (now : Nanos) : Except RateRefusal UInt64 := do
  let hardCeiling := min envelope.ceilingBps contract.ceilingBps
  let reserved := engine.shaper.reservedPathRate path.id
  let headroom :=
    if reserved < path.capacityBps then path.capacityBps - reserved else 0
  let requested :=
    if request.requestedRateBps = 0 then hardCeiling
    else request.requestedRateBps
  refuseWhen (envelope.ceilingBps < requested)
    { reason := .requestedRateUnsupported
      detail := ascii "requested rate exceeds the isolation-class ceiling" }
  refuseWhen (contract.ceilingBps < requested)
    { reason := .requestedRateUnsupported
      detail := ascii "requested rate exceeds the workload-contract ceiling" }
  let required :=
    ceilRate request.manifest.totalBytes (chooseHorizon request contract)
  refuseWhen (envelope.ceilingBps < required)
    { reason := .deadlineUnreachable
      detail := ascii
        "deadline cannot be met even at the isolation-class ceiling" }
  let rate := min (max requested required) hardCeiling
  refuseWhen (headroom < rate)
    { reason := .pathCapacityUnavailable
      detail := ascii
        "path class has no unreserved capacity for this session"
      retryAfter := some (now + engine.policy.deferHorizonNs) }
  refuseWhen (rate = 0)
    { reason := .creditUnavailable
      detail := ascii "no rate can be granted under current obligations"
      retryAfter := some (now + engine.policy.deferHorizonNs) }
  return rate

/-- The rate that a request asks `plan_rate` for. -/
def requestedRate
    (request : SessionRequest) (contract : WorkloadContract)
    (envelope : IsolationEnvelopeConfig) : UInt64 :=
  if request.requestedRateBps = 0 then
    min envelope.ceilingBps contract.ceilingBps
  else request.requestedRateBps

/-- The rate that `plan_rate` computes. -/
def plannedRate
    (request : SessionRequest) (contract : WorkloadContract)
    (envelope : IsolationEnvelopeConfig) : UInt64 :=
  min
    (max (requestedRate request contract envelope)
      (ceilRate request.manifest.totalBytes (chooseHorizon request contract)))
    (min envelope.ceilingBps contract.ceilingBps)

/-! ## The admission checks -/

/-- How a submission ends without a new session. -/
inductive Rejection where
  | refused (status : Status)
  | replayed (record : CommandRecord)
  | denied (reason : ReasonCode) (detail : Text)
  | deferred (reason : ReasonCode) (detail : Text) (retryAfter : Nanos)
  | duplicate (existing : SessionRecord)

/-- A denial with a literal explanation. -/
def Rejection.deny (reason : ReasonCode) (detail : String) : Rejection :=
  .denied reason (ascii detail)

/-- What the checks establish for a new session. -/
structure AdmissionPlan where
  contract : WorkloadContract
  isolation : IsolationClass
  path : PathClassId
  rateBps : UInt64
  targets : List SessionId

/-- A status failure as a rejection. -/
def refusing {Value : Type} (result : Result Value) :
    Except Rejection Value :=
  match result with
  | .error status => .error (.refused status)
  | .ok value => .ok value

/-- An invalid manifest as a denial that quotes the failure. -/
def denyingManifest (result : Result Unit) : Except Rejection Unit :=
  match result with
  | .error status => .error (.denied .manifestInvalid status.toText)
  | .ok _ => .ok ()

/-- Traffic is never admitted into a class laxer than its contract. -/
def chooseIsolation
    (request : SessionRequest) (contract : WorkloadContract) :
    IsolationClass :=
  if isolationRank request.requestedIsolation ≤
      isolationRank contract.isolation then
    request.requestedIsolation
  else contract.isolation

/-- A shard names a path class that is absent or serves another
destination. -/
def Engine.misroutes
    (engine : Engine) (request : SessionRequest)
    (shard : ShardDescriptor) : Bool :=
  shard.pathClass.value ≠ 0 &&
    (findPathClass engine.topology shard.pathClass).all
      (fun path => path.destination ≠ request.destination)

/-- The loop over the existing sessions of a checkpoint: the identities of
the active sessions to supersede. -/
def Engine.supersedeTargets
    (engine : Engine) (request : SessionRequest) :
    List SessionId → Except Rejection (List SessionId)
  | [] => .ok []
  | id :: rest =>
      match engine.sessions.lookup id with
      | none => engine.supersedeTargets request rest
      | some existing => do
          refuseWhen
            (request.checkpointGeneration <
              existing.request.checkpointGeneration)
            (Rejection.deny .checkpointGenerationStale
              "a newer checkpoint generation has already been admitted for this checkpoint")
          if isTerminal existing.state then
            engine.supersedeTargets request rest
          else
            refuseWhen
              (existing.request.checkpointGeneration =
                  request.checkpointGeneration ∧
                manifestsEquivalent existing.request.manifest
                  request.manifest)
              (Rejection.duplicate existing)
            refuseWhen
              (existing.request.checkpointGeneration =
                request.checkpointGeneration)
              (Rejection.deny .manifestMismatch
                "checkpoint generation already has an active session with a different manifest")
            let targets ← engine.supersedeTargets request rest
            return id :: targets

/-- Fence, consistency and replay: the checks before any decision. -/
def Engine.submissionFenced
    (engine : Engine) (request : SessionRequest) (fence : CommandFence) :
    Except Rejection Unit := do
  refusing (engine.checkFenceStatus fence)
  refuseWhen (request.policyGeneration ≠ fence.policyGeneration)
    (.refused (.error .stalePolicyGeneration
      "request policy generation contradicts the command fence"))
  refuseWhen (request.topologyGeneration ≠ fence.topologyGeneration)
    (.refused (.error .staleTopologyGeneration
      "request topology generation contradicts the command fence"))
  refuseWhen (request.contractGeneration ≠ fence.contractGeneration)
    (.refused (.error .staleContractGeneration
      "request contract generation contradicts the command fence"))
  match engine.commandIndex.lookup request.command with
  | none => return ()
  | some record =>
      refuseWhen (record.fingerprint ≠ fingerprintRequest request)
        (.refused (.error .replayDetected
          "command id was used for a different request"))
      throw (.replayed record)

/-- The manifest checks of `submit_session`. -/
def Engine.manifestAccepted
    (engine : Engine) (request : SessionRequest) :
    Except Rejection Unit := do
  denyingManifest (validateManifest request.manifest engine.limits)
  refuseWhen
    (request.manifest.checkpoint ≠ request.checkpoint ∨
      request.manifest.generation ≠ request.checkpointGeneration ∨
      request.manifest.workload ≠ request.workload ∨
      request.manifest.contractGeneration ≠ request.contractGeneration)
    (Rejection.deny .manifestMismatch
      "manifest identity contradicts the request envelope")

/-- A rate refusal ends a submission in a denial or a deferral. -/
def Engine.rateRejection
    (engine : Engine) (now : Nanos) (refusal : RateRefusal) : Rejection :=
  if refusal.permanent then .denied refusal.reason refusal.detail
  else
    .deferred refusal.reason refusal.detail
      (refusal.retryAfter.getD (now + engine.policy.deferHorizonNs))

/-- The session bounds of the fabric, the workload and the class. -/
def Engine.boundsAvailable
    (engine : Engine) (now : Nanos) (request : SessionRequest)
    (contract : WorkloadContract) (envelope : IsolationEnvelopeConfig)
    (isolation : IsolationClass) : Except Rejection Unit := do
  let retry := now + engine.policy.deferHorizonNs
  refuseWhen
    (¬ engine.accounting.activeSessions < engine.policy.maxSessions)
    (.deferred .fabricSessionLimit
      (ascii "fabric session bound reached") retry)
  refuseWhen
    (contract.maxInFlightSessions ≤
      engine.workloadActive.findD request.workload 0)
    (.deferred .sessionLimitPerWorkload
      (ascii "workload session bound reached") retry)
  refuseWhen (envelope.maxInFlightSessions ≤ engine.classActive isolation)
    (.deferred .classCeilingSaturated
      (ascii "isolation-class session bound reached") retry)

/-- All checks of `submit_session`, in the order of the source. -/
def Engine.admissionPlan
    (engine : Engine) (now : Nanos) (request : SessionRequest)
    (fence : CommandFence) : Except Rejection AdmissionPlan := do
  engine.submissionFenced request fence
  refuseWhen (engine.shuttingDown)
    (Rejection.deny .fabricShuttingDown "fabric is shutting down")
  let contract ← requireSome
    (Rejection.deny .unknownWorkload "workload contract is not configured")
    (engine.contracts.lookup request.workload)
  refuseWhen (request.contractGeneration ≠ contract.generation)
    (Rejection.deny .contractGenerationStale
      "request carries a workload-contract generation that is not current")
  engine.manifestAccepted request
  let isolation := chooseIsolation request contract
  let envelope ← requireSome
    (Rejection.deny .internal "isolation class has no configured envelope")
    (findEnvelope engine.policy isolation)
  let pathId ← requireSome
    (Rejection.deny .destinationNotPermitted
      "topology has no path class for the requested destination")
    (defaultPathClassFor engine.topology request.destination)
  refuseWhen (request.manifest.shards.any (engine.misroutes request))
    (Rejection.deny .destinationNotPermitted
      "shard names a path class that is absent or serves another destination")
  let path ← requireSome
    (Rejection.deny .destinationNotPermitted
      "topology path class is not resolvable")
    (findPathClass engine.topology pathId)
  let targets ← engine.supersedeTargets request
    (engine.byCheckpoint.findD request.checkpoint [])
  refuseWhen (targets ≠ [] ∧ ¬ contract.allowSupersession)
    (Rejection.deny .supersessionDeniedByPolicy
      "workload contract forbids superseding an active checkpoint generation")
  refuseWhen (engine.limits.maxSupersessionChain.toNat < targets.length)
    (Rejection.deny .resourceLimit
      "supersession chain exceeds the configured bound")
  refuseWhen (engine.policy.maxSessionBytes < request.manifest.totalBytes)
    (Rejection.deny .checkpointTooLarge
      "checkpoint exceeds the per-session byte bound")
  engine.boundsAvailable now request contract envelope isolation
  match engine.planRate request contract envelope path now with
  | .error refusal => throw (engine.rateRejection now refusal)
  | .ok rate =>
      return {
        contract := contract
        isolation := isolation
        path := pathId
        rateBps := rate
        targets := targets }

end TrafficFabric
