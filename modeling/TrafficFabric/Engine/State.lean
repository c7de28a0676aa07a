import TrafficFabric.Validation
import TrafficFabric.Fence
import TrafficFabric.Shaper

/-!
# The state of the fabric engine

The records of `src/engine.cpp`, the engine itself and its construction.

Two fields stand apart.  `deadlines` is the ordered index `deadlines_`, kept
as a list sorted by its keys.  `underflow` is not in the source: it records
whether a byte counter was ever decreased below zero, which the machine word
alone would hide.
-/

namespace TrafficFabric

open Foundation

/-! ## Records -/

structure ShardRecord where
  index : ShardIndex
  declaredBytes : UInt64 := 0
  declaredDigest : Digest := {}
  pathClass : PathClassId := ⟨0⟩
  state : ShardState := .pending
  sequence : AttemptSequence := ⟨0⟩
  attempt : Option TransferAttemptId := none
  grantedBytes : UInt64 := 0
  transferredBytes : UInt64 := 0
  verifiedBytes : UInt64 := 0
  observedDigest : Digest := {}
  hasObservedDigest : Bool := false
  sourceComplete : Bool := false
  sourceBytes : UInt64 := 0
deriving DecidableEq

structure AttemptRecord where
  id : TransferAttemptId
  sequence : AttemptSequence := ⟨0⟩
  shard : ShardIndex
  wave : WaveIndex := ⟨0⟩
  outcome : AttemptOutcome := .granted
  grantedBytes : UInt64 := 0
  deliveredBytes : UInt64 := 0
  observedDigest : Digest := {}
  hasObservedDigest : Bool := false
  outstanding : Bool := false
  grantedAt : Nanos := 0
  updatedAt : Nanos := 0
deriving DecidableEq

structure SessionRecord where
  id : SessionId
  request : SessionRequest
  state : SessionState := .admitted
  evidence : EvidenceLevel := .none
  durability : DurabilityAssertion := {}
  envelope : TrafficEnvelope := {}
  envelopeSequence : UInt64 := 0
  attemptCounter : UInt64 := 0
  shards : List ShardRecord := []
  attempts : List AttemptRecord := []
  timeline : List Text := []
  admittedBytes : UInt64 := 0
  transferredBytes : UInt64 := 0
  verifiedBytes : UInt64 := 0
  cancelledBytes : UInt64 := 0
  wastedBytes : UInt64 := 0
  unprovenBytes : UInt64 := 0
  outstandingBytes : UInt64 := 0
  activeAttempts : UInt32 := 0
  sourceComplete : Bool := false
  paused : Bool := false
  pausedFrom : SessionState := .admitted
  reservedPath : Option PathClassId := none
  reservedRateBps : UInt64 := 0
  createdAt : Nanos := 0
  updatedAt : Nanos := 0
  lastReason : ReasonCode := .admitted
  lastDetail : Text := []
  staleReason : Text := []
  supersededBy : Option SessionId := none
deriving DecidableEq

/-- What the replay index remembers about a decided command. -/
structure CommandRecord where
  session : SessionId
  kind : DecisionKind := .admitted
  reason : ReasonCode := .admitted
  fingerprint : UInt64 := 0
  hasSession : Bool := false
deriving DecidableEq

/-- Byte totals of the sessions evicted so far. -/
structure PrunedTotals where
  admitted : UInt64 := 0
  transferred : UInt64 := 0
  verified : UInt64 := 0
  cancelled : UInt64 := 0
  wasted : UInt64 := 0
  unproven : UInt64 := 0
deriving DecidableEq

structure EngineConfig where
  policy : PolicySnapshot
  topology : TopologySnapshot
  contracts : List WorkloadContract
  epoch : CoordinatorEpoch
  limits : Limits := {}
  identitySeed : UInt64 := 0x5DEECE66D

/-- `FabricEngine::Impl`. -/
structure Engine where
  limits : Limits
  policy : PolicySnapshot
  topology : TopologySnapshot
  contracts : Table WorkloadId WorkloadContract
  epoch : CoordinatorEpoch
  shaper : RateShaper := {}
  sessions : Table SessionId SessionRecord := ∅
  byWorkload : Table WorkloadId (List SessionId) := ∅
  byCheckpoint : Table CheckpointId (List SessionId) := ∅
  commandIndex : Table CommandId CommandRecord := ∅
  commandOrder : List CommandId := []
  commandIndexBound : Nat := 256
  accounting : AccountingSnapshot := {}
  commandsProcessed : UInt64 := 0
  shuttingDown : Bool := false
  classActive : IsolationClass → UInt32 := fun _ => 0
  workloadActive : Table WorkloadId UInt32 := ∅
  terminalOrder : List SessionId := []
  pruned : PrunedTotals := {}
  retentionBound : Nat := 2048
  idFactory : IdFactory
  configStatus : Result Unit := .ok ()
  deadlines : List (Nanos × List SessionId) := []
  underflow : Bool := false

/-! ## Construction -/

/-- `kNanosPerMillisecond * 100`, the burst window of workloads. -/
def workloadBurstWindow : Nanos := 100000000

/-- The least and the largest bound of the replay index around `bound * 4`. -/
def commandBound (timelineBound : Nat) : Nat :=
  max 64 (min (timelineBound * 4) 4096)

namespace Engine

/-- `timeline_bound`. -/
def timelineBound (engine : Engine) : Nat :=
  let bound := engine.policy.retainedHistory.toNat
  if bound = 0 then 1 else bound

/-- `configure_shaper`. -/
def configureShaper (engine : Engine) (now : Nanos) : Engine :=
  let withClasses :=
    engine.policy.envelopes.foldl
      (fun shaper envelope =>
        shaper.configureClass envelope.isolation envelope.ceilingBps
          envelope.burstWindowNs.toInt64 now)
      engine.shaper
  { engine with
    shaper := engine.contracts.entries.foldl
      (fun shaper entry =>
        shaper.configureWorkload entry.1 entry.2.ceilingBps
          workloadBurstWindow now)
      withClasses }

/-- Validation of the initial configuration. -/
def validateConfig
    (config : EngineConfig) (contracts : Table WorkloadId WorkloadContract) :
    Result Unit := do
  validatePolicy config.policy
  validateTopology config.topology config.limits
  refuseWhen (contracts.entries = [])
    (.error .invalidArgument
      "engine requires at least one workload contract")
  contracts.values.forM (fun contract =>
    validateContract contract config.limits)
  refuseWhen
    (config.epoch.incarnation.isZero ∨ config.epoch.term.isZero)
    (.error .invalidArgument "engine requires a non-zero coordinator epoch")

/-- The constructor; an invalid configuration yields an engine that is
already shutting down. -/
def construct (config : EngineConfig) (now : Nanos) : Engine :=
  let contracts := config.contracts.foldl
    (fun table contract => table.emplace contract.workload contract) ∅
  let configStatus := validateConfig config contracts
  let engine : Engine :=
    { limits := config.limits
      policy := config.policy
      topology := config.topology
      contracts := contracts
      epoch := config.epoch
      idFactory := ⟨config.identitySeed, 0⟩
      configStatus := configStatus }
  match configStatus with
  | .error _ => { engine with shuttingDown := true }
  | .ok _ =>
      { engine.configureShaper now with
        retentionBound :=
          max 64 (min config.limits.maxSessions.toNat
            (config.policy.retainedHistory.toNat * 8))
        commandIndexBound := commandBound engine.timelineBound }

end Engine

end TrafficFabric
