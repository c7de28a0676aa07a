import TrafficFabric.Engine.Authority

/-!
# Export and restore

The persistable state of `include/ctf/engine.hpp`, `export_snapshot` and
`restore`.
-/

namespace TrafficFabric

open Foundation

/-! ## Persistable records -/

structure PersistedShard where
  index : ShardIndex
  state : ShardState := .pending
  sequence : AttemptSequence := ⟨0⟩
  grantedBytes : UInt64 := 0
  transferredBytes : UInt64 := 0
  verifiedBytes : UInt64 := 0
  observedDigest : Digest := {}
  hasObservedDigest : Bool := false
  attempt : Option TransferAttemptId := none
  sourceComplete : Bool := false
  sourceBytes : UInt64 := 0
deriving DecidableEq

structure PersistedAttempt where
  id : TransferAttemptId
  sequence : AttemptSequence := ⟨0⟩
  shard : ShardIndex
  wave : WaveIndex := ⟨0⟩
  outcome : AttemptOutcome := .granted
  grantedBytes : UInt64 := 0
  deliveredBytes : UInt64 := 0
  observedDigest : Digest := {}
  hasObservedDigest : Bool := false
  outstanding : Bool := false
  grantedAt : Nanos := 0
  updatedAt : Nanos := 0
deriving DecidableEq

structure PersistedSession where
  session : SessionId
  request : SessionRequest
  state : SessionState := .submitted
  evidence : EvidenceLevel := .none
  envelope : TrafficEnvelope := {}
  envelopeSequence : UInt64 := 0
  attemptCounter : UInt64 := 0
  shards : List PersistedShard := []
  attempts : List PersistedAttempt := []
  timeline : List Text := []
  admittedBytes : UInt64 := 0
  transferredBytes : UInt64 := 0
  verifiedBytes : UInt64 := 0
  cancelledBytes : UInt64 := 0
  wastedBytes : UInt64 := 0
  unprovenBytes : UInt64 := 0
  outstandingBytes : UInt64 := 0
  activeAttempts : UInt32 := 0
  sourceComplete : Bool := false
  paused : Bool := false
  createdAt : Nanos := 0
  updatedAt : Nanos := 0
  lastReason : ReasonCode := .admitted
  lastDetail : Text := []
  staleReason : Text := []
  supersededBy : Option SessionId := none
deriving DecidableEq

structure ContractGenerationRecord where
  workload : WorkloadId
  generation : WorkloadContractGeneration
deriving DecidableEq

structure EngineSnapshot where
  epoch : CoordinatorEpoch := ⟨⟨0⟩, ⟨0⟩⟩
  policyGeneration : PolicyGeneration := ⟨0⟩
  topologyGeneration : TopologyGeneration := ⟨0⟩
  contractGenerations : List ContractGenerationRecord := []
  sessions : List PersistedSession := []
  accounting : AccountingSnapshot := {}
  commandsProcessed : UInt64 := 0
deriving DecidableEq

/-! ## Export -/

def persistShard (shard : ShardRecord) : PersistedShard where
  index := shard.index
  state := shard.state
  sequence := shard.sequence
  grantedBytes := shard.grantedBytes
  transferredBytes := shard.transferredBytes
  verifiedBytes := shard.verifiedBytes
  observedDigest := shard.observedDigest
  hasObservedDigest := shard.hasObservedDigest
  attempt := shard.attempt
  sourceComplete := shard.sourceComplete
  sourceBytes := shard.sourceBytes

def persistAttempt (attempt : AttemptRecord) : PersistedAttempt where
  id := attempt.id
  sequence := attempt.sequence
  shard := attempt.shard
  wave := attempt.wave
  outcome := attempt.outcome
  grantedBytes := attempt.grantedBytes
  deliveredBytes := attempt.deliveredBytes
  observedDigest := attempt.observedDigest
  hasObservedDigest := attempt.hasObservedDigest
  outstanding := attempt.outstanding
  grantedAt := attempt.grantedAt
  updatedAt := attempt.updatedAt

def persistSession (session : SessionRecord) : PersistedSession where
  session := session.id
  request := session.request
  state := session.state
  evidence := session.evidence
  envelope := session.envelope
  envelopeSequence := session.envelopeSequence
  attemptCounter := session.attemptCounter
  shards := session.shards.map persistShard
  attempts := session.attempts.map persistAttempt
  timeline := session.timeline
  admittedBytes := session.admittedBytes
  transferredBytes := session.transferredBytes
  verifiedBytes := session.verifiedBytes
  cancelledBytes := session.cancelledBytes
  wastedBytes := session.wastedBytes
  unprovenBytes := session.unprovenBytes
  outstandingBytes := session.outstandingBytes
  activeAttempts := session.activeAttempts
  sourceComplete := session.sourceComplete
  paused := session.paused
  createdAt := session.createdAt
  updatedAt := session.updatedAt
  lastReason := session.lastReason
  lastDetail := session.lastDetail
  staleReason := session.staleReason
  supersededBy := session.supersededBy

/-- Record a contract generation unless its workload is already listed. -/
def recordGeneration
    (records : List ContractGenerationRecord)
    (workload : WorkloadId) (generation : WorkloadContractGeneration) :
    List ContractGenerationRecord :=
  if records.any (fun record => record.workload == workload) then records
  else records ++ [⟨workload, generation⟩]

/-- `export_snapshot`. -/
def Engine.exportSnapshot (engine : Engine) : EngineSnapshot where
  epoch := engine.epoch
  policyGeneration := engine.policy.generation
  topologyGeneration := engine.topology.generation
  contractGenerations :=
    let fromSessions := engine.sessions.values.foldl
      (fun records session => recordGeneration records
        session.request.workload session.request.contractGeneration) []
    engine.contracts.entries.foldl
      (fun records entry =>
        recordGeneration records entry.1 entry.2.generation) fromSessions
  sessions := engine.sessions.values.map persistSession
  accounting := engine.accounting
  commandsProcessed := engine.commandsProcessed

/-! ## Restore -/

def restoreShard
    (shard : PersistedShard) (descriptor : ShardDescriptor) :
    ShardRecord where
  index := shard.index
  declaredBytes := descriptor.declaredBytes
  declaredDigest := descriptor.declaredDigest
  pathClass := descriptor.pathClass
  state := shard.state
  sequence := shard.sequence
  attempt := shard.attempt
  grantedBytes := shard.grantedBytes
  transferredBytes := shard.transferredBytes
  verifiedBytes := shard.verifiedBytes
  observedDigest := shard.observedDigest
  hasObservedDigest := shard.hasObservedDigest
  sourceComplete := shard.sourceComplete
  sourceBytes := shard.sourceBytes

/-- Attempts whose outcome was never settled hold the bytes at risk. -/
def restoreAttempt (attempt : PersistedAttempt) : AttemptRecord :=
  let unsettled :=
    attempt.outcome == .granted || attempt.outcome == .inFlight ||
      attempt.outcome == .deliveredUnacked
  { id := attempt.id
    sequence := attempt.sequence
    shard := attempt.shard
    wave := attempt.wave
    outcome := if unsettled then .ambiguous else attempt.outcome
    grantedBytes := attempt.grantedBytes
    deliveredBytes := attempt.deliveredBytes
    observedDigest := attempt.observedDigest
    hasObservedDigest := attempt.hasObservedDigest
    outstanding := unsettled
    grantedAt := attempt.grantedAt
    updatedAt := attempt.updatedAt }

/-- The shard loop of `restore`. -/
def restoreShards :
    List PersistedShard → List ShardDescriptor → Result (List ShardRecord)
  | shard :: shards, descriptor :: descriptors => do
      refuseWhen (shard.index ≠ descriptor.index)
        (.error .corruptState
          "persisted shard ordering does not match the manifest")
      let rest ← restoreShards shards descriptors
      return restoreShard shard descriptor :: rest
  | _, _ => .ok []

/-- The record made from a persisted session.  `paused`, the reservation and
the durability assertion are not restored. -/
def restoredRecord
    (persisted : PersistedSession) (shards : List ShardRecord) :
    SessionRecord where
  id := persisted.session
  request := persisted.request
  state := persisted.state
  evidence := persisted.evidence
  envelope := persisted.envelope
  envelopeSequence := persisted.envelopeSequence
  attemptCounter := persisted.attemptCounter
  shards := shards
  attempts := persisted.attempts.map restoreAttempt
  timeline := persisted.timeline
  admittedBytes := persisted.admittedBytes
  transferredBytes := persisted.transferredBytes
  verifiedBytes := persisted.verifiedBytes
  cancelledBytes := persisted.cancelledBytes
  wastedBytes := persisted.wastedBytes
  unprovenBytes := persisted.unprovenBytes
  outstandingBytes := persisted.outstandingBytes
  sourceComplete := persisted.sourceComplete
  createdAt := persisted.createdAt
  updatedAt := persisted.updatedAt
  lastReason := persisted.lastReason
  lastDetail := persisted.lastDetail
  staleReason := persisted.staleReason
  supersededBy := persisted.supersededBy

/-- The session loop of `restore`. -/
def restoreSessions (limits : Limits) :
    Table SessionId SessionRecord → List PersistedSession →
      Result (Table SessionId SessionRecord)
  | restored, [] => .ok restored
  | restored, persisted :: rest => do
      refuseWhen (persisted.session.isNil)
        (.error .corruptState "persisted session has a nil identity")
      refuseWhen (persisted.session ∈ restored)
        (.error .duplicateIdentity "persisted state repeats a session id")
      match validateManifest persisted.request.manifest limits with
      | .error status =>
          .error ⟨.corruptState,
            ascii "persisted session manifest is invalid: " ++ status.toText⟩
      | .ok _ => .ok ()
      refuseWhen
        (persisted.shards.length ≠ persisted.request.manifest.shards.length)
        (.error .corruptState
          "persisted session shard table does not match its manifest")
      refuseWhen
        (isTerminal persisted.state ∧ persisted.outstandingBytes ≠ 0)
        (.error .corruptState
          "terminal persisted session retains outstanding authority")
      let shards ←
        restoreShards persisted.shards persisted.request.manifest.shards
      restoreSessions limits
        (restored.emplace persisted.session (restoredRecord persisted shards))
        rest

/-- The loop body that takes dynamic authority away from a restored
session. -/
def Focus.quiesce (focus : Focus) (now : Nanos) : Engine :=
  if isTerminal focus.session.state then focus.engine
  else
    let unproven := focus.markUnproven focus.session.atRiskBytes
    ((unproven.revise (fun session =>
      { session.releaseAttempts with
        shards := session.shards.map Focus.rearmShard
        state := .revalidationRequired
        paused := false
        staleReason :=
          if session.staleReason = [] then
            ascii "coordinator restarted: authority must be re-established"
          else session.staleReason
        updatedAt := now })).appendTimeline now
      (ascii "restored: revalidation required")).commit

/-- The counters are derived from the restored table. -/
def Engine.recountSession (engine : Engine) (session : SessionRecord) :
    Engine :=
  let booked := engine.book (fun accounting => { accounting with
    grantedOutstandingBytes :=
      accounting.grantedOutstandingBytes + session.outstandingBytes })
  if isTerminal session.state then
    { booked with terminalOrder := booked.terminalOrder ++ [session.id] }
  else booked.activate session

/-- The guards of `restore`, yielding the restored table. -/
def Engine.restorable (engine : Engine) (snapshot : EngineSnapshot) :
    Result (Table SessionId SessionRecord) := do
  refuseWhen (¬ snapshot.accounting.conserves)
    (.error .corruptState "persisted accounting does not conserve bytes")
  refuseWhen (engine.policy.generation < snapshot.policyGeneration)
    (.error .stalePolicyGeneration
      "configured policy is older than the persisted policy generation")
  refuseWhen (engine.topology.generation < snapshot.topologyGeneration)
    (.error .staleTopologyGeneration
      "configured topology is older than the persisted topology generation")
  refuseWhen (engine.limits.maxSessions.toNat < snapshot.sessions.length)
    (.error .resourceExhausted
      "persisted session count exceeds the configured bound")
  restoreSessions engine.limits ∅ snapshot.sessions

/-- `restore`. -/
def Engine.restore
    (engine : Engine) (now : Nanos) (snapshot : EngineSnapshot) :
    Result Unit × Engine :=
  engine.guarded (engine.restorable snapshot) (fun restored =>
    let loaded := { engine with
      sessions := restored
      accounting := { snapshot.accounting with activeAttempts := 0 }
      commandsProcessed := snapshot.commandsProcessed
      epoch := snapshot.epoch
      commandIndex := ∅
      commandOrder := [] }.rebuildIndexes
    let quiet := loaded.visit loaded.sessions.keys
      (fun focus => focus.quiesce now)
    let cleared := { quiet with
      classActive := fun _ => 0
      workloadActive := ∅
      terminalOrder := []
      deadlines := []
      accounting := { quiet.accounting with
        activeSessions := 0
        grantedOutstandingBytes := 0 } }
    let counted := cleared.sessions.values.foldl Engine.recountSession cleared
    (.ok (), counted.sessions.values.foldl
      (fun engine session =>
        if isTerminal session.state then engine
        else engine.indexDeadline session)
      counted))

end TrafficFabric
