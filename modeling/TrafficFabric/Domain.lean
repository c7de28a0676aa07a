import TrafficFabric.Identity
import TrafficFabric.Digest
import TrafficFabric.Status

/-!
# Domain model

The enumerations and records of `include/ctf/model.hpp`, with the defaults
written there.  Sizes of collections are lengths of lists; counters keep the
width of the source.
-/

namespace TrafficFabric

/-- Monotonic nanoseconds. -/
abbrev Nanos := Int64

/-- Nanoseconds in a second. -/
def nanosPerSecond : Nanos := 1000000000

/-! ## Enumerations -/

inductive IsolationClass where
  | trainingCritical
  | servingLatency
  | trainingBulk
  | bestEffort
deriving DecidableEq

/-- Lower rank means stricter protection. -/
def isolationRank : IsolationClass → UInt8
  | .trainingCritical => 0
  | .servingLatency => 1
  | .trainingBulk => 2
  | .bestEffort => 3

/-- The stable name of a value. -/
def IsolationClass.name : IsolationClass → String
  | .trainingCritical => "TrainingCritical"
  | .servingLatency => "ServingLatency"
  | .trainingBulk => "TrainingBulk"
  | .bestEffort => "BestEffort"

inductive DestinationClass where
  | localAttachedStore
  | remoteObjectStore
  | peerNodeMemory
  | syntheticLab
deriving DecidableEq

/-- Strength of the network evidence observed so far. -/
inductive EvidenceLevel where
  | none
  | sourceComplete
  | transferred
  | verifiedAtDestination
deriving DecidableEq

inductive DurabilityStatus where
  | notEstablished
  | externallyAsserted
deriving DecidableEq

/-- The stable name of a value. -/
def DurabilityStatus.name : DurabilityStatus → String
  | .notEstablished => "NotEstablished"
  | .externallyAsserted => "ExternallyAsserted"

inductive SessionState where
  | submitted
  | deferred
  | admitted
  | transferring
  | paused
  | sourceComplete
  | transferred
  | verifiedAtDestination
  | trafficSessionComplete
  | cancelled
  | superseded
  | failed
  | revalidationRequired
deriving DecidableEq

/-- The four states no session leaves by design. -/
def isTerminal : SessionState → Bool
  | .trafficSessionComplete => true
  | .cancelled => true
  | .superseded => true
  | .failed => true
  | .submitted => false
  | .deferred => false
  | .admitted => false
  | .transferring => false
  | .paused => false
  | .sourceComplete => false
  | .transferred => false
  | .verifiedAtDestination => false
  | .revalidationRequired => false

inductive ShardState where
  | pending
  | granted
  | inFlight
  | transferred
  | verified
  | ambiguous
  | failed
  | cancelled
deriving DecidableEq

inductive AttemptOutcome where
  | granted
  | inFlight
  | deliveredUnacked
  | deliveredAcked
  | verified
  | failed
  | ambiguous
  | released
  | superseded
deriving DecidableEq

/-- `DecisionKind`: `Admit`, `Defer` and `Deny`. -/
inductive DecisionKind where
  | admitted
  | deferred
  | denied
deriving DecidableEq

inductive ReasonCode where
  | admitted
  | duplicateCommand
  | classCeilingSaturated
  | workloadCeilingSaturated
  | fabricSessionLimit
  | pathCapacityUnavailable
  | creditUnavailable
  | unknownWorkload
  | contractGenerationStale
  | policyGenerationStale
  | topologyGenerationStale
  | checkpointGenerationStale
  | supersessionDeniedByPolicy
  | sessionLimitPerWorkload
  | requestedRateUnsupported
  | manifestInvalid
  | manifestMismatch
  | destinationNotPermitted
  | checkpointTooLarge
  | deadlineUnreachable
  | fabricShuttingDown
  | authorityStale
  | attemptStale
  | verificationRequired
  | verificationMismatch
  | evidenceStale
  | sessionNotFound
  | stateNotResumable
  | ambiguousSinkOutcome
  | cancelledByOperator
  | supersededByNewerGeneration
  | resourceLimit
  | internal
deriving DecidableEq

/-- The stable name of a value. -/
def ReasonCode.name : ReasonCode → String
  | .admitted => "Admitted"
  | .duplicateCommand => "DuplicateCommand"
  | .classCeilingSaturated => "ClassCeilingSaturated"
  | .workloadCeilingSaturated => "WorkloadCeilingSaturated"
  | .fabricSessionLimit => "FabricSessionLimit"
  | .pathCapacityUnavailable => "PathCapacityUnavailable"
  | .creditUnavailable => "CreditUnavailable"
  | .unknownWorkload => "UnknownWorkload"
  | .contractGenerationStale => "ContractGenerationStale"
  | .policyGenerationStale => "PolicyGenerationStale"
  | .topologyGenerationStale => "TopologyGenerationStale"
  | .checkpointGenerationStale => "CheckpointGenerationStale"
  | .supersessionDeniedByPolicy => "SupersessionDeniedByPolicy"
  | .sessionLimitPerWorkload => "SessionLimitPerWorkload"
  | .requestedRateUnsupported => "RequestedRateUnsupported"
  | .manifestInvalid => "ManifestInvalid"
  | .manifestMismatch => "ManifestMismatch"
  | .destinationNotPermitted => "DestinationNotPermitted"
  | .checkpointTooLarge => "CheckpointTooLarge"
  | .deadlineUnreachable => "DeadlineUnreachable"
  | .fabricShuttingDown => "FabricShuttingDown"
  | .authorityStale => "AuthorityStale"
  | .attemptStale => "AttemptStale"
  | .verificationRequired => "VerificationRequired"
  | .verificationMismatch => "VerificationMismatch"
  | .evidenceStale => "EvidenceStale"
  | .sessionNotFound => "SessionNotFound"
  | .stateNotResumable => "StateNotResumable"
  | .ambiguousSinkOutcome => "AmbiguousSinkOutcome"
  | .cancelledByOperator => "CancelledByOperator"
  | .supersededByNewerGeneration => "SupersededByNewerGeneration"
  | .resourceLimit => "ResourceLimit"
  | .internal => "Internal"

/-- `VerificationEvidence::Outcome`. -/
inductive VerificationOutcome where
  | verified
  | digestMismatch
  | truncated
  | ambiguous
  | rejected
deriving DecidableEq

/-! ## Manifests -/

structure ShardDescriptor where
  index : ShardIndex
  declaredBytes : UInt64 := 0
  declaredDigest : Digest := {}
  pathClass : PathClassId := ⟨0⟩
deriving DecidableEq

structure CheckpointManifest where
  checkpoint : CheckpointId
  generation : CheckpointGeneration
  workload : WorkloadId
  contractGeneration : WorkloadContractGeneration
  totalBytes : UInt64 := 0
  shards : List ShardDescriptor := []
  manifestDigest : Digest := {}
  declaredAt : Nanos := 0
deriving DecidableEq

/-- Resource bounds applied to externally supplied collections. -/
structure Limits where
  maxShardsPerCheckpoint : UInt32 := 4096
  maxCheckpointBytes : UInt64 := 1099511627776
  maxSessions : UInt32 := 65536
  maxAttemptsInFlight : UInt32 := 8192
  maxRetainedHistory : UInt32 := 4096
  maxWaveWidth : UInt32 := 64
  maxPathClasses : UInt32 := 64
  maxSessionsPerWorkload : UInt32 := 64
  maxWorkloads : UInt32 := 4096
  maxIdentityTextBytes : UInt64 := 128
  maxStringBytes : UInt64 := 256
  maxSupersessionChain : UInt32 := 8
deriving DecidableEq

/-! ## Policy, topology and contracts -/

structure IsolationEnvelopeConfig where
  isolation : IsolationClass := .trainingBulk
  ceilingBps : UInt64 := 0
  burstWindowNs : UInt64 := 100000000
  maxInFlightSessions : UInt32 := 16
deriving DecidableEq

structure PolicySnapshot where
  generation : PolicyGeneration
  envelopes : List IsolationEnvelopeConfig := []
  maxWaveWidth : UInt32 := 16
  maxSessionBytes : UInt64 := 274877906944
  maxSessions : UInt32 := 4096
  maxAttemptsInFlight : UInt32 := 1024
  retainedHistory : UInt32 := 256
  requireDestinationVerification : Bool := true
  deferHorizonNs : Nanos := 1000000000
  defaultDeadlineNs : Nanos := 300000000000
  minimumRateBpsForAdmission : Nanos := 0
  limits : Limits := {}
deriving DecidableEq

structure PathClass where
  id : PathClassId
  destination : DestinationClass := .localAttachedStore
  capacityBps : UInt64 := 0
  synthetic : Bool := false
  label : Text := []
deriving DecidableEq

structure TopologySnapshot where
  generation : TopologyGeneration
  pathClasses : List PathClass := []
deriving DecidableEq

structure WorkloadContract where
  workload : WorkloadId
  generation : WorkloadContractGeneration
  isolation : IsolationClass := .trainingBulk
  ceilingBps : UInt64 := 0
  floorBps : UInt64 := 0
  maxInFlightSessions : UInt32 := 8
  maxShardsPerWave : UInt32 := 8
  allowSupersession : Bool := true
  deadlineBudgetNs : Nanos := 300000000000
deriving DecidableEq

/-! ## Requests, decisions and envelopes -/

structure SessionRequest where
  command : CommandId
  workload : WorkloadId
  contractGeneration : WorkloadContractGeneration
  policyGeneration : PolicyGeneration
  topologyGeneration : TopologyGeneration
  checkpoint : CheckpointId
  checkpointGeneration : CheckpointGeneration
  requestedIsolation : IsolationClass := .trainingBulk
  destination : DestinationClass := .localAttachedStore
  requestedRateBps : UInt64 := 0
  deadlineHorizonNs : Nanos := 0
  manifest : CheckpointManifest
deriving DecidableEq

/-- The authority a command claims to act under. -/
structure CommandFence where
  epoch : CoordinatorEpoch
  policyGeneration : PolicyGeneration
  topologyGeneration : TopologyGeneration
  contractGeneration : WorkloadContractGeneration
  checkpointGeneration : Option CheckpointGeneration := none
  attemptSequence : Option AttemptSequence := none
deriving DecidableEq

structure WavePlan where
  index : WaveIndex := ⟨0⟩
  shards : List ShardIndex := []
  plannedBytes : UInt64 := 0
deriving DecidableEq

/-- Authority to send: rate, burst, wave structure and deadline. -/
structure TrafficEnvelope where
  session : SessionId := StrongId.nil
  sequence : AttemptSequence := ⟨0⟩
  isolation : IsolationClass := .trainingBulk
  rateBps : UInt64 := 0
  burstBytes : UInt64 := 0
  waveWidth : UInt32 := 0
  waves : List WavePlan := []
  pathClass : Option PathClassId := none
  issuedAt : Nanos := 0
  deadlineTarget : Nanos := 0
deriving DecidableEq

structure AdmissionDecision where
  kind : DecisionKind := .denied
  reason : ReasonCode := .internal
  detail : Text := []
  session : SessionId := StrongId.nil
  envelope : Option TrafficEnvelope := none
  superseded : List SessionId := []
  retryAfter : Option Nanos := none
  epoch : CoordinatorEpoch := ⟨⟨0⟩, ⟨0⟩⟩
  decidedAt : Nanos := 0
deriving DecidableEq

structure WaveGrant where
  session : SessionId
  attempt : TransferAttemptId
  sequence : AttemptSequence
  shard : ShardIndex
  wave : WaveIndex
  maxBytes : UInt64
  rateBps : UInt64
  burstBytes : UInt64
  issuedAt : Nanos
  expiresAt : Nanos
  epoch : CoordinatorEpoch
deriving DecidableEq

/-- The answer to a request for credit: a grant or a deferral. -/
structure WaveOutcome where
  granted : Bool := false
  reason : ReasonCode := .admitted
  detail : Text := []
  grant : Option WaveGrant := none
  retryAfter : Option Nanos := none
  decidedAt : Nanos := 0
deriving DecidableEq

/-! ## Evidence supplied by peers -/

structure SourceCompleteEvidence where
  session : SessionId
  attempt : TransferAttemptId
  sequence : AttemptSequence
  wave : WaveIndex
  shard : ShardIndex
  sourceBytes : UInt64 := 0
  sourceDigest : Digest := {}
  observedAt : Nanos := 0
deriving DecidableEq

structure TransferEvidence where
  session : SessionId
  attempt : TransferAttemptId
  sequence : AttemptSequence
  shard : ShardIndex
  arrivedBytes : UInt64 := 0
  arrivedDigest : Digest := {}
  sinkAcknowledged : Bool := false
  observedAt : Nanos := 0
deriving DecidableEq

structure VerificationEvidence where
  session : SessionId
  attempt : TransferAttemptId
  sequence : AttemptSequence
  shard : ShardIndex
  verifiedBytes : UInt64 := 0
  verifiedDigest : Digest := {}
  outcome : VerificationOutcome := .ambiguous
  verifierIdentity : Text := []
  observedAt : Nanos := 0
deriving DecidableEq

/-- A storage backend's own claim, recorded as such. -/
structure DurabilityAssertion where
  status : DurabilityStatus := .notEstablished
  backendIdentity : Text := []
  evidenceDigest : Digest := {}
  observedAt : Nanos := 0
deriving DecidableEq

/-! ## Accounting -/

/-- The aggregate counters, in the order of the source. -/
structure AccountingSnapshot where
  bytesAdmitted : UInt64 := 0
  bytesTransferred : UInt64 := 0
  bytesVerified : UInt64 := 0
  bytesCancelled : UInt64 := 0
  bytesWasted : UInt64 := 0
  bytesUnproven : UInt64 := 0
  bytesDeferred : UInt64 := 0
  grantedOutstandingBytes : UInt64 := 0
  sessionsAdmitted : UInt64 := 0
  sessionsDeferred : UInt64 := 0
  sessionsDenied : UInt64 := 0
  sessionsCompleted : UInt64 := 0
  sessionsCancelled : UInt64 := 0
  sessionsSuperseded : UInt64 := 0
  sessionsFailed : UInt64 := 0
  commandsProcessed : UInt64 := 0
  activeSessions : UInt32 := 0
  activeAttempts : UInt32 := 0
deriving DecidableEq

/-- Every authorised byte lands in exactly one bucket. -/
def AccountingSnapshot.conserves (accounting : AccountingSnapshot) : Bool :=
  accounting.bytesAdmitted ==
    accounting.bytesTransferred + accounting.bytesWasted +
      accounting.bytesCancelled + accounting.bytesUnproven +
      accounting.grantedOutstandingBytes

end TrafficFabric
