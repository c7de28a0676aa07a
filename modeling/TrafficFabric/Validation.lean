import TrafficFabric.Domain

/-!
# Validation of manifests, policies, topologies and contracts

`src/model.cpp`.
-/

namespace TrafficFabric

open Foundation

/-- `kHardLimits`: caps no configuration may exceed. -/
def hardLimits : Limits where
  maxShardsPerCheckpoint := 65536
  maxCheckpointBytes := 17592186044416
  maxSessions := 1048576
  maxAttemptsInFlight := 65536
  maxRetainedHistory := 4096
  maxWaveWidth := 256
  maxPathClasses := 256
  maxSessionsPerWorkload := 1024
  maxWorkloads := 65536
  maxIdentityTextBytes := 128
  maxStringBytes := 256
  maxSupersessionChain := 16

/-! ## Manifests -/

/-- `append_digest`. -/
def digestBytes (digest : Digest) : Bytes :=
  bigEndian32 digest.crc ++ bigEndian64 digest.fnv

/-- One row of the canonical shard table. -/
def shardBytes (shard : ShardDescriptor) : Bytes :=
  bigEndian32 shard.index.value ++ bigEndian64 shard.declaredBytes ++
    digestBytes shard.declaredDigest ++ bigEndian32 shard.pathClass.value

/-- Digest over the canonical encoding of a manifest's shard table. -/
def computeManifestDigest (manifest : CheckpointManifest) : Digest :=
  let header : Digest :=
    (((((({} : Digest).update manifest.checkpoint.value.bytes).update
      (bigEndian64 manifest.generation.value)).update
      manifest.workload.value.bytes).update
      (bigEndian64 manifest.contractGeneration.value)).update
      (bigEndian64 manifest.totalBytes)).update
      (bigEndian32 manifest.shards.length.toUInt32)
  manifest.shards.foldl
    (fun digest shard => digest.update (shardBytes shard)) header

/-- Whether an index fails to exceed the one before it. -/
def repeatsIndex (previous : Option ShardIndex) (index : ShardIndex) : Bool :=
  match previous with
  | none => false
  | some earlier => ¬ earlier < index

/-- The shard loop of `validate_manifest`; returns the sum of the shards. -/
def validateShards (totalBytes : UInt64) :
    Option ShardIndex → UInt64 → List ShardDescriptor → Result UInt64
  | _, sum, [] => .ok sum
  | previous, sum, shard :: rest => do
      refuseWhen (shard.declaredBytes = 0)
        (.error .invalidArgument "manifest contains a zero-byte shard")
      refuseWhen (repeatsIndex previous shard.index)
        (.error .invalidArgument
          "manifest shard indices must be strictly increasing and unique")
      refuseWhen
        (totalBytes < sum ∨ totalBytes - sum < shard.declaredBytes)
        (.error .impossibleState
          "manifest shard bytes exceed the declared total")
      validateShards totalBytes (some shard.index)
        (sum + shard.declaredBytes) rest

def validateManifest
    (manifest : CheckpointManifest) (limits : Limits) : Result Unit := do
  refuseWhen (manifest.checkpoint.isNil)
    (.error .missingField "manifest checkpoint identity is nil")
  refuseWhen (manifest.workload.isNil)
    (.error .missingField "manifest workload identity is nil")
  refuseWhen (manifest.generation.isZero)
    (.error .outOfRange "checkpoint generation 0 is not a valid generation")
  refuseWhen (manifest.contractGeneration.isZero)
    (.error .outOfRange "contract generation 0 is not a valid generation")
  refuseWhen (manifest.shards = [])
    (.error .invalidArgument "manifest declares no shards")
  refuseWhen
    (limits.maxShardsPerCheckpoint.toNat < manifest.shards.length)
    (.error .collectionTooLarge
      "manifest shard count exceeds the configured bound")
  refuseWhen (manifest.totalBytes = 0)
    (.error .invalidArgument "manifest declares zero total bytes")
  refuseWhen (limits.maxCheckpointBytes < manifest.totalBytes)
    (.error .outOfRange "manifest total bytes exceeds the configured bound")
  let sum ← validateShards manifest.totalBytes none 0 manifest.shards
  refuseWhen (sum ≠ manifest.totalBytes)
    (.error .impossibleState
      "manifest shard bytes do not sum to the declared total")
  refuseWhen (manifest.manifestDigest ≠ computeManifestDigest manifest)
    (.error .integrityFailure
      "manifest digest does not match its shard table")

/-- Same checkpoint generation and content. -/
def manifestsEquivalent (left right : CheckpointManifest) : Bool :=
  left.checkpoint == right.checkpoint &&
    left.generation == right.generation &&
    left.workload == right.workload &&
    left.contractGeneration == right.contractGeneration &&
    left.totalBytes == right.totalBytes &&
    left.shards == right.shards

/-! ## Policies -/

/-- `check_limit`. -/
def checkLimit (value cap : Nat) (what : String) : Result Unit :=
  refuseWhen (cap < value)
    ⟨.outOfRange, ascii what ++ ascii " exceeds the hard resource cap"⟩

/-- The envelope loop of `validate_policy`; returns the classes seen. -/
def validateEnvelopes :
    List IsolationClass → List IsolationEnvelopeConfig →
      Result (List IsolationClass)
  | seen, [] => .ok seen
  | seen, envelope :: rest => do
      refuseWhen (envelope.isolation ∈ seen)
        (.error .invalidArgument "policy defines an isolation class twice")
      refuseWhen (envelope.ceilingBps = 0)
        (.error .invalidArgument "policy envelope ceiling must be positive")
      refuseWhen (envelope.burstWindowNs ≤ 0)
        (.error .invalidArgument
          "policy envelope burst window must be positive")
      refuseWhen (envelope.maxInFlightSessions = 0)
        (.error .invalidArgument
          "policy envelope session bound must be positive")
      checkLimit envelope.maxInFlightSessions.toNat
        hardLimits.maxSessions.toNat "policy envelope session bound"
      validateEnvelopes (envelope.isolation :: seen) rest

/-- The nested limits must stay inside the hard caps. -/
def validateNestedLimits (limits : Limits) : Result Unit := do
  checkLimit limits.maxShardsPerCheckpoint.toNat
    hardLimits.maxShardsPerCheckpoint.toNat
    "limits.max_shards_per_checkpoint"
  checkLimit limits.maxCheckpointBytes.toNat
    hardLimits.maxCheckpointBytes.toNat "limits.max_checkpoint_bytes"
  checkLimit limits.maxSessions.toNat hardLimits.maxSessions.toNat
    "limits.max_sessions"
  checkLimit limits.maxAttemptsInFlight.toNat
    hardLimits.maxAttemptsInFlight.toNat "limits.max_attempts_in_flight"
  checkLimit limits.maxRetainedHistory.toNat
    hardLimits.maxRetainedHistory.toNat "limits.max_retained_history"
  checkLimit limits.maxWaveWidth.toNat hardLimits.maxWaveWidth.toNat
    "limits.max_wave_width"
  checkLimit limits.maxPathClasses.toNat hardLimits.maxPathClasses.toNat
    "limits.max_path_classes"
  checkLimit limits.maxSessionsPerWorkload.toNat
    hardLimits.maxSessionsPerWorkload.toNat
    "limits.max_sessions_per_workload"
  checkLimit limits.maxWorkloads.toNat hardLimits.maxWorkloads.toNat
    "limits.max_workloads"
  checkLimit limits.maxStringBytes.toNat hardLimits.maxStringBytes.toNat
    "limits.max_string_bytes"
  checkLimit limits.maxSupersessionChain.toNat
    hardLimits.maxSupersessionChain.toNat "limits.max_supersession_chain"

def validatePolicy (policy : PolicySnapshot) : Result Unit := do
  refuseWhen (policy.generation.isZero)
    (.error .outOfRange "policy generation 0 is not a valid generation")
  refuseWhen (policy.envelopes.length ≠ 4)
    (.error .invalidArgument
      "policy must define exactly one envelope per isolation class")
  let seen ← validateEnvelopes [] policy.envelopes
  refuseWhen
    (IsolationClass.trainingCritical ∉ seen ∨
      IsolationClass.servingLatency ∉ seen ∨
      IsolationClass.trainingBulk ∉ seen ∨
      IsolationClass.bestEffort ∉ seen)
    (.error .invalidArgument "policy is missing an isolation class envelope")
  refuseWhen (policy.maxWaveWidth = 0)
    (.error .invalidArgument "policy wave width must be positive")
  refuseWhen (policy.maxSessionBytes = 0)
    (.error .invalidArgument "policy session byte bound must be positive")
  refuseWhen (policy.maxAttemptsInFlight = 0)
    (.error .invalidArgument "policy attempt bound must be positive")
  refuseWhen (policy.retainedHistory = 0)
    (.error .invalidArgument "policy retained history must be positive")
  refuseWhen (policy.deferHorizonNs ≤ 0)
    (.error .invalidArgument "policy defer horizon must be positive")
  refuseWhen (policy.defaultDeadlineNs ≤ 0)
    (.error .invalidArgument "policy default deadline must be positive")
  checkLimit policy.maxWaveWidth.toNat hardLimits.maxWaveWidth.toNat
    "policy wave width"
  checkLimit policy.maxSessions.toNat hardLimits.maxSessions.toNat
    "policy session bound"
  checkLimit policy.maxAttemptsInFlight.toNat
    hardLimits.maxAttemptsInFlight.toNat "policy attempt bound"
  checkLimit policy.retainedHistory.toNat
    hardLimits.maxRetainedHistory.toNat "policy retained history"
  checkLimit policy.maxSessionBytes.toNat
    hardLimits.maxCheckpointBytes.toNat "policy session byte bound"
  validateNestedLimits policy.limits

/-! ## Topologies and contracts -/

/-- The characters a path label may hold. -/
def isLabelByte (value : UInt8) : Bool :=
  (97 ≤ value && value ≤ 122) || (65 ≤ value && value ≤ 90) ||
    (48 ≤ value && value ≤ 57) || value == 46 || value == 95 ||
    value == 45 || value == 58

/-- `is_bounded_label`. -/
def isBoundedLabel (label : Text) (maxBytes : UInt64) : Bool :=
  label ≠ [] && label.length ≤ maxBytes.toNat && label.all isLabelByte

/-- The path loop of `validate_topology`. -/
def validatePaths (limits : Limits) :
    List PathClassId → List PathClass → Result Unit
  | _, [] => .ok ()
  | seen, path :: rest => do
      refuseWhen (path.id.value = 0)
        (.error .invalidArgument
          "path class id 0 is reserved for the default path")
      refuseWhen (path.id ∈ seen)
        (.error .duplicateIdentity "topology declares a path class id twice")
      refuseWhen (path.capacityBps = 0)
        (.error .invalidArgument "path class capacity must be positive")
      refuseWhen
        (path.label ≠ [] ∧ ¬ isBoundedLabel path.label limits.maxStringBytes)
        (.error .invalidSyntax
          "path class label is not a bounded identifier")
      validatePaths limits (path.id :: seen) rest

def validateTopology
    (topology : TopologySnapshot) (limits : Limits) : Result Unit := do
  refuseWhen (topology.generation.isZero)
    (.error .outOfRange "topology generation 0 is not a valid generation")
  refuseWhen (topology.pathClasses = [])
    (.error .invalidArgument "topology declares no path classes")
  refuseWhen (limits.maxPathClasses.toNat < topology.pathClasses.length)
    (.error .collectionTooLarge
      "topology path class count exceeds the bound")
  validatePaths limits [] topology.pathClasses

def validateContract
    (contract : WorkloadContract) (limits : Limits) : Result Unit := do
  refuseWhen (contract.workload.isNil)
    (.error .missingField "workload contract identity is nil")
  refuseWhen (contract.generation.isZero)
    (.error .outOfRange "contract generation 0 is not a valid generation")
  refuseWhen (contract.ceilingBps = 0)
    (.error .invalidArgument "contract ceiling must be positive")
  refuseWhen (contract.ceilingBps < contract.floorBps)
    (.error .invalidArgument "contract floor exceeds the contract ceiling")
  refuseWhen (contract.maxInFlightSessions = 0)
    (.error .invalidArgument "contract session bound must be positive")
  refuseWhen (limits.maxSessionsPerWorkload < contract.maxInFlightSessions)
    (.error .outOfRange "contract session bound exceeds the configured cap")
  refuseWhen (contract.maxShardsPerWave = 0)
    (.error .invalidArgument "contract wave bound must be positive")
  refuseWhen (limits.maxShardsPerCheckpoint < contract.maxShardsPerWave)
    (.error .outOfRange "contract wave bound exceeds the configured cap")
  refuseWhen (contract.deadlineBudgetNs ≤ 0)
    (.error .invalidArgument "contract deadline budget must be positive")

/-! ## Lookups -/

def findEnvelope (policy : PolicySnapshot) (isolation : IsolationClass) :
    Option IsolationEnvelopeConfig :=
  policy.envelopes.find? (fun envelope => envelope.isolation == isolation)

def findPathClass (topology : TopologySnapshot) (id : PathClassId) :
    Option PathClass :=
  topology.pathClasses.find? (fun path => path.id == id)

/-- The smallest path class serving a destination. -/
def defaultPathClassFor
    (topology : TopologySnapshot) (destination : DestinationClass) :
    Option PathClassId :=
  topology.pathClasses.foldl
    (fun best path =>
      if path.destination ≠ destination then best
      else
        match best with
        | none => some path.id
        | some id => if path.id < id then some path.id else some id)
    none

end TrafficFabric
