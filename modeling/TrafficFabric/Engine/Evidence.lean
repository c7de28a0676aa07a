import TrafficFabric.Engine.Lifecycle

/-!
# Evidence

`report_source_complete`, `report_transfer`, `report_verification`,
`report_ambiguous` and `record_durability_assertion`.
-/

namespace TrafficFabric

open Foundation

/-- The current attempt of a shard of a held session. -/
structure EvidenceTarget where
  focus : Focus
  shardPosition : Nat
  shard : ShardRecord
  attemptPosition : Nat
  attempt : AttemptRecord

namespace Focus

def setShard (focus : Focus) (position : Nat) (shard : ShardRecord) : Focus :=
  focus.revise (fun session =>
    { session with shards := session.shards.set position shard })

def setAttempt
    (focus : Focus) (position : Nat) (attempt : AttemptRecord) : Focus :=
  focus.revise (fun session =>
    { session with attempts := session.attempts.set position attempt })

/-- The common end of the reports that may complete a session. -/
def finishReport (focus : Focus) (now : Nanos) : Focus :=
  let progressed := focus.recomputeProgress now
  if ¬ isTerminal focus.session.state ∧
      progressed.session.state = .trafficSessionComplete then
    progressed.appendTimeline now (ascii "completed")
  else progressed

end Focus

namespace Engine

/-- A fenced session that is not terminal. -/
def openSession
    (engine : Engine) (id : SessionId) (fence : CommandFence)
    (stale : String) : Result Focus := do
  let focus ← engine.workloadFencedSession id fence
  refuseWhen (isTerminal focus.session.state)
    (.error .invalidStateTransition stale)
  return focus

/-! ## Source completion -/

/-- The guards of `report_source_complete`. -/
def sourceCompleteTarget
    (engine : Engine) (evidence : SourceCompleteEvidence)
    (fence : CommandFence) : Result ShardTarget := do
  let focus ← engine.openSession evidence.session fence
    "session is terminal; source-complete evidence is stale"
  let target ← shardTarget focus evidence.shard
  refuseWhen (target.shard.declaredBytes < evidence.sourceBytes)
    (.error .impossibleState
      "source-complete evidence exceeds the declared shard size")
  refuseWhen
    (target.shard.sourceComplete ∧
      target.shard.sourceBytes ≠ evidence.sourceBytes)
    (.error .impossibleState
      "source-complete evidence contradicts a previous report")
  return target

end Engine

/-- The shard and the session with the source-complete flags set. -/
def ShardTarget.flagSource
    (target : ShardTarget) (sourceBytes : UInt64) : Focus :=
  let marked := target.focus.setShard target.position { target.shard with
    sourceComplete := true
    sourceBytes := sourceBytes
    state :=
      if target.shard.state = .pending ∨ target.shard.state = .granted then
        .inFlight
      else target.shard.state }
  marked.revise (fun session => { session with
    sourceComplete := session.shards.all (fun shard => shard.sourceComplete) })

/-- The committing half of `report_source_complete`. -/
def ShardTarget.sourceCompleted
    (target : ShardTarget) (sourceBytes : UInt64) (now : Nanos) : Engine :=
  (((target.flagSource sourceBytes).touch now).finishReport now).commit

namespace Engine

def reportSourceComplete
    (engine : Engine) (now : Nanos) (evidence : SourceCompleteEvidence)
    (fence : CommandFence) : Result Unit × Engine :=
  let observed := engine.observe now
  observed.guarded (observed.sourceCompleteTarget evidence fence)
    (fun target => (.ok (), target.sourceCompleted evidence.sourceBytes now))

/-! ## Transfer -/

/-- The guards of `report_transfer` up to the byte counts. -/
def transferTarget
    (engine : Engine) (evidence : TransferEvidence) (fence : CommandFence) :
    Result EvidenceTarget := do
  let focus ← engine.openSession evidence.session fence
    "session is terminal; transfer evidence is stale"
  let target ← shardTarget focus evidence.shard
  refuseWhen (target.shard.attempt ≠ some evidence.attempt)
    (.error .staleAttempt
      "transfer evidence names an attempt that is not current for this shard")
  let position ← requireSome (.error .notFound "attempt is not known")
    (focus.session.attemptPosition evidence.attempt)
  let attempt ← requireSome (.error .notFound "attempt is not known")
    focus.session.attempts[position]?
  refuseWhen (attempt.sequence ≠ evidence.sequence)
    (.error .staleAttempt
      "transfer evidence carries a stale attempt sequence")
  refuseWhen (attempt.outcome = .ambiguous)
    (.error .ambiguousOutcome
      "attempt outcome is already recorded as ambiguous")
  refuseWhen (attempt.outcome = .failed)
    (.error .invalidStateTransition
      "attempt already failed; its evidence is stale")
  refuseWhen (attempt.outcome = .released ∨ attempt.outcome = .superseded)
    (.error .staleEvidence
      "attempt was released or superseded; its evidence is stale")
  refuseWhen (attempt.grantedBytes < evidence.arrivedBytes)
    (.error .impossibleState
      "transfer evidence exceeds the granted byte budget")
  refuseWhen (evidence.arrivedBytes < attempt.deliveredBytes)
    (.error .impossibleState
      "transfer evidence would reduce delivered bytes for this attempt")
  return ⟨focus, target.position, target.shard, position, attempt⟩

end Engine

namespace EvidenceTarget

/-- The attempt with what was seen arriving. -/
def sighted
    (target : EvidenceTarget) (evidence : TransferEvidence) (now : Nanos) :
    AttemptRecord :=
  { target.attempt with
    deliveredBytes := evidence.arrivedBytes
    observedDigest := evidence.arrivedDigest
    hasObservedDigest := true
    updatedAt := now }

/-- The shard with newly acknowledged bytes. -/
def creditedShard
    (target : EvidenceTarget) (evidence : TransferEvidence)
    (newlyDelivered : UInt64) : ShardRecord :=
  let transferred := target.shard.transferredBytes + newlyDelivered
  { target.shard with
    transferredBytes := transferred
    observedDigest := evidence.arrivedDigest
    hasObservedDigest := true
    state :=
      if target.shard.declaredBytes ≤ transferred ∧
          target.shard.state ≠ .verified then
        .transferred
      else target.shard.state }

/-- An acknowledged transfer within the outstanding authority. -/
def acknowledge
    (target : EvidenceTarget) (evidence : TransferEvidence)
    (newlyDelivered : UInt64) (now : Nanos) : Focus :=
  let settled := target.focus.setAttempt target.attemptPosition
    { target.sighted evidence now with
      outcome := .deliveredAcked
      outstanding := false }
  let moved := (settled.revise (fun session => { session with
    outstandingBytes := session.outstandingBytes - newlyDelivered
    transferredBytes := session.transferredBytes + newlyDelivered })).book
    (fun accounting => { accounting with
      grantedOutstandingBytes :=
        accounting.grantedOutstandingBytes -
          min newlyDelivered accounting.grantedOutstandingBytes
      bytesTransferred := accounting.bytesTransferred + newlyDelivered })
  (moved.setShard target.shardPosition
    (target.creditedShard evidence newlyDelivered)).dropActiveAttempt

/-- The committing half of `report_transfer`.  What was seen arriving is
recorded even when the acknowledgement is then refused. -/
def transfer
    (target : EvidenceTarget) (evidence : TransferEvidence) (now : Nanos) :
    Result Unit × Engine :=
  let newlyDelivered := evidence.arrivedBytes - target.attempt.deliveredBytes
  if evidence.sinkAcknowledged then
    if target.focus.session.outstandingBytes < newlyDelivered then
      (.error (.error .impossibleState
        "transfer evidence exceeds the session's outstanding authority"),
        (target.focus.setAttempt target.attemptPosition
          (target.sighted evidence now)).commit)
    else
      (.ok (), ((target.acknowledge evidence newlyDelivered now).finishReport
        now).commit)
  else
    (.ok (), ((target.focus.setAttempt target.attemptPosition
      { target.sighted evidence now with
        outcome := .deliveredUnacked }).finishReport now).commit)

end EvidenceTarget

namespace Engine

def reportTransfer
    (engine : Engine) (now : Nanos) (evidence : TransferEvidence)
    (fence : CommandFence) : Result Unit × Engine :=
  let observed := engine.observe now
  observed.guarded (observed.transferTarget evidence fence)
    (fun target => target.transfer evidence now)

/-! ## Verification -/

/-- The guards of `report_verification`. -/
def verificationTarget
    (engine : Engine) (evidence : VerificationEvidence)
    (fence : CommandFence) : Result EvidenceTarget := do
  let focus ← engine.openSession evidence.session fence
    "session is terminal; verification evidence is stale"
  let target ← shardTarget focus evidence.shard
  refuseWhen (target.shard.attempt ≠ some evidence.attempt)
    (.error .staleAttempt
      "verification evidence names an attempt that is not current")
  let position ← requireSome
    (.error .staleAttempt
      "verification evidence carries a stale attempt sequence")
    (focus.session.attemptPosition evidence.attempt)
  let attempt ← requireSome
    (.error .staleAttempt
      "verification evidence carries a stale attempt sequence")
    focus.session.attempts[position]?
  refuseWhen (attempt.sequence ≠ evidence.sequence)
    (.error .staleAttempt
      "verification evidence carries a stale attempt sequence")
  refuseWhen
    (evidence.outcome = .verified ∧
      attempt.outcome ≠ .deliveredAcked ∧ attempt.outcome ≠ .verified)
    (.error .staleEvidence
      "verification claims success for bytes the fabric never saw arrive")
  return ⟨focus, target.position, target.shard, position, attempt⟩

end Engine

namespace EvidenceTarget

/-- The shard and the attempt of a mismatch are failed. -/
def markFailed (target : EvidenceTarget) : Focus :=
  (target.focus.setShard target.shardPosition
    { target.shard with state := .failed }).setAttempt
    target.attemptPosition { target.attempt with outcome := .failed }

/-- The mismatch branches of `report_verification`. -/
def failVerification
    (target : EvidenceTarget) (detail : String) (now : Nanos) : Engine :=
  ((target.markFailed.settleTerminal .failed .verificationMismatch (ascii detail)
    now).book (fun accounting => { accounting with
      sessionsFailed := accounting.sessionsFailed + 1 })).commit

/-- The verified branch, before progress is recomputed. -/
def verify
    (target : EvidenceTarget) (evidence : VerificationEvidence) : Focus :=
  let delta :=
    if target.shard.verifiedBytes < evidence.verifiedBytes then
      evidence.verifiedBytes - target.shard.verifiedBytes
    else 0
  let marked :=
    (target.focus.setShard target.shardPosition { target.shard with
      verifiedBytes := evidence.verifiedBytes
      observedDigest := evidence.verifiedDigest
      hasObservedDigest := true
      state := .verified }).setAttempt
      target.attemptPosition { target.attempt with outcome := .verified }
  (marked.revise (fun session => { session with
    verifiedBytes := session.verifiedBytes + delta })).book
    (fun accounting => { accounting with
      bytesVerified := accounting.bytesVerified + delta })

/-- The truncated branch: the shard becomes transferable again and its
arrived bytes are wasted and admitted anew. -/
def truncate (target : EvidenceTarget) : Focus :=
  let already := target.shard.transferredBytes
  let failed := target.focus.setAttempt target.attemptPosition
    { target.attempt with outcome := .failed, outstanding := false }
  let dropped :=
    if target.attempt.outstanding then failed.dropActiveAttempt else failed
  let rearmed := dropped.setShard target.shardPosition { target.shard with
    state := .pending
    sequence := ⟨0⟩
    transferredBytes := 0
    grantedBytes := 0
    attempt := none }
  (rearmed.revise (fun session => { session with
    transferredBytes :=
      if already < session.transferredBytes then
        session.transferredBytes - already
      else 0
    wastedBytes := session.wastedBytes + already
    outstandingBytes := session.outstandingBytes + already
    admittedBytes := session.admittedBytes + already })).book (fun accounting => { accounting with
      bytesTransferred :=
        accounting.bytesTransferred -
          min already accounting.bytesTransferred
      bytesWasted := accounting.bytesWasted + already
      grantedOutstandingBytes :=
        accounting.grantedOutstandingBytes + already
      bytesAdmitted := accounting.bytesAdmitted + already })

/-- The truncated branch of `report_verification`. -/
def reportTruncated
    (target : EvidenceTarget) (shard : ShardIndex) (now : Nanos) : Engine :=
  (((target.truncate.touch now).appendTimeline now
    (ascii "shard " ++ shard.toText ++
      ascii " truncated; retry permitted")).recomputeProgress now).commit

/-- The ambiguous branch up to the booking of the unproven bytes. -/
def blur (target : EvidenceTarget) : Focus :=
  let marked :=
    (target.focus.setShard target.shardPosition
      { target.shard with state := .ambiguous }).setAttempt
      target.attemptPosition
      { target.attempt with outcome := .ambiguous, outstanding := false }
  marked.dropActiveAttempt

/-- The ambiguous branch of `report_verification`. -/
def reportBlurred
    (target : EvidenceTarget) (shard : ShardIndex) (now : Nanos) : Engine :=
  let booked := target.blur.markUnproven
    (SessionRecord.undelivered target.attempt)
  ((((booked.touch now).settleReason .ambiguousSinkOutcome
    (ascii "destination outcome is ambiguous")).appendTimeline now
    (ascii "shard " ++ shard.toText ++
      ascii " outcome ambiguous; unproven bytes recorded")).recomputeProgress
    now).commit

/-- The committing half of `report_verification`. -/
def verification
    (target : EvidenceTarget) (evidence : VerificationEvidence)
    (now : Nanos) : Result Unit × Engine :=
  match evidence.outcome with
  | .verified =>
      if evidence.verifiedBytes ≠ target.shard.declaredBytes then
        (.error (.error .verificationMismatch
          "verified byte count does not match the declared shard size"),
          target.failVerification
            "verified byte count does not match the declared shard size" now)
      else if ¬ target.shard.declaredDigest.isZero ∧
          evidence.verifiedDigest ≠ target.shard.declaredDigest then
        (.error (.error .verificationMismatch
          "destination digest does not match the declared digest"),
          target.failVerification
            "destination digest does not match the declared digest" now)
      else
        (.ok (), ((target.verify evidence).finishReport now).commit)
  | .digestMismatch =>
      (.ok (), target.failVerification
        "destination reported a digest mismatch" now)
  | .truncated => (.ok (), target.reportTruncated evidence.shard now)
  | .ambiguous => (.ok (), target.reportBlurred evidence.shard now)
  | .rejected => (.ok (), target.reportBlurred evidence.shard now)

end EvidenceTarget

namespace Engine

def reportVerification
    (engine : Engine) (now : Nanos) (evidence : VerificationEvidence)
    (fence : CommandFence) : Result Unit × Engine :=
  let observed := engine.observe now
  observed.guarded (observed.verificationTarget evidence fence)
    (fun target => target.verification evidence now)

end Engine

/-! ## Ambiguity -/

/-- An attempt of a held session. -/
structure AttemptTarget where
  focus : Focus
  position : Nat
  attempt : AttemptRecord

namespace Engine

/-- The guards of `report_ambiguous`; the contract is not among them. -/
def ambiguityTarget
    (engine : Engine) (id : SessionId) (attemptId : TransferAttemptId)
    (sequence : AttemptSequence) (fence : CommandFence) :
    Result AttemptTarget := do
  let focus ← engine.fencedSession id fence
  refuseWhen (isTerminal focus.session.state)
    (.error .invalidStateTransition
      "session is terminal; ambiguity report is stale")
  let position ← requireSome (.error .notFound "attempt is not known")
    (focus.session.attemptPosition attemptId)
  let attempt ← requireSome (.error .notFound "attempt is not known")
    focus.session.attempts[position]?
  refuseWhen (attempt.sequence ≠ sequence)
    (.error .staleAttempt "ambiguity report carries a stale sequence")
  return ⟨focus, position, attempt⟩

end Engine

namespace AttemptTarget

/-- The shard of the attempt, made ambiguous unless it reached its target. -/
def blurShard (session : SessionRecord) (index : ShardIndex) :
    SessionRecord :=
  match session.shardPosition index with
  | none => session
  | some position =>
      { session with
        shards := session.shards.modify position (fun shard =>
          if shard.state ≠ .verified ∧ shard.state ≠ .transferred then
            { shard with state := .ambiguous }
          else shard) }

/-- `report_ambiguous` up to the booking of the unproven bytes. -/
def blur (target : AttemptTarget) (now : Nanos) : Focus :=
  let marked := target.focus.setAttempt target.position
    { target.attempt with
      outcome := .ambiguous
      outstanding := false
      updatedAt := now }
  let dropped :=
    if target.attempt.outstanding then marked.dropActiveAttempt else marked
  dropped.revise (fun session => blurShard session target.attempt.shard)

/-- The committing half of `report_ambiguous`. -/
def recordAmbiguity
    (target : AttemptTarget) (cause : Text) (now : Nanos) : Engine :=
  let booked := (target.blur now).markUnproven
    (SessionRecord.undelivered target.attempt)
  ((((booked.touch now).settleReason .ambiguousSinkOutcome
    cause).appendTimeline now
    (ascii "ambiguity recorded: " ++ cause)).recomputeProgress now).commit

end AttemptTarget

namespace Engine

def reportAmbiguous
    (engine : Engine) (now : Nanos) (id : SessionId)
    (attemptId : TransferAttemptId) (sequence : AttemptSequence)
    (cause : Text) (fence : CommandFence) : Result Unit × Engine :=
  let observed := engine.observe now
  observed.guarded
    (observed.ambiguityTarget id attemptId sequence fence)
    (fun target => (.ok (), target.recordAmbiguity cause now))

/-! ## Durability -/

/-- The guards of `record_durability_assertion`. -/
def durabilityTarget
    (engine : Engine) (id : SessionId) (assertion : DurabilityAssertion)
    (fence : CommandFence) : Result Focus := do
  let focus ← engine.fencedSession id fence
  refuseWhen
    (assertion.status = .externallyAsserted ∧
      (assertion.backendIdentity = [] ∨
        engine.limits.maxStringBytes.toNat <
          assertion.backendIdentity.length))
    (.error .invalidArgument
      "durability assertion must name a bounded backend identity")
  refuseWhen
    (assertion.status = .externallyAsserted ∧
      focus.session.evidence ≠ .verifiedAtDestination ∧
      focus.session.evidence ≠ .transferred)
    (.error .notDurable
      "durability cannot be asserted before destination evidence exists")
  return focus

end Engine

/-- The committing half of `record_durability_assertion`. -/
def Focus.assertDurability
    (focus : Focus) (assertion : DurabilityAssertion) (now : Nanos) :
    Engine :=
  (((focus.revise (fun session => { session with
    durability := { assertion with observedAt := now } })).touch
    now).appendTimeline now
    (ascii "durability assertion recorded: " ++
      ascii assertion.status.name ++ ascii " backend=" ++
      assertion.backendIdentity)).commit

/-- `record_durability_assertion`, the one command on a session that does not
observe time. -/
def Engine.recordDurabilityAssertion
    (engine : Engine) (now : Nanos) (id : SessionId)
    (assertion : DurabilityAssertion) (fence : CommandFence) :
    Result Unit × Engine :=
  let counted :=
    { engine with commandsProcessed := engine.commandsProcessed + 1 }
  counted.guarded (counted.durabilityTarget id assertion fence)
    (fun focus => (.ok (), focus.assertDurability assertion now))

end TrafficFabric
