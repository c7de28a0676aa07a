import TrafficFabric.Engine.Authority

/-!
# Pause, resume, cancel and wave credit

`pause_session`, `resume_session`, `cancel_session` and `request_wave`.
-/

namespace TrafficFabric

open Foundation

/-! ## Pause, resume and cancel -/

namespace Focus

/-- Pausing remembers the state it interrupts. -/
def suspend (focus : Focus) : Focus :=
  focus.revise (fun session => { session with
    paused := true
    pausedFrom := session.state
    state := .paused })

/-- The committing half of `pause_session`. -/
def pause (focus : Focus) (reason : Text) (now : Nanos) : Engine :=
  (((focus.suspend.touch now).settleReason .admitted reason).appendTimeline
    now (ascii "paused")).commit

/-- Resuming returns to the remembered state, whatever the current one. -/
def reinstate (focus : Focus) : Focus :=
  focus.revise (fun session => { session with
    paused := false
    state := session.pausedFrom })

/-- The committing half of `resume_session`. -/
def resume (focus : Focus) (now : Nanos) : Engine :=
  ((focus.reinstate.touch now).appendTimeline now (ascii "resumed")).commit

/-- The committing half of `cancel_session`. -/
def cancel
    (focus : Focus) (reason : ReasonCode) (detail : Text) (now : Nanos) :
    Engine :=
  let settled := focus.settleOutstandingAsCancelled.settleTerminal
    .cancelled reason detail now
  ((settled.book (fun accounting => { accounting with
    sessionsCancelled := accounting.sessionsCancelled + 1 })).appendTimeline
    now (ascii "cancelled reason=" ++ ascii reason.name)).commit

end Focus

namespace Engine

/-- Find a session, check the fabric-wide fence and the workload contract. -/
def workloadFencedSession
    (engine : Engine) (id : SessionId) (fence : CommandFence) :
    Result Focus := do
  let focus ← engine.fencedSession id fence
  engine.validateWorkloadFence focus.session fence
  return focus

/-- The guards of `pause_session`. -/
def pauseTarget
    (engine : Engine) (id : SessionId) (fence : CommandFence) :
    Result Focus := do
  let focus ← engine.workloadFencedSession id fence
  refuseWhen (isTerminal focus.session.state)
    (.error .invalidStateTransition "session is already terminal")
  refuseWhen (focus.session.state = .revalidationRequired)
    (.error .revalidationRequired
      "session must be revalidated before it can be paused")
  refuseWhen (focus.session.paused)
    (.error .alreadyExists "session is already paused")
  return focus

def pauseSession
    (engine : Engine) (now : Nanos) (id : SessionId)
    (fence : CommandFence) (reason : Text) : Result Unit × Engine :=
  let observed := engine.observe now
  observed.guarded (observed.pauseTarget id fence)
    (fun focus => (.ok (), focus.pause reason now))

/-- The guards of `resume_session`; the state is not among them. -/
def resumeTarget
    (engine : Engine) (id : SessionId) (fence : CommandFence) :
    Result Focus := do
  let focus ← engine.workloadFencedSession id fence
  refuseWhen (¬ focus.session.paused)
    (.error .invalidStateTransition "session is not paused")
  return focus

def resumeSession
    (engine : Engine) (now : Nanos) (id : SessionId)
    (fence : CommandFence) : Result Unit × Engine :=
  let observed := engine.observe now
  observed.guarded (observed.resumeTarget id fence)
    (fun focus => (.ok (), focus.resume now))

/-- The guards of `cancel_session`; the contract is not among them. -/
def cancelTarget
    (engine : Engine) (id : SessionId) (fence : CommandFence) :
    Result Focus := do
  let focus ← engine.fencedSession id fence
  refuseWhen (isTerminal focus.session.state)
    (.error .invalidStateTransition "session is already terminal")
  return focus

def cancelSession
    (engine : Engine) (now : Nanos) (id : SessionId)
    (fence : CommandFence) (reason : ReasonCode) (detail : Text) :
    Result Unit × Engine :=
  let observed := engine.observe now
  observed.guarded (observed.cancelTarget id fence)
    (fun focus => (.ok (), focus.cancel reason detail now))

end Engine

/-! ## Wave credit -/

/-- `kMinGrantChunk`. -/
def minGrantChunk : UInt64 := 16384

/-- `kMaxGrantChunk`. -/
def maxGrantChunk : UInt64 := 1048576

/-- A shard of a held session. -/
structure ShardTarget where
  focus : Focus
  position : Nat
  shard : ShardRecord

namespace Engine

/-- Find a declared shard of a held session. -/
def shardTarget (focus : Focus) (index : ShardIndex) :
    Result ShardTarget := do
  let position ← requireSome
    (.error .notFound "session manifest has no such shard")
    (focus.session.shardPosition index)
  let shard ← requireSome
    (.error .notFound "session manifest has no such shard")
    focus.session.shards[position]?
  return ⟨focus, position, shard⟩

/-- The guards of `request_wave` on the session. -/
def creditHolder
    (engine : Engine) (now : Nanos) (id : SessionId)
    (fence : CommandFence) : Result Focus := do
  let focus ← engine.workloadFencedSession id fence
  validateCheckpointGeneration focus.session fence
  refuseWhen
    (focus.session.state = .revalidationRequired ∨
      focus.session.state = .deferred)
    (.error .revalidationRequired
      "session must be revalidated before requesting credit")
  refuseWhen (focus.session.paused ∨ focus.session.state = .paused)
    (.error .deferred "session is paused")
  refuseWhen
    (isTerminal focus.session.state ∧ focus.session.supersededBy.isSome)
    (.error .superseded
      "session was superseded by a newer checkpoint generation")
  refuseWhen (isTerminal focus.session.state)
    (.error .invalidStateTransition
      "session is terminal and cannot be granted credit")
  refuseWhen (focus.session.envelope.deadlineTarget ≤ now)
    (.error .deadlineUnreachable "checkpoint deadline has elapsed")
  return focus

/-- Whether the shard's current attempt is unsettled. -/
def holdsAttempt (session : SessionRecord) (shard : ShardRecord) : Bool :=
  shard.attempt.any (fun id =>
    (session.attempts.find? (fun attempt => attempt.id == id)).any
      (fun attempt => attempt.outstanding))

/-- The bytes of a shard not yet transferred. -/
def remainingBytes (shard : ShardRecord) : UInt64 :=
  if shard.transferredBytes < shard.declaredBytes then
    shard.declaredBytes - shard.transferredBytes
  else 0

/-- The guards of `request_wave` on the shard. -/
def waveTarget
    (focus : Focus) (index : ShardIndex) (fence : CommandFence) :
    Result ShardTarget := do
  let target ← shardTarget focus index
  let shard := target.shard
  refuseWhen (shard.state = .verified ∨ shard.state = .transferred)
    (.error .invalidStateTransition
      "shard already reached its transfer target")
  refuseWhen (shard.state = .ambiguous)
    (.error .ambiguousOutcome
      "shard outcome is ambiguous; resend the shard is refused until it is resolved by verification or cancellation")
  refuseWhen
    (shard.attempt.isSome ∧
      fence.attemptSequence.any (fun sequence => sequence ≠ shard.sequence))
    (.error .staleAttempt
      "command carries an attempt sequence older than the shard's attempt")
  refuseWhen (holdsAttempt focus.session shard)
    (.error .ambiguousOutcome
      "shard has an unsettled attempt; report its evidence or mark it ambiguous first")
  refuseWhen (remainingBytes shard = 0)
    (.error .invalidStateTransition "shard has no bytes left to grant")
  return target

end Engine

namespace ShardTarget

/-- The grant of `chunk` bytes, with the identity the factory yields. -/
def grant (target : ShardTarget) (chunk : UInt64) (now : Nanos) :
    WaveGrant where
  session := target.focus.key
  attempt := ⟨target.focus.engine.idFactory.next.1⟩
  sequence := ⟨target.focus.session.attemptCounter + 1⟩
  shard := target.shard.index
  wave := (waveForShard target.focus.session.envelope
    target.shard.index).getD ⟨0⟩
  maxBytes := chunk
  rateBps := target.focus.session.envelope.rateBps
  burstBytes := target.focus.session.envelope.burstBytes
  issuedAt := now
  expiresAt := now + nanosPerSecond
  epoch := target.focus.engine.epoch

/-- The attempt record of a grant. -/
def attemptOf (grant : WaveGrant) (now : Nanos) : AttemptRecord where
  id := grant.attempt
  sequence := grant.sequence
  shard := grant.shard
  wave := grant.wave
  outcome := .inFlight
  grantedBytes := grant.maxBytes
  outstanding := true
  grantedAt := now
  updatedAt := now

/-- The oldest attempts beyond the bound are dropped. -/
def trimAttempts (bound : Nat) (attempts : List AttemptRecord) :
    List AttemptRecord :=
  attempts.drop (attempts.length - bound)

/-- The session after a grant, before its timeline line. -/
def grantedSession
    (target : ShardTarget) (grant : WaveGrant) (now : Nanos) :
    SessionRecord :=
  let session := target.focus.session
  { session with
    attemptCounter := session.attemptCounter + 1
    attempts := trimAttempts target.focus.engine.timelineBound
      (session.attempts ++ [attemptOf grant now])
    shards := session.shards.set target.position { target.shard with
      state := .inFlight
      sequence := grant.sequence
      attempt := some grant.attempt
      grantedBytes := grant.maxBytes }
    activeAttempts := session.activeAttempts + 1
    state :=
      if session.state = .admitted ∨ session.state = .sourceComplete then
        .transferring
      else session.state
    updatedAt := now }

/-- The timeline line of a grant. -/
def grantLine (grant : WaveGrant) : Text :=
  ascii "grant shard=" ++ grant.shard.toText ++ ascii " bytes=" ++
    decimal grant.maxBytes.toNat ++ ascii " attempt=" ++ grant.attempt.toText

/-- The engine and the session after a grant. -/
def charge
    (target : ShardTarget) (shaper : RateShaper)
    (chunk : UInt64) (now : Nanos) : Focus :=
  let engine := target.focus.engine
  { target.focus with
    engine := { engine with
      shaper := shaper
      idFactory := engine.idFactory.next.2
      accounting := { engine.accounting with
        activeAttempts := engine.accounting.activeAttempts + 1 } }
    session := target.grantedSession (target.grant chunk now) now }

/-- The committing half of `request_wave`. -/
def issueGrant
    (target : ShardTarget) (shaper : RateShaper)
    (chunk : UInt64) (now : Nanos) : Engine :=
  ((target.charge shaper chunk now).appendTimeline now
    (grantLine (target.grant chunk now))).commit

/-- The part of `request_wave` that draws on the shaper. -/
def requestCredit (target : ShardTarget) (now : Nanos) :
    Result WaveOutcome × Engine :=
  let focus := target.focus
  let isolation := focus.session.envelope.isolation
  let remaining := Engine.remainingBytes target.shard
  let useful := min remaining minGrantChunk
  let available := focus.engine.shaper.classTokensAt isolation now
  if available.1 < useful then
    let wait := available.2.classTimeUntilAt isolation useful now
    (.ok {
        reason := .classCeilingSaturated
        detail := ascii
          "isolation-class credit is below the minimum useful grant"
        retryAfter := some (now + wait.1)
        decidedAt := now },
      { focus.engine with shaper := wait.2 })
  else
    let chunk := min (min remaining maxGrantChunk) available.1
    let verdict := available.2.tryConsume isolation
      focus.session.request.workload chunk now
    if ¬ verdict.1.admitted then
      (.ok {
          reason := verdict.1.reason
          detail := verdict.1.detail
          retryAfter := some verdict.1.retryAfter
          decidedAt := now },
        { focus.engine with shaper := verdict.2 })
    else
      (.ok {
          granted := true
          grant := some (target.grant chunk now)
          decidedAt := now },
        target.issueGrant verdict.2 chunk now)

end ShardTarget

namespace Engine

/-- `request_wave`.  The fabric-wide attempt bound is tested between the
guards on the session and those on the shard. -/
def requestWave
    (engine : Engine) (now : Nanos) (id : SessionId)
    (index : ShardIndex) (fence : CommandFence) :
    Result WaveOutcome × Engine :=
  let observed := engine.observe now
  observed.guarded (observed.creditHolder now id fence) (fun focus =>
    if observed.policy.maxAttemptsInFlight ≤
        observed.accounting.activeAttempts then
      (.ok {
          reason := .resourceLimit
          detail := ascii "fabric attempt bound reached"
          retryAfter := some (now + observed.policy.deferHorizonNs)
          decidedAt := now },
        observed)
    else
      observed.guarded (waveTarget focus index fence)
        (fun target => target.requestCredit now))

end Engine

end TrafficFabric
