import TrafficFabric.Engine.State

/-!
# Working on one session

The helpers of `FabricEngine::Impl` that take a `SessionRecord&`.  Such a
reference points into the session table.  A `Focus` is an engine together
with the current contents of the slot the reference points to; `commit`
stores them back.  Once the slot has been evicted the reference dangles, and
what is written through it afterwards is lost: `commit` leaves the table
alone then.
-/

namespace TrafficFabric

open Foundation

/-! ## Pure parts -/

namespace SessionRecord

/-- `append_timeline`: a line with its time, the oldest lines dropped. -/
def appendTimeline
    (session : SessionRecord) (bound : Nat) (now : Nanos) (line : Text) :
    SessionRecord :=
  let timeline :=
    session.timeline ++ [signedDecimal now.toInt ++ ascii " " ++ line]
  { session with timeline := timeline.drop (timeline.length - bound) }

/-- The loop of `shard_position`; `fuel` bounds the number of halvings. -/
def shardSearch
    (shards : List ShardRecord) (index : ShardIndex) :
    Nat → Nat → Nat → Nat
  | 0, low, _ => low
  | fuel + 1, low, high =>
      if low < high then
        let middle := low + (high - low) / 2
        if shards[middle]?.any (fun shard => shard.index < index) then
          shardSearch shards index fuel (middle + 1) high
        else
          shardSearch shards index fuel low middle
      else low

/-- `shard_position`. -/
def shardPosition
    (session : SessionRecord) (index : ShardIndex) : Option Nat :=
  let low :=
    shardSearch session.shards index session.shards.length
      0 session.shards.length
  if session.shards[low]?.any (fun shard => shard.index == index) then
    some low
  else none

/-- The position of the first attempt with an identity: `find_attempt`. -/
def attemptPosition
    (session : SessionRecord) (id : TransferAttemptId) : Option Nat :=
  session.attempts.findIdx? (fun attempt => attempt.id == id)

/-- Bytes granted to an attempt that were not seen arriving. -/
def undelivered (attempt : AttemptRecord) : UInt64 :=
  if attempt.deliveredBytes < attempt.grantedBytes then
    attempt.grantedBytes - attempt.deliveredBytes
  else 0

/-- `at_risk_bytes`. -/
def atRiskBytes (session : SessionRecord) : UInt64 :=
  session.attempts.foldl
    (fun atRisk attempt =>
      if attempt.outstanding then atRisk + undelivered attempt else atRisk)
    0

/-- `release_attempts`. -/
def releaseAttempts (session : SessionRecord) : SessionRecord :=
  { session with
    attempts := session.attempts.map
      (fun attempt => { attempt with outstanding := false })
    activeAttempts := 0 }

/-- The number of shards in one of the given states. -/
def countShards (session : SessionRecord) (states : List ShardState) : Nat :=
  session.shards.countP (fun shard => shard.state ∈ states)

def allVerified (session : SessionRecord) : Bool :=
  session.countShards [.verified] == session.shards.length &&
    0 < session.shards.length

def allSettled (session : SessionRecord) : Bool :=
  session.countShards [.verified, .transferred] == session.shards.length &&
    0 < session.shards.length

/-- The evidence level `recompute_progress` derives from the shards. -/
def derivedEvidence (session : SessionRecord) : EvidenceLevel :=
  if session.allVerified then .verifiedAtDestination
  else if session.allSettled then .transferred
  else if session.sourceComplete then .sourceComplete
  else .none

/-- The states that `recompute_progress` leaves alone. -/
def holdsState (state : SessionState) : Bool :=
  isTerminal state || state == .revalidationRequired ||
    state == .paused || state == .deferred

/-- The state `recompute_progress` derives from the shards. -/
def derivedState (session : SessionRecord) : SessionState :=
  if holdsState session.state then session.state
  else if session.allVerified then .verifiedAtDestination
  else if session.allSettled then .transferred
  else if 0 < session.countShards [.ambiguous] ∨
      0 < session.countShards [.inFlight, .granted] then .transferring
  else if session.sourceComplete then .sourceComplete
  else .admitted

/-- The first half of `recompute_progress`. -/
def deriveProgress (session : SessionRecord) : SessionRecord :=
  { session with
    evidence := session.derivedEvidence
    state := session.derivedState }

end SessionRecord

/-- `wave_for_shard`. -/
def waveForShard
    (envelope : TrafficEnvelope) (index : ShardIndex) : Option WaveIndex :=
  (envelope.waves.find? (fun plan => index ∈ plan.shards)).map
    (fun plan => plan.index)

/-- The terminal states in which arrived bytes no longer count. -/
def discards (state : SessionState) : Bool :=
  state == .superseded || state == .cancelled || state == .failed

/-! ## Engine bookkeeping -/

namespace Engine

/-- Change the aggregate counters. -/
def book
    (engine : Engine) (change : AccountingSnapshot → AccountingSnapshot) :
    Engine :=
  { engine with accounting := change engine.accounting }

/-- Record whether a subtraction would go below zero. -/
def watch (engine : Engine) (minuend subtrahend : UInt64) : Engine :=
  { engine with
    underflow := engine.underflow || decide (minuend < subtrahend) }

/-- `adjust_active` with a positive delta. -/
def activate (engine : Engine) (session : SessionRecord) : Engine :=
  { engine with
    accounting := { engine.accounting with
      activeSessions := engine.accounting.activeSessions + 1 }
    classActive := fun isolation =>
      if isolation = session.envelope.isolation then
        engine.classActive isolation + 1
      else engine.classActive isolation
    workloadActive := engine.workloadActive.insert session.request.workload
      (engine.workloadActive.findD session.request.workload 0 + 1) }

/-- `adjust_active` with a negative delta. -/
def deactivate (engine : Engine) (session : SessionRecord) : Engine :=
  { engine with
    accounting := { engine.accounting with
      activeSessions :=
        if 0 < engine.accounting.activeSessions then
          engine.accounting.activeSessions - 1
        else engine.accounting.activeSessions }
    classActive := fun isolation =>
      if isolation = session.envelope.isolation ∧
          0 < engine.classActive isolation then
        engine.classActive isolation - 1
      else engine.classActive isolation
    workloadActive :=
      match engine.workloadActive.lookup session.request.workload with
      | none => engine.workloadActive
      | some count =>
          let lowered := if 0 < count then count - 1 else count
          if lowered = 0 then
            engine.workloadActive.erase session.request.workload
          else
            engine.workloadActive.replace session.request.workload lowered }

/-- Append to the list stored under a key. -/
def pushIndex {Key : Type} [DecidableEq Key]
    (index : Table Key (List SessionId)) (key : Key) (id : SessionId) :
    Table Key (List SessionId) :=
  index.insert key (index.findD key [] ++ [id])

/-- `rebuild_indexes`. -/
def rebuildIndexes (engine : Engine) : Engine :=
  { engine with
    byWorkload := engine.sessions.entries.foldl
      (fun index entry => pushIndex index entry.2.request.workload entry.1) ∅
    byCheckpoint := engine.sessions.entries.foldl
      (fun index entry => pushIndex index entry.2.request.checkpoint entry.1)
      ∅ }

/-- Remove one session, keeping its bytes in the pruned totals. -/
def evict (engine : Engine) (id : SessionId) (session : SessionRecord) :
    Engine :=
  { engine with
    pruned :=
      { admitted := engine.pruned.admitted + session.admittedBytes
        transferred := engine.pruned.transferred + session.transferredBytes
        verified := engine.pruned.verified + session.verifiedBytes
        cancelled := engine.pruned.cancelled + session.cancelledBytes
        wasted := engine.pruned.wasted + session.wastedBytes
        unproven := engine.pruned.unproven + session.unprovenBytes }
    sessions := engine.sessions.erase id }

/-- The eviction loop of `prune_history` over the terminal sessions, oldest
first; the flag tells whether anything was erased. -/
def pruneLoop (target : Nat) :
    List SessionId → Bool → Engine → Bool × Engine
  | [], erased, engine => (erased, { engine with terminalOrder := [] })
  | id :: rest, erased, engine =>
      if target < engine.sessions.entries.length then
        match engine.sessions.lookup id with
        | none => pruneLoop target rest erased engine
        | some session =>
            if isTerminal session.state then
              pruneLoop target rest true (engine.evict id session)
            else pruneLoop target rest erased engine
      else (erased, { engine with terminalOrder := id :: rest })

/-- `prune_history`. -/
def pruneHistory (engine : Engine) : Engine :=
  if engine.sessions.entries.length ≤ engine.retentionBound then engine
  else
    let result :=
      pruneLoop (engine.retentionBound * 3 / 4)
        engine.terminalOrder false engine
    if result.1 then result.2.rebuildIndexes else result.2

/-- `deadlines_[deadline].push_back(id)` on the sorted list of entries. -/
def pushDeadline (deadline : Nanos) (id : SessionId) :
    List (Nanos × List SessionId) → List (Nanos × List SessionId)
  | [] => [(deadline, [id])]
  | (key, ids) :: rest =>
      if deadline < key then (deadline, [id]) :: (key, ids) :: rest
      else if deadline = key then (key, ids ++ [id]) :: rest
      else (key, ids) :: pushDeadline deadline id rest

/-- `index_deadline`. -/
def indexDeadline (engine : Engine) (session : SessionRecord) : Engine :=
  if 0 < session.envelope.deadlineTarget then
    { engine with
      deadlines := pushDeadline session.envelope.deadlineTarget session.id
        engine.deadlines }
  else engine

end Engine

/-! ## A held session -/

/-- An engine and the contents of one slot of its session table. -/
structure Focus where
  engine : Engine
  key : SessionId
  session : SessionRecord

/-- Look a session up. -/
def Engine.hold (engine : Engine) (id : SessionId) : Option Focus :=
  (engine.sessions.lookup id).map (fun session => ⟨engine, id, session⟩)

/-- Run `body` on the sessions with the given identities that exist. -/
def Engine.visit
    (engine : Engine) (ids : List SessionId) (body : Focus → Engine) :
    Engine :=
  ids.foldl
    (fun engine id =>
      match engine.hold id with
      | none => engine
      | some focus => body focus)
    engine

theorem Engine.visit_cons
    (engine : Engine) (first : SessionId) (rest : List SessionId)
    (body : Focus → Engine) :
    engine.visit (first :: rest) body =
      ((engine.hold first).elim engine body).visit rest body := by
  unfold Engine.visit
  rw [List.foldl_cons]
  cases engine.hold first <;> rfl

namespace Focus

/-- The engine with the held contents stored in the slot. -/
def commit (focus : Focus) : Engine :=
  { focus.engine with
    sessions := focus.engine.sessions.replace focus.key focus.session }

/-- Change the held session only. -/
def revise (focus : Focus) (change : SessionRecord → SessionRecord) : Focus :=
  { focus with session := change focus.session }

/-- Change the aggregate counters only. -/
def book
    (focus : Focus) (change : AccountingSnapshot → AccountingSnapshot) :
    Focus :=
  { focus with engine := focus.engine.book change }

/-- Set the time of the last update. -/
def touch (focus : Focus) (now : Nanos) : Focus :=
  focus.revise (fun session => { session with updatedAt := now })

/-- `settle_reason`. -/
def settleReason (focus : Focus) (reason : ReasonCode) (detail : Text) :
    Focus :=
  focus.revise (fun session =>
    { session with lastReason := reason, lastDetail := detail })

def appendTimeline (focus : Focus) (now : Nanos) (line : Text) : Focus :=
  focus.revise (fun session =>
    session.appendTimeline focus.engine.timelineBound now line)

/-- `release_path_reservation`. -/
def releasePathReservation (focus : Focus) : Focus :=
  match focus.session.reservedPath with
  | none => focus
  | some path =>
      { focus with
        engine := { focus.engine with
          shaper := focus.engine.shaper.releasePathRate path
            focus.session.reservedRateBps }
        session := { focus.session with
          reservedPath := none
          reservedRateBps := 0 } }

/-- `mark_unproven`. -/
def markUnproven (focus : Focus) (bytes : UInt64) : Focus :=
  let bounded := min bytes focus.session.outstandingBytes
  { focus with
    engine :=
      (focus.engine.watch
        focus.engine.accounting.grantedOutstandingBytes bounded).book
        (fun accounting => { accounting with
          grantedOutstandingBytes :=
            accounting.grantedOutstandingBytes - bounded
          bytesUnproven := accounting.bytesUnproven + bounded })
    session := { focus.session with
      outstandingBytes := focus.session.outstandingBytes - bounded
      unprovenBytes := focus.session.unprovenBytes + bounded } }

/-- `settle_outstanding_as_cancelled`. -/
def settleOutstandingAsCancelled (focus : Focus) : Focus :=
  let remaining := focus.session.outstandingBytes
  { focus with
    engine :=
      (focus.engine.watch
        focus.engine.accounting.grantedOutstandingBytes remaining).book
        (fun accounting => { accounting with
          grantedOutstandingBytes :=
            accounting.grantedOutstandingBytes - remaining
          bytesCancelled := accounting.bytesCancelled + remaining })
    session := { focus.session with
      outstandingBytes := 0
      cancelledBytes := focus.session.cancelledBytes + remaining } }

/-- `release_active_attempts`. -/
def releaseActiveAttempts (focus : Focus) (outcome : AttemptOutcome) :
    Focus :=
  { focus with
    engine := focus.engine.book (fun accounting => { accounting with
      activeAttempts :=
        accounting.activeAttempts - focus.session.activeAttempts })
    session := { focus.session with
      attempts := focus.session.attempts.map (fun attempt =>
        if attempt.outstanding then
          { attempt with outstanding := false, outcome := outcome }
        else attempt)
      activeAttempts := 0 } }

/-- One attempt less in flight, unless the session counts none. -/
def dropActiveAttempt (focus : Focus) : Focus :=
  if 0 < focus.session.activeAttempts then
    { focus with
      engine := focus.engine.book (fun accounting => { accounting with
        activeAttempts := accounting.activeAttempts - 1 })
      session := { focus.session with
        activeAttempts := focus.session.activeAttempts - 1 } }
  else focus

/-- When the session is discarded, its arrived bytes that were never verified
move from the transferred into the wasted bucket. -/
def wasteUnverified (focus : Focus) (state : SessionState) : Focus :=
  let unverified :=
    if discards state ∧
        focus.session.verifiedBytes < focus.session.transferredBytes then
      focus.session.transferredBytes - focus.session.verifiedBytes
    else 0
  { focus with
    engine :=
      (focus.engine.watch
        focus.engine.accounting.bytesTransferred unverified).book
        (fun accounting => { accounting with
          bytesTransferred := accounting.bytesTransferred - unverified
          bytesWasted := accounting.bytesWasted + unverified })
    session := { focus.session with
      transferredBytes := focus.session.transferredBytes - unverified
      wastedBytes := focus.session.wastedBytes + unverified } }

/-- `note_terminal`. -/
def noteTerminal (focus : Focus) : Focus :=
  let lowered := focus.engine.deactivate focus.session
  { focus with
    engine := { lowered with
      terminalOrder := lowered.terminalOrder ++ [focus.session.id] } }

/-- `prune_history` while a session is held: its slot is written first. -/
def pruneHistory (focus : Focus) : Focus :=
  { focus with engine := focus.commit.pruneHistory }

/-- Only a session that is not yet terminal is noted as such. -/
def retire (focus : Focus) : Focus :=
  if isTerminal focus.session.state then focus else focus.noteTerminal

/-- `settle_terminal` up to its call of `prune_history`. -/
def closeAs
    (focus : Focus) (state : SessionState) (reason : ReasonCode)
    (detail : Text) (now : Nanos) : Focus :=
  let released := focus.releaseActiveAttempts
    (if state = .superseded then .superseded else .released)
  let retired := (released.wasteUnverified state).retire
  let closed := retired.revise (fun session =>
    { session with state := state, paused := false })
  ((closed.settleReason reason detail).touch now).releasePathReservation

/-- `settle_terminal`. -/
def settleTerminal
    (focus : Focus) (state : SessionState) (reason : ReasonCode)
    (detail : Text) (now : Nanos) : Focus :=
  (focus.closeAs state reason detail now).pruneHistory

/-- Whether the shards allow the session to complete under the policy. -/
def isComplete (focus : Focus) : Bool :=
  if focus.engine.policy.requireDestinationVerification then
    focus.session.allVerified
  else focus.session.allSettled

/-- The session as the completion branch of `recompute_progress` records
it. -/
def finish (focus : Focus) (now : Nanos) : Focus :=
  let finished := focus.revise (fun session => { session with
    state := .trafficSessionComplete
    evidence :=
      if session.allVerified then .verifiedAtDestination else .transferred })
  (finished.settleReason .admitted (ascii
    (if focus.engine.policy.requireDestinationVerification then
      "all shards verified at destination"
    else
      "all shards transferred (destination verification not required by policy)"))).touch
    now

/-- The completion branch of `recompute_progress`, up to pruning. -/
def completeSession (focus : Focus) (now : Nanos) : Focus :=
  let counted := (focus.finish now).releasePathReservation.book
    (fun accounting => { accounting with
      sessionsCompleted := accounting.sessionsCompleted + 1 })
  (counted.revise (fun session =>
    { session with outstandingBytes := 0 })).noteTerminal

/-- `recompute_progress`. -/
def recomputeProgress (focus : Focus) (now : Nanos) : Focus :=
  let derived := focus.revise SessionRecord.deriveProgress
  if derived.isComplete ∧ ¬ isTerminal derived.session.state then
    (derived.completeSession now).pruneHistory
  else derived

end Focus

end TrafficFabric
