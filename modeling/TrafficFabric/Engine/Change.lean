import TrafficFabric.Engine.Buckets
import TrafficFabric.Foundation.Words

/-!
# What can happen to one session

Every operation acts on a session through a few elementary changes.  This
module lists them, with what the guards of the operation establish at that
point, so that an invariant has to be checked once per change and not once
per operation.

Some changes keep an invariant only under a condition on the caller.  A
`Permits` names such conditions; the operations perform the change only when
its permit holds.
-/

namespace TrafficFabric

open Foundation

variable {focus before after : Focus} {id : SessionId}

theorem SessionRecord.toNat_undelivered (attempt : AttemptRecord) :
    (SessionRecord.undelivered attempt).toNat =
      attempt.grantedBytes.toNat - attempt.deliveredBytes.toNat := by
  unfold SessionRecord.undelivered
  exact Word.toNat_monus _ _

/-! ## Holding a session -/

namespace Focus

/-- The slot a reference points to still exists. -/
def Live (focus : Focus) : Prop :=
  focus.key ∈ focus.engine.sessions

theorem lookup_commit_self
    (live : focus.Live) :
    focus.commit.sessions.lookup focus.key = some focus.session :=
  Table.lookup_replace_self live

theorem lookup_commit_ne
    (differs : id ≠ focus.key) :
    focus.commit.sessions.lookup id = focus.engine.sessions.lookup id :=
  Table.lookup_replace_ne differs

/-- Nothing can be written through a dangling reference. -/
theorem commit_of_dead
    {focus : Focus} (dead : ¬ focus.Live) :
    focus.commit = focus.engine := by
  unfold commit
  rw [Table.replace_of_not_mem dead]

/-- The focus holds what its slot contains. -/
def Held (focus : Focus) : Prop :=
  focus.engine.sessions.lookup focus.key = some focus.session

theorem Held.live (held : focus.Held) : focus.Live :=
  Table.mem_of_lookup held

/-- Committing what the slot holds changes nothing. -/
theorem Held.commit {focus : Focus} (held : focus.Held) :
    focus.commit = focus.engine := by
  unfold Focus.commit
  rw [Table.replace_of_lookup held]

end Focus

/-- What looking a session up yields. -/
theorem Engine.hold_eq_some
    {engine : Engine} :
    engine.hold id = some focus ↔
      focus.engine = engine ∧ focus.key = id ∧ focus.Held := by
  unfold Engine.hold
  constructor
  · intro found
    rcases Option.map_eq_some_iff.mp found with ⟨session, held, rfl⟩
    exact ⟨rfl, rfl, held⟩
  · rintro ⟨rfl, rfl, held⟩
    rw [held]
    rfl

/-! ## Engine frames -/

/-- The parts of an engine that no change of one session touches. -/
structure Frame (before after : Engine) : Prop where
  epoch : after.epoch = before.epoch
  limits : after.limits = before.limits
  policy : after.policy = before.policy
  topology : after.topology = before.topology
  contracts : after.contracts = before.contracts
  sessions : after.sessions = before.sessions
  byWorkload : after.byWorkload = before.byWorkload
  byCheckpoint : after.byCheckpoint = before.byCheckpoint
  pruned : after.pruned = before.pruned
  retentionBound : after.retentionBound = before.retentionBound
  shutdown : before.shuttingDown = true → after.shuttingDown = true
  seed : after.idFactory.seed = before.idFactory.seed
  drawn : before.idFactory.drawn ≤ after.idFactory.drawn

theorem Frame.refl (engine : Engine) : Frame engine engine :=
  ⟨rfl, rfl, rfl, rfl, rfl, rfl, rfl, rfl, rfl, rfl, id, rfl, le_rfl⟩

/-- Accounts with the same bytes and the same activity. -/
structure AccountingSnapshot.Alike (before after : AccountingSnapshot) :
    Prop where
  bytes : ∀ bucket, after.bytesIn bucket = before.bytesIn bucket
  activeSessions : after.activeSessions = before.activeSessions
  activeAttempts : after.activeAttempts = before.activeAttempts

theorem AccountingSnapshot.Alike.refl (accounting : AccountingSnapshot) :
    accounting.Alike accounting :=
  ⟨fun _ => rfl, rfl, rfl⟩

theorem AccountingSnapshot.Alike.trans
    {first second third : AccountingSnapshot}
    (left : first.Alike second) (right : second.Alike third) :
    first.Alike third where
  bytes := fun bucket => (right.bytes bucket).trans (left.bytes bucket)
  activeSessions := right.activeSessions.trans left.activeSessions
  activeAttempts := right.activeAttempts.trans left.activeAttempts

/-- A step that moves no byte, draws no identity, keeps the table, the
activity counters, the shaper, the deadline index and the eviction queue: it
may touch the replay index and the counters of decisions. -/
structure Housekeeping (before after : Engine) : Prop
    extends Frame before after where
  factory : after.idFactory = before.idFactory
  underflow : after.underflow = before.underflow
  accounts : before.accounting.Alike after.accounting
  classActive : after.classActive = before.classActive
  workloadActive : after.workloadActive = before.workloadActive
  shaper : after.shaper = before.shaper
  deadlines : after.deadlines = before.deadlines
  terminalOrder : after.terminalOrder = before.terminalOrder

theorem Housekeeping.bytes
    {before after : Engine} (same : Housekeeping before after)
    (bucket : Bucket) :
    after.accounting.bytesIn bucket = before.accounting.bytesIn bucket :=
  same.accounts.bytes bucket

theorem Housekeeping.refl (engine : Engine) : Housekeeping engine engine :=
  { Frame.refl engine with
    factory := rfl, underflow := rfl, accounts := .refl _
    classActive := rfl, workloadActive := rfl, shaper := rfl
    deadlines := rfl, terminalOrder := rfl }

/-- What the engine remembers of decided commands. -/
def Engine.memory (engine : Engine) :
    Table CommandId CommandRecord × List CommandId × Nat :=
  (engine.commandIndex, engine.commandOrder, engine.commandIndexBound)

/-! ## Sessions after settlement -/

namespace Focus

@[simp]
theorem retire_session (focus : Focus) :
    focus.retire.session = focus.session := by
  unfold retire
  split
  · rfl
  · rfl

theorem dropActiveAttempt_session (focus : Focus) :
    focus.dropActiveAttempt.session =
      { focus.session with
        activeAttempts :=
          if 0 < focus.session.activeAttempts then
            focus.session.activeAttempts - 1
          else focus.session.activeAttempts } := by
  unfold dropActiveAttempt
  split
  · rfl
  · rfl

theorem releasePathReservation_session (focus : Focus) :
    focus.releasePathReservation.session =
      { focus.session with
        reservedPath := none
        reservedRateBps :=
          focus.releasePathReservation.session.reservedRateBps } := by
  unfold releasePathReservation
  split
  · rename_i unreserved
    rw [← unreserved]
  · rfl

theorem releasePathReservation_accounting (focus : Focus) :
    focus.releasePathReservation.engine.accounting =
        focus.engine.accounting ∧
      focus.releasePathReservation.engine.underflow =
        focus.engine.underflow := by
  unfold releasePathReservation
  split <;> exact ⟨rfl, rfl⟩

/-- The arrived bytes of a session that a settlement in `state` discards. -/
def unverified (focus : Focus) (state : SessionState) : UInt64 :=
  if discards state ∧
      focus.session.verifiedBytes < focus.session.transferredBytes then
    focus.session.transferredBytes - focus.session.verifiedBytes
  else 0

theorem closeAs_session
    (focus : Focus) (state : SessionState) (reason : ReasonCode)
    (detail : Text) (now : Nanos) :
    (focus.closeAs state reason detail now).session =
      { focus.session with
        attempts := focus.session.attempts.map (fun attempt =>
          if attempt.outstanding then
            { attempt with
              outstanding := false
              outcome :=
                if state = .superseded then .superseded else .released }
          else attempt)
        activeAttempts := 0
        transferredBytes :=
          focus.session.transferredBytes - focus.unverified state
        wastedBytes := focus.session.wastedBytes + focus.unverified state
        state := state
        paused := false
        lastReason := reason
        lastDetail := detail
        updatedAt := now
        reservedPath := none
        reservedRateBps :=
          (focus.closeAs state reason detail now).session.reservedRateBps }
    := by
  unfold closeAs
  dsimp only
  rw [releasePathReservation_session]
  simp only [touch, settleReason, revise, retire_session]
  rfl

theorem completeSession_session (focus : Focus) (now : Nanos) :
    (focus.completeSession now).session =
      { focus.session with
        state := .trafficSessionComplete
        evidence := (focus.completeSession now).session.evidence
        lastReason := .admitted
        lastDetail := (focus.completeSession now).session.lastDetail
        updatedAt := now
        reservedPath := none
        reservedRateBps :=
          (focus.completeSession now).session.reservedRateBps
        outstandingBytes := 0 } := by
  unfold completeSession
  dsimp only [noteTerminal, revise, book]
  rw [releasePathReservation_session]
  rfl

end Focus

/-! ## Sessions after evidence -/

namespace EvidenceTarget

theorem acknowledge_session
    (target : EvidenceTarget) (evidence : TransferEvidence)
    (newlyDelivered : UInt64) (now : Nanos) :
    (target.acknowledge evidence newlyDelivered now).session =
      { target.focus.session with
        attempts := target.focus.session.attempts.set target.attemptPosition
          { target.sighted evidence now with
            outcome := .deliveredAcked
            outstanding := false }
        outstandingBytes :=
          target.focus.session.outstandingBytes - newlyDelivered
        transferredBytes :=
          target.focus.session.transferredBytes + newlyDelivered
        shards := target.focus.session.shards.set target.shardPosition
          (target.creditedShard evidence newlyDelivered)
        activeAttempts :=
          if 0 < target.focus.session.activeAttempts then
            target.focus.session.activeAttempts - 1
          else target.focus.session.activeAttempts } := by
  unfold acknowledge
  dsimp only
  rw [Focus.dropActiveAttempt_session]
  rfl

theorem truncate_session (target : EvidenceTarget) :
    target.truncate.session =
      { target.focus.session with
        attempts := target.focus.session.attempts.set target.attemptPosition
          { target.attempt with outcome := .failed, outstanding := false }
        activeAttempts :=
          if target.attempt.outstanding ∧
              0 < target.focus.session.activeAttempts then
            target.focus.session.activeAttempts - 1
          else target.focus.session.activeAttempts
        shards := target.focus.session.shards.set target.shardPosition
          { target.shard with
            state := .pending
            sequence := ⟨0⟩
            transferredBytes := 0
            grantedBytes := 0
            attempt := none }
        transferredBytes :=
          if target.shard.transferredBytes <
              target.focus.session.transferredBytes then
            target.focus.session.transferredBytes -
              target.shard.transferredBytes
          else 0
        wastedBytes :=
          target.focus.session.wastedBytes + target.shard.transferredBytes
        outstandingBytes :=
          target.focus.session.outstandingBytes +
            target.shard.transferredBytes
        admittedBytes :=
          target.focus.session.admittedBytes +
            target.shard.transferredBytes } := by
  unfold truncate
  dsimp only [Focus.book, Focus.revise, Focus.setShard]
  by_cases outstanding : target.attempt.outstanding = true
  · simp only [outstanding, if_true, true_and]
    rw [Focus.dropActiveAttempt_session]
    rfl
  · simp only [outstanding]
    rfl

theorem blur_session (target : EvidenceTarget) :
    target.blur.session =
      { target.focus.session with
        shards := target.focus.session.shards.set target.shardPosition
          { target.shard with state := .ambiguous }
        attempts := target.focus.session.attempts.set target.attemptPosition
          { target.attempt with
            outcome := .ambiguous
            outstanding := false }
        activeAttempts :=
          if 0 < target.focus.session.activeAttempts then
            target.focus.session.activeAttempts - 1
          else target.focus.session.activeAttempts } := by
  unfold blur
  dsimp only
  rw [Focus.dropActiveAttempt_session]
  rfl

end EvidenceTarget

namespace AttemptTarget

/-- The shards of a session after an ambiguity report. -/
def blurredShards (target : AttemptTarget) : List ShardRecord :=
  (blurShard target.focus.session target.attempt.shard).shards

theorem blurShard_session (session : SessionRecord) (index : ShardIndex) :
    blurShard session index =
      { session with shards := (blurShard session index).shards } := by
  unfold blurShard
  split
  · rfl
  · rfl

theorem blurShard_shards
    {session other : SessionRecord} (same : other.shards = session.shards)
    (index : ShardIndex) :
    (blurShard other index).shards = (blurShard session index).shards := by
  unfold blurShard SessionRecord.shardPosition
  rw [same]
  split
  · exact same
  · rfl

theorem blur_session (target : AttemptTarget) (now : Nanos) :
    (target.blur now).session =
      { target.focus.session with
        attempts := target.focus.session.attempts.set target.position
          { target.attempt with
            outcome := .ambiguous
            outstanding := false
            updatedAt := now }
        activeAttempts :=
          if target.attempt.outstanding ∧
              0 < target.focus.session.activeAttempts then
            target.focus.session.activeAttempts - 1
          else target.focus.session.activeAttempts
        shards := target.blurredShards } := by
  have dropped (focus : Focus) :
      (if target.attempt.outstanding = true then focus.dropActiveAttempt
        else focus).session =
        { focus.session with
          activeAttempts :=
            if target.attempt.outstanding ∧
                0 < focus.session.activeAttempts then
              focus.session.activeAttempts - 1
            else focus.session.activeAttempts } := by
    by_cases outstanding : target.attempt.outstanding = true
    · simp only [outstanding, if_true, true_and]
      exact Focus.dropActiveAttempt_session focus
    · simp [outstanding]
  unfold blur blurredShards
  dsimp only [Focus.revise]
  have marked := dropped (target.focus.setAttempt target.position
    { target.attempt with
      outcome := .ambiguous
      outstanding := false
      updatedAt := now })
  generalize Focus.session (if target.attempt.outstanding = true then _
    else _) = reached at marked ⊢
  have same : reached.shards = target.focus.session.shards := by
    rw [marked]
    rfl
  rw [blurShard_session, blurShard_shards same, marked]
  rfl

end AttemptTarget

/-! ## Valid targets -/

/-- A shard of a live session. -/
structure ShardTarget.Valid (target : ShardTarget) : Prop where
  live : target.focus.Live
  shardAt :
    target.focus.session.shards[target.position]? = some target.shard
  active : isTerminal target.focus.session.state = false

/-- The current attempt of a shard of a live session. -/
structure EvidenceTarget.Valid (target : EvidenceTarget) : Prop where
  live : target.focus.Live
  shardAt :
    target.focus.session.shards[target.shardPosition]? = some target.shard
  attemptAt :
    target.focus.session.attempts[target.attemptPosition]? =
      some target.attempt
  current : target.shard.attempt = some target.attempt.id
  active : isTerminal target.focus.session.state = false

/-- An attempt of a live session. -/
structure AttemptTarget.Valid (target : AttemptTarget) : Prop where
  live : target.focus.Live
  attemptAt :
    target.focus.session.attempts[target.position]? = some target.attempt
  active : isTerminal target.focus.session.state = false

/-- What `request_wave` has checked before it issues a grant. -/
structure ShardTarget.Grantable
    (target : ShardTarget) (chunk : UInt64) : Prop
    extends target.Valid where
  unpaused : target.focus.session.paused = false
  state :
    target.focus.session.state ≠ .revalidationRequired ∧
      target.focus.session.state ≠ .deferred ∧
      target.focus.session.state ≠ .paused
  shardState :
    target.shard.state ≠ .verified ∧ target.shard.state ≠ .transferred ∧
      target.shard.state ≠ .ambiguous
  unheld : Engine.holdsAttempt target.focus.session target.shard = false
  within : chunk ≤ Engine.remainingBytes target.shard

/-! ## Changes -/

/-- Conditions on callers under which changes are performed. -/
structure Permits where
  epoch : CoordinatorEpoch → Prop := fun _ => True
  policy : PolicySnapshot → Prop := fun _ => True
  topology : TopologySnapshot → Prop := fun _ => True
  contract : WorkloadContract → Prop := fun _ => True
  resume : Focus → Prop := fun _ => True
  renew : Focus → Prop := fun _ => True
  enroll : Engine → SessionRecord → Prop := fun _ _ => True
  grant : ShardTarget → Prop := fun _ => True
  verify : EvidenceTarget → Prop := fun _ => True
  failVerification : EvidenceTarget → Prop := fun _ => True
  truncate : EvidenceTarget → Prop := fun _ => True
  abandon : Focus → Prop := fun _ => True
  cancel : Focus → Prop := fun _ => True
  acknowledge : EvidenceTarget → Prop := fun _ => True
  blurShard : EvidenceTarget → Prop := fun _ => True
  blurAttempt : AttemptTarget → Prop := fun _ => True
  unprove : Focus → UInt64 → Prop := fun _ _ => True
  reshape : Engine → RateShaper → Prop := fun _ _ => True
  reserve : Engine → RateShaper → Prop := fun _ _ => True
  reschedule : Engine → List (Nanos × List SessionId) → Prop :=
    fun _ _ => True
  /-- Decided commands are remembered. -/
  remember : Prop := True
  /-- Sessions are settled. -/
  close : Prop := True

/-- A step that moves neither authority nor bytes: bookkeeping in the engine,
and remarks in the held session. -/
structure Annotated (before after : Focus) : Prop where
  key : after.key = before.key
  engine : Housekeeping before.engine after.engine
  memory : after.engine.memory = before.engine.memory
  session : after.session = { before.session with
    durability := after.session.durability
    timeline := after.session.timeline
    updatedAt := after.session.updatedAt
    lastReason := after.session.lastReason
    lastDetail := after.session.lastDetail
    supersededBy := after.session.supersededBy }

/-- The elementary changes of a held session. -/
inductive Change (permits : Permits) : Focus → Focus → Prop
  | annotate (before after : Focus)
      (noted : Annotated before after) :
      Change permits before after
  | withdraw (focus : Focus) (reason : Text)
      (active : isTerminal focus.session.state = false)
      (stale : reason ≠ []) :
      Change permits focus (focus.withdraw reason)
  | unprove (focus : Focus) (bytes : UInt64)
      (permitted : permits.unprove focus bytes) :
      Change permits focus (focus.markUnproven bytes)
  | cancelOutstanding (focus : Focus)
      (active : isTerminal focus.session.state = false)
      (permitted : permits.cancel focus) :
      Change permits focus focus.settleOutstandingAsCancelled
  | rearm (focus : Focus) (now : Nanos)
      (active : isTerminal focus.session.state = false) :
      Change permits focus (focus.rearm now)
  /-- Settlement of a session that holds no outstanding bytes. -/
  | close (focus : Focus) (state : SessionState) (reason : ReasonCode)
      (detail : Text) (now : Nanos)
      (discarded : discards state = true)
      (open_ :
        isTerminal focus.session.state = false ∨
          focus.session.state = state)
      (settled : focus.session.outstandingBytes = 0)
      (closing : permits.close) :
      Change permits focus (focus.closeAs state reason detail now)
  /-- Settlement after a failed revalidation. -/
  | closeAbandoned (focus : Focus) (reason : ReasonCode)
      (detail : Text) (now : Nanos)
      (active : isTerminal focus.session.state = false)
      (settled :
        focus.session.outstandingBytes = 0 ∨
          focus.engine.contracts.lookup focus.session.request.workload =
            none)
      (permitted : permits.abandon focus) (closing : permits.close) :
      Change permits focus
        (focus.abandon.closeAs .failed reason detail now)
  /-- Settlement after a failed verification. -/
  | closeMismatched (target : EvidenceTarget) (reason : ReasonCode)
      (detail : Text) (now : Nanos) (valid : target.Valid)
      (permitted : permits.failVerification target)
      (closing : permits.close) :
      Change permits target.focus
        (target.markFailed.closeAs .failed reason detail now)
  | postpone (focus : Focus) (reason : Text)
      (stale :
        focus.session.state = .revalidationRequired ∨
          focus.session.state = .deferred)
      (nonempty : reason ≠ []) :
      Change permits focus (focus.postpone reason)
  | unreserve (focus : Focus) :
      Change permits focus focus.releasePathReservation
  | renew (focus : Focus) (contract : WorkloadContract)
      (path : PathClassId) (rateBps : UInt64) (now : Nanos)
      (stale :
        focus.session.state = .revalidationRequired ∨
          focus.session.state = .deferred)
      (permitted : permits.renew focus) :
      Change permits focus (focus.renew contract path rateBps now)
  | suspend (focus : Focus)
      (active : isTerminal focus.session.state = false)
      (authorised : focus.session.state ≠ .revalidationRequired)
      (unpaused : focus.session.paused = false) :
      Change permits focus focus.suspend
  | reinstate (focus : Focus) (paused : focus.session.paused = true)
      (permitted : permits.resume focus) :
      Change permits focus focus.reinstate
  | charge (target : ShardTarget) (shaper : RateShaper)
      (chunk : UInt64) (now : Nanos) (grantable : target.Grantable chunk)
      (kept :
        shaper.pathReservations =
          target.focus.engine.shaper.pathReservations)
      (permitted : permits.grant target) :
      Change permits target.focus (target.charge shaper chunk now)
  | flagSource (target : ShardTarget) (sourceBytes : UInt64)
      (valid : target.Valid) :
      Change permits target.focus (target.flagSource sourceBytes)
  /-- Bytes seen arriving, with or without an unacknowledged outcome. -/
  | sight (target : EvidenceTarget) (evidence : TransferEvidence)
      (now : Nanos) (outcome : AttemptOutcome) (valid : target.Valid)
      (within : evidence.arrivedBytes ≤ target.attempt.grantedBytes)
      (grows : target.attempt.deliveredBytes ≤ evidence.arrivedBytes)
      (unsettled :
        outcome = target.attempt.outcome ∨ outcome = .deliveredUnacked) :
      Change permits target.focus
        (target.focus.setAttempt target.attemptPosition
          { target.sighted evidence now with outcome := outcome })
  | acknowledge (target : EvidenceTarget) (evidence : TransferEvidence)
      (now : Nanos) (valid : target.Valid)
      (within : evidence.arrivedBytes ≤ target.attempt.grantedBytes)
      (grows : target.attempt.deliveredBytes ≤ evidence.arrivedBytes)
      (funded :
        evidence.arrivedBytes - target.attempt.deliveredBytes ≤
          target.focus.session.outstandingBytes)
      (permitted : permits.acknowledge target) :
      Change permits target.focus
        (target.acknowledge evidence
          (evidence.arrivedBytes - target.attempt.deliveredBytes) now)
  | verify (target : EvidenceTarget) (evidence : VerificationEvidence)
      (valid : target.Valid)
      (acked :
        target.attempt.outcome = .deliveredAcked ∨
          target.attempt.outcome = .verified)
      (exact_ : evidence.verifiedBytes = target.shard.declaredBytes)
      (permitted : permits.verify target) :
      Change permits target.focus (target.verify evidence)
  | truncate (target : EvidenceTarget) (valid : target.Valid)
      (permitted : permits.truncate target) :
      Change permits target.focus target.truncate
  | blurShard (target : EvidenceTarget) (valid : target.Valid)
      (permitted : permits.blurShard target) :
      Change permits target.focus target.blur
  | blurAttempt (target : AttemptTarget) (now : Nanos)
      (valid : target.Valid) (permitted : permits.blurAttempt target) :
      Change permits target.focus (target.blur now)
  | progress (focus : Focus)
      (active : isTerminal focus.session.state = false) :
      Change permits focus (focus.revise SessionRecord.deriveProgress)
  | complete (focus : Focus) (now : Nanos)
      (complete : focus.isComplete = true)
      (active : isTerminal focus.session.state = false)
      (closing : permits.close) :
      Change permits focus (focus.completeSession now)

/-! ## Changes keep the frame -/

theorem Frame.trans
    {first second third : Engine}
    (left : Frame first second) (right : Frame second third) :
    Frame first third where
  epoch := right.epoch.trans left.epoch
  limits := right.limits.trans left.limits
  policy := right.policy.trans left.policy
  topology := right.topology.trans left.topology
  contracts := right.contracts.trans left.contracts
  sessions := right.sessions.trans left.sessions
  byWorkload := right.byWorkload.trans left.byWorkload
  byCheckpoint := right.byCheckpoint.trans left.byCheckpoint
  pruned := right.pruned.trans left.pruned
  retentionBound := right.retentionBound.trans left.retentionBound
  shutdown := fun down => right.shutdown (left.shutdown down)
  seed := right.seed.trans left.seed
  drawn := left.drawn.trans right.drawn

/-- The same slot of an engine with the same frame. -/
structure Focus.Framed (before after : Focus) : Prop where
  key : after.key = before.key
  engine : Frame before.engine after.engine

namespace Focus.Framed

theorem trans
    {first second third : Focus}
    (left : Focus.Framed first second)
    (right : Focus.Framed second third) :
    Focus.Framed first third :=
  ⟨right.key.trans left.key, left.engine.trans right.engine⟩

theorem revise (focus : Focus) (change : SessionRecord → SessionRecord) :
    Focus.Framed focus (focus.revise change) :=
  ⟨rfl, Frame.refl _⟩

theorem book
    (focus : Focus) (change : AccountingSnapshot → AccountingSnapshot) :
    Focus.Framed focus (focus.book change) :=
  ⟨rfl, { Frame.refl focus.engine with }⟩

theorem releasePathReservation (focus : Focus) :
    Focus.Framed focus focus.releasePathReservation := by
  unfold Focus.releasePathReservation
  split
  · exact ⟨rfl, Frame.refl _⟩
  · exact ⟨rfl, { Frame.refl focus.engine with }⟩

theorem markUnproven (focus : Focus) (bytes : UInt64) :
    Focus.Framed focus (focus.markUnproven bytes) :=
  ⟨rfl, { Frame.refl focus.engine with }⟩

theorem dropActiveAttempt (focus : Focus) :
    Focus.Framed focus focus.dropActiveAttempt := by
  unfold Focus.dropActiveAttempt
  split
  · exact ⟨rfl, { Frame.refl focus.engine with }⟩
  · exact ⟨rfl, Frame.refl _⟩

theorem wasteUnverified (focus : Focus) (state : SessionState) :
    Focus.Framed focus (focus.wasteUnverified state) :=
  ⟨rfl, { Frame.refl focus.engine with }⟩

theorem noteTerminal (focus : Focus) :
    Focus.Framed focus focus.noteTerminal :=
  ⟨rfl, { Frame.refl focus.engine with }⟩

theorem retire (focus : Focus) :
    Focus.Framed focus focus.retire := by
  unfold Focus.retire
  split
  · exact ⟨rfl, Frame.refl _⟩
  · exact noteTerminal _

theorem closeAs
    (focus : Focus) (state : SessionState) (reason : ReasonCode)
    (detail : Text) (now : Nanos) :
    Focus.Framed focus (focus.closeAs state reason detail now) := by
  unfold Focus.closeAs
  refine Focus.Framed.trans ?_ (releasePathReservation _)
  refine Focus.Framed.trans ?_ ((revise _ _).trans (revise _ _))
  refine Focus.Framed.trans ?_ (revise _ _)
  refine Focus.Framed.trans ?_ (retire _)
  refine Focus.Framed.trans ?_ (wasteUnverified _ _)
  exact ⟨rfl, { Frame.refl focus.engine with }⟩

theorem completeSession (focus : Focus) (now : Nanos) :
    Focus.Framed focus (focus.completeSession now) := by
  unfold Focus.completeSession
  refine Focus.Framed.trans ?_ (noteTerminal _)
  refine Focus.Framed.trans ?_ (revise _ _)
  refine Focus.Framed.trans ?_ (book _ _)
  refine Focus.Framed.trans ?_ (releasePathReservation _)
  exact ⟨rfl, Frame.refl _⟩

end Focus.Framed

/-- A change stays on its slot and within the frame. -/
theorem Change.framed
    {permits : Permits}
    (change : Change permits before after) :
    Focus.Framed before after := by
  cases change with
  | annotate _ _ noted =>
      exact ⟨noted.key, noted.engine.toFrame⟩
  | withdraw | postpone | renew | suspend | reinstate | sight | progress =>
      exact .revise _ _
  | unprove =>
      exact .markUnproven _ _
  | cancelOutstanding | rearm =>
      exact ⟨rfl, { Frame.refl before.engine with }⟩
  | close =>
      exact .closeAs _ _ _ _ _
  | closeAbandoned =>
      exact (Focus.Framed.revise _ _).trans (.closeAs _ _ _ _ _)
  | closeMismatched =>
      exact ((Focus.Framed.revise _ _).trans (.revise _ _)).trans
        (.closeAs _ _ _ _ _)
  | unreserve =>
      exact .releasePathReservation _
  | charge target =>
      exact ⟨rfl, { Frame.refl target.focus.engine with
        drawn := Nat.le_succ _ }⟩
  | flagSource =>
      exact ⟨rfl, Frame.refl _⟩
  | acknowledge =>
      refine Focus.Framed.trans ?_ (.dropActiveAttempt _)
      refine Focus.Framed.trans ?_ (.revise _ _)
      refine Focus.Framed.trans ?_ (.book _ _)
      exact (Focus.Framed.revise _ _).trans (.revise _ _)
  | verify =>
      refine Focus.Framed.trans ?_ (.book _ _)
      exact ((Focus.Framed.revise _ _).trans (.revise _ _)).trans
        (.revise _ _)
  | truncate =>
      refine Focus.Framed.trans ?_ (.book _ _)
      refine Focus.Framed.trans ?_ ((Focus.Framed.revise _ _).trans
        (.revise _ _))
      split
      · exact (Focus.Framed.revise _ _).trans (.dropActiveAttempt _)
      · exact .revise _ _
  | blurShard =>
      exact ((Focus.Framed.revise _ _).trans (.revise _ _)).trans
        (.dropActiveAttempt _)
  | blurAttempt =>
      unfold AttemptTarget.blur
      refine Focus.Framed.trans ?_ (.revise _ _)
      split
      · exact (Focus.Framed.revise _ _).trans (.dropActiveAttempt _)
      · exact .revise _ _
  | complete =>
      exact .completeSession _ _

theorem Change.live
    {permits : Permits}
    (change : Change permits before after) (live : before.Live) :
    after.Live := by
  rcases change.framed with ⟨key, frame⟩
  unfold Focus.Live
  rw [key, frame.sessions]
  exact live

/-- Only the held slot changes. -/
theorem Change.lookup_ne
    {permits : Permits}
    (change : Change permits before after)
    (differs : id ≠ before.key) :
    after.commit.sessions.lookup id = before.commit.sessions.lookup id := by
  rcases change.framed with ⟨key, frame⟩
  rw [Focus.lookup_commit_ne (by rw [key]; exact differs),
    Focus.lookup_commit_ne differs, frame.sessions]

theorem Change.lookup_self
    {permits : Permits}
    (change : Change permits before after) (live : before.Live) :
    after.commit.sessions.lookup before.key = some after.session := by
  have slot := Focus.lookup_commit_self (change.live live)
  rw [change.framed.key] at slot
  exact slot

/-- A property of all sessions survives a change that keeps it on the held
one. -/
theorem Change.forall_sessions
    {permits : Permits} {before after : Focus}
    {Property : SessionId → SessionRecord → Prop}
    (change : Change permits before after) (live : before.Live)
    (holds :
      ∀ id session,
        before.commit.sessions.lookup id = some session →
        Property id session)
    (kept :
      Property before.key before.session →
      Property before.key after.session) :
    ∀ id session,
      after.commit.sessions.lookup id = some session →
      Property id session := by
  intro id session found
  by_cases same : id = before.key
  · subst same
    rw [change.lookup_self live] at found
    cases found
    exact kept (holds _ _ (Focus.lookup_commit_self live))
  · rw [change.lookup_ne same] at found
    exact holds id session found

/-- A change moves a total over the sessions by what it moves on the held
one. -/
theorem Change.total
    {permits : Permits} (measure : SessionRecord → Nat)
    (change : Change permits before after) (live : before.Live) :
    after.commit.sessions.total measure + measure before.session =
      before.commit.sessions.total measure + measure after.session := by
  have written :
      after.commit.sessions =
        before.commit.sessions.replace before.key after.session := by
    unfold Focus.commit
    dsimp only
    rw [change.framed.engine.sessions, change.framed.key,
      Table.replace_replace]
  rw [written]
  exact Table.total_replace measure (Focus.lookup_commit_self live)

/-- No change touches the request or the identity of a session. -/
theorem Change.request
    {permits : Permits}
    (change : Change permits before after) :
    after.session.request = before.session.request ∧
      after.session.id = before.session.id := by
  cases change with
  | annotate _ _ noted =>
      rw [noted.session]
      exact ⟨rfl, rfl⟩
  | close | closeAbandoned | closeMismatched =>
      rw [Focus.closeAs_session]
      exact ⟨rfl, rfl⟩
  | unreserve =>
      rw [Focus.releasePathReservation_session]
      exact ⟨rfl, rfl⟩
  | acknowledge =>
      rw [EvidenceTarget.acknowledge_session]
      exact ⟨rfl, rfl⟩
  | truncate =>
      rw [EvidenceTarget.truncate_session]
      exact ⟨rfl, rfl⟩
  | blurShard =>
      rw [EvidenceTarget.blur_session]
      exact ⟨rfl, rfl⟩
  | blurAttempt =>
      rw [AttemptTarget.blur_session]
      exact ⟨rfl, rfl⟩
  | complete =>
      rw [Focus.completeSession_session]
      exact ⟨rfl, rfl⟩
  | _ =>
      exact ⟨rfl, rfl⟩

end TrafficFabric
