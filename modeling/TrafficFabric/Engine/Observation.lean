import TrafficFabric.Engine.Coverage

/-!
# What the passing of time leaves alone

Enforcing deadlines and superseding sessions act on sessions and on the books
kept about them.  The authority under which commands are judged stays as it
is, and so does the source of identities.
-/

namespace TrafficFabric

open Foundation

/-- The part of an engine that commands are judged by. -/
structure Authority where
  limits : Limits
  policy : PolicySnapshot
  topology : TopologySnapshot
  contracts : Table WorkloadId WorkloadContract
  epoch : CoordinatorEpoch
  idFactory : IdFactory
  shuttingDown : Bool
  commandIndex : Table CommandId CommandRecord
  retentionBound : Nat

def Engine.authority (engine : Engine) : Authority where
  limits := engine.limits
  policy := engine.policy
  topology := engine.topology
  contracts := engine.contracts
  epoch := engine.epoch
  idFactory := engine.idFactory
  shuttingDown := engine.shuttingDown
  commandIndex := engine.commandIndex
  retentionBound := engine.retentionBound

/-- A fence is judged by the authority alone. -/
theorem Engine.checkFenceStatus_of_authority
    {engine other : Engine} (same : other.authority = engine.authority)
    (fence : CommandFence) :
    other.checkFenceStatus fence = engine.checkFenceStatus fence := by
  unfold checkFenceStatus
  rw [show other.epoch = engine.epoch from congrArg Authority.epoch same,
    show other.policy = engine.policy from congrArg Authority.policy same,
    show other.topology = engine.topology from
      congrArg Authority.topology same]

/-! ## Settling a session -/

theorem Focus.commit_authority (focus : Focus) :
    focus.commit.authority = focus.engine.authority :=
  rfl

theorem Focus.book_authority
    (focus : Focus) (change : AccountingSnapshot → AccountingSnapshot) :
    (focus.book change).engine.authority = focus.engine.authority :=
  rfl

theorem Focus.markUnproven_authority (focus : Focus) (bytes : UInt64) :
    (focus.markUnproven bytes).engine.authority = focus.engine.authority :=
  rfl

theorem Focus.releaseActiveAttempts_authority
    (focus : Focus) (outcome : AttemptOutcome) :
    (focus.releaseActiveAttempts outcome).engine.authority =
      focus.engine.authority :=
  rfl

theorem Focus.wasteUnverified_authority
    (focus : Focus) (state : SessionState) :
    (focus.wasteUnverified state).engine.authority =
      focus.engine.authority :=
  rfl

theorem Engine.pruneLoop_authority
    (target : Nat) (ids : List SessionId) (erased : Bool)
    (engine : Engine) :
    (pruneLoop target ids erased engine).2.authority = engine.authority := by
  induction ids generalizing erased engine with
  | nil =>
      rfl
  | cons _ _ hypothesis =>
      unfold pruneLoop
      split
      · split
        · exact hypothesis _ _
        · split
          · exact hypothesis _ _
          · exact hypothesis _ _
      · rfl

theorem Engine.pruneHistory_authority (engine : Engine) :
    engine.pruneHistory.authority = engine.authority := by
  have looped := Engine.pruneLoop_authority
    (engine.retentionBound * 3 / 4) engine.terminalOrder false engine
  unfold Engine.pruneHistory
  split
  · rfl
  · dsimp only
    split
    · exact looped
    · exact looped

theorem Focus.releasePathReservation_authority (focus : Focus) :
    focus.releasePathReservation.engine.authority =
      focus.engine.authority := by
  unfold Focus.releasePathReservation
  split <;> rfl

theorem Focus.retire_authority (focus : Focus) :
    focus.retire.engine.authority = focus.engine.authority := by
  unfold Focus.retire
  split <;> rfl

theorem Focus.settleTerminal_authority
    (focus : Focus) (state : SessionState) (reason : ReasonCode)
    (detail : Text) (now : Nanos) :
    (focus.settleTerminal state reason detail now).engine.authority =
      focus.engine.authority := by
  refine (Engine.pruneHistory_authority _).trans ?_
  change (focus.closeAs state reason detail now).engine.authority = _
  unfold Focus.closeAs
  dsimp only
  rw [Focus.releasePathReservation_authority]
  dsimp only [Focus.touch, Focus.settleReason, Focus.revise]
  rw [Focus.retire_authority, Focus.wasteUnverified_authority,
    Focus.releaseActiveAttempts_authority]

theorem Focus.expire_authority (focus : Focus) (deadline now : Nanos) :
    (focus.expire deadline now).authority = focus.engine.authority := by
  unfold Focus.expire
  split
  · rfl
  · dsimp only
    rw [Focus.commit_authority]
    dsimp only [Focus.appendTimeline, Focus.revise]
    rw [Focus.book_authority, Focus.settleTerminal_authority,
      Focus.markUnproven_authority]

theorem Focus.supersede_authority
    (focus : Focus) (successor : SessionId) (now : Nanos) :
    (focus.supersede successor now).authority = focus.engine.authority := by
  unfold Focus.supersede
  dsimp only
  rw [Focus.commit_authority]
  dsimp only [Focus.appendTimeline, Focus.revise]
  rw [Focus.book_authority]
  dsimp only
  rw [Focus.settleTerminal_authority, Focus.markUnproven_authority]

/-! ## Loops -/

theorem Engine.visit_authority
    {body : Focus → Engine}
    (each : ∀ focus, (body focus).authority = focus.engine.authority)
    (engine : Engine) (ids : List SessionId) :
    (engine.visit ids body).authority = engine.authority := by
  refine @Engine.visit_rule
    (fun reached => reached.authority = engine.authority) _ _ ?_ engine rfl
  intro focus _ _ earlier
  exact (each focus).trans earlier

theorem Engine.enforceFrom_authority
    (now : Nanos) (entries : List (Nanos × List SessionId))
    (engine : Engine) :
    (enforceFrom now entries engine).authority = engine.authority := by
  induction entries generalizing engine with
  | nil =>
      rfl
  | cons entry _ hypothesis =>
      rcases entry with ⟨deadline, due⟩
      unfold enforceFrom
      split
      · rfl
      · exact (hypothesis _).trans (Engine.visit_authority
          (fun focus => focus.expire_authority deadline now) engine due)

/-- Observing time leaves the authority alone. -/
theorem Engine.observe_authority (engine : Engine) (now : Nanos) :
    (engine.observe now).authority = engine.authority :=
  (Engine.enforceFrom_authority now _ _).trans rfl

/-- So does making room for a session. -/
theorem Engine.makeRoom_authority
    (engine : Engine) (shaper : RateShaper) (now : Nanos)
    (successor : SessionId) (targets : List SessionId) :
    (engine.makeRoom shaper now successor targets).authority =
      engine.authority :=
  (Engine.visit_authority
    (fun focus => focus.supersede_authority successor now) _ targets).trans
    rfl

theorem Engine.observe_idFactory (engine : Engine) (now : Nanos) :
    (engine.observe now).idFactory = engine.idFactory :=
  congrArg Authority.idFactory (engine.observe_authority now)

theorem Engine.observe_contracts (engine : Engine) (now : Nanos) :
    (engine.observe now).contracts = engine.contracts :=
  congrArg Authority.contracts (engine.observe_authority now)

/-! ## Sessions -/

/-- Where the sessions of an engine come from. -/
theorem Edit.mem_sessions
    {permits : Permits} {before after : Engine}
    (edit : Edit permits before after) {id : SessionId}
    (member : id ∈ after.sessions) :
    id ∈ before.sessions ∨
      ∃ session,
        session.id = id ∧ permits.enroll before session ∧
          after = before.enroll session := by
  rcases Table.exists_lookup_of_mem member with ⟨record, found⟩
  cases edit with
  | housekeeping _ _ same =>
      rw [same.sessions] at member
      exact .inl member
  | prune =>
      exact .inl (Table.mem_of_lookup (Engine.lookup_of_pruneHistory found))
  | enroll _ _ _ permitted =>
      rcases Engine.lookup_enroll found with known | ⟨rfl, rfl, _⟩
      · exact .inl (Table.mem_of_lookup known)
      · exact .inr ⟨record, rfl, permitted, rfl⟩
  | change live performed =>
      left
      exact @Change.forall_sessions _ _ _ (fun id _ => id ∈ _) performed
        live (fun _ _ stored => Table.mem_of_lookup stored)
        (fun held => held) id record found
  | _ =>
      exact .inl member

/-- Observing time keeps the requests of the sessions it leaves. -/
theorem Engine.observe_request
    {engine : Engine} {now : Nanos} {id : SessionId}
    {session : SessionRecord}
    (found : (engine.observe now).sessions.lookup id = some session) :
    ∃ earlier, engine.sessions.lookup id = some earlier ∧
      session.request = earlier.request := by
  refine @Edits.forall_sessions _ (fun id session =>
    ∃ earlier, engine.sessions.lookup id = some earlier ∧
      session.request = earlier.request) _ _ (engine.observe_idle now) ?_
    (fun _ _ _ permitted => permitted.elim)
    (fun _ session known => ⟨session, known, rfl⟩) id session found
  rintro first second _ change ⟨earlier, known, same⟩
  exact ⟨earlier, known, change.request.1.trans same⟩

end TrafficFabric
