import TrafficFabric.Engine.Closing
import TrafficFabric.Engine.Settlement
import TrafficFabric.Engine.Tracking

/-!
# Evidence levels

The evidence level of a session summarises its shards.  It is recomputed at
the end of most reports; a mismatch ends the session first, and leaves the
level of a session whose shard has just failed as it was.
-/

namespace TrafficFabric

open Foundation

variable {earlier later : ShardRecord} {session : SessionRecord}
  {focus before after : Focus} {target : EvidenceTarget} {engine : Engine}
  {now : Nanos} {command : Command} {fence : CommandFence} {id : SessionId}
  {assertion : DurabilityAssertion}

/-! ## One session -/

/-- The level of a session is borne out by its shards. -/
structure SessionRecord.Evidenced (session : SessionRecord) : Prop where
  verified :
    session.evidence = .verifiedAtDestination →
      ∀ shard ∈ session.shards, shard.state = .verified
  transferred :
    session.evidence = .transferred →
      ∀ shard ∈ session.shards, shard.Reached

/-- A shard loses no destination evidence. -/
structure ShardRecord.Upholds (earlier later : ShardRecord) : Prop where
  verified : earlier.state = .verified → later.state = .verified
  reached : earlier.Reached → later.Reached

theorem ShardRecord.Upholds.of_state
    (same : later.state = earlier.state) :
    earlier.Upholds later where
  verified := fun state => same.trans state
  reached := fun reached => by
    unfold ShardRecord.Reached at reached ⊢
    rw [same]
    exact reached

theorem ShardRecord.Upholds.of_unreached
    (unreached : ¬ earlier.Reached) :
    earlier.Upholds later where
  verified := fun state => absurd (.inr state) unreached
  reached := fun reached => absurd reached unreached

namespace SessionRecord.Evidenced

variable {before after : SessionRecord} (evidenced : before.Evidenced)
  (level : after.evidence = before.evidence)

include evidenced level

theorem of_same (shards : after.shards = before.shards) :
    after.Evidenced where
  verified := by
    rw [level, shards]
    exact evidenced.verified
  transferred := by
    rw [level, shards]
    exact evidenced.transferred

theorem of_map
    {change : ShardRecord → ShardRecord}
    (shards : after.shards = before.shards.map change)
    (upholds : ∀ shard : ShardRecord, shard.Upholds (change shard)) :
    after.Evidenced where
  verified := by
    rw [level, shards]
    intro claimed shard member
    rcases List.mem_map.mp member with ⟨earlier, known, rfl⟩
    exact (upholds earlier).verified
      (evidenced.verified claimed earlier known)
  transferred := by
    rw [level, shards]
    intro claimed shard member
    rcases List.mem_map.mp member with ⟨earlier, known, rfl⟩
    exact (upholds earlier).reached
      (evidenced.transferred claimed earlier known)

theorem of_set
    {position : Nat} {shard changed : ShardRecord}
    (at_ : before.shards[position]? = some shard)
    (shards : after.shards = before.shards.set position changed)
    (upholds : shard.Upholds changed) : after.Evidenced where
  verified := by
    rw [level, shards]
    intro claimed
    exact every_set (evidenced.verified claimed) (upholds.verified
      (evidenced.verified claimed shard (List.mem_of_getElem? at_)))
  transferred := by
    rw [level, shards]
    intro claimed
    exact every_set (evidenced.transferred claimed) (upholds.reached
      (evidenced.transferred claimed shard (List.mem_of_getElem? at_)))

end SessionRecord.Evidenced

theorem SessionRecord.verified_of_allVerified
    (all : session.allVerified = true) :
    ∀ shard ∈ session.shards, shard.state = .verified := by
  unfold SessionRecord.allVerified SessionRecord.countShards at all
  rw [Bool.and_eq_true, beq_iff_eq] at all
  intro shard member
  simpa using List.countP_eq_length.mp all.1 shard member

theorem SessionRecord.reached_of_allSettled
    (all : session.allSettled = true) :
    ∀ shard ∈ session.shards, shard.Reached := by
  unfold SessionRecord.allSettled SessionRecord.countShards at all
  rw [Bool.and_eq_true, beq_iff_eq] at all
  intro shard member
  have within := List.countP_eq_length.mp all.1 shard member
  unfold ShardRecord.Reached
  simpa [or_comm] using within

/-- A recomputed level is borne out. -/
theorem SessionRecord.deriveProgress_evidenced (session : SessionRecord) :
    session.deriveProgress.Evidenced := by
  have level :
      session.deriveProgress.evidence = session.derivedEvidence := rfl
  have shards : session.deriveProgress.shards = session.shards := rfl
  constructor
  · rw [level, shards]
    unfold SessionRecord.derivedEvidence
    split
    · rename_i all
      exact fun _ => SessionRecord.verified_of_allVerified all
    · repeat' split
      all_goals exact nofun
  · rw [level, shards]
    unfold SessionRecord.derivedEvidence
    split
    · exact nofun
    · split
      · rename_i all
        exact fun _ => SessionRecord.reached_of_allSettled all
      · split <;> exact nofun

theorem Focus.completeSession_evidenced
    (complete : focus.isComplete = true) (now : Nanos) :
    (focus.completeSession now).session.Evidenced := by
  have level :
      (focus.completeSession now).session.evidence =
        if focus.session.allVerified then .verifiedAtDestination
        else .transferred := by
    unfold Focus.completeSession Focus.noteTerminal
    dsimp only [Focus.book, Focus.revise]
    rw [Focus.releasePathReservation_session]
    rfl
  have shards :
      (focus.completeSession now).session.shards = focus.session.shards := by
    rw [Focus.completeSession_session]
  constructor
  · rw [level, shards]
    split
    · rename_i all
      exact fun _ => SessionRecord.verified_of_allVerified all
    · exact nofun
  · rw [level, shards]
    exact fun _ => Focus.reached_of_isComplete complete

/-! ## Changes -/

/-- Shards lose no destination evidence, and a mismatch comes before the
session claims any. -/
def levelPermits : Permits where
  truncate := fun _ => False
  blurShard := fun _ => False
  failVerification := fun target =>
    target.focus.session.evidence ≠ .verifiedAtDestination ∧
      target.focus.session.evidence ≠ .transferred

theorem levelPermits_routine : levelPermits.Routine :=
  { Permits.Routine.free with }

theorem rearmShard_upholds (shard : ShardRecord) :
    shard.Upholds (Focus.rearmShard shard) := by
  unfold Focus.rearmShard
  split
  · rename_i active
    refine .of_unreached ?_
    rintro (state | state) <;> rw [state] at active <;> simp at active
  · exact .of_state rfl

theorem ShardTarget.flagged_upholds
    (target : ShardTarget) (sourceBytes : UInt64) :
    target.shard.Upholds { target.shard with
      sourceComplete := true
      sourceBytes := sourceBytes
      state :=
        if target.shard.state = .pending ∨ target.shard.state = .granted then
          .inFlight
        else target.shard.state } := by
  by_cases early :
      target.shard.state = .pending ∨ target.shard.state = .granted
  · refine .of_unreached ?_
    rintro (state | state) <;> rw [state] at early <;> simp at early
  · exact .of_state (if_neg early)

/-- Newly acknowledged bytes only raise the state of a shard. -/
theorem EvidenceTarget.creditedShard_upholds
    (target : EvidenceTarget) (evidence : TransferEvidence)
    (newlyDelivered : UInt64) :
    target.shard.Upholds (target.creditedShard evidence newlyDelivered) := by
  by_cases raised :
      target.shard.declaredBytes ≤
          target.shard.transferredBytes + newlyDelivered ∧
        target.shard.state ≠ .verified
  · exact ⟨fun state => absurd state raised.2,
      fun _ => .inl (if_pos raised)⟩
  · exact .of_state (if_neg raised)

theorem Change.evidenced
    (change : Change levelPermits before after)
    (evidenced : before.session.Evidenced) : after.session.Evidenced := by
  cases change with
  | annotate _ _ noted =>
      rw [noted.session]
      exact evidenced.of_same rfl rfl
  | rearm =>
      exact evidenced.of_map rfl rfl rearmShard_upholds
  | close | closeAbandoned =>
      rw [Focus.closeAs_session]
      exact evidenced.of_same rfl rfl
  | closeMismatched _ _ _ _ _ permitted =>
      rw [Focus.closeAs_session]
      exact ⟨fun claimed => absurd claimed permitted.1,
        fun claimed => absurd claimed permitted.2⟩
  | unreserve =>
      rw [Focus.releasePathReservation_session]
      exact evidenced.of_same rfl rfl
  | charge _ _ _ _ grantable =>
      refine evidenced.of_set rfl grantable.shardAt rfl (.of_unreached ?_)
      rintro (state | state)
      · exact grantable.shardState.2.1 state
      · exact grantable.shardState.1 state
  | flagSource target sourceBytes valid =>
      exact evidenced.of_set rfl valid.shardAt rfl
        (target.flagged_upholds sourceBytes)
  | acknowledge target evidence _ valid =>
      rw [EvidenceTarget.acknowledge_session]
      exact evidenced.of_set rfl valid.shardAt rfl
        (target.creditedShard_upholds evidence _)
  | verify _ _ valid =>
      exact evidenced.of_set rfl valid.shardAt rfl
        ⟨fun _ => rfl, fun _ => .inr rfl⟩
  | truncate _ _ permitted =>
      exact permitted.elim
  | blurShard _ _ permitted =>
      exact permitted.elim
  | blurAttempt target =>
      rw [AttemptTarget.blur_session]
      rcases target.blurredShards_eq with same |
        ⟨position, shard, at_, _, unverified, untransferred, same⟩
      · exact evidenced.of_same rfl same
      · refine evidenced.of_set rfl at_ same (.of_unreached ?_)
        rintro (state | state)
        · exact untransferred state
        · exact unverified state
  | progress =>
      exact before.session.deriveProgress_evidenced
  | complete _ now complete =>
      exact Focus.completeSession_evidenced complete now
  | _ =>
      exact evidenced.of_same rfl rfl

/-! ## Reports that lower a shard -/

/-- Every session of the engine has a level borne out by its shards. -/
def Engine.Evidenced (engine : Engine) : Prop :=
  ∀ id session, engine.sessions.lookup id = some session → session.Evidenced

theorem Focus.Framed.evidenced
    (framed : Focus.Framed before after)
    (evidenced : before.engine.Evidenced)
    (held : after.session.Evidenced) : after.commit.Evidenced := by
  intro id session found
  by_cases own : id = after.key
  · subst own
    rcases after.lookup_commit with gone | stored
    · rw [gone] at found
      cases found
    · rw [stored] at found
      cases found
      exact held
  · rw [Focus.lookup_commit_ne own, framed.engine.sessions] at found
    exact evidenced id session found

/-- After progress is recomputed, the held session has a fresh level and the
others are as they were. -/
theorem Focus.recomputeProgress_evidenced
    (framed : Focus.Framed before after)
    (evidenced : before.engine.Evidenced) (now : Nanos) :
    (after.recomputeProgress now).commit.Evidenced := by
  have derived :
      Focus.Framed before (after.revise SessionRecord.deriveProgress) :=
    framed.trans (.revise after SessionRecord.deriveProgress)
  intro id session
  unfold Focus.recomputeProgress
  dsimp only
  split
  · rename_i condition
    have completed := derived.trans
      (Change.complete _ now condition.1
        (isTerminal_eq_false condition.2) trivial :
        Change anyPermits _ _).framed
    rw [Focus.commit_pruneHistory]
    intro found
    exact completed.evidenced evidenced
      (Focus.completeSession_evidenced condition.1 now) id session
      (Engine.lookup_of_pruneHistory found)
  · exact derived.evidenced evidenced
      after.session.deriveProgress_evidenced id session

theorem EvidenceTarget.reportTruncated_evidenced
    (valid : target.Valid)
    (evidenced : target.focus.engine.Evidenced)
    (shard : ShardIndex) (now : Nanos) :
    (target.reportTruncated shard now).Evidenced := by
  have truncated : Focus.Framed target.focus target.truncate :=
    (Change.truncate target valid trivial : Change anyPermits _ _).framed
  refine Focus.recomputeProgress_evidenced ?_ evidenced now
  exact (truncated.trans (.revise _ _)).trans (.revise _ _)

theorem EvidenceTarget.reportBlurred_evidenced
    (valid : target.Valid)
    (evidenced : target.focus.engine.Evidenced)
    (shard : ShardIndex) (now : Nanos) :
    (target.reportBlurred shard now).Evidenced := by
  have blurred : Focus.Framed target.focus target.blur :=
    (Change.blurShard target valid trivial : Change anyPermits _ _).framed
  have booked := blurred.trans
    (Change.unprove _ (SessionRecord.undelivered target.attempt) trivial :
      Change anyPermits _ _).framed
  refine Focus.recomputeProgress_evidenced ?_ evidenced now
  exact ((booked.trans (.revise _ _)).trans (.revise _ _)).trans
    (.revise _ _)

/-! ## Runs -/

/-- A verification report that fails the session finds it below the levels
that speak of the destination. -/
def LevelCondition (engine : Engine) (now : Nanos) : Command → Prop
  | .reportVerification evidence fence =>
      ∀ target,
        (engine.observe now).verificationTarget evidence fence =
          .ok target →
        evidence.Fails target.shard →
        target.focus.session.evidence ≠ .verifiedAtDestination ∧
          target.focus.session.evidence ≠ .transferred
  | _ => True

instance (engine : Engine) (now : Nanos) :
    ∀ command, Decidable (LevelCondition engine now command) := by
  intro command
  apply @Command.casesOn
      (fun command => Decidable (LevelCondition engine now command)) command <;>
    intros <;> unfold LevelCondition <;> infer_instance

/-- The report takes destination evidence back without ending the session. -/
def Command.lowers : Command → Bool
  | .reportVerification evidence _ =>
      evidence.outcome == .truncated || evidence.outcome == .ambiguous ||
        evidence.outcome == .rejected
  | _ => false

theorem levelPermits_allow
    (ordinary : ∀ snapshot, command ≠ .restore snapshot)
    (condition : LevelCondition engine now command)
    (keeps : command.lowers = false) :
    levelPermits.Allow engine now command := by
  refine Permits.Grounds.allow ?_ ordinary
  exact { Permits.Grounds.free engine now command with
    failVerification := by
      rintro evidence fence target rfl passed
      exact condition target passed
    truncate := by
      rintro evidence fence target rfl passed outcome
      simp [Command.lowers, outcome] at keeps
    blurShard := by
      rintro evidence fence target rfl passed outcome
      rcases outcome with outcome | outcome <;>
        simp [Command.lowers, outcome] at keeps }

/-- A new session has no evidence. -/
theorem SessionRecord.Admitted.evidenced
    (admitted : session.Admitted) :
    session.Evidenced := by
  rcases admitted with ⟨engine, now, request, plan, _, rfl⟩
  exact ⟨nofun, nofun⟩

theorem Edits.evidenced
    {before after : Engine} (edits : Edits levelPermits before after)
    (evidenced : before.Evidenced) : after.Evidenced :=
  @Edits.forall_sessions _ (fun _ session => session.Evidenced) _ _ edits
    (fun _ _ _ change => change.evidenced)
    (fun _ _ admitted _ => admitted.evidenced) evidenced

theorem EvidenceTarget.lowered_evidenced
    (valid : target.Valid)
    (evidenced : target.focus.engine.Evidenced)
    {evidence : VerificationEvidence}
    (lowers : (Command.reportVerification evidence fence).lowers = true)
    (now : Nanos) : (target.verification evidence now).2.Evidenced := by
  unfold Command.lowers at lowers
  unfold EvidenceTarget.verification
  cases outcome : evidence.outcome with
  | verified | digestMismatch =>
      simp [outcome] at lowers
  | truncated =>
      exact target.reportTruncated_evidenced valid evidenced _ now
  | ambiguous | rejected =>
      exact target.reportBlurred_evidenced valid evidenced _ now

theorem Engine.execute_evidenced
    (ordinary : ∀ snapshot, command ≠ .restore snapshot)
    (condition : LevelCondition engine now command)
    (evidenced : engine.Evidenced) :
    (engine.execute now command).2.Evidenced := by
  by_cases keeps : command.lowers = false
  · exact Edits.evidenced
      (Engine.execute_edits levelPermits_routine engine now command
        (levelPermits_allow ordinary condition keeps)) evidenced
  · cases command with
    | reportVerification evidence fence =>
        have observed : (engine.observe now).Evidenced :=
          Edits.evidenced
            (Engine.observe_edits levelPermits_routine engine now) evidenced
        change ((engine.observe now).guarded _ _).2.Evidenced
        unfold Engine.guarded
        split
        · exact observed
        · rename_i target passed
          rcases Engine.verificationTarget_ok passed with ⟨holds, valid, _⟩
          refine target.lowered_evidenced valid ?_
            ((Bool.not_eq_false _).mp keeps) now
          rw [holds.engine]
          exact observed
    | _ =>
        exact absurd rfl keeps

/-- An accepted external assertion finds a level that speaks of the
destination. -/
theorem Engine.durabilityTarget_level
    (external : assertion.status = .externallyAsserted)
    (passed : engine.durabilityTarget id assertion fence = .ok focus) :
    focus.session.evidence = .verifiedAtDestination ∨
      focus.session.evidence = .transferred := by
  simp only [durabilityTarget, bind_eq_ok, refuseWhen_eq_ok] at passed
  rcases passed with ⟨held, _, _, _, _, level, same⟩
  cases same
  by_contra neither
  exact level ⟨external, not_or.mp neither⟩

theorem Engine.Evidenced.asserted
    (evidenced : engine.Evidenced)
    (external : assertion.status = .externallyAsserted)
    (accepted :
      (engine.recordDurabilityAssertion now id assertion fence).1 =
        .ok ()) :
    ∃ session, engine.sessions.lookup id = some session ∧
      ∀ shard ∈ session.shards, shard.Reached := by
  unfold Engine.recordDurabilityAssertion Engine.guarded at accepted
  dsimp only at accepted
  split at accepted
  · cases accepted
  · rename_i focus passed
    have holds := Engine.durabilityTarget_ok passed
    have stored : engine.sessions.lookup id = some focus.session := by
      have held := holds.held
      unfold Focus.Held at held
      rw [holds.key, holds.engine] at held
      exact held
    refine ⟨focus.session, stored, ?_⟩
    rcases Engine.durabilityTarget_level external passed with level | level
    · exact fun shard member =>
        .inr ((evidenced id _ stored).verified level shard member)
    · exact (evidenced id _ stored).transferred level

/-- Along runs that meet the condition, the evidence level of every session
is borne out by all its shards, and durability is asserted only for sessions
whose every shard has destination evidence. -/
theorem evidence_levels_are_borne_out
    {config : EngineConfig} {boot : Nanos} {history : List Event}
    {engine : Engine}
    (run : ConditionedRun LevelCondition config boot history engine) :
    (∀ id session, engine.sessions.lookup id = some session →
      (session.evidence = .verifiedAtDestination →
        ∀ shard ∈ session.shards, shard.state = .verified) ∧
      (session.evidence = .transferred →
        ∀ shard ∈ session.shards,
          shard.state = .transferred ∨ shard.state = .verified)) ∧
    ∀ now id assertion fence, assertion.status = .externallyAsserted →
      (engine.recordDurabilityAssertion now id assertion fence).1 = .ok () →
      ∃ session, engine.sessions.lookup id = some session ∧
        ∀ shard ∈ session.shards,
          shard.state = .transferred ∨ shard.state = .verified := by
  have evidenced : engine.Evidenced := by
    refine Run.invariant ?_ ?_ run
    · intro id session found
      rw [(Engine.construct_blank config boot).1] at found
      cases found
    · rintro state event next ⟨step, ordinary, condition⟩ holds
      cases step with
      | call =>
          exact Engine.execute_evidenced
            (Event.ordinary_of_restores ordinary) condition holds
      | rehash _ _ sameSessions =>
          intro id session found
          exact holds id session
            ((AList.perm_lookup sameSessions).symm.trans found)
  refine ⟨?_, ?_⟩
  · intro id session found
    exact ⟨(evidenced id session found).verified,
      (evidenced id session found).transferred⟩
  · intro now id assertion fence external accepted
    exact evidenced.asserted external accepted

/-- A backend vouches for a session. -/
def Sample.vouching : DurabilityAssertion where
  status := .externallyAsserted
  backendIdentity := ascii "store"

/-- One shard of two bytes arrives; then the destination passes a verdict
on it. -/
def verdictScript (outcome : VerificationOutcome) :
    List (Nanos × Command) :=
  [(1, .submitSession (Sample.request 2 [2]) (Sample.fence 1)),
    (2, .requestWave ⟨Sample.drawn 0⟩ ⟨0⟩ (Sample.fence 1)),
    (3, .reportTransfer (Sample.arrival 1 1 0 2) (Sample.fence 1)),
    (4, .reportVerification (Sample.verdict 1 1 0 2 outcome)
      (Sample.fence 1))]

/-- The levels of the first session and the states of its shards. -/
def Engine.levels (engine : Engine) :
    Option (EvidenceLevel × List ShardState) :=
  (engine.sessions.lookup ⟨Sample.drawn 0⟩).map
    (fun session =>
      (session.evidence, session.shards.map (fun shard => shard.state)))

/-- A verified delivery meets the condition, and the session ends verified at
its destination. -/
theorem evidence_levels_are_borne_out_on_delivery :
    let engine :=
      ((Engine.construct Sample.config 0).executeAll
        (verdictScript .verified)).2
    engine.levels = some (.verifiedAtDestination, [.verified]) ∧
    (∀ id session, engine.sessions.lookup id = some session →
      (session.evidence = .verifiedAtDestination →
        ∀ shard ∈ session.shards, shard.state = .verified) ∧
      (session.evidence = .transferred →
        ∀ shard ∈ session.shards,
          shard.state = .transferred ∨ shard.state = .verified)) ∧
    ∀ now id assertion fence, assertion.status = .externallyAsserted →
      (engine.recordDurabilityAssertion now id assertion fence).1 = .ok () →
      ∃ session, engine.sessions.lookup id = some session ∧
        ∀ shard ∈ session.shards,
          shard.state = .transferred ∨ shard.state = .verified :=
  have evaluated :
      ScriptMeets LevelCondition (Engine.construct Sample.config 0)
          (verdictScript .verified) ∧
        ((Engine.construct Sample.config 0).executeAll
          (verdictScript .verified)).2.levels =
            some (.verifiedAtDestination, [.verified]) := by
    decide +kernel
  ⟨evaluated.2, evidence_levels_are_borne_out
    (Engine.executeAll_conditioned _ evaluated.1)⟩

/-- A digest mismatch fails the only shard of a session that stays at level
transferred, and durability is asserted for it all the same. -/
theorem mismatch_keeps_transferred_level :
    ∃ history engine,
      EngineRun Sample.config 0 history engine ∧
        (∀ event ∈ history, event.restores = false) ∧
        engine.levels = some (.transferred, [.failed]) ∧
        (engine.recordDurabilityAssertion 5 ⟨Sample.drawn 0⟩
          Sample.vouching (Sample.fence 1)).1 = .ok () := by
  refine ⟨_, _, Engine.executeAll_run _ (verdictScript .digestMismatch),
    ?_, ?_⟩
  · simp [Engine.executeAll, verdictScript, Event.restores]
  · decide +kernel

end TrafficFabric
