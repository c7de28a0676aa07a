import TrafficFabric.Engine.Closing
import TrafficFabric.Engine.Provision

/-!
# Grants in flight are funded

The bytes of the attempts in flight never exceed the outstanding bytes of
their session, provided that nothing else drains the outstanding bytes that a
grant will need: what has become unproven is stranded on ambiguous shards
whenever credit is asked for, and reports on settled attempts find the same.
-/

namespace TrafficFabric

open Foundation

variable {position : Nat} {attempt newAttempt : AttemptRecord}
  {target : EvidenceTarget} {evidence : TransferEvidence} {now : Nanos}

/-! ## Backed sessions -/

/-- Nothing is cancelled, and what is outstanding funds what is in flight. -/
structure SessionRecord.Backed (session : SessionRecord) : Prop where
  uncancelled : session.cancelledBytes = 0
  backed : session.inFlightBytes ≤ session.outstandingBytes.toNat

/-- The bytes of an attempt while it is in flight. -/
def AttemptRecord.bytesInFlight (attempt : AttemptRecord) : Nat :=
  if attempt.outstanding then attempt.grantedBytes.toNat else 0

namespace SessionRecord

variable {session other : SessionRecord}

theorem inFlightBytes_set
    (attemptAt : session.attempts[position]? = some attempt)
    (attempts : other.attempts = session.attempts.set position newAttempt) :
    other.inFlightBytes + attempt.bytesInFlight =
      session.inFlightBytes + newAttempt.bytesInFlight := by
  unfold inFlightBytes
  rw [attempts]
  exact sum_map_set AttemptRecord.bytesInFlight attemptAt

theorem inFlightBytes_of_quiet
    (quiet : ∀ attempt ∈ session.attempts, attempt.outstanding = false) :
    session.inFlightBytes = 0 := by
  refine List.sum_eq_zero ?_
  intro bytes member
  rcases List.mem_map.mp member with ⟨attempt, known, rfl⟩
  rw [quiet attempt known]
  rfl

theorem Backed.of_same
    (backed : session.Backed)
    (attempts : other.attempts = session.attempts)
    (outstanding : other.outstandingBytes = session.outstandingBytes)
    (cancelled : other.cancelledBytes = session.cancelledBytes) :
    other.Backed := by
  refine ⟨cancelled.trans backed.uncancelled, ?_⟩
  unfold inFlightBytes
  rw [attempts, outstanding]
  exact backed.backed

/-- An attempt is rewritten and keeps its share, or is settled. -/
theorem Backed.of_set
    (backed : session.Backed)
    (attemptAt : session.attempts[position]? = some attempt)
    (attempts : other.attempts = session.attempts.set position newAttempt)
    (lower : newAttempt.bytesInFlight ≤ attempt.bytesInFlight)
    (outstanding :
      session.outstandingBytes.toNat ≤ other.outstandingBytes.toNat)
    (cancelled : other.cancelledBytes = session.cancelledBytes) :
    other.Backed := by
  have moved := inFlightBytes_set attemptAt attempts
  have earlier := backed.backed
  exact ⟨cancelled.trans backed.uncancelled, by omega⟩

end SessionRecord

/-! ## Reports that drain outstanding bytes -/

/-- The report settles an attempt in flight, drains nothing, or drains what
its shard lacks while everything unproven is stranded elsewhere. -/
def EvidenceTarget.Funded (target : EvidenceTarget) : Prop :=
  target.attempt.outstanding = true ∨
    SessionRecord.undelivered target.attempt = 0 ∨
    target.focus.session.Strands target.shardPosition

instance (target : EvidenceTarget) : Decidable target.Funded :=
  inferInstanceAs (Decidable (_ ∨ _))

/-- The report settles an attempt in flight or drains nothing. -/
def AttemptTarget.Funded (target : AttemptTarget) : Prop :=
  target.attempt.outstanding = true ∨
    SessionRecord.undelivered target.attempt = 0

instance (target : AttemptTarget) : Decidable target.Funded :=
  inferInstanceAs (Decidable (_ ∨ _))

/-- A shard whose current attempt is settled waits for nothing. -/
theorem EvidenceTarget.not_awaits
    (valid : target.Valid)
    (distinct : target.focus.session.attemptIds.Nodup)
    (quiet : target.attempt.outstanding = false) :
    ¬ target.focus.session.Awaits target.shard := by
  rintro ⟨attempt, member, outstanding, named⟩
  have same : attempt = target.attempt := by
    refine List.inj_on_of_nodup_map distinct member
      (List.mem_of_getElem? valid.attemptAt) ?_
    exact (Option.some.inj (valid.current.symm.trans named)).symm
  rw [same, quiet] at outstanding
  cases outstanding

/-- What the report can still drain is there besides what the other attempts
in flight need. -/
theorem EvidenceTarget.Funded.covered
    (funded : target.Funded) (valid : target.Valid)
    (provisioned : target.focus.session.Provisioned)
    (backed : target.focus.session.Backed) :
    target.focus.session.inFlightBytes +
        (SessionRecord.undelivered target.attempt).toNat ≤
      target.focus.session.outstandingBytes.toNat +
        target.attempt.bytesInFlight := by
  have fits := backed.backed
  have drains := SessionRecord.toNat_undelivered target.attempt
  unfold AttemptRecord.bytesInFlight
  rcases funded with outstanding | nothing | strands
  · rw [if_pos outstanding]
    omega
  · rw [nothing]
    exact fits.trans (Nat.le_add_right _ _)
  · cases flying : target.attempt.outstanding with
    | true =>
        rw [if_pos rfl]
        omega
    | false =>
        have spare := provisioned.spare valid.active backed.uncancelled
          valid.shardAt
          (target.not_awaits valid provisioned.tracking.distinct flying)
          strands
        have budget := provisioned.carried.funded _
          (List.mem_of_getElem? valid.shardAt) _
          (List.mem_of_getElem? valid.attemptAt) valid.current
        have lacking := Word.toNat_monus target.shard.declaredBytes
          target.shard.transferredBytes
        unfold Engine.remainingBytes at spare
        rw [if_neg Bool.false_ne_true]
        omega

/-- An acknowledgement within the grant is never refused for want of
outstanding bytes. -/
theorem EvidenceTarget.Funded.affordable
    (funded : target.Funded) (valid : target.Valid)
    (provisioned : target.focus.session.Provisioned)
    (backed : target.focus.session.Backed)
    (within : evidence.arrivedBytes ≤ target.attempt.grantedBytes)
    (grows : target.attempt.deliveredBytes ≤ evidence.arrivedBytes) :
    evidence.arrivedBytes - target.attempt.deliveredBytes ≤
      target.focus.session.outstandingBytes := by
  have covered := funded.covered valid provisioned backed
  have share : target.attempt.bytesInFlight ≤
      target.focus.session.inFlightBytes :=
    le_sum_map AttemptRecord.bytesInFlight valid.attemptAt
  have drains := SessionRecord.toNat_undelivered target.attempt
  have withinNat := UInt64.le_iff_toNat_le.mp within
  have growsNat := UInt64.le_iff_toNat_le.mp grows
  rw [UInt64.le_iff_toNat_le, Word.toNat_sub_of_le growsNat]
  omega

/-! ## Changes -/

/-- Credit is asked for while everything unproven is stranded, reports are
funded, and bytes become unproven only as far as nothing in flight needs
them. -/
def fundingPermits : Permits where
  resume := fun focus => isTerminal focus.session.state = false
  grant := fun target =>
    target.Unused ∧ target.focus.session.Strands target.position
  acknowledge := EvidenceTarget.Funded
  cancel := fun _ => False
  unprove := fun focus bytes =>
    focus.session.inFlightBytes +
        min bytes.toNat focus.session.outstandingBytes.toNat ≤
      focus.session.outstandingBytes.toNat

theorem ShardTarget.charge_inFlightBytes_le
    (target : ShardTarget) (shaper : RateShaper) (chunk : UInt64)
    (now : Nanos) :
    (target.charge shaper chunk now).session.inFlightBytes ≤
      target.focus.session.inFlightBytes + chunk.toNat := by
  have kept :
      (target.charge shaper chunk now).session.attempts.Sublist
        (target.focus.session.attempts ++
          [ShardTarget.attemptOf (target.grant chunk now) now]) :=
    List.drop_sublist _ _
  refine (kept.map _).sum_le_sum (fun _ _ => Nat.zero_le _) |>.trans ?_
  rw [List.map_append, List.sum_append]
  exact Nat.le_refl _

/-- A grant takes what its shard lacks. -/
theorem ShardTarget.charge_backed
    {target : ShardTarget} {chunk : UInt64}
    (grantable : target.Grantable chunk)
    (strands : target.focus.session.Strands target.position)
    (provisioned : target.focus.session.Provisioned)
    (backed : target.focus.session.Backed)
    (shaper : RateShaper) (now : Nanos) :
    (target.charge shaper chunk now).session.Backed := by
  have free : ¬ target.focus.session.Awaits target.shard := by
    rintro ⟨attempt, member, outstanding, named⟩
    have quiet := Engine.quiet_of_unheld provisioned.tracking.distinct
      grantable.unheld member named
    rw [quiet] at outstanding
    cases outstanding
  have spare := provisioned.spare grantable.active backed.uncancelled
    grantable.shardAt free strands
  have within := UInt64.le_iff_toNat_le.mp grantable.within
  have added := target.charge_inFlightBytes_le shaper chunk now
  have outstanding :
      (target.charge shaper chunk now).session.outstandingBytes =
        target.focus.session.outstandingBytes := rfl
  refine ⟨backed.uncancelled, ?_⟩
  rw [outstanding]
  omega

theorem EvidenceTarget.acknowledge_backed
    (valid : target.Valid)
    (funded : target.Funded)
    (provisioned : target.focus.session.Provisioned)
    (backed : target.focus.session.Backed)
    (within : evidence.arrivedBytes ≤ target.attempt.grantedBytes)
    (grows : target.attempt.deliveredBytes ≤ evidence.arrivedBytes) :
    (target.acknowledge evidence
      (evidence.arrivedBytes - target.attempt.deliveredBytes)
        now).session.Backed := by
  have affordable := funded.affordable valid provisioned backed within grows
  have lowered := (target.acknowledge_toNat valid provisioned.tallied
    evidence now affordable).1
  have covered := funded.covered valid provisioned backed
  have drains := SessionRecord.toNat_undelivered target.attempt
  have withinNat := UInt64.le_iff_toNat_le.mp within
  have growsNat := UInt64.le_iff_toNat_le.mp grows
  rw [Word.toNat_sub_of_le growsNat] at lowered
  have moved := SessionRecord.inFlightBytes_set valid.attemptAt
    (congrArg SessionRecord.attempts (target.acknowledge_session evidence
      (evidence.arrivedBytes - target.attempt.deliveredBytes) now))
  have settled :
      AttemptRecord.bytesInFlight
        { target.sighted evidence now with
          outcome := .deliveredAcked
          outstanding := false } = 0 := rfl
  rw [settled] at moved
  refine ⟨?_, by omega⟩
  rw [EvidenceTarget.acknowledge_session]
  exact backed.uncancelled

theorem Change.backed
    {before after : Focus} (change : Change fundingPermits before after)
    (provisioned : before.session.Provisioned)
    (backed : before.session.Backed)
    (active : isTerminal after.session.state = false) :
    after.session.Backed := by
  cases change with
  | annotate _ _ noted =>
      rw [noted.session]
      exact backed.of_same rfl rfl rfl
  | unprove _ bytes permitted =>
      have lowered := (before.markUnproven_toNat bytes).1
      have room : before.session.inFlightBytes +
          min bytes.toNat before.session.outstandingBytes.toNat ≤
        before.session.outstandingBytes.toNat := permitted
      refine ⟨backed.uncancelled, ?_⟩
      rw [lowered]
      change before.session.inFlightBytes ≤ _
      omega
  | cancelOutstanding _ _ permitted =>
      exact permitted.elim
  | rearm _ now =>
      refine ⟨backed.uncancelled, ?_⟩
      rw [SessionRecord.inFlightBytes_of_quiet (before.rearm_quiet now).2]
      exact Nat.zero_le _
  | close _ _ _ _ _ discarded =>
      rw [Focus.closeAs_session] at active
      have wrong := discards_of_active active
      rw [discarded] at wrong
      cases wrong
  | closeAbandoned | closeMismatched =>
      rw [Focus.closeAs_session] at active
      cases active
  | unreserve =>
      rw [Focus.releasePathReservation_session]
      exact backed.of_same rfl rfl rfl
  | charge target shaper _ now grantable _ permitted =>
      exact target.charge_backed grantable permitted.2 provisioned backed
        shaper now
  | sight _ _ _ _ valid =>
      exact backed.of_set valid.attemptAt rfl le_rfl le_rfl rfl
  | acknowledge target _ _ valid within grows _ permitted =>
      exact target.acknowledge_backed valid permitted provisioned backed
        within grows
  | verify _ _ valid =>
      exact backed.of_set valid.attemptAt rfl le_rfl le_rfl rfl
  | truncate target valid =>
      have raised := (target.truncate_toNat valid provisioned.tallied).2.1
      rw [EvidenceTarget.truncate_session] at raised ⊢
      refine backed.of_set valid.attemptAt rfl (Nat.zero_le _) ?_ rfl
      rw [raised]
      exact Nat.le_add_right _ _
  | blurShard _ valid =>
      rw [EvidenceTarget.blur_session]
      exact backed.of_set valid.attemptAt rfl (Nat.zero_le _) le_rfl rfl
  | blurAttempt _ _ valid =>
      rw [AttemptTarget.blur_session]
      exact backed.of_set valid.attemptAt rfl (Nat.zero_le _) le_rfl rfl
  | complete =>
      rw [Focus.completeSession_session] at active
      cases active
  | _ =>
      exact backed.of_same rfl rfl rfl

theorem fundingPermits_rearm (focus : Focus) (bytes : UInt64) (now : Nanos) :
    fundingPermits.unprove (focus.rearm now) bytes := by
  have quiet := SessionRecord.inFlightBytes_of_quiet (focus.rearm_quiet now).2
  change SessionRecord.inFlightBytes _ + min _ _ ≤ _
  rw [quiet, Nat.zero_add]
  exact Nat.min_le_right _ _

theorem EvidenceTarget.Funded.unprove
    (funded : target.Funded) (valid : target.Valid)
    (provisioned : target.focus.session.Provisioned)
    (backed : target.focus.session.Backed) :
    fundingPermits.unprove target.blur
      (SessionRecord.undelivered target.attempt) := by
  have covered := funded.covered valid provisioned backed
  have moved := SessionRecord.inFlightBytes_set valid.attemptAt
    (congrArg SessionRecord.attempts target.blur_session)
  have settled :
      AttemptRecord.bytesInFlight
        { target.attempt with
          outcome := .ambiguous
          outstanding := false } = 0 := rfl
  have outstanding :
      target.blur.session.outstandingBytes =
        target.focus.session.outstandingBytes := by
    rw [EvidenceTarget.blur_session]
  have fits := backed.backed
  change SessionRecord.inFlightBytes _ + min _ _ ≤ _
  rw [settled] at moved
  rw [outstanding]
  omega

theorem AttemptTarget.Funded.unprove
    {target : AttemptTarget} (funded : target.Funded) (valid : target.Valid)
    (backed : target.focus.session.Backed) (now : Nanos) :
    fundingPermits.unprove (target.blur now)
      (SessionRecord.undelivered target.attempt) := by
  have moved := SessionRecord.inFlightBytes_set valid.attemptAt
    (congrArg SessionRecord.attempts (target.blur_session now))
  have settled :
      AttemptRecord.bytesInFlight
        { target.attempt with
          outcome := .ambiguous
          outstanding := false
          updatedAt := now } = 0 := rfl
  have outstanding :
      (target.blur now).session.outstandingBytes =
        target.focus.session.outstandingBytes := by
    rw [AttemptTarget.blur_session]
  have fits := backed.backed
  have drains := SessionRecord.toNat_undelivered target.attempt
  change SessionRecord.inFlightBytes _ + min _ _ ≤ _
  rw [settled] at moved
  rw [outstanding]
  rcases funded with flying | nothing
  · unfold AttemptRecord.bytesInFlight at moved
    rw [if_pos flying] at moved
    omega
  · have zero := congrArg UInt64.toNat nothing
    rw [show (0 : UInt64).toNat = 0 from rfl] at zero
    omega

/-! ## Commands -/

/-- Every active session is backed. -/
def Engine.Funded (engine : Engine) : Prop :=
  ∀ id session, engine.sessions.lookup id = some session →
    session.Provisioned ∧
      (isTerminal session.state = false → session.Backed)

/-- Permits for steps that settle sessions. -/
def settlingPermits : Permits where
  resume := fun _ => False
  grant := fun _ => False

theorem settlingPermits_routine : settlingPermits.Routine :=
  { Permits.Routine.free with }

namespace Engine.Funded

variable {engine after : Engine}

theorem edits
    (funded : engine.Funded) (edits : Edits fundingPermits engine after) :
    after.Funded := by
  refine @Edits.forall_sessions _
    (fun _ session => session.Provisioned ∧
      (isTerminal session.state = false → session.Backed))
    _ _ edits ?_ ?_ funded
  · rintro first second _ change ⟨provisioned, backed⟩
    have kept := change.provisioned
      (fun _ permitted => And.left permitted) (fun _ permitted => permitted)
      provisioned
    refine ⟨kept, fun active => ?_⟩
    have earlier := (change.accounted (fun _ permitted => permitted)
      provisioned.tallied active).1
    exact change.backed provisioned (backed earlier) active
  · intro _ session admitted _
    refine ⟨admitted.provisioned, fun _ => ?_⟩
    rcases admitted with ⟨_, _, _, _, _, rfl⟩
    exact ⟨rfl, Nat.zero_le _⟩

/-- A step that only settles sessions leaves the others backed. -/
theorem closes
    (funded : engine.Funded) (edits : Edits settlingPermits engine after)
    (closes : engine.Closes after) : after.Funded := by
  intro id session found
  constructor
  · refine @Edits.forall_sessions _
      (fun _ session => session.Provisioned) _ _ edits ?_ ?_
      (fun id session known => (funded id session known).1) id session found
    · intro first second _ change
      exact change.provisioned (fun _ permitted => False.elim permitted)
        (fun _ permitted => False.elim permitted)
    · exact fun _ session admitted _ => admitted.provisioned
  · intro active
    rcases closes id session found with earlier | terminal
    · exact (funded id session earlier).2 active
    · exact isTerminal_elim active terminal

theorem observe (funded : engine.Funded) (now : Nanos) :
    (engine.observe now).Funded :=
  funded.closes (Engine.observe_edits settlingPermits_routine engine now)
    (engine.observe_closes now)

/-- A command that first observes time and then acts when its guard
passes. -/
theorem observed
    (funded : engine.Funded) (now : Nanos)
    {Ticket Value : Type} {guard : Result Ticket}
    {body : Ticket → Result Value × Engine}
    (acts :
      ∀ ticket, guard = .ok ticket → (engine.observe now).Funded →
        (body ticket).2.Funded) :
    ((engine.observe now).guarded guard body).2.Funded := by
  unfold Engine.guarded
  split
  · exact funded.observe now
  · rename_i ticket
    exact acts ticket rfl (funded.observe now)

/-- The session in a focus of a funded engine. -/
theorem session
    (funded : engine.Funded) {id : SessionId} {focus : Focus}
    (holds : engine.Holds id focus) :
    focus.session.Provisioned ∧
      (isTerminal focus.session.state = false → focus.session.Backed) := by
  have held := holds.held
  unfold Focus.Held at held
  rw [holds.engine] at held
  exact funded _ _ held

end Engine.Funded

/-- Credit is asked for under a new identity and while everything unproven is
stranded; acknowledgements and ambiguous verdicts are funded; ambiguity is
reported for attempts in flight, or for completely delivered ones; and no
session that ended is resumed. -/
def FundingCondition (engine : Engine) (now : Nanos) : Command → Prop
  | .resumeSession id fence => engine.ResumesActive now id fence
  | .requestWave id index fence =>
      ∀ focus, (engine.observe now).creditHolder now id fence = .ok focus →
        ∀ target, Engine.waveTarget focus index fence = .ok target →
          target.Unused ∧ target.focus.session.Strands target.position
  | .reportTransfer evidence fence =>
      ∀ target,
        (engine.observe now).transferTarget evidence fence = .ok target →
        evidence.sinkAcknowledged = true → target.Funded
  | .reportVerification evidence fence =>
      ∀ target,
        (engine.observe now).verificationTarget evidence fence =
          .ok target →
        evidence.outcome = .ambiguous ∨ evidence.outcome = .rejected →
        target.Funded
  | .reportAmbiguous id attempt sequence _ fence =>
      ∀ target,
        (engine.observe now).ambiguityTarget id attempt sequence fence =
          .ok target →
        target.Funded
  | _ => True

instance (engine : Engine) (now : Nanos) :
    ∀ command, Decidable (FundingCondition engine now command) := by
  intro command
  apply @Command.casesOn
      (fun command => Decidable (FundingCondition engine now command)) command <;>
    intros <;> unfold FundingCondition <;> infer_instance

section

variable {engine : Engine} (funded : engine.Funded) (now : Nanos)

include funded

theorem Engine.submitSession_funded
    (request : SessionRequest) (fence : CommandFence) :
    (engine.submitSession now request fence).2.Funded := by
  have observed := funded.observe now
  unfold Engine.submitSession
  dsimp only
  split
  · exact observed.edits (.single (.housekeeping _ _
      (Engine.reject_housekeeping _ _ _ _) (.inl trivial)))
  · rename_i plan planned
    have admissible := Engine.admissionPlan_ok planned
    unfold Engine.commitAdmission
    dsimp only
    have drawn : (engine.observe now).drawn.Funded :=
      observed.edits (.single (.draw _))
    split
    · exact drawn.edits (.single (.housekeeping _ _
        (Engine.denySubmission_housekeeping _ _ _ _ _) (.inl trivial)))
    · rename_i shaper reserved
      have cleared := drawn.closes
        (.head (.reserve _ _ _ shaper reserved trivial)
          (Engine.makeRoom_edits settlingPermits_routine.toSettling
            (engine.observe now).drawn shaper now
            ((engine.observe now).newSession now request plan).id
            admissible.supersedable))
        (Engine.makeRoom_closes _ _ _ _ _)
      exact cleared.edits (.tail
        (.single (.enroll _ _ ⟨_, now, request, plan, admissible, rfl⟩
          trivial))
        (.housekeeping _ _ (Engine.rememberCommand_housekeeping _ _ _)
          (.inl trivial)))

theorem Engine.revalidateSession_funded
    (id : SessionId) (fence : CommandFence) :
    (engine.revalidateSession now id fence).2.Funded := by
  refine funded.observed now ?_
  intro focus passed observed
  rcases Engine.revalidationTarget_ok passed with ⟨holds, stale⟩
  by_cases failed : focus.unrenewable now = true
  · have closed := focus.revalidate_closes failed
    rw [holds.engine] at closed
    refine observed.closes (holds.edits
      (Focus.revalidate_moves trivial holds.held stale
        now ?_ ?_).edits) closed
    · exact fun _ _ _ => ⟨fun _ _ => trivial, fun _ _ => trivial,
        fun _ _ => trivial⟩
    · exact fun _ => ⟨trivial, fun _ _ => trivial⟩
  · refine observed.edits (holds.edits
      (Focus.revalidate_moves trivial holds.held stale
        now ?_ (fun wrong => absurd wrong failed)).edits)
    exact fun _ _ _ => ⟨fun _ _ => trivial, fun _ _ => trivial,
      fun _ _ => trivial⟩

theorem Engine.cancelSession_funded
    (id : SessionId) (fence : CommandFence) (reason : ReasonCode)
    (detail : Text) :
    (engine.cancelSession now id fence reason detail).2.Funded := by
  refine funded.observed now ?_
  intro focus passed observed
  rcases Engine.cancelTarget_ok passed with ⟨holds, active⟩
  have closed := focus.cancel_closes reason detail now
  rw [holds.engine] at closed
  exact observed.closes (holds.edits (Focus.cancel_moves trivial
    holds.held active trivial reason _ now).edits) closed

theorem Engine.requestWave_funded
    (id : SessionId) (index : ShardIndex) (fence : CommandFence)
    (condition :
      FundingCondition engine now (.requestWave id index fence)) :
    (engine.requestWave now id index fence).2.Funded := by
  refine funded.observed now ?_
  intro focus passed observed
  split
  · exact observed
  · unfold Engine.guarded
    split
    · exact observed
    · rename_i target found
      exact observed.edits (Engine.wave_edits passed found
        (fun _ _ => trivial) (fun _ _ _ => condition focus passed target found))

theorem Engine.reportTransfer_funded
    (evidence : TransferEvidence) (fence : CommandFence)
    (condition :
      FundingCondition engine now (.reportTransfer evidence fence)) :
    (engine.reportTransfer now evidence fence).2.Funded := by
  refine funded.observed now ?_
  intro target passed observed
  rcases Engine.transferTarget_ok passed with ⟨holds, valid, within, grows, _⟩
  exact observed.edits (holds.edits (EvidenceTarget.transfer_moves trivial
    valid within grows (condition target passed)
    now).edits)

theorem Engine.reportVerification_funded
    (evidence : VerificationEvidence) (fence : CommandFence)
    (condition :
      FundingCondition engine now (.reportVerification evidence fence)) :
    (engine.reportVerification now evidence fence).2.Funded := by
  refine funded.observed now ?_
  intro target passed observed
  rcases Engine.verificationTarget_ok passed with ⟨holds, valid, acked⟩
  rcases observed.session holds with ⟨provisioned, backed⟩
  refine observed.edits (holds.edits (EvidenceTarget.verification_moves
    trivial valid acked ?_ ?_ now).edits)
  · exact Permits.allowVerification_of (fun _ _ => trivial)
      (fun _ => trivial) (fun _ => trivial) (fun _ => trivial)
  · intro ambiguous
    exact (condition target passed ambiguous).unprove valid provisioned
      (backed valid.active)

theorem Engine.reportAmbiguous_funded
    (id : SessionId) (attempt : TransferAttemptId)
    (sequence : AttemptSequence) (cause : Text) (fence : CommandFence)
    (condition :
      FundingCondition engine now
        (.reportAmbiguous id attempt sequence cause fence)) :
    (engine.reportAmbiguous now id attempt sequence cause
      fence).2.Funded := by
  refine funded.observed now ?_
  intro target passed observed
  rcases Engine.ambiguityTarget_ok passed with ⟨holds, valid⟩
  have backed := (observed.session holds).2 valid.active
  exact observed.edits (holds.edits (AttemptTarget.recordAmbiguity_moves
    trivial valid trivial _ now
    ((condition target passed).unprove valid backed now)).edits)

end

/-- A command that meets the condition leaves every active session backed. -/
theorem Engine.execute_funded
    {engine : Engine} (funded : engine.Funded)
    {command : Command}
    (ordinary : ∀ snapshot, command ≠ .restore snapshot)
    (condition : FundingCondition engine now command) :
    (engine.execute now command).2.Funded := by
  cases command with
  | applyPolicy policy =>
      exact funded.edits
        (Engine.applyPolicy_edits engine now policy trivial
          (fun _ _ => trivial))
  | applyTopology topology =>
      exact funded.edits
        (Engine.applyTopology_edits engine now topology trivial)
  | upsertContract contract =>
      exact funded.edits
        (Engine.upsertContract_edits engine now contract trivial
          (fun _ _ => trivial))
  | advanceEpoch epoch =>
      exact funded.edits (Engine.advanceEpoch_edits engine now epoch
        (fun focus bytes => fundingPermits_rearm focus bytes now) trivial
        (fun _ => trivial))
  | restore snapshot =>
      exact absurd rfl (ordinary snapshot)
  | submitSession request fence =>
      exact Engine.submitSession_funded funded now request fence
  | revalidateSession id fence =>
      exact Engine.revalidateSession_funded funded now id fence
  | pauseSession =>
      refine funded.observed now ?_
      intro focus passed observed
      rcases Engine.pauseTarget_ok passed with
        ⟨holds, active, authorised, unpaused⟩
      exact observed.edits (holds.edits (Focus.pause_edits holds.held
        active authorised unpaused _ now))
  | resumeSession =>
      refine funded.observed now ?_
      intro focus passed observed
      rcases Engine.resumeTarget_ok passed with ⟨holds, paused⟩
      exact observed.edits (holds.edits (Focus.resume_edits holds.held
        paused (condition focus passed) now))
  | cancelSession id fence reason detail =>
      exact Engine.cancelSession_funded funded now id fence reason detail
  | requestWave id index fence =>
      exact Engine.requestWave_funded funded now id index fence condition
  | reportSourceComplete =>
      refine funded.observed now ?_
      intro target passed observed
      rcases Engine.sourceCompleteTarget_ok passed with ⟨holds, valid⟩
      exact observed.edits (holds.edits
        (ShardTarget.sourceCompleted_moves trivial valid _ now).edits)
  | reportTransfer evidence fence =>
      exact Engine.reportTransfer_funded funded now evidence fence condition
  | reportVerification evidence fence =>
      exact Engine.reportVerification_funded funded now evidence fence
        condition
  | reportAmbiguous id attempt sequence cause fence =>
      exact Engine.reportAmbiguous_funded funded now id attempt sequence cause
        fence condition
  | recordDurabilityAssertion id assertion fence =>
      have counted :
          ({ engine with
            commandsProcessed :=
              engine.commandsProcessed + 1 } : Engine).Funded := funded
      exact counted.edits (Engine.recordDurabilityAssertion_edits engine now
        id assertion fence)
  | pollDeadlines =>
      exact funded.closes
        (Engine.enforceFrom_moves settlingPermits_routine now _ engine).edits
        (Engine.enforceFrom_closes now _ engine)
  | beginShutdown =>
      exact funded.edits engine.beginShutdown_edits

/-! ## Runs -/

/-- Along runs that meet the condition, the grants in flight of every active
session are at most its outstanding bytes.  A funded acknowledgement that
passes the guards of `report_transfer` is then accepted. -/
theorem grants_in_flight_are_funded
    {config : EngineConfig} {boot : Nanos} {history : List Event}
    {engine : Engine}
    (run : ConditionedRun FundingCondition config boot history engine) :
    (∀ id session, engine.sessions.lookup id = some session →
        isTerminal session.state = false →
        (session.attempts.map (fun attempt =>
            if attempt.outstanding then attempt.grantedBytes.toNat
            else 0)).sum ≤
          session.outstandingBytes.toNat) ∧
      ∀ now evidence fence target,
        (engine.observe now).transferTarget evidence fence = .ok target →
        target.Funded → (target.transfer evidence now).1 = .ok () := by
  have funded : engine.Funded := by
    refine Run.invariant ?_ ?_ run
    · intro id session found
      rw [(Engine.construct_blank config boot).1] at found
      cases found
    · rintro state event next ⟨step, ordinary, condition⟩ holds
      cases step with
      | call =>
          exact state.execute_funded holds
            (Event.ordinary_of_restores ordinary) condition
      | rehash _ _ same =>
          intro id session found
          exact holds id session ((AList.perm_lookup same).symm.trans found)
  constructor
  · intro id session found active
    exact ((funded id session found).2 active).backed
  · intro now evidence fence target passed settles
    rcases Engine.transferTarget_ok passed with
      ⟨holds, valid, within, grows, _⟩
    rcases (funded.observe now).session holds with ⟨provisioned, backed⟩
    have affordable := settles.affordable valid provisioned
      (backed valid.active) within grows
    unfold EvidenceTarget.transfer
    dsimp only
    rw [if_neg (UInt64.not_lt.mpr affordable)]
    split <;> rfl

/-- The first of three shards becomes ambiguous while it is in flight; the
second is granted afterwards. -/
def strandedScript : List (Nanos × Command) :=
  [(1, .submitSession (Sample.request 2 [1, 1, 1]) (Sample.fence 1)),
    (2, .requestWave ⟨Sample.drawn 0⟩ ⟨0⟩ (Sample.fence 1)),
    (3, .reportAmbiguous ⟨Sample.drawn 0⟩ ⟨Sample.drawn 1⟩ ⟨1⟩
      (ascii "sink silent") (Sample.fence 1)),
    (4, .requestWave ⟨Sample.drawn 0⟩ ⟨1⟩ (Sample.fence 1))]

/-- A shard is granted again after its coordinator restarted. -/
def regrantScript : List (Nanos × Command) :=
  [(1, .submitSession (Sample.request 2 [2]) (Sample.fence 1)),
    (2, .requestWave ⟨Sample.drawn 0⟩ ⟨0⟩ (Sample.fence 1)),
    (3, .advanceEpoch ⟨⟨2⟩, ⟨1⟩⟩),
    (4, .revalidateSession ⟨Sample.drawn 0⟩
      { Sample.fence 1 with epoch := ⟨⟨2⟩, ⟨1⟩⟩ }),
    (5, .requestWave ⟨Sample.drawn 0⟩ ⟨0⟩
      { Sample.fence 1 with epoch := ⟨⟨2⟩, ⟨1⟩⟩ })]

theorem fundingScripts_evaluated :
    (ScriptMeets FundingCondition (Engine.construct Sample.config 0)
         strandedScript ∧
       (((Engine.construct Sample.config 0).executeAll
         strandedScript).2.sessions.lookup ⟨Sample.drawn 0⟩).any
         (fun session =>
           isTerminal session.state = false ∧ session.unprovenBytes = 1 ∧
             session.inFlightBytes = 1) = true) ∧
      ((((Engine.construct Sample.config 0).executeAll
         regrantScript).2.sessions.lookup ⟨Sample.drawn 0⟩).any
           (fun session =>
             isTerminal session.state = false ∧
               session.outstandingBytes = 0 ∧
               (session.attempts.map (fun attempt =>
                 if attempt.outstanding then attempt.grantedBytes.toNat
                 else 0)).sum = 2) = true) := by
  decide +kernel

/-- A grant beside a stranded shard is funded. -/
theorem grants_in_flight_are_funded_beside_stranded :
    let engine :=
      ((Engine.construct Sample.config 0).executeAll strandedScript).2
    ∃ session,
      engine.sessions.lookup ⟨Sample.drawn 0⟩ = some session ∧
        session.unprovenBytes = 1 ∧ session.inFlightBytes = 1 ∧
        session.inFlightBytes ≤ session.outstandingBytes.toNat := by
  have evaluated := fundingScripts_evaluated.1
  have run := Engine.executeAll_conditioned _ evaluated.1
  rcases (Option.any_eq_true _ _).mp evaluated.2 with ⟨session, found, holds⟩
  rw [decide_eq_true_iff] at holds
  exact ⟨session, found, holds.2.1, holds.2.2,
    (grants_in_flight_are_funded run).1 _ session found holds.1⟩

/-- The second grant has nothing outstanding behind it. -/
theorem regrant_after_restart_is_unfunded :
    ∃ history engine session,
      EngineRun Sample.config 0 history engine ∧
        (∀ event ∈ history, event.restores = false) ∧
        engine.sessions.lookup ⟨Sample.drawn 0⟩ = some session ∧
        isTerminal session.state = false ∧
        session.outstandingBytes = 0 ∧
        (session.attempts.map (fun attempt =>
          if attempt.outstanding then attempt.grantedBytes.toNat
          else 0)).sum = 2 := by
  have reached := fundingScripts_evaluated.2
  rcases (Option.any_eq_true _ _).mp reached with ⟨session, found, holds⟩
  rw [decide_eq_true_iff] at holds
  refine ⟨_, _, session, Engine.executeAll_run _ regrantScript, ?_, found,
    holds⟩
  simp [Engine.executeAll, regrantScript, Event.restores]

end TrafficFabric
