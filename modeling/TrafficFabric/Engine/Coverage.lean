import TrafficFabric.Engine.Commands

/-!
# Permits that cover a command

`Permits.Allow` says when a set of permits covers all that a command may do;
under that condition the engine after the command is reached by edits.
-/

namespace TrafficFabric

open Foundation

variable {permits : Permits} {engine after : Engine} {now : Nanos}
  {command : Command} {Ticket Value : Type} {id : SessionId} {focus : Focus}
  {fence : CommandFence}

/-- What a command is about to do is permitted.  A condition is asked for
only when the guards of the command have passed. -/
def Permits.Allow (permits : Permits) (engine : Engine) (now : Nanos) :
    Command → Prop
  | .applyPolicy policy =>
      permits.policy policy ∧
        ∀ reached shaper, permits.reshape reached shaper
  | .applyTopology topology => permits.topology topology
  | .upsertContract contract =>
      permits.contract contract ∧
        ∀ reached shaper, permits.reshape reached shaper
  | .advanceEpoch epoch =>
      permits.epoch epoch ∧ ∀ reached, permits.reschedule reached []
  | .submitSession request fence =>
      permits.remember ∧
      (∀ reached shaper, permits.reserve reached shaper) ∧
      ∀ plan shaper,
        (engine.observe now).admissionPlan now request fence = .ok plan →
        (engine.observe now).shaper.reservePathRate plan.path plan.rateBps =
          some shaper →
        permits.enroll
          ((engine.observe now).drawn.makeRoom shaper now
            ((engine.observe now).newSession now request plan).id
            plan.targets)
          ((engine.observe now).newSession now request plan)
  | .revalidateSession id fence =>
      (∀ focus decision,
        (engine.observe now).revalidationTarget id fence = .ok focus →
        (focus.revalidate now).1 = .ok decision →
        decision.kind = .admitted → permits.RenewsAt id) ∧
      ∀ focus,
        (engine.observe now).revalidationTarget id fence = .ok focus →
        focus.unrenewable now = true →
        ∀ failed : Focus, failed.key = id → permits.abandon failed
  | .resumeSession id fence =>
      ∀ focus, (engine.observe now).resumeTarget id fence = .ok focus →
        permits.resume focus
  | .requestWave id index fence =>
      (∀ reached shaper, permits.reshape reached shaper) ∧
      ∀ focus target outcome,
        (engine.observe now).creditHolder now id fence = .ok focus →
        (engine.observe now).accounting.activeAttempts <
          (engine.observe now).policy.maxAttemptsInFlight →
        Engine.waveTarget focus index fence = .ok target →
        (target.requestCredit now).1 = .ok outcome →
        outcome.granted = true →
        permits.grant target
  | .reportTransfer evidence fence =>
      ∀ target,
        (engine.observe now).transferTarget evidence fence = .ok target →
        evidence.sinkAcknowledged = true → permits.acknowledge target
  | .reportVerification evidence fence =>
      ∀ target,
        (engine.observe now).verificationTarget evidence fence =
          .ok target →
        permits.AllowVerification evidence target
  | .reportAmbiguous id attempt sequence _ fence =>
      ∀ target,
        (engine.observe now).ambiguityTarget id attempt sequence fence =
          .ok target →
        permits.blurAttempt target
  | .restore _ => False
  | _ => True

/-- The commands that configure or draw on the buckets of the shaper. -/
def Command.reshapes : Command → Bool
  | .applyPolicy _ => true
  | .upsertContract _ => true
  | .requestWave _ _ _ => true
  | _ => false

/-- The commands that reserve rate on a path. -/
def Command.reserves : Command → Bool
  | .submitSession _ _ => true
  | .revalidateSession _ _ => true
  | _ => false

/-- The commands that rewrite the deadline index. -/
def Command.reschedules : Command → Bool
  | .advanceEpoch _ => true
  | .revalidateSession _ _ => true
  | _ => false

/-- Grounds on which permits cover a command: what each permit asks for, when
the guards of the command have passed. -/
structure Permits.Grounds
    (permits : Permits) (engine : Engine) (now : Nanos)
    (command : Command) : Prop where
  epoch :
    ∀ epoch, command = .advanceEpoch epoch → permits.epoch epoch := by
    intros; trivial
  policy :
    ∀ policy, command = .applyPolicy policy → permits.policy policy := by
    intros; trivial
  topology :
    ∀ topology, command = .applyTopology topology →
      permits.topology topology := by
    intros; trivial
  contract :
    ∀ contract, command = .upsertContract contract →
      permits.contract contract := by
    intros; trivial
  reshape :
    ∀ reached shaper, command.reshapes = true →
      permits.reshape reached shaper := by
    intros; trivial
  reserve :
    ∀ reached shaper, command.reserves = true →
      permits.reserve reached shaper := by
    intros; trivial
  reschedule :
    ∀ reached deadlines, command.reschedules = true →
      permits.reschedule reached deadlines := by
    intros; trivial
  remember :
    ∀ request fence, command = .submitSession request fence →
      permits.remember := by
    intros; trivial
  enroll :
    ∀ request fence plan shaper, command = .submitSession request fence →
      (engine.observe now).admissionPlan now request fence = .ok plan →
      (engine.observe now).shaper.reservePathRate plan.path plan.rateBps =
        some shaper →
      permits.enroll
        ((engine.observe now).drawn.makeRoom shaper now
          ((engine.observe now).newSession now request plan).id plan.targets)
        ((engine.observe now).newSession now request plan) := by
    intros; trivial
  renew :
    ∀ id fence focus decision, command = .revalidateSession id fence →
      (engine.observe now).revalidationTarget id fence = .ok focus →
      (focus.revalidate now).1 = .ok decision →
      decision.kind = .admitted →
      ∀ renewed : Focus, renewed.key = id → permits.renew renewed := by
    intros; trivial
  abandon :
    ∀ id fence focus, command = .revalidateSession id fence →
      (engine.observe now).revalidationTarget id fence = .ok focus →
      focus.unrenewable now = true →
      ∀ failed : Focus, failed.key = id → permits.abandon failed := by
    intros; trivial
  resume :
    ∀ id fence focus, command = .resumeSession id fence →
      (engine.observe now).resumeTarget id fence = .ok focus →
      permits.resume focus := by
    intros; trivial
  grant :
    ∀ id index fence focus target, command = .requestWave id index fence →
      (engine.observe now).creditHolder now id fence = .ok focus →
      (engine.observe now).accounting.activeAttempts <
        (engine.observe now).policy.maxAttemptsInFlight →
      Engine.waveTarget focus index fence = .ok target →
      permits.grant target := by
    intros; trivial
  acknowledge :
    ∀ evidence fence target, command = .reportTransfer evidence fence →
      (engine.observe now).transferTarget evidence fence = .ok target →
      evidence.sinkAcknowledged = true → permits.acknowledge target := by
    intros; trivial
  verify :
    ∀ evidence fence target, command = .reportVerification evidence fence →
      (engine.observe now).verificationTarget evidence fence = .ok target →
      evidence.outcome = .verified → evidence.Matches target.shard →
      permits.verify target := by
    intros; trivial
  failVerification :
    ∀ evidence fence target, command = .reportVerification evidence fence →
      (engine.observe now).verificationTarget evidence fence = .ok target →
      evidence.Fails target.shard → permits.failVerification target := by
    intros; trivial
  truncate :
    ∀ evidence fence target, command = .reportVerification evidence fence →
      (engine.observe now).verificationTarget evidence fence = .ok target →
      evidence.outcome = .truncated → permits.truncate target := by
    intros; trivial
  blurShard :
    ∀ evidence fence target, command = .reportVerification evidence fence →
      (engine.observe now).verificationTarget evidence fence = .ok target →
      evidence.outcome = .ambiguous ∨ evidence.outcome = .rejected →
      permits.blurShard target := by
    intros; trivial
  blurAttempt :
    ∀ id attempt sequence cause fence target,
      command = .reportAmbiguous id attempt sequence cause fence →
      (engine.observe now).ambiguityTarget id attempt sequence fence =
        .ok target →
      permits.blurAttempt target := by
    intros; trivial

/-- Permits that ask for nothing have grounds. -/
theorem Permits.Grounds.free
    (engine : Engine) (now : Nanos) (command : Command) :
    ({} : Permits).Grounds engine now command := by
  constructor <;> dsimp only [autoParam] <;> intros <;> trivial

theorem Permits.Grounds.allow
    (grounds : permits.Grounds engine now command)
    (ordinary : ∀ snapshot, command ≠ .restore snapshot) :
    permits.Allow engine now command := by
  cases command with
  | applyPolicy policy =>
      exact ⟨grounds.policy policy rfl,
        fun reached shaper => grounds.reshape reached shaper rfl⟩
  | applyTopology topology =>
      exact grounds.topology topology rfl
  | upsertContract contract =>
      exact ⟨grounds.contract contract rfl,
        fun reached shaper => grounds.reshape reached shaper rfl⟩
  | advanceEpoch epoch =>
      exact ⟨grounds.epoch epoch rfl,
        fun reached => grounds.reschedule reached [] rfl⟩
  | submitSession request fence =>
      exact ⟨grounds.remember request fence rfl,
        fun reached shaper => grounds.reserve reached shaper rfl,
        fun plan shaper => grounds.enroll request fence plan shaper rfl⟩
  | revalidateSession id fence =>
      refine ⟨?_, fun focus => grounds.abandon id fence focus rfl⟩
      intro focus decision passed answered admitted
      exact ⟨grounds.renew id fence focus decision rfl passed answered
        admitted, fun reached shaper => grounds.reserve reached shaper rfl,
        fun reached deadlines => grounds.reschedule reached deadlines rfl⟩
  | resumeSession id fence =>
      exact fun focus => grounds.resume id fence focus rfl
  | requestWave id index fence =>
      exact ⟨fun reached shaper => grounds.reshape reached shaper rfl,
        fun focus target _ passed available found _ _ =>
        grounds.grant id index fence focus target rfl passed available
          found⟩
  | reportTransfer evidence fence =>
      exact fun target => grounds.acknowledge evidence fence target rfl
  | reportVerification evidence fence =>
      exact fun target passed => Permits.allowVerification_of
        (grounds.verify evidence fence target rfl passed)
        (grounds.failVerification evidence fence target rfl passed)
        (grounds.truncate evidence fence target rfl passed)
        (grounds.blurShard evidence fence target rfl passed)
  | reportAmbiguous id attempt sequence cause fence =>
      exact fun target =>
        grounds.blurAttempt id attempt sequence cause fence target rfl
  | restore snapshot =>
      exact absurd rfl (ordinary snapshot)
  | _ =>
      trivial

section

variable {permits : Permits} (settling : permits.Settling)

/-- A command that acts when its guard passes. -/
theorem Engine.guarded_edits
    (engine : Engine)
    {guard : Result Ticket} {body : Ticket → Result Value × Engine}
    (acts :
      ∀ ticket, guard = .ok ticket → Edits permits engine (body ticket).2) :
    Edits permits engine (engine.guarded guard body).2 := by
  unfold Engine.guarded
  split
  · exact .refl
  · rename_i ticket
    exact acts ticket rfl

theorem Engine.Holds.edits
    (holds : engine.Holds id focus)
    (acts : Edits permits focus.commit after) :
    Edits permits engine after := by
  rw [holds.held.commit, holds.engine] at acts
  exact acts

theorem Engine.guarded_moves
    (engine : Engine)
    {guard : Result Ticket} {body : Ticket → Result Value × Engine}
    (acts :
      ∀ ticket, guard = .ok ticket → Moves permits engine (body ticket).2) :
    Moves permits engine (engine.guarded guard body).2 := by
  unfold Engine.guarded
  split
  · exact .refl
  · rename_i ticket
    exact acts ticket rfl

theorem Engine.Holds.moves
    (holds : engine.Holds id focus)
    (acts : Moves permits focus.commit after) :
    Moves permits engine after := by
  rw [holds.held.commit, holds.engine] at acts
  exact acts

include settling in
theorem Engine.submitSession_moves
    (engine : Engine) (now : Nanos) (request : SessionRequest)
    (fence : CommandFence)
    (allowed : permits.Allow engine now (.submitSession request fence)) :
    Moves permits (engine.observe now)
      (engine.submitSession now request fence).2 := by
  rcases allowed with ⟨remembers, reserves, enrolls⟩
  unfold Engine.submitSession
  dsimp only
  split
  · exact .single (.edit (.housekeeping _ _
      (Engine.reject_housekeeping _ _ _ _) (.inl remembers)))
  · rename_i plan planned
    exact Engine.commitAdmission_moves settling
      (Engine.admissionPlan_ok planned) remembers reserves
      (fun shaper reserved => enrolls plan shaper planned reserved)

/-- Credit for a shard, once the guards of `request_wave` have passed. -/
theorem Engine.wave_edits
    {index : ShardIndex}
    {target : ShardTarget}
    (passed : engine.creditHolder now id fence = .ok focus)
    (found : Engine.waveTarget focus index fence = .ok target)
    (reshapes : ∀ reached shaper, permits.reshape reached shaper)
    (permitted :
      ∀ outcome, (target.requestCredit now).1 = .ok outcome →
        outcome.granted = true → permits.grant target) :
    Edits permits engine (target.requestCredit now).2 := by
  rcases Engine.creditHolder_ok passed with ⟨holds, active, unpaused, state⟩
  rcases Engine.waveTarget_ok found with ⟨rfl, shardAt, shardState, unheld⟩
  refine holds.edits
    (ShardTarget.requestCredit_edits holds.held ?_ now reshapes
      permitted)
  intro chunk within
  exact ⟨⟨holds.held.live, shardAt, active⟩, unpaused, state, shardState,
    unheld, within⟩

theorem Engine.requestWave_edits
    (engine : Engine) (now : Nanos) (id : SessionId)
    (index : ShardIndex) (fence : CommandFence)
    (reshapes : ∀ reached shaper, permits.reshape reached shaper)
    (granted :
      ∀ focus target outcome,
        (engine.observe now).creditHolder now id fence = .ok focus →
        (engine.observe now).accounting.activeAttempts <
          (engine.observe now).policy.maxAttemptsInFlight →
        Engine.waveTarget focus index fence = .ok target →
        (target.requestCredit now).1 = .ok outcome →
        outcome.granted = true →
        permits.grant target) :
    Edits permits (engine.observe now)
      (engine.requestWave now id index fence).2 := by
  refine Engine.guarded_edits (engine.observe now) ?_
  intro focus passed
  split
  · exact .refl
  · rename_i available
    unfold Engine.guarded
    split
    · exact .refl
    · rename_i target found
      refine Engine.wave_edits passed found reshapes ?_
      intro outcome answered
      exact granted focus target outcome passed
        (UInt32.not_le.mp available) found answered

theorem Engine.recordDurabilityAssertion_edits
    (engine : Engine) (now : Nanos) (id : SessionId)
    (assertion : DurabilityAssertion) (fence : CommandFence) :
    Edits permits
      { engine with commandsProcessed := engine.commandsProcessed + 1 }
      (engine.recordDurabilityAssertion now id assertion fence).2 := by
  unfold Engine.recordDurabilityAssertion Engine.guarded
  dsimp only
  split
  · exact .refl
  · rename_i focus passed
    have holds := Engine.durabilityTarget_ok passed
    refine holds.edits (Annotated.edits ?_)
    exact ((Annotated.durability _ _).trans (Annotated.touch _ now)).trans
      (Annotated.appendTimeline _ now _)

theorem Engine.beginShutdown_edits (engine : Engine) :
    Edits permits engine engine.beginShutdown.2 := by
  unfold Engine.beginShutdown Engine.guarded
  split
  · exact .refl
  · exact .single (.housekeeping _ _
      { Housekeeping.refl engine with shutdown := fun _ => rfl })

/-- The engine as a command finds it once it has counted itself and observed
time, as far as it does. -/
def Engine.entered (engine : Engine) (now : Nanos) : Command → Engine
  | .applyPolicy _ => engine
  | .applyTopology _ => engine
  | .upsertContract _ => engine
  | .advanceEpoch _ => engine
  | .restore _ => engine
  | .beginShutdown => engine
  | .recordDurabilityAssertion _ _ _ =>
      { engine with commandsProcessed := engine.commandsProcessed + 1 }
  | .pollDeadlines => engine.enforceDeadlines now
  | _ => engine.observe now

theorem Engine.entered_moves
    (routine : permits.Routine) (engine : Engine) (now : Nanos)
    (command : Command) :
    Moves permits engine (engine.entered now command) := by
  have observed := Engine.observe_moves routine engine now
  cases command with
  | pollDeadlines =>
      exact Engine.enforceFrom_moves routine now _ engine
  | recordDurabilityAssertion =>
      exact .single
        (.edit (.housekeeping _ _ { Housekeeping.refl engine with }))
  | _ =>
      first
      | exact observed
      | exact .refl

include settling in
/-- What a covered command does from there is a sequence of moves. -/
theorem Engine.body_moves
    (engine : Engine) (now : Nanos) (command : Command)
    (allowed : permits.Allow engine now command) :
    Moves permits (engine.entered now command)
      (engine.execute now command).2 := by
  -- Only the closing moves need more than the calm permits.
  cases command with
  | applyPolicy policy =>
      exact (@Engine.applyPolicy_edits permits.calm engine now policy
        allowed.1 allowed.2).moves
  | applyTopology topology =>
      exact (@Engine.applyTopology_edits permits.calm engine now topology
        allowed).moves
  | upsertContract contract =>
      exact (@Engine.upsertContract_edits permits.calm engine now contract
        allowed.1 allowed.2).moves
  | advanceEpoch epoch =>
      exact (@Engine.advanceEpoch_edits permits.calm engine now epoch
        (fun _ _ => settling.unprove _ _) allowed.1 allowed.2).moves
  | restore =>
      exact allowed.elim
  | submitSession request fence =>
      exact Engine.submitSession_moves settling engine now request fence allowed
  | revalidateSession =>
      refine Engine.guarded_moves (engine.observe now) ?_
      intro focus passed
      rcases Engine.revalidationTarget_ok passed with ⟨holds, stale⟩
      refine holds.moves
        (Focus.revalidate_moves settling.close holds.held stale
          now ?_ ?_)
      · intro decision answered admitted
        rw [holds.key]
        exact allowed.1 focus decision passed answered admitted
      · intro unrenewable
        refine ⟨settling.unprove _ _, ?_⟩
        intro failed key
        exact allowed.2 focus passed unrenewable failed
          (key.trans holds.key)
  | pauseSession =>
      refine Engine.guarded_moves (engine.observe now) ?_
      intro focus passed
      rcases Engine.pauseTarget_ok passed with
        ⟨holds, active, authorised, unpaused⟩
      exact holds.moves (Focus.pause_edits holds.held active
        authorised unpaused _ now).moves
  | resumeSession =>
      refine Engine.guarded_moves (engine.observe now) ?_
      intro focus passed
      rcases Engine.resumeTarget_ok passed with ⟨holds, paused⟩
      exact holds.moves (@Focus.resume_edits _ permits.calm holds.held paused
        (allowed focus passed) now).moves
  | cancelSession _ _ reason =>
      refine Engine.guarded_moves (engine.observe now) ?_
      intro focus passed
      rcases Engine.cancelTarget_ok passed with ⟨holds, active⟩
      exact holds.moves (Focus.cancel_moves settling.close
        holds.held active (settling.cancel focus) reason _ now)
  | requestWave id index fence =>
      exact (@Engine.requestWave_edits permits.calm engine now id index fence
        allowed.1 allowed.2).moves
  | reportSourceComplete =>
      refine Engine.guarded_moves (engine.observe now) ?_
      intro target passed
      rcases Engine.sourceCompleteTarget_ok passed with ⟨holds, valid⟩
      exact holds.moves (ShardTarget.sourceCompleted_moves settling.close
        valid _ now)
  | reportTransfer =>
      refine Engine.guarded_moves (engine.observe now) ?_
      intro target passed
      rcases Engine.transferTarget_ok passed with
        ⟨holds, valid, within, grows, _⟩
      exact holds.moves
        (EvidenceTarget.transfer_moves settling.close valid
          within grows (allowed target passed) now)
  | reportVerification =>
      refine Engine.guarded_moves (engine.observe now) ?_
      intro target passed
      rcases Engine.verificationTarget_ok passed with ⟨holds, valid, acked⟩
      exact holds.moves (EvidenceTarget.verification_moves settling.close
        valid acked (allowed target passed)
        (fun _ => settling.unprove _ _) now)
  | reportAmbiguous =>
      refine Engine.guarded_moves (engine.observe now) ?_
      intro target passed
      rcases Engine.ambiguityTarget_ok passed with ⟨holds, valid⟩
      exact holds.moves (AttemptTarget.recordAmbiguity_moves settling.close
        valid (allowed target passed) _ now (settling.unprove _ _))
  | recordDurabilityAssertion id assertion fence =>
      exact (@Engine.recordDurabilityAssertion_edits permits.calm engine now id
        assertion fence).moves
  | pollDeadlines =>
      exact .refl
  | beginShutdown =>
      exact (@Engine.beginShutdown_edits permits.calm engine).moves

include settling in
theorem Engine.body_edits
    (engine : Engine) (now : Nanos) (command : Command)
    (allowed : permits.Allow engine now command) :
    Edits permits (engine.entered now command)
      (engine.execute now command).2 :=
  (Engine.body_moves settling engine now command allowed).edits

/-- Every covered command is a sequence of moves. -/
theorem Engine.execute_moves
    (routine : permits.Routine) (engine : Engine) (now : Nanos)
    (command : Command) (allowed : permits.Allow engine now command) :
    Moves permits engine (engine.execute now command).2 :=
  (Engine.entered_moves routine engine now command).trans
    (Engine.body_moves routine.toSettling engine now command allowed)

/-- So it is a sequence of edits. -/
theorem Engine.execute_edits
    (routine : permits.Routine) (engine : Engine) (now : Nanos)
    (command : Command) (allowed : permits.Allow engine now command) :
    Edits permits engine (engine.execute now command).2 :=
  (Engine.execute_moves routine engine now command allowed).edits

end

/-! ## Passing time -/

/-- Sessions are annotated and settled, but nothing is admitted, granted,
evidenced or revived. -/
def idlePermits : Permits where
  policy := fun _ => False
  resume := fun _ => False
  renew := fun _ => False
  enroll := fun _ _ => False
  grant := fun _ => False
  verify := fun _ => False
  failVerification := fun _ => False
  truncate := fun _ => False
  abandon := fun _ => False
  acknowledge := fun _ => False
  blurShard := fun _ => False
  blurAttempt := fun _ => False

theorem idlePermits_routine : idlePermits.Routine :=
  { Permits.Routine.free with }

/-- Observing time only settles sessions. -/
theorem Engine.observe_idle (engine : Engine) (now : Nanos) :
    Edits idlePermits engine (engine.observe now) :=
  Engine.observe_edits idlePermits_routine engine now

/-- So does making room for a session. -/
theorem Engine.cleared_idle
    {request : SessionRequest}
    {plan : AdmissionPlan}
    (planned :
      (engine.observe now).admissionPlan now request fence = .ok plan)
    {shaper : RateShaper}
    (reserved :
      (engine.observe now).shaper.reservePathRate plan.path plan.rateBps =
        some shaper) :
    Edits idlePermits (engine.observe now)
      ((engine.observe now).drawn.makeRoom shaper now
        ((engine.observe now).newSession now request plan).id
        plan.targets) :=
  .head (.draw _) (.head (.reserve _ _ _ shaper reserved trivial)
    (Engine.makeRoom_edits idlePermits_routine.toSettling
      (engine.observe now).drawn shaper now
      ((engine.observe now).newSession now request plan).id
      (Engine.admissionPlan_ok planned).supersedable))

/-- Neither the deadlines nor the supersessions before an enrolment add a
session. -/
theorem Edits.sessions_of_idle
    {before : Engine} (edits : Edits idlePermits before after)
    (absent : id ∉ before.sessions) :
    id ∉ after.sessions := by
  intro known
  rcases Table.exists_lookup_of_mem known with ⟨session, found⟩
  refine absent (@Edits.forall_sessions _ (fun id _ => id ∈ before.sessions)
    _ _ edits (fun _ _ _ _ member => member)
    (fun _ _ _ permitted => permitted.elim) ?_ id session found)
  exact fun _ _ stored => Table.mem_of_lookup stored

end TrafficFabric
