import TrafficFabric.Engine.Tracking
import TrafficFabric.Engine.Settlement

/-!
# What a terminal session holds

A session that ends gives up its outstanding bytes, its attempts in flight
and its path reservation.  Completion clears the bytes but not the attempts:
it relies on there being none, which the history bound and failed
verifications can spoil.
-/

namespace TrafficFabric

open Foundation

variable {permits : Permits} {before after focus : Focus}

/-- The session holds no authority. -/
structure SessionRecord.Released (session : SessionRecord) : Prop where
  outstanding : session.outstandingBytes = 0
  active : session.activeAttempts = 0
  attempts : ∀ attempt ∈ session.attempts, attempt.outstanding = false
  reservation : session.reservedPath = none

/-- A terminal session is released; until then its counter covers no more
attempts than are in flight. -/
structure SessionRecord.Releasing (session : SessionRecord) : Prop where
  tracking : session.Tracking
  counted : session.activeAttempts.toNat ≤ session.inFlight
  released : isTerminal session.state = true → session.Released
  resumable : isTerminal session.pausedFrom = false

/-- Sessions are enrolled for known contracts, attempts have new identities
and push none in flight out of the history, and a verification fails only
sessions without outstanding bytes. -/
def releasePermits : Permits where
  enroll := fun engine session =>
    session.request.workload ∈ engine.contracts
  grant := fun target => target.Unused ∧ target.Spares
  failVerification := fun target => target.focus.session.outstandingBytes = 0

/-! ## Counters -/

theorem Focus.dropActiveAttempt_toNat (focus : Focus) :
    focus.dropActiveAttempt.session.activeAttempts.toNat =
      focus.session.activeAttempts.toNat - 1 := by
  rw [Focus.dropActiveAttempt_session]
  exact Counter.toNat_lower _

/-- The counter of a session never runs ahead of its attempts in flight. -/
theorem Focus.AttemptMove.counted
    (move : Focus.AttemptMove permits before after)
    (counted :
      before.session.activeAttempts.toNat ≤ before.session.inFlight) :
    after.session.activeAttempts.toNat ≤ after.session.inFlight := by
  have dropped := before.dropActiveAttempt_toNat
  cases move with
  | kept count active =>
      rw [count, active]
      exact counted
  | cleared _ active =>
      rw [active]
      exact Nat.zero_le _
  | settled _ drops =>
      rw [drops.1]
      omega
  | resettled _ _ _ _ _ drops =>
      rw [drops.1]
      omega
  | granted _ _ _ count active =>
      rw [count, active, UInt32.toNat_add]
      exact (Nat.mod_le _ _).trans (Nat.add_le_add_right counted 1)

/-! ## Changes -/

theorem Focus.closeAs_released
    (state : SessionState) (reason : ReasonCode)
    (detail : Text) (now : Nanos)
    (empty : focus.session.outstandingBytes = 0) :
    (focus.closeAs state reason detail now).session.Released := by
  have quiet := (focus.closeAs_quiet state reason detail now).2
  rw [Focus.closeAs_session] at quiet ⊢
  exact ⟨empty, rfl, quiet, rfl⟩

/-- A complete session has no attempt in flight, so its counter is zero. -/
theorem Focus.completeSession_released
    (now : Nanos) (releasing : focus.session.Releasing)
    (complete : focus.isComplete = true) :
    (focus.completeSession now).session.Released := by
  have quiet := releasing.tracking.quiet_of_reached
    (Focus.reached_of_isComplete complete)
  have none := SessionRecord.inFlight_of_quiet quiet
  have counted := releasing.counted
  rw [none] at counted
  rw [Focus.completeSession_session]
  refine ⟨rfl, ?_, quiet, rfl⟩
  rw [← UInt32.toNat_inj]
  exact Nat.le_zero.mp counted

/-- A session is only paused in a state it can return to. -/
theorem Change.resumable
    (change : Change permits before after)
    (resumable : isTerminal before.session.pausedFrom = false) :
    isTerminal after.session.pausedFrom = false := by
  cases change with
  | annotate _ _ noted =>
      rw [noted.session]
      exact resumable
  | close | closeAbandoned | closeMismatched =>
      rw [Focus.closeAs_session]
      exact resumable
  | unreserve =>
      rw [Focus.releasePathReservation_session]
      exact resumable
  | suspend _ active =>
      exact active
  | acknowledge =>
      rw [EvidenceTarget.acknowledge_session]
      exact resumable
  | truncate =>
      rw [EvidenceTarget.truncate_session]
      exact resumable
  | blurShard =>
      rw [EvidenceTarget.blur_session]
      exact resumable
  | blurAttempt =>
      rw [AttemptTarget.blur_session]
      exact resumable
  | complete =>
      rw [Focus.completeSession_session]
      exact resumable
  | _ =>
      exact resumable

/-- How a session comes to be terminal after a change. -/
inductive Focus.Ending
    (permits : Permits) (before after : Focus) : Prop
  | kept
      (terminal : isTerminal before.session.state = true)
      (attempts : after.session.attempts = before.session.attempts)
      (active :
        after.session.activeAttempts = before.session.activeAttempts)
      (outstanding :
        after.session.outstandingBytes.toNat ≤
          before.session.outstandingBytes.toNat)
      (reservation :
        before.session.reservedPath = none →
          after.session.reservedPath = none)
  | closed (middle : Focus) (state : SessionState) (reason : ReasonCode)
      (detail : Text) (now : Nanos)
      (same : after = middle.closeAs state reason detail now)
      (outstanding :
        middle.session.outstandingBytes = before.session.outstandingBytes)
      (settled :
        before.session.outstandingBytes = 0 ∨
          before.engine.contracts.lookup before.session.request.workload =
            none ∨
          ∃ target : EvidenceTarget,
            target.focus = before ∧ permits.failVerification target)
  | completed (now : Nanos) (complete : before.isComplete = true)
      (same : after = before.completeSession now)

theorem Change.ending
    (change : Change permits before after)
    (resumable : isTerminal before.session.pausedFrom = false)
    (terminal : isTerminal after.session.state = true) :
    Focus.Ending permits before after := by
  cases change with
  | annotate _ _ noted =>
      rw [noted.state] at terminal
      refine .kept terminal ?_ ?_ ?_ ?_
      all_goals rw [noted.session]
      exact id
  | unprove _ bytes =>
      refine .kept terminal rfl rfl ?_ id
      rw [(before.markUnproven_toNat bytes).1]
      exact Nat.sub_le _ _
  | close _ state reason detail now _ _ settled =>
      exact .closed before state reason detail now rfl rfl (.inl settled)
  | closeAbandoned _ reason detail now _ settled =>
      refine .closed before.abandon .failed reason detail now rfl rfl ?_
      exact settled.imp id .inl
  | closeMismatched target reason detail now _ permitted =>
      exact .closed target.markFailed .failed reason detail now rfl rfl
        (.inr (.inr ⟨target, rfl, permitted⟩))
  | unreserve =>
      rw [Focus.releasePathReservation_session] at terminal
      refine .kept terminal ?_ ?_ ?_ ?_
      all_goals rw [Focus.releasePathReservation_session]
      exact fun _ => rfl
  | reinstate =>
      exact isTerminal_elim resumable terminal
  | charge _ _ _ _ grantable =>
      refine isTerminal_elim ?_ terminal
      dsimp only [ShardTarget.charge, ShardTarget.grantedSession]
      split
      · rfl
      · exact grantable.active
  | acknowledge _ _ _ valid =>
      rw [EvidenceTarget.acknowledge_session] at terminal
      exact isTerminal_elim valid.active terminal
  | truncate _ valid =>
      rw [EvidenceTarget.truncate_session] at terminal
      exact isTerminal_elim valid.active terminal
  | blurShard _ valid =>
      rw [EvidenceTarget.blur_session] at terminal
      exact isTerminal_elim valid.active terminal
  | blurAttempt _ _ valid =>
      rw [AttemptTarget.blur_session] at terminal
      exact isTerminal_elim valid.active terminal
  | flagSource _ _ valid =>
      exact isTerminal_elim valid.active terminal
  | sight _ _ _ _ valid =>
      exact isTerminal_elim valid.active terminal
  | verify _ _ valid =>
      exact isTerminal_elim valid.active terminal
  | progress _ active =>
      exact isTerminal_elim (before.session.derivedState_active active)
        terminal
  | complete _ now complete =>
      exact .completed now complete rfl
  | cancelOutstanding _ active =>
      exact isTerminal_elim active terminal
  | withdraw | rearm | postpone | renew | suspend =>
      exact isTerminal_elim rfl terminal

/-- What ends a session releases it. -/
theorem Change.released
    {before after : Focus} (change : Change releasePermits before after)
    (releasing : before.session.Releasing)
    (contracted :
      before.session.request.workload ∈ before.engine.contracts)
    (terminal : isTerminal after.session.state = true) :
    after.session.Released := by
  cases change.ending releasing.resumable terminal with
  | kept already attempts active outstanding reservation =>
      have released := releasing.released already
      rw [released.outstanding] at outstanding
      refine ⟨?_, active.trans released.active, ?_,
        reservation released.reservation⟩
      · rw [← UInt64.toNat_inj]
        exact Nat.le_zero.mp outstanding
      · rw [attempts]
        exact released.attempts
  | closed _ state reason detail now same outstanding settled =>
      rw [same]
      refine Focus.closeAs_released state reason detail now ?_
      rw [outstanding]
      rcases settled with empty | unknown | ⟨target, rfl, empty⟩
      · exact empty
      · exact (AList.lookup_eq_none.mp unknown contracted).elim
      · exact empty
  | completed now complete same =>
      rw [same]
      exact Focus.completeSession_released now releasing complete

theorem Change.releasing
    (change : Change releasePermits before after)
    (contracted :
      before.session.request.workload ∈ before.engine.contracts)
    (releasing : before.session.Releasing) :
    after.session.Releasing where
  tracking := by
    refine Change.tracking ?_ change releasing.tracking
    exact fun target permitted => And.left permitted
  counted := by
    refine (Change.attemptMove ?_ change).counted releasing.counted
    exact fun target permitted => And.right permitted
  released := change.released releasing contracted
  resumable := change.resumable releasing.resumable

theorem SessionRecord.Admitted.releasing
    {session : SessionRecord} (admitted : session.Admitted) :
    session.Releasing := by
  have tracking := admitted.tracking
  rcases admitted with ⟨engine, now, request, plan, _, rfl⟩
  exact ⟨tracking, Nat.zero_le _, isTerminal_elim rfl, rfl⟩

/-! ## Runs -/

/-- The identity of a new attempt is new to its session, the grant pushes no
attempt in flight out of the history, and a report that fails a session finds
nothing outstanding. -/
def ReleaseCondition (engine : Engine) (now : Nanos) : Command → Prop
  | .requestWave id index fence =>
      ∀ focus, (engine.observe now).creditHolder now id fence = .ok focus →
        ∀ target, Engine.waveTarget focus index fence = .ok target →
          target.Unused ∧ target.Spares
  | .reportVerification evidence fence =>
      ∀ target,
        (engine.observe now).verificationTarget evidence fence =
          .ok target →
        evidence.Fails target.shard →
        target.focus.session.outstandingBytes = 0
  | _ => True

instance (engine : Engine) (now : Nanos) :
    ∀ command, Decidable (ReleaseCondition engine now command) := by
  intro command
  apply @Command.casesOn
      (fun command => Decidable (ReleaseCondition engine now command)) command <;>
    intros <;> unfold ReleaseCondition <;> infer_instance

theorem releasePermits_allow
    (engine : Engine) (now : Nanos) (command : Command)
    (ordinary : ∀ snapshot, command ≠ .restore snapshot)
    (condition : ReleaseCondition engine now command) :
    releasePermits.Allow engine now command := by
  refine Permits.Grounds.allow ?_ ordinary
  exact { Permits.Grounds.free engine now command with
    enroll := by
      rintro request fence plan shaper rfl planned reserved
      exact Edits.contracts (Engine.cleared_idle planned reserved)
        (Table.mem_of_lookup (Engine.admissionPlan_ok planned).contract)
    grant := by
      rintro id index fence focus target rfl passed _ found
      exact condition focus passed target found
    failVerification := by
      rintro evidence fence target rfl passed fails
      exact condition target passed fails }

/-- Along runs that meet the condition, a terminal session holds no
authority. -/
theorem terminal_sessions_are_released
    {config : EngineConfig} {boot : Nanos} {history : List Event}
    {engine : Engine}
    (run : ConditionedRun ReleaseCondition config boot history engine) :
    ∀ id session, engine.sessions.lookup id = some session →
      isTerminal session.state = true →
      session.outstandingBytes = 0 ∧ session.activeAttempts = 0 ∧
        (∀ attempt ∈ session.attempts, attempt.outstanding = false) ∧
        session.reservedPath = none := by
  intro id session found terminal
  have releasing := @ConditionedRun.contractedSessions _ releasePermits
    SessionRecord.Releasing {}
    releasePermits_allow (fun _ _ permitted => permitted)
    (fun _ _ change => change.releasing)
    (fun _ admitted => admitted.releasing) _ _ _ _ run id session found
  have released := releasing.released terminal
  exact ⟨released.outstanding, released.active, released.attempts,
    released.reservation⟩

/-- The first of two shards of one byte is granted and arrives; the
destination then reports that it does not match. -/
def mismatchScript : List (Nanos × Command) :=
  [(1, .submitSession (Sample.request 2 [1, 1]) (Sample.fence 1)),
    (2, .requestWave ⟨Sample.drawn 0⟩ ⟨0⟩ (Sample.fence 1)),
    (3, .reportTransfer (Sample.arrival 1 1 0 1) (Sample.fence 1)),
    (4, .reportVerification (Sample.verdict 1 1 0 1 .digestMismatch)
      (Sample.fence 1))]

theorem releaseScripts_evaluated :
    (ScriptMeets ReleaseCondition (Engine.construct Sample.config 0)
         (deliveryScript 2) ∧
       (((Engine.construct Sample.config 0).executeAll
         (deliveryScript 2)).2.sessions.lookup ⟨Sample.drawn 0⟩).map
           (fun session => session.state) =
         some .trafficSessionComplete) ∧
      ((((Engine.construct Sample.config 0).executeAll
         mismatchScript).2.sessions.lookup ⟨Sample.drawn 0⟩).any
           (fun session =>
             session.state = .failed ∧ session.outstandingBytes = 1) =
         true) := by
  decide +kernel

/-- A delivery of both bytes meets the condition and completes the session. -/
theorem terminal_sessions_are_released_on_delivery :
    let engine :=
      ((Engine.construct Sample.config 0).executeAll (deliveryScript 2)).2
    (engine.sessions.lookup ⟨Sample.drawn 0⟩).map
        (fun session => session.state) = some .trafficSessionComplete ∧
      ∀ id session, engine.sessions.lookup id = some session →
        isTerminal session.state = true →
        session.outstandingBytes = 0 ∧ session.activeAttempts = 0 ∧
          (∀ attempt ∈ session.attempts, attempt.outstanding = false) ∧
          session.reservedPath = none :=
  have evaluated := releaseScripts_evaluated.1
  ⟨evaluated.2, terminal_sessions_are_released
    (Engine.executeAll_conditioned _ evaluated.1)⟩

/-- A mismatch of one shard fails the session and leaves it the byte of the
other one. -/
theorem failed_session_holds_outstanding_bytes :
    ∃ history engine session,
      EngineRun Sample.config 0 history engine ∧
        (∀ event ∈ history, event.restores = false) ∧
        engine.sessions.lookup ⟨Sample.drawn 0⟩ = some session ∧
        session.state = .failed ∧ session.outstandingBytes = 1 := by
  have reached := releaseScripts_evaluated.2
  rcases (Option.any_eq_true _ _).mp reached with ⟨session, found, holds⟩
  rw [decide_eq_true_iff] at holds
  refine ⟨_, _, session, Engine.executeAll_run _ mismatchScript, ?_, found,
    holds.1, holds.2⟩
  simp [Engine.executeAll, mismatchScript, Event.restores]

end TrafficFabric
