import TrafficFabric.Engine.Meters
import TrafficFabric.Engine.Observation
import TrafficFabric.Engine.Release

/-!
# Counting attempts in flight

Each session counts its attempts in flight, and the engine counts those of
all sessions; the latter count is tested against `max_attempts_in_flight`
before a grant.  The counters follow the attempts as long as no report
settles an attempt twice and the history bound drops no attempt in flight.
-/

namespace TrafficFabric

open Foundation

/-- The counter of the session is the number of its attempts in flight, and
a terminal session has none. -/
structure SessionRecord.Counted (session : SessionRecord) : Prop where
  tracking : session.Tracking
  counted : session.activeAttempts.toNat = session.inFlight
  quiet : isTerminal session.state = true → session.inFlight = 0
  resumable : isTerminal session.pausedFrom = false

/-- The counter of attempts in flight. -/
def attemptMeter : Meter where
  reading := fun activity => activity.attempts.toNat
  measure := fun session => session.activeAttempts.toNat

/-- A report on the attempt does not count it as settled twice. -/
def EvidenceTarget.SettlesOnce (target : EvidenceTarget) : Prop :=
  target.attempt.outstanding = true ∨ target.focus.session.activeAttempts = 0

instance (target : EvidenceTarget) : Decidable target.SettlesOnce :=
  inferInstanceAs (Decidable (_ ∨ _))

/-- Grants carry new identities, spare the attempts in flight and stay below
a bound, and reports settle attempts once. -/
def inFlightPermits (bound : UInt32) : Permits where
  grant := fun target =>
    (target.Unused ∧ target.Spares) ∧
      target.focus.engine.accounting.activeAttempts < bound
  acknowledge := EvidenceTarget.SettlesOnce
  blurShard := EvidenceTarget.SettlesOnce

theorem inFlightPermits_routine (bound : UInt32) :
    (inFlightPermits bound).Routine :=
  { Permits.Routine.free with }

theorem inFlightPermits_unused
    {bound : UInt32} (target : ShardTarget)
    (permitted : (inFlightPermits bound).grant target) : target.Unused :=
  permitted.1.1

theorem inFlightPermits_spares
    {bound : UInt32} (target : ShardTarget)
    (permitted : (inFlightPermits bound).grant target) : target.Spares :=
  permitted.1.2

/-! ## Changes -/

section

variable {bound : UInt32} {before after : Focus}

/-- A report that drops nothing. -/
theorem Focus.DropsOne.of_none
    (drops : before.DropsOne after)
    (none : before.session.activeAttempts = 0) :
    after.session.activeAttempts = before.session.activeAttempts ∧
      after.engine.accounting.activeAttempts =
        before.engine.accounting.activeAttempts := by
  have same : before.dropActiveAttempt = before := by
    unfold Focus.dropActiveAttempt
    rw [none, if_neg (by decide)]
  rcases drops with ⟨active, total⟩
  rw [same] at active total
  exact ⟨active, total⟩

/-- A report that drops one of several. -/
theorem Focus.DropsOne.of_some
    (drops : before.DropsOne after)
    (some_ : 0 < before.session.activeAttempts.toNat)
    (covered :
      before.session.activeAttempts.toNat ≤
        before.engine.accounting.activeAttempts.toNat) :
    after.session.activeAttempts.toNat + 1 =
        before.session.activeAttempts.toNat ∧
      after.engine.accounting.activeAttempts.toNat + 1 =
        before.engine.accounting.activeAttempts.toNat := by
  have positive : 0 < before.session.activeAttempts :=
    UInt32.lt_iff_toNat_lt.mpr some_
  have lower (count : UInt32) (fits : 0 < count.toNat) :
      (count - 1).toNat + 1 = count.toNat := by
    have one : (1 : UInt32).toNat ≤ count.toNat := fits
    rw [UInt32.toNat_sub_of_le _ _ (UInt32.le_iff_toNat_le.mpr one)]
    exact Nat.sub_add_cancel fits
  rcases drops with ⟨active, total⟩
  unfold Focus.dropActiveAttempt at active total
  rw [if_pos positive] at active total
  rw [active, total]
  exact ⟨lower _ some_, lower _ (some_.trans_le covered)⟩

/-- What a change does to the attempts in flight and both counters. -/
theorem Focus.AttemptMove.exact_
    (move : Focus.AttemptMove (inFlightPermits bound) before after)
    (counted :
      before.session.activeAttempts.toNat = before.session.inFlight)
    (covered :
      before.session.activeAttempts.toNat ≤
        before.engine.accounting.activeAttempts.toNat) :
    after.session.activeAttempts.toNat = after.session.inFlight ∧
      after.engine.accounting.activeAttempts.toNat +
          before.session.activeAttempts.toNat =
        before.engine.accounting.activeAttempts.toNat +
          after.session.activeAttempts.toNat ∧
      (after.engine.accounting.activeAttempts.toNat ≤
          before.engine.accounting.activeAttempts.toNat ∨
        after.engine.accounting.activeAttempts.toNat ≤ bound.toNat) := by
  cases move with
  | kept count active total =>
      rw [active, total, count]
      exact ⟨counted, rfl, .inl le_rfl⟩
  | cleared count active total =>
      have lowered := UInt32.toNat_sub_of_le _ _
        (UInt32.le_iff_toNat_le.mpr covered)
      have zero : (0 : UInt32).toNat = 0 := rfl
      rw [active, total, count, lowered, zero]
      omega
  | settled _ drops =>
      have moved := drops.of_some (by omega) covered
      omega
  | resettled target own quiet permitted count drops =>
      have once : target.SettlesOnce := permitted.elim id id
      have none : before.session.activeAttempts = 0 := by
        rcases once with outstanding | none
        · rw [quiet] at outstanding
          cases outstanding
        · rw [← own]
          exact none
      rcases drops.of_none none with ⟨active, total⟩
      rw [active, total, count]
      exact ⟨counted, rfl, .inl le_rfl⟩
  | granted target own permitted count active total =>
      subst own
      have below : target.focus.engine.accounting.activeAttempts < bound :=
        And.right permitted
      have raised := Counter.toNat_raise below
      have own : target.focus.session.activeAttempts < bound :=
        UInt32.lt_iff_toNat_lt.mpr
          (covered.trans_lt (UInt32.lt_iff_toNat_lt.mp below))
      have ordered := UInt32.lt_iff_toNat_lt.mp below
      rw [active, total, count, raised, Counter.toNat_raise own]
      omega

theorem Change.counted
    (change : Change (inFlightPermits bound) before after)
    (counted : before.session.Counted)
    (covered :
      before.session.activeAttempts.toNat ≤
        before.engine.accounting.activeAttempts.toNat) :
    after.session.Counted := by
  have move := Change.attemptMove inFlightPermits_spares change
  have exact_ := (move.exact_ counted.counted covered).1
  refine ⟨?_, exact_, ?_, change.resumable counted.resumable⟩
  · exact Change.tracking inFlightPermits_unused change counted.tracking
  · intro terminal
    cases change.ending counted.resumable terminal with
    | kept already attempts =>
        unfold SessionRecord.inFlight
        rw [attempts]
        exact counted.quiet already
    | closed middle state reason detail now same =>
        rw [same]
        exact SessionRecord.inFlight_of_quiet
          (middle.closeAs_quiet state reason detail now).2
    | completed _ complete same =>
        rw [same, Focus.completeSession_session]
        exact SessionRecord.inFlight_of_quiet
          (counted.tracking.quiet_of_reached
            (Focus.reached_of_isComplete complete))

theorem SessionRecord.Admitted.counted
    {session : SessionRecord} (admitted : session.Admitted) :
    session.Counted := by
  have releasing := admitted.releasing
  rcases admitted with ⟨engine, now, request, plan, _, rfl⟩
  exact ⟨releasing.tracking, rfl, fun _ => rfl, releasing.resumable⟩

theorem Engine.enroll_activeAttempts
    (engine : Engine) (session : SessionRecord) :
    (engine.enroll session).accounting.activeAttempts =
      engine.accounting.activeAttempts := by
  unfold Engine.enroll Engine.indexDeadline
  dsimp only
  split <;> rfl

theorem attemptMeter_follows (bound : UInt32) :
    attemptMeter.Follows SessionRecord.Counted (inFlightPermits bound) where
  change := by
    intro before after change counted covered
    refine ⟨change.counted counted covered, ?_⟩
    exact ((Change.attemptMove inFlightPermits_spares change).exact_
      counted.counted covered).2.1
  terminal := by
    intro session counted terminal
    exact counted.counted.trans (counted.quiet terminal)
  enroll := by
    intro engine session admitted _
    have none : session.activeAttempts = 0 := by
      rcases admitted with ⟨_, _, _, _, _, rfl⟩
      rfl
    refine ⟨admitted.counted, fun _ => congrArg UInt32.toNat none, ?_⟩
    change (engine.enroll session).accounting.activeAttempts.toNat =
      engine.accounting.activeAttempts.toNat + session.activeAttempts.toNat
    rw [engine.enroll_activeAttempts, none]
    rfl
  blank := rfl

end

/-! ## Runs -/

/-- The meter is exact and below the bound. -/
structure Engine.Bounded (bound : UInt32) (engine : Engine) : Prop where
  metered : Meter.Exact.With attemptMeter SessionRecord.Counted engine
  below : engine.accounting.activeAttempts ≤ bound

theorem Edit.bounded
    {bound : UInt32} {before after : Engine}
    (edit : Edit (inFlightPermits bound) before after)
    (bounded : before.Bounded bound) : after.Bounded bound := by
  have metered := Meter.Exact.With.edit (attemptMeter_follows bound) edit
    bounded.metered
  refine ⟨metered, ?_⟩
  cases edit with
  | housekeeping _ _ same =>
      rw [same.accounts.activeAttempts]
      exact bounded.below
  | enroll =>
      rw [Engine.enroll_activeAttempts]
      exact bounded.below
  | @change first second live performed =>
      have stored := Focus.lookup_commit_self live
      have counted := bounded.metered.sessions _ _ stored
      have covered := Table.le_total attemptMeter.measure stored
      rw [← bounded.metered.exact_] at covered
      have below := UInt32.le_iff_toNat_le.mp bounded.below
      have moved := (Change.attemptMove inFlightPermits_spares
        performed).exact_ counted.counted covered
      refine UInt32.le_iff_toNat_le.mpr ?_
      exact moved.2.2.elim (fun lower => lower.trans below) id
  | prune =>
      rw [Engine.pruneHistory_eq]
      exact bounded.below
  | _ =>
      exact bounded.below

/-- A grant carries an identity that is new to its session and pushes no
attempt in flight out of the history; acknowledgements and ambiguous verdicts
settle no attempt a second time. -/
def InFlightCondition (engine : Engine) (now : Nanos) : Command → Prop
  | .requestWave id index fence =>
      ∀ focus, (engine.observe now).creditHolder now id fence = .ok focus →
        ∀ target, Engine.waveTarget focus index fence = .ok target →
          target.Unused ∧ target.Spares
  | .reportTransfer evidence fence =>
      ∀ target,
        (engine.observe now).transferTarget evidence fence = .ok target →
        evidence.sinkAcknowledged = true → target.SettlesOnce
  | .reportVerification evidence fence =>
      ∀ target,
        (engine.observe now).verificationTarget evidence fence =
          .ok target →
        evidence.outcome = .ambiguous ∨ evidence.outcome = .rejected →
        target.SettlesOnce
  | _ => True

instance (engine : Engine) (now : Nanos) :
    ∀ command, Decidable (InFlightCondition engine now command) := by
  intro command
  apply @Command.casesOn
      (fun command => Decidable (InFlightCondition engine now command)) command <;>
    intros <;> unfold InFlightCondition <;> infer_instance

theorem inFlightPermits_allow
    {bound : UInt32} (engine : Engine) (now : Nanos) (command : Command)
    (ordinary : ∀ snapshot, command ≠ .restore snapshot)
    (condition :
      InFlightCondition engine now command ∧
        engine.policy.maxAttemptsInFlight ≤ bound) :
    (inFlightPermits bound).Allow engine now command := by
  refine Permits.Grounds.allow ?_ ordinary
  exact { Permits.Grounds.free engine now command with
    grant := by
      rintro id index fence focus target rfl passed available found
      refine ⟨condition.1 focus passed target found, ?_⟩
      rw [(Engine.waveTarget_ok found).1,
        (Engine.creditHolder_ok passed).1.engine]
      have policy := congrArg Authority.policy (engine.observe_authority now)
      rw [show (engine.observe now).policy = engine.policy from policy]
        at available
      exact UInt32.lt_of_lt_of_le available condition.2
    acknowledge := by
      rintro evidence fence target rfl passed acknowledged
      exact condition.1 target passed acknowledged
    blurShard := by
      rintro evidence fence target rfl passed outcome
      exact condition.1 target passed outcome }

/-- Along runs that meet the condition, every session counts its attempts in
flight and the engine counts them all, never more than the largest
`max_attempts_in_flight` in force. -/
theorem attempts_in_flight_are_counted
    {bound : UInt32} {config : EngineConfig} {boot : Nanos}
    {history : List Event} {engine : Engine}
    (run :
      ConditionedRun
        (fun engine now command =>
          InFlightCondition engine now command ∧
            engine.policy.maxAttemptsInFlight ≤ bound)
        config boot history engine) :
    (∀ id session, engine.sessions.lookup id = some session →
        session.activeAttempts.toNat =
          session.attempts.countP (fun attempt => attempt.outstanding)) ∧
      engine.accounting.activeAttempts.toNat =
        engine.sessions.total (fun session =>
          session.attempts.countP (fun attempt => attempt.outstanding)) ∧
      engine.sessions.total (fun session =>
          session.attempts.countP (fun attempt => attempt.outstanding)) ≤
        bound.toNat := by
  have bounded : engine.Bounded bound := by
    refine ConditionedRun.invariant
      (inFlightPermits_routine _) inFlightPermits_allow
      (fun _ _ edit bounded => edit.bounded bounded) ?_ ?_ run
    · intro state sessions contracts same _ bounded
      exact ⟨bounded.metered.rehash same contracts, bounded.below⟩
    · refine ⟨Meter.Exact.With.initial (attemptMeter_follows bound) config
        boot, ?_⟩
      rw [(Engine.construct_blank config boot).2.1]
      exact UInt32.le_iff_toNat_le.mpr (Nat.zero_le _)
  have counted (id session) (found : engine.sessions.lookup id = some session) :
      session.activeAttempts.toNat = session.inFlight :=
    (bounded.metered.sessions id session found).counted
  have total :
      engine.accounting.activeAttempts.toNat =
        engine.sessions.total SessionRecord.inFlight :=
    bounded.metered.exact_.trans (Table.total_congr counted)
  refine ⟨counted, total, ?_⟩
  exact total.ge.trans (UInt32.le_iff_toNat_le.mp bounded.below)

/-- Two shards of one byte are granted. -/
def twoGrantsScript : List (Nanos × Command) :=
  [(1, .submitSession (Sample.request 2 [1, 1]) (Sample.fence 1)),
    (2, .requestWave ⟨Sample.drawn 0⟩ ⟨0⟩ (Sample.fence 1)),
    (3, .requestWave ⟨Sample.drawn 0⟩ ⟨1⟩ (Sample.fence 1))]

/-- An acknowledgement repeated while another shard is in flight. -/
def repeatedArrivalScript : List (Nanos × Command) :=
  twoGrantsScript ++
    [(4, .reportTransfer (Sample.arrival 1 1 0 1) (Sample.fence 1)),
      (5, .reportTransfer (Sample.arrival 1 1 0 1) (Sample.fence 1))]

theorem inFlightScripts_evaluated :
    (ScriptMeets
         (fun engine now command =>
           InFlightCondition engine now command ∧
             engine.policy.maxAttemptsInFlight ≤
               Sample.config.policy.maxAttemptsInFlight)
         (Engine.construct Sample.config 0) twoGrantsScript ∧
       ((Engine.construct Sample.config 0).executeAll
         twoGrantsScript).2.accounting.activeAttempts = 2) ∧
      ((((Engine.construct Sample.config 0).executeAll
         repeatedArrivalScript).2.sessions.lookup ⟨Sample.drawn 0⟩).any
           (fun session =>
             session.activeAttempts = 0 ∧
               session.attempts.countP (fun attempt => attempt.outstanding) =
                 1) = true) := by
  decide +kernel

/-- Two grants are two attempts in flight. -/
theorem attempts_in_flight_are_counted_after_grants :
    let engine :=
      ((Engine.construct Sample.config 0).executeAll twoGrantsScript).2
    engine.accounting.activeAttempts = 2 ∧
      engine.accounting.activeAttempts.toNat =
        engine.sessions.total (fun session =>
          session.attempts.countP (fun attempt => attempt.outstanding)) :=
  have evaluated := inFlightScripts_evaluated.1
  ⟨evaluated.2, (attempts_in_flight_are_counted
    (Engine.executeAll_conditioned _ evaluated.1)).2.1⟩

/-- The repeated acknowledgement is counted against the other shard. -/
theorem repeated_acknowledgement_uncounts_attempt :
    ∃ history engine session,
      EngineRun Sample.config 0 history engine ∧
        (∀ event ∈ history, event.restores = false) ∧
        engine.sessions.lookup ⟨Sample.drawn 0⟩ = some session ∧
        session.activeAttempts = 0 ∧
        session.attempts.countP (fun attempt => attempt.outstanding) = 1 := by
  have reached := inFlightScripts_evaluated.2
  rcases (Option.any_eq_true _ _).mp reached with ⟨session, found, holds⟩
  rw [decide_eq_true_iff] at holds
  refine ⟨_, _, session, Engine.executeAll_run _ repeatedArrivalScript, ?_,
    found, holds.1, holds.2⟩
  simp [Engine.executeAll, repeatedArrivalScript, twoGrantsScript,
    Event.restores]

end TrafficFabric
