import TrafficFabric.Engine.Identities
import TrafficFabric.Engine.Meters
import TrafficFabric.Engine.Release

/-!
# Counting active sessions

The fabric-wide counter and those of the isolation classes and workloads gate
admission.  `note_terminal` lowers them for a session that is about to become
terminal; a caller that sets the terminal state first is not noticed.
-/

namespace TrafficFabric

open Foundation

variable {session : SessionRecord} {before after : Focus} {permits : Permits}

/-! ## Gauges -/

/-- What the counters of active sessions are kept for. -/
inductive Gauge where
  | fabric
  | isolation (isolation : IsolationClass)
  | workload (workload : WorkloadId)

namespace Gauge

def reading : Gauge → Population → Nat
  | .fabric, population => population.sessions.toNat
  | .isolation own, population => (population.classes own).toNat
  | .workload own, population =>
      (population.workloads.findD own 0).toNat

def covers : Gauge → SessionRecord → Bool
  | .fabric, _ => true
  | .isolation own, session => session.envelope.isolation = own
  | .workload own, session => session.request.workload = own

/-- The sessions a gauge counts. -/
def counts (gauge : Gauge) (session : SessionRecord) : Bool :=
  !isTerminal session.state && gauge.covers session

def meter (gauge : Gauge) : Meter where
  reading := fun activity => gauge.reading activity.toPopulation
  measure := fun session => (gauge.counts session).toNat

theorem meter_reading (gauge : Gauge) (engine : Engine) :
    gauge.meter.reading engine.activity = gauge.reading engine.population :=
  rfl

theorem meter_measure (gauge : Gauge) (session : SessionRecord) :
    gauge.meter.measure session = (gauge.counts session).toNat :=
  rfl

theorem counts_of_active
    (gauge : Gauge)
    (active : isTerminal session.state = false) :
    gauge.counts session = gauge.covers session := by
  unfold counts
  rw [active]
  rfl

theorem counts_of_terminal
    (gauge : Gauge)
    (terminal : isTerminal session.state = true) :
    gauge.counts session = false := by
  unfold counts
  rw [terminal]
  rfl

end Gauge

/-! ## Raising and lowering -/

section

variable (engine : Engine) (session : SessionRecord)

theorem Engine.deactivate_workloads (workload : WorkloadId) :
    ((engine.deactivate session).workloadActive.findD workload 0).toNat =
      (engine.workloadActive.findD workload 0).toNat -
        (decide (session.request.workload = workload)).toNat := by
  dsimp only [Engine.deactivate]
  by_cases own : session.request.workload = workload
  · subst own
    rw [decide_eq_true rfl]
    unfold Table.findD
    cases found : engine.workloadActive.lookup session.request.workload with
    | none =>
        dsimp only
        rw [found]
        rfl
    | some count =>
        have lowered := Counter.toNat_lower count
        dsimp only [Option.getD_some]
        generalize (if 0 < count then count - 1 else count) = rest
          at lowered ⊢
        split
        · rename_i zero
          rw [zero] at lowered
          rw [AList.lookup_erase]
          exact lowered
        · rw [Table.lookup_replace_self (Table.mem_of_lookup found)]
          exact lowered
  · rw [decide_eq_false own]
    have others : workload ≠ session.request.workload := Ne.symm own
    unfold Table.findD
    cases engine.workloadActive.lookup session.request.workload with
    | none =>
        rfl
    | some count =>
        dsimp only
        generalize (if 0 < count then count - 1 else count) = rest
        split
        · rw [AList.lookup_erase_ne others]
          rfl
        · rw [Table.lookup_replace_ne others]
          rfl

/-- Noting the end of a session lowers the counters that cover it. -/
theorem Engine.deactivate_reading (gauge : Gauge) :
    gauge.reading (engine.deactivate session).population =
      gauge.reading engine.population - (gauge.covers session).toNat := by
  cases gauge with
  | fabric =>
      exact Counter.toNat_lower _
  | isolation own =>
      dsimp only [Gauge.reading, Gauge.covers, Engine.population,
        Engine.activity, Engine.deactivate]
      by_cases same : session.envelope.isolation = own
      · rw [decide_eq_true same]
        simp only [same, true_and]
        exact Counter.toNat_lower _
      · rw [decide_eq_false same, if_neg (fun both => same both.1.symm)]
        rfl
  | workload own =>
      exact engine.deactivate_workloads session own

/-- The counters that cover the session can be raised. -/
structure Engine.HasRoom : Prop where
  fabric : ∃ bound, engine.accounting.activeSessions < bound
  isolation : ∃ bound, engine.classActive session.envelope.isolation < bound
  workload :
    ∃ bound,
      engine.workloadActive.findD session.request.workload 0 < bound

/-- Activating a session raises the counters that cover it. -/
theorem Engine.activate_reading
    (room : engine.HasRoom session) (gauge : Gauge) :
    gauge.reading (engine.activate session).population =
      gauge.reading engine.population + (gauge.covers session).toNat := by
  cases gauge with
  | fabric =>
      exact Counter.toNat_raise room.fabric.choose_spec
  | isolation own =>
      dsimp only [Gauge.reading, Gauge.covers, Engine.population,
        Engine.activity, Engine.activate]
      by_cases same : session.envelope.isolation = own
      · rw [decide_eq_true same, if_pos same.symm, ← same]
        exact Counter.toNat_raise room.isolation.choose_spec
      · rw [decide_eq_false same, if_neg (Ne.symm same)]
        rfl
  | workload own =>
      dsimp only [Gauge.reading, Gauge.covers, Engine.population,
        Engine.activity, Engine.activate]
      by_cases same : session.request.workload = own
      · subst same
        rw [decide_eq_true rfl, Table.findD, AList.lookup_insert]
        exact Counter.toNat_raise room.workload.choose_spec
      · rw [decide_eq_false same, Table.findD,
          AList.lookup_insert_ne (Ne.symm same)]
        rfl

theorem Engine.enroll_population :
    (engine.enroll session).population =
      (engine.activate session).population := by
  unfold Engine.enroll Engine.indexDeadline
  dsimp only
  split <;> rfl

end

/-! ## Changes -/

theorem Focus.releasePathReservation_population (focus : Focus) :
    focus.releasePathReservation.engine.population =
      focus.engine.population := by
  unfold Focus.releasePathReservation
  split <;> rfl

theorem Focus.dropActiveAttempt_population (focus : Focus) :
    focus.dropActiveAttempt.engine.population = focus.engine.population := by
  unfold Focus.dropActiveAttempt
  split <;> rfl

/-- Lowering the counters depends on little of the session. -/
theorem Engine.deactivate_congr
    {left right : Engine} {other : SessionRecord}
    (population : left.population = right.population)
    (isolation : session.envelope.isolation = other.envelope.isolation)
    (workload : session.request.workload = other.request.workload) :
    (left.deactivate session).population =
      (right.deactivate other).population := by
  have sessions :
      left.accounting.activeSessions = right.accounting.activeSessions :=
    congrArg Population.sessions population
  have classes : left.classActive = right.classActive :=
    congrArg Population.classes population
  have workloads : left.workloadActive = right.workloadActive :=
    congrArg Population.workloads population
  change Population.mk _ _ _ = Population.mk _ _ _
  dsimp only [Engine.deactivate]
  rw [sessions, classes, workloads, isolation, workload]

/-- Noting the end of a session. -/
theorem Focus.noteTerminal_population (focus : Focus) :
    focus.noteTerminal.engine.population =
      (focus.engine.deactivate focus.session).population :=
  rfl

theorem Focus.retire_population (focus : Focus) :
    focus.retire.engine.population =
      if isTerminal focus.session.state then focus.engine.population
      else (focus.engine.deactivate focus.session).population := by
  unfold Focus.retire
  split <;> rfl

/-- Settlement notes the end of a session unless its state is terminal
already. -/
theorem Focus.closeAs_population
    (focus : Focus) (state : SessionState) (reason : ReasonCode)
    (detail : Text) (now : Nanos) :
    (focus.closeAs state reason detail now).engine.population =
      if isTerminal focus.session.state then focus.engine.population
      else (focus.engine.deactivate focus.session).population := by
  unfold Focus.closeAs
  dsimp only
  rw [Focus.releasePathReservation_population]
  dsimp only [Focus.touch, Focus.settleReason, Focus.revise]
  rw [Focus.retire_population]
  change (if isTerminal focus.session.state = true then _ else _) = _
  split
  · rfl
  · exact Engine.deactivate_congr rfl rfl rfl

theorem Focus.completeSession_population (focus : Focus) (now : Nanos) :
    (focus.completeSession now).engine.population =
      (focus.engine.deactivate focus.session).population := by
  have released := (focus.finish now).releasePathReservation_population
  have kept := (focus.finish now).releasePathReservation_session
  unfold Focus.completeSession
  dsimp only
  rw [Focus.noteTerminal_population]
  refine Engine.deactivate_congr released ?_ ?_
  · dsimp only [Focus.revise, Focus.book]
    rw [kept]
    rfl
  · dsimp only [Focus.revise, Focus.book]
    rw [kept]
    rfl

/-- How a change moves the counters of active sessions. -/
inductive Focus.ActivityMove (before after : Focus) : Prop
  | kept
      (population : after.engine.population = before.engine.population)
      (same :
        isTerminal after.session.state = isTerminal before.session.state)
  | retired
      (population :
        after.engine.population =
          (before.engine.deactivate before.session).population)
      (active : isTerminal before.session.state = false)
      (terminal : isTerminal after.session.state = true)

/-- A session that stays active. -/
theorem Focus.ActivityMove.of_active
    (population : after.engine.population = before.engine.population)
    (active : isTerminal before.session.state = false)
    (still : isTerminal after.session.state = false) :
    before.ActivityMove after :=
  .kept population (still.trans active.symm)

theorem Focus.ActivityMove.of_close
    {middle : Focus} (state : SessionState) (reason : ReasonCode)
    (detail : Text) (now : Nanos)
    (population :
      (middle.engine.deactivate middle.session).population =
        (before.engine.deactivate before.session).population)
    (same : middle.session.state = before.session.state)
    (active : isTerminal before.session.state = false)
    (discarded : discards state = true) :
    before.ActivityMove (middle.closeAs state reason detail now) := by
  refine .retired ?_ active ?_
  · rw [Focus.closeAs_population, same, active]
    exact population
  · rw [Focus.closeAs_session]
    exact discards_terminal discarded

/-- Sessions are not revived, and no failed revalidation ends one. -/
structure Permits.Steady (permits : Permits) : Prop where
  resume :
    ∀ focus, permits.resume focus →
      isTerminal focus.session.state = false
  abandon : ∀ focus, ¬ permits.abandon focus

theorem Change.activityMove
    (steady : permits.Steady)
    (change : Change permits before after)
    (resumable :
      permits.resume before →
        isTerminal before.session.pausedFrom = false) :
    before.ActivityMove after := by
  have stillActive
      (stale :
        before.session.state = .revalidationRequired ∨
          before.session.state = .deferred) :
      isTerminal before.session.state = false := by
    rcases stale with state | state <;> rw [state] <;> rfl
  cases change with
  | annotate _ _ noted =>
      refine .kept ?_ (congrArg isTerminal noted.state)
      exact congrArg Activity.toPopulation noted.engine.activity
  | withdraw _ _ active =>
      exact .of_active rfl active rfl
  | rearm _ _ active =>
      exact .of_active rfl active rfl
  | close _ state reason detail now discarded open_ =>
      rcases open_ with active | already
      · exact .of_close state reason detail now rfl rfl active discarded
      · have terminal : isTerminal before.session.state = true := by
          rw [already]
          exact discards_terminal discarded
        refine .kept ?_ ?_
        · rw [Focus.closeAs_population, terminal]
          rfl
        · rw [Focus.closeAs_session, terminal]
          exact discards_terminal discarded
  | closeAbandoned _ _ _ _ _ _ permitted =>
      exact (steady.abandon before permitted).elim
  | closeMismatched _ reason detail now valid =>
      exact .of_close .failed reason detail now rfl rfl valid.active rfl
  | postpone _ _ stale =>
      exact .of_active rfl (stillActive stale) rfl
  | unreserve =>
      refine .kept before.releasePathReservation_population ?_
      rw [Focus.releasePathReservation_session]
  | renew _ _ _ _ _ stale =>
      exact .of_active rfl (stillActive stale) rfl
  | suspend _ active =>
      exact .of_active rfl active rfl
  | reinstate _ _ permitted =>
      exact .of_active rfl (steady.resume before permitted)
        (resumable permitted)
  | charge _ _ _ _ grantable =>
      refine .of_active rfl grantable.active ?_
      dsimp only [ShardTarget.charge, ShardTarget.grantedSession]
      split
      · rfl
      · exact grantable.active
  | acknowledge =>
      refine .kept (Focus.dropActiveAttempt_population _) ?_
      rw [EvidenceTarget.acknowledge_session]
  | truncate =>
      refine .kept ?_ ?_
      · unfold EvidenceTarget.truncate
        dsimp only [Focus.book, Focus.revise, Focus.setShard]
        split
        · exact Focus.dropActiveAttempt_population _
        · rfl
      · rw [EvidenceTarget.truncate_session]
  | blurShard =>
      refine .kept (Focus.dropActiveAttempt_population _) ?_
      rw [EvidenceTarget.blur_session]
  | blurAttempt =>
      refine .kept ?_ ?_
      · unfold AttemptTarget.blur
        dsimp only [Focus.revise]
        split
        · exact Focus.dropActiveAttempt_population _
        · rfl
      · rw [AttemptTarget.blur_session]
  | progress _ active =>
      exact .of_active rfl active (before.session.derivedState_active active)
  | complete _ now _ active =>
      refine .retired (before.completeSession_population now) active ?_
      rw [Focus.completeSession_session]
      rfl
  | _ =>
      exact .kept rfl rfl

/-- No change touches the isolation class of a session. -/
theorem Change.isolation
    (change : Change permits before after) :
    after.session.envelope.isolation =
      before.session.envelope.isolation := by
  cases change with
  | annotate _ _ noted =>
      rw [noted.session]
  | close =>
      rw [Focus.closeAs_session]
  | closeAbandoned | closeMismatched =>
      rw [Focus.closeAs_session]
      rfl
  | unreserve =>
      rw [Focus.releasePathReservation_session]
  | acknowledge =>
      rw [EvidenceTarget.acknowledge_session]
  | truncate =>
      rw [EvidenceTarget.truncate_session]
  | blurShard =>
      rw [EvidenceTarget.blur_session]
  | blurAttempt =>
      rw [AttemptTarget.blur_session]
  | complete =>
      rw [Focus.completeSession_session]
  | _ =>
      rfl

theorem Change.covers
    (change : Change permits before after) (gauge : Gauge) :
    gauge.covers after.session = gauge.covers before.session := by
  cases gauge with
  | fabric =>
      rfl
  | isolation =>
      dsimp only [Gauge.covers]
      rw [change.isolation]
  | workload =>
      dsimp only [Gauge.covers]
      rw [change.request.1]

/-! ## The gauges follow the edits -/

/-- New sessions come under unused keys and can be counted, and only active
sessions are resumed. -/
def activityPermits : Permits where
  enroll := fun engine session =>
    session.id ∉ engine.sessions ∧ engine.HasRoom session
  resume := fun focus => isTerminal focus.session.state = false
  abandon := fun _ => False

theorem activityPermits_routine : activityPermits.Routine :=
  { Permits.Routine.free with }

theorem activityPermits_steady : activityPermits.Steady :=
  ⟨fun _ permitted => permitted, fun _ permitted => permitted⟩

theorem idlePermits_steady : idlePermits.Steady :=
  ⟨fun _ permitted => permitted.elim, fun _ permitted => permitted⟩

theorem Gauge.follows (gauge : Gauge) :
    gauge.meter.Follows
      (fun session => isTerminal session.pausedFrom = false)
      activityPermits where
  change := by
    intro before after change resumable counted
    refine ⟨change.resumable resumable, ?_⟩
    rw [meter_reading, meter_measure] at counted
    rw [meter_reading, meter_reading, meter_measure, meter_measure]
    cases Change.activityMove activityPermits_steady change
        (fun _ => resumable) with
    | kept population same =>
        have measured :
            gauge.counts after.session = gauge.counts before.session := by
          unfold Gauge.counts
          rw [same, change.covers]
        rw [population, measured]
    | retired population active terminal =>
        rw [gauge.counts_of_active active] at counted ⊢
        rw [gauge.counts_of_terminal terminal, population,
          Engine.deactivate_reading]
        exact Nat.sub_add_cancel counted
  terminal := by
    intro session _ terminal
    exact congrArg Bool.toNat (gauge.counts_of_terminal terminal)
  enroll := by
    rintro engine session admitted ⟨unused, room⟩
    have resumable := admitted.releasing.resumable
    refine ⟨resumable, fun present => (unused present).elim, ?_⟩
    have active : isTerminal session.state = false := by
      rcases admitted with ⟨_, _, _, _, _, rfl⟩
      rfl
    rw [meter_reading, meter_reading, meter_measure,
      engine.enroll_population session,
      engine.activate_reading session room gauge,
      gauge.counts_of_active active]
  blank := by
    cases gauge <;> rfl

/-- Passing time and supersession never raise a counter. -/
theorem Edits.reading_le
    {before after : Engine} (edits : Edits idlePermits before after)
    (gauge : Gauge) :
    gauge.reading after.population ≤ gauge.reading before.population := by
  refine @reflTransGen_preserves _ _ (fun engine =>
    gauge.reading engine.population ≤ gauge.reading before.population)
    ?_ _ _ edits le_rfl
  intro middle last edit lower
  refine le_trans ?_ lower
  cases edit with
  | housekeeping _ _ same =>
      exact (congrArg (fun activity : Activity =>
        gauge.reading activity.toPopulation) same.activity).le
  | adoptPolicy _ _ _ permitted =>
      exact permitted.elim
  | enroll _ _ _ permitted =>
      exact permitted.elim
  | change _ performed =>
      cases Change.activityMove idlePermits_steady performed
          (fun permitted => permitted.elim) with
      | kept population same =>
          exact (congrArg gauge.reading population).le
      | retired population active terminal =>
          refine (congrArg gauge.reading population).le.trans ?_
          rw [Engine.deactivate_reading]
          exact Nat.sub_le _ _
  | prune =>
      rw [Engine.pruneHistory_eq]
      exact le_rfl
  | _ =>
      exact le_rfl

/-! ## Runs -/

/-- Identities drawn for new sessions are unused, revalidations do not fail
for good, and only active sessions are resumed. -/
def ActivityCondition (engine : Engine) (now : Nanos) : Command → Prop
  | .submitSession request fence =>
      ∀ plan,
        (engine.observe now).admissionPlan now request fence = .ok plan →
        ((engine.observe now).shaper.reservePathRate plan.path
          plan.rateBps).isSome = true →
        (⟨engine.idFactory.next.1⟩ : SessionId) ∉
          (engine.observe now).sessions
  | .revalidateSession id fence =>
      ∀ focus,
        (engine.observe now).revalidationTarget id fence = .ok focus →
        focus.unrenewable now = false
  | .resumeSession id fence => engine.ResumesActive now id fence
  | _ => True

instance (engine : Engine) (now : Nanos) :
    ∀ command, Decidable (ActivityCondition engine now command) := by
  intro command
  apply @Command.casesOn
      (fun command => Decidable (ActivityCondition engine now command)) command <;>
    intros <;> unfold ActivityCondition <;> infer_instance

/-- The bounds checked at admission leave room for the new session. -/
theorem Engine.Planned.hasRoom
    {engine : Engine} {now : Nanos} {request : SessionRequest}
    {plan : AdmissionPlan} (planned : engine.Planned request plan)
    {cleared : Engine} (edits : Edits idlePermits engine cleared) :
    cleared.HasRoom (engine.newSession now request plan) where
  fabric := by
    refine ⟨engine.policy.maxSessions, UInt32.lt_iff_toNat_lt.mpr ?_⟩
    exact (Edits.reading_le edits .fabric).trans_lt
      (UInt32.lt_iff_toNat_lt.mp planned.fabricBound)
  isolation := by
    rcases planned.isolationBound with ⟨envelope, bound⟩
    refine ⟨envelope.maxInFlightSessions, UInt32.lt_iff_toNat_lt.mpr ?_⟩
    exact (Edits.reading_le edits (.isolation plan.isolation)).trans_lt
      (UInt32.lt_iff_toNat_lt.mp bound)
  workload := by
    refine ⟨plan.contract.maxInFlightSessions,
      UInt32.lt_iff_toNat_lt.mpr ?_⟩
    exact (Edits.reading_le edits (.workload request.workload)).trans_lt
      (UInt32.lt_iff_toNat_lt.mp planned.workloadBound)

theorem activityPermits_allow
    (engine : Engine) (now : Nanos) (command : Command)
    (ordinary : ∀ snapshot, command ≠ .restore snapshot)
    (condition : ActivityCondition engine now command) :
    activityPermits.Allow engine now command := by
  refine Permits.Grounds.allow ?_ ordinary
  exact { Permits.Grounds.free engine now command with
    enroll := by
      rintro request fence plan shaper rfl planned reserved
      have edits := Engine.cleared_idle planned reserved
      refine ⟨Edits.sessions_of_idle edits ?_,
        (Engine.admissionPlan_planned planned).hasRoom edits⟩
      change (engine.submitted now request plan).id ∉ _
      rw [Engine.submitted_id]
      exact condition plan planned (by rw [reserved]; rfl)
    resume := by
      rintro id fence focus rfl passed
      exact condition focus passed
    abandon := by
      rintro id fence focus rfl passed unrenewable
      rw [condition focus passed] at unrenewable
      cases unrenewable }

/-- Along runs that meet the condition, the counters that gate admission are
the numbers of active sessions. -/
theorem activity_counters_are_exact
    {config : EngineConfig} {boot : Nanos} {history : List Event}
    {engine : Engine}
    (run : ConditionedRun ActivityCondition config boot history engine) :
    engine.accounting.activeSessions.toNat =
        engine.sessions.values.countP
          (fun session => !isTerminal session.state) ∧
      (∀ isolation,
        (engine.classActive isolation).toNat =
          engine.sessions.values.countP (fun session =>
            !isTerminal session.state &&
              session.envelope.isolation = isolation)) ∧
      ∀ workload,
        (engine.workloadActive.findD workload 0).toNat =
          engine.sessions.values.countP (fun session =>
            !isTerminal session.state &&
              session.request.workload = workload) := by
  have counted (gauge : Gauge) :
      gauge.reading engine.population =
        engine.sessions.values.countP gauge.counts := by
    have exact_ := (Meter.Exact.With.run gauge.follows
      activityPermits_routine activityPermits_allow
      run).exact_
    rw [countP_eq_sum]
    exact exact_
  refine ⟨?_, fun isolation => counted (.isolation isolation),
    fun workload => counted (.workload workload)⟩
  refine (counted .fabric).trans (List.countP_congr ?_)
  intro session _
  simp [Gauge.counts, Gauge.covers]

/-- A session that asks for the full rate, whose contract is then replaced by
one with another ceiling, and revalidated. -/
def recontractedScript (ceiling : UInt64) : List (Nanos × Command) :=
  [(1, .submitSession
      { Sample.request 2 [2] with requestedRateBps := 1000000000 }
      (Sample.fence 1)),
    (2, .upsertContract
      { Sample.contract with generation := ⟨2⟩, ceilingBps := ceiling }),
    (3, .revalidateSession ⟨Sample.drawn 0⟩
      { Sample.fence 1 with contractGeneration := ⟨2⟩ })]

theorem activityScripts_evaluated :
    (ScriptMeets ActivityCondition (Engine.construct Sample.config 0)
         (recontractedScript 1000000000) ∧
       ((Engine.construct Sample.config 0).executeAll
         (recontractedScript 1000000000)).2.accounting.activeSessions =
         1) ∧
      (((Engine.construct Sample.config 0).executeAll
           (recontractedScript 1)).2.accounting.activeSessions = 1 ∧
         ((Engine.construct Sample.config 0).executeAll
           (recontractedScript 1)).2.sessions.values.countP
             (fun session => !isTerminal session.state) = 0) := by
  decide +kernel

/-- A session that is revalidated stays counted. -/
theorem activity_counters_are_exact_on_revalidation :
    let engine :=
      ((Engine.construct Sample.config 0).executeAll
        (recontractedScript 1000000000)).2
    engine.accounting.activeSessions = 1 ∧
      engine.accounting.activeSessions.toNat =
        engine.sessions.values.countP
          (fun session => !isTerminal session.state) :=
  have evaluated := activityScripts_evaluated.1
  ⟨evaluated.2, (activity_counters_are_exact
    (Engine.executeAll_conditioned _ evaluated.1)).1⟩

/-- A session whose revalidation fails for good stays counted as active. -/
theorem failed_revalidation_stays_counted :
    ∃ history engine,
      EngineRun Sample.config 0 history engine ∧
        (∀ event ∈ history, event.restores = false) ∧
        engine.accounting.activeSessions = 1 ∧
        engine.sessions.values.countP
          (fun session => !isTerminal session.state) = 0 := by
  have reached := activityScripts_evaluated.2
  refine ⟨_, _, Engine.executeAll_run _ (recontractedScript 1), ?_,
    reached.1, reached.2⟩
  simp [Engine.executeAll, recontractedScript, Event.restores]

end TrafficFabric
