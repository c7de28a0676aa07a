import TrafficFabric.Engine.Observation
import TrafficFabric.Engine.Restoration
import TrafficFabric.Engine.Runs

/-!
# Credit follows authority

An event of a run may issue an envelope or revoke the authority of a
workload.  A session is `Fresh` when nothing was revoked since its envelope
was issued; only fresh sessions are granted credit, provided that sessions
are resumed in the state they were paused to.
-/

namespace TrafficFabric

open Foundation

variable {history : List Event} {event : Event} {id : SessionId}
  {workload : WorkloadId} {engine : Engine} {now : Nanos}
  {fence : CommandFence} {command : Command}

/-! ## Issues, revocations and grants -/

namespace Event

/-- The event issues the envelope of a session. -/
def issues (id : SessionId) : Event → Bool
  | .call _ (.submitSession _ _) (.decision (.ok decision)) =>
      decision.kind == .admitted && decision.reason == .admitted &&
        decision.session == id
  | .call _ (.revalidateSession session _) (.decision (.ok decision)) =>
      session == id && decision.kind == .admitted
  | _ => false

/-- The event ends the authority of the envelopes of a workload. -/
def revokes (workload : WorkloadId) : Event → Bool
  | .call _ (.applyPolicy _) (.status (.ok _)) => true
  | .call _ (.applyTopology _) (.status (.ok _)) => true
  | .call _ (.advanceEpoch _) (.status (.ok _)) => true
  | .call _ (.upsertContract contract) (.status (.ok _)) =>
      contract.workload == workload
  | _ => false

/-- The event grants credit to a session. -/
def grants (id : SessionId) : Event → Bool
  | .call _ (.requestWave session _ _) (.wave (.ok outcome)) =>
      session == id && outcome.granted
  | _ => false

end Event

/-- An envelope of the session was issued, and the authority of its workload
was not revoked since. -/
def Fresh
    (history : List Event) (id : SessionId) (workload : WorkloadId) : Prop :=
  ∃ earlier issue later,
    history = earlier ++ issue :: later ∧ issue.issues id = true ∧
      ∀ event ∈ later, event.revokes workload = false

theorem Fresh.issued
    (issues : event.issues id = true) (workload : WorkloadId) :
    Fresh (history ++ [event]) id workload :=
  ⟨history, event, [], rfl, issues, by simp⟩

theorem Fresh.extend
    (fresh : Fresh history id workload)
    (kept : event.revokes workload = false) :
    Fresh (history ++ [event]) id workload := by
  rcases fresh with ⟨earlier, issue, later, rfl, issues, unrevoked⟩
  refine ⟨earlier, issue, later ++ [event], by simp, issues, ?_⟩
  intro other member
  rcases List.mem_append.mp member with inLater | last
  · exact unrevoked other inLater
  · rw [List.mem_singleton.mp last]
    exact kept

/-- Freshness, computed from the end of the history. -/
def standsFresh (id : SessionId) (workload : WorkloadId) :
    List Event → Bool
  | [] => false
  | event :: rest =>
      standsFresh id workload rest ||
        (event.issues id && rest.all (fun later => !later.revokes workload))

theorem standsFresh_iff
    (history : List Event) (id : SessionId) (workload : WorkloadId) :
    standsFresh id workload history = true ↔ Fresh history id workload := by
  induction history with
  | nil =>
      simp [standsFresh, Fresh]
  | cons event rest hypothesis =>
      rw [standsFresh, Bool.or_eq_true, Bool.and_eq_true, hypothesis]
      constructor
      · rintro (⟨earlier, issue, later, rfl, issues, unrevoked⟩ |
          ⟨issues, unrevoked⟩)
        · exact ⟨event :: earlier, issue, later, rfl, issues, unrevoked⟩
        · exact ⟨[], event, rest, rfl, issues, by simpa using unrevoked⟩
      · rintro ⟨earlier, issue, later, same, issues, unrevoked⟩
        cases earlier with
        | nil =>
            cases same
            exact .inr ⟨issues, by simpa using unrevoked⟩
        | cons _ earlier =>
            cases same
            exact .inl ⟨earlier, issue, later, rfl, issues, unrevoked⟩

instance (history : List Event) (id : SessionId) (workload : WorkloadId) :
    Decidable (Fresh history id workload) :=
  decidable_of_iff _ (standsFresh_iff history id workload)

/-! ## The invariant -/

/-- Every session is indexed and in the standing its history gives it. -/
structure Creditworthy (history : List Event) (engine : Engine) : Prop where
  indexed : engine.Indexed
  standing :
    ∀ id session, engine.sessions.lookup id = some session →
      Standing (Fresh history) id session

/-- Sessions are resumed in place. -/
def ResumeCondition (engine : Engine) (now : Nanos) : Command → Prop
  | .resumeSession id fence =>
      ∀ focus, (engine.observe now).resumeTarget id fence = .ok focus →
        ResumesInPlace focus
  | _ => True

theorem Edits.creditworthy
    {InOrder : SessionId → WorkloadId → Prop} {before after : Engine}
    (edits : Edits (creditPermits InOrder) before after)
    (indexed : before.Indexed)
    (standing :
      ∀ id session, before.sessions.lookup id = some session →
        Standing InOrder id session) :
    after.Indexed ∧
      ∀ id session, after.sessions.lookup id = some session →
        Standing InOrder id session :=
  ⟨reflTransGen_preserves (fun _ _ edit => edit.indexed) edits indexed,
    edits.forall_sessions (fun _ _ _ change => change.standing)
      (fun _ _ _ permitted => permitted) standing⟩

/-- A new session is in order. -/
theorem Engine.newSession_standing
    {InOrder : SessionId → WorkloadId → Prop}
    (engine : Engine) (now : Nanos) (request : SessionRequest)
    (plan : AdmissionPlan)
    (inOrder :
      InOrder (engine.newSession now request plan).id request.workload) :
    Standing InOrder (engine.newSession now request plan).id
      (engine.newSession now request plan) := by
  refine fun _ => .of_clean rfl inOrder ?_ ?_ ?_
  · intro required
    cases required
  · intro paused
    cases paused
  · intro paused
    cases paused

/-- The answer to a submission that is committed. -/
theorem Engine.execute_submit
    {request : SessionRequest}
    {plan : AdmissionPlan} {shaper : RateShaper}
    (planned :
      (engine.observe now).admissionPlan now request fence = .ok plan)
    (reserved :
      (engine.observe now).shaper.reservePathRate plan.path plan.rateBps =
        some shaper) :
    (Event.call now (.submitSession request fence)
      (engine.execute now (.submitSession request fence)).1).issues
        ((engine.observe now).newSession now request plan).id = true := by
  have kept :
      (engine.observe now).drawn.shaper = (engine.observe now).shaper := rfl
  simp only [Engine.execute, Engine.submitSession, planned,
    Engine.commitAdmission, kept, reserved, Prod.map, Event.issues,
    Engine.makeDecision]
  simp

/-- Whatever a command other than an authority change and a restore does, it
is covered. -/
theorem creditPermits_allow
    (history : List Event)
    (condition : ResumeCondition engine now command)
    (ordinary : ∀ snapshot, command ≠ .restore snapshot) :
    (creditPermits (Fresh (history ++
      [.call now command (engine.execute now command).1]))).Allow engine now
        command := by
  refine Permits.Grounds.allow ?_ ordinary
  exact { Permits.Grounds.free engine now command with
    enroll := by
      rintro request fence plan shaper rfl planned reserved
      exact Engine.newSession_standing _ now request plan
        (.issued (Engine.execute_submit planned reserved) _)
    renew := by
      rintro id fence focus decision rfl passed answered admitted renewed key
      refine .issued ?_ _
      simp only [Engine.execute, Engine.revalidateSession, Engine.guarded,
        passed, answered, Prod.map, Event.issues, key, admitted]
      simp
    resume := by
      rintro id fence focus rfl passed
      exact condition focus passed }

/-! ## Authority changes -/

/-- The four commands that can revoke authority. -/
def Command.changesAuthority : Command → Bool
  | .applyPolicy _ => true
  | .applyTopology _ => true
  | .upsertContract _ => true
  | .advanceEpoch _ => true
  | _ => false

theorem Event.revokes_of_ordinary
    (ordinary : command.changesAuthority = false)
    (now : Nanos) (response : Response) (workload : WorkloadId) :
    (Event.call now command response).revokes workload = false := by
  cases command <;> first | rfl | cases ordinary

/-- An authority change is covered whatever the permits say on sessions. -/
theorem creditPermits_allow_authority
    {InOrder : SessionId → WorkloadId → Prop}
    (authority : command.changesAuthority = true) :
    (creditPermits InOrder).Allow engine now command := by
  cases command with
  | applyPolicy | upsertContract =>
      exact ⟨trivial, fun _ _ => trivial⟩
  | advanceEpoch =>
      exact ⟨trivial, fun _ => trivial⟩
  | applyTopology =>
      trivial
  | _ =>
      cases authority

theorem Engine.visit_markStale_byWorkload
    (engine : Engine) (ids : List SessionId) (now : Nanos)
    (reason line : String) :
    (engine.visit ids
      (fun focus => focus.markStale now reason line)).byWorkload =
      engine.byWorkload := by
  refine @Engine.visit_rule
    (fun reached => reached.byWorkload = engine.byWorkload) _ _ ?_ engine rfl
  intro focus held _ earlier
  unfold Focus.markStale
  split
  · exact earlier
  · exact earlier

/-- A successful authority change withdraws every session it concerns. -/
theorem Engine.execute_withdraws
    (indexed : (engine.execute now command).2.Indexed)
    (revokes :
      (Event.call now command (engine.execute now command).1).revokes
        workload = true) :
    ∀ id session,
      (engine.execute now command).2.sessions.lookup id = some session →
      session.request.workload = workload →
      Withdrawn session := by
  cases command with
  | applyPolicy policy =>
      intro id session found _
      simp only [Engine.execute, Engine.applyPolicy, Engine.guarded]
        at found revokes
      split at found
      · rename_i refused
        rw [refused] at revokes
        cases revokes
      · exact Engine.visit_keys_sweeps
          (fun focus held => Focus.markStale_sweeps held now _ _) _ id
          session found
  | applyTopology topology =>
      intro id session found _
      simp only [Engine.execute, Engine.applyTopology, Engine.guarded]
        at found revokes
      split at found
      · rename_i refused
        rw [refused] at revokes
        cases revokes
      · exact Engine.visit_keys_sweeps
          (fun focus held => Focus.markStale_sweeps held now _ _) _ id
          session found
  | advanceEpoch epoch =>
      intro id session found _
      simp only [Engine.execute, Engine.advanceEpoch, Engine.guarded]
        at found revokes
      split at found
      · rename_i refused
        rw [refused] at revokes
        cases revokes
      · exact Engine.visit_keys_sweeps
          (fun focus held => Focus.restart_sweeps held now) _ id session
          found
  | upsertContract contract =>
      intro id session found concerned
      have listed := indexed id session found
      simp only [Engine.execute, Engine.upsertContract, Engine.guarded]
        at found revokes listed
      split at found
      · rename_i refused
        rw [refused] at revokes
        cases revokes
      · rename_i accepted
        rw [accepted] at revokes listed
        have named : contract.workload = workload := by
          simpa [Event.revokes] using revokes
        refine Engine.visit_sweeps
          (fun focus held => Focus.markStale_sweeps held now _ _) _ _ id
          ?_ session found
        dsimp only [Prod.map, id_eq] at listed
        rw [Engine.visit_markStale_byWorkload, concerned, ← named] at listed
        exact listed
  | _ =>
      cases revokes

/-! ## Runs -/

/-- An event that revokes nothing leaves every session as fresh as it was. -/
theorem Creditworthy.extend
    (invariant : Creditworthy history engine)
    (kept : ∀ workload, event.revokes workload = false) :
    Creditworthy (history ++ [event]) engine := by
  refine ⟨invariant.indexed, ?_⟩
  intro id session found active
  exact (invariant.standing id session found active).mono
    (fun _ fresh => fresh.extend (kept _))

theorem Creditworthy.rehash
    (invariant : Creditworthy history engine)
    {sessions : Table SessionId SessionRecord}
    (contracts : Table WorkloadId WorkloadContract)
    (same : sessions.entries.Perm engine.sessions.entries) :
    Creditworthy (history ++ [.rehash])
      { engine with sessions := sessions, contracts := contracts } := by
  have lookups :
      ∀ id, sessions.lookup id = engine.sessions.lookup id :=
    fun id => AList.perm_lookup same
  refine Creditworthy.extend ⟨?_, ?_⟩ (fun _ => rfl)
  · intro id session found
    exact invariant.indexed id session ((lookups id).symm.trans found)
  · intro id session found
    exact invariant.standing id session ((lookups id).symm.trans found)

theorem Creditworthy.call
    {history : List Event} {engine : Engine} {now : Nanos}
    {command : Command} (invariant : Creditworthy history engine)
    (condition : ResumeCondition engine now command) :
    Creditworthy
      (history ++ [.call now command (engine.execute now command).1])
      (engine.execute now command).2 := by
  cases authority : command.changesAuthority with
  | true =>
      have edits :
          Edits (creditPermits (Fresh history)) engine
            (engine.execute now command).2 :=
        Engine.execute_edits (creditPermits_routine _) engine now command
          (creditPermits_allow_authority authority)
      rcases edits.creditworthy invariant.indexed invariant.standing with
        ⟨indexed, standing⟩
      refine ⟨indexed, ?_⟩
      intro id session found active
      have accountable := standing id session found active
      refine accountable.mono (fun clean fresh => fresh.extend ?_)
      by_contra revoked
      have withdrawn := Engine.execute_withdraws indexed
        (Bool.not_eq_false _ ▸ revoked) id session found rfl
      rcases withdrawn with terminal | state
      · rw [active] at terminal
        cases terminal
      · exact accountable.withdrawn state clean
  | false =>
      by_cases restores : ∃ snapshot, command = .restore snapshot
      · rcases restores with ⟨snapshot, rfl⟩
        rcases engine.restore_cases now snapshot with same | ⟨indexed, quiet⟩
        · have unchanged :
              (engine.execute now (.restore snapshot)).2 = engine := same
          rw [unchanged]
          exact invariant.extend (Event.revokes_of_ordinary authority _ _)
        · exact ⟨indexed, fun id session found =>
            (quiet id session found).standing⟩
      · have ordinary : ∀ snapshot, command ≠ .restore snapshot :=
          fun snapshot same => restores ⟨snapshot, same⟩
        have extended := invariant.extend
          (Event.revokes_of_ordinary authority now
            (engine.execute now command).1)
        have edits := Engine.execute_edits (creditPermits_routine _) engine now
          command (creditPermits_allow history condition ordinary)
        rcases edits.creditworthy extended.indexed extended.standing with
          ⟨indexed, standing⟩
        exact ⟨indexed, standing⟩

theorem Creditworthy.initial (config : EngineConfig) (boot : Nanos) :
    Creditworthy [] (Engine.construct config boot) := by
  have empty := (Engine.construct_blank config boot).1
  constructor
  · intro id session found
    rw [empty] at found
    cases found
  · intro id session found
    rw [empty] at found
    cases found

/-- Every run that resumes sessions in place keeps the invariant. -/
theorem Creditworthy.run
    {config : EngineConfig} {boot : Nanos}
    (run :
      Run (fun engine event next =>
          Step engine event next ∧ event.meets ResumeCondition engine)
        (Engine.construct config boot) history engine) :
    Creditworthy history engine := by
  refine run.historyInvariant (Creditworthy.initial config boot) ?_
  rintro history state event next _ ⟨step, condition⟩ invariant
  cases step with
  | call =>
      exact invariant.call condition
  | rehash _ contracts sameSessions =>
      exact invariant.rehash contracts sameSessions

/-- What a granting event was. -/
theorem Event.grants_call
    {response : Response}
    (granted : (Event.call now command response).grants id = true) :
    ∃ index fence outcome,
      command = .requestWave id index fence ∧
        response = .wave (.ok outcome) ∧ outcome.granted = true := by
  unfold Event.grants at granted
  split at granted
  · rename_i same
    cases same
    rw [Bool.and_eq_true, beq_iff_eq] at granted
    rcases granted with ⟨rfl, granted⟩
    exact ⟨_, _, _, rfl, rfl, granted⟩
  · cases granted

/-- An answered request for credit passed the guards on the session. -/
theorem Engine.requestWave_answered
    {index : ShardIndex}
    {outcome : WaveOutcome}
    (answered : (engine.requestWave now id index fence).1 = .ok outcome) :
    ∃ focus, (engine.observe now).creditHolder now id fence = .ok focus := by
  unfold Engine.requestWave Engine.guarded at answered
  dsimp only at answered
  split at answered
  · cases answered
  · rename_i focus passed
    exact ⟨focus, passed⟩

/-- In every run that resumes sessions in place, credit is granted only
under an envelope whose authority has not been revoked since it was
issued. -/
theorem granted_credit_is_fresh
    {config : EngineConfig} {boot : Nanos} {history : List Event}
    {engine : Engine}
    (run :
      Run (fun engine event next =>
          Step engine event next ∧ event.meets ResumeCondition engine)
        (Engine.construct config boot) history engine)
    {now : Nanos} {command : Command} {id : SessionId}
    (granted :
      (Event.call now command (engine.execute now command).1).grants id =
        true) :
    ∃ session, engine.sessions.lookup id = some session ∧
      Fresh history id session.request.workload := by
  rcases Event.grants_call granted with
    ⟨index, fence, outcome, rfl, answer, _⟩
  have answered :
      (engine.requestWave now id index fence).1 = .ok outcome := by
    simpa [Engine.execute] using answer
  rcases Engine.requestWave_answered answered with ⟨focus, passed⟩
  rcases Engine.creditHolder_ok passed with
    ⟨⟨same, key, held⟩, active, _, authorised, undeferred, unpaused⟩
  have invariant := Creditworthy.run run
  have observed :
      Edits (creditPermits (Fresh history)) engine (engine.observe now) :=
    Engine.observe_edits (creditPermits_routine _) engine now
  have found :
      (engine.observe now).sessions.lookup id = some focus.session := by
    rw [← same, ← key]
    exact held
  rcases Engine.observe_request found with ⟨session, known, request⟩
  refine ⟨session, known, ?_⟩
  have accountable :=
    (observed.creditworthy invariant.indexed invariant.standing).2 id
      focus.session found active
  have clean : focus.session.staleReason = [] := by
    by_contra stale
    rcases accountable.stale stale with state | state | ⟨state, _⟩
    · exact authorised state
    · exact undeferred state
    · exact unpaused state
  rw [← request]
  exact accountable.fresh clean

/-- A submitted session of the sample deployment is granted credit, and its
envelope is fresh. -/
theorem granted_credit_is_fresh_on_submission :
    ∃ session,
      ((Engine.construct Sample.config 0).execute 1
        (.submitSession (Sample.request 2 [2])
          (Sample.fence 1))).2.sessions.lookup ⟨Sample.drawn 0⟩ =
          some session ∧
      Fresh
        [.call 1 (.submitSession (Sample.request 2 [2]) (Sample.fence 1))
          ((Engine.construct Sample.config 0).execute 1
            (.submitSession (Sample.request 2 [2]) (Sample.fence 1))).1]
        ⟨Sample.drawn 0⟩ session.request.workload :=
  have granted :
      (Event.call 2 (.requestWave ⟨Sample.drawn 0⟩ ⟨0⟩ (Sample.fence 1))
        (((Engine.construct Sample.config 0).execute 1
          (.submitSession (Sample.request 2 [2])
            (Sample.fence 1))).2.execute 2
          (.requestWave ⟨Sample.drawn 0⟩ ⟨0⟩ (Sample.fence 1))).1).grants
        ⟨Sample.drawn 0⟩ = true := by
    decide +kernel
  granted_credit_is_fresh
    (.single ⟨.call (Engine.construct Sample.config 0) 1
      (.submitSession (Sample.request 2 [2]) (Sample.fence 1)), trivial⟩)
    granted

/-- Pausing a session, advancing the policy and resuming the session restores
the credit that the policy change took away. -/
def resumedScript : List (Nanos × Command) :=
  [(1, .submitSession (Sample.request 2 [2]) (Sample.fence 1)),
    (2, .pauseSession ⟨Sample.drawn 0⟩ (Sample.fence 1) []),
    (3, .applyPolicy (Sample.policy 2)),
    (4, .resumeSession ⟨Sample.drawn 0⟩ (Sample.fence 2))]

theorem resumed_credit_is_stale :
    ∃ history engine,
      EngineRun Sample.config 0 history engine ∧
        MonotoneClock 0
          (history ++ [.call 5
            (.requestWave ⟨Sample.drawn 0⟩ ⟨0⟩ (Sample.fence 2))
            (engine.execute 5
              (.requestWave ⟨Sample.drawn 0⟩ ⟨0⟩ (Sample.fence 2))).1]) ∧
        (Event.call 5
            (.requestWave ⟨Sample.drawn 0⟩ ⟨0⟩ (Sample.fence 2))
            (engine.execute 5
              (.requestWave ⟨Sample.drawn 0⟩ ⟨0⟩
                (Sample.fence 2))).1).grants ⟨Sample.drawn 0⟩ = true ∧
        (engine.sessions.lookup ⟨Sample.drawn 0⟩).map
            (fun session => session.request.workload) =
          some Sample.contract.workload ∧
        ¬ Fresh history ⟨Sample.drawn 0⟩ Sample.contract.workload := by
  refine ⟨_, _, Engine.executeAll_run _ resumedScript, ?_, ?_⟩
  · exact Engine.executeAll_monotone (by decide) _ _ _
  · decide +kernel

end TrafficFabric
