import TrafficFabric.Engine.Restoration
import TrafficFabric.Engine.Runs

/-!
# Terminal states are final

No change takes a session out of a terminal state but resuming it: a paused
session may complete, and completion leaves the flag that `resume_session`
looks at.
-/

namespace TrafficFabric

open Foundation

variable {permits : Permits} {id : SessionId} {session kept : SessionRecord}

/-! ## Changes of a terminal session -/

/-- A terminal session keeps its state unless it is resumed. -/
theorem Change.state_of_terminal
    (resumes :
      ∀ focus, permits.resume focus → isTerminal focus.session.state = false)
    {before after : Focus} (change : Change permits before after)
    (terminal : isTerminal before.session.state = true) :
    after.session.state = before.session.state := by
  have absurd_of_active {Goal : Prop} {state : SessionState}
      (active : isTerminal state = false)
      (same : state = before.session.state) : Goal := by
    rw [same, terminal] at active
    cases active
  have absurd_of_stale {Goal : Prop}
      (stale :
        before.session.state = .revalidationRequired ∨
          before.session.state = .deferred) : Goal := by
    rcases stale with state | state <;> rw [state] at terminal <;>
      cases terminal
  cases change with
  | annotate _ _ noted =>
      exact noted.state
  | unprove =>
      rfl
  | close _ _ _ _ _ _ open_ =>
      rw [Focus.closeAs_session]
      rcases open_ with active | same
      · exact absurd_of_active active rfl
      · exact same.symm
  | unreserve =>
      rw [Focus.releasePathReservation_session]
  | postpone _ _ stale =>
      exact absurd_of_stale stale
  | renew _ _ _ _ _ stale =>
      exact absurd_of_stale stale
  | reinstate _ _ permitted =>
      exact absurd_of_active (resumes _ permitted) rfl
  | charge _ _ _ _ grantable =>
      exact absurd_of_active grantable.active rfl
  | closeMismatched _ _ _ _ valid =>
      exact absurd_of_active valid.active rfl
  | flagSource _ _ valid =>
      exact absurd_of_active valid.active rfl
  | sight _ _ _ _ valid =>
      exact absurd_of_active valid.active rfl
  | acknowledge _ _ _ valid =>
      exact absurd_of_active valid.active rfl
  | verify _ _ valid =>
      exact absurd_of_active valid.active rfl
  | truncate _ valid =>
      exact absurd_of_active valid.active rfl
  | blurShard _ valid =>
      exact absurd_of_active valid.active rfl
  | blurAttempt _ _ valid =>
      exact absurd_of_active valid.active rfl
  | withdraw _ _ active =>
      exact absurd_of_active active rfl
  | cancelOutstanding _ active =>
      exact absurd_of_active active rfl
  | rearm _ _ active =>
      exact absurd_of_active active rfl
  | closeAbandoned _ _ _ _ active =>
      exact absurd_of_active active rfl
  | suspend _ active =>
      exact absurd_of_active active rfl
  | progress _ active =>
      exact absurd_of_active active rfl
  | complete _ _ _ active =>
      exact absurd_of_active active rfl

/-- Edits keep a terminal session in its state until they evict it, when no
new session takes its identity. -/
theorem Edits.state_of_terminal
    (resumes :
      ∀ focus, permits.resume focus → isTerminal focus.session.state = false)
    (enrolls :
      ∀ engine session, permits.enroll engine session → session.id ≠ id)
    {before after : Engine} (edits : Edits permits before after)
    (found : before.sessions.lookup id = some session)
    (terminal : isTerminal session.state = true)
    (stays : after.sessions.lookup id = some kept) :
    kept.state = session.state := by
  refine @Edits.forall_sessions _
    (fun other record => other = id → record.state = session.state)
    _ _ edits ?_ ?_ ?_ id kept stays rfl
  · intro first second live change same own
    have state := same own
    rw [← state] at terminal
    exact (change.state_of_terminal resumes terminal).trans state
  · intro engine other _ permitted own
    exact absurd own (enrolls engine other permitted)
  · rintro other record stored rfl
    rw [found] at stored
    cases stored
    rfl

/-! ## Runs -/

/-- A resumed session is not terminal, a new session does not take the
identity of a terminal one, and an accepted snapshot holds the terminal
sessions in their states or not at all. -/
def TerminalCondition (engine : Engine) (now : Nanos) : Command → Prop
  | .resumeSession id fence => engine.ResumesActive now id fence
  | .submitSession request fence =>
      ∀ plan,
        (engine.observe now).admissionPlan now request fence = .ok plan →
        ∀ session ∈ engine.sessions.lookup
            ⟨(engine.observe now).idFactory.next.1⟩,
          isTerminal session.state = false
  | .restore snapshot =>
      ∀ table, engine.restorable snapshot = .ok table →
        ∀ persisted ∈ snapshot.sessions,
          ∀ session ∈ engine.sessions.lookup persisted.session,
            isTerminal session.state = true →
            persisted.state = session.state
  | _ => True

instance (engine : Engine) (now : Nanos) :
    ∀ command, Decidable (TerminalCondition engine now command) := by
  intro command
  apply @Command.casesOn
      (fun command => Decidable (TerminalCondition engine now command)) command <;>
    intros <;> unfold TerminalCondition <;> infer_instance

/-- Resumed sessions are not terminal and new ones do not take a given
identity. -/
def terminalPermits (id : SessionId) : Permits where
  resume := fun focus => isTerminal focus.session.state = false
  enroll := fun _ session => session.id ≠ id

theorem terminalPermits_routine (id : SessionId) :
    (terminalPermits id).Routine :=
  { Permits.Routine.free with }

/-- One command that meets the condition keeps a terminal session in its
state or evicts it. -/
theorem Engine.execute_terminal
    {engine : Engine} {now : Nanos} {command : Command}
    (condition : TerminalCondition engine now command)
    (found : engine.sessions.lookup id = some session)
    (terminal : isTerminal session.state = true)
    (stays : (engine.execute now command).2.sessions.lookup id = some kept) :
    kept.state = session.state := by
  by_cases restores : ∃ snapshot, command = .restore snapshot
  · rcases restores with ⟨snapshot, rfl⟩
    cases accepted : engine.restorable snapshot with
    | error =>
        have same : (engine.execute now (.restore snapshot)).2 = engine := by
          simp only [Engine.execute, Engine.restore, Engine.guarded,
            accepted, Prod.map, id_eq]
        rw [same, found] at stays
        cases stays
        rfl
    | ok table =>
        rcases Engine.restore_state now accepted stays with
          ⟨persisted, member, rfl, _, state⟩
        have same :=
          condition table accepted persisted member session found terminal
        rw [← same] at terminal ⊢
        exact state terminal
  · have ordinary : ∀ snapshot, command ≠ .restore snapshot :=
      fun snapshot same => restores ⟨snapshot, same⟩
    have grounds : (terminalPermits id).Grounds engine now command := {
      Permits.Grounds.free engine now command with
      resume := by
        rintro other fence focus rfl passed
        exact condition focus passed
      enroll := by
        rintro request fence plan shaper rfl planned reserved rfl
        have active := condition plan planned session found
        rw [terminal] at active
        cases active }
    exact Edits.state_of_terminal (fun _ permitted => permitted)
      (fun _ _ permitted => permitted)
      (Engine.execute_edits (terminalPermits_routine _) engine
        now command (grounds.allow ordinary)) found terminal stays

/-- The runs whose commands meet the condition. -/
abbrev TerminalRun (start : Engine) : List Event → Engine → Prop :=
  Run (fun engine event next =>
    Step engine event next ∧ event.meets TerminalCondition engine) start

/-- Along such a run from any engine, a session that is terminal at the start
is in the same state at the end, unless it is evicted on the way. -/
theorem terminal_states_are_absorbing
    {start final : Engine} {history : List Event}
    (run : TerminalRun start history final)
    {id : SessionId} {session : SessionRecord}
    (found : start.sessions.lookup id = some session)
    (terminal : isTerminal session.state = true) :
    (∃ kept,
        final.sessions.lookup id = some kept ∧
          kept.state = session.state) ∨
      ∃ earlier later middle,
        history = earlier ++ later ∧ TerminalRun start earlier middle ∧
          middle.sessions.lookup id = none := by
  refine @Run.historyInvariant _ _ _ start
    (fun history final =>
      (∃ kept,
        final.sessions.lookup id = some kept ∧
          kept.state = session.state) ∨
      ∃ earlier later middle,
        history = earlier ++ later ∧ TerminalRun start earlier middle ∧
          middle.sessions.lookup id = none)
    (.inl ⟨session, found, rfl⟩) ?_ _ _ run
  rintro history state event next earlier ⟨step, condition⟩
    (⟨kept, stored, same⟩ | ⟨first, second, middle, rfl, reached, gone⟩)
  · cases stays : next.sessions.lookup id with
    | none =>
        exact .inr ⟨history ++ [event], [], next, (List.append_nil _).symm,
          .step earlier ⟨step, condition⟩, stays⟩
    | some later =>
        refine .inl ⟨later, rfl, ?_⟩
        rw [← same] at terminal ⊢
        cases step with
        | call =>
            exact Engine.execute_terminal condition stored terminal stays
        | rehash _ _ sameSessions =>
            have moved := (AList.perm_lookup sameSessions).symm.trans stays
            rw [stored] at moved
            cases moved
            rfl
  · exact .inr ⟨first, second ++ [event], middle, List.append_assoc _ _ _,
      reached, gone⟩

/-- The session of a delivery is paused while its bytes are on the way, and
completes. -/
def pausedDeliveryScript : List (Nanos × Command) :=
  [(1, .submitSession (Sample.request 2 [2]) (Sample.fence 1)),
    (2, .requestWave ⟨Sample.drawn 0⟩ ⟨0⟩ (Sample.fence 1)),
    (3, .pauseSession ⟨Sample.drawn 0⟩ (Sample.fence 1) []),
    (4, .reportTransfer (Sample.arrival 1 1 0 2) (Sample.fence 1)),
    (5, .reportVerification (Sample.verdict 1 1 0 2 .verified)
      (Sample.fence 1))]

/-- A session and its cancellation. -/
def cancelledScript : List (Nanos × Command) :=
  [(1, .submitSession (Sample.request 2 [2]) (Sample.fence 1)),
    (2, .cancelSession ⟨Sample.drawn 0⟩ (Sample.fence 1) .cancelledByOperator
      [])]

/-- A cancelled session can neither be resumed nor completed. -/
theorem terminal_states_are_absorbing_after_cancellation :
    let start :=
      ((Engine.construct Sample.config 0).executeAll cancelledScript).2
    let calls : List (Nanos × Command) :=
      [(3, .resumeSession ⟨Sample.drawn 0⟩ (Sample.fence 1)),
        (4, .advanceEpoch ⟨⟨1⟩, ⟨2⟩⟩)]
    ∃ session,
      start.sessions.lookup ⟨Sample.drawn 0⟩ = some session ∧
        session.state = .cancelled ∧
        ((∃ kept,
            (start.executeAll calls).2.sessions.lookup ⟨Sample.drawn 0⟩ =
                some kept ∧
              kept.state = session.state) ∨
          ∃ earlier later middle,
            (start.executeAll calls).1 = earlier ++ later ∧
              TerminalRun start earlier middle ∧
              middle.sessions.lookup ⟨Sample.drawn 0⟩ = none) := by
  intro start calls
  have evaluated :
      (start.sessions.lookup ⟨Sample.drawn 0⟩).any
          (fun session => session.state = .cancelled) = true ∧
        ScriptMeets TerminalCondition start calls := by
    decide +kernel
  rcases (Option.any_eq_true _ _).mp evaluated.1 with ⟨session, found, state⟩
  rw [decide_eq_true_iff] at state
  refine ⟨session, found, state, ?_⟩
  refine terminal_states_are_absorbing ?_ found (by rw [state]; rfl)
  exact (Engine.executeAll_conditioned start evaluated.2).mono
    (fun _ _ _ step => ⟨step.1, step.2.2⟩)

/-- A session that completes while it is paused is brought back by resuming
it. -/
theorem completed_session_is_revived :
    ∃ history engine before after,
      EngineRun Sample.config 0 history engine ∧
        engine.sessions.lookup ⟨Sample.drawn 0⟩ = some before ∧
        before.state = .trafficSessionComplete ∧
        (engine.execute 6 (.resumeSession ⟨Sample.drawn 0⟩
          (Sample.fence 1))).2.sessions.lookup ⟨Sample.drawn 0⟩ =
          some after ∧
        after.state = .transferring := by
  have reached :
      (((Engine.construct Sample.config 0).executeAll
        pausedDeliveryScript).2.sessions.lookup ⟨Sample.drawn 0⟩).any
          (fun session => session.state = .trafficSessionComplete) = true ∧
        ((((Engine.construct Sample.config 0).executeAll
          pausedDeliveryScript).2.execute 6
            (.resumeSession ⟨Sample.drawn 0⟩
              (Sample.fence 1))).2.sessions.lookup ⟨Sample.drawn 0⟩).any
          (fun session => session.state = .transferring) = true := by
    decide +kernel
  rcases (Option.any_eq_true _ _).mp reached.1 with ⟨before, found, complete⟩
  rcases (Option.any_eq_true _ _).mp reached.2 with ⟨after, stored, revived⟩
  rw [decide_eq_true_iff] at complete revived
  exact ⟨_, _, before, after, Engine.executeAll_run _ pausedDeliveryScript,
    found, complete, stored, revived⟩

end TrafficFabric
