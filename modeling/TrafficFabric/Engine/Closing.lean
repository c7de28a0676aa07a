import TrafficFabric.Engine.Coverage

/-!
# Steps that only settle sessions

Deadlines, supersessions, cancellations and failed revalidations pass through
states that no caller sees: the bytes are moved first and the session is
settled afterwards.  Seen from outside, such a step leaves every session as it
was, settles it or loses it.
-/

namespace TrafficFabric

open Foundation

variable {before after middle focus : Focus} {ids targets : List SessionId}
  {engine : Engine} {id successor : SessionId} {session : SessionRecord}
  {state : SessionState} {reason : ReasonCode} {detail : Text} {now : Nanos}
  {shaper : RateShaper}

/-- The sessions after a step are as before or in one of the states in
which it leaves sessions. -/
def Engine.Settles
    (Ends : SessionState → Prop) (before after : Engine) : Prop :=
  ∀ id session, after.sessions.lookup id = some session →
    before.sessions.lookup id = some session ∨ Ends session.state

/-- The sessions after a step are as before or settled. -/
def Engine.Closes (before after : Engine) : Prop :=
  Engine.Settles (fun state => isTerminal state = true) before after

namespace Engine.Settles

variable {Ends : SessionState → Prop}

theorem of_sessions
    {before after : Engine} (same : after.sessions = before.sessions) :
    Settles Ends before after := by
  intro id session found
  rw [same] at found
  exact .inl found

theorem refl (engine : Engine) : Settles Ends engine engine :=
  .of_sessions rfl

theorem trans
    {first second third : Engine} (left : Settles Ends first second)
    (right : Settles Ends second third) : Settles Ends first third := by
  intro id session found
  rcases right id session found with earlier | ended
  · exact left id session earlier
  · exact .inr ended

/-- A loop over sessions whose body only settles. -/
theorem visit
    {body : Focus → Engine}
    (each : ∀ focus : Focus, Settles Ends focus.engine (body focus))
    (engine : Engine) : Settles Ends engine (engine.visit ids body) :=
  Engine.visit_rule (fun focus _ _ earlier => earlier.trans (each focus))
    (.refl engine)

theorem closes
    {before after : Engine} (settles : Settles Ends before after)
    (terminal : ∀ state, Ends state → isTerminal state = true) :
    before.Closes after :=
  fun id session found =>
    (settles id session found).imp_right (terminal session.state)

/-- After a loop whose body settles what it visits, what was visited is
settled or gone. -/
theorem visited
    {body : Focus → Engine}
    (each : ∀ focus : Focus, Settles Ends focus.engine (body focus))
    (ends :
      ∀ (focus : Focus) (session : SessionRecord),
        (body focus).sessions.lookup focus.key = some session →
        Ends session.state)
    (member : id ∈ ids)
    (found : (engine.visit ids body).sessions.lookup id = some session) :
    Ends session.state := by
  induction ids generalizing engine with
  | nil =>
      cases member
  | cons _ rest hypothesis =>
      by_cases later : id ∈ rest
      · exact hypothesis later found
      · have own := (List.mem_cons.mp member).resolve_right later
        subst own
        rw [Engine.visit_cons] at found
        rcases visit each _ id session found with earlier | ended
        · cases looked : engine.hold id with
          | none =>
              rw [looked] at earlier
              have missing := Option.map_eq_none_iff.mp looked
              cases missing.symm.trans earlier
          | some focus =>
              rw [looked] at earlier
              rcases Engine.hold_eq_some.mp looked with ⟨rfl, rfl, _⟩
              exact ends focus session earlier
        · exact ended

end Engine.Settles

/-- Permits that withhold nothing. -/
def anyPermits : Permits := {}

theorem anyPermits_routine : anyPermits.Routine :=
  { Permits.Routine.free with }

/-- Settlement in a state with the pruning and the remarks that follow: the
other slots are kept or lost. -/
theorem Focus.Framed.closeAs_confined
    (framed : Focus.Framed before middle)
    (noted :
      Annotated
        (middle.closeAs state reason detail now).pruneHistory after)
    (other : id ≠ before.key)
    (found : after.commit.sessions.lookup id = some session) :
    before.engine.sessions.lookup id = some session := by
  have closed := framed.trans (.closeAs _ state reason detail now)
  have key : after.key = before.key := noted.key.trans closed.key
  have table :
      after.engine.sessions =
        (middle.closeAs state reason detail
          now).commit.pruneHistory.sessions :=
    noted.engine.sessions
  rw [Focus.lookup_commit_ne (by rw [key]; exact other), table] at found
  have kept := Engine.lookup_of_pruneHistory found
  rw [Focus.lookup_commit_ne (by rw [closed.key]; exact other),
    closed.engine.sessions] at kept
  exact kept

/-- Its own slot holds the settled session or is lost. -/
theorem Focus.Framed.closeAs_own
    (framed : Focus.Framed before middle)
    (noted :
      Annotated
        (middle.closeAs state reason detail now).pruneHistory after)
    (found : after.commit.sessions.lookup before.key = some session) :
    session.state = state := by
  have closed := framed.trans (.closeAs _ state reason detail now)
  have key : after.key = before.key := noted.key.trans closed.key
  rw [← key] at found
  rcases after.lookup_commit with gone | kept
  · rw [gone] at found
    cases found
  · rw [kept] at found
    cases found
    rw [noted.state]
    change (middle.closeAs state reason detail now).session.state = state
    rw [Focus.closeAs_session]

theorem Focus.Framed.closeAs_settles
    (framed : Focus.Framed before middle)
    (noted :
      Annotated
        (middle.closeAs state reason detail now).pruneHistory after) :
    Engine.Settles (fun ended => ended = state) before.engine
      after.commit := by
  intro id session found
  by_cases own : id = before.key
  · subst own
    exact .inr (framed.closeAs_own noted found)
  · exact .inl (framed.closeAs_confined noted own found)

theorem Annotated.noteFailure (focus : Focus) :
    Annotated focus (focus.book (fun accounting =>
      { accounting with
        sessionsFailed := accounting.sessionsFailed + 1 })) :=
  .book _ (fun _ => ⟨fun bucket => by cases bucket <;> rfl, rfl, rfl⟩)

/-! ## Deadlines -/

theorem Focus.expire_settles
    (focus : Focus) (deadline now : Nanos) :
    Engine.Settles (fun state => state = .failed) focus.engine
      (focus.expire deadline now) := by
  unfold Focus.expire
  split
  · exact .refl _
  · exact (Focus.Framed.markUnproven focus _).closeAs_settles
      ((Annotated.noteFailure _).trans (Annotated.appendTimeline _ now _))

theorem Engine.enforceFrom_settles
    (now : Nanos) (entries : List (Nanos × List SessionId))
    (engine : Engine) :
    Settles (fun state => state = .failed) engine
      (enforceFrom now entries engine) := by
  induction entries generalizing engine with
  | nil =>
      exact .of_sessions rfl
  | cons _ _ hypothesis =>
      unfold enforceFrom
      split
      · exact .of_sessions rfl
      · exact (Settles.visit
          (fun focus => focus.expire_settles _ now) engine).trans
          (hypothesis _)

theorem isTerminal_of_failed
    (state : SessionState) (failed : state = .failed) :
    isTerminal state = true := by
  rw [failed]
  rfl

theorem Engine.enforceFrom_closes
    (now : Nanos) (entries : List (Nanos × List SessionId))
    (engine : Engine) : engine.Closes (enforceFrom now entries engine) :=
  (Engine.enforceFrom_settles now entries engine).closes isTerminal_of_failed

/-- Observing time only fails sessions. -/
theorem Engine.observe_settles (engine : Engine) (now : Nanos) :
    Settles (fun state => state = .failed) engine (engine.observe now) :=
  (Settles.of_sessions rfl).trans (Engine.enforceFrom_settles now _ _)

theorem Engine.observe_closes (engine : Engine) (now : Nanos) :
    engine.Closes (engine.observe now) :=
  (engine.observe_settles now).closes isTerminal_of_failed

/-! ## Supersession -/

theorem Focus.supersede_settles
    (focus : Focus) (successor : SessionId) (now : Nanos) :
    Engine.Settles (fun state => state = .superseded) focus.engine
      (focus.supersede successor now) := by
  rcases focus.supersede_eq successor now with ⟨after, same, _, _, noted⟩
  rw [same]
  exact (Focus.Framed.markUnproven focus _).closeAs_settles
    noted

theorem Engine.makeRoom_closes
    (engine : Engine) (shaper : RateShaper) (now : Nanos)
    (successor : SessionId) (targets : List SessionId) :
    engine.Closes (engine.makeRoom shaper now successor targets) := by
  have settles :
      Settles (fun state => state = .superseded) engine
        (engine.makeRoom shaper now successor targets) :=
    (Settles.of_sessions rfl).trans
      (Settles.visit (fun focus => focus.supersede_settles successor now) _)
  refine settles.closes ?_
  rintro state rfl
  rfl

/-- Superseded sessions are settled or gone when the new one is enrolled. -/
theorem Engine.makeRoom_superseded
    (target : id ∈ targets)
    (found :
      (engine.makeRoom shaper now successor targets).sessions.lookup id =
        some session) :
    session.state = .superseded := by
  refine Settles.visited
    (fun focus => focus.supersede_settles successor now) ?_ target found
  intro focus kept stored
  rcases focus.supersede_eq successor now with ⟨after, same, key, state, _⟩
  rw [same, ← key] at stored
  rcases after.lookup_commit with gone | written
  · rw [gone] at stored
    cases stored
  · rw [written] at stored
    cases stored
    exact state

/-- Other sessions are kept or lost. -/
theorem Engine.makeRoom_spares
    (spared : id ∉ targets)
    (found :
      (engine.makeRoom shaper now successor targets).sessions.lookup id =
        some session) :
    engine.sessions.lookup id = some session := by
  refine @Engine.visit_rule
    (fun reached => ∀ session, reached.sessions.lookup id = some session →
      engine.sessions.lookup id = some session)
    _ _ ?_ { engine with shaper := shaper } (fun _ stored => stored) session
    found
  intro focus _ member earlier kept stored
  rcases focus.supersede_eq successor now with ⟨after, same, _, _, noted⟩
  rw [same] at stored
  refine earlier kept ((Focus.Framed.markUnproven focus _).closeAs_confined
    noted ?_ stored)
  rintro rfl
  exact spared member

/-! ## Cancellation and failed revalidation -/

theorem Focus.cancel_closes
    (focus : Focus) (reason : ReasonCode) (detail : Text) (now : Nanos) :
    focus.engine.Closes (focus.cancel reason detail now) := by
  have framed : Focus.Framed focus focus.settleOutstandingAsCancelled :=
    ⟨rfl, { Frame.refl focus.engine with }⟩
  refine (framed.closeAs_settles ((Annotated.book _ ?_).trans
    (Annotated.appendTimeline _ now _))).closes ?_
  · intro accounting
    exact ⟨fun bucket => by cases bucket <;> rfl, rfl, rfl⟩
  · rintro state rfl
    rfl

theorem Focus.failRevalidation_closes
    (framed : Focus.Framed focus middle)
    (reason : ReasonCode) (detail : Text) (now : Nanos) :
    focus.engine.Closes (middle.failRevalidation reason detail now) :=
  (framed.closeAs_settles (Annotated.noteFailure _)).closes
    isTerminal_of_failed

/-- A revalidation that fails for good settles its session. -/
theorem Focus.revalidate_closes
    (failed : focus.unrenewable now = true) :
    focus.engine.Closes (focus.revalidate now).2 := by
  have abandoned : Focus.Framed focus focus.abandon := .revise _ _
  unfold Focus.unrenewable at failed
  unfold Focus.revalidate
  dsimp only
  split
  · exact Focus.failRevalidation_closes abandoned _ _ now
  · rename_i contract known
    rw [known] at failed
    dsimp only at failed
    split
    · rename_i envelope path configured routed
      rw [configured, routed] at failed
      dsimp only at failed
      split
      · rename_i refusal refused
        rw [refused] at failed
        dsimp only at failed
        rw [if_pos failed]
        exact Focus.failRevalidation_closes
          (abandoned.trans (.markUnproven _ _)) _ _ now
      · rename_i rate planned
        rw [planned] at failed
        cases failed
    · exact .refl _

end TrafficFabric
