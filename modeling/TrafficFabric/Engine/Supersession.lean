import TrafficFabric.Engine.Checkpoints
import TrafficFabric.Engine.Deadlines
import TrafficFabric.Engine.Observation

/-!
# Whose sessions a submission supersedes

The permission to supersede is read from the contract of the submitting
workload, while the sessions to supersede are found by their checkpoint
alone.  A workload that forbids supersession is therefore not protected against
the submissions of other workloads.
-/

namespace TrafficFabric

open Foundation

variable {engine : Engine} {now : Nanos} {id : SessionId}
  {session : SessionRecord} {request : SessionRequest} {plan : AdmissionPlan}

/-- The contract of the session's workload forbids supersession. -/
def Engine.shields (engine : Engine) (session : SessionRecord) : Bool :=
  (engine.contracts.lookup session.request.workload).any
    (fun contract => !contract.allowSupersession)

/-- The submission passes the admission checks and its rate can be reserved,
so that the engine goes on to supersede and to enroll. -/
def Engine.makesRoom
    (engine : Engine) (now : Nanos) (request : SessionRequest)
    (fence : CommandFence) : Bool :=
  match (engine.observe now).admissionPlan now request fence with
  | .error _ => false
  | .ok plan =>
      ((engine.observe now).shaper.reservePathRate plan.path
        plan.rateBps).isSome

/-- The submission is not admitted as a new session, or no active session
that is listed under its checkpoint is shielded. -/
def ShieldCondition
    (engine : Engine) (now : Nanos) (request : SessionRequest)
    (fence : CommandFence) : Prop :=
  engine.makesRoom now request fence = true →
    ∀ id ∈ (engine.observe now).byCheckpoint.findD request.checkpoint [],
      ∀ session ∈ (engine.observe now).sessions.lookup id,
        isTerminal session.state = false → engine.shields session = false

instance
    (engine : Engine) (now : Nanos) (request : SessionRequest)
    (fence : CommandFence) :
    Decidable (ShieldCondition engine now request fence) :=
  inferInstanceAs (Decidable (_ → ∀ _ ∈ _, ∀ _ ∈ _, _ → _))

/-- The submission does not supersede the session: if the session outlives the
deadlines that are due it stays as it is, and what is left of it is not
superseded. -/
def Engine.Spares
    (engine : Engine) (now : Nanos) (request : SessionRequest)
    (fence : CommandFence) (id : SessionId) (session : SessionRecord) :
    Prop :=
  let after := (engine.submitSession now request fence).2
  ((engine.observe now).sessions.lookup id = some session →
      after.sessions.lookup id = some session) ∧
    ∀ later ∈ after.sessions.lookup id, later.state ≠ .superseded

/-! ## What a submission does to the table -/

/-- A submission leaves the table as it is, or makes room for the planned
session and enrolls it. -/
theorem Engine.submitSession_sessions
    (engine : Engine) (now : Nanos) (request : SessionRequest)
    (fence : CommandFence) :
    engine.makesRoom now request fence = false ∧
        (engine.submitSession now request fence).2.sessions =
          (engine.observe now).sessions ∨
      engine.makesRoom now request fence = true ∧
        ∃ plan shaper,
          (engine.observe now).Planned request plan ∧
            (engine.submitSession now request fence).2.sessions =
              (((engine.observe now).drawn.makeRoom shaper now
                ((engine.observe now).newSession now request plan).id
                plan.targets).enroll
                ((engine.observe now).newSession now request
                  plan)).sessions := by
  unfold Engine.submitSession Engine.makesRoom
  dsimp only
  cases planned : (engine.observe now).admissionPlan now request fence with
  | error =>
      exact .inl ⟨rfl, (Engine.reject_housekeeping _ _ _ _).sessions⟩
  | ok plan =>
      have unchanged :
          (engine.observe now).drawn.shaper = (engine.observe now).shaper :=
        rfl
      unfold Engine.commitAdmission
      dsimp only
      rw [unchanged]
      cases (engine.observe now).shaper.reservePathRate plan.path
          plan.rateBps with
      | none =>
          exact .inl ⟨rfl, rfl⟩
      | some shaper =>
          exact .inr ⟨rfl, plan, shaper,
            Engine.admissionPlan_planned planned, rfl⟩

/-- Making room keeps the active sessions that are not superseded. -/
theorem Engine.makeRoom_keeps
    {shaper : RateShaper} {successor : SessionId} {targets : List SessionId}
    (spared : id ∉ targets)
    (found : engine.sessions.lookup id = some session)
    (active : isTerminal session.state = false) :
    (engine.makeRoom shaper now successor targets).sessions.lookup id =
      some session := by
  refine @Engine.visit_rule
    (fun reached => reached.sessions.lookup id = some session) _ _ ?_
    { engine with shaper := shaper } found
  intro focus _ member kept
  rcases focus.supersede_eq successor now with ⟨after, same, _, _, noted⟩
  rw [same]
  refine (Focus.Framed.markUnproven focus _).closeAs_spares noted ?_ kept
    active
  rintro rfl
  exact spared member

/-- So does the enrolment of a new one. -/
theorem Engine.enroll_keeps
    (found : engine.sessions.lookup id = some session)
    (enrolled : SessionRecord) :
    (engine.enroll enrolled).sessions.lookup id = some session := by
  rw [Engine.enroll_sessions]
  by_cases own : id = enrolled.id
  · subst own
    rw [Table.lookup_emplace_self, found]
    rfl
  · rw [Table.lookup_emplace_ne own]
    exact found

/-- An active session that time leaves in the table is unchanged or failed,
so it is not superseded. -/
theorem Engine.observed_unsuperseded
    {later : SessionRecord}
    (found : engine.sessions.lookup id = some session)
    (active : isTerminal session.state = false)
    (stored : (engine.observe now).sessions.lookup id = some later) :
    later.state ≠ .superseded := by
  intro superseded
  rcases engine.observe_settles now id later stored with known | failed
  · cases found.symm.trans known
    rw [superseded] at active
    cases active
  · rw [superseded] at failed
    cases failed

/-! ## Shielded sessions -/

/-- A session outside the targets is spared. -/
theorem Engine.spares_of_untargeted
    {fence : CommandFence} {shaper : RateShaper}
    (table :
      (engine.submitSession now request fence).2.sessions =
        (((engine.observe now).drawn.makeRoom shaper now
          ((engine.observe now).newSession now request plan).id
          plan.targets).enroll
          ((engine.observe now).newSession now request plan)).sessions)
    (found : engine.sessions.lookup id = some session)
    (active : isTerminal session.state = false)
    (spared : id ∉ plan.targets) :
    engine.Spares now request fence id session := by
  unfold Engine.Spares
  dsimp only
  rw [table]
  constructor
  · intro stored
    have drawn :
        (engine.observe now).drawn.sessions.lookup id = some session := stored
    exact Engine.enroll_keeps
      (Engine.makeRoom_keeps spared drawn active) _
  · intro later kept
    rcases Engine.lookup_enroll kept with cleared | ⟨_, rfl, _⟩
    · have stored := Engine.makeRoom_spares spared cleared
      exact Engine.observed_unsuperseded found active stored
    · simp [Engine.newSession, SessionRecord.appendTimeline, admittedSession]

/-- A target is not: it is superseded or evicted, and a new session in its
place would be of another generation. -/
theorem Engine.not_spares_of_target
    {fence : CommandFence} {shaper : RateShaper}
    (table :
      (engine.submitSession now request fence).2.sessions =
        (((engine.observe now).drawn.makeRoom shaper now
          ((engine.observe now).newSession now request plan).id
          plan.targets).enroll
          ((engine.observe now).newSession now request plan)).sessions)
    (stored : (engine.observe now).sessions.lookup id = some session)
    (active : isTerminal session.state = false)
    (target : id ∈ plan.targets)
    (distinct :
      session.request.checkpointGeneration ≠ request.checkpointGeneration) :
    ¬ engine.Spares now request fence id session := by
  unfold Engine.Spares
  dsimp only
  rw [table]
  rintro ⟨kept, _⟩
  rcases Engine.lookup_enroll (kept stored) with cleared | ⟨_, same, _⟩
  · rw [Engine.makeRoom_superseded target cleared] at active
    cases active
  · rw [same] at distinct
    exact distinct rfl

/-- A submission leaves the active sessions of every workload that forbids
supersession unsuperseded exactly under the condition. -/
theorem submission_spares_shielded_sessions_iff
    (engine : Engine) (now : Nanos) (request : SessionRequest)
    (fence : CommandFence) :
    (∀ id session, engine.sessions.lookup id = some session →
        isTerminal session.state = false → engine.shields session = true →
          engine.Spares now request fence id session) ↔
      ShieldCondition engine now request fence := by
  rcases engine.submitSession_sessions now request fence with
    ⟨refused, table⟩ | ⟨roomy, plan, shaper, planned, table⟩
  · refine iff_of_true ?_ (fun roomy => by rw [refused] at roomy; cases roomy)
    intro id session found active _
    unfold Engine.Spares
    dsimp only
    rw [table]
    exact ⟨fun stored => stored,
      fun _ => Engine.observed_unsuperseded found active⟩
  · constructor
    · intro spares _ id listed session stored active
      by_contra shielded
      have found := Engine.lookup_of_observe stored active
      rcases (Engine.supersedeTargets_listed planned.chosen listed stored).2
        with terminal | ⟨target, distinct⟩
      · rw [active] at terminal
        cases terminal
      · exact Engine.not_spares_of_target table stored active target distinct
          (spares id session found active (Bool.not_eq_false _ ▸ shielded))
    · intro condition id session found active shielded
      refine Engine.spares_of_untargeted table found active ?_
      intro target
      obtain ⟨listed, later, stored, awake⟩ :=
        Engine.supersedeTargets_ok planned.chosen id target
      cases found.symm.trans (Engine.lookup_of_observe stored awake)
      rw [condition roomy id listed session stored active] at shielded
      cases shielded

/-- Two workloads, the first of which forbids supersession. -/
def Sample.sharedConfig : EngineConfig :=
  { Sample.config with
    contracts :=
      [{ Sample.contract with allowSupersession := false },
        { Sample.contract with workload := ⟨Sample.uuid 9⟩ }] }

/-- The same request by the second workload. -/
def Sample.byNeighbour (request : SessionRequest) : SessionRequest :=
  let undigested := { request.manifest with workload := ⟨Sample.uuid 9⟩ }
  { request with
    workload := ⟨Sample.uuid 9⟩
    manifest :=
      { undigested with
        manifestDigest := computeManifestDigest undigested } }

/-- The active session of the first workload is superseded by the next
generation, which the second workload submits. -/
theorem neighbour_supersedes_shielded_session :
    ∃ history engine session after,
      EngineRun Sample.sharedConfig 0 history engine ∧
        engine.sessions.lookup ⟨Sample.drawn 0⟩ = some session ∧
        isTerminal session.state = false ∧
        engine.shields session = true ∧
        (engine.submitSession 2
          (Sample.byNeighbour
            (Sample.regenerated (Sample.request 2 [2]) 3 2))
          (Sample.fence 1)).2.sessions.lookup ⟨Sample.drawn 0⟩ =
            some after ∧
        after.state = .superseded := by
  have reached :
      let engine :=
        ((Engine.construct Sample.sharedConfig 0).executeAll
          Sample.admittedScript).2
      (engine.sessions.lookup ⟨Sample.drawn 0⟩).any (fun session =>
          isTerminal session.state = false ∧
            engine.shields session = true) = true ∧
        ((engine.submitSession 2
          (Sample.byNeighbour
            (Sample.regenerated (Sample.request 2 [2]) 3 2))
          (Sample.fence 1)).2.sessions.lookup ⟨Sample.drawn 0⟩).any
            (fun after => after.state = .superseded) = true := by
    decide +kernel
  rcases reached with ⟨present, superseded⟩
  rcases (Option.any_eq_true _ _).mp present with ⟨session, found, holds⟩
  rcases (Option.any_eq_true _ _).mp superseded with ⟨after, kept, moved⟩
  rw [decide_eq_true_iff] at holds moved
  exact ⟨_, _, session, after, Engine.executeAll_run _ Sample.admittedScript,
    found, holds.1, holds.2, kept, moved⟩

end TrafficFabric
