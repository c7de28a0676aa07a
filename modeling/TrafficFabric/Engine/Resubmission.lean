import TrafficFabric.Engine.Lineage
import TrafficFabric.Engine.Replay

/-!
# Submissions repeated after a restart

Two mechanisms keep a repeated submission from creating a second session: the
replay index, which no snapshot holds, and the search for an active session of
the same checkpoint.  After a restart only the second is left.  It finds the
first session as long as that session is active; once the first session has
ended, the same submission under the same command is admitted again.
-/

namespace TrafficFabric

open Foundation

/-! ## What stands in the way of a submission -/

/-- A submission of the request finds its command remembered, or a stored
session of its checkpoint that is newer, or active and of its generation. -/
def Engine.Carries (engine : Engine) (request : SessionRequest) : Prop :=
  request.command ∈ engine.commandIndex ∨
    ∃ id session,
      engine.sessions.lookup id = some session ∧
        session.request.checkpoint = request.checkpoint ∧
        (request.checkpointGeneration <
            session.request.checkpointGeneration ∨
          isTerminal session.state = false ∧
            session.request.checkpointGeneration =
              request.checkpointGeneration)

/-- No new session is planned then. -/
theorem Engine.Carries.unplanned
    {engine : Engine} {now : Nanos} {request : SessionRequest}
    {fence : CommandFence} (carried : engine.Carries request)
    (lists : checkpointIndex.Lists engine) (plan : AdmissionPlan) :
    engine.admissionPlan now request fence ≠ .ok plan := by
  intro planned
  rcases carried with known | ⟨id, session, found, checkpoint, taken⟩
  · obtain ⟨record, found⟩ := Table.exists_lookup_of_mem known
    obtain ⟨_, failed, _⟩ :=
      @Engine.submissionFenced_known engine request fence record found
    rw [Engine.admissionPlan_of_fenced failed] at planned
    cases planned
  · have listed : id ∈ engine.byCheckpoint.findD request.checkpoint [] :=
      checkpoint ▸ lists id session found
    obtain ⟨newest, settled⟩ := Engine.supersedeTargets_listed
      (Engine.admissionPlan_planned planned).chosen listed found
    rcases taken with newer | ⟨active, same⟩
    · exact newest newer
    · rcases settled with terminal | ⟨_, distinct⟩
      · rw [active] at terminal
        cases terminal
      · exact distinct same

theorem Lineage.lists
    {Key : Type} [DecidableEq Key] (index : SessionIndex Key)
    {Condition : Engine → Nanos → Command → Prop} {engine : Engine}
    (lineage : Lineage Condition engine) :
    index.Lists engine := by
  induction lineage with
  | boot config boot =>
      exact index.lists_construct config boot
  | step _ step _ _ lists =>
      exact lists.step step
  | restart _ config boot now =>
      unfold Engine.restart
      cases accepted : (Engine.construct config boot).restorable
          (Engine.exportSnapshot _) with
      | error status =>
          rw [Engine.restore_refused accepted]
          exact index.lists_construct config boot
      | ok restored =>
          exact Engine.restore_lists index now accepted

/-! ## Repeated submissions -/

/-- In every engine that descends from a construction by commands and
restarts, a submission creates no session while its command is remembered or
a session of its checkpoint is stored that is newer, or active and of its
generation. -/
theorem resubmission_creates_no_session
    {engine : Engine} (lineage : Lineage (fun _ _ _ => True) engine)
    {now : Nanos} {request : SessionRequest} (fence : CommandFence)
    (carried : (engine.observe now).Carries request) :
    (engine.submitSession now request fence).2.sessions =
      (engine.observe now).sessions := by
  have lists : checkpointIndex.Lists (engine.observe now) :=
    (lineage.lists checkpointIndex).edits
      (Engine.observe_edits anyPermits_routine engine now)
  unfold Engine.submitSession
  dsimp only
  split
  · exact (Engine.reject_housekeeping _ _ _ _).sessions
  · rename_i plan planned
    exact absurd planned (carried.unplanned lists plan)

/-- Every script without a restore continues a lineage without conditions. -/
theorem ScriptMeets.unconditioned
    {engine : Engine} {calls : List (Nanos × Command)}
    (ordinary :
      calls.all (fun call =>
        (Event.call call.1 call.2 (.status (.ok ()))).restores = false) =
        true) :
    ScriptMeets (fun _ _ _ => True) engine calls := by
  induction calls generalizing engine with
  | nil =>
      trivial
  | cons first _ hypothesis =>
      rcases first with ⟨now, command⟩
      rw [List.all_cons, Bool.and_eq_true, decide_eq_true_iff] at ordinary
      refine ⟨?_, trivial, hypothesis ordinary.2⟩
      cases command <;> first | rfl | cases ordinary.1

namespace Sample

/-- A fence of the second incarnation. -/
def secondFence : CommandFence :=
  { fence 1 with epoch := ⟨⟨2⟩, ⟨1⟩⟩ }

/-- The engine that a script leaves is restarted and goes on under a new
epoch with another script. -/
def reincarnated (first second : List (Nanos × Command)) : Engine :=
  ((((Engine.construct config 0).executeAll first).2.restart config 0
    8).2.executeAll ((9, .advanceEpoch ⟨⟨2⟩, ⟨1⟩⟩) :: second)).2

theorem reincarnated_lineage
    {first second : List (Nanos × Command)}
    (before :
      first.all (fun call =>
        (Event.call call.1 call.2 (.status (.ok ()))).restores = false) =
        true)
    (after :
      second.all (fun call =>
        (Event.call call.1 call.2 (.status (.ok ()))).restores = false) =
        true) :
    Lineage (fun _ _ _ => True) (reincarnated first second) :=
  (((Lineage.boot config 0).executeAll (.unconditioned before)).restart config
    0 8).executeAll (.unconditioned after)

/-- The submission that is repeated, as it was made first. -/
def firstSubmission : Nanos × Command :=
  (1, .submitSession (request 2 [2]) (fence 1))

/-- The first session is cancelled before the restart; the submission of
another checkpoint follows it. -/
def bereaved : Engine :=
  reincarnated
    [firstSubmission,
      (2, .cancelSession ⟨drawn 0⟩ (fence 1) .cancelledByOperator [])]
    [(10, .submitSession (request 3 [2]) secondFence)]

end Sample

theorem resubmissionScripts_evaluated :
    (((((Sample.reincarnated [Sample.firstSubmission] []).observe
       10).sessions.lookup ⟨Sample.drawn 0⟩).any (fun session =>
         session.request.checkpoint =
             (Sample.request 2 [2]).checkpoint ∧
           isTerminal session.state = false ∧
           session.request.checkpointGeneration =
             (Sample.request 2 [2]).checkpointGeneration)) = true) ∧
      (((Engine.construct Sample.config 0).submitSession 1
           (Sample.request 2 [2]) (Sample.fence 1)).1.toOption.any
             (fun decision => decision.kind = .admitted) = true ∧
         (⟨Sample.drawn 1⟩ : SessionId) ∈
           (Sample.bereaved.submitSession 11 (Sample.request 2 [2])
             Sample.secondFence).2.sessions ∧
         (⟨Sample.drawn 1⟩ : SessionId) ∉
           (Sample.bereaved.observe 11).sessions) := by
  decide +kernel

/-- While its session is active, a submission repeated after a restart finds
it. -/
theorem resubmission_creates_no_session_while_active :
    ((Sample.reincarnated [Sample.firstSubmission] []).submitSession 10
        (Sample.request 2 [2]) Sample.secondFence).2.sessions =
      ((Sample.reincarnated [Sample.firstSubmission] []).observe
        10).sessions := by
  have evaluated := resubmissionScripts_evaluated.1
  rcases (Option.any_eq_true _ _).mp evaluated with ⟨session, found, same⟩
  have ⟨checkpoint, active⟩ := of_decide_eq_true same
  exact resubmission_creates_no_session
    (Sample.reincarnated_lineage rfl rfl) _
    (.inr ⟨⟨Sample.drawn 0⟩, session, found, checkpoint, .inr active⟩)

/-- The admitted session is cancelled before the restart.  Repeated after it,
under the same command, the submission is admitted again and a second session
is stored. -/
theorem resubmission_admitted_twice :
    Lineage (fun _ _ _ => True) Sample.bereaved ∧
      (∃ decision,
        ((Engine.construct Sample.config 0).submitSession 1
            (Sample.request 2 [2]) (Sample.fence 1)).1 = .ok decision ∧
          decision.kind = .admitted) ∧
      ∃ id,
        id ∈ (Sample.bereaved.submitSession 11 (Sample.request 2 [2])
          Sample.secondFence).2.sessions ∧
        id ∉ (Sample.bereaved.observe 11).sessions := by
  have evaluated := resubmissionScripts_evaluated.2
  rcases evaluated with ⟨admitted, created⟩
  refine ⟨Sample.reincarnated_lineage rfl rfl, ?_, _, created⟩
  cases decided : ((Engine.construct Sample.config 0).submitSession 1
      (Sample.request 2 [2]) (Sample.fence 1)).1 with
  | error status =>
      rw [decided] at admitted
      cases admitted
  | ok decision =>
      rw [decided] at admitted
      exact ⟨decision, rfl, of_decide_eq_true admitted⟩

end TrafficFabric
