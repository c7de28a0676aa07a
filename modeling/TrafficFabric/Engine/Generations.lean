import TrafficFabric.Engine.Checkpoints
import TrafficFabric.Engine.Observation

/-!
# Stale generations

A submission is refused as stale when a retained session of its checkpoint
has a greater generation.  The engine remembers generations through its
session table only, so they stay stale as long as the newest session of the
checkpoint is not forgotten, no admitted command is repeated and no older
session of the checkpoint comes back to life.  What happens to the sessions of
other checkpoints does not matter.
-/

namespace TrafficFabric

open Foundation

variable {engine : Engine} {now : Nanos} {request : SessionRequest}

/-! ## Submissions that repeat an admission -/

/-- The rejections that may still be answered with an admission. -/
def Rejection.Repeats : Rejection → Prop
  | .replayed _ => True
  | .duplicate _ => True
  | _ => False

namespace Engine

variable {engine : Engine} {now : Nanos} {request : SessionRequest}
  {fence : CommandFence} {rejection : Rejection}

/-- A remembered command is refused or replayed, whatever its fence. -/
theorem submissionFenced_known
    {record : CommandRecord}
    (found : engine.commandIndex.lookup request.command = some record) :
    ∃ rejection,
      engine.submissionFenced request fence = .error rejection ∧
        (rejection = .replayed record ∨
          ∃ status, rejection = .refused status) := by
  cases outcome : engine.submissionFenced request fence with
  | ok =>
      simp only [Engine.submissionFenced, bind_eq_ok, found] at outcome
      rcases outcome with ⟨_, _, _, _, _, _, _, _, _, _, wrong⟩
      cases wrong
  | error rejection =>
      refine ⟨rejection, rfl, ?_⟩
      simp only [Engine.submissionFenced, bind_eq_error, refuseWhen_eq_error,
        found] at outcome
      rcases outcome with refused | ⟨_, _, ⟨_, rfl⟩ | ⟨_, _, ⟨_, rfl⟩ |
        ⟨_, _, ⟨_, rfl⟩ | ⟨_, _, ⟨_, rfl⟩ | ⟨_, _, replayed⟩⟩⟩⟩⟩
      · unfold refusing at refused
        split at refused
        · cases refused
          exact .inr ⟨_, rfl⟩
        · cases refused
      · exact .inr ⟨_, rfl⟩
      · exact .inr ⟨_, rfl⟩
      · exact .inr ⟨_, rfl⟩
      · exact .inr ⟨_, rfl⟩
      · cases replayed
        exact .inl rfl

/-- The replay check repeats the decision of the remembered command. -/
theorem submissionFenced_repeats
    (failed : engine.submissionFenced request fence = .error rejection)
    (repeats : rejection.Repeats) :
    ∃ record, engine.commandIndex.lookup request.command = some record ∧
      rejection = .replayed record := by
  cases found : engine.commandIndex.lookup request.command with
  | some record =>
      obtain ⟨_, again, replayed | ⟨status, rfl⟩⟩ :=
        @submissionFenced_known engine request fence record found
      · cases failed.symm.trans again
        exact ⟨record, rfl, replayed⟩
      · cases failed.symm.trans again
        exact repeats.elim
  | none =>
      unfold submissionFenced at failed
      rw [found] at failed
      simp only [bind_eq_error, refuseWhen_eq_error] at failed
      rcases failed with refused | ⟨_, _, ⟨_, rfl⟩ | ⟨_, _, ⟨_, rfl⟩ |
        ⟨_, _, ⟨_, rfl⟩ | ⟨_, _, wrong⟩⟩⟩⟩
      · unfold refusing at refused
        split at refused
        · cases refused
          exact repeats.elim
        · cases refused
      · exact repeats.elim
      · exact repeats.elim
      · exact repeats.elim
      · cases wrong

/-- The loop over the sessions of a checkpoint repeats an admission when it
finds an active session of the same generation and manifest. -/
theorem supersedeTargets_repeats
    {ids : List SessionId}
    (failed : engine.supersedeTargets request ids = .error rejection)
    (repeats : rejection.Repeats) :
    ∃ id ∈ ids, ∃ existing,
      engine.sessions.lookup id = some existing ∧
        isTerminal existing.state = false ∧
        existing.request.checkpointGeneration =
          request.checkpointGeneration ∧
        manifestsEquivalent existing.request.manifest request.manifest =
          true ∧
        rejection = .duplicate existing := by
  have later {first : SessionId} {rest : List SessionId} {Found : SessionId → Prop} :
      (∃ id ∈ rest, Found id) → ∃ id ∈ first :: rest, Found id :=
    fun ⟨id, member, found⟩ => ⟨id, List.mem_cons_of_mem _ member, found⟩
  induction ids with
  | nil =>
      cases failed
  | cons first rest hypothesis =>
      unfold supersedeTargets at failed
      split at failed
      · exact later (hypothesis failed)
      · rename_i existing found
        simp only [bind_eq_error, refuseWhen_eq_error] at failed
        rcases failed with ⟨_, rfl⟩ | ⟨_, _, chosen⟩
        · exact repeats.elim
        · split at chosen
          · exact later (hypothesis chosen)
          · rename_i active
            simp only [bind_eq_error, refuseWhen_eq_error] at chosen
            rcases chosen with ⟨same, rfl⟩ | ⟨_, _, ⟨_, rfl⟩ |
              ⟨_, _, chosen | ⟨_, _, wrong⟩⟩⟩
            · exact ⟨first, List.mem_cons_self, existing, found,
                isTerminal_eq_false active, same.1, same.2, rfl⟩
            · exact repeats.elim
            · exact later (hypothesis chosen)
            · cases wrong

theorem manifestAccepted_repeats
    (failed : engine.manifestAccepted request = .error rejection) :
    ¬ rejection.Repeats := by
  simp only [manifestAccepted, bind_eq_error, refuseWhen_eq_error] at failed
  rcases failed with invalid | ⟨_, _, _, rfl⟩
  · unfold denyingManifest at invalid
    split at invalid
    · cases invalid
      exact not_false
    · cases invalid
  · exact not_false

theorem boundsAvailable_repeats
    {contract : WorkloadContract} {envelope : IsolationEnvelopeConfig}
    {isolation : IsolationClass}
    (failed :
      engine.boundsAvailable now request contract envelope isolation =
        .error rejection) :
    ¬ rejection.Repeats := by
  simp only [boundsAvailable, bind_eq_error, refuseWhen_eq_error] at failed
  rcases failed with ⟨_, rfl⟩ | ⟨_, _, ⟨_, rfl⟩ | ⟨_, _, _, rfl⟩⟩ <;>
    exact not_false

/-- A rejection that repeats an admission comes from the replay check or from
an active session of the same generation and manifest that is listed under
the checkpoint. -/
theorem admissionPlan_origin
    (failed : engine.admissionPlan now request fence = .error rejection)
    (repeats : rejection.Repeats) :
    engine.submissionFenced request fence = .error rejection ∨
      ∃ id ∈ engine.byCheckpoint.findD request.checkpoint [], ∃ existing,
        engine.sessions.lookup id = some existing ∧
          isTerminal existing.state = false ∧
          existing.request.checkpointGeneration =
            request.checkpointGeneration ∧
          manifestsEquivalent existing.request.manifest request.manifest =
            true ∧
          rejection = .duplicate existing := by
  unfold admissionPlan at failed
  rcases bind_eq_error.mp failed with fenced | ⟨_, _, failed⟩
  · exact .inl fenced
  rcases bind_eq_error.mp failed with closed | ⟨_, _, failed⟩
  · rcases refuseWhen_eq_error.mp closed with ⟨_, rfl⟩
    exact repeats.elim
  rcases bind_eq_error.mp failed with unknown | ⟨contract, _, failed⟩
  · rcases requireSome_eq_error.mp unknown with ⟨_, rfl⟩
    exact repeats.elim
  rcases bind_eq_error.mp failed with stale | ⟨_, _, failed⟩
  · rcases refuseWhen_eq_error.mp stale with ⟨_, rfl⟩
    exact repeats.elim
  rcases bind_eq_error.mp failed with invalid | ⟨_, _, failed⟩
  · exact absurd repeats (manifestAccepted_repeats invalid)
  rcases bind_eq_error.mp failed with bare | ⟨envelope, _, failed⟩
  · rcases requireSome_eq_error.mp bare with ⟨_, rfl⟩
    exact repeats.elim
  rcases bind_eq_error.mp failed with unserved | ⟨path, _, failed⟩
  · rcases requireSome_eq_error.mp unserved with ⟨_, rfl⟩
    exact repeats.elim
  rcases bind_eq_error.mp failed with misrouted | ⟨_, _, failed⟩
  · rcases refuseWhen_eq_error.mp misrouted with ⟨_, rfl⟩
    exact repeats.elim
  rcases bind_eq_error.mp failed with unresolved | ⟨resolved, _, failed⟩
  · rcases requireSome_eq_error.mp unresolved with ⟨_, rfl⟩
    exact repeats.elim
  rcases bind_eq_error.mp failed with repeated | ⟨targets, _, failed⟩
  · exact .inr (supersedeTargets_repeats repeated repeats)
  rcases bind_eq_error.mp failed with forbidden | ⟨_, _, failed⟩
  · rcases refuseWhen_eq_error.mp forbidden with ⟨_, rfl⟩
    exact repeats.elim
  rcases bind_eq_error.mp failed with long | ⟨_, _, failed⟩
  · rcases refuseWhen_eq_error.mp long with ⟨_, rfl⟩
    exact repeats.elim
  rcases bind_eq_error.mp failed with large | ⟨_, _, failed⟩
  · rcases refuseWhen_eq_error.mp large with ⟨_, rfl⟩
    exact repeats.elim
  rcases bind_eq_error.mp failed with bounded | ⟨_, _, failed⟩
  · exact absurd repeats (boundsAvailable_repeats bounded)
  split at failed
  · cases failed
    unfold rateRejection at repeats
    split at repeats <;> exact repeats.elim
  · cases failed

end Engine

/-! ## Submissions of a checkpoint -/

/-- The response admits a submission. -/
def Response.admits : Response → Bool
  | .decision (.ok made) => made.kind == .admitted
  | _ => false

/-- The event admits a submission of a generation of a checkpoint. -/
def Event.Admits
    (checkpoint : CheckpointId) (generation : CheckpointGeneration) :
    Event → Prop
  | .call _ (.submitSession request _) response =>
      request.checkpoint = checkpoint ∧
        request.checkpointGeneration = generation ∧
        response.admits = true
  | _ => False

instance (checkpoint : CheckpointId) (generation : CheckpointGeneration)
    (event : Event) : Decidable (event.Admits checkpoint generation) := by
  unfold Event.Admits
  split <;> infer_instance

/-- A session of the checkpoint that is at least as new is retained. -/
def Engine.Knows
    (engine : Engine) (checkpoint : CheckpointId)
    (generation : CheckpointGeneration) : Prop :=
  ∃ id session, engine.sessions.lookup id = some session ∧
    session.request.checkpoint = checkpoint ∧
    ¬ session.request.checkpointGeneration < generation

/-- What a submission asks of its own checkpoint: its command is not one that
was admitted, what was admitted of the checkpoint is still known when the
deadlines that are due have been enforced, and no listed session of the
submitted generation and manifest is active. -/
structure StaleCondition
    (history : List Event) (engine : Engine) (now : Nanos)
    (request : SessionRequest) : Prop where
  unreplayed :
    ∀ record ∈ engine.commandIndex.lookup request.command,
      record.kind ≠ .admitted
  retained :
    ∀ event ∈ history, ∀ generation,
      event.Admits request.checkpoint generation →
        (engine.observe now).Knows request.checkpoint generation
  unrevived :
    ∀ id ∈ (engine.observe now).byCheckpoint.findD request.checkpoint [],
      ∀ session ∈ (engine.observe now).sessions.lookup id,
        isTerminal session.state = false →
        session.request.checkpointGeneration =
          request.checkpointGeneration →
        manifestsEquivalent session.request.manifest request.manifest = false

/-- A request that is no older than a retained session is no older than what
that session covers. -/
theorem Generation.not_lt_of_known
    {domain : GenerationDomain} {asked kept known : Generation domain}
    (newest : ¬ asked < kept) (above : ¬ kept < known) :
    ¬ asked < known := by
  intro stale
  have first : kept.value ≤ asked.value := UInt64.not_lt.mp newest
  have second : known.value ≤ kept.value := UInt64.not_lt.mp above
  have third : asked.value < known.value := stale
  exact absurd third (UInt64.not_lt.mpr (UInt64.le_trans second first))

/-- An admission that repeats an earlier one does not meet the condition. -/
theorem StaleCondition.unrepeated
    {history : List Event} {fence : CommandFence} {rejection : Rejection}
    (condition : StaleCondition history engine now request)
    (rejected :
      (engine.observe now).admissionPlan now request fence =
        .error rejection) :
    (Response.decision
      ((engine.observe now).reject now request rejection).1).admits =
        false := by
  by_contra admitted
  rw [Bool.not_eq_false] at admitted
  have repeats : rejection.Repeats := by
    cases rejection <;> first
      | exact trivial
      | cases admitted
  rcases Engine.admissionPlan_origin rejected repeats with
    fenced | ⟨id, listed, existing, found, active, same, alike, _⟩
  · obtain ⟨record, found, rfl⟩ :=
      Engine.submissionFenced_repeats fenced repeats
    rw [show (engine.observe now).commandIndex = engine.commandIndex from
      congrArg Authority.commandIndex (engine.observe_authority now)] at found
    exact condition.unreplayed record found (beq_iff_eq.mp admitted)
  · have other := condition.unrevived id listed existing found active same
    rw [alike] at other
    cases other

/-- In every run, restores included, a submission that meets the condition and
is older than a submission of its checkpoint that was admitted before is not
admitted. -/
theorem stale_generations_stay_stale
    {config : EngineConfig} {boot : Nanos} {history : List Event}
    {engine : Engine} (run : EngineRun config boot history engine)
    {event : Event} (earlier : event ∈ history)
    {now : Nanos} {request : SessionRequest}
    {generation : CheckpointGeneration}
    (admits : event.Admits request.checkpoint generation)
    (stale : request.checkpointGeneration < generation)
    (condition : StaleCondition history engine now request)
    (fence : CommandFence) :
    (engine.execute now (.submitSession request fence)).1.admits = false := by
  change (Response.decision
    (engine.submitSession now request fence).1).admits = false
  unfold Engine.submitSession
  dsimp only
  split
  · rename_i rejection rejected
    exact condition.unrepeated rejected
  · rename_i plan passed
    obtain ⟨other, session, stored, same, covers⟩ :=
      condition.retained event earlier generation admits
    have lists : checkpointIndex.Lists (engine.observe now) :=
      (run.lists checkpointIndex).edits (engine.observe_idle now)
    have listed := lists other session stored
    change other ∈ (engine.observe now).byCheckpoint.findD
      session.request.checkpoint [] at listed
    rw [same] at listed
    exact absurd stale (Generation.not_lt_of_known
      (Engine.supersedeTargets_listed
        (Engine.admissionPlan_planned passed).chosen listed stored).1 covers)

/-- The second generation of a checkpoint is admitted, and a session of another
checkpoint comes and goes. -/
def staleScript : List (Nanos × Command) :=
  [(1, .submitSession (Sample.regenerated (Sample.request 2 [2]) 3 2)
    (Sample.fence 1)),
    (2, .submitSession (Sample.request 3 [2]) (Sample.fence 1)),
    (3, .cancelSession ⟨Sample.drawn 1⟩ (Sample.fence 1)
      .cancelledByOperator [])]

/-- After the older session is resumed, its generation is submitted again. -/
def resubmittedOlderScript : List (Nanos × Command) :=
  resumedOlderScript ++
    [(8, .submitSession
      { Sample.request 2 [2] with command := ⟨Sample.uuid 4⟩ }
      (Sample.fence 1))]

theorem generationsScripts_evaluated :
    (let engine :=
       ((Engine.construct Sample.config 0).executeAll staleScript).2
     let request := Sample.request 2 [2]
     ((Engine.construct Sample.config 0).execute 1
         (.submitSession (Sample.regenerated (Sample.request 2 [2]) 3 2)
           (Sample.fence 1))).1.admits = true ∧
       engine.commandIndex.lookup request.command = none ∧
       ((engine.observe 4).sessions.lookup ⟨Sample.drawn 0⟩).any
         (fun session =>
           session.request.checkpoint = request.checkpoint ∧
             session.request.checkpointGeneration = ⟨2⟩) = true ∧
       ∀ id ∈ (engine.observe 4).byCheckpoint.findD request.checkpoint [],
         ∀ session ∈ (engine.observe 4).sessions.lookup id,
           session.request.checkpointGeneration ≠
             request.checkpointGeneration) ∧
      (let history :=
         ((Engine.construct Sample.config 0).executeAll
           resubmittedOlderScript).1
       history[5]?.any (fun first =>
           first.Admits ⟨Sample.uuid 2⟩ ⟨2⟩) = true ∧
         history[7]?.any (fun second =>
           second.Admits ⟨Sample.uuid 2⟩ ⟨1⟩) = true) := by
  decide +kernel

/-- The first generation is not admitted after the second. -/
theorem stale_generations_stay_stale_in_script :
    (((Engine.construct Sample.config 0).executeAll
      staleScript).2.execute 4 (.submitSession (Sample.request 2 [2])
        (Sample.fence 1))).1.admits = false := by
  obtain ⟨admitted, unknown, present, unrevived⟩ :=
    generationsScripts_evaluated.1
  obtain ⟨session, found, holds⟩ := (Option.any_eq_true _ _).mp present
  rw [decide_eq_true_iff] at holds
  have run := Engine.executeAll_run (Engine.construct Sample.config 0)
    staleScript
  obtain ⟨first, second, third, shape, newest, only, other, none_⟩ :
      ∃ first second third,
        ((Engine.construct Sample.config 0).executeAll staleScript).1 =
            [first, second, third] ∧
          first.Admits ⟨Sample.uuid 2⟩ ⟨2⟩ ∧
          (∀ generation, first.Admits ⟨Sample.uuid 2⟩ generation →
            generation = ⟨2⟩) ∧
          (∀ generation, ¬ second.Admits ⟨Sample.uuid 2⟩ generation) ∧
          ∀ generation, ¬ third.Admits ⟨Sample.uuid 2⟩ generation :=
    ⟨_, _, _, rfl, ⟨rfl, rfl, admitted⟩, fun _ admits => admits.2.1.symm,
      fun _ admits => absurd admits.1 (by decide), fun _ => id⟩
  refine stale_generations_stay_stale run (shape ▸ List.mem_cons_self)
    newest (by decide) ⟨?_, ?_, ?_⟩ _
  · intro record known
    cases unknown.symm.trans known
  · intro event member generation admits
    rw [shape] at member
    rcases List.mem_cons.mp member with rfl | member
    · refine ⟨_, session, found, holds.1, ?_⟩
      rw [holds.2, only generation admits]
      exact Generation.lt_irrefl _
    rcases List.mem_cons.mp member with rfl | member
    · exact absurd admits (other generation)
    · cases List.mem_singleton.mp member
      exact absurd admits (none_ generation)
  · intro id listed record stored _ same
    exact absurd same (unrevived id listed record stored)

/-- The older generation is admitted after the newer one. -/
theorem resumed_generation_is_admitted_again :
    ∃ history engine first second,
      EngineRun Sample.config 0 history engine ∧
        (∀ event ∈ history, event.restores = false) ∧
        history[5]? = some first ∧
        history[7]? = some second ∧
        first.Admits ⟨Sample.uuid 2⟩ ⟨2⟩ ∧
        second.Admits ⟨Sample.uuid 2⟩ ⟨1⟩ := by
  have reached := generationsScripts_evaluated.2
  rcases (Option.any_eq_true _ _).mp reached.1 with ⟨first, found, newer⟩
  rcases (Option.any_eq_true _ _).mp reached.2 with ⟨second, stored, older⟩
  rw [decide_eq_true_iff] at newer older
  refine ⟨_, _, first, second,
    Engine.executeAll_run _ resubmittedOlderScript, ?_, found, stored, newer,
    older⟩
  simp [Engine.executeAll, resubmittedOlderScript, resumedOlderScript,
    pausedDeliveryScript, Event.restores]

end TrafficFabric
