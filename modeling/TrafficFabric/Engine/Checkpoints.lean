import TrafficFabric.Engine.Closing
import TrafficFabric.Engine.Terminal

/-!
# One current session for each checkpoint

A submission supersedes the active sessions of its checkpoint and is refused
when a newer generation is known, so a checkpoint has at most one active
session and that session carries its greatest generation.  Resuming a session
that ended while it was paused is the one way around this, besides snapshots
that are not in order themselves.
-/

namespace TrafficFabric

open Foundation

variable {before after engine : Engine} {id : SessionId}
  {session : SessionRecord} {now : Nanos}

/-! ## Where sessions come from -/

/-- The record continues an earlier one: the request is the same, and what
was terminal stays terminal. -/
structure SessionRecord.Continues (earlier later : SessionRecord) : Prop where
  request : later.request = earlier.request
  terminal :
    isTerminal earlier.state = true → isTerminal later.state = true

theorem SessionRecord.Continues.refl (session : SessionRecord) :
    session.Continues session :=
  ⟨rfl, fun terminal => terminal⟩

section

variable {permits : Permits}
  (resumes :
    ∀ focus, permits.resume focus → isTerminal focus.session.state = false)

include resumes

theorem Change.continues
    {before after : Focus} (change : Change permits before after) :
    before.session.Continues after.session where
  request := change.request.1
  terminal := by
    intro terminal
    rw [change.state_of_terminal resumes terminal]
    exact terminal

/-- A session after an edit continues one before it or was enrolled by it. -/
theorem Edit.origin
    (edit : Edit permits before after)
    (found : after.sessions.lookup id = some session) :
    (∃ earlier, before.sessions.lookup id = some earlier ∧
        earlier.Continues session) ∨
      (id ∉ before.sessions ∧ permits.enroll before session ∧
        after = before.enroll session) := by
  cases edit with
  | housekeeping _ _ same =>
      rw [same.sessions] at found
      exact .inl ⟨session, found, .refl session⟩
  | prune =>
      exact .inl ⟨session, Engine.lookup_of_pruneHistory found,
        .refl session⟩
  | enroll _ _ _ permitted =>
      rcases Engine.lookup_enroll found with known | ⟨rfl, rfl, new⟩
      · exact .inl ⟨session, known, .refl session⟩
      · exact .inr ⟨new, permitted, rfl⟩
  | @change first second live performed =>
      left
      refine @Change.forall_sessions _ _ _
        (fun id session => ∃ earlier,
          first.commit.sessions.lookup id = some earlier ∧
            earlier.Continues session)
        performed live
        (fun _ session known => ⟨session, known, .refl session⟩) ?_ id
        session found
      intro _
      exact ⟨first.session, Focus.lookup_commit_self live,
        performed.continues resumes⟩
  | _ =>
      exact .inl ⟨session, found, .refl session⟩

end

/-- Settling and passing time only continue sessions. -/
theorem Edits.origin_of_idle
    (edits : Edits idlePermits before after)
    (found : after.sessions.lookup id = some session) :
    ∃ earlier, before.sessions.lookup id = some earlier ∧
      session.request = earlier.request := by
  refine @Edits.forall_sessions _
    (fun id session => ∃ earlier,
      before.sessions.lookup id = some earlier ∧
        session.request = earlier.request)
    _ _ edits ?_ (fun _ _ _ permitted => permitted.elim)
    (fun _ session known => ⟨session, known, rfl⟩) id session found
  rintro first second _ change ⟨earlier, known, same⟩
  exact ⟨earlier, known, change.request.1.trans same⟩

/-! ## Every session stays listed -/

section

variable {Key : Type} [DecidableEq Key] (index : SessionIndex Key)

theorem SessionIndex.lists_construct (config : EngineConfig) (boot : Nanos) :
    index.Lists (Engine.construct config boot) := by
  intro id session found
  rw [(Engine.construct_blank config boot).1] at found
  cases found

variable {index}

theorem SessionIndex.Lists.step
    {event : Event} (lists : index.Lists before)
    (step : Step before event after) : index.Lists after := by
  cases step with
  | call now command =>
      by_cases restoring : ∃ snapshot, command = .restore snapshot
      · obtain ⟨snapshot, rfl⟩ := restoring
        change index.Lists (before.restore now snapshot).2
        cases accepted : before.restorable snapshot with
        | error =>
            unfold Engine.restore Engine.guarded
            rw [accepted]
            exact lists
        | ok =>
            exact Engine.restore_lists index now accepted
      · exact lists.edits (Engine.execute_edits anyPermits_routine _ now
          command (Permits.Grounds.allow (.free _ now command)
            (fun snapshot same => restoring ⟨snapshot, same⟩)))
  | rehash _ _ same =>
      intro id session found
      exact lists id session ((AList.perm_lookup same).symm.trans found)

theorem EngineRun.lists
    {config : EngineConfig} {boot : Nanos} {history : List Event}
    (run : EngineRun config boot history engine)
    (index : SessionIndex Key) : index.Lists engine :=
  Run.invariant (index.lists_construct config boot)
    (fun _ _ _ step lists => lists.step step) run

end

/-! ## The order of a checkpoint -/

/-- Every other session of the checkpoint is terminal and not newer. -/
def Engine.Precedes (engine : Engine) (session : SessionRecord) : Prop :=
  ∀ other record, engine.sessions.lookup other = some record →
    record.request.checkpoint = session.request.checkpoint →
    isTerminal record.state = true ∧
      ¬ session.request.checkpointGeneration <
        record.request.checkpointGeneration

/-- A checkpoint has at most one active session, and that one is its
newest. -/
structure Engine.Orderly (engine : Engine) : Prop where
  listed : checkpointIndex.Lists engine
  current :
    ∀ id session, engine.sessions.lookup id = some session →
      isTerminal session.state = false →
      ∀ other record, engine.sessions.lookup other = some record →
        record.request.checkpoint = session.request.checkpoint →
        (other = id ∨ isTerminal record.state = true) ∧
          ¬ session.request.checkpointGeneration <
            record.request.checkpointGeneration

theorem Generation.lt_irrefl
    {domain : GenerationDomain} (generation : Generation domain) :
    ¬ generation < generation :=
  UInt64.lt_irrefl generation.value

theorem Edit.orderly
    {permits : Permits}
    (resumes :
      ∀ focus, permits.resume focus → isTerminal focus.session.state = false)
    (enrolls :
      ∀ engine session, permits.enroll engine session →
        engine.Precedes session)
    (edit : Edit permits before after)
    (orderly : before.Orderly) : after.Orderly := by
  refine ⟨orderly.listed.edit edit, ?_⟩
  intro id session found active other record stored same
  -- An active session continues an active one.
  have awake {earlier : SessionRecord} (continues : earlier.Continues session) :
      isTerminal earlier.state = false := by
    by_contra terminal
    have ended := continues.terminal (Bool.not_eq_false _ ▸ terminal)
    rw [active] at ended
    cases ended
  rcases edit.origin resumes found with
    ⟨first, known, continues⟩ | ⟨new, permitted, enrolled⟩
  · rcases edit.origin resumes stored with
      ⟨second, storedBefore, continued⟩ | ⟨_, permitted, _⟩
    · have held := orderly.current id first known (awake continues) other
        second storedBefore (by
          rw [← continued.request, ← continues.request]
          exact same)
      rw [continues.request, continued.request]
      exact ⟨held.1.imp_right continued.terminal, held.2⟩
    · have ended := (enrolls before record permitted id first known (by
        rw [← continues.request]
        exact same.symm)).1
      rw [awake continues] at ended
      cases ended
  · rcases edit.origin resumes stored with
      ⟨second, storedBefore, continued⟩ | ⟨missing, _, _⟩
    · have ranked := enrolls before session permitted other second
        storedBefore (by
          rw [← continued.request]
          exact same)
      rw [continued.request]
      exact ⟨.inr (continued.terminal ranked.1), ranked.2⟩
    · rw [enrolled] at found stored
      rcases Engine.lookup_enroll stored with wrong | ⟨named, rfl, _⟩
      · exact absurd (Table.mem_of_lookup wrong) missing
      · rcases Engine.lookup_enroll found with wrong | ⟨own, _, _⟩
        · exact absurd (Table.mem_of_lookup wrong) new
        · exact ⟨.inl (named.trans own.symm), Generation.lt_irrefl _⟩

theorem Engine.Orderly.edits_idle
    (edits : Edits idlePermits before after)
    (orderly : before.Orderly) : after.Orderly :=
  reflTransGen_preserves
    (fun _ _ edit orderly => edit.orderly
      (fun _ permitted => False.elim permitted)
      (fun _ _ permitted => False.elim permitted) orderly)
    edits orderly

/-- Once room is made for it, a new session precedes what is left of its
checkpoint. -/
theorem Engine.Orderly.precedes
    (orderly : engine.Orderly)
    {request : SessionRequest} {fence : CommandFence}
    {plan : AdmissionPlan}
    (planned :
      (engine.observe now).admissionPlan now request fence = .ok plan)
    {shaper : RateShaper}
    (reserved :
      (engine.observe now).shaper.reservePathRate plan.path plan.rateBps =
        some shaper) :
    ((engine.observe now).drawn.makeRoom shaper now
        ((engine.observe now).newSession now request plan).id
        plan.targets).Precedes
      ((engine.observe now).newSession now request plan) := by
  have observed := orderly.edits_idle (engine.observe_idle now)
  have chosen := (Engine.admissionPlan_planned planned).chosen
  intro other record stored same
  rcases (Engine.cleared_idle planned reserved).origin_of_idle stored with
    ⟨earlier, known, asked⟩
  have listed : other ∈
      (engine.observe now).byCheckpoint.findD request.checkpoint [] := by
    have found := observed.listed other earlier known
    rw [← asked] at found
    exact same ▸ found
  rcases Engine.supersedeTargets_listed chosen listed known with
    ⟨newer, settled⟩
  refine ⟨?_, ?_⟩
  · rcases settled with terminal | ⟨target, _⟩
    · rcases Engine.makeRoom_closes _ _ _ _ _ other record stored with
        kept | ended
      · have unchanged : some record = some earlier := kept.symm.trans known
        cases unchanged
        exact terminal
      · exact ended
    · rw [Engine.makeRoom_superseded target stored]
      rfl
  · rw [asked]
    exact newer

/-! ## Snapshots -/

/-- The sessions of a snapshot are in order. -/
def EngineSnapshot.Orderly (snapshot : EngineSnapshot) : Prop :=
  ∀ first ∈ snapshot.sessions, isTerminal first.state = false →
    ∀ second ∈ snapshot.sessions,
      second.request.checkpoint = first.request.checkpoint →
      (second.session = first.session ∨ isTerminal second.state = true) ∧
        ¬ first.request.checkpointGeneration <
          second.request.checkpointGeneration

instance (snapshot : EngineSnapshot) : Decidable snapshot.Orderly :=
  inferInstanceAs (Decidable (∀ _ ∈ _, _ → ∀ _ ∈ _, _ → _))

theorem Engine.Orderly.restore
    (orderly : engine.Orderly) (now : Nanos)
    {snapshot : EngineSnapshot}
    (condition :
      ∀ table, engine.restorable snapshot = .ok table → snapshot.Orderly) :
    (engine.restore now snapshot).2.Orderly := by
  cases accepted : engine.restorable snapshot with
  | error =>
      unfold Engine.restore Engine.guarded
      rw [accepted]
      exact orderly
  | ok table =>
      refine ⟨Engine.restore_lists checkpointIndex now accepted, ?_⟩
      intro id session found active other record stored same
      rcases Engine.restore_state now accepted found with
        ⟨first, known, named, asked, ended⟩
      rcases Engine.restore_state now accepted stored with
        ⟨second, storedBefore, otherNamed, otherAsked, settled⟩
      have awake : isTerminal first.state = false := by
        by_contra terminal
        have terminal := Bool.not_eq_false _ ▸ terminal
        rw [ended terminal, terminal] at active
        cases active
      rw [asked, otherAsked] at same
      have held := condition table accepted first known awake second
        storedBefore same
      rw [asked, otherAsked, ← named, ← otherNamed]
      refine ⟨held.1.imp_right ?_, held.2⟩
      intro terminal
      rw [settled terminal]
      exact terminal

/-! ## Runs -/

/-- Only active sessions are resumed, and an accepted snapshot is in
order. -/
def OrderCondition (engine : Engine) (now : Nanos) : Command → Prop
  | .resumeSession id fence => engine.ResumesActive now id fence
  | .restore snapshot =>
      ∀ table, engine.restorable snapshot = .ok table → snapshot.Orderly
  | _ => True

instance (engine : Engine) (now : Nanos) :
    ∀ command, Decidable (OrderCondition engine now command) := by
  intro command
  apply @Command.casesOn
      (fun command => Decidable (OrderCondition engine now command)) command <;>
    intros <;> unfold OrderCondition <;> infer_instance

/-- Only active sessions are resumed, and a new session precedes the others
of its checkpoint. -/
def orderPermits : Permits where
  resume := fun focus => isTerminal focus.session.state = false
  enroll := Engine.Precedes

theorem orderPermits_routine : orderPermits.Routine :=
  { Permits.Routine.free with }

/-- One command that meets the condition keeps the order. -/
theorem Engine.Orderly.execute
    (orderly : engine.Orderly)
    {command : Command} (condition : OrderCondition engine now command) :
    (engine.execute now command).2.Orderly := by
  by_cases restores : ∃ snapshot, command = .restore snapshot
  · rcases restores with ⟨snapshot, rfl⟩
    exact orderly.restore now condition
  · have grounds : orderPermits.Grounds engine now command := {
      Permits.Grounds.free engine now command with
      resume := by
        rintro other fence focus rfl passed
        exact condition focus passed
      enroll := by
        rintro request fence plan shaper rfl planned reserved
        exact orderly.precedes planned reserved }
    have edits :
        Edits orderPermits engine (engine.execute now command).2 :=
      Engine.execute_edits orderPermits_routine engine now command
        (grounds.allow (fun snapshot same => restores ⟨snapshot, same⟩))
    exact reflTransGen_preserves
      (fun _ _ edit orderly => edit.orderly
        (fun _ permitted => permitted) (fun _ _ permitted => permitted)
        orderly)
      edits orderly

theorem Engine.Orderly.rehash
    (orderly : engine.Orderly)
    {sessions : Table SessionId SessionRecord}
    (same : sessions.entries.Perm engine.sessions.entries)
    (contracts : Table WorkloadId WorkloadContract) :
    (engine.rehashed sessions contracts).Orderly := by
  have stored (id : SessionId) :
      (engine.rehashed sessions contracts).sessions.lookup id =
        engine.sessions.lookup id :=
    AList.perm_lookup same
  refine ⟨?_, ?_⟩
  · intro id session found
    rw [stored] at found
    exact orderly.listed id session found
  · intro id session found active other record known
    rw [stored] at found known
    exact orderly.current id session found active other record known

/-- Along runs that meet the condition, restores included, a checkpoint has
at most one session that is not terminal, and no retained session of the
checkpoint has a greater generation. -/
theorem checkpoint_has_one_current_session
    {config : EngineConfig} {boot : Nanos} {history : List Event}
    {engine : Engine}
    (run :
      Run (fun engine event next =>
          Step engine event next ∧ event.meets OrderCondition engine)
        (Engine.construct config boot) history engine)
    {id : SessionId} {session : SessionRecord}
    (found : engine.sessions.lookup id = some session)
    (active : isTerminal session.state = false) :
    ∀ other record, engine.sessions.lookup other = some record →
      record.request.checkpoint = session.request.checkpoint →
      (other = id ∨ isTerminal record.state = true) ∧
        ¬ session.request.checkpointGeneration <
          record.request.checkpointGeneration := by
  have orderly : engine.Orderly := by
    refine Run.invariant ?_ ?_ run
    · have blank := (Engine.construct_blank config boot).1
      refine ⟨?_, ?_⟩
      · intro id session found
        rw [blank] at found
        cases found
      · intro id session found
        rw [blank] at found
        cases found
    · rintro state event next ⟨step, condition⟩ orderly
      cases step with
      | call =>
          exact orderly.execute condition
      | rehash _ contracts same =>
          exact orderly.rehash same contracts
  exact orderly.current id session found active

/-- A request for a later generation of its checkpoint. -/
def Sample.regenerated
    (request : SessionRequest) (command : UInt8) (generation : UInt64) :
    SessionRequest :=
  let undigested :=
    { request.manifest with generation := ⟨generation⟩ }
  { request with
    command := ⟨uuid command⟩
    checkpointGeneration := ⟨generation⟩
    manifest :=
      { undigested with
        manifestDigest := computeManifestDigest undigested } }

/-- A second generation supersedes the first. -/
def supersededScript : List (Nanos × Command) :=
  [(1, .submitSession (Sample.request 2 [2]) (Sample.fence 1)),
    (2, .submitSession (Sample.regenerated (Sample.request 2 [2]) 3 2)
      (Sample.fence 1))]

/-- A session completes while it is paused, a newer generation is admitted,
and the older session is resumed. -/
def resumedOlderScript : List (Nanos × Command) :=
  pausedDeliveryScript ++
    [(6, .submitSession (Sample.regenerated (Sample.request 2 [2]) 3 2)
      (Sample.fence 1)),
      (7, .resumeSession ⟨Sample.drawn 0⟩ (Sample.fence 1))]

theorem checkpointsScripts_evaluated :
    (ScriptMeets OrderCondition (Engine.construct Sample.config 0)
         supersededScript ∧
       (((Engine.construct Sample.config 0).executeAll
         supersededScript).2.sessions.lookup ⟨Sample.drawn 1⟩).any
         (fun session => isTerminal session.state = false) = true) ∧
      ((((Engine.construct Sample.config 0).executeAll
         resumedOlderScript).2.sessions.lookup ⟨Sample.drawn 0⟩).any
           (fun older =>
             (((Engine.construct Sample.config 0).executeAll
               resumedOlderScript).2.sessions.lookup ⟨Sample.drawn 2⟩).any
               (fun newer =>
                 older.request.checkpoint = newer.request.checkpoint ∧
                   older.request.checkpointGeneration <
                     newer.request.checkpointGeneration ∧
                   isTerminal older.state = false ∧
                   isTerminal newer.state = false)) = true) := by
  decide +kernel

/-- The second generation is the current one. -/
theorem checkpoint_has_one_current_session_after_supersession :
    let engine :=
      ((Engine.construct Sample.config 0).executeAll supersededScript).2
    ∃ session,
      engine.sessions.lookup ⟨Sample.drawn 1⟩ = some session ∧
        isTerminal session.state = false ∧
        ∀ other record, engine.sessions.lookup other = some record →
          record.request.checkpoint = session.request.checkpoint →
          (other = ⟨Sample.drawn 1⟩ ∨ isTerminal record.state = true) ∧
            ¬ session.request.checkpointGeneration <
              record.request.checkpointGeneration := by
  have evaluated := checkpointsScripts_evaluated.1
  rcases (Option.any_eq_true _ _).mp evaluated.2 with ⟨session, found, active⟩
  rw [decide_eq_true_iff] at active
  have run := (Engine.executeAll_conditioned _ evaluated.1).mono
    (fun _ _ _ step => And.intro step.1 step.2.2)
  exact ⟨session, found, active,
    checkpoint_has_one_current_session run found active⟩

/-- Both generations of the checkpoint are active. -/
theorem resumed_generation_is_current_again :
    ∃ history engine older newer,
      EngineRun Sample.config 0 history engine ∧
        (∀ event ∈ history, event.restores = false) ∧
        engine.sessions.lookup ⟨Sample.drawn 0⟩ = some older ∧
        engine.sessions.lookup ⟨Sample.drawn 2⟩ = some newer ∧
        older.request.checkpoint = newer.request.checkpoint ∧
        older.request.checkpointGeneration <
          newer.request.checkpointGeneration ∧
        isTerminal older.state = false ∧
        isTerminal newer.state = false := by
  have reached := checkpointsScripts_evaluated.2
  rcases (Option.any_eq_true _ _).mp reached with ⟨older, found, rest⟩
  rcases (Option.any_eq_true _ _).mp rest with ⟨newer, stored, holds⟩
  rw [decide_eq_true_iff] at holds
  refine ⟨_, _, older, newer, Engine.executeAll_run _ resumedOlderScript, ?_,
    found, stored, holds⟩
  simp [Engine.executeAll, resumedOlderScript, pausedDeliveryScript,
    Event.restores]

end TrafficFabric
