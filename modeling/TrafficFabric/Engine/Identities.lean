import TrafficFabric.Engine.Observation
import TrafficFabric.Engine.Restoration
import TrafficFabric.Engine.Runs

/-!
# The identities of new sessions

A session gets the next identity of a stream that its seed determines.  The
sessions in the table got theirs from the same stream, or from a snapshot
that was restored: a new engine starts its stream over, so that an identity
of the snapshot may be drawn again.
-/

namespace TrafficFabric

open Foundation

variable {engine before after : Engine} {now : Nanos}
  {request : SessionRequest} {fence : CommandFence}

/-! ## Admitted submissions -/

/-- The submission passes all checks and gets its reservation. -/
structure Engine.Admits
    (engine : Engine) (now : Nanos) (request : SessionRequest)
    (fence : CommandFence) (plan : AdmissionPlan) (shaper : RateShaper) :
    Prop where
  planned :
    (engine.observe now).admissionPlan now request fence = .ok plan
  reserved :
    (engine.observe now).shaper.reservePathRate plan.path plan.rateBps =
      some shaper

/-- The session that an admitted submission creates. -/
def Engine.submitted
    (engine : Engine) (now : Nanos) (request : SessionRequest)
    (plan : AdmissionPlan) : SessionRecord :=
  (engine.observe now).newSession now request plan

/-- The engine just before that session is enrolled. -/
def Engine.cleared
    (engine : Engine) (now : Nanos) (request : SessionRequest)
    (plan : AdmissionPlan) (shaper : RateShaper) : Engine :=
  (engine.observe now).drawn.makeRoom shaper now
    (engine.submitted now request plan).id plan.targets

theorem Engine.submitted_id
    (engine : Engine) (now : Nanos) (request : SessionRequest)
    (plan : AdmissionPlan) :
    (engine.submitted now request plan).id = ⟨engine.idFactory.next.1⟩ := by
  rw [← engine.observe_idFactory now]
  rfl

/-- What an admitted submission answers and leaves behind. -/
theorem Engine.submitSession_of_admits
    {plan : AdmissionPlan} {shaper : RateShaper}
    (admits : engine.Admits now request fence plan shaper) :
    (∃ decision,
        (engine.submitSession now request fence).1 = .ok decision ∧
          decision.kind = .admitted ∧ decision.reason = .admitted ∧
          decision.session = (engine.submitted now request plan).id) ∧
      (engine.submitSession now request fence).2 =
        ((engine.cleared now request plan shaper).enroll
          (engine.submitted now request plan)).rememberCommand
          request.command
          { session := (engine.submitted now request plan).id
            kind := .admitted
            reason := .admitted
            fingerprint := fingerprintRequest request
            hasSession := true } := by
  have kept :
      (engine.observe now).drawn.shaper = (engine.observe now).shaper := rfl
  unfold Engine.submitSession
  dsimp only
  rw [admits.planned]
  unfold Engine.commitAdmission
  dsimp only
  rw [kept, admits.reserved]
  exact ⟨⟨_, rfl, rfl, rfl, rfl⟩, rfl⟩

/-- A submission decided `Admit` with reason `Admitted` was admitted. -/
theorem Engine.admits_of_answer
    {decision : AdmissionDecision}
    (answered : (engine.submitSession now request fence).1 = .ok decision)
    (kind : decision.kind = .admitted)
    (reason : decision.reason = .admitted) :
    ∃ plan shaper, engine.Admits now request fence plan shaper := by
  unfold Engine.submitSession at answered
  dsimp only at answered
  split at answered
  · rename_i rejection rejected
    cases rejection with
    | refused =>
        cases answered
    | replayed | duplicate =>
        cases answered
        cases reason
    | denied | deferred =>
        cases answered
        cases kind
  · rename_i plan planned
    unfold Engine.commitAdmission at answered
    dsimp only at answered
    split at answered
    · cases answered
      cases kind
    · rename_i shaper reserved
      exact ⟨plan, shaper, planned, reserved⟩

/-! ## Drawn identities -/

/-- The source has yielded the identity. -/
def IdFactory.Yielded (factory : IdFactory) (id : Uuid128) : Prop :=
  ∃ index < factory.drawn, id = IdFactory.identity factory.seed index

/-- The same stream, drawn from at least as often. -/
structure IdFactory.Advances (before after : IdFactory) : Prop where
  seed : after.seed = before.seed
  drawn : before.drawn ≤ after.drawn

theorem IdFactory.Yielded.mono
    {before after : IdFactory} (advances : before.Advances after)
    {id : Uuid128} (yielded : before.Yielded id) : after.Yielded id := by
  rcases yielded with ⟨index, within, rfl⟩
  refine ⟨index, within.trans_le advances.drawn, ?_⟩
  rw [advances.seed]

theorem Engine.enroll_idFactory (engine : Engine) (session : SessionRecord) :
    (engine.enroll session).idFactory = engine.idFactory := by
  unfold Engine.enroll Engine.indexDeadline
  dsimp only
  split <;> rfl

theorem Edit.advances
    {permits : Permits}
    (edit : Edit permits before after) :
    before.idFactory.Advances after.idFactory := by
  cases edit with
  | housekeeping _ _ same =>
      rw [same.factory]
      exact ⟨rfl, le_rfl⟩
  | draw =>
      exact ⟨rfl, Nat.le_succ _⟩
  | enroll =>
      rw [Engine.enroll_idFactory]
      exact ⟨rfl, le_rfl⟩
  | change _ performed =>
      exact ⟨performed.framed.engine.seed, performed.framed.engine.drawn⟩
  | prune =>
      rw [Engine.pruneHistory_eq]
      exact ⟨rfl, le_rfl⟩
  | _ =>
      exact ⟨rfl, le_rfl⟩

/-- New sessions carry identities that have been drawn. -/
def identityPermits : Permits where
  enroll := fun engine session => engine.idFactory.Yielded session.id.value

theorem identityPermits_routine : identityPermits.Routine :=
  { Permits.Routine.free with }

/-- The sessions carry earlier identities, or drawn ones. -/
def Engine.Identified (Earlier : SessionId → Prop) (engine : Engine) : Prop :=
  ∀ id ∈ engine.sessions, Earlier id ∨ engine.idFactory.Yielded id.value

theorem Edit.identified
    {Earlier : SessionId → Prop}
    (edit : Edit identityPermits before after)
    (identified : before.Identified Earlier) : after.Identified Earlier := by
  intro id member
  rcases edit.mem_sessions member with known | ⟨session, rfl, yielded, rfl⟩
  · rcases identified id known with earlier | yielded
    · exact .inl earlier
    · exact .inr (yielded.mono edit.advances)
  · right
    rw [Engine.enroll_idFactory]
    exact yielded

theorem identityPermits_allow
    (engine : Engine) (now : Nanos) (command : Command)
    (ordinary : ∀ snapshot, command ≠ .restore snapshot) :
    identityPermits.Allow engine now command := by
  refine Permits.Grounds.allow ?_ ordinary
  exact { Permits.Grounds.free engine now command with
    enroll := by
      intro request fence plan shaper _ _ _
      have source := congrArg Authority.idFactory
        (Engine.makeRoom_authority (engine.observe now).drawn shaper now
          ((engine.observe now).newSession now request plan).id plan.targets)
      change IdFactory.Yielded _ _
      rw [show Engine.idFactory _ = _ from source]
      exact ⟨(engine.observe now).idFactory.drawn, Nat.lt_succ_self _, rfl⟩ }

/-! ## Runs -/

/-- The event restores a snapshot that holds the session. -/
def Event.brings (id : SessionId) : Event → Bool
  | .call _ (.restore snapshot) _ =>
      snapshot.sessions.any (fun persisted => persisted.session = id)
  | _ => false

/-- Some snapshot restored in the history holds the session. -/
def Brought (history : List Event) (id : SessionId) : Prop :=
  ∃ event ∈ history, event.brings id = true

theorem Engine.restore_idFactory
    (engine : Engine) (now : Nanos) (snapshot : EngineSnapshot) :
    (engine.restore now snapshot).2.idFactory = engine.idFactory := by
  cases accepted : engine.restorable snapshot with
  | error =>
      unfold Engine.restore Engine.guarded
      rw [accepted]
  | ok =>
      refine (Engine.restore_view (fun engine => engine.idFactory) now
        accepted (fun _ => rfl) ?_ ?_).trans ?_
      · intro state session
        unfold Engine.recountSession
        dsimp only
        split <;> rfl
      · intro state session
        unfold Engine.indexDeadline
        split <;> rfl
      · refine @Engine.visit_rule
          (fun reached => reached.idFactory = engine.idFactory) _ _ ?_ _ rfl
        intro focus _ _ earlier
        unfold Focus.quiesce
        split
        · exact earlier
        · exact earlier

/-- The sessions after a restore are those there were or those of the
snapshot. -/
theorem Engine.mem_restore_sessions
    {snapshot : EngineSnapshot}
    {id : SessionId}
    (member : id ∈ (engine.restore now snapshot).2.sessions) :
    id ∈ engine.sessions ∨
      ∃ persisted ∈ snapshot.sessions, persisted.session = id := by
  cases accepted : engine.restorable snapshot with
  | error =>
      left
      unfold Engine.restore Engine.guarded at member
      rw [accepted] at member
      exact member
  | ok =>
      rcases Table.exists_lookup_of_mem member with ⟨session, found⟩
      rcases Engine.restore_state now accepted found with
        ⟨persisted, known, named, _⟩
      exact .inr ⟨persisted, known, named⟩

theorem Engine.Identified.initial
    (Earlier : SessionId → Prop) (config : EngineConfig) (boot : Nanos) :
    (Engine.construct config boot).Identified Earlier := by
  intro id member
  rw [(Engine.construct_blank config boot).1] at member
  cases member

/-- Along every run, the sessions carry identities of restored snapshots or
drawn ones. -/
theorem EngineRun.identified
    {config : EngineConfig} {boot : Nanos} {history : List Event}
    (run : EngineRun config boot history engine) :
    engine.idFactory.seed = config.identitySeed ∧
      engine.Identified (Brought history) := by
  refine @Run.historyInvariant _ _ _ _
    (fun history engine =>
      engine.idFactory.seed = config.identitySeed ∧
        engine.Identified (Brought history))
    ⟨?_, .initial _ config boot⟩ ?_ _ _ run
  · unfold Engine.construct
    dsimp only
    split <;> rfl
  rintro history state event next _ step ⟨seed, identified⟩
  have earlier : state.Identified (Brought (history ++ [event])) := by
    intro id member
    refine (identified id member).imp_left ?_
    rintro ⟨old, known, brings⟩
    exact ⟨old, List.mem_append_left _ known, brings⟩
  cases step with
  | call now command =>
      by_cases restores : ∃ snapshot, command = .restore snapshot
      · rcases restores with ⟨snapshot, rfl⟩
        have source := state.restore_idFactory now snapshot
        refine ⟨(congrArg IdFactory.seed source).trans seed, ?_⟩
        intro id member
        change _ ∨ (state.restore now snapshot).2.idFactory.Yielded id.value
        rw [source]
        rcases Engine.mem_restore_sessions member with known |
          ⟨persisted, known, rfl⟩
        · exact earlier id known
        · left
          refine ⟨_, List.mem_append_right _ (List.mem_singleton_self _), ?_⟩
          exact List.any_eq_true.mpr ⟨persisted, known, by simp⟩
      · have edits :
            Edits identityPermits state (state.execute now command).2 :=
          Engine.execute_edits identityPermits_routine
            state now command (identityPermits_allow state now command
              (fun snapshot same => restores ⟨snapshot, same⟩))
        refine @reflTransGen_preserves _ _
          (fun engine => engine.idFactory.seed = config.identitySeed ∧
            engine.Identified (Brought (history ++
              [.call now command (state.execute now command).1]))) ?_ _ _
          edits ⟨seed, earlier⟩
        rintro before after edit ⟨same, holds⟩
        exact ⟨edit.advances.seed.trans same, edit.identified holds⟩
  | rehash _ _ sameSessions =>
      refine ⟨seed, ?_⟩
      intro id member
      refine earlier id ?_
      rw [← AList.lookup_isSome] at member ⊢
      rw [← AList.perm_lookup sameSessions]
      exact member

theorem Engine.lookup_enroll_self
    {session : SessionRecord}
    (new : session.id ∉ engine.sessions) :
    (engine.enroll session).sessions.lookup session.id = some session := by
  rw [Engine.enroll_sessions, Table.lookup_emplace_self, AList.lookup_eq_none.mpr new]
  rfl

/-- In every run, a submission that is decided `Admit` with reason `Admitted`
returns a new identity and adds exactly its session to the table, as long as
the stream of identities has not repeated itself and no restored snapshot
holds the identity it yields next. -/
theorem admitted_session_is_new
    {config : EngineConfig} {boot : Nanos} {history : List Event}
    {engine : Engine} (run : EngineRun config boot history engine)
    (distinct :
      ∀ first ≤ engine.idFactory.drawn, ∀ second ≤ engine.idFactory.drawn,
        IdFactory.identity config.identitySeed first =
          IdFactory.identity config.identitySeed second →
        first = second)
    (unbrought : ¬ Brought history ⟨engine.idFactory.next.1⟩)
    {now : Nanos} {request : SessionRequest} {fence : CommandFence}
    {decision : AdmissionDecision}
    (answered :
      (engine.submitSession now request fence).1 = .ok decision)
    (kind : decision.kind = .admitted)
    (reason : decision.reason = .admitted) :
    decision.session ∉ engine.sessions ∧
      (∃ session,
        (engine.submitSession now request fence).2.sessions.lookup
            decision.session = some session ∧
          session.request = request) ∧
      ∀ id ∈ (engine.submitSession now request fence).2.sessions,
        id ∈ engine.sessions ∨ id = decision.session := by
  rcases EngineRun.identified run with ⟨seed, identified⟩
  rcases Engine.admits_of_answer answered kind reason with
    ⟨plan, shaper, admits⟩
  rcases Engine.submitSession_of_admits admits with
    ⟨⟨other, same, _, _, named⟩, after⟩
  rw [answered] at same
  cases same
  have absent : decision.session ∉ engine.sessions := by
    rw [named, Engine.submitted_id]
    intro member
    rcases identified _ member with brought | ⟨index, drawn, repeated⟩
    · exact unbrought brought
    · rw [seed] at repeated
      change IdFactory.identity engine.idFactory.seed _ = _ at repeated
      rw [seed] at repeated
      exact drawn.ne (distinct _ le_rfl _ drawn.le repeated).symm
  have cleared :=
    (Engine.observe_idle engine now).trans
      (Engine.cleared_idle admits.planned admits.reserved)
  have room := Edits.sessions_of_idle cleared (named ▸ absent)
  rw [after, named]
  refine ⟨named ▸ absent, ⟨_, Engine.lookup_enroll_self room, rfl⟩, ?_⟩
  intro id member
  rcases Table.exists_lookup_of_mem member with ⟨session, found⟩
  rcases Engine.lookup_enroll found with known | ⟨rfl, rfl, _⟩
  · left
    by_contra unknown
    exact Edits.sessions_of_idle cleared unknown (Table.mem_of_lookup known)
  · exact .inr rfl

/-- An engine restores a session and grants it credit: the attempt carries
the first identity of the stream. -/
def restartScript (snapshot : EngineSnapshot) : List (Nanos × Command) :=
  [(2, .restore snapshot),
    (3, .advanceEpoch ⟨⟨2⟩, ⟨1⟩⟩),
    (4, .revalidateSession ⟨Sample.drawn 0⟩
      { Sample.fence 1 with epoch := ⟨⟨2⟩, ⟨1⟩⟩ }),
    (5, .requestWave ⟨Sample.drawn 0⟩ ⟨0⟩
      { Sample.fence 1 with epoch := ⟨⟨2⟩, ⟨1⟩⟩ })]

/-- What a first engine persists after one submission. -/
def Sample.persisted : EngineSnapshot :=
  ((Engine.construct Sample.config 0).execute 1
    (.submitSession (Sample.request 2 [2]) (Sample.fence 1))).2.exportSnapshot

/-- The submission that follows a restart. -/
def Sample.resubmission (engine : Engine) :
    Result AdmissionDecision × Engine :=
  engine.submitSession 6 (Sample.request 3 [2])
    { Sample.fence 1 with epoch := ⟨⟨2⟩, ⟨1⟩⟩ }

/-- Once an attempt has used up the first identity, the second one is new. -/
theorem admitted_session_is_new_after_restart :
    let engine := ((Engine.construct Sample.config 0).executeAll
      (restartScript Sample.persisted)).2
    ∃ decision,
      (Sample.resubmission engine).1 = .ok decision ∧
        decision.session ∉ engine.sessions ∧
        (∃ session,
          (Sample.resubmission engine).2.sessions.lookup decision.session =
              some session ∧
            session.request = Sample.request 3 [2]) ∧
        ∀ id ∈ (Sample.resubmission engine).2.sessions,
          id ∈ engine.sessions ∨ id = decision.session := by
  have evaluated :
      let engine := ((Engine.construct Sample.config 0).executeAll
        (restartScript Sample.persisted)).2
      (Sample.resubmission engine).1.toOption.any (fun decision =>
          decision.kind = .admitted ∧ decision.reason = .admitted) = true ∧
        (∀ first ≤ engine.idFactory.drawn,
          ∀ second ≤ engine.idFactory.drawn,
            IdFactory.identity Sample.config.identitySeed first =
              IdFactory.identity Sample.config.identitySeed second →
            first = second) ∧
        ((Engine.construct Sample.config 0).executeAll
          (restartScript Sample.persisted)).1.any
            (fun event => event.brings ⟨engine.idFactory.next.1⟩) =
          false := by
    decide +kernel
  have run := Engine.executeAll_run (Engine.construct Sample.config 0)
    (restartScript Sample.persisted)
  generalize (Engine.construct Sample.config 0).executeAll
    (restartScript Sample.persisted) = reached at evaluated run ⊢
  rcases evaluated with ⟨answer, distinct, unbrought⟩
  rcases ok_of_any answer with ⟨decision, answered, decided⟩
  rw [decide_eq_true_iff] at decided
  refine ⟨decision, answered, admitted_session_is_new run distinct ?_
    answered decided.1 decided.2⟩
  rintro ⟨event, member, brings⟩
  exact List.any_eq_false.mp unbrought event member brings

/-- A new engine that restores the state of an earlier one draws the identity
of a restored session for the first session it admits. -/
theorem restarted_engine_repeats_identity :
    let first := ((Engine.construct Sample.config 0).execute 1
      (.submitSession (Sample.request 2 [2]) (Sample.fence 1))).2
    let second := (((Engine.construct Sample.config 0).execute 2
      (.restore first.exportSnapshot)).2.execute 3
        (.advanceEpoch ⟨⟨2⟩, ⟨1⟩⟩)).2
    (∃ history, EngineRun Sample.config 0 history first) ∧
      (∃ history, EngineRun Sample.config 0 history second) ∧
      ∃ decision,
        (Sample.resubmission second).1 = .ok decision ∧
          decision.kind = .admitted ∧ decision.reason = .admitted ∧
          decision.session ∈ second.sessions ∧
          (Sample.resubmission second).2.sessions.keys =
            second.sessions.keys := by
  intro first second
  have evaluated :
      (Sample.resubmission second).1.toOption.any (fun decision =>
          decision.kind = .admitted ∧ decision.reason = .admitted ∧
            decision.session ∈ second.sessions) = true ∧
        (Sample.resubmission second).2.sessions.keys =
          second.sessions.keys := by
    decide +kernel
  refine ⟨⟨_, .single (.call _ _ _)⟩,
    ⟨_, (Run.single (.call _ _ _)).append (.single (.call _ _ _))⟩, ?_⟩
  clear_value second
  rcases evaluated with ⟨answer, keys⟩
  rcases ok_of_any answer with ⟨decision, answered, decided⟩
  rw [decide_eq_true_iff] at decided
  exact ⟨decision, answered, decided.1, decided.2.1, decided.2.2, keys⟩

end TrafficFabric
