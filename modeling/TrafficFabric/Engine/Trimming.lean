import TrafficFabric.Engine.Deadlines
import TrafficFabric.Engine.InFlight
import TrafficFabric.Engine.Refusals

/-!
# Attempts that the history forgets

A grant is recorded at the end of the list of attempts of its session, and the
list is cut to the history length of the policy, oldest first and whether or
not an attempt is settled.  A grant is kept on record as long as no grant of
its session pushes an attempt in flight out of the list.
-/

namespace TrafficFabric

open Foundation

variable {id : SessionId} {before after engine : Engine}
  {session later : SessionRecord} {attempt : TransferAttemptId} {now : Nanos}

/-! ## Identities on record -/

/-- Only a grant changes which attempts are on record. -/
theorem Change.attemptIds
    {permits : Permits} (ungranted : ∀ target, ¬ permits.grant target)
    {before after : Focus} (change : Change permits before after) :
    after.session.attemptIds = before.session.attemptIds := by
  cases change with
  | annotate _ _ noted =>
      rw [noted.session]
      rfl
  | rearm _ now =>
      exact (before.rearm_quiet now).1
  | close _ state reason detail now =>
      exact (before.closeAs_quiet state reason detail now).1
  | closeAbandoned _ reason detail now =>
      exact (before.abandon.closeAs_quiet .failed reason detail now).1
  | closeMismatched target reason detail now valid =>
      refine (target.markFailed.closeAs_quiet .failed reason detail now).1.trans
        ?_
      exact map_set_same valid.attemptAt rfl
  | unreserve =>
      rw [Focus.releasePathReservation_session]
      rfl
  | charge target _ _ _ _ _ permitted =>
      exact absurd permitted (ungranted target)
  | sight _ _ _ _ valid =>
      exact map_set_same valid.attemptAt rfl
  | acknowledge target evidence now valid =>
      unfold SessionRecord.attemptIds
      rw [target.acknowledge_session evidence _ now]
      exact map_set_same valid.attemptAt rfl
  | verify _ _ valid =>
      exact map_set_same valid.attemptAt rfl
  | truncate target valid =>
      unfold SessionRecord.attemptIds
      rw [target.truncate_session]
      exact map_set_same valid.attemptAt rfl
  | blurShard target valid =>
      unfold SessionRecord.attemptIds
      rw [target.blur_session]
      exact map_set_same valid.attemptAt rfl
  | blurAttempt target now valid =>
      unfold SessionRecord.attemptIds
      rw [target.blur_session now]
      exact map_set_same valid.attemptAt rfl
  | complete =>
      rw [Focus.completeSession_session]
      rfl
  | _ =>
      rfl

/-- The attempts on record after a grant. -/
theorem ShardTarget.charge_attempts
    (target : ShardTarget) (shaper : RateShaper) (chunk : UInt64)
    (now : Nanos) :
    (target.charge shaper chunk now).session.attempts =
      target.focus.session.attempts.drop
          (target.focus.session.attempts.length + 1 -
            target.focus.engine.timelineBound) ++
        [ShardTarget.attemptOf (target.grant chunk now) now] := by
  have positive := target.focus.engine.timelineBound_pos
  change ShardTarget.trimAttempts _ _ = _
  unfold ShardTarget.trimAttempts
  rw [List.length_append, List.length_singleton,
    List.drop_append_of_le_length (by omega)]

/-- A grant that spares the attempts in flight keeps them on record. -/
theorem ShardTarget.Spares.kept
    {target : ShardTarget} (spares : target.Spares) {shaper : RateShaper}
    {chunk : UInt64} {now : Nanos} {attempt : AttemptRecord}
    (member : attempt ∈ target.focus.session.attempts)
    (outstanding : attempt.outstanding = true) :
    attempt ∈ (target.charge shaper chunk now).session.attempts := by
  rw [target.charge_attempts shaper chunk now]
  rw [← List.take_append_drop
    (target.focus.session.attempts.length + 1 -
      target.focus.engine.timelineBound) target.focus.session.attempts]
    at member
  rcases List.mem_append.mp member with dropped | rest
  · rw [spares attempt dropped] at outstanding
    cases outstanding
  · exact List.mem_append_left _ rest

/-! ## Steps -/

/-- No grants, and no new session under a given identity. -/
def keepingPermits (id : SessionId) : Permits where
  grant := fun _ => False
  enroll := fun _ session => session.id ≠ id

theorem keepingPermits_routine (id : SessionId) :
    (keepingPermits id).Routine :=
  { Permits.Routine.free with }

/-- Without grants the attempts of a session stay on record. -/
theorem Edits.keeps_attempt
    (edits : Edits (keepingPermits id) before after)
    (found : before.sessions.lookup id = some session)
    (known : attempt ∈ session.attemptIds)
    (stored : after.sessions.lookup id = some later) :
    attempt ∈ later.attemptIds := by
  refine @Edits.forall_sessions _
    (fun key session => key = id → attempt ∈ session.attemptIds) _ _ edits
    ?_ ?_ ?_ id later stored rfl
  · intro first second _ change holds own
    rw [change.attemptIds (fun _ => not_false)]
    exact holds own
  · intro _ session _ other own
    exact absurd own other
  · rintro key record present rfl
    cases found.symm.trans present
    exact known

/-- A grant pushes no attempt in flight out of the history of its session,
and a submission draws an identity that is not in the table. -/
def TrimCondition (engine : Engine) (now : Nanos) : Command → Prop
  | .requestWave id index fence =>
      ∀ focus, (engine.observe now).creditHolder now id fence = .ok focus →
        ∀ target, Engine.waveTarget focus index fence = .ok target →
          target.Spares
  | .submitSession _ _ =>
      ⟨(engine.observe now).idFactory.next.1⟩ ∉ engine.sessions
  | _ => True

instance (engine : Engine) (now : Nanos) :
    ∀ command, Decidable (TrimCondition engine now command) := by
  intro command
  apply @Command.casesOn
      (fun command => Decidable (TrimCondition engine now command)) command <;>
    intros <;> unfold TrimCondition <;> infer_instance

/-- A request for credit leaves the sessions as they are or issues a grant. -/
theorem Engine.requestWave_cases
    (engine : Engine) (now : Nanos) (own : SessionId) (index : ShardIndex)
    (fence : CommandFence) :
    (engine.requestWave now own index fence).2.sessions =
          (engine.observe now).sessions ∧
        (∀ outcome,
          (engine.requestWave now own index fence).1 = .ok outcome →
            outcome.grant = none) ∨
      ∃ focus target shaper chunk,
        (engine.observe now).creditHolder now own fence = .ok focus ∧
          Engine.waveTarget focus index fence = .ok target ∧
          (engine.requestWave now own index fence).2 =
            target.issueGrant shaper chunk now ∧
          (engine.requestWave now own index fence).1 =
            .ok {
              granted := true
              grant := some (target.grant chunk now)
              decidedAt := now } := by
  unfold Engine.requestWave
  dsimp only
  cases passed : (engine.observe now).creditHolder now own fence with
  | error =>
      exact .inl ⟨rfl, fun _ same => by cases same⟩
  | ok focus =>
      have held := (Engine.creditHolder_ok passed).1
      rw [Engine.guarded]
      split
      · exact .inl ⟨rfl, fun _ same => by cases same; rfl⟩
      · cases wanted : Engine.waveTarget focus index fence with
        | error =>
            exact .inl ⟨rfl, fun _ same => by cases same⟩
        | ok target =>
            rw [Engine.guarded]
            have same := (Engine.waveTarget_ok wanted).1
            have sessions :
                target.focus.engine.sessions =
                  (engine.observe now).sessions := by
              rw [same, held.engine]
            unfold ShardTarget.requestCredit
            dsimp only
            split
            · exact .inl ⟨sessions, fun _ same => by cases same; rfl⟩
            · split
              · exact .inl ⟨sessions, fun _ same => by cases same; rfl⟩
              · exact .inr ⟨focus, target, _, _, rfl, wanted, rfl, rfl⟩

/-- An attempt in flight stays on record as long as its session is open. -/
theorem Engine.execute_keeps_attempt
    {command : Command}
    (ordinary : ∀ snapshot, command ≠ .restore snapshot)
    (condition : TrimCondition engine now command)
    (found : engine.sessions.lookup id = some session)
    {attempt : AttemptRecord} (member : attempt ∈ session.attempts)
    (outstanding : attempt.outstanding = true)
    (stored :
      (engine.execute now command).2.sessions.lookup id = some later) :
    attempt.id ∈ later.attemptIds := by
  have known : attempt.id ∈ session.attemptIds :=
    List.mem_map_of_mem member
  by_cases wave : ∃ own index fence, command = .requestWave own index fence
  · obtain ⟨own, index, fence, rfl⟩ := wave
    have observed {record : SessionRecord}
        (present : (engine.observe now).sessions.lookup id = some record) :
        attempt.id ∈ record.attemptIds :=
      (Engine.observe_edits (keepingPermits_routine id) engine
        now).keeps_attempt found known present
    change (engine.requestWave now own index fence).2.sessions.lookup id =
      some later at stored
    rcases engine.requestWave_cases now own index fence with
      ⟨same, _⟩ | ⟨focus, target, shaper, chunk, passed, wanted, issued, _⟩
    · rw [same] at stored
      exact observed stored
    · obtain ⟨held, active, _⟩ := Engine.creditHolder_ok passed
      have same := (Engine.waveTarget_ok wanted).1
      have key : target.focus.key = own := by
        rw [same]
        exact held.key
      have table :
          target.focus.engine.sessions = (engine.observe now).sessions := by
        rw [same, held.engine]
      rw [issued] at stored
      change (target.focus.engine.sessions.replace target.focus.key
        _).lookup id = some later at stored
      rw [table, key] at stored
      by_cases self : id = own
      · subst self
        have slot := held.lookup
        rw [Table.lookup_replace_self (Table.mem_of_lookup slot)] at stored
        cases stored
        have unobserved := Engine.lookup_of_observe slot active
        cases found.symm.trans unobserved
        rw [← same] at member
        exact List.mem_map_of_mem (@ShardTarget.Spares.kept _
          (condition focus passed target wanted) shaper chunk now _ member
          outstanding)
      · rw [Table.lookup_replace_ne self] at stored
        exact observed stored
  · refine (Engine.execute_edits (keepingPermits_routine id) engine now
      command (Permits.Grounds.allow ?_ ordinary)).keeps_attempt found known
      stored
    exact { Permits.Grounds.free engine now command with
      enroll := by
        rintro request fence plan shaper rfl _ _
        intro own
        refine condition ?_
        change ((engine.observe now).newSession now request plan).id ∈ _
        rw [own]
        exact Table.mem_of_lookup found
      grant := by
        intro own index fence _ _ same
        exact absurd ⟨own, index, fence, same⟩ wave }

/-! ## Grants -/

/-- A granted attempt is not settled: its session is open and, if it is on
record, it is outstanding.  `outstanding` is what an acknowledged report, an
ambiguity, a truncation, an epoch change and the end of the session clear. -/
def Engine.Unsettled
    (engine : Engine) (id : SessionId) (attempt : TransferAttemptId) :
    Prop :=
  ∃ session, engine.sessions.lookup id = some session ∧
    isTerminal session.state = false ∧
    ∀ record ∈ session.attempts, record.id = attempt →
      record.outstanding = true

/-- A step that meets the condition and does not settle the attempt. -/
def KeepsOpen
    (id : SessionId) (attempt : TransferAttemptId) (before after : Engine) :
    Prop :=
  ∃ event, Step before event after ∧ event.restores = false ∧
    event.meets TrimCondition before ∧ after.Unsettled id attempt

/-- The attempt is on record and outstanding. -/
def Engine.Retains
    (engine : Engine) (id : SessionId) (attempt : TransferAttemptId) :
    Prop :=
  ∃ session, engine.sessions.lookup id = some session ∧
    ∃ record ∈ session.attempts,
      record.id = attempt ∧ record.outstanding = true

theorem KeepsOpen.retains
    (keeps : KeepsOpen id attempt before after)
    (retains : before.Retains id attempt) : after.Retains id attempt := by
  obtain ⟨event, step, ordinary, meets, later, stored, _, open_⟩ := keeps
  obtain ⟨session, found, record, member, rfl, outstanding⟩ := retains
  have known : record.id ∈ later.attemptIds := by
    cases step with
    | call =>
        exact Engine.execute_keeps_attempt
          (Event.ordinary_of_restores ordinary) meets found member
          outstanding stored
    | rehash _ _ same =>
        have lookups := @AList.perm_lookup _ _ _ id _ _ same
        have unchanged : before.sessions.lookup id = some later :=
          lookups.symm.trans stored
        cases found.symm.trans unchanged
        exact List.mem_map_of_mem member
  rcases List.mem_map.mp known with ⟨kept, listed, same⟩
  exact ⟨later, stored, kept, listed, same, open_ kept listed same⟩

/-- A grant is on record and outstanding to begin with. -/
theorem Engine.requestWave_retains
    {index : ShardIndex}
    {fence : CommandFence} {outcome : WaveOutcome} {grant : WaveGrant}
    (answered : (engine.requestWave now id index fence).1 = .ok outcome)
    (granted : outcome.grant = some grant) :
    (engine.requestWave now id index fence).2.Retains id grant.attempt := by
  rcases engine.requestWave_cases now id index fence with
    ⟨_, ungranted⟩ |
      ⟨focus, target, shaper, chunk, passed, wanted, issued, reply⟩
  · rw [ungranted outcome answered] at granted
    cases granted
  · cases reply.symm.trans answered
    cases granted
    have held := (Engine.creditHolder_ok passed).1
    have same := (Engine.waveTarget_ok wanted).1
    have live : target.focus.key ∈ target.focus.engine.sessions := by
      rw [same]
      exact Table.mem_of_lookup held.held
    have key : target.focus.key = id := by
      rw [same]
      exact held.key
    rw [issued, ← key]
    refine ⟨((target.charge shaper chunk now).appendTimeline now
        (ShardTarget.grantLine (target.grant chunk now))).session,
      Table.lookup_replace_self live,
      ShardTarget.attemptOf (target.grant chunk now) now, ?_, rfl, rfl⟩
    change _ ∈ (target.charge shaper chunk now).session.attempts
    rw [target.charge_attempts shaper chunk now]
    exact List.mem_append_right _ (List.mem_singleton_self _)

/-- A deployment with a history of a single entry. -/
def forgetfulConfig : EngineConfig :=
  { Sample.config with policy := { Sample.policy 1 with retainedHistory := 1 } }

/-- A session of two shards. -/
def pairedScript : List (Nanos × Command) :=
  [(1, .submitSession (Sample.request 2 [2, 2]) (Sample.fence 1))]

def pairedEngine (config : EngineConfig) : Engine :=
  ((Engine.construct config 0).executeAll pairedScript).2

/-- Both shards are granted. -/
def pairedGrants (config : EngineConfig) : Engine :=
  (((pairedEngine config).requestWave 2 ⟨Sample.drawn 0⟩ ⟨0⟩
    (Sample.fence 1)).2.execute 3
      (.requestWave ⟨Sample.drawn 0⟩ ⟨1⟩ (Sample.fence 1))).2

theorem Engine.requestWave_step
    (engine : Engine) (now : Nanos) (id : SessionId) (index : ShardIndex)
    (fence : CommandFence) :
    ∃ event, Step engine event (engine.requestWave now id index fence).2 :=
  ⟨_, .call engine now (.requestWave id index fence)⟩

theorem pairedGrants_run (config : EngineConfig) :
    ∃ history, EngineRun config 0 history (pairedGrants config) := by
  obtain ⟨event, granted⟩ :=
    (pairedEngine config).requestWave_step 2 ⟨Sample.drawn 0⟩ ⟨0⟩
      (Sample.fence 1)
  have opened :=
    Engine.executeAll_run (Engine.construct config 0) pairedScript
  exact ⟨_, (opened.append (Run.single granted)).append
    (Run.single (Step.call _ 3
      (.requestWave ⟨Sample.drawn 0⟩ ⟨1⟩ (Sample.fence 1))))⟩

theorem pairedGrants_keepsOpen
    {config : EngineConfig}
    (meets :
      TrimCondition ((pairedEngine config).requestWave 2 ⟨Sample.drawn 0⟩ ⟨0⟩
        (Sample.fence 1)).2 3
          (.requestWave ⟨Sample.drawn 0⟩ ⟨1⟩ (Sample.fence 1)))
    (unsettled :
      (pairedGrants config).Unsettled ⟨Sample.drawn 0⟩ attempt) :
    KeepsOpen ⟨Sample.drawn 0⟩ attempt
      ((pairedEngine config).requestWave 2 ⟨Sample.drawn 0⟩ ⟨0⟩
        (Sample.fence 1)).2 (pairedGrants config) :=
  ⟨_, .call _ 3 (.requestWave ⟨Sample.drawn 0⟩ ⟨1⟩ (Sample.fence 1)), rfl,
    meets, unsettled⟩

/-- The attempt that an answer grants. -/
def grantedAttempt (answer : Result WaveOutcome) :
    Option TransferAttemptId :=
  answer.toOption.bind (fun outcome => outcome.grant.map WaveGrant.attempt)

theorem grantedAttempt_eq_some
    {answer : Result WaveOutcome}
    (named : grantedAttempt answer = some attempt) :
    ∃ outcome grant, answer = .ok outcome ∧ outcome.grant = some grant ∧
      grant.attempt = attempt := by
  rcases answer with status | outcome
  · cases named
  · rcases Option.map_eq_some_iff.mp named with ⟨grant, granted, same⟩
    exact ⟨outcome, grant, rfl, granted, same⟩

theorem Engine.unsettled_of_any
    (open_ :
      (engine.sessions.lookup id).any (fun session =>
        isTerminal session.state = false ∧
          ∀ record ∈ session.attempts, record.id = attempt →
            record.outstanding = true) = true) :
    engine.Unsettled id attempt := by
  rcases found : engine.sessions.lookup id with _ | session
  · rw [found] at open_
    cases open_
  · rw [found] at open_
    exact ⟨session, found, of_decide_eq_true open_⟩

end TrafficFabric
