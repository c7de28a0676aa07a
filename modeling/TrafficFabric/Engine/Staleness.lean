import TrafficFabric.Engine.Deadlines

/-!
# Reports about attempts that are no longer current

A shard is granted again after a truncation or a restart, so a late report
may name an attempt that has been replaced.  Transfer and verification
reports find the attempt through its shard and refuse.  An ambiguity report
finds the attempt by its identity alone, and a source-complete report never
looks at the attempt it carries.
-/

namespace TrafficFabric

open Foundation

variable {focus : Focus} {attempt : TransferAttemptId} {id : SessionId}
  {target : EvidenceTarget} {Ticket : Type}

/-! ## Current attempts -/

namespace SessionRecord

/-- `find_attempt`. -/
def namedAttempt
    (session : SessionRecord) (attempt : TransferAttemptId) :
    Option AttemptRecord :=
  (session.attemptPosition attempt).bind
    (fun position => session.attempts[position]?)

/-- The shard that a report names. -/
def namedShard (session : SessionRecord) (index : ShardIndex) :
    Option ShardRecord :=
  (session.shardPosition index).bind
    (fun position => session.shards[position]?)

/-- The attempt is the current one of the shard. -/
def isCurrent
    (session : SessionRecord) (index : ShardIndex)
    (attempt : TransferAttemptId) : Bool :=
  (session.namedShard index).any
    (fun shard => shard.attempt = some attempt)

end SessionRecord

/-- The command reports on an attempt that is not the current attempt of the
shard it concerns.  An ambiguity report concerns the shard for which its
attempt was granted. -/
def Command.namesStale (engine : Engine) : Command → Bool
  | .reportSourceComplete evidence _ =>
      !(engine.sessions.lookup evidence.session).any
        (fun session => session.isCurrent evidence.shard evidence.attempt)
  | .reportTransfer evidence _ =>
      !(engine.sessions.lookup evidence.session).any
        (fun session => session.isCurrent evidence.shard evidence.attempt)
  | .reportVerification evidence _ =>
      !(engine.sessions.lookup evidence.session).any
        (fun session => session.isCurrent evidence.shard evidence.attempt)
  | .reportAmbiguous id attempt _ _ _ =>
      !(engine.sessions.lookup id).any
        (fun session =>
          (session.namedAttempt attempt).any
            (fun record => session.isCurrent record.shard attempt))
  | _ => false

/-- The command is refused and does nothing beyond enforcing deadlines. -/
def Command.Inert (engine : Engine) (now : Nanos) (command : Command) : Prop :=
  (∃ status,
      (engine.execute now command).1 = .status (.error status)) ∧
    (engine.execute now command).2 = engine.observe now

/-! ## Reports that find the attempt through its shard -/

theorem SessionRecord.isCurrent_of_shardTarget
    {index : ShardIndex} {target : ShardTarget}
    (found : Engine.shardTarget focus index = .ok target)
    (current : target.shard.attempt = some attempt) :
    focus.session.isCurrent index attempt = true := by
  simp only [Engine.shardTarget, bind_eq_ok, requireSome_eq_ok] at found
  rcases found with ⟨position, located, shard, at_, same⟩
  cases same
  unfold SessionRecord.isCurrent SessionRecord.namedShard
  rw [located, Option.bind_some, at_, Option.any_some]
  exact decide_eq_true current

namespace Engine

variable {engine : Engine} {now : Nanos} {fence : CommandFence}

theorem current_of_holds
    {test : SessionRecord → Bool}
    (holds : (engine.observe now).Holds id focus)
    (active : isTerminal focus.session.state = false)
    (passes : test focus.session = true) :
    (!(engine.sessions.lookup id).any test) = false := by
  rw [Engine.lookup_of_observe holds.lookup active, Option.any_some, passes]
  rfl

theorem transferTarget_current
    {evidence : TransferEvidence}
    (passed :
      (engine.observe now).transferTarget evidence fence = .ok target) :
    (Command.reportTransfer evidence fence).namesStale engine = false := by
  simp only [transferTarget, bind_eq_ok, refuseWhen_eq_ok, ne_eq,
    not_not] at passed
  rcases passed with ⟨focus, opened, found, located, _, current, _⟩
  rcases openSession_ok opened with ⟨holds, active⟩
  exact current_of_holds holds active
    (SessionRecord.isCurrent_of_shardTarget located current)

theorem verificationTarget_current
    {evidence : VerificationEvidence}
    (passed :
      (engine.observe now).verificationTarget evidence fence = .ok target) :
    (Command.reportVerification evidence fence).namesStale engine =
      false := by
  simp only [verificationTarget, bind_eq_ok, refuseWhen_eq_ok, ne_eq,
    not_not] at passed
  rcases passed with ⟨focus, opened, found, located, _, current, _⟩
  rcases openSession_ok opened with ⟨holds, active⟩
  exact current_of_holds holds active
    (SessionRecord.isCurrent_of_shardTarget located current)

/-! ## Reports that do not -/

/-- The session that the fabric-wide fence lets a report reach. -/
def Reaches
    (engine : Engine) (now : Nanos) (id : SessionId) (fence : CommandFence)
    (session : SessionRecord) : Prop :=
  (engine.observe now).sessions.lookup id = some session ∧
    (engine.observe now).checkFenceStatus fence = .ok () ∧
    isTerminal session.state = false

/-- The report names a session that is open under a current fence, and agrees
with what is recorded about the attempt or the shard.  None of this is about
the attempt being current. -/
def Heeds (engine : Engine) (now : Nanos) : Command → Prop
  | .reportSourceComplete evidence fence =>
      ∃ session,
        engine.Reaches now evidence.session fence session ∧
        (engine.observe now).validateWorkloadFence session fence = .ok () ∧
        ∃ shard, session.namedShard evidence.shard = some shard ∧
          evidence.sourceBytes ≤ shard.declaredBytes ∧
          (shard.sourceComplete = true →
            shard.sourceBytes = evidence.sourceBytes)
  | .reportAmbiguous id attempt sequence _ fence =>
      ∃ session, engine.Reaches now id fence session ∧
        ∃ record, session.namedAttempt attempt = some record ∧
          record.sequence = sequence
  | _ => False

theorem fencedSession_iff :
    engine.fencedSession id fence = .ok focus ↔
      engine.hold id = some focus ∧ engine.checkFenceStatus fence = .ok () := by
  simp only [fencedSession, bind_eq_ok, requireSome_eq_ok]
  constructor
  · rintro ⟨held, found, _, current, same⟩
    cases same
    exact ⟨found, current⟩
  · rintro ⟨found, current⟩
    exact ⟨focus, found, (), current, rfl⟩

theorem ambiguityTarget_iff
    {sequence : AttemptSequence} {cause : Text} :
    (∃ target,
      (engine.observe now).ambiguityTarget id attempt sequence fence =
        .ok target) ↔
      engine.Heeds now (.reportAmbiguous id attempt sequence cause fence) := by
  simp only [ambiguityTarget, bind_eq_ok, refuseWhen_eq_ok,
    requireSome_eq_ok, fencedSession_iff, ne_eq, not_not]
  constructor
  · rintro ⟨target, focus, ⟨found, current⟩, _, active, position, located,
      record, at_, _, sequenced, _⟩
    refine ⟨focus.session, ⟨(Engine.hold_holds found).lookup, current,
      isTerminal_eq_false active⟩, record, ?_, sequenced⟩
    exact Option.bind_eq_some_iff.mpr ⟨position, located, at_⟩
  · rintro ⟨session, ⟨stored, current, active⟩, record, named, sequenced⟩
    rcases Option.bind_eq_some_iff.mp named with ⟨position, located, at_⟩
    exact ⟨_, ⟨engine.observe now, id, session⟩,
      ⟨Engine.hold_of_lookup stored, current⟩, (),
      Bool.eq_false_iff.mp active, position, located, record, at_, (),
      sequenced, rfl⟩

theorem sourceCompleteTarget_iff
    {evidence : SourceCompleteEvidence} :
    (∃ target,
      (engine.observe now).sourceCompleteTarget evidence fence =
        .ok target) ↔
      engine.Heeds now (.reportSourceComplete evidence fence) := by
  simp only [sourceCompleteTarget, openSession, workloadFencedSession,
    shardTarget, bind_eq_ok, refuseWhen_eq_ok, requireSome_eq_ok,
    fencedSession_iff, not_and, ne_eq, not_not, UInt64.not_lt]
  constructor
  · rintro ⟨target, focus, ⟨_, ⟨_, ⟨found, current⟩, _, fenced, same⟩, _,
      active, same'⟩, shardAt, ⟨position, located, shard, at_, same''⟩, _,
      within, _, agrees, _⟩
    cases same
    cases same'
    cases same''
    refine ⟨focus.session, ⟨(Engine.hold_holds found).lookup, current,
      isTerminal_eq_false active⟩, fenced, shard, ?_, within, agrees⟩
    exact Option.bind_eq_some_iff.mpr ⟨position, located, at_⟩
  · rintro ⟨session, ⟨stored, current, active⟩, fenced, shard, named, within,
      agrees⟩
    rcases Option.bind_eq_some_iff.mp named with ⟨position, located, at_⟩
    exact ⟨_, ⟨engine.observe now, evidence.session, session⟩,
      ⟨_, ⟨_, ⟨Engine.hold_of_lookup stored, current⟩, (), fenced, rfl⟩, (),
        Bool.eq_false_iff.mp active, rfl⟩,
      _, ⟨position, located, shard, at_, rfl⟩, (), within, (), agrees, rfl⟩

theorem guarded_refuses
    {guard : Result Ticket}
    {body : Ticket → Result Unit × Engine}
    (refused : ¬ ∃ ticket, guard = .ok ticket) :
    (∃ status,
        Response.status (engine.guarded guard body).1 =
          .status (.error status)) ∧
      (engine.guarded guard body).2 = engine := by
  cases guard with
  | error status =>
      exact ⟨⟨status, rfl⟩, rfl⟩
  | ok ticket =>
      exact absurd ⟨ticket, rfl⟩ refused

/-- A report whose committing half always succeeds is inert exactly when its
guards refuse. -/
theorem guarded_refuses_iff
    {guard : Result Ticket} {body : Ticket → Engine} :
    ((∃ status,
          Response.status
              (engine.guarded guard (fun ticket => (.ok (), body ticket))).1 =
            .status (.error status)) ∧
        (engine.guarded guard (fun ticket => (.ok (), body ticket))).2 =
          engine) ↔
      ¬ ∃ ticket, guard = .ok ticket := by
  refine ⟨?_, guarded_refuses⟩
  rintro ⟨⟨status, refused⟩, _⟩ ⟨ticket, rfl⟩
  cases refused

end Engine

/-- A report on an attempt that is not current is inert exactly when it is
not heeded for agreeing with the session in everything else. -/
theorem stale_report_inert_iff
    (engine : Engine) (now : Nanos) (command : Command)
    (stale : command.namesStale engine = true) :
    command.Inert engine now ↔ ¬ engine.Heeds now command := by
  cases command with
  | reportSourceComplete =>
      rw [← Engine.sourceCompleteTarget_iff]
      exact Engine.guarded_refuses_iff
  | reportAmbiguous =>
      rw [← Engine.ambiguityTarget_iff]
      exact Engine.guarded_refuses_iff
  | reportTransfer =>
      refine iff_of_true (Engine.guarded_refuses ?_) id
      rintro ⟨target, passed⟩
      rw [Engine.transferTarget_current passed] at stale
      cases stale
  | reportVerification =>
      refine iff_of_true (Engine.guarded_refuses ?_) id
      rintro ⟨target, passed⟩
      rw [Engine.verificationTarget_current passed] at stale
      cases stale
  | _ =>
      cases stale

/-- A shard is granted, reported as truncated and granted again. -/
def replacementScript : List (Nanos × Command) :=
  [(1, .submitSession (Sample.request 2 [2]) (Sample.fence 1)),
    (2, .requestWave ⟨Sample.drawn 0⟩ ⟨0⟩ (Sample.fence 1)),
    (3, .reportVerification (Sample.verdict 1 1 0 0 .truncated)
      (Sample.fence 1)),
    (4, .requestWave ⟨Sample.drawn 0⟩ ⟨0⟩ (Sample.fence 1))]

/-- A late acknowledgement of the first attempt is inert. -/
theorem stale_report_inert_iff_on_transfer :
    let engine :=
      ((Engine.construct Sample.config 0).executeAll replacementScript).2
    let report : Command :=
      .reportTransfer (Sample.arrival 1 1 0 2) (Sample.fence 1)
    report.namesStale engine = true ∧ report.Inert engine 5 :=
  have stale :
      (Command.reportTransfer (Sample.arrival 1 1 0 2)
        (Sample.fence 1)).namesStale
          ((Engine.construct Sample.config 0).executeAll
            replacementScript).2 = true := by
    decide +kernel
  ⟨stale, (stale_report_inert_iff _ 5 _ stale).mpr id⟩

/-- The states of the shards of the first session with the outcomes of its
attempts. -/
def Engine.progress (engine : Engine) :
    Option (List ShardState × List AttemptOutcome) :=
  (engine.sessions.lookup ⟨Sample.drawn 0⟩).map
    (fun session =>
      (session.shards.map (fun shard => shard.state),
        session.attempts.map (fun attempt => attempt.outcome)))

/-- A late ambiguity report on the first attempt is accepted, and makes the
shard ambiguous for which the second attempt is in flight. -/
theorem stale_ambiguity_disturbs_regranted_shard :
    ∃ history engine,
      EngineRun Sample.config 0 history engine ∧
        let report : Command :=
          .reportAmbiguous ⟨Sample.drawn 0⟩ ⟨Sample.drawn 1⟩ ⟨1⟩
            (ascii "timeout") (Sample.fence 1)
        report.namesStale engine = true ∧
          engine.progress = some ([.inFlight], [.failed, .inFlight]) ∧
          (engine.execute 5 report).2.progress =
            some ([.ambiguous], [.ambiguous, .inFlight]) := by
  refine ⟨_, _, Engine.executeAll_run _ replacementScript, ?_⟩
  decide +kernel

end TrafficFabric
