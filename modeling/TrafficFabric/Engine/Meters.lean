import TrafficFabric.Engine.Ledger

/-!
# Counters kept beside the session table

The engine counts active sessions and attempts in flight as it goes, instead
of looking through its table.  A `Meter` pairs such a counter with what a
session should contribute to it.  This module reduces the agreement of the
two to single changes of sessions and to enrolments.
-/

namespace TrafficFabric

open Foundation

variable {before after engine : Engine}

/-- The counters of active sessions. -/
structure Population where
  sessions : UInt32 := 0
  classes : IsolationClass → UInt32 := fun _ => 0
  workloads : Table WorkloadId UInt32 := ∅

/-- All counters of activity. -/
structure Activity extends Population where
  attempts : UInt32 := 0

def Engine.activity (engine : Engine) : Activity where
  sessions := engine.accounting.activeSessions
  classes := engine.classActive
  workloads := engine.workloadActive
  attempts := engine.accounting.activeAttempts

abbrev Engine.population (engine : Engine) : Population :=
  engine.activity.toPopulation

/-- A counter, and what a session contributes to it. -/
structure Meter where
  reading : Activity → Nat
  measure : SessionRecord → Nat

/-- The counter is the total over the sessions in the table. -/
def Meter.Exact (meter : Meter) (engine : Engine) : Prop :=
  meter.reading engine.activity = engine.sessions.total meter.measure

/-- The meter is exact, and every session has a property. -/
structure Meter.Exact.With
    (meter : Meter) (Property : SessionRecord → Prop) (engine : Engine) :
    Prop where
  exact_ : meter.Exact engine
  sessions :
    ∀ id session, engine.sessions.lookup id = some session →
      Property session

theorem Housekeeping.activity
    (same : Housekeeping before after) :
    after.activity = before.activity := by
  unfold Engine.activity
  rw [same.accounts.activeSessions, same.classActive, same.workloadActive,
    same.accounts.activeAttempts]

theorem Engine.construct_activity (config : EngineConfig) (boot : Nanos) :
    (Engine.construct config boot).activity = {} := by
  unfold Engine.construct
  dsimp only
  split <;> rfl

/-- What is asked of a meter so that edits keep it exact: it moves along with
each change of a session, ignores terminal sessions, and counts new ones.
Those come under unused keys, unless they contribute nothing. -/
structure Meter.Follows
    (meter : Meter) (Property : SessionRecord → Prop) (permits : Permits) :
    Prop where
  change :
    ∀ before after, Change permits before after →
      Property before.session →
      meter.measure before.session ≤ meter.reading before.engine.activity →
      Property after.session ∧
        meter.reading after.engine.activity + meter.measure before.session =
          meter.reading before.engine.activity + meter.measure after.session
  terminal :
    ∀ session, Property session → isTerminal session.state = true →
      meter.measure session = 0
  enroll :
    ∀ engine session, session.Admitted → permits.enroll engine session →
      Property session ∧
        (session.id ∈ engine.sessions → meter.measure session = 0) ∧
        meter.reading (engine.enroll session).activity =
          meter.reading engine.activity + meter.measure session
  blank : meter.reading {} = 0

namespace Meter.Exact.With

variable {meter : Meter} {Property : SessionRecord → Prop}
  {permits : Permits}

theorem of_same
    (holds : With meter Property before)
    (sessions : after.sessions = before.sessions)
    (activity : after.activity = before.activity) :
    With meter Property after where
  exact_ := by
    unfold Meter.Exact
    rw [sessions, activity]
    exact holds.exact_
  sessions := by
    rw [sessions]
    exact holds.sessions

theorem change
    {before after : Focus} (follows : meter.Follows Property permits)
    (live : before.Live) (performed : Change permits before after)
    (holds : With meter Property before.commit) :
    With meter Property after.commit := by
  have stored := Focus.lookup_commit_self live
  have counted :
      meter.measure before.session ≤
        meter.reading before.engine.activity := by
    have bounded := Table.le_total meter.measure stored
    rw [← holds.exact_] at bounded
    exact bounded
  rcases follows.change before after performed
    (holds.sessions before.key before.session stored) counted with
    ⟨kept, moved⟩
  refine ⟨?_, ?_⟩
  · have exact_ : meter.reading before.engine.activity =
        before.commit.sessions.total meter.measure := holds.exact_
    have replaced := performed.total meter.measure live
    have goal : meter.reading after.engine.activity =
        after.commit.sessions.total meter.measure := by
      omega
    exact goal
  · refine performed.forall_sessions live holds.sessions ?_
    exact fun _ => kept

/-- A terminal session is not measured. -/
theorem evict
    (follows : meter.Follows Property permits)
    {id : SessionId} {session : SessionRecord}
    (holds : With meter Property engine)
    (found : engine.sessions.lookup id = some session)
    (terminal : isTerminal session.state = true) :
    With meter Property (engine.evict id session) := by
  have unmeasured := follows.terminal session
    (holds.sessions id session found) terminal
  have erased := Table.total_erase meter.measure found
  refine ⟨?_, ?_⟩
  · have exact_ := holds.exact_
    unfold Meter.Exact at exact_ ⊢
    change meter.reading engine.activity =
      Table.total meter.measure (engine.sessions.erase id)
    omega
  · intro other kept stored
    exact holds.sessions other kept (Engine.lookup_evict stored)

/-- One edit keeps the meter exact. -/
theorem edit
    {before after : Engine} (follows : meter.Follows Property permits)
    (edit : Edit permits before after)
    (holds : With meter Property before) : With meter Property after := by
  cases edit with
  | housekeeping _ _ same =>
      exact holds.of_same same.sessions same.activity
  | prune =>
      exact Engine.pruneHistory_rule
        (fun _ _ _ found terminal holds => holds.evict follows found terminal)
        (fun _ _ holds => holds.of_same rfl rfl)
        (fun _ holds => holds.of_same rfl rfl) holds
  | enroll _ session admitted permitted =>
      rcases follows.enroll before session admitted permitted with
        ⟨property, unused, read⟩
      refine ⟨?_, ?_⟩
      · unfold Meter.Exact
        rw [before.enroll_sessions session, read]
        refine (congrArg (· + _) holds.exact_).trans ?_
        by_cases present : session.id ∈ before.sessions
        · rw [Table.emplace_of_mem present, unused present]
          rfl
        · rw [Table.emplace_of_not_mem present,
            Table.total_insert _ present]
      · intro id found stored
        rcases Engine.lookup_enroll stored with older | ⟨_, rfl, _⟩
        · exact holds.sessions id found older
        · exact property
  | change live performed =>
      exact change follows live performed holds
  | _ =>
      exact holds.of_same rfl rfl

theorem rehash
    (holds : With meter Property engine)
    {sessions : Table SessionId SessionRecord}
    (same : sessions.entries.Perm engine.sessions.entries)
    (contracts : Table WorkloadId WorkloadContract) :
    With meter Property (engine.rehashed sessions contracts) where
  exact_ := holds.exact_.trans (Table.total_perm _ same).symm
  sessions := by
    intro id session found
    exact holds.sessions id session
      ((AList.perm_lookup same).symm.trans found)

theorem initial
    (follows : meter.Follows Property permits) (config : EngineConfig)
    (boot : Nanos) :
    With meter Property (Engine.construct config boot) := by
  have empty := (Engine.construct_blank config boot).1
  refine ⟨?_, ?_⟩
  · unfold Meter.Exact
    rw [Engine.construct_activity, empty, follows.blank]
    rfl
  · intro id session found
    rw [empty] at found
    cases found

/-- A meter that follows the edits is exact along every run whose conditions
give the permits. -/
theorem run
    {Condition : Engine → Nanos → Command → Prop}
    (follows : meter.Follows Property permits)
    (routine : permits.Routine)
    (allow :
      ∀ engine now command, (∀ snapshot, command ≠ .restore snapshot) →
        Condition engine now command → permits.Allow engine now command)
    {config : EngineConfig} {boot : Nanos}
    {history : List Event}
    (run : ConditionedRun Condition config boot history engine) :
    With meter Property engine :=
  ConditionedRun.invariant routine allow
    (fun _ _ performed holds => edit follows performed holds)
    (fun _ _ contracts same _ holds => holds.rehash same contracts)
    (initial follows config boot) run

end Meter.Exact.With

end TrafficFabric
