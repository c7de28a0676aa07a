import TrafficFabric.Engine.Coverage
import TrafficFabric.Engine.Script

/-!
# Runs without restore

Most invariants of the engine are about runs in which no snapshot is restored
and every command meets some condition.  Such an invariant only has to be
checked on a new engine, on one edit and on a rehash.
-/

namespace TrafficFabric

open Foundation

/-- A new engine holds no session and has counted nothing. -/
theorem Engine.construct_blank (config : EngineConfig) (boot : Nanos) :
    (Engine.construct config boot).sessions = ∅ ∧
      (Engine.construct config boot).accounting = {} ∧
      (Engine.construct config boot).pruned = {} ∧
      (Engine.construct config boot).underflow = false := by
  unfold Engine.construct
  dsimp only
  split <;> exact ⟨rfl, rfl, rfl, rfl⟩

/-- The event restores a snapshot. -/
def Event.restores : Event → Bool
  | .call _ (.restore _) _ => true
  | _ => false

theorem Event.ordinary_of_restores
    {now : Nanos} {command : Command} {response : Response}
    (ordinary : (Event.call now command response).restores = false) :
    ∀ snapshot, command ≠ .restore snapshot := by
  rintro snapshot rfl
  cases ordinary

/-- The commands of a run meet a condition on the engine they reach. -/
def Event.meets
    (Condition : Engine → Nanos → Command → Prop) (engine : Engine) :
    Event → Prop
  | .call now command _ => Condition engine now command
  | .rehash => True

/-- The runs without restore whose commands meet a condition. -/
abbrev ConditionedRun
    (Condition : Engine → Nanos → Command → Prop)
    (config : EngineConfig) (boot : Nanos) : List Event → Engine → Prop :=
  Run (fun engine event next =>
      Step engine event next ∧ event.restores = false ∧
        event.meets Condition engine)
    (Engine.construct config boot)

/-- The same engine with its tables in another iteration order. -/
def Engine.rehashed
    (engine : Engine) (sessions : Table SessionId SessionRecord)
    (contracts : Table WorkloadId WorkloadContract) : Engine :=
  { engine with sessions := sessions, contracts := contracts }

theorem Engine.Contracted.rehash
    {engine : Engine} (contracted : engine.Contracted)
    {sessions : Table SessionId SessionRecord}
    {contracts : Table WorkloadId WorkloadContract}
    (sameSessions : sessions.entries.Perm engine.sessions.entries)
    (sameContracts : contracts.entries.Perm engine.contracts.entries) :
    (engine.rehashed sessions contracts).Contracted := by
  intro id session found
  have known := contracted id session
    ((AList.perm_lookup sameSessions).symm.trans found)
  rw [← AList.lookup_isSome] at known ⊢
  exact (congrArg Option.isSome (AList.perm_lookup sameContracts)).trans
    known

theorem Engine.Contracted.initial (config : EngineConfig) (boot : Nanos) :
    (Engine.construct config boot).Contracted := by
  intro id session found
  rw [(Engine.construct_blank config boot).1] at found
  cases found

/-- An invariant of edits is an invariant of the runs whose conditions give
the permits. -/
theorem ConditionedRun.invariant
    {Condition : Engine → Nanos → Command → Prop} {permits : Permits}
    {Invariant : Engine → Prop}
    (routine : permits.Routine)
    (allow :
      ∀ engine now command, (∀ snapshot, command ≠ .restore snapshot) →
        Condition engine now command → permits.Allow engine now command)
    (edit :
      ∀ before after, Edit permits before after →
        Invariant before → Invariant after)
    (rehash :
      ∀ engine sessions contracts,
        sessions.entries.Perm engine.sessions.entries →
        contracts.entries.Perm engine.contracts.entries →
        Invariant engine →
        Invariant (engine.rehashed sessions contracts))
    {config : EngineConfig} {boot : Nanos}
    (initially : Invariant (Engine.construct config boot))
    {history : List Event} {engine : Engine}
    (run : ConditionedRun Condition config boot history engine) :
    Invariant engine := by
  refine Run.invariant initially ?_ run
  rintro state event next ⟨step, ordinary, condition⟩ holds
  cases step with
  | call now command =>
      have edits :
          Edits permits state (state.execute now command).2 :=
        Engine.execute_edits routine state now command
          (allow state now command (Event.ordinary_of_restores ordinary)
            condition)
      exact reflTransGen_preserves edit edits holds
  | rehash sessions contracts sameSessions sameContracts =>
      exact rehash state sessions contracts sameSessions sameContracts holds

/-- An invariant of edits and of restores is an invariant of every run. -/
theorem EngineRun.invariant
    {Invariant : Engine → Prop} {config : EngineConfig} {boot : Nanos}
    (initially : Invariant (Engine.construct config boot))
    (edit :
      ∀ before after, Edit {} before after →
        Invariant before → Invariant after)
    (restore :
      ∀ engine now snapshot, Invariant engine →
        Invariant (Engine.restore engine now snapshot).2)
    (rehash :
      ∀ engine sessions contracts,
        sessions.entries.Perm engine.sessions.entries →
        contracts.entries.Perm engine.contracts.entries →
        Invariant engine →
        Invariant (engine.rehashed sessions contracts))
    {history : List Event} {engine : Engine}
    (run : EngineRun config boot history engine) : Invariant engine := by
  refine Run.invariant initially ?_ run
  intro state event next step holds
  cases step with
  | call now command =>
      by_cases restoring : ∃ snapshot, command = .restore snapshot
      · rcases restoring with ⟨snapshot, rfl⟩
        exact restore state now snapshot holds
      · have edits := Engine.execute_edits .free state now command
          (Permits.Grounds.allow (.free state now command)
            (fun snapshot same => restoring ⟨snapshot, same⟩))
        exact reflTransGen_preserves edit edits holds
  | rehash sessions contracts sameSessions sameContracts =>
      exact rehash state sessions contracts sameSessions sameContracts holds

/-- A property of every session, kept by the changes of one session and true
of new sessions, holds along such runs. -/
theorem ConditionedRun.sessions
    {Condition : Engine → Nanos → Command → Prop} {permits : Permits}
    {Property : SessionRecord → Prop}
    (routine : permits.Routine)
    (allow :
      ∀ engine now command, (∀ snapshot, command ≠ .restore snapshot) →
        Condition engine now command → permits.Allow engine now command)
    (changed :
      ∀ before after, Change permits before after →
        Property before.session → Property after.session)
    (enrolled : ∀ session : SessionRecord, session.Admitted → Property session)
    {config : EngineConfig} {boot : Nanos}
    {history : List Event} {engine : Engine}
    (run : ConditionedRun Condition config boot history engine) :
    ∀ id session, engine.sessions.lookup id = some session →
      Property session := by
  refine @ConditionedRun.invariant Condition permits
    (fun engine => ∀ id session, engine.sessions.lookup id = some session →
      Property session)
    routine allow ?_ ?_ _ _ ?_ _ _ run
  · intro before after edit holds
    exact @Edit.forall_sessions _ (fun _ session => Property session) _ _
      edit (fun first second _ _ change => changed first second change)
      (fun _ session admitted _ => enrolled session admitted) holds
  · intro engine sessions contracts same _ holds id session found
    exact holds id session ((AList.perm_lookup same).symm.trans found)
  · intro id session found
    rw [(Engine.construct_blank config boot).1] at found
    cases found

/-- The same where sessions are enrolled for known contracts only: a change
may rely on the contract of its session. -/
theorem ConditionedRun.contractedSessions
    {Condition : Engine → Nanos → Command → Prop} {permits : Permits}
    {Property : SessionRecord → Prop}
    (routine : permits.Routine)
    (allow :
      ∀ engine now command, (∀ snapshot, command ≠ .restore snapshot) →
        Condition engine now command → permits.Allow engine now command)
    (known :
      ∀ engine session, permits.enroll engine session →
        session.request.workload ∈ engine.contracts)
    (changed :
      ∀ before after, Change permits before after →
        before.session.request.workload ∈ before.engine.contracts →
        Property before.session → Property after.session)
    (enrolled : ∀ session : SessionRecord, session.Admitted → Property session)
    {config : EngineConfig} {boot : Nanos}
    {history : List Event} {engine : Engine}
    (run : ConditionedRun Condition config boot history engine) :
    ∀ id session, engine.sessions.lookup id = some session →
      Property session := by
  refine (@ConditionedRun.invariant Condition permits
    (fun engine => engine.Contracted ∧
      ∀ id session, engine.sessions.lookup id = some session →
        Property session)
    routine allow ?_ ?_ _ _ ⟨.initial config boot, ?_⟩ _ _ run).2
  · rintro before after edit ⟨contracted, holds⟩
    refine ⟨edit.contracted known contracted, ?_⟩
    refine @Edit.forall_sessions _ (fun _ session => Property session) _ _
      edit ?_ (fun _ session admitted _ => enrolled session admitted) holds
    rintro first second rfl live change
    exact changed first second change
      (contracted _ _ (Focus.lookup_commit_self live))
  · rintro state sessions contracts sameSessions sameContracts
      ⟨contracted, holds⟩
    refine ⟨contracted.rehash sameSessions sameContracts, ?_⟩
    intro id session found
    exact holds id session
      ((AList.perm_lookup sameSessions).symm.trans found)
  · intro id session found
    rw [(Engine.construct_blank config boot).1] at found
    cases found

/-! ## Scripts -/

/-- Every call of a script meets the condition where it is made. -/
def ScriptMeets (Condition : Engine → Nanos → Command → Prop) :
    Engine → List (Nanos × Command) → Prop
  | _, [] => True
  | engine, (now, command) :: calls =>
      (Event.call now command (engine.execute now command).1).restores =
          false ∧
        Condition engine now command ∧
        ScriptMeets Condition (engine.execute now command).2 calls

instance decidableScriptMeets
    {Condition : Engine → Nanos → Command → Prop}
    [∀ engine now command, Decidable (Condition engine now command)] :
    (engine : Engine) → (calls : List (Nanos × Command)) →
      Decidable (ScriptMeets Condition engine calls)
  | _, [] => isTrue trivial
  | engine, (now, command) :: calls =>
      have : Decidable
          (ScriptMeets Condition (engine.execute now command).2 calls) :=
        decidableScriptMeets _ calls
      inferInstanceAs (Decidable (_ ∧ _ ∧ _))

theorem Engine.executeAll_conditioned
    {Condition : Engine → Nanos → Command → Prop}
    (engine : Engine) {calls : List (Nanos × Command)}
    (meets : ScriptMeets Condition engine calls) :
    Run (fun engine event next =>
        Step engine event next ∧ event.restores = false ∧
          event.meets Condition engine)
      engine (engine.executeAll calls).1 (engine.executeAll calls).2 := by
  induction calls generalizing engine with
  | nil =>
      exact .start
  | cons first _ hypothesis =>
      rcases first with ⟨now, command⟩
      rcases meets with ⟨ordinary, condition, later⟩
      exact (Run.single ⟨.call engine now command, ordinary,
        condition⟩).append (hypothesis _ later)

end TrafficFabric
