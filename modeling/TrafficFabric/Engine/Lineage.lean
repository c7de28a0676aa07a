import TrafficFabric.Engine.Recovery
import TrafficFabric.Engine.Runs
import TrafficFabric.Engine.Tally

/-!
# Engines and their successors

A coordinator that restarts builds a fresh engine and restores the snapshot
that its predecessor exported.  The lineage of an engine consists of its own
commands and of those of its predecessors.  A property of sessions holds along
a lineage if, besides what a run without restore asks for, it survives the way
through a snapshot.
-/

namespace TrafficFabric

open Foundation

variable {session : SessionRecord} {now : Nanos} {engine : Engine}

/-! ## Through a snapshot -/

/-- The shards of a session take the sizes and digests of the manifest. -/
def SessionRecord.Declares (session : SessionRecord) : Prop :=
  session.shards.map ShardRecord.declaration =
    session.request.manifest.shards.map ShardDescriptor.declaration

theorem Change.declares
    {permits : Permits} {before after : Focus}
    (change : Change permits before after)
    (declares : before.session.Declares) : after.session.Declares := by
  unfold SessionRecord.Declares
  rw [change.declarations, change.request.1]
  exact declares

theorem SessionRecord.Admitted.declares
    (admitted : session.Admitted) :
    session.Declares := by
  rcases admitted with ⟨engine, now, request, plan, _, rfl⟩
  change (request.manifest.shards.map (admittedShard plan.path)).map _ = _
  rw [List.map_map]
  rfl

/-- A shard on the path class that the manifest names. -/
def ShardRecord.rerouted
    (shard : ShardRecord) (descriptor : ShardDescriptor) : ShardRecord :=
  { shard with pathClass := descriptor.pathClass }

/-- The shards that are restored for an exported session. -/
def SessionRecord.reroutedShards (session : SessionRecord) :
    List ShardRecord :=
  List.zipWith ShardRecord.rerouted session.shards
    session.request.manifest.shards

theorem restoreShards_persisted
    {shards : List ShardRecord} {descriptors : List ShardDescriptor}
    (declared :
      shards.map ShardRecord.declaration =
        descriptors.map ShardDescriptor.declaration) :
    restoreShards (shards.map persistShard) descriptors =
      .ok (List.zipWith ShardRecord.rerouted shards descriptors) := by
  induction shards generalizing descriptors with
  | nil =>
      rfl
  | cons shard _ hypothesis =>
      cases descriptors with
      | nil =>
          cases declared
      | cons descriptor =>
          rw [List.map_cons, List.map_cons, List.cons.injEq] at declared
          rcases declared with ⟨same, later⟩
          simp only [ShardRecord.declaration, ShardDescriptor.declaration,
            Prod.mk.injEq] at same
          rcases same with ⟨index, bytes, digest⟩
          have copied :
              restoreShard (persistShard shard) descriptor =
                shard.rerouted descriptor := by
            unfold restoreShard persistShard ShardRecord.rerouted
            rw [← bytes, ← digest]
          rw [List.map_cons, List.zipWith_cons_cons, ← copied]
          simp only [restoreShards, bind_eq_ok, refuseWhen_eq_ok]
          exact ⟨(), not_not.mpr index, _, hypothesis later, rfl⟩

/-- The record that a snapshot of a session is restored to, before its
authority is taken away. -/
def SessionRecord.reloaded (session : SessionRecord) : SessionRecord :=
  restoredRecord (persistSession session) session.reroutedShards

/-- What does not look at the path class does not see that a shard was
restored. -/
theorem SessionRecord.Declares.map_reroutedShards
    (declares : session.Declares)
    {View : Type} {view : ShardRecord → View}
    (blind :
      ∀ (shard : ShardRecord) descriptor,
        view (shard.rerouted descriptor) = view shard) :
    session.reroutedShards.map view = session.shards.map view := by
  have fits :
      session.shards.length ≤ session.request.manifest.shards.length := by
    have lengths := congrArg List.length declares
    rw [List.length_map, List.length_map] at lengths
    exact lengths.le
  have paired :
      session.reroutedShards.map view =
        (session.shards.zip session.request.manifest.shards).map
          (fun pair => view pair.1) := by
    unfold SessionRecord.reroutedShards
    rw [← List.map_uncurry_zip_eq_zipWith, List.map_map]
    exact List.map_congr_left (fun pair _ => blind pair.1 pair.2)
  have firsts := congrArg (List.map view) (List.map_fst_zip fits)
  rw [List.map_map] at firsts
  exact paired.trans firsts

theorem SessionRecord.Declares.reloaded
    (declares : session.Declares)
    {bound : Nat} :
    (session.reloaded.quiesced bound now).Declares := by
  have copied :
      session.reroutedShards.map ShardRecord.declaration =
        session.request.manifest.shards.map ShardDescriptor.declaration :=
    (declares.map_reroutedShards (fun _ _ => rfl)).trans declares
  unfold SessionRecord.quiesced
  split
  · exact copied
  · refine Eq.trans ?_ copied
    change (session.reroutedShards.map Focus.rearmShard).map _ = _
    rw [List.map_map]
    exact List.map_congr_left (fun shard _ => rearmShard_declaration shard)

/-! ## Lineages -/

/-- A fresh engine restores what another one exported. -/
def Engine.restart
    (engine : Engine) (config : EngineConfig) (boot now : Nanos) :
    Result Unit × Engine :=
  (Engine.construct config boot).restore now engine.exportSnapshot

/-- What the sessions of a restarted engine were. -/
theorem Engine.restart_lookup
    (declares :
      ∀ id session, engine.sessions.lookup id = some session →
        session.Declares)
    {config : EngineConfig} {boot : Nanos} {id : SessionId}
    {record : SessionRecord}
    (found :
      (engine.restart config boot now).2.sessions.lookup id =
        some record) :
    ∃ key session, engine.sessions.lookup key = some session ∧
      session.id = id ∧
      record = session.reloaded.quiesced
        (Engine.construct config boot).timelineBound now := by
  unfold Engine.restart at found
  cases accepted :
      (Engine.construct config boot).restorable engine.exportSnapshot with
  | error status =>
      rw [Engine.restore_refused accepted,
        (Engine.construct_blank config boot).1] at found
      cases found
  | ok restored =>
      rw [Engine.restore_lookup accepted] at found
      rcases Option.map_eq_some_iff.mp found with ⟨loaded, stored, rfl⟩
      rcases Engine.restored_lookup accepted stored with
        ⟨persisted, member, shards, restoring, named, rfl⟩
      rcases List.mem_map.mp member with ⟨session, listed, rfl⟩
      rcases Table.mem_values_iff.mp listed with ⟨key, known⟩
      have copied := restoreShards_persisted (declares key session known)
      have same : shards = session.reroutedShards :=
        Except.ok.inj (restoring.symm.trans copied)
      rw [same]
      exact ⟨key, session, known, named, rfl⟩

/-- The engines that descend from a construction by commands that meet a
condition and by restarts. -/
inductive Lineage (Condition : Engine → Nanos → Command → Prop) :
    Engine → Prop
  | boot (config : EngineConfig) (boot : Nanos) :
      Lineage Condition (Engine.construct config boot)
  | step {engine next : Engine} {event : Event}
      (earlier : Lineage Condition engine)
      (step : Step engine event next)
      (ordinary : event.restores = false)
      (meets : event.meets Condition engine) :
      Lineage Condition next
  | restart {engine : Engine} (earlier : Lineage Condition engine)
      (config : EngineConfig) (boot now : Nanos) :
      Lineage Condition (engine.restart config boot now).2

/-- A property of sessions that changes keep, that new sessions have and that
survives a snapshot holds along a lineage. -/
theorem Lineage.sessions
    {Condition : Engine → Nanos → Command → Prop} {permits : Permits}
    {Property : SessionRecord → Prop}
    (routine : permits.Routine)
    (allow :
      ∀ engine now command, (∀ snapshot, command ≠ .restore snapshot) →
        Condition engine now command → permits.Allow engine now command)
    (changed :
      ∀ before after, Change permits before after →
        Property before.session → Property after.session)
    (enrolled : ∀ session : SessionRecord, session.Admitted → Property session)
    (reloaded :
      ∀ (session : SessionRecord) bound now, session.Declares →
        Property session → Property (session.reloaded.quiesced bound now))
    {engine : Engine} (lineage : Lineage Condition engine) :
    ∀ id session, engine.sessions.lookup id = some session →
      session.Declares ∧ Property session := by
  induction lineage with
  | boot config boot =>
      intro id session found
      rw [(Engine.construct_blank config boot).1] at found
      cases found
  | step _ step ordinary meets hypothesis =>
      cases step with
      | call now command =>
          have edits := Engine.execute_edits routine _ now command
            (allow _ now command (Event.ordinary_of_restores ordinary) meets)
          exact @Edits.forall_sessions _
            (fun _ session => session.Declares ∧ Property session) _ _ edits
            (fun before after _ change holds =>
              ⟨change.declares holds.1, changed before after change holds.2⟩)
            (fun _ session admitted _ =>
              ⟨admitted.declares, enrolled session admitted⟩) hypothesis
      | rehash _ _ sameSessions =>
          intro id session found
          exact hypothesis id session
            ((AList.perm_lookup sameSessions).symm.trans found)
  | restart _ _ _ now hypothesis =>
      intro id record found
      rcases Engine.restart_lookup
          (fun key session known => (hypothesis key session known).1)
          found with ⟨key, session, known, _, rfl⟩
      rcases hypothesis key session known with ⟨declares, holds⟩
      exact ⟨declares.reloaded, reloaded session _ now declares holds⟩

/-- A script whose calls meet the condition continues a lineage. -/
theorem Lineage.executeAll
    {Condition : Engine → Nanos → Command → Prop}
    (lineage : Lineage Condition engine) {calls : List (Nanos × Command)}
    (meets : ScriptMeets Condition engine calls) :
    Lineage Condition (engine.executeAll calls).2 := by
  induction calls generalizing engine with
  | nil =>
      exact lineage
  | cons first _ hypothesis =>
      rcases first with ⟨now, command⟩
      rcases meets with ⟨ordinary, condition, later⟩
      exact hypothesis
        (lineage.step (.call engine now command) ordinary condition) later

end TrafficFabric
