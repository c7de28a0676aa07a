import TrafficFabric.Engine.Reservations
import TrafficFabric.Engine.Trust

/-!
# Exact indexes

The lists under workloads and checkpoints hold the sessions of the table and
nothing else, each once.  Eviction leaves stale entries behind until the loop
is over, and `prune_history` rebuilds both indexes when anything was evicted.
Admission appends an identity without looking, so identities have to be
distinct.
-/

namespace TrafficFabric

open Foundation

variable {engine : Engine}

/-! ## Exactness -/

namespace SessionIndex

variable {Key : Type} [DecidableEq Key] (index : SessionIndex Key)

/-- Each key lists the sessions of the table that have it, each once. -/
structure Exact (engine : Engine) : Prop where
  once : ∀ key, (index.listed engine key).Nodup
  mem_iff :
    ∀ key id, id ∈ index.listed engine key ↔
      ∃ session, engine.sessions.lookup id = some session ∧
        index.key session.request = key

theorem exact_rebuilt (engine : Engine) :
    index.Exact engine.rebuildIndexes where
  once key := by
    rw [index.listed_rebuilt]
    exact List.Nodup.sublist (List.filter_sublist.map Sigma.fst)
      engine.sessions.nodupKeys
  mem_iff key id := by
    rw [index.listed_rebuilt, List.mem_map]
    constructor
    · rintro ⟨⟨own, session⟩, member, rfl⟩
      obtain ⟨present, same⟩ := List.mem_filter.mp member
      exact ⟨session, AList.mem_lookup_iff.mpr present,
        of_decide_eq_true same⟩
    · rintro ⟨session, found, same⟩
      exact ⟨⟨id, session⟩, List.mem_filter.mpr
        ⟨AList.mem_lookup_iff.mp found, decide_eq_true same⟩, rfl⟩

variable {index}

/-- Exactness only depends on the lists and on the keys of the sessions. -/
theorem Exact.of_same
    {before after : Engine} (exact_ : index.Exact before)
    (byWorkload : after.byWorkload = before.byWorkload)
    (byCheckpoint : after.byCheckpoint = before.byCheckpoint)
    (requests :
      ∀ id, (after.sessions.lookup id).map SessionRecord.request =
        (before.sessions.lookup id).map SessionRecord.request) :
    index.Exact after := by
  have lists (key : Key) : index.listed after key = index.listed before key := by
    unfold listed
    rw [byWorkload, byCheckpoint]
  have keyed (engine : Engine) (id : SessionId) (key : Key) :
      (∃ session, engine.sessions.lookup id = some session ∧
          index.key session.request = key) ↔
        ∃ request ∈ (engine.sessions.lookup id).map SessionRecord.request,
          index.key request = key := by
    simp only [Option.mem_def, Option.map_eq_some_iff]
    constructor
    · rintro ⟨session, found, same⟩
      exact ⟨session.request, ⟨session, found, rfl⟩, same⟩
    · rintro ⟨_, ⟨session, found, rfl⟩, same⟩
      exact ⟨session, found, same⟩
  refine ⟨fun key => lists key ▸ exact_.once key, ?_⟩
  intro key id
  rw [lists, exact_.mem_iff, keyed, keyed, requests]

/-- Under a new identity. -/
theorem Exact.enroll
    (exact_ : index.Exact engine) {session : SessionRecord}
    (new : session.id ∉ engine.sessions) :
    index.Exact (engine.enroll session) := by
  have lists := index.listed_enroll engine session
  have unlisted (key : Key) : session.id ∉ index.listed engine key := by
    intro member
    obtain ⟨_, found, _⟩ := (exact_.mem_iff key _).mp member
    exact new (Table.mem_of_lookup found)
  constructor
  · intro key
    rw [lists]
    split
    · exact List.nodup_append.mpr
        ⟨exact_.once key, List.nodup_singleton _, by
          intro id member other own same
          rw [List.mem_singleton.mp own] at same
          exact unlisted key (same ▸ member)⟩
    · rw [List.append_nil]
      exact exact_.once key
  · intro key id
    rw [lists, List.mem_append, exact_.mem_iff]
    by_cases own : id = session.id
    · subst own
      rw [engine.enroll_sessions, Table.lookup_emplace_self,
        AList.lookup_eq_none.mpr new, Option.getD_none]
      split
      · rename_i same
        exact ⟨fun _ => ⟨session, rfl, same⟩,
          fun _ => .inr (List.mem_singleton_self _)⟩
      · rename_i differs
        constructor
        · rintro (⟨_, found, _⟩ | none)
          · cases found
          · cases none
        · rintro ⟨other, found, same⟩
          cases found
          exact absurd same differs
    · rw [engine.enroll_sessions, Table.lookup_emplace_ne own]
      refine or_iff_left ?_
      split
      · exact fun member => own (List.mem_singleton.mp member)
      · exact List.not_mem_nil

end SessionIndex

/-! ## Pruning -/

/-- A loop that evicts nothing leaves the table and the indexes alone. -/
theorem Engine.pruneLoop_unerased
    (target : Nat) (ids : List SessionId) (erased : Bool) (engine : Engine)
    (kept : (pruneLoop target ids erased engine).1 = false) :
    ∃ order, (pruneLoop target ids erased engine).2 =
      { engine with terminalOrder := order } ∧ erased = false := by
  induction ids generalizing erased engine with
  | nil =>
      exact ⟨[], rfl, kept⟩
  | cons id rest hypothesis =>
      unfold pruneLoop at kept ⊢
      split at kept
      · rename_i crowded
        rw [if_pos crowded]
        split at kept
        · exact hypothesis _ _ kept
        · rename_i session found
          split at kept
          · obtain ⟨_, _, wrong⟩ := hypothesis _ _ kept
            cases wrong
          · rename_i active
            rw [if_neg active]
            exact hypothesis _ _ kept
      · rename_i roomy
        rw [if_neg roomy]
        exact ⟨_, rfl, kept⟩

namespace SessionIndex.Exact

variable {Key : Type} [DecidableEq Key] {index : SessionIndex Key}

theorem pruneHistory
    (exact_ : index.Exact engine) :
    index.Exact engine.pruneHistory := by
  unfold Engine.pruneHistory
  split
  · exact exact_
  dsimp only
  split
  · exact index.exact_rebuilt _
  · rename_i kept
    obtain ⟨order, same, _⟩ :=
      Engine.pruneLoop_unerased _ _ _ _ (Bool.eq_false_iff.mpr kept)
    rw [same]
    exact exact_.of_same rfl rfl (fun _ => rfl)

end SessionIndex.Exact

/-! ## Runs -/

theorem Engine.construct_unlisted (config : EngineConfig) (boot : Nanos) :
    (Engine.construct config boot).byWorkload = ∅ ∧
      (Engine.construct config boot).byCheckpoint = ∅ := by
  unfold Engine.construct
  dsimp only
  split <;> exact ⟨rfl, rfl⟩

/-- New sessions come under unused keys. -/
def freshPermits : Permits where
  enroll := fun engine session => session.id ∉ engine.sessions

theorem freshPermits_routine : freshPermits.Routine :=
  { Permits.Routine.free with }

theorem freshPermits_allow
    {now : Nanos} {command : Command}
    (ordinary : ∀ snapshot, command ≠ .restore snapshot)
    (fresh : FreshIdentity engine now command) :
    freshPermits.Allow engine now command := by
  refine Permits.Grounds.allow ?_ ordinary
  exact { Permits.Grounds.free engine now command with
    enroll := by
      rintro request fence plan shaper rfl planned reserved
      exact Edits.sessions_of_idle (Engine.cleared_idle planned reserved)
        fresh }

namespace SessionIndex.Exact

variable {Key : Type} [DecidableEq Key] {index : SessionIndex Key}

theorem edit
    {before after : Engine} (edit : Edit freshPermits before after)
    (exact_ : index.Exact before) : index.Exact after := by
  cases edit with
  | housekeeping _ _ same =>
      exact exact_.of_same same.byWorkload same.byCheckpoint
        (fun id => by rw [same.sessions])
  | prune =>
      exact exact_.pruneHistory
  | enroll _ _ _ new =>
      exact exact_.enroll new
  | @change first second live performed =>
      have frame := performed.framed.engine
      refine exact_.of_same frame.byWorkload frame.byCheckpoint ?_
      intro id
      by_cases own : id = first.key
      · subst own
        rw [performed.lookup_self live, Focus.lookup_commit_self live]
        exact congrArg some performed.request.1
      · rw [performed.lookup_ne own]
  | _ =>
      exact exact_.of_same rfl rfl (fun _ => rfl)

theorem restore
    (exact_ : index.Exact engine) (now : Nanos)
    (snapshot : EngineSnapshot) :
    index.Exact (engine.restore now snapshot).2 := by
  cases accepted : engine.restorable snapshot with
  | error =>
      rw [Engine.restore_refused accepted]
      exact exact_
  | ok restored =>
      obtain ⟨byWorkload, byCheckpoint⟩ :=
        @Engine.restore_indexes engine now _ _ accepted
      have loaded : index.Exact (engine.loaded snapshot restored) :=
        index.exact_rebuilt _
      refine loaded.of_same byWorkload byCheckpoint ?_
      intro id
      rw [Engine.restore_lookup accepted, Option.map_map]
      refine congrArg (fun view => Option.map view _) (funext ?_)
      intro session
      unfold Function.comp SessionRecord.quiesced
      split <;> rfl

theorem initial (config : EngineConfig) (boot : Nanos) :
    index.Exact (Engine.construct config boot) := by
  have blank := Engine.construct_blank config boot
  have lists (key : Key) :
      index.listed (Engine.construct config boot) key = [] := by
    unfold SessionIndex.listed
    rw [(Engine.construct_unlisted config boot).1,
      (Engine.construct_unlisted config boot).2, index.empty]
    rfl
  refine ⟨fun key => lists key ▸ List.nodup_nil, ?_⟩
  intro key id
  rw [lists, blank.1]
  constructor
  · intro member
    cases member
  · rintro ⟨session, found, _⟩
    cases found

end SessionIndex.Exact

/-- The runs in which every submission draws a new identity. -/
abbrev DistinctRun (config : EngineConfig) (boot : Nanos) :
    List Event → Engine → Prop :=
  Run (fun engine event next =>
      Step engine event next ∧ event.meets FreshIdentity engine)
    (Engine.construct config boot)

theorem SessionIndex.Exact.run
    {Key : Type} [DecidableEq Key] {index : SessionIndex Key}
    {config : EngineConfig} {boot : Nanos} {history : List Event}
    (run : DistinctRun config boot history engine) :
    index.Exact engine := by
  refine Run.invariant (.initial config boot) ?_ run
  rintro state event next ⟨step, fresh⟩ exact_
  cases step with
  | call now command =>
      by_cases restoring : ∃ snapshot, command = .restore snapshot
      · obtain ⟨snapshot, rfl⟩ := restoring
        exact exact_.restore now snapshot
      · have edits := Engine.execute_edits freshPermits_routine state now
          command (freshPermits_allow
            (fun snapshot same => restoring ⟨snapshot, same⟩) fresh)
        exact reflTransGen_preserves (fun _ _ edit => .edit edit) edits exact_
  | rehash _ _ sameSessions =>
      exact exact_.of_same rfl rfl
        (fun id => congrArg _ (AList.perm_lookup sameSessions))

/-- In every run with distinct identities, restores included, the lists under
a checkpoint and under a workload hold exactly the identities of the sessions
in the table that have it, each once. -/
theorem indexes_are_exact
    {config : EngineConfig} {boot : Nanos} {history : List Event}
    {engine : Engine} (run : DistinctRun config boot history engine) :
    (∀ checkpoint : CheckpointId,
        (engine.byCheckpoint.findD checkpoint []).Nodup ∧
          ∀ id, id ∈ engine.byCheckpoint.findD checkpoint [] ↔
            ∃ session, engine.sessions.lookup id = some session ∧
              session.request.checkpoint = checkpoint) ∧
      ∀ workload : WorkloadId,
        (engine.byWorkload.findD workload []).Nodup ∧
          ∀ id, id ∈ engine.byWorkload.findD workload [] ↔
            ∃ session, engine.sessions.lookup id = some session ∧
              session.request.workload = workload := by
  have checkpoints : checkpointIndex.Exact engine := .run run
  have workloads : workloadIndex.Exact engine := .run run
  exact ⟨fun key => ⟨checkpoints.once key, checkpoints.mem_iff key⟩,
    fun key => ⟨workloads.once key, workloads.mem_iff key⟩⟩

/-- Two checkpoints of one workload are admitted. -/
def twoCheckpointsScript : List (Nanos × Command) :=
  [(1, .submitSession (Sample.request 2 [2]) (Sample.fence 1)),
    (2, .submitSession (Sample.request 3 [2]) (Sample.fence 1))]

/-- The workload lists both sessions. -/
theorem indexes_are_exact_for_two_checkpoints :
    let engine :=
      ((Engine.construct Sample.config 0).executeAll twoCheckpointsScript).2
    engine.byWorkload.findD ⟨Sample.uuid 1⟩ [] =
        [⟨Sample.drawn 0⟩, ⟨Sample.drawn 1⟩] ∧
      ∀ id, id ∈ engine.byWorkload.findD ⟨Sample.uuid 1⟩ [] ↔
        ∃ session, engine.sessions.lookup id = some session ∧
          session.request.workload = ⟨Sample.uuid 1⟩ :=
  have evaluated :
      ScriptMeets FreshIdentity (Engine.construct Sample.config 0)
          twoCheckpointsScript ∧
        ((Engine.construct Sample.config 0).executeAll
          twoCheckpointsScript).2.byWorkload.findD ⟨Sample.uuid 1⟩ [] =
            [⟨Sample.drawn 0⟩, ⟨Sample.drawn 1⟩] := by
    decide +kernel
  have run : DistinctRun Sample.config 0 _ _ :=
    (Engine.executeAll_conditioned _ evaluated.1).mono
      (fun _ _ _ step => ⟨step.1, step.2.2⟩)
  ⟨evaluated.2, ((indexes_are_exact run).2 ⟨Sample.uuid 1⟩).2⟩

end TrafficFabric
