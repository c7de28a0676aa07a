import TrafficFabric.Engine.Credit

/-!
# Sessions after a restore

`restore` replaces the whole session table.  Whatever the snapshot holds, no
restored session keeps its authority: each is closed or asks for
revalidation, and all of them are listed in the rebuilt indexes.
-/

namespace TrafficFabric

open Foundation

variable {View Key : Type} {engine : Engine} {snapshot : EngineSnapshot}
  {restored table : Table SessionId SessionRecord} {limits : Limits}
  {id : SessionId}

namespace Engine

/-- The restored engine before its sessions lose their authority. -/
def loaded
    (engine : Engine) (snapshot : EngineSnapshot)
    (restored : Table SessionId SessionRecord) : Engine :=
  { engine with
    sessions := restored
    accounting := { snapshot.accounting with activeAttempts := 0 }
    commandsProcessed := snapshot.commandsProcessed
    epoch := snapshot.epoch
    commandIndex := ∅
    commandOrder := [] }.rebuildIndexes

/-- The restored engine once no session keeps its authority. -/
def quieted
    (engine : Engine) (now : Nanos) (snapshot : EngineSnapshot)
    (restored : Table SessionId SessionRecord) : Engine :=
  (engine.loaded snapshot restored).visit
    (engine.loaded snapshot restored).sessions.keys
    (fun focus => focus.quiesce now)

/-- What `restore` does after that concerns counters and deadlines only. -/
theorem restore_view
    (view : Engine → View) (now : Nanos)
    (accepted : engine.restorable snapshot = .ok restored)
    (cleared :
      ∀ engine : Engine,
        view { engine with
          classActive := fun _ => 0
          workloadActive := ∅
          terminalOrder := []
          deadlines := []
          accounting := { engine.accounting with
            activeSessions := 0
            grantedOutstandingBytes := 0 } } = view engine)
    (counted :
      ∀ (engine : Engine) (session : SessionRecord),
        view (engine.recountSession session) = view engine)
    (scheduled :
      ∀ (engine : Engine) (session : SessionRecord),
        view (engine.indexDeadline session) = view engine) :
    view (engine.restore now snapshot).2 =
      view (engine.quieted now snapshot restored) := by
  unfold Engine.restore Engine.guarded
  rw [accepted]
  dsimp only
  rw [foldl_preserves view, foldl_preserves view counted]
  · exact cleared _
  · intro state session
    split
    · rfl
    · exact scheduled state session

/-- The table and its indexes. -/
def listings (engine : Engine) :
    Table SessionId SessionRecord × Table WorkloadId (List SessionId) ×
      Table CheckpointId (List SessionId) :=
  (engine.sessions, engine.byWorkload, engine.byCheckpoint)

theorem recountSession_listings (engine : Engine) (session : SessionRecord) :
    (engine.recountSession session).listings = engine.listings := by
  unfold Engine.recountSession
  dsimp only
  split <;> rfl

theorem indexDeadline_listings (engine : Engine) (session : SessionRecord) :
    (engine.indexDeadline session).listings = engine.listings := by
  unfold Engine.indexDeadline
  split <;> rfl

theorem restore_table
    (now : Nanos)
    (accepted : engine.restorable snapshot = .ok restored) :
    (engine.restore now snapshot).2.sessions =
        (engine.quieted now snapshot restored).sessions ∧
      (engine.restore now snapshot).2.byWorkload =
        (engine.quieted now snapshot restored).byWorkload ∧
      (engine.restore now snapshot).2.byCheckpoint =
        (engine.quieted now snapshot restored).byCheckpoint := by
  have same := restore_view listings now accepted (fun _ => rfl)
    recountSession_listings indexDeadline_listings
  exact ⟨congrArg Prod.fst same, congrArg (fun view => view.2.1) same,
    congrArg (fun view => view.2.2) same⟩

end Engine

/-- What `restore` checks of a persisted session on its own. -/
structure PersistedSession.Restorable
    (limits : Limits) (persisted : PersistedSession) : Prop where
  named : ¬ persisted.session.isNil = true
  manifest : validateManifest persisted.request.manifest limits = .ok ()
  shaped :
    persisted.shards.length = persisted.request.manifest.shards.length
  settled :
    isTerminal persisted.state = true → persisted.outstandingBytes = 0

/-- One round of the session loop. -/
theorem restoreSessions_cons
    {persisted : PersistedSession} {rest : List PersistedSession} :
    restoreSessions limits restored (persisted :: rest) = .ok table ↔
      persisted.Restorable limits ∧ persisted.session ∉ restored ∧
        ∃ shards,
          restoreShards persisted.shards persisted.request.manifest.shards =
              .ok shards ∧
            restoreSessions limits
              (restored.emplace persisted.session
                (restoredRecord persisted shards)) rest = .ok table := by
  constructor
  · intro accepted
    unfold restoreSessions at accepted
    simp only [bind_eq_ok, refuseWhen_eq_ok] at accepted
    rcases accepted with ⟨_, named, _, new, accepted⟩
    split at accepted
    · simp only [bind_eq_ok] at accepted
      rcases accepted with ⟨_, wrong, _⟩
      cases wrong
    · rename_i manifest
      simp only [bind_eq_ok, refuseWhen_eq_ok, not_not, ne_eq, not_and]
        at accepted
      rcases accepted with
        ⟨_, _, _, shaped, _, settled, shards, restoring, later⟩
      exact ⟨⟨named, manifest, shaped, settled⟩, new, shards, restoring,
        later⟩
  · rintro ⟨⟨named, manifest, shaped, settled⟩, new, shards, restoring,
      later⟩
    rw [restoreSessions]
    simp only [manifest, bind_eq_ok, refuseWhen_eq_ok, not_not, ne_eq,
      not_and]
    exact ⟨(), named, (), new, (), trivial, (), shaped, (), settled, shards,
      restoring, later⟩

/-- Where the sessions of a restored table come from. -/
theorem restoreSessions_lookup
    {sessions : List PersistedSession}
    (accepted : restoreSessions limits restored sessions = .ok table)
    {record : SessionRecord}
    (found : table.lookup id = some record) :
    restored.lookup id = some record ∨
      ∃ persisted ∈ sessions, ∃ shards,
        restoreShards persisted.shards persisted.request.manifest.shards =
            .ok shards ∧
          persisted.session = id ∧
          record = restoredRecord persisted shards := by
  induction sessions generalizing restored with
  | nil =>
      cases accepted
      exact .inl found
  | cons persisted _ hypothesis =>
      rcases restoreSessions_cons.mp accepted with
        ⟨_, new, shards, restoring, later⟩
      rcases hypothesis later with earlier | ⟨other, member, facts⟩
      · by_cases own : id = persisted.session
        · subst own
          rw [Table.lookup_emplace_self, AList.lookup_eq_none.mpr new]
            at earlier
          cases earlier
          exact .inr ⟨persisted, List.mem_cons_self, shards, restoring, rfl,
            rfl⟩
        · rw [Table.lookup_emplace_ne own] at earlier
          exact .inl earlier
      · exact .inr ⟨other, List.mem_cons_of_mem _ member, facts⟩

/-- A session without authority. -/
def Quiet (session : SessionRecord) : Prop :=
  isTerminal session.state = true ∨
    (session.state = .revalidationRequired ∧ session.staleReason ≠ [] ∧
      session.paused = false)

/-- Restoring leaves a terminal session alone and rewrites the slot of an
active one. -/
theorem Focus.quiesce_cases (focus : Focus) (now : Nanos) :
    focus.quiesce now = focus.engine ∨
      ∃ after : Focus,
        focus.quiesce now = after.commit ∧ after.key = focus.key ∧
          after.engine.sessions = focus.engine.sessions ∧
          after.session.request = focus.session.request ∧
          isTerminal focus.session.state = false := by
  unfold Focus.quiesce
  split
  · exact .inl rfl
  · rename_i active
    exact .inr ⟨_, rfl, rfl, rfl, rfl, isTerminal_eq_false active⟩

theorem Focus.quiesce_sweeps
    {focus : Focus} (held : focus.Held) (now : Nanos) :
    Sweeps Quiet focus (focus.quiesce now) := by
  unfold Focus.quiesce
  split
  · rename_i terminal
    exact .of_skip held (.inl terminal)
  · refine .of_commit held.live rfl rfl (.inr ⟨rfl, ?_, rfl⟩)
    simp only [Focus.appendTimeline, Focus.revise,
      SessionRecord.appendTimeline]
    split
    · simp [ascii]
    · rename_i stale
      exact stale

theorem Quiet.standing
    {InOrder : SessionId → WorkloadId → Prop}
    {session : SessionRecord} (quiet : Quiet session) :
    Standing InOrder id session := by
  rcases quiet with terminal | ⟨state, stale, unpaused⟩
  · exact .of_terminal terminal
  · refine fun _ => .of_stale stale (.inl state) ?_
    intro paused
    rw [paused] at unpaused
    cases unpaused

namespace Engine

theorem quieted_lists
    [DecidableEq Key] (index : SessionIndex Key)
    (engine : Engine) (now : Nanos) (snapshot : EngineSnapshot)
    (restored : Table SessionId SessionRecord) :
    index.Lists (engine.quieted now snapshot restored) := by
  refine Engine.visit_rule ?_ (index.lists_rebuilt _)
  intro focus held _ lists
  unfold Focus.quiesce
  split
  · exact lists
  · exact SessionIndex.Lists.of_commit held lists rfl rfl rfl rfl rfl

/-- After an accepted `restore` every session is listed. -/
theorem restore_lists
    [DecidableEq Key] (index : SessionIndex Key)
    (now : Nanos)
    (accepted : engine.restorable snapshot = .ok restored) :
    index.Lists (engine.restore now snapshot).2 := by
  rcases restore_table now accepted with ⟨table, byWorkload, byCheckpoint⟩
  exact (quieted_lists index engine now snapshot restored).of_same table
    byWorkload byCheckpoint

/-- A refused `restore` changes nothing; an accepted one leaves every
session without authority. -/
theorem restore_cases
    (engine : Engine) (now : Nanos) (snapshot : EngineSnapshot) :
    (engine.restore now snapshot).2 = engine ∨
      ((engine.restore now snapshot).2.Indexed ∧
        ∀ id session,
          (engine.restore now snapshot).2.sessions.lookup id =
            some session →
          Quiet session) := by
  cases accepted : engine.restorable snapshot with
  | error =>
      left
      unfold Engine.restore Engine.guarded
      rw [accepted]
  | ok =>
      right
      constructor
      · exact restore_lists workloadIndex now accepted
      · rw [(restore_table now accepted).1]
        exact Engine.visit_keys_sweeps
          (fun focus held => Focus.quiesce_sweeps held now) _

end Engine

/-- A restored session keeps its request, and its state if it was terminal in
the snapshot. -/
theorem Engine.restore_state
    (now : Nanos)
    (accepted : engine.restorable snapshot = .ok table)
    {kept : SessionRecord}
    (found : (engine.restore now snapshot).2.sessions.lookup id = some kept) :
    ∃ persisted ∈ snapshot.sessions,
      persisted.session = id ∧ kept.request = persisted.request ∧
        (isTerminal persisted.state = true → kept.state = persisted.state) := by
  have restored :
      restoreSessions engine.limits ∅ snapshot.sessions = .ok table := by
    simp only [Engine.restorable, bind_eq_ok, refuseWhen_eq_ok] at accepted
    rcases accepted with ⟨_, _, _, _, _, _, _, _, accepted⟩
    exact accepted
  rw [(Engine.restore_table now accepted).1] at found
  refine @Engine.visit_rule
    (fun reached => ∀ id kept, reached.sessions.lookup id = some kept →
      ∃ persisted ∈ snapshot.sessions,
        persisted.session = id ∧ kept.request = persisted.request ∧
          (isTerminal persisted.state = true →
            kept.state = persisted.state)) _ _ ?_ _ ?_ id kept found
  · intro focus held _ holds other record stored
    rcases focus.quiesce_cases now with same |
      ⟨after, same, key, sessions, request, active⟩
    · rw [same] at stored
      exact holds other record stored
    · rw [same] at stored
      by_cases own : other = after.key
      · subst own
        rcases after.lookup_commit with gone | written
        · rw [gone] at stored
          cases stored
        · rw [written] at stored
          cases stored
          rcases holds _ _ held with ⟨persisted, member, named, asked, state⟩
          refine ⟨persisted, member, named.trans key.symm,
            request.trans asked, ?_⟩
          intro terminal
          rw [state terminal, terminal] at active
          cases active
      · rw [Focus.lookup_commit_ne own, sessions] at stored
        exact holds other record stored
  · intro other record stored
    rcases restoreSessions_lookup restored stored with
      none | ⟨persisted, member, shards, _, named, rfl⟩
    · cases none
    · exact ⟨persisted, member, named, rfl, fun _ => rfl⟩

end TrafficFabric
