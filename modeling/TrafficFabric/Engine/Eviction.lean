import TrafficFabric.Engine.Refusals
import Mathlib.Data.Finset.Card
import Mathlib.Data.Finset.Dedup
import Mathlib.Data.List.TakeWhile

/-!
# Which session an eviction takes

Settling a session enters it in the queue of terminal sessions and then
prunes the table.  When the table holds more sessions than are retained, the
pruning takes terminal sessions from the front of the queue until three
quarters of the bound are left; nothing keeps it from taking the session just
settled, to which the caller still holds a reference.

The session survives exactly when the table is not crowded, or it is not in
the queue, or the terminal sessions queued before it are enough.
-/

namespace TrafficFabric

open Foundation

/-! ## The pruning loop -/

/-- The table holds the session in a terminal state. -/
def Engine.retires (engine : Engine) (id : SessionId) : Bool :=
  (engine.sessions.lookup id).any (fun session => isTerminal session.state)

/-- The sessions that pruning may evict among those listed. -/
def Engine.evictable (engine : Engine) (ids : List SessionId) :
    Finset SessionId :=
  ids.toFinset.filter (fun id => engine.retires id = true)

namespace Engine

variable {engine : Engine} {id key : SessionId} {session : SessionRecord}

theorem retires_of_lookup
    (found : engine.sessions.lookup id = some session) :
    engine.retires id = isTerminal session.state := by
  unfold retires
  rw [found]
  rfl

theorem mem_of_retires (retired : engine.retires id = true) :
    id ∈ engine.sessions := by
  rcases (Option.any_eq_true _ _).mp retired with ⟨session, found, _⟩
  exact Table.mem_of_lookup found

theorem retires_evict_ne (differs : id ≠ key) :
    (engine.evict key session).retires id = engine.retires id := by
  unfold retires evict
  rw [AList.lookup_erase_ne differs]

theorem retires_evict_self :
    (engine.evict key session).retires key = false := by
  unfold retires evict
  rw [AList.lookup_erase]
  rfl

theorem length_evict
    (session : SessionRecord) (member : key ∈ engine.sessions) :
    (engine.evict key session).sessions.entries.length + 1 =
      engine.sessions.entries.length := by
  have erased := congrArg List.length
    (AList.keys_erase key engine.sessions)
  have positive : 0 < engine.sessions.keys.length :=
    List.length_pos_of_mem (AList.mem_keys.mp member)
  rw [List.length_erase_of_mem (AList.mem_keys.mp member)] at erased
  simp only [AList.keys, List.keys, List.length_map] at erased positive
  change (engine.sessions.erase key).entries.length + 1 = _
  omega

theorem evictable_cons_of_kept
    (kept : engine.retires id = false) (ids : List SessionId) :
    engine.evictable (id :: ids) = engine.evictable ids := by
  unfold evictable
  rw [List.toFinset_cons, Finset.filter_insert, if_neg]
  rw [kept]
  exact Bool.false_ne_true

theorem card_evictable_cons
    (session : SessionRecord) (retired : engine.retires id = true)
    (ids : List SessionId) :
    (engine.evictable (id :: ids)).card =
      ((engine.evict id session).evictable ids).card + 1 := by
  have split :
      engine.evictable (id :: ids) =
        insert id ((engine.evict id session).evictable ids) := by
    ext other
    unfold evictable
    by_cases same : other = id
    · subst same
      simp [retired]
    · simp [same, retires_evict_ne same]
  rw [split, Finset.card_insert_of_notMem]
  unfold evictable
  simp [retires_evict_self]

/-- A terminal session survives the loop unless its turn comes while too many
sessions are left. -/
theorem mem_pruneLoop_iff
    (target : Nat) (ids : List SessionId) (erased : Bool)
    (retired : engine.retires key = true) :
    key ∈ (pruneLoop target ids erased engine).2.sessions ↔
      key ∉ ids ∨
        engine.sessions.entries.length ≤
          target + (engine.evictable
            (ids.takeWhile (fun id => id ≠ key))).card := by
  induction ids generalizing erased engine with
  | nil =>
      exact iff_of_true (mem_of_retires retired) (.inl List.not_mem_nil)
  | cons first rest hypothesis =>
      unfold pruneLoop
      split
      · rename_i crowded
        by_cases own : first = key
        · subst own
          rcases (Option.any_eq_true _ _).mp retired with
            ⟨session, found, terminal⟩
          rw [found]
          dsimp only
          rw [if_pos terminal]
          refine iff_of_false ?_ ?_
          · -- Once evicted the session does not come back.
            rcases lookup_pruneLoop target rest true
              (engine.evict first session) first with gone | same
            · exact AList.lookup_eq_none.mp gone
            · exact AList.lookup_eq_none.mp
                (same.trans (AList.lookup_erase _ _))
          · rintro (absent | few)
            · exact absent List.mem_cons_self
            · rw [List.takeWhile_cons_of_neg (by simp)] at few
              simp only [evictable, List.toFinset_nil, Finset.filter_empty,
                Finset.card_empty] at few
              omega
        · have listed : key ∉ first :: rest ↔ key ∉ rest := by
            rw [List.mem_cons, not_or]
            exact and_iff_right (Ne.symm own)
          rw [listed, List.takeWhile_cons_of_pos (by simpa using own)]
          split
          · rename_i missing
            have kept : engine.retires first = false := by
              unfold retires
              rw [missing]
              rfl
            rw [evictable_cons_of_kept kept]
            exact hypothesis _ retired
          · rename_i session found
            split
            · rename_i terminal
              have gone : engine.retires first = true :=
                (retires_of_lookup found).trans terminal
              have survives :
                  (engine.evict first session).retires key = true :=
                (retires_evict_ne (Ne.symm own)).trans retired
              rw [hypothesis _ survives,
                card_evictable_cons session gone,
                ← length_evict session (mem_of_retires gone),
                ← Nat.add_assoc, Nat.add_le_add_iff_right]
            · rename_i active
              have kept : engine.retires first = false :=
                (retires_of_lookup found).trans (isTerminal_eq_false active)
              rw [evictable_cons_of_kept kept]
              exact hypothesis _ retired
      · rename_i roomy
        exact iff_of_true (mem_of_retires retired)
          (.inr (Nat.le_add_right_of_le (Nat.le_of_not_lt roomy)))

theorem mem_pruneHistory_iff (retired : engine.retires key = true) :
    key ∈ engine.pruneHistory.sessions ↔
      engine.sessions.entries.length ≤ engine.retentionBound ∨
        key ∉ engine.terminalOrder ∨
        engine.sessions.entries.length ≤
          engine.retentionBound * 3 / 4 + (engine.evictable
            (engine.terminalOrder.takeWhile (fun id => id ≠ key))).card := by
  unfold pruneHistory
  split
  · rename_i roomy
    exact iff_of_true (mem_of_retires retired) (.inl roomy)
  · rename_i crowded
    rw [or_iff_right crowded, ← mem_pruneLoop_iff _ _ false retired]
    dsimp only
    split <;> exact Iff.rfl

end Engine

/-! ## Settling a held session -/

namespace Focus

/-- The queue of terminal sessions once the held session is retired. -/
def terminalQueue (focus : Focus) : List SessionId :=
  if isTerminal focus.session.state then focus.engine.terminalOrder
  else focus.engine.terminalOrder ++ [focus.session.id]

/-- The table is not crowded, or the held session is not queued, or the
terminal sessions queued before it are enough for the pruning. -/
def Spared (focus : Focus) : Prop :=
  focus.engine.sessions.entries.length ≤ focus.engine.retentionBound ∨
    focus.key ∉ focus.terminalQueue ∨
    focus.engine.sessions.entries.length ≤
      focus.engine.retentionBound * 3 / 4 + (focus.engine.evictable
        (focus.terminalQueue.takeWhile (fun id => id ≠ focus.key))).card

variable {focus : Focus}

theorem commit_retires_ne
    {before after : Focus} (framed : Framed before after) {id : SessionId}
    (differs : id ≠ before.key) :
    after.commit.retires id = before.engine.retires id := by
  unfold Engine.retires
  rw [lookup_commit_ne (framed.key ▸ differs), framed.engine.sessions]

/-- Pruning after a settlement, in terms of the state before it. -/
theorem Framed.pruneHistory_live_iff
    {before after : Focus} (framed : Framed before after)
    (live : before.Live) (settled : isTerminal after.session.state = true)
    (queued : after.engine.terminalOrder = before.terminalQueue) :
    after.pruneHistory.Live ↔ before.Spared := by
  have alive : after.Live := by
    unfold Live at live ⊢
    rw [framed.key, framed.engine.sessions]
    exact live
  have retired : after.commit.retires after.key = true :=
    (Engine.retires_of_lookup (lookup_commit_self alive)).trans settled
  have length :
      after.commit.sessions.entries.length =
        before.engine.sessions.entries.length := by
    unfold commit
    rw [Table.length_replace, framed.engine.sessions]
  have others :
      after.commit.evictable
          (before.terminalQueue.takeWhile (fun id => id ≠ before.key)) =
        before.engine.evictable
          (before.terminalQueue.takeWhile (fun id => id ≠ before.key)) := by
    refine Finset.filter_congr ?_
    intro id listed
    have differs := List.mem_takeWhile_imp (List.mem_toFinset.mp listed)
    rw [commit_retires_ne framed (of_decide_eq_true differs)]
  have pruned := Engine.mem_pruneHistory_iff retired
  rw [length, framed.key, show after.commit.retentionBound =
      before.engine.retentionBound from framed.engine.retentionBound,
    show after.commit.terminalOrder = before.terminalQueue from queued,
    others] at pruned
  unfold Spared
  rw [← pruned, ← framed.key]
  exact Iff.rfl

theorem retire_terminalOrder (focus : Focus) :
    focus.retire.engine.terminalOrder = focus.terminalQueue := by
  unfold retire terminalQueue
  split <;> rfl

theorem releasePathReservation_terminalOrder (focus : Focus) :
    focus.releasePathReservation.engine.terminalOrder =
      focus.engine.terminalOrder := by
  unfold releasePathReservation
  split <;> rfl

theorem closeAs_terminalOrder
    (focus : Focus) (state : SessionState) (reason : ReasonCode)
    (detail : Text) (now : Nanos) :
    (focus.closeAs state reason detail now).engine.terminalOrder =
      focus.terminalQueue := by
  unfold closeAs
  dsimp only
  rw [releasePathReservation_terminalOrder]
  exact retire_terminalOrder _

theorem completeSession_terminalOrder
    (focus : Focus) (now : Nanos)
    (active : isTerminal focus.session.state = false) :
    (focus.completeSession now).engine.terminalOrder =
      focus.terminalQueue := by
  have released := (focus.finish now).releasePathReservation_terminalOrder
  have identity :
      (focus.finish now).releasePathReservation.session.id =
        focus.session.id := by
    rw [releasePathReservation_session]
    rfl
  unfold completeSession noteTerminal terminalQueue
  rw [active]
  dsimp only [book, revise, Engine.book, Engine.deactivate]
  rw [released, identity]
  rfl

/-- The settlement of a session keeps its record exactly when it is
spared. -/
theorem settleTerminal_live_iff
    (live : focus.Live) {state : SessionState}
    (terminal : isTerminal state = true) (reason : ReasonCode)
    (detail : Text) (now : Nanos) :
    (focus.settleTerminal state reason detail now).Live ↔ focus.Spared := by
  refine Framed.pruneHistory_live_iff (.closeAs _ _ _ _ _) live ?_
    (focus.closeAs_terminalOrder state reason detail now)
  rw [closeAs_session]
  exact terminal

/-- The session completes when its progress is recomputed. -/
def completes (focus : Focus) : Bool :=
  (focus.revise SessionRecord.deriveProgress).isComplete &&
    !isTerminal (focus.revise SessionRecord.deriveProgress).session.state

theorem recomputeProgress_live_iff (live : focus.Live) (now : Nanos) :
    (focus.recomputeProgress now).Live ↔
      (focus.completes = true →
        (focus.revise SessionRecord.deriveProgress).Spared) := by
  have condition :
      focus.completes = true ↔
        (focus.revise SessionRecord.deriveProgress).isComplete = true ∧
          ¬ isTerminal
            (focus.revise SessionRecord.deriveProgress).session.state =
              true := by
    simp [completes]
  unfold recomputeProgress
  dsimp only
  rw [condition]
  split
  · rename_i complete
    have active := isTerminal_eq_false complete.2
    rw [forall_prop_of_true complete]
    refine Framed.pruneHistory_live_iff
      (Change.complete _ now complete.1 active trivial :
        Change anyPermits _ _).framed live ?_
      (completeSession_terminalOrder _ now active)
    rw [completeSession_session]
    rfl
  · rename_i pending
    exact iff_of_true live (fun complete => absurd complete pending)

end Focus

/-- Whenever a session is settled, its record is still in the table exactly
when the session is spared: settlement in any terminal state, and completion
when progress is recomputed. -/
theorem settled_session_stays_iff {focus : Focus} (live : focus.Live) :
    (∀ state reason detail now, isTerminal state = true →
      ((focus.settleTerminal state reason detail now).Live ↔
        focus.Spared)) ∧
    (∀ now, (focus.recomputeProgress now).Live ↔
      (focus.completes = true →
        (focus.revise SessionRecord.deriveProgress).Spared)) :=
  ⟨fun _ reason detail now terminal =>
      Focus.settleTerminal_live_iff live terminal reason detail now,
    fun now => Focus.recomputeProgress_live_iff live now⟩

namespace Sample

def persistedSession (id : SessionId) : PersistedSession where
  session := id
  request := request 2 [2]
  state := .admitted
  shards := [{ index := ⟨0⟩ }]
  admittedBytes := 2
  outstandingBytes := 2

/-- The deployment with the least bound on retained sessions. -/
def thriftyConfig : EngineConfig :=
  { config with policy := { policy 1 with retainedHistory := 8 } }

def thriftyEngine : Engine := Engine.construct thriftyConfig 0

/-- An identity that differs from the others in its first byte. -/
def tagged (tag : UInt8) : Uuid128 where
  bytes := tag :: List.replicate 15 1
  size := by simp

/-- One identity more than there are retained sessions. -/
def crowd : List SessionId :=
  (List.range 65).map (fun tag => ⟨tagged tag.toUInt8⟩)

/-- An active session in a crowded table; the first seventeen sessions have
been cancelled and are queued before it. -/
def queuedFocus : Focus where
  engine :=
    { thriftyEngine with
      sessions := crowd.zipIdx.foldl (fun table entry =>
        table.insert entry.1
          { restoredRecord (persistedSession entry.1) [] with
            state := if entry.2 < 17 then .cancelled else .admitted }) ∅
      terminalOrder := crowd.take 17 }
  key := ⟨tagged 17⟩
  session := restoredRecord (persistedSession ⟨tagged 17⟩) []

end Sample

/-- It outlives its settlement: pruning takes the older ones. -/
theorem settled_session_stays_iff_among_older :
    Sample.queuedFocus.Live ∧
      Sample.queuedFocus.engine.retentionBound <
        Sample.queuedFocus.engine.sessions.entries.length ∧
      Sample.queuedFocus.key ∈ Sample.queuedFocus.terminalQueue ∧
      (Sample.queuedFocus.settleTerminal .cancelled .cancelledByOperator []
        1).Live := by
  have evaluated :
      Sample.queuedFocus.key ∈ Sample.queuedFocus.engine.sessions ∧
        Sample.queuedFocus.engine.retentionBound <
          Sample.queuedFocus.engine.sessions.entries.length ∧
        Sample.queuedFocus.key ∈ Sample.queuedFocus.terminalQueue ∧
        Sample.queuedFocus.engine.sessions.entries.length ≤
          Sample.queuedFocus.engine.retentionBound * 3 / 4 +
            (Sample.queuedFocus.engine.evictable
              (Sample.queuedFocus.terminalQueue.takeWhile
                (fun id => id ≠ Sample.queuedFocus.key))).card := by
    decide +kernel
  rcases evaluated with ⟨live, crowded, queued, older⟩
  exact ⟨live, crowded, queued,
    ((settled_session_stays_iff live).1 .cancelled _ _ _ rfl).mpr
      (.inr (.inr older))⟩

/-! ## A crowded table of active sessions -/

/-- In a crowded table without terminal sessions, an active session that is
settled is the one evicted. -/
theorem Focus.not_spared_of_active
    {focus : Focus}
    (crowded :
      focus.engine.retentionBound < focus.engine.sessions.entries.length)
    (active : ∀ id, focus.engine.retires id = false)
    (unsettled : isTerminal focus.session.state = false)
    (own : focus.session.id = focus.key) :
    ¬ focus.Spared := by
  have none_evictable (ids : List SessionId) :
      focus.engine.evictable ids = ∅ := by
    refine Finset.filter_eq_empty_iff.mpr ?_
    intro id _ retired
    rw [active id] at retired
    cases retired
  rintro (roomy | unqueued | few)
  · omega
  · apply unqueued
    unfold Focus.terminalQueue
    rw [unsettled, ← own]
    exact List.mem_append_right _ (List.mem_singleton_self _)
  · rw [none_evictable, Finset.card_empty] at few
    omega

/-- Distinct restorable sessions are all restored. -/
theorem restoreSessions_accepts
    {limits : Limits} {sessions : List PersistedSession}
    (restorable :
      ∀ persisted ∈ sessions, persisted.Restorable limits ∧
        ∃ shards,
          restoreShards persisted.shards persisted.request.manifest.shards =
            .ok shards)
    (unique : (sessions.map PersistedSession.session).Nodup)
    {restored : Table SessionId SessionRecord}
    (new : ∀ persisted ∈ sessions, persisted.session ∉ restored) :
    ∃ table, restoreSessions limits restored sessions = .ok table ∧
      (∀ id ∈ restored, id ∈ table) ∧
        ∀ persisted ∈ sessions, persisted.session ∈ table := by
  induction sessions generalizing restored with
  | nil =>
      exact ⟨restored, rfl, fun _ known => known, fun _ listed => nomatch listed⟩
  | cons first _ hypothesis =>
      rcases List.nodup_cons.mp unique with ⟨apart, later⟩
      rcases restorable first List.mem_cons_self with
        ⟨accepted, shards, restoring⟩
      have absent := new first List.mem_cons_self
      have known (id : SessionId) :
          id ∈ restored.emplace first.session (restoredRecord first shards) ↔
            id = first.session ∨ id ∈ restored := by
        rw [Table.emplace_of_not_mem absent, AList.mem_insert]
      rcases hypothesis
          (fun persisted listed =>
            restorable persisted (List.mem_cons_of_mem _ listed))
          later
          (fun persisted listed stored => ((known _).mp stored).elim
            (fun same => apart (List.mem_map.mpr ⟨persisted, listed, same⟩))
            (new persisted (List.mem_cons_of_mem _ listed))) with
        ⟨table, rebuilt, kept, stored⟩
      refine ⟨table, restoreSessions_cons.mpr ⟨accepted, absent, shards,
        restoring, rebuilt⟩, fun id old => kept id ((known id).mpr (.inr old)),
        ?_⟩
      intro persisted listed
      rcases List.mem_cons.mp listed with rfl | listed
      · exact kept _ ((known _).mpr (.inl rfl))
      · exact stored persisted listed

/-- Sessions without a deadline are restored without one. -/
theorem Engine.restore_undue
    {engine : Engine} {now : Nanos} {snapshot : EngineSnapshot}
    {restored : Table SessionId SessionRecord}
    (accepted : engine.restorable snapshot = .ok restored)
    (timeless :
      ∀ id session, restored.lookup id = some session →
        ¬ 0 < session.envelope.deadlineTarget) :
    (engine.restore now snapshot).2.deadlines = [] := by
  have envelope (bound : Nat) (session : SessionRecord) :
      (session.quiesced bound now).envelope = session.envelope := by
    unfold SessionRecord.quiesced
    split <;> rfl
  have counted (state : Engine) (session : SessionRecord) :
      (state.recountSession session).deadlines = state.deadlines := by
    unfold Engine.recountSession
    dsimp only
    split <;> rfl
  have listed (state : Engine) (session : SessionRecord) :
      (state.recountSession session).sessions = state.sessions := by
    unfold Engine.recountSession
    dsimp only
    split <;> rfl
  unfold Engine.restore Engine.guarded
  rw [accepted]
  dsimp only
  refine @List.foldlRecOn Engine SessionRecord
    (fun state => state.deadlines = []) _ _ _ ?_ ?_
  · exact foldl_preserves (fun state : Engine => state.deadlines) counted _ _
  · intro state empty session member
    rw [foldl_preserves (fun state : Engine => state.sessions) listed] at member
    rcases Table.mem_values_iff.mp member with ⟨id, found⟩
    rcases Option.map_eq_some_iff.mp
        ((Engine.quieted_lookup id).symm.trans found) with
      ⟨old, stored, rfl⟩
    split
    · exact empty
    · unfold Engine.indexDeadline
      rw [envelope, if_neg (timeless id old stored)]
      exact empty

theorem EngineRun.restored
    (config : EngineConfig) (boot now : Nanos) (snapshot : EngineSnapshot) :
    EngineRun config boot
      [.call now (.restore snapshot)
        ((Engine.construct config boot).execute now (.restore snapshot)).1]
      ((Engine.construct config boot).restore now snapshot).2 :=
  .single (.call (Engine.construct config boot) now (.restore snapshot))

namespace Sample

def crowdedSnapshot : EngineSnapshot where
  epoch := config.epoch
  sessions := crowd.map persistedSession
  accounting := { bytesAdmitted := 130, grantedOutstandingBytes := 130 }

theorem crowd_length : crowd.length = 65 := by
  rw [crowd, List.length_map, List.length_range]

theorem crowd_nodup : crowd.Nodup := by
  refine List.Nodup.map_on ?_ List.nodup_range
  intro first listed second alsoListed same
  have bytes := congrArg (fun id : SessionId => id.value.bytes.head?) same
  have tags : first.toUInt8.toNat = second.toUInt8.toNat :=
    congrArg UInt8.toNat (Option.some.inj bytes)
  rw [Nat.toUInt8_eq, Nat.toUInt8_eq, UInt8.toNat_ofNat', UInt8.toNat_ofNat']
    at tags
  have := List.mem_range.mp listed
  have := List.mem_range.mp alsoListed
  omega

theorem crowd_named {id : SessionId} (listed : id ∈ crowd) :
    ¬ id.isNil = true := by
  rcases List.mem_map.mp listed with ⟨tag, _, rfl⟩
  simp [StrongId.isNil, Uuid128.isNil, tagged]

theorem persistedSession_restorable {id : SessionId} (listed : id ∈ crowd) :
    (persistedSession id).Restorable thriftyEngine.limits ∧
      ∃ shards,
        restoreShards (persistedSession id).shards
            (persistedSession id).request.manifest.shards = .ok shards := by
  have evaluated :
      (validateManifest (request 2 [2]).manifest
          thriftyEngine.limits).toOption.isSome = true ∧
        (restoreShards [{ index := ⟨0⟩ }]
          (request 2 [2]).manifest.shards).toOption.isSome = true := by
    decide +kernel
  refine ⟨⟨?_, ?_, rfl, nofun⟩, ?_⟩
  · exact crowd_named listed
  · cases checked :
      validateManifest (request 2 [2]).manifest thriftyEngine.limits with
    | error status =>
        rw [checked] at evaluated
        cases evaluated.1
    | ok =>
        exact checked
  · cases restoring :
      restoreShards [{ index := ⟨0⟩ }] (request 2 [2]).manifest.shards with
    | error status =>
        rw [restoring] at evaluated
        cases evaluated.2
    | ok shards =>
        exact ⟨shards, restoring⟩

theorem crowdedSnapshot_restorable :
    ∃ restored, thriftyEngine.restorable crowdedSnapshot = .ok restored ∧
      ∀ id ∈ crowd, id ∈ restored := by
  have evaluated :
      (¬ ¬ crowdedSnapshot.accounting.conserves) ∧
        ¬ thriftyEngine.policy.generation <
            crowdedSnapshot.policyGeneration ∧
        ¬ thriftyEngine.topology.generation <
            crowdedSnapshot.topologyGeneration ∧
        ¬ thriftyEngine.limits.maxSessions.toNat <
            crowdedSnapshot.sessions.length := by
    decide +kernel
  rcases evaluated with ⟨conserved, policy, topology, few⟩
  have accepts := @restoreSessions_accepts thriftyEngine.limits
    crowdedSnapshot.sessions ?_ ?_ ∅ (fun _ _ => AList.notMem_empty _)
  · rcases accepts with ⟨restored, accepted, _, stored⟩
    refine ⟨restored, ?_, fun id listed =>
      stored _ (List.mem_map.mpr ⟨id, listed, rfl⟩)⟩
    simp only [Engine.restorable, bind_eq_ok, refuseWhen_eq_ok]
    exact ⟨(), conserved, (), policy, (), topology, (), few, accepted⟩
  · intro persisted member
    rcases List.mem_map.mp member with ⟨id, listed, rfl⟩
    exact persistedSession_restorable listed
  · have same : crowdedSnapshot.sessions.map PersistedSession.session =
        crowd := by
      change (crowd.map persistedSession).map PersistedSession.session = _
      rw [List.map_map]
      exact List.map_id crowd
    rw [same]
    exact crowd_nodup

section

variable {engine : Engine}
  (restarted : engine = (thriftyEngine.restore 1 crowdedSnapshot).2)

include restarted

/-- Every session of the crowd is stored, and every stored session is active
under its own identity. -/
theorem crowded_sessions :
    (∀ id ∈ crowd, id ∈ engine.sessions) ∧
      (∀ id session, engine.sessions.lookup id = some session →
        session.id = id ∧ isTerminal session.state = false) ∧
      engine.deadlines = [] := by
  rcases crowdedSnapshot_restorable with ⟨restored, accepted, stored⟩
  have source {id : SessionId} {session : SessionRecord}
      (found : restored.lookup id = some session) :
      ∃ shards, session = restoredRecord (persistedSession id) shards := by
    rcases Engine.restored_lookup accepted found with
      ⟨persisted, member, shards, _, named, same⟩
    rcases List.mem_map.mp member with ⟨other, _, rfl⟩
    cases named
    exact ⟨shards, same⟩
  have lookup (id : SessionId) :=
    @Engine.restore_lookup thriftyEngine 1 crowdedSnapshot restored accepted id
  rw [← restarted] at lookup
  refine ⟨?_, ?_, ?_⟩
  · intro id listed
    rcases Table.exists_lookup_of_mem (stored id listed) with
      ⟨session, found⟩
    rw [← AList.lookup_isSome, lookup, found]
    rfl
  · intro id session found
    rcases Option.map_eq_some_iff.mp ((lookup id).symm.trans found) with
      ⟨old, restoring, rfl⟩
    rcases source restoring with ⟨shards, rfl⟩
    exact ⟨rfl, rfl⟩
  · rw [restarted]
    refine Engine.restore_undue accepted ?_
    intro id session found
    rcases source found with ⟨shards, rfl⟩
    exact Int64.lt_irrefl

theorem crowded_settings : engine.settings = thriftyEngine.settings := by
  rw [restarted]
  exact thriftyEngine.restore_settings 1 crowdedSnapshot

theorem crowded_length :
    engine.retentionBound < engine.sessions.entries.length := by
  have bound : thriftyEngine.retentionBound = 64 := by
    decide +kernel
  have kept : engine.retentionBound = thriftyEngine.retentionBound :=
    congrArg Engine.Settings.retentionBound (crowded_settings restarted)
  have fits : crowd.length ≤ engine.sessions.keys.length :=
    (List.subperm_of_subset crowd_nodup (fun id listed =>
      AList.mem_keys.mp ((crowded_sessions restarted).1 id listed))).length_le
  rw [crowd_length] at fits
  rw [kept, bound]
  exact fits.trans_eq (List.length_map _)

theorem crowded_fenced : engine.checkFenceStatus (fence 1) = .ok () := by
  have settings := crowded_settings restarted
  rcases crowdedSnapshot_restorable with ⟨restored, accepted, _⟩
  have epoch : engine.epoch = config.epoch := by
    rw [restarted]
    refine Engine.restore_keeps (fun engine => engine.epoch) accepted
      (fun _ => rfl) ?_ ?_ ?_
    · intro state session
      unfold Engine.recountSession
      dsimp only
      split <;> rfl
    · intro state session
      unfold Engine.indexDeadline
      split <;> rfl
    · intro focus
      unfold Focus.quiesce
      split <;> rfl
  have policy : engine.policy = thriftyEngine.policy :=
    congrArg Engine.Settings.policy settings
  have topology : engine.topology = thriftyEngine.topology :=
    congrArg Engine.Settings.topology settings
  have configured :
      thriftyEngine.policy.generation = ⟨1⟩ ∧
        thriftyEngine.topology.generation = ⟨1⟩ := by
    decide +kernel
  unfold Engine.checkFenceStatus
  rw [epoch, policy, topology, configured.1, configured.2]
  rfl

end

end Sample

/-- In a table of active sessions over the bound, the session that an operator
cancels is the one evicted: its record is gone when the settlement
returns. -/
theorem cancelled_session_is_evicted :
    ∃ history engine id focus,
      EngineRun Sample.thriftyConfig 0 history engine ∧
        (engine.observe 2).cancelTarget id (Sample.fence 1) = .ok focus ∧
        focus.Live ∧
        ¬ (focus.settleOutstandingAsCancelled.settleTerminal .cancelled
          .cancelledByOperator [] 2).Live := by
  obtain ⟨engine, restarted⟩ :
      ∃ engine,
        engine = (Sample.thriftyEngine.restore 1 Sample.crowdedSnapshot).2 :=
    ⟨_, rfl⟩
  obtain ⟨history, run⟩ :
      ∃ history, EngineRun Sample.thriftyConfig 0 history engine := by
    rw [restarted, Sample.thriftyEngine]
    exact ⟨_, EngineRun.restored _ _ _ _⟩
  rcases Sample.crowded_sessions restarted with ⟨stored, active, timeless⟩
  have undue : engine.Undue 2 := by
    intro entry listed
    rw [timeless] at listed
    cases listed
  have member : (⟨Sample.tagged 0⟩ : SessionId) ∈ Sample.crowd :=
    List.mem_map.mpr ⟨0, List.mem_range.mpr (by decide), rfl⟩
  rcases Table.exists_lookup_of_mem (stored _ member) with ⟨session, found⟩
  rcases active _ session found with ⟨own, unsettled⟩
  let focus : Focus :=
    ⟨{ engine with commandsProcessed := engine.commandsProcessed + 1 },
      ⟨Sample.tagged 0⟩, session⟩
  have held : focus.Held := found
  have fenced := Sample.crowded_fenced restarted
  have crowded := Sample.crowded_length restarted
  refine ⟨history, engine, ⟨Sample.tagged 0⟩, focus, run, ?_, held.live, ?_⟩
  · rw [undue.observe]
    simp only [Engine.cancelTarget, Engine.fencedSession, bind_eq_ok,
      refuseWhen_eq_ok, requireSome_eq_ok]
    exact ⟨focus, ⟨focus, Engine.hold_eq_some.mpr ⟨rfl, rfl, held⟩, (),
      fenced, rfl⟩, (),
      (Bool.eq_false_iff).mp unsettled, rfl⟩
  · have live : focus.settleOutstandingAsCancelled.Live := held.live
    rw [Focus.settleTerminal_live_iff live rfl]
    refine Focus.not_spared_of_active crowded ?_ unsettled own
    intro id
    cases known : engine.sessions.lookup id with
    | none =>
        exact congrArg (Option.any _) known
    | some other =>
        exact (Engine.retires_of_lookup known).trans (active id other known).2

end TrafficFabric
