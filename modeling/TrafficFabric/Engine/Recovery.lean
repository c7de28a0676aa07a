import TrafficFabric.Engine.Restoration
import TrafficFabric.Foundation.TableMap

/-!
# The restored table

Which record each persisted session becomes: a copy without its volatile
fields, and, unless it is terminal, without its authority.
-/

namespace TrafficFabric

open Foundation

/-- The record that the post-pass of `restore` leaves of a session. -/
def SessionRecord.quiesced
    (bound : Nat) (now : Nanos) (session : SessionRecord) : SessionRecord :=
  if isTerminal session.state then session
  else
    let bounded := min session.atRiskBytes session.outstandingBytes
    { session.releaseAttempts with
      outstandingBytes := session.outstandingBytes - bounded
      unprovenBytes := session.unprovenBytes + bounded
      shards := session.shards.map Focus.rearmShard
      state := .revalidationRequired
      paused := false
      staleReason :=
        if session.staleReason = [] then
          ascii "coordinator restarted: authority must be re-established"
        else session.staleReason
      updatedAt := now }.appendTimeline bound now
        (ascii "restored: revalidation required")

theorem Focus.quiesce_sessions
    {focus : Focus} (held : focus.Held) (now : Nanos) :
    (focus.quiesce now).sessions =
      focus.engine.sessions.replace focus.key
        (focus.session.quiesced focus.engine.timelineBound now) := by
  unfold Focus.quiesce SessionRecord.quiesced
  split
  · exact (Table.replace_of_lookup held).symm
  · rfl

theorem Focus.quiesce_policy (focus : Focus) (now : Nanos) :
    (focus.quiesce now).policy = focus.engine.policy := by
  unfold Focus.quiesce
  split <;> rfl

/-- A loop that rewrites each visited session. -/
theorem Engine.visit_lookup
    {change : SessionRecord → SessionRecord} {body : Focus → Engine}
    {policy : PolicySnapshot}
    (each :
      ∀ focus : Focus, focus.Held → focus.engine.policy = policy →
        (body focus).sessions =
            focus.engine.sessions.replace focus.key (change focus.session) ∧
          (body focus).policy = policy)
    {ids : List SessionId} (unique : ids.Nodup) {engine : Engine}
    (same : engine.policy = policy) (id : SessionId) :
    (engine.visit ids body).sessions.lookup id =
      if id ∈ ids then (engine.sessions.lookup id).map change
      else engine.sessions.lookup id := by
  induction ids generalizing engine with
  | nil =>
      rfl
  | cons first _ hypothesis =>
      rcases List.nodup_cons.mp unique with ⟨absent, later⟩
      rw [Engine.visit_cons]
      cases found : engine.hold first with
      | none =>
          rw [Option.elim_none, hypothesis later same]
          by_cases own : id = first
          · subst own
            rw [if_neg absent, if_pos List.mem_cons_self,
              Option.map_eq_none_iff.mp found]
            rfl
          · simp only [List.mem_cons, own, false_or]
      | some focus =>
          rcases Engine.hold_eq_some.mp found with ⟨rfl, rfl, held⟩
          rcases each focus held same with ⟨sessions, kept⟩
          rw [Option.elim_some, hypothesis later kept, sessions]
          by_cases own : id = focus.key
          · subst own
            rw [if_neg absent, if_pos List.mem_cons_self,
              Table.lookup_replace_self held.live, held]
            rfl
          · simp only [List.mem_cons, own, false_or,
              Table.lookup_replace_ne own]

namespace Engine

variable {engine : Engine} {now : Nanos} {snapshot : EngineSnapshot}
  {restored : Table SessionId SessionRecord}

theorem quieted_lookup (id : SessionId) :
    (engine.quieted now snapshot restored).sessions.lookup id =
      (restored.lookup id).map
        (SessionRecord.quiesced engine.timelineBound now) := by
  have visited := @Engine.visit_lookup
    (SessionRecord.quiesced engine.timelineBound now)
    (fun focus => focus.quiesce now) engine.policy ?_
    (engine.loaded snapshot restored).sessions.keys
    (AList.keys_nodup _) (engine.loaded snapshot restored) rfl id
  · refine visited.trans ?_
    change (if id ∈ restored.keys then (restored.lookup id).map _
      else restored.lookup id) = _
    split
    · rfl
    · rename_i absent
      rw [AList.lookup_eq_none.mpr (fun known => absent
        (AList.mem_keys.mp known))]
      rfl
  · intro focus held same
    refine ⟨?_, (focus.quiesce_policy now).trans same⟩
    rw [focus.quiesce_sessions held]
    unfold Engine.timelineBound
    rw [same]

/-- The table after an accepted `restore`. -/
theorem restore_lookup
    (accepted : engine.restorable snapshot = .ok restored) (id : SessionId) :
    (engine.restore now snapshot).2.sessions.lookup id =
      (restored.lookup id).map
        (SessionRecord.quiesced engine.timelineBound now) := by
  rw [(restore_table now accepted).1]
  exact quieted_lookup id

theorem restore_refused
    {status : Status} (refused : engine.restorable snapshot = .error status) :
    engine.restore now snapshot = (.error status, engine) := by
  unfold Engine.restore Engine.guarded
  rw [refused]

/-- What `restore` leaves alone. -/
theorem restore_keeps
    {View : Type} (view : Engine → View)
    (accepted : engine.restorable snapshot = .ok restored)
    (cleared :
      ∀ engine : Engine,
        view { engine with
          classActive := fun _ => 0
          workloadActive := ∅
          terminalOrder := []
          deadlines := []
          accounting := { engine.accounting with
            activeSessions := 0
            grantedOutstandingBytes := 0 } } = view engine)
    (counted :
      ∀ (engine : Engine) (session : SessionRecord),
        view (engine.recountSession session) = view engine)
    (scheduled :
      ∀ (engine : Engine) (session : SessionRecord),
        view (engine.indexDeadline session) = view engine)
    (quiesced :
      ∀ focus : Focus, view (focus.quiesce now) = view focus.engine) :
    view (engine.restore now snapshot).2 =
      view (engine.loaded snapshot restored) := by
  rw [restore_view view now accepted cleared counted scheduled]
  refine @Engine.visit_rule
    (fun reached => view reached = view (engine.loaded snapshot restored))
    _ _ ?_ _ rfl
  intro focus _ _ same
  exact (quiesced focus).trans same

/-- The configuration of an engine and what no snapshot holds. -/
structure Settings where
  limits : Limits
  policy : PolicySnapshot
  topology : TopologySnapshot
  contracts : Table WorkloadId WorkloadContract
  shaper : RateShaper
  pruned : PrunedTotals
  idFactory : IdFactory
  shuttingDown : Bool
  commandIndexBound : Nat
  retentionBound : Nat

def settings (engine : Engine) : Settings where
  limits := engine.limits
  policy := engine.policy
  topology := engine.topology
  contracts := engine.contracts
  shaper := engine.shaper
  pruned := engine.pruned
  idFactory := engine.idFactory
  shuttingDown := engine.shuttingDown
  commandIndexBound := engine.commandIndexBound
  retentionBound := engine.retentionBound

theorem restore_settings
    (engine : Engine) (now : Nanos) (snapshot : EngineSnapshot) :
    (engine.restore now snapshot).2.settings = engine.settings := by
  cases accepted : engine.restorable snapshot with
  | error =>
      rw [restore_refused accepted]
  | ok =>
      refine restore_keeps Engine.settings accepted (fun _ => rfl) ?_ ?_ ?_
      · intro state session
        unfold Engine.recountSession
        dsimp only
        split <;> rfl
      · intro state session
        unfold Engine.indexDeadline
        split <;> rfl
      · intro focus
        unfold Focus.quiesce
        split <;> rfl

/-- What the post-pass of `restore` leaves as it was loaded. -/
structure Takeover where
  epoch : CoordinatorEpoch
  byWorkload : Table WorkloadId (List SessionId)
  byCheckpoint : Table CheckpointId (List SessionId)
  commandIndex : Table CommandId CommandRecord
  activeAttempts : UInt32

def takeover (engine : Engine) : Takeover where
  epoch := engine.epoch
  byWorkload := engine.byWorkload
  byCheckpoint := engine.byCheckpoint
  commandIndex := engine.commandIndex
  activeAttempts := engine.accounting.activeAttempts

theorem restore_takeover
    (accepted : engine.restorable snapshot = .ok restored) :
    (engine.restore now snapshot).2.takeover =
      (engine.loaded snapshot restored).takeover := by
  refine restore_keeps Engine.takeover accepted (fun _ => rfl) ?_ ?_ ?_
  · intro state session
    unfold Engine.recountSession
    dsimp only
    split <;> rfl
  · intro state session
    unfold Engine.indexDeadline
    split <;> rfl
  · intro focus
    unfold Focus.quiesce
    split <;> rfl

/-- Where a session of the restored table comes from. -/
theorem restored_lookup
    (accepted : engine.restorable snapshot = .ok restored)
    {id : SessionId} {session : SessionRecord}
    (found : restored.lookup id = some session) :
    ∃ persisted ∈ snapshot.sessions, ∃ shards,
      restoreShards persisted.shards persisted.request.manifest.shards =
          .ok shards ∧
        persisted.session = id ∧
        session = restoredRecord persisted shards := by
  simp only [Engine.restorable, bind_eq_ok, refuseWhen_eq_ok] at accepted
  rcases accepted with ⟨_, _, _, _, _, _, _, _, accepted⟩
  rcases restoreSessions_lookup accepted found with none | source
  · cases none
  · exact source

end Engine

end TrafficFabric
