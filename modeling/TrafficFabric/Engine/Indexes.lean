import TrafficFabric.Engine.Edits

/-!
# The indexes of the session table

The engine lists its sessions under their workloads and under their
checkpoints.  Pruning rebuilds both lists, so they may name sessions that are
gone, but every session is listed.
-/

namespace TrafficFabric

open Foundation

/-! ## Lists under keys -/

section

variable {Key Entry : Type} [DecidableEq Key]

theorem findD_pushIndex
    (index : Table Key (List SessionId)) (key other : Key) (id : SessionId) :
    (Engine.pushIndex index key id).findD other [] =
      index.findD other [] ++ if key = other then [id] else [] := by
  unfold Engine.pushIndex Table.findD
  by_cases same : other = key
  · subst same
    rw [AList.lookup_insert, if_pos rfl]
    rfl
  · rw [AList.lookup_insert_ne same, if_neg (Ne.symm same), List.append_nil]

/-- Under a key, a rebuilt index lists the entries with that key. -/
theorem findD_foldl_pushIndex
    (keyOf : Entry → Key) (idOf : Entry → SessionId) (entries : List Entry)
    (index : Table Key (List SessionId)) (key : Key) :
    (entries.foldl (fun index entry =>
        Engine.pushIndex index (keyOf entry) (idOf entry)) index).findD
          key [] =
      index.findD key [] ++
        (entries.filter (fun entry => keyOf entry = key)).map idOf := by
  induction entries generalizing index with
  | nil =>
      exact (List.append_nil _).symm
  | cons entry _ hypothesis =>
      rw [List.foldl_cons, hypothesis, findD_pushIndex, List.append_assoc]
      by_cases same : keyOf entry = key
      · simp [same]
      · simp [same]

end

/-! ## Indexes -/

/-- What enrolling writes to the indexes. -/
theorem Engine.enroll_byWorkload
    (engine : Engine) (session : SessionRecord) :
    (engine.enroll session).byWorkload =
      Engine.pushIndex engine.byWorkload session.request.workload
        session.id := by
  unfold Engine.enroll Engine.indexDeadline
  dsimp only
  split <;> rfl

theorem Engine.enroll_byCheckpoint
    (engine : Engine) (session : SessionRecord) :
    (engine.enroll session).byCheckpoint =
      Engine.pushIndex engine.byCheckpoint session.request.checkpoint
        session.id := by
  unfold Engine.enroll Engine.indexDeadline
  dsimp only
  split <;> rfl

/-- One of the two indexes: which table it is and which key of a request it
goes by. -/
structure SessionIndex (Key : Type) [DecidableEq Key] where
  pick :
    Table WorkloadId (List SessionId) → Table CheckpointId (List SessionId) →
      Table Key (List SessionId)
  key : SessionRequest → Key
  empty : pick ∅ ∅ = ∅
  pushed :
    ∀ byWorkload byCheckpoint request id,
      pick (Engine.pushIndex byWorkload request.workload id)
          (Engine.pushIndex byCheckpoint request.checkpoint id) =
        Engine.pushIndex (pick byWorkload byCheckpoint) (key request) id

def workloadIndex : SessionIndex WorkloadId where
  pick := fun byWorkload _ => byWorkload
  key := fun request => request.workload
  empty := rfl
  pushed := fun _ _ _ _ => rfl

def checkpointIndex : SessionIndex CheckpointId where
  pick := fun _ byCheckpoint => byCheckpoint
  key := fun request => request.checkpoint
  empty := rfl
  pushed := fun _ _ _ _ => rfl

namespace SessionIndex

variable {Key : Type} [DecidableEq Key] (index : SessionIndex Key)

/-- The identities listed under a key. -/
def listed (engine : Engine) (key : Key) : List SessionId :=
  (index.pick engine.byWorkload engine.byCheckpoint).findD key []

/-- Every session is listed under its key. -/
def Lists (engine : Engine) : Prop :=
  ∀ id session, engine.sessions.lookup id = some session →
    id ∈ index.listed engine (index.key session.request)

theorem foldl_pushed
    (entries : List (Sigma (fun _ : SessionId => SessionRecord)))
    (byWorkload : Table WorkloadId (List SessionId))
    (byCheckpoint : Table CheckpointId (List SessionId)) :
    index.pick
        (entries.foldl (fun listed entry =>
          Engine.pushIndex listed entry.2.request.workload entry.1)
          byWorkload)
        (entries.foldl (fun listed entry =>
          Engine.pushIndex listed entry.2.request.checkpoint entry.1)
          byCheckpoint) =
      entries.foldl (fun listed entry =>
        Engine.pushIndex listed (index.key entry.2.request) entry.1)
        (index.pick byWorkload byCheckpoint) := by
  induction entries generalizing byWorkload byCheckpoint with
  | nil =>
      rfl
  | cons _ _ hypothesis =>
      rw [List.foldl_cons, List.foldl_cons, List.foldl_cons, hypothesis,
        index.pushed]

theorem listed_rebuilt (engine : Engine) (key : Key) :
    index.listed engine.rebuildIndexes key =
      (engine.sessions.entries.filter (fun entry =>
        index.key entry.2.request = key)).map Sigma.fst := by
  have rebuilt := index.foldl_pushed engine.sessions.entries ∅ ∅
  unfold listed Engine.rebuildIndexes
  rw [rebuilt, findD_foldl_pushIndex
    (fun entry : Sigma (fun _ : SessionId => SessionRecord) =>
      index.key entry.2.request) (fun entry => entry.1), index.empty]
  rfl

theorem listed_enroll
    (engine : Engine) (session : SessionRecord) (key : Key) :
    index.listed (engine.enroll session) key =
      index.listed engine key ++
        if index.key session.request = key then [session.id] else [] := by
  unfold listed
  rw [engine.enroll_byWorkload, engine.enroll_byCheckpoint, index.pushed,
    findD_pushIndex]

theorem lists_rebuilt (engine : Engine) :
    index.Lists engine.rebuildIndexes := by
  intro id session found
  rw [index.listed_rebuilt, List.mem_map]
  exact ⟨⟨id, session⟩, List.mem_filter.mpr
    ⟨AList.mem_lookup_iff.mp found, decide_eq_true rfl⟩, rfl⟩

variable {index}

theorem Lists.of_same
    {before after : Engine} (lists : index.Lists before)
    (sessions : after.sessions = before.sessions)
    (byWorkload : after.byWorkload = before.byWorkload)
    (byCheckpoint : after.byCheckpoint = before.byCheckpoint) :
    index.Lists after := by
  unfold Lists listed
  rw [sessions, byWorkload, byCheckpoint]
  exact lists

/-- A session is rewritten without touching its request. -/
theorem Lists.of_commit
    {focus after : Focus} (held : focus.Held)
    (lists : index.Lists focus.engine) (key : after.key = focus.key)
    (table : after.engine.sessions = focus.engine.sessions)
    (byWorkload : after.engine.byWorkload = focus.engine.byWorkload)
    (byCheckpoint : after.engine.byCheckpoint = focus.engine.byCheckpoint)
    (request : after.session.request = focus.session.request) :
    index.Lists after.commit := by
  intro id session found
  unfold listed
  rw [show after.commit.byWorkload = focus.engine.byWorkload from byWorkload,
    show after.commit.byCheckpoint = focus.engine.byCheckpoint from
      byCheckpoint]
  by_cases own : id = focus.key
  · subst own
    rw [← key] at found
    rcases after.lookup_commit with gone | kept
    · rw [gone] at found
      cases found
    · rw [kept] at found
      cases found
      rw [request]
      exact lists _ _ held
  · rw [Focus.lookup_commit_ne (by rw [key]; exact own), table] at found
    exact lists id session found

theorem Lists.enroll
    {engine : Engine} (lists : index.Lists engine)
    (session : SessionRecord) : index.Lists (engine.enroll session) := by
  intro id found stored
  rw [index.listed_enroll, List.mem_append]
  rcases Engine.lookup_enroll stored with known | ⟨rfl, rfl, _⟩
  · exact .inl (lists id found known)
  · rw [if_pos rfl]
    exact .inr (List.mem_singleton_self _)

theorem Lists.edit
    {permits : Permits} {before after : Engine}
    (edit : Edit permits before after) (lists : index.Lists before) :
    index.Lists after := by
  cases edit with
  | housekeeping _ _ same =>
      exact lists.of_same same.sessions same.byWorkload same.byCheckpoint
  | prune engine =>
      refine Engine.pruneHistory_rule ?_ (fun _ _ lists => lists)
        (fun engine _ => index.lists_rebuilt engine) lists
      intro engine id session _ _ lists other kept stored
      exact lists other kept (Engine.lookup_evict stored)
  | enroll _ session =>
      exact lists.enroll session
  | @change first second live performed =>
      have frame := performed.framed.engine
      have byWorkload : second.commit.byWorkload = first.commit.byWorkload :=
        frame.byWorkload
      have byCheckpoint :
          second.commit.byCheckpoint = first.commit.byCheckpoint :=
        frame.byCheckpoint
      unfold Lists listed
      rw [byWorkload, byCheckpoint]
      refine performed.forall_sessions live lists ?_
      intro listed
      rw [performed.request.1]
      exact listed
  | _ =>
      exact lists

theorem Lists.edits
    {permits : Permits} {before after : Engine} (lists : index.Lists before)
    (edits : Edits permits before after) : index.Lists after :=
  reflTransGen_preserves (fun _ _ edit lists => lists.edit edit) edits lists

end SessionIndex

end TrafficFabric
