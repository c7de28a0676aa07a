import TrafficFabric.Engine.Inspection
import TrafficFabric.Engine.Recovery
import TrafficFabric.Engine.Script

/-!
# What a restored state is trusted for

`restore` checks the shape of a snapshot and that its aggregates conserve
bytes.  It does not compare the aggregates with the sessions, nor the fields
of a session with each other.  `Credible` is what it takes on trust: an
accepted snapshot passes `check_invariants` afterwards exactly when it is
credible.
-/

namespace TrafficFabric

open Foundation

variable {shards : List PersistedShard} {records : List ShardRecord}
  {limits : Limits} {start table : Table SessionId SessionRecord}
  {sessions : List PersistedSession} {Key Item : Type} {bucket : Bucket}

/-! ## Credible snapshots -/

def PersistedSession.bytesIn (persisted : PersistedSession) : Bucket → UInt64
  | .admitted => persisted.admittedBytes
  | .transferred => persisted.transferredBytes
  | .verified => persisted.verifiedBytes
  | .cancelled => persisted.cancelledBytes
  | .wasted => persisted.wastedBytes
  | .unproven => persisted.unprovenBytes
  | .outstanding => persisted.outstandingBytes

/-- The bytes that the restored attempts leave at risk. -/
def PersistedSession.atRiskBytes (persisted : PersistedSession) : UInt64 :=
  (restoredRecord persisted []).atRiskBytes

/-- What `restore` takes on trust of a persisted session. -/
structure PersistedSession.Credible
    (policy : PolicySnapshot) (persisted : PersistedSession) : Prop where
  transferred : persisted.transferredBytes ≤ persisted.admittedBytes
  verified : persisted.verifiedBytes ≤ persisted.transferredBytes
  balance :
    persisted.transferredBytes + persisted.wastedBytes +
        persisted.cancelledBytes + persisted.unprovenBytes +
        persisted.outstandingBytes = persisted.admittedBytes
  outstanding :
    isTerminal persisted.state = false →
      persisted.outstandingBytes -
          min persisted.atRiskBytes persisted.outstandingBytes ≤
        persisted.admittedBytes
  envelope :
    persisted.envelope.session.isNil = true ∨
      persisted.envelope.session = persisted.session
  evidence :
    persisted.evidence = .verifiedAtDestination →
      ∀ shard ∈ persisted.shards, shard.state = .verified
  completed :
    persisted.state = .trafficSessionComplete →
      policy.requireDestinationVerification = true →
      ∀ shard ∈ persisted.shards, shard.state = .verified

/-- What `restore` takes on trust of a snapshot.  The totals of evicted
sessions are those of the engine that restores, as no snapshot has them. -/
structure EngineSnapshot.Credible
    (engine : Engine) (snapshot : EngineSnapshot) : Prop where
  sessions :
    ∀ persisted ∈ snapshot.sessions, persisted.Credible engine.policy
  bytes :
    ∀ bucket,
      (snapshot.accounting.bytesIn bucket).toNat =
        ((engine.pruned.bytesIn bucket).toNat +
          (snapshot.sessions.map
            (fun persisted => (persisted.bytesIn bucket).toNat)).sum) % 2 ^ 64

/-! ## The sessions -/

theorem restoreShards_copies
    {descriptors : List ShardDescriptor}
    (restored : restoreShards shards descriptors = .ok records)
    (shaped : shards.length = descriptors.length) :
    records.map ShardRecord.index = descriptors.map ShardDescriptor.index ∧
      records.map ShardRecord.state = shards.map PersistedShard.state := by
  induction shards generalizing descriptors records with
  | nil =>
      obtain rfl := List.length_eq_zero_iff.mp shaped.symm
      cases restored
      exact ⟨rfl, rfl⟩
  | cons _ _ hypothesis =>
      cases descriptors with
      | nil =>
          cases shaped
      | cons =>
          simp only [restoreShards, bind_eq_ok, refuseWhen_eq_ok, not_not,
            ne_eq] at restored
          obtain ⟨_, same, rest, later, listed⟩ := restored
          cases listed
          obtain ⟨indexes, states⟩ :=
            hypothesis later (Nat.succ.inj shaped)
          refine ⟨?_, ?_⟩
          · rw [List.map_cons, List.map_cons, indexes]
            exact congrArg (· :: _) same
          · rw [List.map_cons, List.map_cons, states]
            rfl

theorem forall_state_iff
    (same : records.map ShardRecord.state = shards.map PersistedShard.state)
    (state : ShardState) :
    (∀ record ∈ records, record.state = state) ↔
      ∀ shard ∈ shards, shard.state = state := by
  have left :
      (∀ record ∈ records, record.state = state) ↔
        ∀ found ∈ records.map ShardRecord.state, found = state := by
    simp only [List.forall_mem_map]
  rw [left, same, List.forall_mem_map]

theorem rearmShard_verified (shard : ShardRecord) :
    (Focus.rearmShard shard).state = .verified ↔ shard.state = .verified := by
  unfold Focus.rearmShard
  split
  · rename_i held
    constructor
    · intro wrong
      cases wrong
    · intro verified
      rw [verified] at held
      rcases held with wrong | wrong <;> cases wrong
  · exact Iff.rfl

theorem rearmShard_index (shard : ShardRecord) :
    (Focus.rearmShard shard).index = shard.index := by
  unfold Focus.rearmShard
  split <;> rfl

/-- Bytes that are moved between two addends leave the sum. -/
theorem word_balance_moved (settled unproven outstanding moved : UInt64) :
    settled + (unproven + moved) + (outstanding - moved) =
      settled + unproven + outstanding := by
  grind

/-- A restored session passes its inspection exactly when it is credible. -/
theorem sound_quiesced_iff
    {policy : PolicySnapshot}
    {persisted : PersistedSession}
    (restorable : persisted.Restorable limits)
    (restored :
      restoreShards persisted.shards persisted.request.manifest.shards =
        .ok records)
    (bound : Nat) (now : Nanos) :
    ((restoredRecord persisted records).quiesced bound now).Sound policy ↔
      persisted.Credible policy := by
  obtain ⟨indexes, states⟩ := restoreShards_copies restored restorable.shaped
  have verified := forall_state_iff states .verified
  cases terminal : isTerminal persisted.state with
  | true =>
      have kept :
          (restoredRecord persisted records).quiesced bound now =
            restoredRecord persisted records := if_pos terminal
      have vacated := restorable.settled terminal
      rw [kept]
      constructor
      · intro sound
        exact ⟨sound.transferred, sound.verified, sound.balance,
          fun active => absurd (terminal.symm.trans active) (by decide),
          sound.envelope, fun claimed => verified.mp (sound.evidence claimed),
          fun complete required =>
            verified.mp (sound.completed complete required)⟩
      · intro credible
        refine ⟨indexes, credible.transferred, credible.verified,
          credible.balance, ?_, fun _ => ⟨vacated, rfl⟩, credible.envelope,
          fun claimed => verified.mpr (credible.evidence claimed),
          fun complete required =>
            verified.mpr (credible.completed complete required)⟩
        change persisted.outstandingBytes ≤ persisted.admittedBytes
        rw [vacated, UInt64.le_iff_toNat_le]
        exact Nat.zero_le _
  | false =>
      have rewritten :
          (restoredRecord persisted records).quiesced bound now = _ :=
        if_neg (terminal ▸ Bool.false_ne_true)
      rw [rewritten]
      have rearmed :
          (∀ record ∈ records.map Focus.rearmShard,
              record.state = .verified) ↔
            ∀ shard ∈ persisted.shards, shard.state = .verified := by
        rw [← verified, List.forall_mem_map]
        exact forall₂_congr (fun record _ => rearmShard_verified record)
      have moved := word_balance_moved
        (persisted.transferredBytes + persisted.wastedBytes +
          persisted.cancelledBytes) persisted.unprovenBytes
        persisted.outstandingBytes
        (min persisted.atRiskBytes persisted.outstandingBytes)
      constructor
      · intro sound
        refine ⟨sound.transferred, sound.verified, moved.symm.trans
          sound.balance, fun _ => sound.outstanding, sound.envelope,
          fun claimed => rearmed.mp (sound.evidence claimed), ?_⟩
        intro complete
        rw [complete] at terminal
        cases terminal
      · intro credible
        refine ⟨?_, credible.transferred, credible.verified,
          moved.trans credible.balance, credible.outstanding terminal, ?_,
          credible.envelope,
          fun claimed => rearmed.mpr (credible.evidence claimed), ?_⟩
        · refine Eq.trans ?_ indexes
          change (records.map Focus.rearmShard).map ShardRecord.index = _
          rw [List.map_map]
          exact List.map_congr_left (fun record _ => rearmShard_index record)
        · intro wrong
          cases wrong
        · intro wrong
          cases wrong

/-- Every persisted session of an accepted snapshot is in the table. -/
theorem restoreSessions_mem
    (accepted : restoreSessions limits start sessions = .ok table) :
    (∀ id record, start.lookup id = some record →
        table.lookup id = some record) ∧
      ∀ persisted ∈ sessions, persisted.Restorable limits ∧
        ∃ records,
          restoreShards persisted.shards persisted.request.manifest.shards =
              .ok records ∧
            table.lookup persisted.session =
              some (restoredRecord persisted records) := by
  induction sessions generalizing start with
  | nil =>
      cases accepted
      exact ⟨fun _ _ found => found, List.forall_mem_nil _⟩
  | cons first _ hypothesis =>
      obtain ⟨restorable, new, records, restored, later⟩ :=
        restoreSessions_cons.mp accepted
      obtain ⟨kept, others⟩ := hypothesis later
      have placed := kept first.session (restoredRecord first records) (by
        rw [Table.lookup_emplace_self, AList.lookup_eq_none.mpr new]
        rfl)
      refine ⟨?_, List.forall_mem_cons.mpr
        ⟨⟨restorable, records, restored, placed⟩, others⟩⟩
      intro id record found
      refine kept id record ?_
      by_cases own : id = first.session
      · subst own
        exact absurd (Table.mem_of_lookup found) new
      · rw [Table.lookup_emplace_ne own]
        exact found

/-- Sums over the restored table are sums over the snapshot. -/
theorem restoreSessions_total
    (accepted : restoreSessions limits start sessions = .ok table)
    {field : SessionRecord → Nat} {own : PersistedSession → Nat}
    (same :
      ∀ persisted records, field (restoredRecord persisted records) =
        own persisted) :
    table.total field = start.total field + (sessions.map own).sum := by
  induction sessions generalizing start with
  | nil =>
      cases accepted
      rfl
  | cons _ _ hypothesis =>
      obtain ⟨_, new, records, _, later⟩ := restoreSessions_cons.mp accepted
      rw [hypothesis later, Table.emplace_of_not_mem new,
        Table.total_insert field new, same, List.map_cons, List.sum_cons,
        Nat.add_assoc]

/-! ## The indexes -/

theorem total_pushIndex
    [DecidableEq Key] (index : Table Key (List SessionId))
    (key : Key) (id : SessionId) :
    Table.total List.length (Engine.pushIndex index key id) =
      Table.total List.length index + 1 := by
  have inserted :
      Table.total List.length (Engine.pushIndex index key id) =
        (index.findD key [] ++ [id]).length +
          Table.total List.length (index.erase key) := rfl
  rw [inserted, List.length_append, List.length_singleton]
  by_cases present : key ∈ index
  · obtain ⟨old, found⟩ := Table.exists_lookup_of_mem present
    have erased := Table.total_erase List.length found
    rw [Table.findD, found, Option.getD_some]
    omega
  · have absent := AList.lookup_eq_none.mpr present
    have same : index.erase key = index :=
      AList.ext (List.kerase_of_notMem_keys present)
    rw [Table.findD, absent, Option.getD_none, same]
    exact Nat.add_comm _ _

theorem total_foldl_pushIndex
    [DecidableEq Key] (key : Item → Key)
    (id : Item → SessionId) (items : List Item)
    (index : Table Key (List SessionId)) :
    Table.total List.length (items.foldl
        (fun listed item => Engine.pushIndex listed (key item) (id item))
        index) =
      Table.total List.length index + items.length := by
  induction items generalizing index with
  | nil =>
      rfl
  | cons _ _ hypothesis =>
      rw [List.foldl_cons, hypothesis, total_pushIndex, List.length_cons]
      omega

/-- What an index lists was pushed. -/
theorem listed_foldl_pushIndex
    [DecidableEq Key] {Known : SessionId → Prop}
    (key : Item → Key) (id : Item → SessionId) (items : List Item)
    (known : ∀ item ∈ items, Known (id item))
    {index : Table Key (List SessionId)}
    (before : ∀ key ids, index.lookup key = some ids → ∀ id ∈ ids, Known id) :
    ∀ found ids,
      (items.foldl
        (fun listed item => Engine.pushIndex listed (key item) (id item))
        index).lookup found = some ids → ∀ id ∈ ids, Known id := by
  induction items generalizing index with
  | nil =>
      exact before
  | cons item _ hypothesis =>
      refine hypothesis
        (fun other listed => known other (List.mem_cons_of_mem _ listed)) ?_
      intro found ids stored other listed
      unfold Engine.pushIndex at stored
      by_cases own : found = key item
      · subst own
        rw [AList.lookup_insert] at stored
        cases stored
        rcases List.mem_append.mp listed with earlier | last
        · unfold Table.findD at earlier
          cases previous : index.lookup (key item) with
          | none =>
              rw [previous] at earlier
              cases earlier
          | some old =>
              rw [previous] at earlier
              exact before _ old previous other earlier
        · rw [List.mem_singleton.mp last]
          exact known item List.mem_cons_self
      · rw [AList.lookup_insert_ne own] at stored
        exact before found ids stored other listed

/-! ## The restored engine -/

namespace Engine

variable {engine : Engine} {now : Nanos} {snapshot : EngineSnapshot}
  {restored : Table SessionId SessionRecord}

theorem restorable_ok
    (accepted : engine.restorable snapshot = .ok restored) :
    snapshot.accounting.conserves = true ∧
      restoreSessions engine.limits ∅ snapshot.sessions = .ok restored := by
  simp only [Engine.restorable, bind_eq_ok, refuseWhen_eq_ok, not_not]
    at accepted
  obtain ⟨_, conserves, _, _, _, _, _, _, sessions⟩ := accepted
  exact ⟨conserves, sessions⟩

/-- The restored table, in some order. -/
theorem restore_perm
    (accepted : engine.restorable snapshot = .ok restored) :
    (engine.restore now snapshot).2.sessions.entries.Perm
      (Table.mapValues (SessionRecord.quiesced engine.timelineBound now)
        restored).entries := by
  refine Table.perm_of_lookup (fun id => ?_)
  rw [restore_lookup accepted, Table.lookup_mapValues]

theorem restore_total
    (accepted : engine.restorable snapshot = .ok restored)
    (field : SessionRecord → Nat) :
    (engine.restore now snapshot).2.sessions.total field =
      restored.total (fun session =>
        field (session.quiesced engine.timelineBound now)) := by
  rw [Table.total_perm field (restore_perm accepted), Table.total_mapValues]

/-- The indexes are those of the table before its sessions lose their
authority. -/
theorem restore_indexes
    (accepted : engine.restorable snapshot = .ok restored) :
    (engine.restore now snapshot).2.byWorkload =
        (engine.loaded snapshot restored).byWorkload ∧
      (engine.restore now snapshot).2.byCheckpoint =
        (engine.loaded snapshot restored).byCheckpoint := by
  have same := @restore_takeover engine now _ _ accepted
  exact ⟨congrArg Takeover.byWorkload same, congrArg Takeover.byCheckpoint same⟩

/-- The aggregates that no step after the loading changes. -/
theorem restore_settled
    (accepted : engine.restorable snapshot = .ok restored)
    (settled : bucket ≠ .unproven ∧ bucket ≠ .outstanding) :
    (engine.restore now snapshot).2.accounting.bytesIn bucket =
      snapshot.accounting.bytesIn bucket := by
  obtain ⟨proven, granted⟩ := settled
  have same := @restore_keeps engine now snapshot restored _
    (fun state => state.accounting.bytesIn bucket) accepted ?_ ?_ ?_ ?_
  · refine same.trans ?_
    cases bucket <;> rfl
  · intro state
    cases bucket <;> first | rfl | exact absurd rfl granted
  · intro state session
    unfold Engine.recountSession
    dsimp only
    split <;> cases bucket <;> first | rfl | exact absurd rfl granted
  · intro state session
    unfold Engine.indexDeadline
    split <;> rfl
  · intro focus
    unfold Focus.quiesce
    split
    · rfl
    · cases bucket <;>
        first | rfl | exact absurd rfl proven | exact absurd rfl granted

/-- What the aggregate counts as unproven grows as the sessions' bytes do. -/
theorem quieted_unproven :
    ((engine.quieted now snapshot restored).accounting.bytesUnproven.toNat +
        restored.total (fun session => session.unprovenBytes.toNat)) % 2 ^ 64 =
      (snapshot.accounting.bytesUnproven.toNat +
        (engine.quieted now snapshot restored).sessionBytes .unproven) %
          2 ^ 64 := by
  refine @Engine.visit_rule
    (fun reached =>
      (reached.accounting.bytesUnproven.toNat +
          restored.total (fun session => session.unprovenBytes.toNat)) %
          2 ^ 64 =
        (snapshot.accounting.bytesUnproven.toNat +
          reached.sessionBytes .unproven) % 2 ^ 64) _ _ ?_ _ rfl
  intro focus held _ before
  have sessions := focus.quiesce_sessions held now
  have replaced := @Table.total_replace _ _ _
    (fun session : SessionRecord => (session.bytesIn .unproven).toNat) _ _ _
    (focus.session.quiesced focus.engine.timelineBound now) held
  rw [← sessions] at replaced
  have total :
      (focus.quiesce now).sessionBytes .unproven =
        (focus.quiesce now).sessions.total
          (fun session => (session.bytesIn .unproven).toNat) := rfl
  have earlier :
      focus.engine.sessionBytes .unproven =
        focus.engine.sessions.total
          (fun session => (session.bytesIn .unproven).toNat) := rfl
  by_cases terminal : isTerminal focus.session.state = true
  · have same : focus.quiesce now = focus.engine := if_pos terminal
    rw [same]
    exact before
  · have booked :
        (focus.quiesce now).accounting.bytesUnproven =
          focus.engine.accounting.bytesUnproven +
            min focus.session.atRiskBytes focus.session.outstandingBytes := by
      unfold Focus.quiesce
      rw [if_neg terminal]
      rfl
    have moved :
        (focus.session.quiesced focus.engine.timelineBound now).bytesIn
            .unproven =
          focus.session.unprovenBytes +
            min focus.session.atRiskBytes focus.session.outstandingBytes := by
      unfold SessionRecord.quiesced
      rw [if_neg terminal]
      rfl
    have own :
        focus.session.bytesIn .unproven = focus.session.unprovenBytes := rfl
    rw [moved, own, UInt64.toNat_add, ← total, ← earlier] at replaced
    rw [booked, UInt64.toNat_add]
    omega

/-- The counters of the restored engine, before its deadlines are listed. -/
theorem restore_accounting
    (accepted : engine.restorable snapshot = .ok restored) :
    (engine.restore now snapshot).2.accounting =
      ((engine.quieted now snapshot restored).sessions.values.foldl
        Engine.recountSession
        { engine.quieted now snapshot restored with
          classActive := fun _ => 0
          workloadActive := ∅
          terminalOrder := []
          deadlines := []
          accounting :=
            { (engine.quieted now snapshot restored).accounting with
              activeSessions := 0
              grantedOutstandingBytes := 0 } }).accounting := by
  unfold Engine.restore Engine.guarded
  rw [accepted]
  dsimp only
  rw [foldl_preserves (fun state : Engine => state.accounting)]
  · rfl
  · intro state session
    split
    · rfl
    · unfold Engine.indexDeadline
      split <;> rfl

/-- Outstanding bytes and active sessions are counted anew. -/
theorem restore_counts
    (accepted : engine.restorable snapshot = .ok restored) :
    (engine.restore now snapshot).2.accounting.grantedOutstandingBytes.toNat =
        (engine.restore now snapshot).2.sessionBytes .outstanding % 2 ^ 64 ∧
      (engine.restore now snapshot).2.accounting.activeSessions.toNat =
        (engine.restore now snapshot).2.activeCount % 2 ^ 32 := by
  have table := (restore_table now accepted).1
  unfold Engine.sessionBytes Engine.activeCount
  rw [restore_accounting accepted, table]
  constructor
  · have adds (state : Engine) (session : SessionRecord) :
        (state.recountSession session).accounting.grantedOutstandingBytes =
          state.accounting.grantedOutstandingBytes +
            session.outstandingBytes := by
      unfold Engine.recountSession
      dsimp only
      split <;> rfl
    refine (@value_foldl_add _ _ _ _ _ _ UInt64.toNat_lt UInt64.toNat_add
      (fun state : Engine => state.accounting.grantedOutstandingBytes) _ _
      adds _ _).trans ?_
    exact congrArg (fun count => count % 2 ^ 64) (Nat.zero_add _)
  · have adds (state : Engine) (session : SessionRecord) :
        (state.recountSession session).accounting.activeSessions =
          state.accounting.activeSessions +
            if isTerminal session.state then 0 else 1 := by
      unfold Engine.recountSession
      dsimp only
      split
      · exact (UInt32.add_zero _).symm
      · rfl
    refine (@value_foldl_add _ _ _ _ _ _ UInt32.toNat_lt UInt32.toNat_add
      (fun state : Engine => state.accounting.activeSessions) _ _
      adds _ _).trans ?_
    refine congrArg (fun count => count % 2 ^ 32) ((Nat.zero_add _).trans
      (congrArg List.sum (List.map_congr_left (fun session _ => ?_))))
    cases isTerminal session.state <;> rfl

/-- Everything but the bytes is in order after any accepted `restore`. -/
theorem restore_orderly
    (accepted : engine.restorable snapshot = .ok restored) :
    (∀ ids ∈ (engine.restore now snapshot).2.byWorkload.values, ∀ id ∈ ids,
        id ∈ (engine.restore now snapshot).2.sessions) ∧
      (∀ ids ∈ (engine.restore now snapshot).2.byCheckpoint.values,
        ∀ id ∈ ids, id ∈ (engine.restore now snapshot).2.sessions) ∧
      ((engine.restore now snapshot).2.byWorkload.values.map
        List.length).sum =
        (engine.restore now snapshot).2.sessions.entries.length := by
  obtain ⟨byWorkload, byCheckpoint⟩ := @restore_indexes engine now _ _ accepted
  have kept :
      ∀ entry ∈ restored.entries,
        entry.1 ∈ (engine.restore now snapshot).2.sessions := by
    intro entry listed
    have found : restored.lookup entry.1 = some entry.2 :=
      AList.mem_lookup_iff.mpr listed
    have stored := @restore_lookup engine now _ _ accepted entry.1
    rw [found] at stored
    exact Table.mem_of_lookup stored
  have none {Key : Type} [DecidableEq Key] :
      ∀ (key : Key) ids,
        (∅ : Table Key (List SessionId)).lookup key = some ids →
          ∀ id ∈ ids, id ∈ (engine.restore now snapshot).2.sessions := by
    intro key ids wrong
    cases wrong
  rw [byWorkload, byCheckpoint]
  refine ⟨?_, ?_, ?_⟩
  · intro ids listed
    obtain ⟨key, found⟩ := Table.mem_values_iff.mp listed
    exact listed_foldl_pushIndex
      (fun entry : Sigma (fun _ : SessionId => SessionRecord) =>
        entry.2.request.workload) (fun entry => entry.1) restored.entries
      kept none key ids found
  · intro ids listed
    obtain ⟨key, found⟩ := Table.mem_values_iff.mp listed
    exact listed_foldl_pushIndex
      (fun entry : Sigma (fun _ : SessionId => SessionRecord) =>
        entry.2.request.checkpoint) (fun entry => entry.1) restored.entries
      kept none key ids found
  · have pushed := total_foldl_pushIndex
      (fun entry : Sigma (fun _ : SessionId => SessionRecord) =>
        entry.2.request.workload) (fun entry => entry.1) restored.entries ∅
    refine (pushed.trans (Nat.zero_add _)).trans ?_
    rw [(@restore_perm engine now _ _ accepted).length_eq]
    exact (List.length_map _).symm

/-- Every restored session is sound exactly when every persisted one is
credible. -/
theorem restore_sound_iff
    (accepted : engine.restorable snapshot = .ok restored) :
    (∀ id session,
        (engine.restore now snapshot).2.sessions.lookup id = some session →
          session.Sound engine.policy) ↔
      ∀ persisted ∈ snapshot.sessions, persisted.Credible engine.policy := by
  have loading := (restorable_ok accepted).2
  have placed := (restoreSessions_mem loading).2
  constructor
  · intro sound persisted listed
    obtain ⟨restorable, records, restoring, found⟩ := placed persisted listed
    have stored := @restore_lookup engine now _ _ accepted persisted.session
    rw [found] at stored
    exact (sound_quiesced_iff restorable restoring _ now).mp
      (sound _ _ stored)
  · intro credible id session found
    rw [restore_lookup accepted] at found
    obtain ⟨record, present, rfl⟩ := Option.map_eq_some_iff.mp found
    rcases restoreSessions_lookup loading present with wrong |
      ⟨persisted, listed, records, restoring, _, rfl⟩
    · cases wrong
    · exact (sound_quiesced_iff (placed persisted listed).1 restoring _
        now).mpr (credible persisted listed)

/-- What no step of `restore` moves is summed as in the snapshot. -/
theorem restore_sessionBytes
    (accepted : engine.restorable snapshot = .ok restored)
    (settled : bucket ≠ .unproven ∧ bucket ≠ .outstanding) :
    (engine.restore now snapshot).2.sessionBytes bucket =
      (snapshot.sessions.map
        (fun persisted => (persisted.bytesIn bucket).toNat)).sum := by
  unfold Engine.sessionBytes
  rw [restore_total accepted, restoreSessions_total (restorable_ok accepted).2]
  · exact Nat.zero_add _
  · intro persisted records
    unfold SessionRecord.quiesced
    split
    · cases bucket <;> rfl
    · cases bucket <;> first | rfl | exact absurd rfl settled.1 |
        exact absurd rfl settled.2

theorem restore_unproven
    (accepted : engine.restorable snapshot = .ok restored) :
    ((engine.restore now snapshot).2.accounting.bytesUnproven.toNat +
        (snapshot.sessions.map
          (fun persisted => (persisted.bytesIn .unproven).toNat)).sum) %
        2 ^ 64 =
      (snapshot.accounting.bytesUnproven.toNat +
        (engine.restore now snapshot).2.sessionBytes .unproven) % 2 ^ 64 := by
  have same := restore_view
    (fun state : Engine => (state.accounting.bytesUnproven, state.sessions))
    now accepted (fun _ => rfl) (fun state session => by
      unfold Engine.recountSession
      dsimp only
      split <;> rfl) (fun state session => by
      unfold Engine.indexDeadline
      split <;> rfl)
  have summed :
      restored.total (fun session => session.unprovenBytes.toNat) =
        (snapshot.sessions.map
          (fun persisted => (persisted.bytesIn .unproven).toNat)).sum :=
    (restoreSessions_total (restorable_ok accepted).2
      (fun _ _ => rfl)).trans (Nat.zero_add _)
  have grown := @quieted_unproven engine now snapshot restored
  unfold Engine.sessionBytes at grown ⊢
  obtain ⟨unproven, sessions⟩ := Prod.mk.inj same
  rw [← unproven, ← sessions, summed] at grown
  exact grown

end Engine

/-! ## The aggregates -/

/-- Where every item balances, the sums do. -/
theorem sum_balanced
    {Item : Type} (bytesIn : Item → Bucket → UInt64) {items : List Item}
    (balanced :
      ∀ item ∈ items,
        bytesIn item .transferred + bytesIn item .wasted +
            bytesIn item .cancelled + bytesIn item .unproven +
            bytesIn item .outstanding = bytesIn item .admitted) :
    let sum (bucket : Bucket) : Nat :=
      (items.map (fun item => (bytesIn item bucket).toNat)).sum
    (sum .transferred + sum .wasted + sum .cancelled + sum .unproven +
        sum .outstanding) % 2 ^ 64 = sum .admitted % 2 ^ 64 := by
  intro sum
  induction items with
  | nil =>
      rfl
  | cons item _ hypothesis =>
      have later := hypothesis (fun other listed =>
        balanced other (List.mem_cons_of_mem _ listed))
      have first := congrArg UInt64.toNat (balanced item List.mem_cons_self)
      simp only [UInt64.toNat_add] at first
      simp only [sum, List.map_cons, List.sum_cons] at later ⊢
      omega

theorem conserves_iff {accounting : AccountingSnapshot} :
    accounting.conserves = true ↔
      (accounting.bytesIn .transferred).toNat +
          (accounting.bytesIn .wasted).toNat +
          (accounting.bytesIn .cancelled).toNat +
          (accounting.bytesIn .unproven).toNat +
          (accounting.bytesIn .outstanding).toNat ≡
        (accounting.bytesIn .admitted).toNat [MOD 2 ^ 64] := by
  unfold AccountingSnapshot.conserves Nat.ModEq
  rw [beq_iff_eq, ← UInt64.toNat_inj]
  simp only [UInt64.toNat_add, AccountingSnapshot.bytesIn]
  have bound := accounting.bytesAdmitted.toNat_lt
  omega

/-- The aggregates agree with the sessions after the restoring exactly when
they did before. -/
theorem aggregates_agree_iff
    {pruned snapshot after before left : Bucket → Nat}
    (stored : ∀ bucket, snapshot bucket < 2 ^ 64)
    (bounded : ∀ bucket, after bucket < 2 ^ 64)
    (none : pruned .outstanding = 0)
    (settled :
      ∀ bucket, bucket ≠ .unproven ∧ bucket ≠ .outstanding →
        after bucket = snapshot bucket ∧ left bucket = before bucket)
    (grown :
      (after .unproven + before .unproven) % 2 ^ 64 =
        (snapshot .unproven + left .unproven) % 2 ^ 64)
    (counted : after .outstanding = left .outstanding % 2 ^ 64)
    (balanced :
      (before .transferred + before .wasted + before .cancelled +
          before .unproven + before .outstanding) % 2 ^ 64 =
        before .admitted % 2 ^ 64)
    (rebalanced :
      (left .transferred + left .wasted + left .cancelled +
          left .unproven + left .outstanding) % 2 ^ 64 =
        left .admitted % 2 ^ 64)
    (conserved :
      (snapshot .transferred + snapshot .wasted + snapshot .cancelled +
          snapshot .unproven + snapshot .outstanding) % 2 ^ 64 =
        snapshot .admitted % 2 ^ 64) :
    ((after .transferred + after .wasted + after .cancelled +
          after .unproven + after .outstanding) % 2 ^ 64 =
        after .admitted % 2 ^ 64 ∧
      ∀ bucket, after bucket = (pruned bucket + left bucket) % 2 ^ 64) ↔
      ∀ bucket,
        snapshot bucket = (pruned bucket + before bucket) % 2 ^ 64 := by
  have admitted := settled .admitted (by decide)
  have transferred := settled .transferred (by decide)
  have verified := settled .verified (by decide)
  have cancelled := settled .cancelled (by decide)
  have wasted := settled .wasted (by decide)
  have storedUnproven := stored .unproven
  have storedOutstanding := stored .outstanding
  have boundedUnproven := bounded .unproven
  constructor
  · rintro ⟨conserves, agree⟩
    have agreeAdmitted := agree .admitted
    have agreeTransferred := agree .transferred
    have agreeVerified := agree .verified
    have agreeCancelled := agree .cancelled
    have agreeWasted := agree .wasted
    have agreeUnproven := agree .unproven
    intro bucket
    cases bucket <;> omega
  · intro agree
    have agreeAdmitted := agree .admitted
    have agreeTransferred := agree .transferred
    have agreeVerified := agree .verified
    have agreeCancelled := agree .cancelled
    have agreeWasted := agree .wasted
    have agreeUnproven := agree .unproven
    have agreeOutstanding := agree .outstanding
    refine ⟨by omega, fun bucket => ?_⟩
    cases bucket <;> omega

/-! ## Restoring -/

section

variable {engine : Engine} {now : Nanos} {snapshot : EngineSnapshot}
  {restored : Table SessionId SessionRecord}

/-- The aggregates of a restored engine, when its sessions are sound. -/
theorem restored_bytes_iff
    (accepted : engine.restorable snapshot = .ok restored)
    (credible :
      ∀ persisted ∈ snapshot.sessions, persisted.Credible engine.policy) :
    ((engine.restore now snapshot).2.accounting.conserves = true ∧
      ∀ bucket,
        ((engine.restore now snapshot).2.accounting.bytesIn bucket).toNat =
          ((engine.pruned.bytesIn bucket).toNat +
            (engine.restore now snapshot).2.sessionBytes bucket) % 2 ^ 64) ↔
      ∀ bucket,
        (snapshot.accounting.bytesIn bucket).toNat =
          ((engine.pruned.bytesIn bucket).toNat +
            (snapshot.sessions.map
              (fun persisted => (persisted.bytesIn bucket).toNat)).sum) %
            2 ^ 64 := by
  have sound := (@Engine.restore_sound_iff engine now _ _ accepted).mpr credible
  have balanced := sum_balanced PersistedSession.bytesIn
    (fun persisted listed => (credible persisted listed).balance)
  have rebalanced := @sum_balanced _ SessionRecord.bytesIn
    (engine.restore now snapshot).2.sessions.values (by
      intro session listed
      obtain ⟨id, found⟩ := Table.mem_values_iff.mp listed
      exact (sound id session found).balance)
  rw [conserves_iff]
  exact @aggregates_agree_iff
    (fun bucket => (engine.pruned.bytesIn bucket).toNat)
    (fun bucket => (snapshot.accounting.bytesIn bucket).toNat)
    (fun bucket =>
      ((engine.restore now snapshot).2.accounting.bytesIn bucket).toNat)
    (fun bucket => (snapshot.sessions.map
      (fun persisted : PersistedSession =>
        (persisted.bytesIn bucket).toNat)).sum)
    (engine.restore now snapshot).2.sessionBytes
    (fun _ => UInt64.toNat_lt _) (fun _ => UInt64.toNat_lt _) rfl
    (fun bucket settled =>
      ⟨congrArg UInt64.toNat (Engine.restore_settled accepted settled),
        Engine.restore_sessionBytes accepted settled⟩)
    (Engine.restore_unproven accepted) (Engine.restore_counts accepted).1
    balanced rebalanced
    (conserves_iff.mp (Engine.restorable_ok accepted).1)

theorem restored_attemptCount
    (accepted : engine.restorable snapshot = .ok restored) :
    (engine.restore now snapshot).2.attemptCount = 0 := by
  unfold Engine.attemptCount
  rw [Engine.restore_total accepted,
    restoreSessions_total (Engine.restorable_ok accepted).2]
  · exact (Nat.zero_add _).trans (List.sum_eq_zero (fun count listed => by
      obtain ⟨_, _, same⟩ := List.mem_map.mp listed
      exact same.symm))
  · intro persisted records
    unfold SessionRecord.quiesced
    split <;> rfl

/-- An accepted snapshot passes the inspection exactly when it is credible. -/
theorem restored_consistent_iff
    (accepted : engine.restorable snapshot = .ok restored) :
    (engine.restore now snapshot).2.Consistent ↔ snapshot.Credible engine := by
  have settings := Engine.restore_settings engine now snapshot
  have policy : (engine.restore now snapshot).2.policy = engine.policy :=
    congrArg Engine.Settings.policy settings
  have pruned : (engine.restore now snapshot).2.pruned = engine.pruned :=
    congrArg Engine.Settings.pruned settings
  have sound := @Engine.restore_sound_iff engine now _ _ accepted
  constructor
  · intro consistent
    have each := consistent.sound
    rw [policy] at each
    have credible := sound.mp each
    have agree := consistent.bytes
    rw [pruned] at agree
    exact ⟨credible, (restored_bytes_iff accepted credible).mp
      ⟨consistent.conserves, agree⟩⟩
  · intro credible
    obtain ⟨conserves, agree⟩ :=
      (@restored_bytes_iff engine now _ _ accepted credible.sessions).mpr
        credible.bytes
    obtain ⟨workloads, checkpoints, indexed⟩ :=
      @Engine.restore_orderly engine now _ _ accepted
    have same := @Engine.restore_takeover engine now _ _ accepted
    have emptied : (engine.restore now snapshot).2.commandIndex = ∅ :=
      congrArg Engine.Takeover.commandIndex same
    have none :
        (engine.restore now snapshot).2.accounting.activeAttempts = 0 :=
      congrArg Engine.Takeover.activeAttempts same
    refine ⟨conserves, ?_, ?_, (Engine.restore_counts accepted).2, ?_,
      workloads, checkpoints, indexed, ?_⟩
    · rw [policy]
      exact sound.mpr credible.sessions
    · rw [pruned]
      exact agree
    · rw [none, restored_attemptCount accepted]
      rfl
    · rw [emptied]
      exact Nat.zero_le _

end

/--
A refused `restore` changes nothing.  After an accepted one `check_invariants`
succeeds exactly when the snapshot was credible: when its sessions and its
aggregates agree with each other.
-/
theorem restore_is_trustworthy_iff
    (engine : Engine) (now : Nanos) (snapshot : EngineSnapshot) :
    (∃ status, engine.restore now snapshot = (.error status, engine)) ∨
      ((engine.restore now snapshot).1 = .ok () ∧
        ((engine.restore now snapshot).2.checkInvariants = .ok () ↔
          snapshot.Credible engine)) := by
  cases accepted : engine.restorable snapshot with
  | error status =>
      exact .inl ⟨status, Engine.restore_refused accepted⟩
  | ok =>
      refine .inr ⟨?_, Engine.checkInvariants_ok.trans
        (restored_consistent_iff accepted)⟩
      unfold Engine.restore Engine.guarded
      rw [accepted]

/-- Aggregates that conserve bytes which no session has. -/
def Sample.hollowSnapshot : EngineSnapshot where
  accounting := { bytesAdmitted := 1, bytesTransferred := 1 }

theorem hollow_snapshot_is_restored :
    ((Engine.construct Sample.config 0).restore 0
        Sample.hollowSnapshot).1 = .ok () ∧
      ((Engine.construct Sample.config 0).restore 0
        Sample.hollowSnapshot).2.checkInvariants =
        .error (.error .accountingImbalance
          "aggregate accounting disagrees with per-session accounting") := by
  decide +kernel

end TrafficFabric
