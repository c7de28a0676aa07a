import TrafficFabric.Engine.Trust
import TrafficFabric.Engine.Waves
import TrafficFabric.Foundation.Bisection

/-!
# Looking up a shard

`shard_position` bisects the shards of a session.  It is right because the
indices are strictly increasing: `validate_manifest` demands it of a manifest,
admission copies the indices of the manifest, a restore compares them with it,
and nothing else writes them.
-/

namespace TrafficFabric

open Foundation

variable {shards : List ShardRecord} {index : ShardIndex} {position : Nat}
  {session : SessionRecord} {limits : Limits}

/-! ## The search -/

namespace SessionRecord

/-- The shard at a position has a smaller index. -/
def precedes
    (shards : List ShardRecord) (index : ShardIndex) (position : Nat) :
    Bool :=
  shards[position]?.any (fun shard => shard.index < index)

theorem shardSearch_eq_bisect
    (shards : List ShardRecord) (index : ShardIndex) (fuel low high : Nat) :
    shardSearch shards index fuel low high =
      bisect (precedes shards index) fuel low high := by
  induction fuel generalizing low high with
  | zero =>
      rfl
  | succ _ hypothesis =>
      rw [shardSearch, bisect]
      simp only [hypothesis]
      rfl

/-- The indices of the shards increase strictly. -/
def Ascending (shards : List ShardRecord) : Prop :=
  shards.Pairwise (fun left right => left.index < right.index)

theorem Ascending.lt
    (ascending : Ascending shards)
    {first second : Nat} {left right : ShardRecord}
    (earlier : first < second) (leftAt : shards[first]? = some left)
    (rightAt : shards[second]? = some right) : left.index < right.index := by
  obtain ⟨inLeft, rfl⟩ := List.getElem?_eq_some_iff.mp leftAt
  obtain ⟨inRight, rfl⟩ := List.getElem?_eq_some_iff.mp rightAt
  exact List.pairwise_iff_getElem.mp ascending _ _ inLeft inRight earlier

theorem precedes_iff :
    precedes shards index position = true ↔
      ∃ shard, shards[position]? = some shard ∧ shard.index < index := by
  simp [precedes, Option.any_eq_true]

theorem Ascending.precedes
    (ascending : Ascending shards)
    (index : ShardIndex) (earlier later : Nat) (ordered : earlier ≤ later)
    (holds : precedes shards index later = true) :
    precedes shards index earlier = true := by
  obtain ⟨right, rightAt, less⟩ := precedes_iff.mp holds
  rcases Nat.eq_or_lt_of_le ordered with rfl | strict
  · exact holds
  have inRange : earlier < shards.length :=
    Nat.lt_trans strict (List.getElem?_eq_some_iff.mp rightAt).1
  have leftAt := List.getElem?_eq_getElem inRange
  exact precedes_iff.mpr
    ⟨_, leftAt, UInt32.lt_trans (ascending.lt strict leftAt rightAt) less⟩

/-- Before the position that the search ends at, and only there, the indices
are smaller. -/
theorem Ascending.search
    (ascending : Ascending shards)
    (index : ShardIndex) (position : Nat) :
    SessionRecord.precedes shards index position = true ↔
      position < shardSearch shards index shards.length 0 shards.length := by
  rw [shardSearch_eq_bisect]
  refine bisect_spec (ascending.precedes index) (Nat.zero_le _)
    (Nat.le_add_left _ _) (fun _ absurd => (Nat.not_lt_zero _ absurd).elim)
    ?_ position
  intro beyond outside
  unfold SessionRecord.precedes
  rw [List.getElem?_eq_none outside]
  rfl

/-- In a session with increasing indices the lookup finds exactly the position
that holds the index. -/
theorem Ascending.shardPosition_iff
    (ascending : Ascending session.shards) :
    session.shardPosition index = some position ↔
      session.shards[position]?.map ShardRecord.index = some index := by
  constructor
  · intro found
    have result := found
    unfold shardPosition at result
    dsimp only at result
    split at result
    · rename_i matching
      cases result
      rw [Option.any_eq_true] at matching
      obtain ⟨shard, at_, same⟩ := matching
      rw [at_]
      exact congrArg some (beq_iff_eq.mp same)
    · cases result
  · intro holds
    obtain ⟨shard, at_, same⟩ := Option.map_eq_some_iff.mp holds
    -- the search neither stops before the position nor passes it
    have ends :
        shardSearch session.shards index session.shards.length 0
          session.shards.length = position := by
      have boundary := ascending.search index
      apply Nat.le_antisymm
      · by_contra passed
        obtain ⟨other, otherAt, less⟩ := precedes_iff.mp
          ((boundary position).mpr (Nat.not_le.mp passed))
        obtain rfl : shard = other := Option.some.inj (at_.symm.trans otherAt)
        rw [same] at less
        exact UInt32.lt_irrefl _ less
      · by_contra stopped
        have short := Nat.not_le.mp stopped
        have inRange := Nat.lt_trans short
          (List.getElem?_eq_some_iff.mp at_).1
        have otherAt := List.getElem?_eq_getElem inRange
        have less := ascending.lt short otherAt at_
        rw [same] at less
        exact Nat.lt_irrefl _ ((boundary _).mp
          (precedes_iff.mpr ⟨_, otherAt, less⟩))
    unfold shardPosition
    dsimp only
    rw [ends, at_, if_pos]
    simpa using same

end SessionRecord

/-! ## The order of the indices -/

theorem validateManifest_ascending
    {manifest : CheckpointManifest}
    (passed : validateManifest manifest limits = .ok ()) :
    manifest.shards.Pairwise
      (fun left right => left.index < right.index) := by
  simp only [validateManifest, bind_eq_ok] at passed
  rcases passed with
    ⟨_, _, _, _, _, _, _, _, _, _, _, _, _, _, _, _, sum, summed, _⟩
  exact (validateShards_ascending summed).2

/-- The shards carry the indices of a manifest in which they increase. -/
structure SessionRecord.Indexed (session : SessionRecord) : Prop where
  same :
    session.shards.map ShardRecord.index =
      session.request.manifest.shards.map ShardDescriptor.index
  increasing :
    session.request.manifest.shards.Pairwise
      (fun left right => left.index < right.index)

namespace SessionRecord.Indexed

theorem ascending
    (indexed : session.Indexed) :
    SessionRecord.Ascending session.shards := by
  have declared :
      (session.request.manifest.shards.map ShardDescriptor.index).Pairwise
        (· < ·) := List.pairwise_map.mpr indexed.increasing
  rw [← indexed.same] at declared
  exact List.pairwise_map.mp declared

theorem change
    {permits : Permits} {before after : Focus}
    (change : Change permits before after)
    (indexed : before.session.Indexed) : after.session.Indexed := by
  have kept :
      after.session.shards.map ShardRecord.index =
        before.session.shards.map ShardRecord.index := by
    have firsts := congrArg (List.map Prod.fst) change.declarations
    rw [List.map_map, List.map_map] at firsts
    exact firsts
  refine ⟨?_, ?_⟩
  · rw [kept, change.request.1]
    exact indexed.same
  · rw [change.request.1]
    exact indexed.increasing

theorem admitted
    (admitted : session.Admitted) :
    session.Indexed := by
  rcases admitted with ⟨engine, now, request, plan, admissible, rfl⟩
  refine ⟨?_, validateManifest_ascending admissible.manifest⟩
  change (request.manifest.shards.map (admittedShard plan.path)).map _ = _
  rw [List.map_map]
  rfl

theorem quiesced
    (indexed : session.Indexed) (bound : Nat)
    (now : Nanos) : (session.quiesced bound now).Indexed := by
  unfold SessionRecord.quiesced
  split
  · exact indexed
  · refine ⟨Eq.trans ?_ indexed.same, indexed.increasing⟩
    change (session.shards.map Focus.rearmShard).map _ = _
    rw [List.map_map]
    exact List.map_congr_left (fun shard _ =>
      congrArg Prod.fst (rearmShard_declaration shard))

theorem restored
    {persisted : PersistedSession}
    {records : List ShardRecord} (restorable : persisted.Restorable limits)
    (restored :
      restoreShards persisted.shards persisted.request.manifest.shards =
        .ok records) :
    (restoredRecord persisted records).Indexed :=
  ⟨(restoreShards_copies restored restorable.shaped).1,
    validateManifest_ascending restorable.manifest⟩

end SessionRecord.Indexed

/-- In every run, restores of any snapshot included. -/
theorem EngineRun.indexed
    {config : EngineConfig} {boot : Nanos} {history : List Event}
    {engine : Engine} (run : EngineRun config boot history engine) :
    ∀ id session, engine.sessions.lookup id = some session →
      session.Indexed := by
  refine @EngineRun.invariant
    (fun engine => ∀ id session, engine.sessions.lookup id = some session →
      session.Indexed) _ _ ?_ ?_ ?_ ?_ _ _ run
  · intro id session found
    rw [(Engine.construct_blank config boot).1] at found
    cases found
  · intro before after edit holds
    exact @Edit.forall_sessions _ (fun _ session => session.Indexed) _ _ edit
      (fun _ _ _ _ change => .change change)
      (fun _ _ admitted _ => .admitted admitted) holds
  · intro engine now snapshot holds id session found
    cases accepted : engine.restorable snapshot with
    | error =>
        rw [Engine.restore_refused accepted] at found
        exact holds id session found
    | ok =>
        rw [Engine.restore_lookup accepted] at found
        obtain ⟨record, stored, rfl⟩ := Option.map_eq_some_iff.mp found
        obtain ⟨persisted, listed, records, restoring, _, rfl⟩ :=
          Engine.restored_lookup accepted stored
        have checked := (restoreSessions_mem
          (Engine.restorable_ok accepted).2).2 persisted listed
        exact (SessionRecord.Indexed.restored checked.1 restoring).quiesced
          _ _
  · intro engine sessions contracts same _ holds id session found
    exact holds id session ((AList.perm_lookup same).symm.trans found)

/-- The bytes of an accepted manifest add up to its total without wrapping and
its indices increase strictly; in every run the lookup of an index finds the
only position that holds it if the manifest declares it, and nothing
otherwise. -/
theorem shard_lookup_is_exact :
    (∀ (manifest : CheckpointManifest) (limits : Limits),
        validateManifest manifest limits = .ok () →
          (manifest.shards.map
              (fun shard => shard.declaredBytes.toNat)).sum =
            manifest.totalBytes.toNat ∧
          manifest.shards.Pairwise
            (fun left right => left.index < right.index)) ∧
      ∀ (config : EngineConfig) (boot : Nanos) (history : List Event)
        (engine : Engine), EngineRun config boot history engine →
        ∀ id session, engine.sessions.lookup id = some session →
          ∀ index : ShardIndex,
            (index ∈ session.request.manifest.shards.map
                  ShardDescriptor.index →
                ∃ position, session.shardPosition index = some position ∧
                  ∀ other,
                    session.shards[other]?.map ShardRecord.index =
                        some index ↔
                      other = position) ∧
              (index ∉ session.request.manifest.shards.map
                  ShardDescriptor.index →
                session.shardPosition index = none) := by
  refine ⟨fun manifest limits passed =>
    ⟨validateManifest_sum passed, validateManifest_ascending passed⟩, ?_⟩
  intro config boot history engine run id session found index
  have indexed := run.indexed id session found
  have finds (position : Nat) :
      session.shardPosition index = some position ↔
        session.shards[position]?.map ShardRecord.index = some index :=
    indexed.ascending.shardPosition_iff
  rw [← indexed.same]
  constructor
  · intro declared
    obtain ⟨position, at_⟩ := List.mem_iff_getElem?.mp declared
    rw [List.getElem?_map] at at_
    have looked := (finds position).mpr at_
    refine ⟨position, looked, ?_⟩
    intro other
    rw [← finds other, looked, Option.some.injEq]
    exact eq_comm
  · intro undeclared
    rw [Option.eq_none_iff_forall_ne_some]
    intro position looked
    apply undeclared
    apply List.mem_iff_getElem?.mpr
    refine ⟨position, ?_⟩
    rw [List.getElem?_map]
    exact (finds position).mp looked

/-- A session of three shards. -/
def tripleScript : List (Nanos × Command) :=
  [(1, .submitSession (Sample.request 2 [2, 3, 4]) (Sample.fence 1))]

theorem tripleScript_evaluated :
    validateManifest (Sample.request 2 [2, 3, 4]).manifest
          Sample.config.limits = .ok () ∧
      ((((Engine.construct Sample.config 0).executeAll
          tripleScript).2.sessions.lookup ⟨Sample.drawn 0⟩).map
          (fun session => session.request.manifest.shards.map
            ShardDescriptor.index)) = some [⟨0⟩, ⟨1⟩, ⟨2⟩] := by
  decide +kernel

/-- The last of its shards is found, and no fourth one. -/
theorem shard_lookup_is_exact_for_three_shards :
    ((Sample.request 2 [2, 3, 4]).manifest.shards.map
          (fun shard => shard.declaredBytes.toNat)).sum =
        (Sample.request 2 [2, 3, 4]).manifest.totalBytes.toNat ∧
      ∃ session,
        ((Engine.construct Sample.config 0).executeAll
            tripleScript).2.sessions.lookup ⟨Sample.drawn 0⟩ =
            some session ∧
          (∃ position, session.shardPosition ⟨2⟩ = some position) ∧
          session.shardPosition ⟨3⟩ = none := by
  obtain ⟨accepted, stored⟩ := tripleScript_evaluated
  obtain ⟨session, found, listed⟩ := Option.map_eq_some_iff.mp stored
  have run : EngineRun Sample.config 0 _ _ :=
    Engine.executeAll_run _ tripleScript
  obtain ⟨added, finds⟩ := shard_lookup_is_exact
  have third := finds _ _ _ _ run _ session found ⟨2⟩
  have fourth := finds _ _ _ _ run _ session found ⟨3⟩
  rw [listed] at third fourth
  obtain ⟨position, looked, _⟩ := third.1 (by decide)
  exact ⟨(added _ _ accepted).1, session, found, ⟨position, looked⟩,
    fourth.2 (by decide)⟩

end TrafficFabric
