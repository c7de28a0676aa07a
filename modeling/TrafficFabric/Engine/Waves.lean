import TrafficFabric.Engine.Settlement
import TrafficFabric.Foundation.Grouping

/-!
# The waves of an envelope

`build_envelope` cuts the shards of a manifest into waves.  Membership, sizes
and byte sums are those of a grouping of the shards by the wave width; the
index is not, since the loop numbers a new wave from a reset plan, so every
wave after the first is numbered one.
-/

namespace TrafficFabric

open Foundation

variable {shards : List ShardDescriptor} {manifest : CheckpointManifest}
  {limits : Limits} {width : UInt32}

/-! ## Checked shard indices -/

theorem validateShards_ascending
    {totalBytes sum result : UInt64} {previous : Option ShardIndex}
    (passed : validateShards totalBytes previous sum shards = .ok result) :
    (∀ earlier ∈ previous, ∀ shard ∈ shards, earlier < shard.index) ∧
      shards.Pairwise (fun left right => left.index < right.index) := by
  induction shards generalizing previous sum with
  | nil =>
      exact ⟨fun _ _ _ member => (List.not_mem_nil member).elim, .nil⟩
  | cons shard rest hypothesis =>
      simp only [validateShards, bind_eq_ok, refuseWhen_eq_ok] at passed
      rcases passed with ⟨_, _, _, fresh, _, _, later⟩
      rcases hypothesis later with ⟨above, ascending⟩
      have after : ∀ other ∈ rest, shard.index < other.index :=
        above shard.index rfl
      refine ⟨?_, .cons after ascending⟩
      rintro earlier known other member
      have first : earlier < shard.index := by
        cases known
        simpa [repeatsIndex] using fresh
      rcases List.mem_cons.mp member with rfl | member
      · exact first
      · exact UInt32.lt_trans first (after other member)

theorem validateManifest_nodup
    (passed : validateManifest manifest limits = .ok ()) :
    (manifest.shards.map (fun shard => shard.index)).Nodup := by
  simp only [validateManifest, bind_eq_ok] at passed
  rcases passed with
    ⟨_, _, _, _, _, _, _, _, _, _, _, _, _, _, _, _, sum, summed, _⟩
  have ascending := (validateShards_ascending summed).2
  apply List.pairwise_map.mpr
  apply ascending.imp
  intro left right below same
  rw [same] at below
  exact UInt32.lt_irrefl _ below

/-! ## The loop -/

/-- The plan of one wave. -/
def wavePlanOf (index : WaveIndex) (group : List ShardDescriptor) :
    WavePlan where
  index := index
  shards := group.map (fun shard => shard.index)
  plannedBytes := (group.map (fun shard => shard.declaredBytes)).sum

/-- The plans of consecutive groups: the loop numbers every group after the
first alike. -/
def wavePlans (index : WaveIndex) :
    List (List ShardDescriptor) → List WavePlan
  | [] => []
  | group :: rest => wavePlanOf index group :: rest.map (wavePlanOf ⟨1⟩)

theorem wavePlanOf_concat
    (index : WaveIndex) (group : List ShardDescriptor)
    (shard : ShardDescriptor) :
    wavePlanOf index (group ++ [shard]) =
      { wavePlanOf index group with
        shards := (wavePlanOf index group).shards ++ [shard.index]
        plannedBytes :=
          (wavePlanOf index group).plannedBytes + shard.declaredBytes } := by
  simp [wavePlanOf]

/-- What the loop appends from a partly filled wave. -/
theorem buildWaves_grouping
    (positive : 1 ≤ width.toNat)
    (shards : List ShardDescriptor) (index : WaveIndex)
    (group : List ShardDescriptor) {inWave : UInt32}
    (counted : inWave.toNat = group.length)
    (room : group.length ≤ width.toNat) :
    ∃ groups,
      IsGrouping width.toNat (group ++ shards) groups ∧
        buildWaves width shards (wavePlanOf index group) inWave =
          wavePlans index groups := by
  -- The loop counts the shards of the open wave, so the count and the group
  -- stay in step; a full group is closed before the next shard is placed.
  induction shards generalizing index group inWave with
  | nil =>
      rw [List.append_nil, buildWaves]
      by_cases empty : group = []
      · subst empty
        exact ⟨[], .nil _, rfl⟩
      · refine ⟨[group], .single empty room, ?_⟩
        rw [if_neg (by simpa [wavePlanOf] using empty)]
        rfl
  | cons shard _ hypothesis =>
      rw [buildWaves]
      by_cases full : inWave = width
      · rw [if_pos full]
        have one : (1 : UInt32).toNat = [shard].length := rfl
        rcases hypothesis ⟨1⟩ [shard] one positive with ⟨groups, later, same⟩
        refine ⟨group :: groups, .cons positive ?_ later, ?_⟩
        · rw [← counted, full]
        · have start :
              ({ index := ⟨({} : WavePlan).index.value + 1⟩
                 shards := [shard.index]
                 plannedBytes := shard.declaredBytes } : WavePlan) =
                wavePlanOf ⟨1⟩ [shard] := by
            simp [wavePlanOf]
          rw [start, same]
          cases groups <;> rfl
      · rw [if_neg full]
        have below : group.length < width.toNat := by
          apply Nat.lt_of_le_of_ne room
          intro same
          exact full (UInt32.toNat.inj (counted.trans same))
        have bounded := width.toNat_lt
        have next : (inWave + 1).toNat = (group ++ [shard]).length := by
          rw [UInt32.toNat_add, counted, List.length_append]
          exact Nat.mod_eq_of_lt (by simp; omega)
        rw [← wavePlanOf_concat]
        rcases hypothesis index (group ++ [shard]) next
            (by simpa using Nat.succ_le_of_lt below) with
          ⟨groups, grouping, same⟩
        refine ⟨groups, ?_, same⟩
        rwa [List.append_assoc] at grouping

theorem buildEnvelope_waves
    (request : SessionRequest) (session : SessionId)
    (isolation : IsolationClass) (path : PathClassId)
    (rateBps burstBytes : UInt64)
    (positive : 1 ≤ width) (now deadlineTarget : Nanos) (sequence : UInt64) :
    ∃ groups,
      IsGrouping width.toNat request.manifest.shards groups ∧
        (buildEnvelope request session isolation path rateBps burstBytes
          width now deadlineTarget sequence).waves =
          wavePlans ⟨0⟩ groups :=
  buildWaves_grouping (UInt32.le_iff_toNat_le.mp positive)
    request.manifest.shards ⟨0⟩ [] rfl (Nat.zero_le _)

/-! ## The plans of a grouping -/

theorem mem_wavePlans
    {index : WaveIndex} {groups : List (List ShardDescriptor)}
    {wave : WavePlan} (member : wave ∈ wavePlans index groups) :
    ∃ number, ∃ group ∈ groups, wave = wavePlanOf number group := by
  cases groups with
  | nil =>
      cases member
  | cons first =>
      rcases List.mem_cons.mp member with rfl | member
      · exact ⟨index, first, List.mem_cons_self, rfl⟩
      · rcases List.mem_map.mp member with ⟨group, present, rfl⟩
        exact ⟨⟨1⟩, group, List.mem_cons_of_mem _ present, rfl⟩

@[simp]
theorem length_wavePlans
    (index : WaveIndex) (groups : List (List ShardDescriptor)) :
    (wavePlans index groups).length = groups.length := by
  cases groups <;> simp [wavePlans]

theorem dropLast_wavePlans
    (index : WaveIndex) (groups : List (List ShardDescriptor)) :
    (wavePlans index groups).dropLast = wavePlans index groups.dropLast := by
  rcases groups with _ | ⟨first, _ | ⟨second, rest⟩⟩
  · rfl
  · rfl
  · simp [wavePlans, List.map_dropLast]

theorem flatMap_wavePlans
    (index : WaveIndex) (groups : List (List ShardDescriptor)) :
    (wavePlans index groups).flatMap (fun wave => wave.shards) =
      groups.flatten.map (fun shard => shard.index) := by
  have later (number : WaveIndex) (groups : List (List ShardDescriptor)) :
      (groups.map (wavePlanOf number)).flatMap (fun wave => wave.shards) =
        groups.flatten.map (fun shard => shard.index) := by
    rw [List.flatMap_map, List.map_flatten]
    rfl
  cases groups with
  | nil =>
      rfl
  | cons =>
      rw [wavePlans, List.flatMap_cons, later, List.flatten_cons,
        List.map_append]
      rfl

/-- Only the first two numbers are those of their positions. -/
theorem wavePlans_numbered_iff (groups : List (List ShardDescriptor)) :
    (wavePlans ⟨0⟩ groups).map (fun wave => wave.index.value.toNat) =
        List.range groups.length ↔
      groups.length ≤ 2 := by
  rcases groups with _ | ⟨first, _ | ⟨second, _ | ⟨third, rest⟩⟩⟩
  · exact ⟨fun _ => Nat.zero_le 2, fun _ => rfl⟩
  · exact ⟨fun _ => Nat.le_succ 1, fun _ => rfl⟩
  · exact ⟨fun _ => Nat.le_refl 2, fun _ => rfl⟩
  · constructor
    · intro same
      have at_two := congrArg (fun numbers => numbers[2]?) same
      simp [wavePlans, wavePlanOf] at at_two
    · intro few
      simp only [List.length_cons] at few
      omega

/-! ## Planned bytes -/

/-- A sum of words that stays below the word size does not wrap. -/
theorem toNat_sum_declaredBytes
    (fits : (shards.map (fun shard => shard.declaredBytes.toNat)).sum <
      2 ^ 64) :
    (shards.map ShardDescriptor.declaredBytes).sum.toNat =
      (shards.map (fun shard => shard.declaredBytes.toNat)).sum := by
  induction shards with
  | nil =>
      rfl
  | cons _ _ hypothesis =>
      rw [List.map_cons, List.sum_cons] at fits ⊢
      have step := hypothesis (by omega)
      rw [List.map_cons, List.sum_cons, Word.toNat_add_of_lt (by omega),
        step]

/-- The bytes a manifest declares for the shards of a wave. -/
def declaredFor (manifest : CheckpointManifest) (wave : WavePlan) : Nat :=
  ((manifest.shards.filter
      (fun shard => wave.shards.contains shard.index)).map
    (fun shard => shard.declaredBytes.toNat)).sum

theorem plannedBytes_of_group
    (valid : validateManifest manifest limits = .ok ())
    {groups : List (List ShardDescriptor)}
    (cut : groups.flatten = manifest.shards)
    {group : List ShardDescriptor} (member : group ∈ groups)
    (number : WaveIndex) :
    (wavePlanOf number group).plannedBytes.toNat =
      declaredFor manifest (wavePlanOf number group) := by
  rcases List.append_of_mem member with ⟨before, after, rfl⟩
  have split :
      manifest.shards = before.flatten ++ group ++ after.flatten := by
    rw [← cut, List.flatten_append, List.flatten_cons, List.append_assoc]
  have distinct := validateManifest_nodup valid
  have total := validateManifest_sum valid
  have bounded := manifest.totalBytes.toNat_lt
  rw [split] at distinct total
  have selected :
      manifest.shards.filter (fun shard =>
        (wavePlanOf number group).shards.contains shard.index) = group := by
    rw [split]
    exact filter_of_nodup_map distinct
  simp only [List.map_append, List.sum_append] at total
  unfold declaredFor
  rw [selected]
  exact toNat_sum_declaredBytes (by omega)

/-! ## The partition -/

/-- The waves partition the shards of a manifest: in order, in waves of the
given width, numbered consecutively, with the bytes of their shards, and
found again by the shards they hold. -/
structure WavePartition
    (manifest : CheckpointManifest) (width : Nat)
    (envelope : TrafficEnvelope) : Prop where
  concatenates :
    envelope.waves.flatMap (fun wave => wave.shards) =
      manifest.shards.map (fun shard => shard.index)
  inhabited : ∀ wave ∈ envelope.waves, wave.shards ≠ []
  bounded : ∀ wave ∈ envelope.waves, wave.shards.length ≤ width
  full : ∀ wave ∈ envelope.waves.dropLast, wave.shards.length = width
  consecutive :
    envelope.waves.map (fun wave => wave.index.value.toNat) =
      List.range envelope.waves.length
  planned :
    ∀ wave ∈ envelope.waves,
      wave.plannedBytes.toNat = declaredFor manifest wave
  located :
    ∀ wave ∈ envelope.waves, ∀ shard ∈ wave.shards,
      waveForShard envelope shard = some wave.index

/-- The grouping carries every part; the numbers need that it has at most two
groups. -/
theorem WavePartition.of_grouping
    (valid : validateManifest manifest limits = .ok ())
    {width : Nat} {groups : List (List ShardDescriptor)}
    (grouping : IsGrouping width manifest.shards groups)
    {envelope : TrafficEnvelope}
    (planned : envelope.waves = wavePlans ⟨0⟩ groups)
    (few : groups.length ≤ 2) :
    WavePartition manifest width envelope := by
  have concatenates :
      envelope.waves.flatMap (fun wave => wave.shards) =
        manifest.shards.map (fun shard => shard.index) := by
    rw [planned, flatMap_wavePlans, grouping.flatten]
  refine ⟨concatenates, ?_, ?_, ?_, ?_, ?_, ?_⟩
  · intro wave member
    rw [planned] at member
    rcases mem_wavePlans member with ⟨number, group, present, rfl⟩
    simpa [wavePlanOf] using grouping.inhabited group present
  · intro wave member
    rw [planned] at member
    rcases mem_wavePlans member with ⟨number, group, present, rfl⟩
    simpa [wavePlanOf] using grouping.bounded group present
  · intro wave member
    rw [planned, dropLast_wavePlans] at member
    rcases mem_wavePlans member with ⟨number, group, present, rfl⟩
    simpa [wavePlanOf] using grouping.full group present
  · rw [planned, length_wavePlans]
    exact (wavePlans_numbered_iff groups).mpr few
  · intro wave member
    rw [planned] at member
    rcases mem_wavePlans member with ⟨number, group, present, rfl⟩
    exact plannedBytes_of_group valid grouping.flatten present number
  · intro wave member shard held
    have distinct := validateManifest_nodup valid
    rw [← concatenates] at distinct
    unfold waveForShard
    rw [find?_of_nodup_flatMap distinct member held]
    rfl

/-- The waves partition the shards exactly when there are at most two of
them. -/
theorem wave_plan_partitions_iff
    (request : SessionRequest) (limits : Limits)
    (valid : validateManifest request.manifest limits = .ok ())
    (session : SessionId) (isolation : IsolationClass) (path : PathClassId)
    (rateBps burstBytes : UInt64) (width : UInt32) (positive : 1 ≤ width)
    (now deadlineTarget : Nanos) (sequence : UInt64) :
    WavePartition request.manifest width.toNat
        (buildEnvelope request session isolation path rateBps burstBytes
          width now deadlineTarget sequence) ↔
      request.manifest.shards.length ≤ 2 * width.toNat := by
  rcases buildEnvelope_waves request session isolation path rateBps
    burstBytes positive now deadlineTarget sequence with
    ⟨groups, grouping, planned⟩
  rw [← grouping.length_groups_le_iff 2]
  constructor
  · intro partition_
    have numbered := partition_.consecutive
    rw [planned, length_wavePlans] at numbered
    exact (wavePlans_numbered_iff groups).mp numbered
  · exact WavePartition.of_grouping valid grouping planned

theorem threeShards_valid :
    validateManifest (Sample.request 3 [5, 6, 7]).manifest {} = .ok () := by
  decide +kernel

/-- Two waves of two and one shards. -/
theorem wave_plan_partitions_three_shards_by_two :
    validateManifest (Sample.request 3 [5, 6, 7]).manifest {} = .ok () ∧
      WavePartition (Sample.request 3 [5, 6, 7]).manifest 2
        (buildEnvelope (Sample.request 3 [5, 6, 7]) StrongId.nil
          .trainingBulk ⟨1⟩ 10 10 2 0 100 1) := by
  refine ⟨threeShards_valid, ?_⟩
  exact (wave_plan_partitions_iff _ {} threeShards_valid StrongId.nil .trainingBulk ⟨1⟩
    10 10 2 (by decide) 0 100 1).mpr (by decide)

/-- Three waves of one shard each are numbered 0, 1, 1. -/
theorem third_wave_is_numbered_one :
    validateManifest (Sample.request 3 [5, 6, 7]).manifest {} = .ok () ∧
      (buildEnvelope (Sample.request 3 [5, 6, 7]) StrongId.nil
          .trainingBulk ⟨1⟩ 10 10 1 0 100 1).waves.map
        (fun wave => wave.index.value.toNat) = [0, 1, 1] ∧
      ¬ WavePartition (Sample.request 3 [5, 6, 7]).manifest 1
        (buildEnvelope (Sample.request 3 [5, 6, 7]) StrongId.nil
          .trainingBulk ⟨1⟩ 10 10 1 0 100 1) := by
  have numbers :
      (buildEnvelope (Sample.request 3 [5, 6, 7]) StrongId.nil
          .trainingBulk ⟨1⟩ 10 10 1 0 100 1).waves.map
        (fun wave => wave.index.value.toNat) = [0, 1, 1] := by
    decide
  refine ⟨threeShards_valid, numbers, ?_⟩
  intro partition_
  have consecutive := partition_.consecutive
  have count := congrArg List.length numbers
  rw [List.length_map] at count
  rw [numbers, count] at consecutive
  exact absurd consecutive (by decide)

end TrafficFabric
