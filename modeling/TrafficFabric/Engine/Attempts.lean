import TrafficFabric.Engine.Tally

/-!
# Attempts and their budgets

The attempts a session remembers have distinct identities, provided that the
identities drawn for new attempts are new to the session.  An attempt never
delivers more than it was granted, and a shard never receives more than it
declares: the grant of its current attempt fits into what the shard still
lacks.
-/

namespace TrafficFabric

open Foundation

variable {attempt : AttemptRecord} {target : ShardTarget} {chunk : UInt64}

namespace SessionRecord

/-- The identities of the remembered attempts. -/
def attemptIds (session : SessionRecord) : List TransferAttemptId :=
  session.attempts.map (fun attempt => attempt.id)

/-- The identity of a remembered attempt, or of the current attempt of a
shard. -/
def Knows (session : SessionRecord) (id : TransferAttemptId) : Prop :=
  id ∈ session.attemptIds ∨
    ∃ shard ∈ session.shards, shard.attempt = some id

instance (session : SessionRecord) (id : TransferAttemptId) :
    Decidable (session.Knows id) :=
  inferInstanceAs (Decidable (_ ∨ _))

end SessionRecord

/-- The identity that a grant for the shard would carry is new to the
session. -/
def ShardTarget.Unused (target : ShardTarget) : Prop :=
  ¬ target.focus.session.Knows ⟨target.focus.engine.idFactory.next.1⟩

instance (target : ShardTarget) : Decidable target.Unused :=
  inferInstanceAs (Decidable (¬ _))

/-! ## Records that stem from earlier ones -/

/-- A later record of an attempt. -/
structure AttemptRecord.Continues (earlier later : AttemptRecord) : Prop where
  id : later.id = earlier.id
  granted : later.grantedBytes = earlier.grantedBytes
  grows : earlier.deliveredBytes.toNat ≤ later.deliveredBytes.toNat
  within :
    earlier.deliveredBytes.toNat ≤ earlier.grantedBytes.toNat →
      later.deliveredBytes.toNat ≤ later.grantedBytes.toNat

theorem AttemptRecord.Continues.of_same
    {earlier later : AttemptRecord} (id : later.id = earlier.id)
    (granted : later.grantedBytes = earlier.grantedBytes)
    (delivered : later.deliveredBytes = earlier.deliveredBytes) :
    earlier.Continues later where
  id := id
  granted := granted
  grows := by rw [delivered]
  within := by
    rw [delivered, granted]
    exact fun within => within

theorem AttemptRecord.Continues.refl (attempt : AttemptRecord) :
    attempt.Continues attempt :=
  .of_same rfl rfl rfl

/-- A later record of a shard that has received no more. -/
structure ShardRecord.Recedes (earlier later : ShardRecord) : Prop where
  declared : later.declaredBytes = earlier.declaredBytes
  transferred :
    later.transferredBytes.toNat ≤ earlier.transferredBytes.toNat
  attempt : later.attempt = none ∨ later.attempt = earlier.attempt

theorem ShardRecord.Recedes.refl (shard : ShardRecord) :
    shard.Recedes shard :=
  ⟨rfl, le_rfl, .inr rfl⟩

/-! ## Budgets -/

/-- The attempts are told apart by their identities, and every grant fits
into what its shard declares. -/
structure SessionRecord.Budgeted (session : SessionRecord) : Prop where
  distinct : session.attemptIds.Nodup
  within :
    ∀ attempt ∈ session.attempts,
      attempt.deliveredBytes.toNat ≤ attempt.grantedBytes.toNat
  arrived :
    ∀ shard ∈ session.shards,
      shard.transferredBytes.toNat ≤ shard.declaredBytes.toNat
  funded :
    ∀ shard ∈ session.shards, ∀ attempt ∈ session.attempts,
      shard.attempt = some attempt.id →
        shard.transferredBytes.toNat + attempt.grantedBytes.toNat ≤
          shard.declaredBytes.toNat + attempt.deliveredBytes.toNat

namespace SessionRecord.Budgeted

variable {session other : SessionRecord}

/-- Attempts may go on and shards may fall back. -/
theorem of_stems
    (budgeted : session.Budgeted)
    (ids : other.attemptIds = session.attemptIds)
    (attempts :
      Stems AttemptRecord.Continues session.attempts other.attempts)
    (shards : Stems ShardRecord.Recedes session.shards other.shards) :
    other.Budgeted where
  distinct := by
    rw [ids]
    exact budgeted.distinct
  within := by
    intro attempt member
    rcases attempts attempt member with ⟨earlier, known, continues⟩
    exact continues.within (budgeted.within earlier known)
  arrived := by
    intro shard member
    rcases shards shard member with ⟨earlier, known, recedes⟩
    rw [recedes.declared]
    exact recedes.transferred.trans (budgeted.arrived earlier known)
  funded := by
    intro shard shardMember attempt attemptMember current
    rcases shards shard shardMember with ⟨first, firstKnown, recedes⟩
    rcases attempts attempt attemptMember with
      ⟨second, secondKnown, continues⟩
    have same : first.attempt = some second.id := by
      rcases recedes.attempt with gone | kept
      · rw [gone] at current
        cases current
      · rw [← kept, current, continues.id]
    have funded := budgeted.funded first firstKnown second secondKnown same
    have transferred := recedes.transferred
    have grows := continues.grows
    rw [recedes.declared, continues.granted]
    omega

theorem of_same
    (budgeted : session.Budgeted)
    (attempts : other.attempts = session.attempts)
    (shards : other.shards = session.shards) :
    other.Budgeted := by
  refine budgeted.of_stems ?_ ?_ ?_
  · unfold SessionRecord.attemptIds
    rw [attempts]
  · rw [attempts]
    exact .refl AttemptRecord.Continues.refl
  · rw [shards]
    exact .refl ShardRecord.Recedes.refl

/-- One attempt and one shard rewritten. -/
theorem of_set
    (budgeted : session.Budgeted)
    {attemptPosition shardPosition : Nat}
    {newAttempt : AttemptRecord} {shard newShard : ShardRecord}
    (attemptAt : session.attempts[attemptPosition]? = some attempt)
    (shardAt : session.shards[shardPosition]? = some shard)
    (attempts :
      other.attempts = session.attempts.set attemptPosition newAttempt)
    (shards : other.shards = session.shards.set shardPosition newShard)
    (continues : attempt.Continues newAttempt)
    (recedes : shard.Recedes newShard) :
    other.Budgeted := by
  refine budgeted.of_stems ?_ ?_ ?_
  · unfold SessionRecord.attemptIds
    rw [attempts]
    exact map_set_same attemptAt continues.id
  · rw [attempts]
    exact .set AttemptRecord.Continues.refl attemptAt continues
  · rw [shards]
    exact .set ShardRecord.Recedes.refl shardAt recedes

end SessionRecord.Budgeted

/-- The attempts after a grant are earlier ones and the new one. -/
theorem ShardTarget.mem_charge_attempts
    {shaper : RateShaper}
    {now : Nanos}
    (member :
      attempt ∈ (target.charge shaper chunk now).session.attempts) :
    attempt ∈ target.focus.session.attempts ∨
      attempt = ShardTarget.attemptOf (target.grant chunk now) now := by
  have kept := List.mem_of_mem_drop member
  simpa using kept

/-- A new attempt is the only one with its identity. -/
theorem ShardTarget.charge_distinct
    (unused : target.Unused)
    (distinct : target.focus.session.attemptIds.Nodup)
    (shaper : RateShaper) (chunk : UInt64) (now : Nanos) :
    (target.charge shaper chunk now).session.attemptIds.Nodup := by
  have appended :
      (target.focus.session.attempts ++
        [ShardTarget.attemptOf (target.grant chunk now) now]).map
          (fun attempt => attempt.id) =
        target.focus.session.attemptIds ++
          [(target.grant chunk now).attempt] := by
    rw [List.map_append]
    rfl
  have extended :
      (target.focus.session.attemptIds ++
        [(target.grant chunk now).attempt]).Nodup := by
    refine List.nodup_append.mpr ⟨distinct, List.nodup_singleton _, ?_⟩
    rintro id member _ last rfl
    rw [List.mem_singleton.mp last] at member
    exact unused (.inl member)
  rw [← appended] at extended
  exact extended.sublist ((List.drop_sublist _ _).map _)

/-- A grant fits into what its shard still lacks. -/
theorem ShardTarget.charge_budgeted
    (grantable : target.Grantable chunk) (unused : target.Unused)
    (budgeted : target.focus.session.Budgeted)
    (shaper : RateShaper) (now : Nanos) :
    (target.charge shaper chunk now).session.Budgeted := by
  have arrived :=
    budgeted.arrived _ (List.mem_of_getElem? grantable.shardAt)
  have fits :
      target.shard.transferredBytes.toNat + chunk.toNat ≤
        target.shard.declaredBytes.toNat := by
    have within := UInt64.le_iff_toNat_le.mp grantable.within
    unfold Engine.remainingBytes at within
    rw [Word.toNat_monus] at within
    omega
  have fresh :
      ∀ attempt ∈ target.focus.session.attempts,
        attempt.id ≠ (target.grant chunk now).attempt := by
    intro attempt member same
    exact unused (.inl (List.mem_map.mpr ⟨attempt, member, same⟩))
  refine ⟨?_, ?_, ?_, ?_⟩
  · exact ShardTarget.charge_distinct unused budgeted.distinct shaper chunk
      now
  · intro attempt member
    rcases ShardTarget.mem_charge_attempts member with known | rfl
    · exact budgeted.within attempt known
    · exact Nat.zero_le _
  · exact every_set budgeted.arrived arrived
  · intro shard shardMember attempt attemptMember current
    rcases List.mem_or_eq_of_mem_set shardMember with known | rfl
    · rcases ShardTarget.mem_charge_attempts attemptMember with
        older | rfl
      · exact budgeted.funded shard known attempt older current
      · exact absurd (.inr ⟨shard, known, current⟩) unused
    · rcases ShardTarget.mem_charge_attempts attemptMember with
        older | rfl
      · exact absurd (Option.some.inj current).symm (fresh attempt older)
      · exact fits

/-- An acknowledgement credits the shard with what the attempt delivers. -/
theorem EvidenceTarget.acknowledge_budgeted
    {target : EvidenceTarget} (valid : target.Valid)
    (tallied : target.focus.session.Tallied)
    (budgeted : target.focus.session.Budgeted)
    {evidence : TransferEvidence}
    (within : evidence.arrivedBytes ≤ target.attempt.grantedBytes)
    (grows : target.attempt.deliveredBytes ≤ evidence.arrivedBytes)
    (funded :
      evidence.arrivedBytes - target.attempt.deliveredBytes ≤
        target.focus.session.outstandingBytes)
    (now : Nanos) :
    (target.creditedShard evidence
        (evidence.arrivedBytes -
          target.attempt.deliveredBytes)).transferredBytes.toNat =
        target.shard.transferredBytes.toNat +
          (evidence.arrivedBytes.toNat -
            target.attempt.deliveredBytes.toNat) ∧
      (target.acknowledge evidence
        (evidence.arrivedBytes - target.attempt.deliveredBytes)
          now).session.Budgeted := by
  have bounded := tallied.bounded
  have summed := tallied.summed (discards_of_active valid.active)
  have own : target.shard.transferredBytes.toNat ≤
      arrivedBytes target.focus.session.shards :=
    le_shardTotal valid.shardAt
  have withinNat := UInt64.le_iff_toNat_le.mp within
  have growsNat := UInt64.le_iff_toNat_le.mp grows
  have fundedNat := UInt64.le_iff_toNat_le.mp funded
  rw [Word.toNat_sub_of_le growsNat] at fundedNat
  have credited :
      (target.creditedShard evidence
        (evidence.arrivedBytes -
          target.attempt.deliveredBytes)).transferredBytes.toNat =
        target.shard.transferredBytes.toNat +
          (evidence.arrivedBytes.toNat -
            target.attempt.deliveredBytes.toNat) := by
    rw [← Word.toNat_sub_of_le growsNat]
    refine Word.toNat_add_of_lt ?_
    rw [Word.toNat_sub_of_le growsNat]
    omega
  refine ⟨credited, ?_⟩
  have shardMember := List.mem_of_getElem? valid.shardAt
  have attemptMember := List.mem_of_getElem? valid.attemptAt
  have budget := budgeted.funded _ shardMember _ attemptMember valid.current
  rw [EvidenceTarget.acknowledge_session]
  refine ⟨?_, ?_, ?_, ?_⟩
  · have same :
        (target.focus.session.attempts.set target.attemptPosition
          { target.sighted evidence now with
            outcome := .deliveredAcked
            outstanding := false }).map (fun attempt => attempt.id) =
          target.focus.session.attemptIds :=
      map_set_same valid.attemptAt rfl
    exact Eq.subst (motive := List.Nodup) same.symm budgeted.distinct
  · exact every_set budgeted.within withinNat
  · refine every_set budgeted.arrived ?_
    rw [credited]
    change _ ≤ target.shard.declaredBytes.toNat
    omega
  · intro shard shardIn attempt attemptIn current
    have attempts := mem_set_of_nodup budgeted.distinct valid.attemptAt
      attemptIn
    rcases List.mem_or_eq_of_mem_set shardIn with known | rfl
    · rcases attempts with rfl | ⟨older, _⟩
      · have earlier := budgeted.funded shard known _ attemptMember current
        change _ + target.attempt.grantedBytes.toNat ≤
          _ + evidence.arrivedBytes.toNat
        omega
      · exact budgeted.funded shard known attempt older current
    · rcases attempts with rfl | ⟨_, differs⟩
      · rw [credited]
        change _ + target.attempt.grantedBytes.toNat ≤
          target.shard.declaredBytes.toNat + evidence.arrivedBytes.toNat
        omega
      · have named : target.shard.attempt = some attempt.id := current
        rw [valid.current] at named
        exact absurd (Option.some.inj named).symm differs

/-- A restart forgets the attempts of shards in flight. -/
theorem Focus.rearm_budgeted
    {focus : Focus} (budgeted : focus.session.Budgeted) (now : Nanos) :
    (focus.rearm now).session.Budgeted := by
  have attempts :
      (focus.rearm now).session.attempts =
        focus.session.attempts.map (fun attempt =>
          { Focus.blurAttempt now attempt with outstanding := false }) := by
    change List.map _ (List.map _ _) = _
    rw [List.map_map]
    rfl
  have continues (attempt : AttemptRecord) :
      attempt.Continues
        { Focus.blurAttempt now attempt with outstanding := false } := by
    unfold Focus.blurAttempt
    split <;> exact .of_same rfl rfl rfl
  refine budgeted.of_stems ?_ ?_ ?_
  · unfold SessionRecord.attemptIds
    rw [attempts, List.map_map]
    refine List.map_congr_left ?_
    intro attempt _
    exact (continues attempt).id
  · rw [attempts]
    exact .map continues
  · refine .map ?_
    intro shard
    unfold Focus.rearmShard
    split
    · exact ⟨rfl, le_rfl, .inl rfl⟩
    · exact .refl shard

end TrafficFabric
