import TrafficFabric.Engine.Standing
import TrafficFabric.Foundation.Lists

/-!
# The tally of one session

The bytes of a session move between its counters but are never created by
evidence, and its transferred bytes are those of its shards until the session
is discarded.
-/

namespace TrafficFabric

open Foundation

variable {position : Nat} {permits : Permits} {before after : Focus}
  {session other : SessionRecord} {target : EvidenceTarget}

/-- A byte count summed over shards. -/
def shardTotal
    (field : ShardRecord → UInt64) (shards : List ShardRecord) : Nat :=
  (shards.map (fun shard => (field shard).toNat)).sum

/-- The bytes that arrived for the shards of a list. -/
abbrev arrivedBytes (shards : List ShardRecord) : Nat :=
  shardTotal (fun shard => shard.transferredBytes) shards

section

variable {field : ShardRecord → UInt64} {shards : List ShardRecord}

theorem shardTotal_set
    {position : Nat} {old : ShardRecord}
    (at_ : shards[position]? = some old) (new : ShardRecord) :
    shardTotal field (shards.set position new) + (field old).toNat =
      shardTotal field shards + (field new).toNat :=
  sum_map_set (fun shard => (field shard).toNat) at_

theorem shardTotal_set_same
    {old new : ShardRecord}
    (at_ : shards[position]? = some old) (same : field new = field old) :
    shardTotal field (shards.set position new) = shardTotal field shards := by
  have moved := @shardTotal_set field _ _ _ at_ new
  rw [same] at moved
  omega

theorem le_shardTotal
    {shard : ShardRecord}
    (at_ : shards[position]? = some shard) :
    (field shard).toNat ≤ shardTotal field shards :=
  le_sum_map (fun shard => (field shard).toNat) at_

theorem shardTotal_map
    {change : ShardRecord → ShardRecord}
    (same : ∀ shard, field (change shard) = field shard) :
    shardTotal field (shards.map change) = shardTotal field shards := by
  unfold shardTotal
  rw [List.map_map]
  refine congrArg List.sum (List.map_congr_left ?_)
  intro shard _
  exact congrArg UInt64.toNat (same shard)

end

theorem rearmShard_transferred (shard : ShardRecord) :
    (Focus.rearmShard shard).transferredBytes = shard.transferredBytes := by
  unfold Focus.rearmShard
  split <;> rfl

/-- A report of ambiguity changes the state of a shard at most. -/
theorem AttemptTarget.blurredShards_eq
    (target : AttemptTarget) :
    target.blurredShards = target.focus.session.shards ∨
      ∃ position shard,
        target.focus.session.shards[position]? = some shard ∧
          shard.index = target.attempt.shard ∧
          shard.state ≠ .verified ∧ shard.state ≠ .transferred ∧
          target.blurredShards = target.focus.session.shards.set position
            { shard with state := .ambiguous } := by
  unfold AttemptTarget.blurredShards AttemptTarget.blurShard
  split
  · exact .inl rfl
  · rename_i position found
    cases at_ : target.focus.session.shards[position]? with
    | none =>
        left
        exact List.modify_eq_self (List.getElem?_eq_none_iff.mp at_)
    | some shard =>
        have indexed := SessionRecord.index_of_shardPosition found at_
        dsimp only
        rw [List.modify_eq_set_getElem?, at_]
        by_cases open_ : shard.state ≠ .verified ∧ shard.state ≠ .transferred
        · right
          refine ⟨position, shard, at_, indexed, open_.1, open_.2, ?_⟩
          simp [open_]
        · left
          simp only [Option.map_some, if_neg open_, Option.map_eq_map]
          rcases List.getElem?_eq_some_iff.mp at_ with ⟨inside, same⟩
          rw [← same]
          exact List.set_getElem_self inside

theorem AttemptTarget.blurredShards_arrived (target : AttemptTarget) :
    arrivedBytes target.blurredShards =
      arrivedBytes target.focus.session.shards := by
  rcases target.blurredShards_eq with same |
    ⟨position, shard, at_, _, _, _, same⟩
  · rw [same]
  · rw [same]
    exact shardTotal_set_same at_ rfl

/-! ## Declarations -/

/-- What a shard takes over from the manifest. -/
def ShardRecord.declaration (shard : ShardRecord) :
    ShardIndex × UInt64 × Digest :=
  (shard.index, shard.declaredBytes, shard.declaredDigest)

def ShardDescriptor.declaration (descriptor : ShardDescriptor) :
    ShardIndex × UInt64 × Digest :=
  (descriptor.index, descriptor.declaredBytes, descriptor.declaredDigest)

theorem rearmShard_declaration (shard : ShardRecord) :
    (Focus.rearmShard shard).declaration = shard.declaration := by
  unfold Focus.rearmShard
  split <;> rfl

/-- No change redeclares a shard. -/
theorem Change.declarations
    (change : Change permits before after) :
    after.session.shards.map ShardRecord.declaration =
      before.session.shards.map ShardRecord.declaration := by
  cases change with
  | annotate _ _ noted =>
      rw [noted.session]
  | rearm =>
      change (before.session.shards.map Focus.rearmShard).map _ = _
      rw [List.map_map]
      exact List.map_congr_left (fun shard _ => rearmShard_declaration shard)
  | close =>
      rw [Focus.closeAs_session]
  | closeAbandoned =>
      rw [Focus.closeAs_session]
      rfl
  | closeMismatched _ _ _ _ valid =>
      rw [Focus.closeAs_session]
      exact map_set_same valid.shardAt rfl
  | unreserve =>
      rw [Focus.releasePathReservation_session]
  | charge _ _ _ _ grantable =>
      exact map_set_same grantable.shardAt rfl
  | flagSource _ _ valid =>
      exact map_set_same valid.shardAt rfl
  | acknowledge _ _ _ valid =>
      rw [EvidenceTarget.acknowledge_session]
      exact map_set_same valid.shardAt rfl
  | verify _ _ valid =>
      exact map_set_same valid.shardAt rfl
  | truncate _ valid =>
      rw [EvidenceTarget.truncate_session]
      exact map_set_same valid.shardAt rfl
  | blurShard _ valid =>
      rw [EvidenceTarget.blur_session]
      exact map_set_same valid.shardAt rfl
  | blurAttempt target =>
      rw [AttemptTarget.blur_session]
      rcases target.blurredShards_eq with same |
        ⟨position, shard, at_, _, _, _, same⟩
      · exact congrArg (List.map ShardRecord.declaration) same
      · exact (congrArg (List.map ShardRecord.declaration) same).trans
          (map_set_same at_ rfl)
  | complete =>
      rw [Focus.completeSession_session]
  | _ =>
      rfl

/-! ## The invariant of a session -/

/-- The counters of a session fit, and agree with its shards. -/
structure SessionRecord.Tallied (session : SessionRecord) : Prop where
  bounded :
    session.transferredBytes.toNat + session.unprovenBytes.toNat +
      session.outstandingBytes.toNat + session.cancelledBytes.toNat < 2 ^ 64
  summed :
    discards session.state = false →
      session.transferredBytes.toNat = arrivedBytes session.shards
  discarded : discards session.state = true → session.paused = false

theorem discards_of_active
    {state : SessionState} (active : isTerminal state = false) :
    discards state = false := by
  cases state <;> first | rfl | cases active

/-- A paused session is not discarded. -/
theorem SessionRecord.Tallied.open_of_paused
    (tallied : session.Tallied)
    (paused : session.paused = true) : discards session.state = false := by
  by_contra discarded
  have unpaused := tallied.discarded (Bool.not_eq_false _ ▸ discarded)
  rw [paused] at unpaused
  cases unpaused

/-- The tally of an active session does not depend on its state. -/
theorem SessionRecord.Tallied.of_active
    (tallied : session.Tallied)
    (active : isTerminal session.state = false)
    (kept :
      other.transferredBytes.toNat + other.unprovenBytes.toNat +
          other.outstandingBytes.toNat + other.cancelledBytes.toNat ≤
        session.transferredBytes.toNat + session.unprovenBytes.toNat +
          session.outstandingBytes.toNat + session.cancelledBytes.toNat)
    (moved :
      other.transferredBytes.toNat + arrivedBytes session.shards =
        session.transferredBytes.toNat + arrivedBytes other.shards)
    (discarded : discards other.state = true → other.paused = false) :
    other.Tallied where
  bounded := kept.trans_lt tallied.bounded
  summed := by
    intro _
    have summed := tallied.summed (discards_of_active active)
    omega
  discarded := discarded

/-- The same counters, shards, state and flag. -/
theorem SessionRecord.Tallied.of_same
    (tallied : session.Tallied)
    (transferred : other.transferredBytes = session.transferredBytes)
    (kept :
      other.unprovenBytes.toNat + other.outstandingBytes.toNat +
          other.cancelledBytes.toNat ≤
        session.unprovenBytes.toNat + session.outstandingBytes.toNat +
          session.cancelledBytes.toNat)
    (shards : arrivedBytes other.shards = arrivedBytes session.shards)
    (state : other.state = session.state)
    (paused : other.paused = session.paused) :
    other.Tallied where
  bounded := by
    have bounded := tallied.bounded
    rw [transferred]
    omega
  summed := by
    rw [state, transferred, shards]
    exact tallied.summed
  discarded := by
    rw [state, paused]
    exact tallied.discarded

theorem Focus.unverified_le (focus : Focus) (state : SessionState) :
    (focus.unverified state).toNat ≤
      focus.session.transferredBytes.toNat := by
  unfold Focus.unverified
  split
  · rename_i condition
    rw [Word.toNat_sub_of_le (UInt64.lt_iff_toNat_lt.mp condition.2).le]
    omega
  · exact Nat.zero_le _

/-- Closing keeps at most the transferred bytes there were. -/
theorem Focus.closeAs_tallied
    {focus : Focus} (state : SessionState) (reason : ReasonCode)
    (detail : Text) (now : Nanos) (discarded : discards state = true)
    (bounded :
      focus.session.transferredBytes.toNat +
        focus.session.unprovenBytes.toNat +
        focus.session.outstandingBytes.toNat +
        focus.session.cancelledBytes.toNat < 2 ^ 64) :
    (focus.closeAs state reason detail now).session.Tallied := by
  have wasted := focus.unverified_le state
  rw [Focus.closeAs_session]
  refine ⟨?_, ?_, fun _ => rfl⟩
  · dsimp only
    rw [Word.toNat_sub_of_le wasted]
    omega
  · intro kept
    rw [discarded] at kept
    cases kept

theorem Focus.markUnproven_toNat (focus : Focus) (bytes : UInt64) :
    (focus.markUnproven bytes).session.outstandingBytes.toNat =
        focus.session.outstandingBytes.toNat -
          min bytes.toNat focus.session.outstandingBytes.toNat ∧
      (focus.session.unprovenBytes.toNat +
          focus.session.outstandingBytes.toNat < 2 ^ 64 →
        (focus.markUnproven bytes).session.unprovenBytes.toNat =
          focus.session.unprovenBytes.toNat +
            min bytes.toNat focus.session.outstandingBytes.toNat) := by
  have clamped := Word.toNat_min bytes focus.session.outstandingBytes
  constructor
  · rw [← clamped]
    refine Word.toNat_sub_of_le ?_
    rw [clamped]
    exact Nat.min_le_right _ _
  · intro bounded
    rw [← clamped]
    refine Word.toNat_add_of_lt ?_
    rw [clamped]
    omega

namespace EvidenceTarget

/-- What an acknowledgement does to the counters. -/
theorem acknowledge_toNat
    (valid : target.Valid)
    (tallied : target.focus.session.Tallied)
    (evidence : TransferEvidence) (now : Nanos) {newlyDelivered : UInt64}
    (funded : newlyDelivered ≤ target.focus.session.outstandingBytes) :
    (target.acknowledge evidence newlyDelivered
        now).session.outstandingBytes.toNat =
        target.focus.session.outstandingBytes.toNat -
          newlyDelivered.toNat ∧
      (target.acknowledge evidence newlyDelivered
        now).session.transferredBytes.toNat =
        target.focus.session.transferredBytes.toNat +
          newlyDelivered.toNat ∧
      arrivedBytes
        (target.acknowledge evidence newlyDelivered now).session.shards =
        arrivedBytes target.focus.session.shards + newlyDelivered.toNat := by
  have fits := UInt64.le_iff_toNat_le.mp funded
  have bounded := tallied.bounded
  have summed := tallied.summed (discards_of_active valid.active)
  have own : target.shard.transferredBytes.toNat ≤
      arrivedBytes target.focus.session.shards :=
    le_shardTotal valid.shardAt
  rw [EvidenceTarget.acknowledge_session]
  dsimp only
  refine ⟨Word.toNat_sub_of_le fits, Word.toNat_add_of_lt (by omega), ?_⟩
  have moved :
      arrivedBytes (target.focus.session.shards.set target.shardPosition
          (target.creditedShard evidence newlyDelivered)) +
          target.shard.transferredBytes.toNat =
        arrivedBytes target.focus.session.shards +
          (target.creditedShard evidence
            newlyDelivered).transferredBytes.toNat :=
    shardTotal_set valid.shardAt _
  have credited :
      (target.creditedShard evidence
        newlyDelivered).transferredBytes.toNat =
        target.shard.transferredBytes.toNat + newlyDelivered.toNat :=
    Word.toNat_add_of_lt (by omega)
  omega

/-- What a truncation does to the counters. -/
theorem truncate_toNat
    (valid : target.Valid)
    (tallied : target.focus.session.Tallied) :
    target.truncate.session.transferredBytes.toNat =
        target.focus.session.transferredBytes.toNat -
          target.shard.transferredBytes.toNat ∧
      target.truncate.session.outstandingBytes.toNat =
        target.focus.session.outstandingBytes.toNat +
          target.shard.transferredBytes.toNat ∧
      target.shard.transferredBytes.toNat ≤
        target.focus.session.transferredBytes.toNat ∧
      arrivedBytes target.truncate.session.shards +
          target.shard.transferredBytes.toNat =
        arrivedBytes target.focus.session.shards := by
  have bounded := tallied.bounded
  have summed := tallied.summed (discards_of_active valid.active)
  have own : target.shard.transferredBytes.toNat ≤
      arrivedBytes target.focus.session.shards :=
    le_shardTotal valid.shardAt
  rw [EvidenceTarget.truncate_session]
  dsimp only
  refine ⟨Word.toNat_monus _ _, Word.toNat_add_of_lt (by omega), by omega,
    ?_⟩
  exact shardTotal_set valid.shardAt _

end EvidenceTarget

theorem Change.tallied
    (change : Change permits before after)
    (tallied : before.session.Tallied) :
    after.session.Tallied := by
  have bounded := tallied.bounded
  cases change with
  | annotate _ _ noted =>
      rw [noted.session]
      exact tallied.of_same rfl le_rfl rfl rfl rfl
  | withdraw _ _ active =>
      exact tallied.of_active active le_rfl rfl (fun wrong => nomatch wrong)
  | unprove _ bytes =>
      rcases before.markUnproven_toNat bytes with ⟨lowered, raised⟩
      refine tallied.of_same rfl ?_ rfl rfl rfl
      have cancelled :
          (before.markUnproven bytes).session.cancelledBytes =
            before.session.cancelledBytes := rfl
      rw [lowered, raised (by omega), cancelled]
      omega
  | cancelOutstanding =>
      refine tallied.of_same rfl ?_ rfl rfl rfl
      dsimp only [Focus.settleOutstandingAsCancelled]
      rw [Word.toNat_add_of_lt (by omega)]
      have zero : (0 : UInt64).toNat = 0 := rfl
      omega
  | rearm _ _ active =>
      refine tallied.of_active active le_rfl ?_ (fun wrong => nomatch wrong)
      have kept :
          arrivedBytes (before.session.shards.map Focus.rearmShard) =
            arrivedBytes before.session.shards :=
        shardTotal_map rearmShard_transferred
      exact congrArg (_ + ·) kept.symm
  | close _ _ _ _ _ discarded =>
      exact Focus.closeAs_tallied _ _ _ _ discarded bounded
  | closeAbandoned | closeMismatched =>
      exact Focus.closeAs_tallied _ _ _ _ rfl bounded
  | postpone _ _ stale =>
      have active : isTerminal before.session.state = false := by
        rcases stale with state | state <;> rw [state] <;> rfl
      exact tallied.of_active active le_rfl rfl (fun wrong => nomatch wrong)
  | unreserve =>
      rw [Focus.releasePathReservation_session]
      exact tallied.of_same rfl le_rfl rfl rfl rfl
  | renew _ _ _ _ _ stale =>
      have active : isTerminal before.session.state = false := by
        rcases stale with state | state <;> rw [state] <;> rfl
      exact tallied.of_active active le_rfl rfl (fun wrong => nomatch wrong)
  | suspend _ active =>
      exact tallied.of_active active le_rfl rfl (fun wrong => nomatch wrong)
  | reinstate _ paused =>
      have kept := tallied.open_of_paused paused
      exact ⟨bounded, fun _ => tallied.summed kept, fun _ => rfl⟩
  | charge target shaper chunk now grantable kept =>
      have kept :
          arrivedBytes (target.charge shaper chunk now).session.shards =
            arrivedBytes target.focus.session.shards :=
        shardTotal_set_same grantable.shardAt rfl
      exact tallied.of_active grantable.active le_rfl
        (congrArg (_ + ·) kept.symm) (fun _ => grantable.unpaused)
  | flagSource _ _ valid =>
      exact tallied.of_same rfl le_rfl
        (shardTotal_set_same valid.shardAt rfl) rfl rfl
  | sight =>
      exact tallied.of_same rfl le_rfl rfl rfl rfl
  | acknowledge target evidence now valid _ _ funded =>
      rcases target.acknowledge_toNat valid tallied evidence now funded with
        ⟨lowered, raised, arrived⟩
      refine tallied.of_active valid.active ?_ ?_ ?_
      · rw [lowered, raised, EvidenceTarget.acknowledge_session]
        have fits := UInt64.le_iff_toNat_le.mp funded
        dsimp only
        omega
      · rw [raised]
        omega
      · rw [EvidenceTarget.acknowledge_session]
        exact tallied.discarded
  | verify _ _ valid =>
      exact tallied.of_same rfl le_rfl
        (shardTotal_set_same valid.shardAt rfl) rfl rfl
  | truncate target valid =>
      rcases target.truncate_toNat valid tallied with
        ⟨lowered, raised, fits, arrived⟩
      refine tallied.of_active valid.active ?_ ?_ ?_
      · rw [lowered, raised, EvidenceTarget.truncate_session]
        dsimp only
        omega
      · rw [lowered]
        omega
      · rw [EvidenceTarget.truncate_session]
        exact tallied.discarded
  | blurShard _ valid =>
      rw [EvidenceTarget.blur_session]
      exact tallied.of_same rfl le_rfl
        (shardTotal_set_same valid.shardAt rfl) rfl rfl
  | blurAttempt target =>
      rw [AttemptTarget.blur_session]
      exact tallied.of_same rfl le_rfl target.blurredShards_arrived rfl rfl
  | progress _ active =>
      refine tallied.of_active active le_rfl rfl ?_
      intro discarded
      have terminal : isTerminal before.session.derivedState = true :=
        discards_terminal discarded
      rw [before.session.derivedState_active active] at terminal
      cases terminal
  | complete _ _ _ active =>
      rw [Focus.completeSession_session]
      refine tallied.of_active active ?_ rfl (fun wrong => nomatch wrong)
      have zero : (0 : UInt64).toNat = 0 := rfl
      dsimp only
      omega

end TrafficFabric
