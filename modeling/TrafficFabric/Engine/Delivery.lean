import TrafficFabric.Engine.Lineage
import TrafficFabric.Engine.Tracking
import TrafficFabric.Engine.Verified

/-!
# No over-delivery

Along a lineage in which every grant carries an identity that is new to its
session, no attempt delivers more than it was granted, no shard receives more
than it declares, and the transferred bytes of a session that has not ended
are those of its shards.
-/

namespace TrafficFabric

open Foundation

variable {session : SessionRecord}

/-! ## Budgets under changes -/

theorem Focus.closeAs_budgeted
    {focus : Focus} (budgeted : focus.session.Budgeted)
    (state : SessionState) (reason : ReasonCode) (detail : Text)
    (now : Nanos) :
    (focus.closeAs state reason detail now).session.Budgeted := by
  refine budgeted.of_stems (focus.closeAs_quiet state reason detail now).1
    ?_ ?_
  · rw [Focus.closeAs_session]
    refine .map ?_
    intro attempt
    split
    · exact .of_same rfl rfl rfl
    · exact .refl attempt
  · rw [Focus.closeAs_session]
    exact .refl ShardRecord.Recedes.refl

theorem Change.budgeted
    {permits : Permits}
    (unused : ∀ target, permits.grant target → target.Unused)
    {before after : Focus} (change : Change permits before after)
    (tallied : before.session.Tallied)
    (budgeted : before.session.Budgeted) : after.session.Budgeted := by
  cases change with
  | annotate _ _ noted =>
      rw [noted.session]
      exact budgeted.of_same rfl rfl
  | rearm _ now =>
      exact Focus.rearm_budgeted budgeted now
  | close =>
      exact Focus.closeAs_budgeted budgeted _ _ _ _
  | closeAbandoned =>
      exact @Focus.closeAs_budgeted before.abandon
        (budgeted.of_same rfl rfl) _ _ _ _
  | closeMismatched _ _ _ _ valid =>
      refine Focus.closeAs_budgeted ?_ _ _ _ _
      exact budgeted.of_set valid.attemptAt valid.shardAt rfl rfl
        (.of_same rfl rfl rfl) ⟨rfl, le_rfl, .inr rfl⟩
  | unreserve =>
      rw [Focus.releasePathReservation_session]
      exact budgeted.of_same rfl rfl
  | charge target shaper _ now grantable _ permitted =>
      exact target.charge_budgeted grantable (unused target permitted)
        budgeted shaper now
  | flagSource _ _ valid =>
      exact budgeted.of_stems rfl (.refl AttemptRecord.Continues.refl)
        (.set ShardRecord.Recedes.refl valid.shardAt
          ⟨rfl, le_rfl, .inr rfl⟩)
  | sight target evidence now outcome valid within grows =>
      have continues :
          target.attempt.Continues
            { target.sighted evidence now with outcome := outcome } :=
        ⟨rfl, rfl, UInt64.le_iff_toNat_le.mp grows,
          fun _ => UInt64.le_iff_toNat_le.mp within⟩
      exact budgeted.of_stems (map_set_same valid.attemptAt rfl)
        (.set AttemptRecord.Continues.refl valid.attemptAt continues)
        (.refl ShardRecord.Recedes.refl)
  | acknowledge target _ now valid within grows funded =>
      exact (target.acknowledge_budgeted valid tallied budgeted within grows
        funded now).2
  | verify _ _ valid =>
      exact budgeted.of_set valid.attemptAt valid.shardAt rfl rfl
        (.of_same rfl rfl rfl) ⟨rfl, le_rfl, .inr rfl⟩
  | truncate _ valid =>
      rw [EvidenceTarget.truncate_session]
      exact budgeted.of_set valid.attemptAt valid.shardAt rfl rfl
        (.of_same rfl rfl rfl) ⟨rfl, Nat.zero_le _, .inl rfl⟩
  | blurShard _ valid =>
      rw [EvidenceTarget.blur_session]
      exact budgeted.of_set valid.attemptAt valid.shardAt rfl rfl
        (.of_same rfl rfl rfl) ⟨rfl, le_rfl, .inr rfl⟩
  | blurAttempt target _ valid =>
      rw [AttemptTarget.blur_session]
      refine budgeted.of_stems (map_set_same valid.attemptAt rfl)
        (.set AttemptRecord.Continues.refl valid.attemptAt
          (.of_same rfl rfl rfl)) ?_
      rcases target.blurredShards_eq with same |
        ⟨position, shard, at_, _, _, _, same⟩
      · dsimp only
        rw [same]
        exact .refl ShardRecord.Recedes.refl
      · dsimp only
        rw [same]
        exact .set ShardRecord.Recedes.refl at_ ⟨rfl, le_rfl, .inr rfl⟩
  | complete =>
      rw [Focus.completeSession_session]
      exact budgeted.of_same rfl rfl
  | _ =>
      exact budgeted.of_same rfl rfl

theorem SessionRecord.Admitted.budgeted
    (admitted : session.Admitted) :
    session.Budgeted := by
  rcases admitted with ⟨engine, now, request, plan, _, rfl⟩
  refine ⟨List.nodup_nil, nofun, ?_, fun _ _ => nofun⟩
  intro shard member
  rcases List.mem_map.mp member with ⟨descriptor, _, rfl⟩
  exact Nat.zero_le _

/-! ## Through a snapshot -/

/-- The bytes at risk move from outstanding to unproven. -/
theorem SessionRecord.Tallied.quiesced
    (tallied : session.Tallied)
    (bound : Nat) (now : Nanos) : (session.quiesced bound now).Tallied := by
  unfold SessionRecord.quiesced
  split
  · exact tallied
  · rename_i active
    have bounded := tallied.bounded
    have clamped :=
      Word.toNat_min session.atRiskBytes session.outstandingBytes
    refine tallied.of_active (isTerminal_eq_false active) ?_ ?_
      (fun wrong => nomatch wrong)
    · change session.transferredBytes.toNat +
          (session.unprovenBytes +
            min session.atRiskBytes session.outstandingBytes).toNat +
          (session.outstandingBytes -
            min session.atRiskBytes session.outstandingBytes).toNat +
          session.cancelledBytes.toNat ≤ _
      rw [Word.toNat_add_of_lt (by omega), Word.toNat_sub_of_le (by omega)]
      omega
    · have kept :
          arrivedBytes (session.shards.map Focus.rearmShard) =
            arrivedBytes session.shards :=
        shardTotal_map rearmShard_transferred
      exact congrArg (session.transferredBytes.toNat + ·) kept.symm

theorem SessionRecord.Budgeted.quiesced
    (budgeted : session.Budgeted)
    (bound : Nat) (now : Nanos) : (session.quiesced bound now).Budgeted := by
  unfold SessionRecord.quiesced
  split
  · exact budgeted
  · refine budgeted.of_stems ?_ (.map fun attempt => .of_same rfl rfl rfl)
      (.map ?_)
    · change List.map _ (List.map _ _) = List.map _ _
      rw [List.map_map]
      rfl
    · intro shard
      unfold Focus.rearmShard
      split
      · exact ⟨rfl, le_rfl, .inl rfl⟩
      · exact .refl shard

theorem SessionRecord.Tallied.reloaded
    (tallied : session.Tallied)
    (declares : session.Declares) : session.reloaded.Tallied where
  bounded := tallied.bounded
  summed := by
    intro open_
    have arrived :
        arrivedBytes session.reroutedShards = arrivedBytes session.shards :=
      congrArg List.sum (declares.map_reroutedShards (fun _ _ => rfl))
    exact (tallied.summed open_).trans arrived.symm
  discarded := fun _ => rfl

theorem SessionRecord.Budgeted.reloaded
    (budgeted : session.Budgeted) :
    session.reloaded.Budgeted := by
  have attempts :
      session.reloaded.attempts =
        session.attempts.map
          (fun attempt => restoreAttempt (persistAttempt attempt)) :=
    List.map_map
  refine budgeted.of_stems ?_ ?_ ?_
  · unfold SessionRecord.attemptIds
    rw [attempts, List.map_map]
    rfl
  · rw [attempts]
    exact .map fun attempt => .of_same rfl rfl rfl
  · intro shard member
    change shard ∈ List.zipWith _ _ _ at member
    rw [← List.map_uncurry_zip_eq_zipWith] at member
    rcases List.mem_map.mp member with ⟨⟨earlier, descriptor⟩, paired, rfl⟩
    exact ⟨earlier, (List.of_mem_zip paired).1, rfl, le_rfl, .inr rfl⟩

/-! ## Lineages -/

/-- The identity the factory yields is new to a session that asks for
credit. -/
def IdentityCondition (engine : Engine) (now : Nanos) : Command → Prop
  | .requestWave id _ fence =>
      ∀ focus, (engine.observe now).creditHolder now id fence = .ok focus →
        ¬ focus.session.Knows ⟨(engine.observe now).idFactory.next.1⟩
  | _ => True

instance (engine : Engine) (now : Nanos) :
    ∀ command, Decidable (IdentityCondition engine now command) := by
  intro command
  apply @Command.casesOn
      (fun command => Decidable (IdentityCondition engine now command)) command <;>
    intros <;> unfold IdentityCondition <;> infer_instance

/-- Grants carry new identities. -/
def deliveryPermits : Permits where
  grant := ShardTarget.Unused

theorem deliveryPermits_routine : deliveryPermits.Routine :=
  { Permits.Routine.free with }

theorem deliveryPermits_allow
    (engine : Engine) (now : Nanos) (command : Command)
    (ordinary : ∀ snapshot, command ≠ .restore snapshot)
    (condition : IdentityCondition engine now command) :
    deliveryPermits.Allow engine now command := by
  refine Permits.Grounds.allow ?_ ordinary
  exact { Permits.Grounds.free engine now command with
    grant := by
      rintro id index fence focus target rfl passed _ found
      exact Engine.waveTarget_unused passed found (condition focus passed) }

/-- Along a lineage whose grants carry new identities, every attempt delivers
at most what it was granted, every shard receives at most what it declares,
and a session that has not ended counts the bytes of its shards. -/
theorem no_over_delivery
    {engine : Engine} (lineage : Lineage IdentityCondition engine) :
    ∀ id session, engine.sessions.lookup id = some session →
      (∀ attempt ∈ session.attempts,
        attempt.deliveredBytes ≤ attempt.grantedBytes) ∧
      (∀ shard ∈ session.shards,
        shard.transferredBytes ≤ shard.declaredBytes) ∧
      (isTerminal session.state = false →
        session.transferredBytes.toNat =
          (session.shards.map
            (fun shard => shard.transferredBytes.toNat)).sum) := by
  intro id session found
  have invariant := @Lineage.sessions _ deliveryPermits
    (fun session => session.Tallied ∧ session.Budgeted)
    deliveryPermits_routine deliveryPermits_allow
    (fun before after change holds =>
      ⟨change.tallied holds.1,
        change.budgeted (fun _ permitted => permitted) holds.1 holds.2⟩)
    (fun session admitted => ⟨admitted.tallied, admitted.budgeted⟩)
    (fun session bound now declares holds =>
      ⟨(holds.1.reloaded declares).quiesced bound now,
        holds.2.reloaded.quiesced bound now⟩)
    _ lineage id session found
  rcases invariant with ⟨_, tallied, budgeted⟩
  refine ⟨?_, ?_, ?_⟩
  · intro attempt member
    exact UInt64.le_iff_toNat_le.mpr (budgeted.within attempt member)
  · intro shard member
    exact UInt64.le_iff_toNat_le.mpr (budgeted.arrived shard member)
  · intro active
    exact tallied.summed (discards_of_active active)

/-- One of two bytes arrives, and the coordinator restarts. -/
def Sample.restarted : Engine :=
  ((((Engine.construct Sample.config 0).executeAll
    [(1, .submitSession (Sample.request 2 [2]) (Sample.fence 1)),
      (2, .requestWave ⟨Sample.drawn 0⟩ ⟨0⟩ (Sample.fence 1)),
      (3, .reportTransfer (Sample.arrival 1 1 0 1)
        (Sample.fence 1))]).2).restart Sample.config 0 4).2

/-- The arrived byte is still counted after the restart. -/
theorem no_over_delivery_after_restart :
    (Sample.restarted.sessions.lookup ⟨Sample.drawn 0⟩).map
        (fun session => (session.transferredBytes, session.state)) =
      some (1, .revalidationRequired) ∧
    ∀ id session, Sample.restarted.sessions.lookup id = some session →
      (∀ attempt ∈ session.attempts,
        attempt.deliveredBytes ≤ attempt.grantedBytes) ∧
      (∀ shard ∈ session.shards,
        shard.transferredBytes ≤ shard.declaredBytes) ∧
      (isTerminal session.state = false →
        session.transferredBytes.toNat =
          (session.shards.map
            (fun shard => shard.transferredBytes.toNat)).sum) :=
  have evaluated :
      ScriptMeets IdentityCondition (Engine.construct Sample.config 0)
          [(1, .submitSession (Sample.request 2 [2]) (Sample.fence 1)),
            (2, .requestWave ⟨Sample.drawn 0⟩ ⟨0⟩ (Sample.fence 1)),
            (3, .reportTransfer (Sample.arrival 1 1 0 1)
              (Sample.fence 1))] ∧
        (Sample.restarted.sessions.lookup ⟨Sample.drawn 0⟩).map
            (fun session => (session.transferredBytes, session.state)) =
          some (1, .revalidationRequired) := by
    decide +kernel
  ⟨evaluated.2, no_over_delivery
    (((Lineage.boot Sample.config 0).executeAll evaluated.1).restart
      Sample.config 0 4)⟩

end TrafficFabric
