import TrafficFabric.Engine.Settlement
import TrafficFabric.Engine.Tracking

/-!
# What a session still has to carry

The grant of an attempt in flight fits into what its shard still lacks, and
until a session ends its counters add up to the bytes of its manifest.  So the
bytes of the attempts in flight are bounded by what the shards that hold them
lack, and what the other shards lack is left over.
-/

namespace TrafficFabric

open Foundation

variable {shard : ShardRecord} {permits : Permits} {before after : Focus}
  {session : SessionRecord}

/-! ## Attempts in flight fit into their shards -/

/-- A later record of an attempt that was not put in flight again. -/
structure AttemptRecord.Fades (earlier later : AttemptRecord) : Prop
    extends earlier.Continues later where
  outstanding : later.outstanding = true → earlier.outstanding = true

theorem AttemptRecord.Fades.refl (attempt : AttemptRecord) :
    attempt.Fades attempt :=
  ⟨.refl attempt, fun outstanding => outstanding⟩

theorem AttemptRecord.Fades.of_quiet
    {earlier later : AttemptRecord} (id : later.id = earlier.id)
    (granted : later.grantedBytes = earlier.grantedBytes)
    (delivered : later.deliveredBytes = earlier.deliveredBytes)
    (quiet : later.outstanding = false) : earlier.Fades later := by
  refine ⟨.of_same id granted delivered, ?_⟩
  rw [quiet]
  exact fun wrong => nomatch wrong

/-- Every grant fits into what its shard declares, those in flight into what
it lacks. -/
structure SessionRecord.Carried (session : SessionRecord) : Prop
    extends session.Budgeted where
  carried :
    ∀ shard ∈ session.shards, ∀ attempt ∈ session.attempts,
      shard.attempt = some attempt.id → attempt.outstanding = true →
        shard.transferredBytes.toNat + attempt.grantedBytes.toNat ≤
          shard.declaredBytes.toNat

namespace SessionRecord.Carried

variable {session other : SessionRecord}

theorem of_stems
    (carried : session.Carried)
    (ids : other.attemptIds = session.attemptIds)
    (attempts : Stems AttemptRecord.Fades session.attempts other.attempts)
    (shards : Stems ShardRecord.Recedes session.shards other.shards) :
    other.Carried := by
  refine ⟨carried.toBudgeted.of_stems ids ?_ shards, ?_⟩
  · intro attempt member
    rcases attempts attempt member with ⟨earlier, known, fades⟩
    exact ⟨earlier, known, fades.toContinues⟩
  · intro shard shardMember attempt attemptMember current outstanding
    rcases shards shard shardMember with ⟨first, firstKnown, recedes⟩
    rcases attempts attempt attemptMember with ⟨second, secondKnown, fades⟩
    have same : first.attempt = some second.id := by
      rcases recedes.attempt with gone | kept
      · rw [gone] at current
        cases current
      · rw [← kept, current, fades.id]
    have fits := carried.carried first firstKnown second secondKnown same
      (fades.outstanding outstanding)
    have transferred := recedes.transferred
    rw [recedes.declared, fades.granted]
    omega

theorem of_same
    (carried : session.Carried)
    (attempts : other.attempts = session.attempts)
    (shards : other.shards = session.shards) : other.Carried := by
  refine carried.of_stems ?_ ?_ ?_
  · unfold SessionRecord.attemptIds
    rw [attempts]
  · rw [attempts]
    exact .refl AttemptRecord.Fades.refl
  · rw [shards]
    exact .refl ShardRecord.Recedes.refl

/-- One attempt and one shard rewritten. -/
theorem of_set
    (carried : session.Carried)
    {attemptPosition shardPosition : Nat}
    {attempt newAttempt : AttemptRecord} {newShard : ShardRecord}
    (attemptAt : session.attempts[attemptPosition]? = some attempt)
    (shardAt : session.shards[shardPosition]? = some shard)
    (attempts :
      other.attempts = session.attempts.set attemptPosition newAttempt)
    (shards : other.shards = session.shards.set shardPosition newShard)
    (fades : attempt.Fades newAttempt)
    (recedes : shard.Recedes newShard) : other.Carried := by
  refine carried.of_stems ?_ ?_ ?_
  · unfold SessionRecord.attemptIds
    rw [attempts]
    exact map_set_same attemptAt fades.id
  · rw [attempts]
    exact .set AttemptRecord.Fades.refl attemptAt fades
  · rw [shards]
    exact .set ShardRecord.Recedes.refl shardAt recedes

/-- No attempt is in flight. -/
theorem of_quiet
    (budgeted : session.Budgeted)
    (quiet : ∀ attempt ∈ session.attempts, attempt.outstanding = false) :
    session.Carried := by
  refine ⟨budgeted, ?_⟩
  intro shard _ attempt member _ outstanding
  rw [quiet attempt member] at outstanding
  cases outstanding

end SessionRecord.Carried

theorem Focus.closeAs_carried
    {focus : Focus} (carried : focus.session.Carried)
    (state : SessionState) (reason : ReasonCode) (detail : Text)
    (now : Nanos) :
    (focus.closeAs state reason detail now).session.Carried := by
  refine carried.of_stems (focus.closeAs_quiet state reason detail now).1
    ?_ ?_
  · rw [Focus.closeAs_session]
    refine .map ?_
    intro attempt
    split
    · exact .of_quiet rfl rfl rfl rfl
    · exact .refl attempt
  · rw [Focus.closeAs_session]
    exact .refl ShardRecord.Recedes.refl

/-- A new grant fits into what its shard lacks. -/
theorem ShardTarget.charge_carried
    {target : ShardTarget} {chunk : UInt64}
    (grantable : target.Grantable chunk) (unused : target.Unused)
    (carried : target.focus.session.Carried)
    (shaper : RateShaper) (now : Nanos) :
    (target.charge shaper chunk now).session.Carried := by
  have budgeted := target.charge_budgeted grantable unused
    carried.toBudgeted shaper now
  refine ⟨budgeted, ?_⟩
  intro shard shardMember attempt attemptMember current outstanding
  rcases ShardTarget.mem_charge_attempts attemptMember with older | rfl
  · rcases List.mem_or_eq_of_mem_set shardMember with known | rfl
    · exact carried.carried shard known attempt older current outstanding
    · have same : attempt.id = (target.grant chunk now).attempt :=
        (Option.some.inj current).symm
      exact absurd (.inl (List.mem_map.mpr ⟨attempt, older, same⟩)) unused
  · exact budgeted.funded shard shardMember _ attemptMember current

/-- An acknowledged attempt is no longer in flight. -/
theorem EvidenceTarget.acknowledge_carried
    {target : EvidenceTarget} (valid : target.Valid)
    (tallied : target.focus.session.Tallied)
    (carried : target.focus.session.Carried)
    {evidence : TransferEvidence}
    (within : evidence.arrivedBytes ≤ target.attempt.grantedBytes)
    (grows : target.attempt.deliveredBytes ≤ evidence.arrivedBytes)
    (funded :
      evidence.arrivedBytes - target.attempt.deliveredBytes ≤
        target.focus.session.outstandingBytes)
    (now : Nanos) :
    (target.acknowledge evidence
      (evidence.arrivedBytes - target.attempt.deliveredBytes)
        now).session.Carried := by
  have budgeted := (target.acknowledge_budgeted valid tallied
    carried.toBudgeted within grows funded now).2
  refine ⟨budgeted, ?_⟩
  rw [EvidenceTarget.acknowledge_session]
  intro shard shardMember attempt attemptMember current outstanding
  rcases mem_set_of_nodup carried.distinct valid.attemptAt attemptMember with
    rfl | ⟨older, differs⟩
  · cases outstanding
  · rcases List.mem_or_eq_of_mem_set shardMember with known | rfl
    · exact carried.carried shard known attempt older current outstanding
    · have named : target.shard.attempt = some attempt.id := current
      rw [valid.current] at named
      exact absurd (Option.some.inj named).symm differs

theorem Change.carried
    (unused : ∀ target, permits.grant target → target.Unused)
    (change : Change permits before after)
    (tallied : before.session.Tallied)
    (carried : before.session.Carried) : after.session.Carried := by
  cases change with
  | annotate _ _ noted =>
      rw [noted.session]
      exact carried.of_same rfl rfl
  | rearm _ now =>
      exact .of_quiet (Focus.rearm_budgeted carried.toBudgeted now)
        (before.rearm_quiet now).2
  | close =>
      exact Focus.closeAs_carried carried _ _ _ _
  | closeAbandoned =>
      exact @Focus.closeAs_carried before.abandon
        (carried.of_same rfl rfl) _ _ _ _
  | closeMismatched _ _ _ _ valid =>
      refine Focus.closeAs_carried ?_ _ _ _ _
      exact carried.of_set valid.attemptAt valid.shardAt rfl rfl
        ⟨.of_same rfl rfl rfl, fun outstanding => outstanding⟩
        ⟨rfl, le_rfl, .inr rfl⟩
  | unreserve =>
      rw [Focus.releasePathReservation_session]
      exact carried.of_same rfl rfl
  | charge target shaper _ now grantable _ permitted =>
      exact target.charge_carried grantable (unused target permitted) carried
        shaper now
  | flagSource _ _ valid =>
      refine carried.of_stems rfl (.refl AttemptRecord.Fades.refl) ?_
      exact .set ShardRecord.Recedes.refl valid.shardAt
        ⟨rfl, le_rfl, .inr rfl⟩
  | sight target evidence now outcome valid within grows =>
      have fades :
          target.attempt.Fades
            { target.sighted evidence now with outcome := outcome } :=
        ⟨⟨rfl, rfl, UInt64.le_iff_toNat_le.mp grows,
          fun _ => UInt64.le_iff_toNat_le.mp within⟩,
          fun outstanding => outstanding⟩
      exact carried.of_stems (map_set_same valid.attemptAt rfl)
        (.set AttemptRecord.Fades.refl valid.attemptAt fades)
        (.refl ShardRecord.Recedes.refl)
  | acknowledge target _ now valid within grows funded =>
      exact target.acknowledge_carried valid tallied carried within grows
        funded now
  | verify _ _ valid =>
      exact carried.of_set valid.attemptAt valid.shardAt rfl rfl
        ⟨.of_same rfl rfl rfl, fun outstanding => outstanding⟩
        ⟨rfl, le_rfl, .inr rfl⟩
  | truncate _ valid =>
      rw [EvidenceTarget.truncate_session]
      exact carried.of_set valid.attemptAt valid.shardAt rfl rfl
        (.of_quiet rfl rfl rfl rfl) ⟨rfl, Nat.zero_le _, .inl rfl⟩
  | blurShard _ valid =>
      rw [EvidenceTarget.blur_session]
      exact carried.of_set valid.attemptAt valid.shardAt rfl rfl
        (.of_quiet rfl rfl rfl rfl) ⟨rfl, le_rfl, .inr rfl⟩
  | blurAttempt target _ valid =>
      rw [AttemptTarget.blur_session]
      refine carried.of_stems (map_set_same valid.attemptAt rfl)
        (.set AttemptRecord.Fades.refl valid.attemptAt
          (.of_quiet rfl rfl rfl rfl)) ?_
      rcases target.blurredShards_eq with same |
        ⟨position, shard, at_, _, _, _, same⟩
      · dsimp only
        rw [same]
        exact .refl ShardRecord.Recedes.refl
      · dsimp only
        rw [same]
        exact .set ShardRecord.Recedes.refl at_ ⟨rfl, le_rfl, .inr rfl⟩
  | complete =>
      rw [Focus.completeSession_session]
      exact carried.of_same rfl rfl
  | _ =>
      exact carried.of_same rfl rfl

/-! ## Active sessions account for their manifest -/

/-- Until a session ends, a change moves its bytes from one counter to
another. -/
theorem Change.accounted
    (resumable :
      ∀ focus : Focus, permits.resume focus →
        isTerminal focus.session.state = false)
    (change : Change permits before after)
    (tallied : before.session.Tallied)
    (active : isTerminal after.session.state = false) :
    isTerminal before.session.state = false ∧
      after.session.accountedBytes = before.session.accountedBytes := by
  cases change with
  | annotate _ _ noted =>
      rw [noted.state] at active
      rw [noted.session]
      exact ⟨active, rfl⟩
  | unprove _ bytes =>
      exact ⟨active, before.markUnproven_accounted bytes tallied⟩
  | cancelOutstanding =>
      exact ⟨active, before.settleOutstandingAsCancelled_accounted tallied⟩
  | close _ _ _ _ _ discarded =>
      rw [Focus.closeAs_session] at active
      have wrong := discards_of_active active
      rw [discarded] at wrong
      cases wrong
  | closeAbandoned | closeMismatched =>
      rw [Focus.closeAs_session] at active
      cases active
  | postpone _ _ stale =>
      refine ⟨?_, rfl⟩
      rcases stale with state | state <;> rw [state] <;> rfl
  | unreserve =>
      rw [Focus.releasePathReservation_session] at active ⊢
      exact ⟨active, rfl⟩
  | renew _ _ _ _ _ stale =>
      refine ⟨?_, rfl⟩
      rcases stale with state | state <;> rw [state] <;> rfl
  | reinstate _ _ permitted =>
      exact ⟨resumable before permitted, rfl⟩
  | charge _ _ _ _ grantable =>
      exact ⟨grantable.active, rfl⟩
  | flagSource _ _ valid =>
      exact ⟨valid.active, rfl⟩
  | sight _ _ _ _ valid =>
      exact ⟨valid.active, rfl⟩
  | acknowledge target evidence now valid _ _ funded =>
      exact ⟨valid.active,
        target.acknowledge_accounted valid tallied evidence now funded⟩
  | verify _ _ valid =>
      exact ⟨valid.active, rfl⟩
  | truncate target valid =>
      exact ⟨valid.active, target.truncate_accounted valid tallied⟩
  | blurShard _ valid =>
      rw [EvidenceTarget.blur_session]
      exact ⟨valid.active, rfl⟩
  | blurAttempt _ _ valid =>
      rw [AttemptTarget.blur_session]
      exact ⟨valid.active, rfl⟩
  | complete =>
      rw [Focus.completeSession_session] at active
      cases active
  | withdraw _ _ open_ =>
      exact ⟨open_, rfl⟩
  | rearm _ _ open_ =>
      exact ⟨open_, rfl⟩
  | suspend _ open_ =>
      exact ⟨open_, rfl⟩
  | progress _ open_ =>
      exact ⟨open_, rfl⟩

/-- No change redeclares a shard. -/
theorem Change.declared
    (change : Change permits before after) :
    declaredBytes after.session.shards =
      declaredBytes before.session.shards := by
  have sized (shards : List ShardRecord) :
      declaredBytes shards =
        ((shards.map ShardRecord.declaration).map
          (fun declared => declared.2.1.toNat)).sum := by
    unfold declaredBytes shardTotal
    rw [List.map_map]
    rfl
  rw [sized, sized, change.declarations]

/-- What holds of every session whose grants carry new identities. -/
structure SessionRecord.Provisioned (session : SessionRecord) : Prop where
  tallied : session.Tallied
  tracking : session.Tracking
  carried : session.Carried
  declared :
    declaredBytes session.shards =
      session.request.manifest.totalBytes.toNat
  exact_ :
    isTerminal session.state = false →
      session.accountedBytes = session.request.manifest.totalBytes.toNat

theorem Change.provisioned
    (unused : ∀ target, permits.grant target → target.Unused)
    (resumable :
      ∀ focus : Focus, permits.resume focus →
        isTerminal focus.session.state = false)
    (change : Change permits before after)
    (provisioned : before.session.Provisioned) :
    after.session.Provisioned where
  tallied := change.tallied provisioned.tallied
  tracking := change.tracking unused provisioned.tracking
  carried := change.carried unused provisioned.tallied provisioned.carried
  declared := by
    rw [change.declared, change.request.1]
    exact provisioned.declared
  exact_ := by
    intro active
    rcases change.accounted resumable provisioned.tallied active with
      ⟨earlier, same⟩
    rw [same, change.request.1]
    exact provisioned.exact_ earlier

theorem SessionRecord.Admitted.provisioned
    (admitted : session.Admitted) :
    session.Provisioned := by
  have settling : session.Settling true := admitted.settling
  refine ⟨admitted.tallied, admitted.tracking, ?_, settling.declared,
    fun active => settling.exact_ (discards_of_active active)⟩
  rcases admitted with ⟨engine, now, request, plan, _, rfl⟩
  refine .of_quiet ⟨List.nodup_nil, ?_, ?_, ?_⟩ ?_
  · intro attempt member
    cases member
  · intro shard member
    rcases List.mem_map.mp member with ⟨descriptor, _, rfl⟩
    exact Nat.zero_le _
  · intro shard _ attempt member
    cases member
  · intro attempt member
    cases member

/-! ## Room for another grant -/

namespace SessionRecord

/-- The bytes of the attempts in flight. -/
def inFlightBytes (session : SessionRecord) : Nat :=
  (session.attempts.map (fun attempt =>
    if attempt.outstanding then attempt.grantedBytes.toNat else 0)).sum

/-- The shard waits for an attempt in flight. -/
def Awaits (session : SessionRecord) (shard : ShardRecord) : Prop :=
  ∃ attempt ∈ session.attempts,
    attempt.outstanding = true ∧ shard.attempt = some attempt.id

instance (session : SessionRecord) (shard : ShardRecord) :
    Decidable (session.Awaits shard) :=
  inferInstanceAs (Decidable (∃ _ ∈ _, _))

/-- What the ambiguous shards among `shards` lack.  None of it can be granted
again. -/
def strandedBytes
    (session : SessionRecord) (shards : List ShardRecord) : Nat :=
  (shards.map (fun shard =>
    if shard.state = .ambiguous ∧ ¬ session.Awaits shard then
      (Engine.remainingBytes shard).toNat
    else 0)).sum

/-- Everything unproven is missing from ambiguous shards other than the one
at `position`. -/
def Strands (session : SessionRecord) (position : Nat) : Prop :=
  session.unprovenBytes.toNat ≤
    session.strandedBytes (session.shards.eraseIdx position)

instance (session : SessionRecord) (position : Nat) :
    Decidable (session.Strands position) :=
  inferInstanceAs (Decidable (_ ≤ _))

/-- The bytes in flight fit into what the waiting shards lack. -/
theorem Provisioned.inFlightBytes_le
    (provisioned : session.Provisioned) :
    session.inFlightBytes ≤
      (session.shards.map (fun shard =>
        if session.Awaits shard then
          (Engine.remainingBytes shard).toNat
        else 0)).sum := by
  refine sum_map_le_claimed ?_ ?_
  · intro attempt member positive
    have outstanding : attempt.outstanding = true := by
      by_contra quiet
      rw [if_neg quiet] at positive
      exact absurd positive (Nat.lt_irrefl 0)
    rcases provisioned.tracking.current attempt member outstanding with
      ⟨shard, known, named, _⟩
    refine ⟨shard, known, ⟨outstanding, named⟩, ?_⟩
    have fits := provisioned.carried.carried shard known attempt member named
      outstanding
    rw [if_pos outstanding]
    unfold Engine.remainingBytes
    rw [Word.toNat_monus]
    omega
  · refine (List.pairwise_map.mp provisioned.tracking.distinct).imp ?_
    rintro first second differs shard ⟨_, named⟩ ⟨_, other⟩
    exact differs (Option.some.inj (named.symm.trans other))

/-- What the shards of an active session lack is unproven or outstanding. -/
theorem Provisioned.lacking
    (provisioned : session.Provisioned)
    (active : isTerminal session.state = false)
    (uncancelled : session.cancelledBytes = 0) :
    (session.shards.map (fun shard =>
        (Engine.remainingBytes shard).toNat)).sum =
      session.unprovenBytes.toNat + session.outstandingBytes.toNat := by
  have whole :
      (session.shards.map (fun shard =>
        (Engine.remainingBytes shard).toNat)).sum +
          arrivedBytes session.shards = declaredBytes session.shards := by
    unfold arrivedBytes declaredBytes shardTotal
    rw [← List.sum_map_add]
    refine congrArg List.sum (List.map_congr_left ?_)
    intro shard member
    have arrived := provisioned.carried.arrived shard member
    unfold Engine.remainingBytes
    rw [Word.toNat_monus]
    dsimp only
    omega
  have summed := provisioned.tallied.summed (discards_of_active active)
  have exact_ := provisioned.exact_ active
  have declared := provisioned.declared
  have nothing : session.cancelledBytes.toNat = 0 := by
    rw [uncancelled]
    rfl
  unfold accountedBytes at exact_
  omega

/-- What a shard without an attempt in flight lacks is not needed by those in
flight, if everything unproven is stranded elsewhere. -/
theorem Provisioned.spare
    (provisioned : session.Provisioned)
    (active : isTerminal session.state = false)
    (uncancelled : session.cancelledBytes = 0)
    {position : Nat}
    (shardAt : session.shards[position]? = some shard)
    (free : ¬ session.Awaits shard)
    (strands : session.Strands position) :
    session.inFlightBytes + (Engine.remainingBytes shard).toNat ≤
      session.outstandingBytes.toNat := by
  have awaited := provisioned.inFlightBytes_le
  have lacking := provisioned.lacking active uncancelled
  rw [← add_sum_map_eraseIdx _ shardAt, if_neg free] at awaited
  rw [← add_sum_map_eraseIdx _ shardAt] at lacking
  have others (shards : List ShardRecord) :
      (shards.map (fun shard =>
          if session.Awaits shard then
            (Engine.remainingBytes shard).toNat
          else 0)).sum + session.strandedBytes shards ≤
        (shards.map (fun shard =>
          (Engine.remainingBytes shard).toNat)).sum := by
    unfold strandedBytes
    rw [← List.sum_map_add]
    refine List.sum_le_sum ?_
    intro other _
    by_cases waits : session.Awaits other
    · simp [waits]
    · rw [if_neg waits]
      split <;> omega
  have apart := others (session.shards.eraseIdx position)
  have covered : session.unprovenBytes.toNat ≤
      session.strandedBytes (session.shards.eraseIdx position) := strands
  omega

end SessionRecord

end TrafficFabric
