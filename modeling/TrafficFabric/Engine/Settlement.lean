import TrafficFabric.Engine.Verified

/-!
# Where the bytes of a session end

The transferred, unproven, outstanding and cancelled bytes of a session add
up to its manifest until the session is discarded.  Hence nothing is
outstanding once every shard has received what it declares, and a session
that ends leaves nothing outstanding, provided that verification is reported
for complete shards and fails only sessions without outstanding bytes.  The
last matters only where sessions are evicted, so it is asked for there alone.
-/

namespace TrafficFabric

open Foundation

variable {evicting : Bool}
  {shard : ShardRecord} {focus : Focus} {session : SessionRecord}
  {target : EvidenceTarget} {newlyDelivered : UInt64}

/-- The bytes that the shards of a list declare. -/
abbrev declaredBytes (shards : List ShardRecord) : Nat :=
  shardTotal (fun shard => shard.declaredBytes) shards

/-- A shard that reached its target has received what it declares, and no
shard has verified more. -/
structure ShardRecord.Sound (shard : ShardRecord) : Prop where
  reached :
    shard.state = .transferred ∨ shard.state = .verified →
      shard.declaredBytes.toNat ≤ shard.transferredBytes.toNat
  checked : shard.verifiedBytes.toNat ≤ shard.declaredBytes.toNat

/-- The shard falls back from its target, or keeps its state. -/
theorem ShardRecord.Sound.of_same
    {other : ShardRecord} (sound : shard.Sound)
    (state :
      other.state = .transferred ∨ other.state = .verified →
        shard.state = .transferred ∨ shard.state = .verified)
    (declared : other.declaredBytes = shard.declaredBytes)
    (transferred : other.transferredBytes = shard.transferredBytes)
    (verified : other.verifiedBytes = shard.verifiedBytes) :
    other.Sound where
  reached := by
    rw [declared, transferred]
    exact fun target => sound.reached (state target)
  checked := by
    rw [declared, verified]
    exact sound.checked

/-- The bytes of a session that no settlement has discarded. -/
def SessionRecord.accountedBytes (session : SessionRecord) : Nat :=
  session.transferredBytes.toNat + session.unprovenBytes.toNat +
    session.outstandingBytes.toNat + session.cancelledBytes.toNat

/-- The counters of a session add up to its manifest; where sessions are
evicted, none is outstanding when it ends. -/
structure SessionRecord.Settling
    (evicting : Bool) (session : SessionRecord) : Prop where
  shards : ∀ shard ∈ session.shards, shard.Sound
  declared :
    declaredBytes session.shards =
      session.request.manifest.totalBytes.toNat
  admitted :
    session.request.manifest.totalBytes.toNat ≤ session.admittedBytes.toNat
  owed : session.verifiedBytes.toNat ≤ session.admittedBytes.toNat
  summed :
    discards session.state = false →
      session.verifiedBytes.toNat = checkedBytes session.shards
  exact_ :
    discards session.state = false →
      session.accountedBytes = session.request.manifest.totalBytes.toNat
  settled :
    evicting = true → isTerminal session.state = true →
      session.outstandingBytes = 0
  resumable : isTerminal session.pausedFrom = false

namespace SessionRecord.Settling

variable {session other : SessionRecord}

/-- The same manifest and verified bytes; the shards keep what they declare
and what is verified of them. -/
theorem of_shards
    (settling : session.Settling evicting)
    (request : other.request = session.request)
    (admitted :
      session.admittedBytes.toNat ≤ other.admittedBytes.toNat)
    (verified : other.verifiedBytes = session.verifiedBytes)
    (shards : ∀ shard ∈ other.shards, shard.Sound)
    (declared : declaredBytes other.shards = declaredBytes session.shards)
    (checked : checkedBytes other.shards = checkedBytes session.shards)
    (kept :
      discards other.state = false →
        discards session.state = false ∧
          other.accountedBytes = session.accountedBytes)
    (settled :
      evicting = true → isTerminal other.state = true →
        other.outstandingBytes = 0)
    (resumable : isTerminal other.pausedFrom = false) :
    other.Settling evicting where
  shards := shards
  declared := by
    rw [declared, request]
    exact settling.declared
  admitted := by
    rw [request]
    exact settling.admitted.trans admitted
  owed := by
    rw [verified]
    exact settling.owed.trans admitted
  summed := by
    intro open_
    rw [verified, checked]
    exact settling.summed (kept open_).1
  exact_ := by
    intro open_
    rw [(kept open_).2, request]
    exact settling.exact_ (kept open_).1
  settled := settled
  resumable := resumable

/-- The same shards. -/
theorem of_same
    (settling : session.Settling evicting)
    (request : other.request = session.request)
    (admitted :
      session.admittedBytes.toNat ≤ other.admittedBytes.toNat)
    (verified : other.verifiedBytes = session.verifiedBytes)
    (shards : other.shards = session.shards)
    (kept :
      discards other.state = false →
        discards session.state = false ∧
          other.accountedBytes = session.accountedBytes)
    (settled :
      evicting = true → isTerminal other.state = true →
        other.outstandingBytes = 0)
    (resumable : isTerminal other.pausedFrom = false) :
    other.Settling evicting :=
  settling.of_shards request admitted verified
    (by rw [shards]; exact settling.shards) (by rw [shards])
    (by rw [shards]) kept settled resumable

/-- One shard of an active session rewritten. -/
theorem of_set
    (settling : session.Settling evicting)
    (active : isTerminal session.state = false)
    {position : Nat} {newShard : ShardRecord}
    (shardAt : session.shards[position]? = some shard)
    (shards : other.shards = session.shards.set position newShard)
    (request : other.request = session.request)
    (admitted :
      session.admittedBytes.toNat ≤ other.admittedBytes.toNat)
    (verified : other.verifiedBytes = session.verifiedBytes)
    (sound : newShard.Sound)
    (declared : newShard.declaredBytes = shard.declaredBytes)
    (checked : newShard.verifiedBytes = shard.verifiedBytes)
    (kept : other.accountedBytes = session.accountedBytes)
    (state : isTerminal other.state = false)
    (pausedFrom : other.pausedFrom = session.pausedFrom) :
    other.Settling evicting := by
  refine settling.of_shards request admitted verified ?_ ?_ ?_ ?_ ?_ ?_
  · rw [shards]
    exact every_set settling.shards sound
  · rw [shards]
    exact shardTotal_set_same shardAt declared
  · rw [shards]
    exact shardTotal_set_same shardAt checked
  · exact fun _ => ⟨discards_of_active active, kept⟩
  · intro _ terminal
    rw [state] at terminal
    cases terminal
  · rw [pausedFrom]
    exact settling.resumable

/-- A session whose shards all reached their targets has nothing
outstanding. -/
theorem outstanding_of_reached
    (settling : session.Settling evicting) (tallied : session.Tallied)
    (open_ : discards session.state = false)
    (reached :
      ∀ shard ∈ session.shards,
        shard.state = .transferred ∨ shard.state = .verified) :
    session.outstandingBytes = 0 := by
  have arrived : declaredBytes session.shards ≤ arrivedBytes session.shards :=
    List.sum_le_sum (fun shard member =>
      (settling.shards shard member).reached (reached shard member))
  have declared := settling.declared
  have summed := tallied.summed open_
  have exact_ := settling.exact_ open_
  unfold SessionRecord.accountedBytes at exact_
  rw [← UInt64.toNat_inj]
  change _ = 0
  omega

end SessionRecord.Settling

/-- The shards of a complete session reached their targets. -/
theorem Focus.reached_of_isComplete
    (complete : focus.isComplete = true) :
    ∀ shard ∈ focus.session.shards,
      shard.state = .transferred ∨ shard.state = .verified := by
  have counted (states : List ShardState)
      (known : states ⊆ [.verified, .transferred])
      (all :
        (focus.session.countShards states == focus.session.shards.length &&
          0 < focus.session.shards.length) = true) :
      ∀ shard ∈ focus.session.shards,
        shard.state = .transferred ∨ shard.state = .verified := by
    rw [Bool.and_eq_true, beq_iff_eq] at all
    intro shard member
    have within := List.countP_eq_length.mp all.1 shard member
    rw [decide_eq_true_iff] at within
    have named := known within
    simpa [or_comm] using named
  unfold Focus.isComplete at complete
  split at complete
  · exact counted [.verified] (by simp) complete
  · exact counted [.verified, .transferred] (by simp) complete

/-! ## Changes -/

/-- So many more sessions may be retained before any is evicted. -/
abbrev Engine.Roomy (engine : Engine) (spare : Nat) : Prop :=
  engine.sessions.entries.length + spare ≤ engine.retentionBound

/-- Bytes are admitted without wrapping, under a new identity and a known
contract; verification is reported for shards that received what they
declare.  It fails only sessions without outstanding bytes, or else there is
room for every session. -/
def settlementPermits (evicting : Bool) : Permits where
  enroll := fun engine session =>
    engine.accounting.bytesAdmitted.toNat +
        session.request.manifest.totalBytes.toNat < 2 ^ 64 ∧
      session.id ∉ engine.sessions ∧
      session.request.workload ∈ engine.contracts ∧
      (evicting = false → engine.Roomy 1)
  verify := fun target =>
    target.shard.declaredBytes.toNat ≤ target.shard.transferredBytes.toNat
  failVerification := fun target =>
    evicting = true → target.focus.session.outstandingBytes = 0
  truncate := fun target =>
    target.focus.engine.accounting.bytesAdmitted.toNat +
      target.shard.transferredBytes.toNat < 2 ^ 64

theorem Edit.roomy
    {permits : Permits} {before after : Engine} {spare : Nat}
    (edit : Edit permits before after)
    (enrolls :
      ∀ engine session, permits.enroll engine session →
        spare = 0 ∧ engine.Roomy 1)
    (roomy : before.Roomy spare) :
    after.Roomy spare := by
  unfold Engine.Roomy at *
  cases edit with
  | housekeeping _ _ same =>
      rw [same.sessions, same.retentionBound]
      exact roomy
  | prune _ crowded =>
      omega
  | enroll _ session _ permitted =>
      rcases enrolls _ _ permitted with ⟨rfl, one⟩
      rw [before.enroll_sessions session, (before.enroll_frame session).2.2]
      exact Table.length_emplace_le.trans one
  | @change before after _ performed =>
      have engine := performed.framed.engine
      change (after.engine.sessions.replace _ _).entries.length + _ ≤
        after.engine.retentionBound
      rw [Table.length_replace, engine.sessions, engine.retentionBound,
        ← Table.length_replace]
      exact roomy
  | _ =>
      exact roomy

theorem settlementPermits_routine : (settlementPermits evicting).Routine :=
  { Permits.Routine.free with }

theorem Focus.closeAs_settling
    (state : SessionState) (reason : ReasonCode)
    (detail : Text) (now : Nanos) (discarded : discards state = true)
    (settling : session.Settling evicting)
    (request : focus.session.request = session.request)
    (admitted :
      session.admittedBytes.toNat ≤ focus.session.admittedBytes.toNat)
    (verified : focus.session.verifiedBytes = session.verifiedBytes)
    (shards : ∀ shard ∈ focus.session.shards, shard.Sound)
    (declared :
      declaredBytes focus.session.shards = declaredBytes session.shards)
    (checked :
      checkedBytes focus.session.shards = checkedBytes session.shards)
    (empty : evicting = true → focus.session.outstandingBytes = 0)
    (pausedFrom : focus.session.pausedFrom = session.pausedFrom) :
    (focus.closeAs state reason detail now).session.Settling evicting := by
  rw [Focus.closeAs_session]
  refine settling.of_shards request admitted verified shards declared checked
    ?_ (fun evicted _ => empty evicted) ?_
  · intro open_
    rw [discarded] at open_
    cases open_
  · dsimp only
    rw [pausedFrom]
    exact settling.resumable

theorem Focus.markUnproven_accounted
    (bytes : UInt64) (tallied : focus.session.Tallied) :
    (focus.markUnproven bytes).session.accountedBytes =
      focus.session.accountedBytes := by
  have bounded := tallied.bounded
  rcases focus.markUnproven_toNat bytes with ⟨lowered, raised⟩
  have transferred :
      (focus.markUnproven bytes).session.transferredBytes =
        focus.session.transferredBytes := rfl
  have cancelled :
      (focus.markUnproven bytes).session.cancelledBytes =
        focus.session.cancelledBytes := rfl
  unfold SessionRecord.accountedBytes
  rw [lowered, raised (by omega), transferred, cancelled]
  omega

theorem EvidenceTarget.acknowledge_accounted
    (valid : target.Valid)
    (tallied : target.focus.session.Tallied)
    (evidence : TransferEvidence) (now : Nanos)
    (funded : newlyDelivered ≤ target.focus.session.outstandingBytes) :
    (target.acknowledge evidence newlyDelivered now).session.accountedBytes =
      target.focus.session.accountedBytes := by
  rcases target.acknowledge_toNat valid tallied evidence now funded with
    ⟨lowered, raised, _⟩
  have fits := UInt64.le_iff_toNat_le.mp funded
  unfold SessionRecord.accountedBytes
  rw [lowered, raised, EvidenceTarget.acknowledge_session]
  dsimp only
  omega

theorem EvidenceTarget.truncate_accounted
    (valid : target.Valid)
    (tallied : target.focus.session.Tallied) :
    target.truncate.session.accountedBytes =
      target.focus.session.accountedBytes := by
  rcases target.truncate_toNat valid tallied with ⟨lowered, raised, own, _⟩
  unfold SessionRecord.accountedBytes
  rw [lowered, raised, EvidenceTarget.truncate_session]
  dsimp only
  omega

theorem Focus.settleOutstandingAsCancelled_accounted
    (tallied : focus.session.Tallied) :
    focus.settleOutstandingAsCancelled.session.accountedBytes =
      focus.session.accountedBytes := by
  have bounded := tallied.bounded
  unfold SessionRecord.accountedBytes
  dsimp only [Focus.settleOutstandingAsCancelled]
  rw [Word.toNat_add_of_lt (by omega)]
  have zero : (0 : UInt64).toNat = 0 := rfl
  omega

theorem rearmShard_sound
    (sound : shard.Sound) :
    (Focus.rearmShard shard).Sound := by
  unfold Focus.rearmShard
  split
  · exact sound.of_same (by simp) rfl rfl rfl
  · exact sound

theorem EvidenceTarget.creditedShard_sound
    (sound : target.shard.Sound)
    {evidence : TransferEvidence}
    (fits :
      target.shard.transferredBytes.toNat + newlyDelivered.toNat < 2 ^ 64) :
    (target.creditedShard evidence newlyDelivered).Sound := by
  have credited := Word.toNat_add_of_lt fits
  refine ⟨?_, sound.checked⟩
  intro target_
  change target.shard.declaredBytes.toNat ≤
    (target.shard.transferredBytes + newlyDelivered).toNat
  dsimp only [EvidenceTarget.creditedShard] at target_
  split at target_
  · rename_i whole
    exact UInt64.le_iff_toNat_le.mp whole.1
  · have earlier := sound.reached target_
    omega

theorem EvidenceTarget.acknowledge_settling
    (valid : target.Valid)
    (tallied : target.focus.session.Tallied)
    (settling : target.focus.session.Settling evicting)
    (evidence : TransferEvidence) (now : Nanos)
    (funded : newlyDelivered ≤ target.focus.session.outstandingBytes) :
    (target.acknowledge evidence newlyDelivered now).session.Settling evicting := by
  have bounded := tallied.bounded
  have summed := tallied.summed (discards_of_active valid.active)
  have own : target.shard.transferredBytes.toNat ≤
      arrivedBytes target.focus.session.shards :=
    le_shardTotal valid.shardAt
  have fits := UInt64.le_iff_toNat_le.mp funded
  have sound :=
    settling.shards _ (List.mem_of_getElem? valid.shardAt)
  have kept :=
    target.acknowledge_accounted valid tallied evidence now funded
  rw [EvidenceTarget.acknowledge_session] at kept ⊢
  exact settling.of_set valid.active valid.shardAt rfl rfl le_rfl rfl
    (EvidenceTarget.creditedShard_sound sound (by omega)) rfl rfl kept
    valid.active rfl

theorem EvidenceTarget.verify_settling
    (valid : target.Valid)
    (settling : target.focus.session.Settling evicting)
    {evidence : VerificationEvidence}
    (exact_ : evidence.verifiedBytes = target.shard.declaredBytes)
    (arrived :
      target.shard.declaredBytes.toNat ≤
        target.shard.transferredBytes.toNat) :
    (target.verify evidence).session.Settling evicting := by
  have open_ := discards_of_active valid.active
  have own := settling.shards _ (List.mem_of_getElem? valid.shardAt)
  have shards :
      ∀ shard ∈ (target.verify evidence).session.shards, shard.Sound :=
    every_set settling.shards
      ⟨fun _ => arrived, (congrArg UInt64.toNat exact_).le⟩
  have declared :
      declaredBytes (target.verify evidence).session.shards =
        declaredBytes target.focus.session.shards :=
    shardTotal_set_same valid.shardAt rfl
  have moved :
      checkedBytes (target.verify evidence).session.shards +
          target.shard.verifiedBytes.toNat =
        checkedBytes target.focus.session.shards +
          evidence.verifiedBytes.toNat :=
    shardTotal_set valid.shardAt _
  have within :
      checkedBytes (target.verify evidence).session.shards ≤
        declaredBytes (target.verify evidence).session.shards :=
    List.sum_le_sum (fun shard member => (shards shard member).checked)
  have grows := own.checked
  have total := settling.declared
  have admitted := settling.admitted
  have bounded := target.focus.session.request.manifest.totalBytes.toNat_lt
  have summed := settling.summed open_
  have reported := congrArg UInt64.toNat exact_
  have raised :
      (target.verify evidence).session.verifiedBytes.toNat =
        checkedBytes (target.verify evidence).session.shards := by
    have delta := Word.toNat_monus evidence.verifiedBytes
      target.shard.verifiedBytes
    change UInt64.toNat (target.focus.session.verifiedBytes + ite _ _ _) = _
    rw [Word.toNat_add_of_lt (by omega), delta]
    omega
  refine ⟨shards, declared.trans total, admitted, ?_, fun _ => raised,
    fun _ => settling.exact_ open_, ?_, settling.resumable⟩
  · rw [raised]
    change _ ≤ target.focus.session.admittedBytes.toNat
    omega
  · intro _ terminal
    have active : isTerminal target.focus.session.state = true := terminal
    rw [valid.active] at active
    cases active

theorem EvidenceTarget.truncate_settling
    (valid : target.Valid)
    (tallied : target.focus.session.Tallied)
    (settling : target.focus.session.Settling evicting)
    (fits :
      target.focus.session.admittedBytes.toNat +
        target.shard.transferredBytes.toNat < 2 ^ 64) :
    target.truncate.session.Settling evicting := by
  have sound := settling.shards _ (List.mem_of_getElem? valid.shardAt)
  have kept := target.truncate_accounted valid tallied
  rw [EvidenceTarget.truncate_session] at kept ⊢
  refine settling.of_set valid.active valid.shardAt rfl rfl ?_ rfl
    ⟨by simp, sound.checked⟩ rfl rfl kept valid.active rfl
  dsimp only
  rw [Word.toNat_add_of_lt fits]
  omega

/-- A report of ambiguity leaves sound shards. -/
theorem AttemptTarget.blurredShards_sound
    {target : AttemptTarget}
    (sound : ∀ shard ∈ target.focus.session.shards, shard.Sound) :
    (∀ shard ∈ target.blurredShards, shard.Sound) ∧
      declaredBytes target.blurredShards =
        declaredBytes target.focus.session.shards ∧
      checkedBytes target.blurredShards =
        checkedBytes target.focus.session.shards := by
  rcases target.blurredShards_eq with same |
    ⟨position, shard, at_, _, _, _, same⟩
  · rw [same]
    exact ⟨sound, rfl, rfl⟩
  · rw [same]
    refine ⟨every_set sound ?_, shardTotal_set_same at_ rfl,
      shardTotal_set_same at_ rfl⟩
    exact (sound _ (List.mem_of_getElem? at_)).of_same (by simp) rfl rfl rfl

theorem isTerminal_elim
    {state : SessionState} {Goal : Prop}
    (active : isTerminal state = false) (terminal : isTerminal state = true) :
    Goal := by
  rw [active] at terminal
  cases terminal

theorem Change.settling
    {before after : Focus}
    (change : Change (settlementPermits evicting) before after)
    (tallied : before.session.Tallied)
    (settling : before.session.Settling evicting)
    (contracted :
      before.session.request.workload ∈ before.engine.contracts)
    (covers :
      before.session.admittedBytes.toNat ≤
        before.engine.accounting.bytesAdmitted.toNat) :
    after.session.Settling evicting := by
  cases change with
  | annotate _ _ noted =>
      rw [noted.session]
      exact settling.of_same rfl le_rfl rfl rfl (fun open_ => ⟨open_, rfl⟩)
        settling.settled settling.resumable
  | withdraw _ _ active =>
      exact settling.of_same rfl le_rfl rfl rfl
        (fun _ => ⟨discards_of_active active, rfl⟩)
        (fun _ => isTerminal_elim rfl) settling.resumable
  | unprove _ bytes =>
      refine settling.of_same rfl le_rfl rfl rfl
        (fun open_ => ⟨open_, before.markUnproven_accounted bytes tallied⟩)
        ?_ settling.resumable
      intro evicted terminal
      have empty := settling.settled evicted terminal
      have lowered := (before.markUnproven_toNat bytes).1
      rw [empty] at lowered
      rw [← UInt64.toNat_inj, lowered]
      exact Nat.zero_sub _
  | cancelOutstanding =>
      exact settling.of_same rfl le_rfl rfl rfl
        (fun open_ => ⟨open_,
          before.settleOutstandingAsCancelled_accounted tallied⟩)
        (fun _ _ => rfl) settling.resumable
  | rearm _ _ active =>
      refine settling.of_shards rfl le_rfl rfl ?_ ?_ ?_
        (fun _ => ⟨discards_of_active active, rfl⟩) (fun _ => isTerminal_elim rfl)
        settling.resumable
      · intro shard member
        rcases List.mem_map.mp member with ⟨earlier, known, rfl⟩
        exact rearmShard_sound (settling.shards earlier known)
      · refine shardTotal_map ?_
        intro shard
        unfold Focus.rearmShard
        split <;> rfl
      · refine shardTotal_map ?_
        intro shard
        unfold Focus.rearmShard
        split <;> rfl
  | close _ _ _ _ _ discarded _ settled =>
      exact Focus.closeAs_settling _ _ _ _ discarded settling rfl le_rfl rfl
        settling.shards rfl rfl (fun _ => settled) rfl
  | closeAbandoned _ _ _ _ _ settled =>
      exact Focus.closeAs_settling _ _ _ _ rfl settling rfl le_rfl rfl
        settling.shards rfl rfl (fun _ => settled.resolve_right
          (fun unknown => AList.lookup_eq_none.mp unknown contracted)) rfl
  | closeMismatched _ _ _ _ valid permitted =>
      have sound := settling.shards _ (List.mem_of_getElem? valid.shardAt)
      exact Focus.closeAs_settling _ _ _ _ rfl settling rfl le_rfl rfl
        (every_set settling.shards (sound.of_same (by simp) rfl rfl rfl))
        (shardTotal_set_same valid.shardAt rfl)
        (shardTotal_set_same valid.shardAt rfl) permitted rfl
  | postpone _ _ stale =>
      refine settling.of_same rfl le_rfl rfl rfl (fun _ => ⟨?_, rfl⟩)
        (fun _ => isTerminal_elim rfl) settling.resumable
      rcases stale with state | state <;> rw [state] <;> rfl
  | unreserve =>
      rw [Focus.releasePathReservation_session]
      exact settling.of_same rfl le_rfl rfl rfl (fun open_ => ⟨open_, rfl⟩)
        settling.settled settling.resumable
  | renew _ _ _ _ _ stale =>
      refine settling.of_same rfl le_rfl rfl rfl (fun _ => ⟨?_, rfl⟩)
        (fun _ => isTerminal_elim rfl) settling.resumable
      rcases stale with state | state <;> rw [state] <;> rfl
  | suspend _ active =>
      exact settling.of_same rfl le_rfl rfl rfl
        (fun _ => ⟨discards_of_active active, rfl⟩)
        (fun _ => isTerminal_elim rfl) active
  | reinstate _ paused =>
      exact settling.of_same rfl le_rfl rfl rfl
        (fun _ => ⟨tallied.open_of_paused paused, rfl⟩)
        (fun _ => isTerminal_elim settling.resumable) settling.resumable
  | charge _ _ _ _ grantable =>
      have sound :=
        settling.shards _ (List.mem_of_getElem? grantable.shardAt)
      refine settling.of_set grantable.active grantable.shardAt rfl rfl
        le_rfl rfl (sound.of_same (by simp) rfl rfl rfl) rfl rfl rfl ?_ rfl
      dsimp only [ShardTarget.charge, ShardTarget.grantedSession]
      split
      · rfl
      · exact grantable.active
  | flagSource _ _ valid =>
      have sound := settling.shards _ (List.mem_of_getElem? valid.shardAt)
      refine settling.of_set valid.active valid.shardAt rfl rfl le_rfl rfl
        (sound.of_same ?_ rfl rfl rfl) rfl rfl rfl valid.active rfl
      intro reached
      dsimp only at reached
      split at reached
      · simp at reached
      · exact reached
  | sight =>
      exact settling.of_same rfl le_rfl rfl rfl (fun open_ => ⟨open_, rfl⟩)
        settling.settled settling.resumable
  | acknowledge target evidence now valid _ _ funded =>
      exact target.acknowledge_settling valid tallied settling evidence now
        funded
  | verify target _ valid _ exact_ permitted =>
      exact target.verify_settling valid settling exact_ permitted
  | truncate target valid permitted =>
      refine target.truncate_settling valid tallied settling ?_
      have fits : target.focus.engine.accounting.bytesAdmitted.toNat +
        target.shard.transferredBytes.toNat < 2 ^ 64 := permitted
      omega
  | blurShard _ valid =>
      have sound := settling.shards _ (List.mem_of_getElem? valid.shardAt)
      rw [EvidenceTarget.blur_session]
      exact settling.of_set valid.active valid.shardAt rfl rfl le_rfl rfl
        (sound.of_same (by simp) rfl rfl rfl) rfl rfl rfl valid.active rfl
  | blurAttempt target =>
      rcases target.blurredShards_sound settling.shards with
        ⟨sound, declared, checked⟩
      rw [AttemptTarget.blur_session]
      exact settling.of_shards rfl le_rfl rfl sound declared checked
        (fun open_ => ⟨open_, rfl⟩) settling.settled settling.resumable
  | progress _ active =>
      refine settling.of_same rfl le_rfl rfl rfl
        (fun _ => ⟨discards_of_active active, rfl⟩) (fun _ => isTerminal_elim ?_)
        settling.resumable
      exact before.session.derivedState_active active
  | complete _ _ complete active =>
      have open_ := discards_of_active active
      have empty := settling.outstanding_of_reached tallied open_
        (Focus.reached_of_isComplete complete)
      rw [Focus.completeSession_session]
      refine settling.of_same rfl le_rfl rfl rfl (fun _ => ⟨open_, ?_⟩)
        (fun _ _ => rfl) settling.resumable
      unfold SessionRecord.accountedBytes
      rw [empty]

/-! ## New sessions -/

/-- The checked shards of a manifest add up without wrapping. -/
theorem validateShards_sum
    {totalBytes sum result : UInt64} {previous : Option ShardIndex}
    {shards : List ShardDescriptor}
    (passed : validateShards totalBytes previous sum shards = .ok result) :
    sum.toNat + (shards.map (fun shard => shard.declaredBytes.toNat)).sum =
      result.toNat := by
  induction shards generalizing previous sum with
  | nil =>
      cases passed
      rfl
  | cons _ _ hypothesis =>
      simp only [validateShards, bind_eq_ok, refuseWhen_eq_ok, not_or]
        at passed
      rcases passed with ⟨_, _, _, _, _, ⟨ordered, fits⟩, later⟩
      have orderedNat := UInt64.le_iff_toNat_le.mp (UInt64.not_lt.mp ordered)
      have fitsNat := UInt64.le_iff_toNat_le.mp (UInt64.not_lt.mp fits)
      rw [Word.toNat_sub_of_le orderedNat] at fitsNat
      have bounded := totalBytes.toNat_lt
      have step := hypothesis later
      rw [Word.toNat_add_of_lt (by omega)] at step
      rw [List.map_cons, List.sum_cons]
      omega

theorem validateManifest_sum
    {manifest : CheckpointManifest} {limits : Limits}
    (passed : validateManifest manifest limits = .ok ()) :
    (manifest.shards.map (fun shard => shard.declaredBytes.toNat)).sum =
      manifest.totalBytes.toNat := by
  simp only [validateManifest, bind_eq_ok, refuseWhen_eq_ok, ne_eq,
    not_not] at passed
  rcases passed with
    ⟨_, _, _, _, _, _, _, _, _, _, _, _, _, _, _, _, sum, summed, _, same, _⟩
  rw [← same, ← validateShards_sum summed]
  exact (Nat.zero_add _).symm

theorem SessionRecord.Admitted.settling
    (admitted : session.Admitted) :
    session.Settling evicting := by
  rcases admitted with ⟨engine, now, request, plan, admissible, rfl⟩
  have declared :
      declaredBytes (request.manifest.shards.map (admittedShard plan.path)) =
        request.manifest.totalBytes.toNat := by
    unfold declaredBytes shardTotal
    rw [List.map_map]
    exact validateManifest_sum admissible.manifest
  have unchecked :
      checkedBytes (request.manifest.shards.map (admittedShard plan.path)) =
        0 := by
    unfold checkedBytes shardTotal
    rw [List.map_map]
    exact List.sum_eq_zero (by simp [admittedShard])
  refine ⟨?_, declared, le_rfl, Nat.zero_le _, fun _ => unchecked.symm, ?_,
    fun _ => isTerminal_elim rfl, rfl⟩
  · intro shard member
    rcases List.mem_map.mp member with ⟨descriptor, _, rfl⟩
    exact ⟨by simp [admittedShard], Nat.zero_le _⟩
  · intro _
    change 0 + 0 + request.manifest.totalBytes.toNat + 0 =
      request.manifest.totalBytes.toNat
    omega

end TrafficFabric
