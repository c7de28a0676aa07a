import TrafficFabric.Engine.Attempts
import TrafficFabric.Engine.Ledger

/-!
# Verified bytes

A shard counts as verified only when all its declared bytes were transferred,
and no session counts more verified than transferred bytes, provided that
verification is reported for complete shards and truncation for unverified
ones.
-/

namespace TrafficFabric

open Foundation

variable {shard : ShardRecord} {target : EvidenceTarget} {now : Nanos}

/-- The bytes verified for the shards of a list. -/
abbrev checkedBytes (shards : List ShardRecord) : Nat :=
  shardTotal (fun shard => shard.verifiedBytes) shards

/-- A verified shard was transferred and verified as a whole. -/
def ShardRecord.Certified (shard : ShardRecord) : Prop :=
  shard.state = .verified ∨ shard.verifiedBytes ≠ 0 →
    shard.verifiedBytes = shard.declaredBytes ∧
      shard.transferredBytes = shard.declaredBytes

theorem ShardRecord.Certified.of_same
    {other : ShardRecord} (certified : shard.Certified)
    (state : other.state = .verified → shard.state = .verified)
    (declared : other.declaredBytes = shard.declaredBytes)
    (transferred : other.transferredBytes = shard.transferredBytes)
    (verified : other.verifiedBytes = shard.verifiedBytes) :
    other.Certified := by
  unfold ShardRecord.Certified
  rw [declared, transferred, verified]
  intro settled
  exact certified (settled.imp_left state)

/-- A certified shard has verified at most what arrived. -/
theorem ShardRecord.Certified.le
    (certified : shard.Certified) :
    shard.verifiedBytes.toNat ≤ shard.transferredBytes.toNat := by
  by_cases zero : shard.verifiedBytes = 0
  · rw [zero]
    exact Nat.zero_le _
  · rcases certified (.inr zero) with ⟨verified, transferred⟩
    rw [verified, transferred]

theorem checkedBytes_le
    {shards : List ShardRecord}
    (certified : ∀ shard ∈ shards, shard.Certified) :
    checkedBytes shards ≤ arrivedBytes shards :=
  List.sum_le_sum (fun shard member => (certified shard member).le)

/-- The shards of a session are certified, and its verified bytes are theirs
until the session is discarded. -/
structure SessionRecord.Certified (session : SessionRecord) : Prop where
  shards : ∀ shard ∈ session.shards, shard.Certified
  summed :
    discards session.state = false →
      session.verifiedBytes.toNat = checkedBytes session.shards
  ordered :
    session.verifiedBytes.toNat ≤ session.transferredBytes.toNat
  budgeted : discards session.state = false → session.Budgeted

namespace SessionRecord.Certified

variable {session other : SessionRecord}

/-- Nothing that matters to verification has changed. -/
theorem of_same
    (certified : session.Certified)
    (shards : other.shards = session.shards)
    (attempts : other.attempts = session.attempts)
    (verified : other.verifiedBytes = session.verifiedBytes)
    (transferred : other.transferredBytes = session.transferredBytes)
    (kept : discards other.state = false → discards session.state = false) :
    other.Certified where
  shards := by
    rw [shards]
    exact certified.shards
  summed := by
    rw [shards, verified]
    exact fun open_ => certified.summed (kept open_)
  ordered := by
    rw [verified, transferred]
    exact certified.ordered
  budgeted := fun open_ =>
    (certified.budgeted (kept open_)).of_same attempts shards

/-- A session that is not discarded: the sums over its shards decide. -/
theorem of_sums
    (tallied : other.Tallied) (open_ : discards other.state = false)
    (shards : ∀ shard ∈ other.shards, shard.Certified)
    (summed : other.verifiedBytes.toNat = checkedBytes other.shards)
    (budgeted : other.Budgeted) :
    other.Certified where
  shards := shards
  summed := fun _ => summed
  ordered := by
    rw [summed, tallied.summed open_]
    exact checkedBytes_le shards
  budgeted := fun _ => budgeted

/-- One shard of an active session rewritten, its verified bytes kept. -/
theorem of_set
    (certified : session.Certified) (tallied : other.Tallied)
    (active : isTerminal session.state = false)
    (open_ : discards other.state = false)
    {position : Nat} {newShard : ShardRecord}
    (shardAt : session.shards[position]? = some shard)
    (shards : other.shards = session.shards.set position newShard)
    (new : newShard.Certified)
    (same : newShard.verifiedBytes = shard.verifiedBytes)
    (verified : other.verifiedBytes = session.verifiedBytes)
    (budgeted : other.Budgeted) :
    other.Certified := by
  refine .of_sums tallied open_ ?_ ?_ budgeted
  · rw [shards]
    exact every_set certified.shards new
  · rw [verified, shards]
    exact (certified.summed (discards_of_active active)).trans
      (shardTotal_set_same shardAt same).symm

end SessionRecord.Certified

/-- Closing keeps the shards, and wastes no verified byte. -/
theorem Focus.closeAs_certified
    (focus : Focus) (state : SessionState) (reason : ReasonCode)
    (detail : Text) (now : Nanos) (discarded : discards state = true)
    (shards : ∀ shard ∈ focus.session.shards, shard.Certified)
    (ordered :
      focus.session.verifiedBytes.toNat ≤
        focus.session.transferredBytes.toNat) :
    (focus.closeAs state reason detail now).session.Certified := by
  have wasted := focus.unverified_le state
  rw [Focus.closeAs_session]
  refine ⟨shards, ?_, ?_, ?_⟩
  · intro open_
    rw [discarded] at open_
    cases open_
  · dsimp only
    rw [Word.toNat_sub_of_le wasted]
    unfold Focus.unverified
    split
    · rw [Word.toNat_sub_of_le ordered]
      omega
    · exact ordered
  · intro open_
    rw [discarded] at open_
    cases open_

theorem rearmShard_certified
    (certified : shard.Certified) :
    (Focus.rearmShard shard).Certified := by
  unfold Focus.rearmShard
  split
  · exact certified.of_same (fun wrong => nomatch wrong) rfl rfl rfl
  · exact certified

/-- A report of ambiguity leaves the bytes of the shards alone. -/
theorem AttemptTarget.blurredShards_certified
    {target : AttemptTarget}
    (certified : ∀ shard ∈ target.focus.session.shards, shard.Certified) :
    (∀ shard ∈ target.blurredShards, shard.Certified) ∧
      checkedBytes target.blurredShards =
        checkedBytes target.focus.session.shards ∧
      Stems ShardRecord.Recedes target.focus.session.shards
        target.blurredShards := by
  rcases target.blurredShards_eq with same |
    ⟨position, shard, at_, _, _, _, same⟩
  · rw [same]
    exact ⟨certified, rfl, .refl ShardRecord.Recedes.refl⟩
  · rw [same]
    refine ⟨every_set certified ?_, shardTotal_set_same at_ rfl,
      .set ShardRecord.Recedes.refl at_ ⟨rfl, le_rfl, .inr rfl⟩⟩
    exact (certified _ (List.mem_of_getElem? at_)).of_same
      (fun wrong => nomatch wrong) rfl rfl rfl

/-- Verification is reported for completely transferred shards, truncation
for unverified ones, and grants carry new identities. -/
def verificationPermits : Permits where
  grant := ShardTarget.Unused
  verify := fun target =>
    target.shard.transferredBytes = target.shard.declaredBytes
  truncate := fun target => target.shard.verifiedBytes = 0

theorem verificationPermits_routine : verificationPermits.Routine :=
  { Permits.Routine.free with }

/-- A report for a complete shard verifies what is not verified yet. -/
theorem EvidenceTarget.verify_certified
    (valid : target.Valid)
    (certified : target.focus.session.Certified)
    {evidence : VerificationEvidence}
    (exact_ : evidence.verifiedBytes = target.shard.declaredBytes)
    (complete :
      target.shard.transferredBytes = target.shard.declaredBytes)
    (tallied : (target.verify evidence).session.Tallied) :
    (target.verify evidence).session.Certified := by
  have open_ := discards_of_active valid.active
  have own := certified.shards _ (List.mem_of_getElem? valid.shardAt)
  have shards :
      ∀ shard ∈ (target.verify evidence).session.shards,
        shard.Certified :=
    every_set certified.shards (fun _ => ⟨exact_, complete⟩)
  have grows :
      target.shard.verifiedBytes.toNat ≤ evidence.verifiedBytes.toNat := by
    rw [exact_, ← complete]
    exact own.le
  have moved :
      checkedBytes (target.verify evidence).session.shards +
          target.shard.verifiedBytes.toNat =
        checkedBytes target.focus.session.shards +
          evidence.verifiedBytes.toNat :=
    shardTotal_set valid.shardAt _
  have summed := certified.summed open_
  have arrived := tallied.summed open_
  have bounded :=
    (target.verify evidence).session.transferredBytes.toNat_lt
  have checked := checkedBytes_le shards
  refine .of_sums tallied open_ shards ?_ ?_
  · have delta := Word.toNat_monus evidence.verifiedBytes
      target.shard.verifiedBytes
    change UInt64.toNat (target.focus.session.verifiedBytes + ite _ _ _) = _
    rw [Word.toNat_add_of_lt (by omega), delta]
    omega
  · exact (certified.budgeted open_).of_set valid.attemptAt valid.shardAt
      rfl rfl (.of_same rfl rfl rfl) ⟨rfl, le_rfl, .inr rfl⟩

/-- An acknowledgement reaches an already verified shard only empty. -/
theorem EvidenceTarget.acknowledge_certified
    (valid : target.Valid)
    (talliedBefore : target.focus.session.Tallied)
    (certified : target.focus.session.Certified)
    {evidence : TransferEvidence}
    (within : evidence.arrivedBytes ≤ target.attempt.grantedBytes)
    (grows : target.attempt.deliveredBytes ≤ evidence.arrivedBytes)
    (funded :
      evidence.arrivedBytes - target.attempt.deliveredBytes ≤
        target.focus.session.outstandingBytes)
    (tallied :
      (target.acknowledge evidence
        (evidence.arrivedBytes - target.attempt.deliveredBytes)
          now).session.Tallied) :
    (target.acknowledge evidence
      (evidence.arrivedBytes - target.attempt.deliveredBytes)
        now).session.Certified := by
  have open_ := discards_of_active valid.active
  have own := certified.shards _ (List.mem_of_getElem? valid.shardAt)
  rcases target.acknowledge_budgeted valid talliedBefore
    (certified.budgeted open_) within grows funded now with
    ⟨credited, budgeted⟩
  rw [EvidenceTarget.acknowledge_session] at tallied budgeted ⊢
  refine certified.of_set tallied valid.active open_ valid.shardAt rfl ?_ rfl
    rfl budgeted
  have arrived := budgeted.arrived
    (target.creditedShard evidence
      (evidence.arrivedBytes - target.attempt.deliveredBytes))
    (List.mem_set (List.getElem?_eq_some_iff.mp valid.shardAt).1 _)
  have declared :
      (target.creditedShard evidence
        (evidence.arrivedBytes -
          target.attempt.deliveredBytes)).declaredBytes =
        target.shard.declaredBytes := rfl
  intro settled
  have earlier :
      target.shard.state = .verified ∨ target.shard.verifiedBytes ≠ 0 := by
    refine settled.imp_left ?_
    intro verified
    dsimp only [EvidenceTarget.creditedShard] at verified
    split at verified
    · cases verified
    · exact verified
  rcases own earlier with ⟨verified, complete⟩
  refine ⟨verified, ?_⟩
  rw [← UInt64.toNat_inj, declared]
  rw [declared, credited] at arrived
  rw [credited]
  have whole := congrArg UInt64.toNat complete
  omega

theorem Change.certified
    {before after : Focus}
    (change : Change verificationPermits before after)
    (tallied : before.session.Tallied)
    (certified : before.session.Certified) :
    after.session.Certified := by
  have talliedAfter := change.tallied tallied
  cases change with
  | annotate _ _ noted =>
      rw [noted.session]
      exact certified.of_same rfl rfl rfl rfl (fun open_ => open_)
  | withdraw _ _ active =>
      exact certified.of_same rfl rfl rfl rfl
        (fun _ => discards_of_active active)
  | unprove | cancelOutstanding =>
      exact certified.of_same rfl rfl rfl rfl (fun open_ => open_)
  | rearm _ now active =>
      have open_ := discards_of_active active
      refine .of_sums talliedAfter rfl ?_ ?_
        (Focus.rearm_budgeted (certified.budgeted open_) now)
      · intro shard member
        rcases List.mem_map.mp member with ⟨earlier, known, rfl⟩
        exact rearmShard_certified (certified.shards earlier known)
      · refine (certified.summed open_).trans (Eq.symm ?_)
        refine shardTotal_map ?_
        intro shard
        unfold Focus.rearmShard
        split <;> rfl
  | close _ _ _ _ _ discarded =>
      exact Focus.closeAs_certified _ _ _ _ _ discarded certified.shards
        certified.ordered
  | closeAbandoned =>
      exact Focus.closeAs_certified _ _ _ _ _ rfl certified.shards
        certified.ordered
  | closeMismatched _ _ _ _ valid =>
      refine Focus.closeAs_certified _ _ _ _ _ rfl
        (every_set certified.shards ?_) certified.ordered
      exact (certified.shards _ (List.mem_of_getElem? valid.shardAt)).of_same
        (fun wrong => nomatch wrong) rfl rfl rfl
  | postpone _ _ stale =>
      refine certified.of_same rfl rfl rfl rfl (fun _ => ?_)
      rcases stale with state | state <;> rw [state] <;> rfl
  | unreserve =>
      rw [Focus.releasePathReservation_session]
      exact certified.of_same rfl rfl rfl rfl (fun open_ => open_)
  | renew _ _ _ _ _ stale =>
      refine certified.of_same rfl rfl rfl rfl (fun _ => ?_)
      rcases stale with state | state <;> rw [state] <;> rfl
  | suspend _ active =>
      exact certified.of_same rfl rfl rfl rfl
        (fun _ => discards_of_active active)
  | reinstate _ paused =>
      refine certified.of_same rfl rfl rfl rfl (fun _ => ?_)
      exact tallied.open_of_paused paused
  | charge _ _ _ _ grantable _ permitted =>
      have own := certified.shards _
        (List.mem_of_getElem? grantable.shardAt)
      refine certified.of_set talliedAfter grantable.active ?_
        grantable.shardAt rfl
        (own.of_same (fun wrong => nomatch wrong) rfl rfl rfl) rfl rfl
        (ShardTarget.charge_budgeted grantable permitted
          (certified.budgeted (discards_of_active grantable.active)) _ _)
      dsimp only [ShardTarget.charge, ShardTarget.grantedSession]
      split
      · rfl
      · exact discards_of_active grantable.active
  | flagSource _ _ valid =>
      have open_ := discards_of_active valid.active
      have own := certified.shards _ (List.mem_of_getElem? valid.shardAt)
      refine certified.of_set talliedAfter valid.active open_ valid.shardAt
        rfl (own.of_same ?_ rfl rfl rfl) rfl rfl ?_
      · intro verified
        dsimp only at verified
        split at verified
        · cases verified
        · exact verified
      · refine (certified.budgeted open_).of_stems rfl
          (.refl AttemptRecord.Continues.refl) ?_
        exact .set ShardRecord.Recedes.refl valid.shardAt
          ⟨rfl, le_rfl, .inr rfl⟩
  | sight target evidence now outcome valid within grows =>
      have open_ := discards_of_active valid.active
      have continues :
          target.attempt.Continues
            { target.sighted evidence now with outcome := outcome } :=
        ⟨rfl, rfl, UInt64.le_iff_toNat_le.mp grows,
          fun _ => UInt64.le_iff_toNat_le.mp within⟩
      refine .of_sums talliedAfter open_ certified.shards
        (certified.summed open_) ?_
      exact (certified.budgeted open_).of_stems
        (map_set_same valid.attemptAt rfl)
        (.set AttemptRecord.Continues.refl valid.attemptAt continues)
        (.refl ShardRecord.Recedes.refl)
  | acknowledge target _ _ valid within grows funded =>
      exact target.acknowledge_certified valid tallied certified within grows
        funded talliedAfter
  | verify target _ valid _ exact_ permitted =>
      exact target.verify_certified valid certified exact_ permitted
        talliedAfter
  | truncate target valid permitted =>
      have open_ := discards_of_active valid.active
      have unverified : target.shard.verifiedBytes = 0 := permitted
      rw [EvidenceTarget.truncate_session] at talliedAfter ⊢
      refine certified.of_set talliedAfter valid.active open_ valid.shardAt
        rfl ?_ rfl rfl ?_
      · rintro (wrong | nonzero)
        · cases wrong
        · exact absurd unverified nonzero
      · exact (certified.budgeted open_).of_set valid.attemptAt
          valid.shardAt rfl rfl (.of_same rfl rfl rfl)
          ⟨rfl, Nat.zero_le _, .inl rfl⟩
  | blurShard _ valid =>
      have open_ := discards_of_active valid.active
      have own := certified.shards _ (List.mem_of_getElem? valid.shardAt)
      rw [EvidenceTarget.blur_session] at talliedAfter ⊢
      refine certified.of_set talliedAfter valid.active open_ valid.shardAt
        rfl (own.of_same (fun wrong => nomatch wrong) rfl rfl rfl) rfl rfl ?_
      exact (certified.budgeted open_).of_set valid.attemptAt valid.shardAt
        rfl rfl (.of_same rfl rfl rfl) ⟨rfl, le_rfl, .inr rfl⟩
  | blurAttempt target _ valid =>
      have open_ := discards_of_active valid.active
      rcases target.blurredShards_certified certified.shards with
        ⟨shards, summed, recedes⟩
      rw [AttemptTarget.blur_session] at talliedAfter ⊢
      refine .of_sums talliedAfter open_ shards
        ((certified.summed open_).trans summed.symm) ?_
      exact (certified.budgeted open_).of_stems
        (map_set_same valid.attemptAt rfl)
        (.set AttemptRecord.Continues.refl valid.attemptAt
          (.of_same rfl rfl rfl)) recedes
  | progress _ active =>
      exact certified.of_same rfl rfl rfl rfl
        (fun _ => discards_of_active active)
  | complete _ _ _ active =>
      rw [Focus.completeSession_session]
      exact certified.of_same rfl rfl rfl rfl
        (fun _ => discards_of_active active)

/-! ## Runs -/

/-- Reports of verification concern completely transferred shards, reports of
truncation unverified ones, and the identity the factory yields is new to a
session that asks for credit. -/
def VerificationCondition (engine : Engine) (now : Nanos) : Command → Prop
  | .requestWave id _ fence =>
      ∀ focus, (engine.observe now).creditHolder now id fence = .ok focus →
        ¬ focus.session.Knows ⟨(engine.observe now).idFactory.next.1⟩
  | .reportVerification evidence fence =>
      ∀ target,
        (engine.observe now).verificationTarget evidence fence =
          .ok target →
        (evidence.outcome = .verified → evidence.Matches target.shard →
          target.shard.transferredBytes = target.shard.declaredBytes) ∧
        (evidence.outcome = .truncated → target.shard.verifiedBytes = 0)
  | _ => True

instance (engine : Engine) (now : Nanos) :
    ∀ command, Decidable (VerificationCondition engine now command) := by
  intro command
  apply @Command.casesOn
      (fun command => Decidable (VerificationCondition engine now command)) command <;>
    intros <;> unfold VerificationCondition <;> infer_instance

/-- The target of a request for credit is a shard of the session that asked. -/
theorem Engine.waveTarget_unused
    {engine : Engine} {id : SessionId} {index : ShardIndex}
    {fence : CommandFence} {focus : Focus} {target : ShardTarget}
    (passed : engine.creditHolder now id fence = .ok focus)
    (found : Engine.waveTarget focus index fence = .ok target)
    (unknown : ¬ focus.session.Knows ⟨engine.idFactory.next.1⟩) :
    target.Unused := by
  have holds := (Engine.creditHolder_ok passed).1
  have same := (Engine.waveTarget_ok found).1
  unfold ShardTarget.Unused
  rw [same, holds.engine]
  exact unknown

theorem verificationPermits_allow
    (engine : Engine) (now : Nanos) (command : Command)
    (ordinary : ∀ snapshot, command ≠ .restore snapshot)
    (condition : VerificationCondition engine now command) :
    verificationPermits.Allow engine now command := by
  refine Permits.Grounds.allow ?_ ordinary
  exact { Permits.Grounds.free engine now command with
    grant := by
      rintro id index fence focus target rfl passed _ found
      exact Engine.waveTarget_unused passed found (condition focus passed)
    verify := by
      rintro evidence fence target rfl passed
      exact (condition target passed).1
    truncate := by
      rintro evidence fence target rfl passed
      exact (condition target passed).2 }

theorem SessionRecord.Admitted.certified
    {session : SessionRecord} (admitted : session.Admitted) :
    session.Certified := by
  have tallied := admitted.tallied
  rcases admitted with ⟨engine, now, request, plan, _, rfl⟩
  have shards :
      ∀ shard ∈ (engine.newSession now request plan).shards,
        ∃ descriptor, shard = admittedShard plan.path descriptor := by
    intro shard member
    rcases List.mem_map.mp member with ⟨descriptor, _, rfl⟩
    exact ⟨descriptor, rfl⟩
  refine .of_sums tallied rfl ?_ ?_ ⟨?_, ?_, ?_, ?_⟩
  · intro shard member
    rcases shards shard member with ⟨descriptor, rfl⟩
    rintro (wrong | wrong)
    · cases wrong
    · exact absurd rfl wrong
  · change 0 = shardTotal _ (request.manifest.shards.map _)
    unfold shardTotal
    rw [List.map_map]
    exact (List.sum_eq_zero (by simp [admittedShard])).symm
  · exact List.nodup_nil
  · intro attempt member
    cases member
  · intro shard member
    rcases shards shard member with ⟨descriptor, rfl⟩
    exact Nat.zero_le _
  · intro shard _ attempt member
    cases member

/-- Along runs that meet the condition, a verified shard was transferred and
verified as a whole, and no session counts more verified than transferred
bytes. -/
theorem verified_shards_are_complete
    {config : EngineConfig} {boot : Nanos} {history : List Event}
    {engine : Engine}
    (run :
      ConditionedRun VerificationCondition config boot history engine) :
    ∀ id session, engine.sessions.lookup id = some session →
      (∀ shard ∈ session.shards, shard.state = .verified →
        shard.transferredBytes = shard.declaredBytes ∧
          shard.verifiedBytes = shard.declaredBytes) ∧
      session.verifiedBytes ≤ session.transferredBytes := by
  intro id session found
  have invariant := @ConditionedRun.sessions _ verificationPermits
    (fun session => session.Tallied ∧ session.Certified)
    verificationPermits_routine verificationPermits_allow
    (fun before after change holds =>
      ⟨change.tallied holds.1, change.certified holds.1 holds.2⟩)
    (fun session admitted => ⟨admitted.tallied, admitted.certified⟩)
    _ _ _ _ run id session found
  refine ⟨?_, UInt64.le_iff_toNat_le.mpr invariant.2.ordered⟩
  intro shard member verified
  exact (invariant.2.shards shard member (.inl verified)).symm

/-- One shard of two bytes is granted, `bytes` of it arrive, and two bytes are
reported as verified. -/
def deliveryScript (bytes : UInt64) : List (Nanos × Command) :=
  [(1, .submitSession (Sample.request 2 [2]) (Sample.fence 1)),
    (2, .requestWave ⟨Sample.drawn 0⟩ ⟨0⟩ (Sample.fence 1)),
    (3, .reportTransfer (Sample.arrival 1 1 0 bytes) (Sample.fence 1)),
    (4, .reportVerification (Sample.verdict 1 1 0 2 .verified)
      (Sample.fence 1))]

theorem verifiedScripts_evaluated :
    (ScriptMeets VerificationCondition (Engine.construct Sample.config 0)
         (deliveryScript 2) ∧
       (((Engine.construct Sample.config 0).executeAll
         (deliveryScript 2)).2.sessions.lookup ⟨Sample.drawn 0⟩).map
           (fun session => session.shards.map (fun shard => shard.state)) =
         some [.verified]) ∧
      ((((Engine.construct Sample.config 0).executeAll
         (deliveryScript 1)).2.sessions.lookup ⟨Sample.drawn 0⟩).any
           (fun session =>
             session.shards.any (fun shard =>
               shard.state = .verified ∧
                 shard.transferredBytes < shard.declaredBytes) ∧
               session.transferredBytes < session.verifiedBytes) = true) := by
  decide +kernel

/-- A delivery of both bytes meets the condition and ends with a verified
shard. -/
theorem verified_shards_are_complete_on_delivery :
    let engine :=
      ((Engine.construct Sample.config 0).executeAll (deliveryScript 2)).2
    (engine.sessions.lookup ⟨Sample.drawn 0⟩).map
        (fun session => session.shards.map (fun shard => shard.state)) =
      some [.verified] ∧
      ∀ id session, engine.sessions.lookup id = some session →
        (∀ shard ∈ session.shards, shard.state = .verified →
          shard.transferredBytes = shard.declaredBytes ∧
            shard.verifiedBytes = shard.declaredBytes) ∧
        session.verifiedBytes ≤ session.transferredBytes :=
  have evaluated := verifiedScripts_evaluated.1
  ⟨evaluated.2, verified_shards_are_complete
    (Engine.executeAll_conditioned _ evaluated.1)⟩

/-- When one of two bytes has arrived, the shard is verified all the same. -/
theorem partial_shard_is_verified :
    ∃ history engine session shard,
      EngineRun Sample.config 0 history engine ∧
        (∀ event ∈ history, event.restores = false) ∧
        engine.sessions.lookup ⟨Sample.drawn 0⟩ = some session ∧
        shard ∈ session.shards ∧ shard.state = .verified ∧
        shard.transferredBytes < shard.declaredBytes ∧
        session.transferredBytes < session.verifiedBytes := by
  have reached := verifiedScripts_evaluated.2
  rcases (Option.any_eq_true _ _).mp reached with ⟨session, found, counted⟩
  rw [decide_eq_true_iff, List.any_eq_true] at counted
  rcases counted with ⟨⟨shard, member, verified⟩, exceeded⟩
  rw [decide_eq_true_iff] at verified
  refine ⟨_, _, session, shard, Engine.executeAll_run _ (deliveryScript 1),
    ?_, found, member, verified.1, verified.2, exceeded⟩
  simp [Engine.executeAll, deliveryScript, Event.restores]

end TrafficFabric
