import TrafficFabric.Engine.Tally

/-!
# Byte conservation

Every byte the fabric ever admitted is transferred, wasted, cancelled,
unproven or still outstanding.  A change of one session moves bytes in the
aggregate as it moves them in the session, so the aggregate always covers the
sessions and no subtraction goes below zero.
-/

namespace TrafficFabric

open Foundation

variable {before after focus : Focus} {target : EvidenceTarget}

/-- Every admitted byte is counted exactly once. -/
def AccountingSnapshot.Conserved (accounting : AccountingSnapshot) : Prop :=
  accounting.bytesAdmitted.toNat =
    accounting.bytesTransferred.toNat + accounting.bytesWasted.toNat +
      accounting.bytesCancelled.toNat + accounting.bytesUnproven.toNat +
      accounting.grantedOutstandingBytes.toNat

/-! ## One change -/

/-- The aggregate covers the held session. -/
structure Focus.Covered (focus : Focus) : Prop where
  covers :
    ∀ bucket, bucket ≠ .verified →
      (focus.session.bytesIn bucket).toNat ≤
        (focus.engine.accounting.bytesIn bucket).toNat
  conserved : focus.engine.accounting.Conserved

/-- The aggregate moves as the session does; only a completion may drop
outstanding bytes of the session. -/
structure Balanced (before after : Focus) : Prop where
  moved :
    ∀ bucket, bucket ≠ .verified →
      (after.engine.accounting.bytesIn bucket).toNat +
            (before.session.bytesIn bucket).toNat =
          (before.engine.accounting.bytesIn bucket).toNat +
            (after.session.bytesIn bucket).toNat ∨
        (bucket = .outstanding ∧ before.isComplete = true ∧
          isTerminal before.session.state = false ∧
          (after.engine.accounting.bytesIn bucket).toNat =
            (before.engine.accounting.bytesIn bucket).toNat ∧
          (after.session.bytesIn bucket).toNat = 0)
  conserved : after.engine.accounting.Conserved
  underflow : after.engine.underflow = before.engine.underflow

/-- Equal byte counts are conserved alike. -/
theorem AccountingSnapshot.Conserved.of_same
    {accounting other : AccountingSnapshot} (conserved : accounting.Conserved)
    (same :
      ∀ bucket, bucket ≠ .verified →
        other.bytesIn bucket = accounting.bytesIn bucket) :
    other.Conserved := by
  have admitted : other.bytesAdmitted = accounting.bytesAdmitted :=
    same .admitted (by decide)
  have transferred : other.bytesTransferred = accounting.bytesTransferred :=
    same .transferred (by decide)
  have wasted : other.bytesWasted = accounting.bytesWasted :=
    same .wasted (by decide)
  have cancelled : other.bytesCancelled = accounting.bytesCancelled :=
    same .cancelled (by decide)
  have unproven : other.bytesUnproven = accounting.bytesUnproven :=
    same .unproven (by decide)
  have outstanding :
      other.grantedOutstandingBytes = accounting.grantedOutstandingBytes :=
    same .outstanding (by decide)
  unfold AccountingSnapshot.Conserved
  rw [admitted, transferred, wasted, cancelled, unproven, outstanding]
  exact conserved

/-- A change that moves no byte, except that bytes may be verified. -/
theorem Balanced.of_same
    (covered : before.Covered)
    (aggregate :
      ∀ bucket, bucket ≠ .verified →
        after.engine.accounting.bytesIn bucket =
          before.engine.accounting.bytesIn bucket)
    (session :
      ∀ bucket, bucket ≠ .verified →
        after.session.bytesIn bucket = before.session.bytesIn bucket)
    (underflow : after.engine.underflow = before.engine.underflow) :
    Balanced before after where
  moved := by
    intro bucket counted
    left
    rw [aggregate bucket counted, session bucket counted]
  conserved := covered.conserved.of_same aggregate
  underflow := underflow

/-- The watched subtractions do not go below zero. -/
theorem Engine.watch_underflow
    {engine : Engine} {minuend subtrahend : UInt64}
    (fits : subtrahend.toNat ≤ minuend.toNat) :
    (engine.watch minuend subtrahend).underflow = engine.underflow := by
  have ordered : ¬ minuend < subtrahend := by
    rw [UInt64.lt_iff_toNat_lt]
    omega
  simp [Engine.watch, ordered]

theorem Focus.markUnproven_balanced
    (bytes : UInt64) (covered : focus.Covered)
    (tallied : focus.session.Tallied) :
    Balanced focus (focus.markUnproven bytes) := by
  rcases focus.markUnproven_toNat bytes with ⟨lowered, raised⟩
  have bounded := tallied.bounded
  have covers : focus.session.outstandingBytes.toNat ≤
      focus.engine.accounting.grantedOutstandingBytes.toNat :=
    covered.covers .outstanding (by decide)
  have conserved := covered.conserved
  have admitted := focus.engine.accounting.bytesAdmitted.toNat_lt
  have clamped := Word.toNat_min bytes focus.session.outstandingBytes
  unfold AccountingSnapshot.Conserved at conserved
  have fits :
      (min bytes focus.session.outstandingBytes).toNat ≤
        focus.engine.accounting.grantedOutstandingBytes.toNat := by
    omega
  have grows :
      focus.engine.accounting.bytesUnproven.toNat +
        (min bytes focus.session.outstandingBytes).toNat < 2 ^ 64 := by
    omega
  have aggregateLowered :
      (focus.markUnproven
        bytes).engine.accounting.grantedOutstandingBytes.toNat =
        focus.engine.accounting.grantedOutstandingBytes.toNat -
          min bytes.toNat focus.session.outstandingBytes.toNat := by
    rw [← clamped]
    exact Word.toNat_sub_of_le fits
  have aggregateRaised :
      (focus.markUnproven bytes).engine.accounting.bytesUnproven.toNat =
        focus.engine.accounting.bytesUnproven.toNat +
          min bytes.toNat focus.session.outstandingBytes.toNat := by
    rw [← clamped]
    exact Word.toNat_add_of_lt grows
  have sessionRaised := raised (by omega)
  refine ⟨?_, ?_, ?_⟩
  · intro bucket counted
    left
    cases bucket with
    | outstanding | unproven =>
        dsimp only [AccountingSnapshot.bytesIn, SessionRecord.bytesIn]
        omega
    | _ => rfl
  · unfold AccountingSnapshot.Conserved
    rw [aggregateLowered, aggregateRaised]
    dsimp only [Focus.markUnproven, Engine.book, Engine.watch]
    omega
  · exact Engine.watch_underflow fits

theorem Focus.settleOutstandingAsCancelled_balanced
    (covered : focus.Covered)
    (tallied : focus.session.Tallied) :
    Balanced focus focus.settleOutstandingAsCancelled := by
  have bounded := tallied.bounded
  have fits : focus.session.outstandingBytes.toNat ≤
      focus.engine.accounting.grantedOutstandingBytes.toNat :=
    covered.covers .outstanding (by decide)
  have conserved := covered.conserved
  have admitted := focus.engine.accounting.bytesAdmitted.toNat_lt
  unfold AccountingSnapshot.Conserved at conserved
  have grows :
      focus.engine.accounting.bytesCancelled.toNat +
        focus.session.outstandingBytes.toNat < 2 ^ 64 := by
    omega
  have aggregateLowered :
      focus.settleOutstandingAsCancelled.engine.accounting.grantedOutstandingBytes.toNat =
        focus.engine.accounting.grantedOutstandingBytes.toNat -
          focus.session.outstandingBytes.toNat :=
    Word.toNat_sub_of_le fits
  have aggregateRaised :
      focus.settleOutstandingAsCancelled.engine.accounting.bytesCancelled.toNat =
        focus.engine.accounting.bytesCancelled.toNat +
          focus.session.outstandingBytes.toNat :=
    Word.toNat_add_of_lt grows
  have sessionRaised :
      focus.settleOutstandingAsCancelled.session.cancelledBytes.toNat =
        focus.session.cancelledBytes.toNat +
          focus.session.outstandingBytes.toNat :=
    Word.toNat_add_of_lt (by omega)
  have sessionLowered :
      focus.settleOutstandingAsCancelled.session.outstandingBytes.toNat =
        0 := rfl
  refine ⟨?_, ?_, Engine.watch_underflow fits⟩
  · intro bucket counted
    left
    cases bucket with
    | outstanding | cancelled =>
        dsimp only [AccountingSnapshot.bytesIn, SessionRecord.bytesIn]
        omega
    | _ => rfl
  · unfold AccountingSnapshot.Conserved
    rw [aggregateLowered, aggregateRaised]
    dsimp only [Focus.settleOutstandingAsCancelled, Engine.book,
      Engine.watch]
    omega

/-! ## Settlement -/

theorem Focus.noteTerminal_bytes (focus : Focus) (bucket : Bucket) :
    focus.noteTerminal.engine.accounting.bytesIn bucket =
      focus.engine.accounting.bytesIn bucket := by
  cases bucket <;> rfl

theorem Focus.retire_bytes (focus : Focus) (bucket : Bucket) :
    focus.retire.engine.accounting.bytesIn bucket =
      focus.engine.accounting.bytesIn bucket := by
  unfold Focus.retire
  split
  · rfl
  · exact focus.noteTerminal_bytes bucket

theorem Focus.retire_underflow (focus : Focus) :
    focus.retire.engine.underflow = focus.engine.underflow := by
  unfold Focus.retire
  split <;> rfl

/-- A settlement wastes the discarded bytes and counts nothing else. -/
theorem Focus.closeAs_bytes
    (focus : Focus) (state : SessionState) (reason : ReasonCode)
    (detail : Text) (now : Nanos) (bucket : Bucket) :
    (focus.closeAs state reason detail
        now).engine.accounting.bytesIn bucket =
      match bucket with
      | .transferred =>
          focus.engine.accounting.bytesTransferred - focus.unverified state
      | .wasted =>
          focus.engine.accounting.bytesWasted + focus.unverified state
      | other => focus.engine.accounting.bytesIn other := by
  unfold Focus.closeAs
  dsimp only
  rw [(Focus.releasePathReservation_accounting _).1]
  dsimp only [Focus.touch, Focus.settleReason, Focus.revise]
  rw [Focus.retire_bytes]
  cases bucket <;> rfl

theorem Focus.closeAs_underflow
    (focus : Focus) (state : SessionState) (reason : ReasonCode)
    (detail : Text) (now : Nanos) :
    (focus.closeAs state reason detail now).engine.underflow =
      (focus.engine.watch focus.engine.accounting.bytesTransferred
        (focus.unverified state)).underflow := by
  unfold Focus.closeAs
  dsimp only
  rw [(Focus.releasePathReservation_accounting _).2]
  dsimp only [Focus.touch, Focus.settleReason, Focus.revise]
  rw [Focus.retire_underflow]
  rfl

/-- A focus whose session and counters agree with another's is covered. -/
theorem Focus.Covered.of_same
    {other : Focus} (covered : focus.Covered)
    (engine : other.engine = focus.engine)
    (session :
      ∀ bucket, other.session.bytesIn bucket = focus.session.bytesIn bucket) :
    other.Covered where
  covers := by
    intro bucket counted
    rw [engine, session]
    exact covered.covers bucket counted
  conserved := by
    rw [engine]
    exact covered.conserved

/-- Closing is balanced, also when marks were made on the session before. -/
theorem Focus.closeAs_balanced
    (state : SessionState) (reason : ReasonCode)
    (detail : Text) (now : Nanos) (coveredBefore : before.Covered)
    (engine : focus.engine = before.engine)
    (session :
      ∀ bucket,
        focus.session.bytesIn bucket = before.session.bytesIn bucket) :
    Balanced before (focus.closeAs state reason detail now) := by
  have covered := coveredBefore.of_same engine session
  have wasted := focus.unverified_le state
  have coversTransferred : focus.session.transferredBytes.toNat ≤
      focus.engine.accounting.bytesTransferred.toNat :=
    covered.covers .transferred (by decide)
  have coversWasted : focus.session.wastedBytes.toNat ≤
      focus.engine.accounting.bytesWasted.toNat :=
    covered.covers .wasted (by decide)
  have conserved := covered.conserved
  have admitted := focus.engine.accounting.bytesAdmitted.toNat_lt
  unfold AccountingSnapshot.Conserved at conserved
  have bytes := focus.closeAs_bytes state reason detail now
  have aggregateLowered := congrArg UInt64.toNat (bytes .transferred)
  have aggregateRaised := congrArg UInt64.toNat (bytes .wasted)
  dsimp only at aggregateLowered aggregateRaised
  rw [Word.toNat_sub_of_le (by omega)] at aggregateLowered
  rw [Word.toNat_add_of_lt (by omega)] at aggregateRaised
  refine ⟨?_, ?_, ?_⟩
  · intro bucket counted
    left
    rw [← engine, ← session, Focus.closeAs_session]
    cases bucket with
    | transferred =>
        rw [aggregateLowered]
        dsimp only [AccountingSnapshot.bytesIn, SessionRecord.bytesIn]
        rw [Word.toNat_sub_of_le (by omega)]
        omega
    | wasted =>
        rw [aggregateRaised]
        dsimp only [AccountingSnapshot.bytesIn, SessionRecord.bytesIn]
        rw [Word.toNat_add_of_lt (by omega)]
        omega
    | _ =>
        rw [bytes]
        rfl
  · have sameAdmitted := congrArg UInt64.toNat (bytes .admitted)
    have sameCancelled := congrArg UInt64.toNat (bytes .cancelled)
    have sameUnproven := congrArg UInt64.toNat (bytes .unproven)
    have sameOutstanding := congrArg UInt64.toNat (bytes .outstanding)
    dsimp only [AccountingSnapshot.bytesIn] at *
    unfold AccountingSnapshot.Conserved
    omega
  · rw [Focus.closeAs_underflow, ← engine]
    exact Engine.watch_underflow (by omega)

/-! ## Evidence -/

theorem Focus.dropActiveAttempt_bytes (focus : Focus) (bucket : Bucket) :
    focus.dropActiveAttempt.engine.accounting.bytesIn bucket =
        focus.engine.accounting.bytesIn bucket ∧
      focus.dropActiveAttempt.engine.underflow =
        focus.engine.underflow := by
  unfold Focus.dropActiveAttempt
  split
  · cases bucket <;> exact ⟨rfl, rfl⟩
  · exact ⟨rfl, rfl⟩

namespace EvidenceTarget

theorem acknowledge_bytes
    (target : EvidenceTarget) (evidence : TransferEvidence)
    (newlyDelivered : UInt64) (now : Nanos) (bucket : Bucket) :
    (target.acknowledge evidence newlyDelivered
        now).engine.accounting.bytesIn bucket =
      match bucket with
      | .outstanding =>
          target.focus.engine.accounting.grantedOutstandingBytes -
            min newlyDelivered
              target.focus.engine.accounting.grantedOutstandingBytes
      | .transferred =>
          target.focus.engine.accounting.bytesTransferred + newlyDelivered
      | other => target.focus.engine.accounting.bytesIn other := by
  unfold acknowledge
  dsimp only
  rw [(Focus.dropActiveAttempt_bytes _ bucket).1]
  cases bucket <;> rfl

theorem acknowledge_underflow
    (target : EvidenceTarget) (evidence : TransferEvidence)
    (newlyDelivered : UInt64) (now : Nanos) :
    (target.acknowledge evidence newlyDelivered now).engine.underflow =
      target.focus.engine.underflow := by
  unfold acknowledge
  dsimp only
  rw [(Focus.dropActiveAttempt_bytes _ .admitted).2]
  rfl

theorem acknowledge_balanced
    (valid : target.Valid)
    (tallied : target.focus.session.Tallied)
    (covered : target.focus.Covered) (evidence : TransferEvidence)
    (now : Nanos) {newlyDelivered : UInt64}
    (funded : newlyDelivered ≤ target.focus.session.outstandingBytes) :
    Balanced target.focus
      (target.acknowledge evidence newlyDelivered now) := by
  rcases target.acknowledge_toNat valid tallied evidence now funded with
    ⟨lowered, raised, _⟩
  have fits := UInt64.le_iff_toNat_le.mp funded
  have covers : target.focus.session.outstandingBytes.toNat ≤
      target.focus.engine.accounting.grantedOutstandingBytes.toNat :=
    covered.covers .outstanding (by decide)
  have conserved := covered.conserved
  have admitted := target.focus.engine.accounting.bytesAdmitted.toNat_lt
  unfold AccountingSnapshot.Conserved at conserved
  have bytes := target.acknowledge_bytes evidence newlyDelivered now
  have aggregateLowered := congrArg UInt64.toNat (bytes .outstanding)
  have aggregateRaised := congrArg UInt64.toNat (bytes .transferred)
  dsimp only at aggregateLowered aggregateRaised
  rw [Word.toNat_sub_min] at aggregateLowered
  rw [Word.toNat_add_of_lt (by omega)] at aggregateRaised
  refine ⟨?_, ?_, target.acknowledge_underflow evidence _ now⟩
  · intro bucket counted
    left
    cases bucket with
    | outstanding =>
        rw [aggregateLowered]
        dsimp only [AccountingSnapshot.bytesIn, SessionRecord.bytesIn]
        omega
    | transferred =>
        rw [aggregateRaised]
        dsimp only [AccountingSnapshot.bytesIn, SessionRecord.bytesIn]
        omega
    | _ =>
        rw [bytes, EvidenceTarget.acknowledge_session]
        rfl
  · have sameAdmitted := congrArg UInt64.toNat (bytes .admitted)
    have sameCancelled := congrArg UInt64.toNat (bytes .cancelled)
    have sameUnproven := congrArg UInt64.toNat (bytes .unproven)
    have sameWasted := congrArg UInt64.toNat (bytes .wasted)
    dsimp only [AccountingSnapshot.bytesIn] at *
    unfold AccountingSnapshot.Conserved
    omega

theorem truncate_bytes (target : EvidenceTarget) (bucket : Bucket) :
    target.truncate.engine.accounting.bytesIn bucket =
      match bucket with
      | .transferred =>
          target.focus.engine.accounting.bytesTransferred -
            min target.shard.transferredBytes
              target.focus.engine.accounting.bytesTransferred
      | .wasted =>
          target.focus.engine.accounting.bytesWasted +
            target.shard.transferredBytes
      | .outstanding =>
          target.focus.engine.accounting.grantedOutstandingBytes +
            target.shard.transferredBytes
      | .admitted =>
          target.focus.engine.accounting.bytesAdmitted +
            target.shard.transferredBytes
      | other => target.focus.engine.accounting.bytesIn other := by
  have dropped (focus : Focus) (bucket : Bucket) :
      (if target.attempt.outstanding = true then focus.dropActiveAttempt
        else focus).engine.accounting.bytesIn bucket =
        focus.engine.accounting.bytesIn bucket := by
    split
    · exact (Focus.dropActiveAttempt_bytes focus bucket).1
    · rfl
  have marked := dropped (target.focus.setAttempt target.attemptPosition
    { target.attempt with outcome := .failed, outstanding := false })
  unfold truncate
  dsimp only [Focus.book, Focus.revise, Focus.setShard, Engine.book]
  generalize (if target.attempt.outstanding = true then _ else _ : Focus) =
    reached at marked ⊢
  cases bucket with
  | transferred =>
      have same : reached.engine.accounting.bytesTransferred =
          target.focus.engine.accounting.bytesTransferred :=
        marked .transferred
      dsimp only [AccountingSnapshot.bytesIn]
      rw [same]
  | wasted =>
      exact congrArg (· + target.shard.transferredBytes) (marked .wasted)
  | outstanding =>
      exact congrArg (· + target.shard.transferredBytes)
        (marked .outstanding)
  | admitted =>
      exact congrArg (· + target.shard.transferredBytes) (marked .admitted)
  | verified =>
      exact marked .verified
  | cancelled =>
      exact marked .cancelled
  | unproven =>
      exact marked .unproven

theorem truncate_underflow (target : EvidenceTarget) :
    target.truncate.engine.underflow = target.focus.engine.underflow := by
  unfold truncate
  dsimp only [Focus.book, Focus.revise, Focus.setShard, Engine.book]
  split
  · exact (Focus.dropActiveAttempt_bytes _ .admitted).2
  · rfl

theorem truncate_balanced
    (valid : target.Valid)
    (tallied : target.focus.session.Tallied)
    (covered : target.focus.Covered)
    (fits :
      target.focus.engine.accounting.bytesAdmitted.toNat +
        target.shard.transferredBytes.toNat < 2 ^ 64) :
    Balanced target.focus target.truncate := by
  rcases target.truncate_toNat valid tallied with ⟨lowered, raised, own, _⟩
  have coversTransferred : target.focus.session.transferredBytes.toNat ≤
      target.focus.engine.accounting.bytesTransferred.toNat :=
    covered.covers .transferred (by decide)
  have coversWasted : target.focus.session.wastedBytes.toNat ≤
      target.focus.engine.accounting.bytesWasted.toNat :=
    covered.covers .wasted (by decide)
  have coversAdmitted : target.focus.session.admittedBytes.toNat ≤
      target.focus.engine.accounting.bytesAdmitted.toNat :=
    covered.covers .admitted (by decide)
  have conserved := covered.conserved
  unfold AccountingSnapshot.Conserved at conserved
  have bytes := target.truncate_bytes
  have aggregateTransferred := congrArg UInt64.toNat (bytes .transferred)
  have aggregateWasted := congrArg UInt64.toNat (bytes .wasted)
  have aggregateOutstanding := congrArg UInt64.toNat (bytes .outstanding)
  have aggregateAdmitted := congrArg UInt64.toNat (bytes .admitted)
  dsimp only at aggregateTransferred aggregateWasted
  dsimp only at aggregateOutstanding aggregateAdmitted
  rw [Word.toNat_sub_min] at aggregateTransferred
  rw [Word.toNat_add_of_lt (by omega)] at aggregateWasted
  rw [Word.toNat_add_of_lt (by omega)] at aggregateOutstanding
  rw [Word.toNat_add_of_lt (by omega)] at aggregateAdmitted
  refine ⟨?_, ?_, target.truncate_underflow⟩
  · intro bucket counted
    left
    cases bucket with
    | transferred =>
        rw [aggregateTransferred]
        dsimp only [AccountingSnapshot.bytesIn, SessionRecord.bytesIn]
        omega
    | outstanding =>
        rw [aggregateOutstanding]
        dsimp only [AccountingSnapshot.bytesIn, SessionRecord.bytesIn]
        omega
    | wasted =>
        rw [aggregateWasted, EvidenceTarget.truncate_session]
        dsimp only [AccountingSnapshot.bytesIn, SessionRecord.bytesIn]
        rw [Word.toNat_add_of_lt (by omega)]
        omega
    | admitted =>
        rw [aggregateAdmitted, EvidenceTarget.truncate_session]
        dsimp only [AccountingSnapshot.bytesIn, SessionRecord.bytesIn]
        rw [Word.toNat_add_of_lt (by omega)]
        omega
    | _ =>
        rw [bytes, EvidenceTarget.truncate_session]
        rfl
  · have sameCancelled := congrArg UInt64.toNat (bytes .cancelled)
    have sameUnproven := congrArg UInt64.toNat (bytes .unproven)
    dsimp only [AccountingSnapshot.bytesIn] at *
    unfold AccountingSnapshot.Conserved
    omega

end EvidenceTarget

/-- A report of ambiguity counts no byte until the loss is booked. -/
theorem AttemptTarget.blur_bytes
    (target : AttemptTarget) (now : Nanos) (bucket : Bucket) :
    (target.blur now).engine.accounting.bytesIn bucket =
        target.focus.engine.accounting.bytesIn bucket ∧
      (target.blur now).engine.underflow = target.focus.engine.underflow := by
  unfold AttemptTarget.blur
  dsimp only [Focus.revise]
  split
  · exact Focus.dropActiveAttempt_bytes _ bucket
  · exact ⟨rfl, rfl⟩

theorem Focus.completeSession_underflow (focus : Focus) (now : Nanos) :
    (focus.completeSession now).engine.underflow =
      focus.engine.underflow := by
  have released := (focus.finish now).releasePathReservation_accounting.2
  unfold Focus.completeSession
  dsimp only [Focus.noteTerminal, Focus.revise, Focus.book, Engine.book,
    Engine.deactivate]
  exact released

theorem Focus.completeSession_bytes
    (focus : Focus) (now : Nanos) (bucket : Bucket) :
    (focus.completeSession now).engine.accounting.bytesIn bucket =
      focus.engine.accounting.bytesIn bucket := by
  have released := (focus.finish now).releasePathReservation_accounting.1
  unfold Focus.completeSession
  dsimp only
  rw [Focus.noteTerminal_bytes]
  dsimp only [Focus.revise, Focus.book, Engine.book]
  rw [released]
  cases bucket <;> rfl

/-- Completing drops the outstanding bytes of the session, and moves
nothing. -/
theorem Focus.completeSession_balanced
    (now : Nanos) (covered : focus.Covered)
    (complete : focus.isComplete = true)
    (active : isTerminal focus.session.state = false) :
    Balanced focus (focus.completeSession now) := by
  have bytes := focus.completeSession_bytes now
  refine ⟨?_, covered.conserved.of_same (fun bucket _ => bytes bucket),
    focus.completeSession_underflow now⟩
  intro bucket counted
  rw [bytes, Focus.completeSession_session]
  cases bucket with
  | outstanding =>
      exact .inr ⟨rfl, complete, active, rfl, rfl⟩
  | _ =>
      exact .inl rfl

/-! ## Every change -/

/-- No change loses or creates a byte of the aggregate. -/
theorem Change.balanced
    {permits : Permits}
    (change : Change permits before after)
    (tallied : before.session.Tallied) (covered : before.Covered)
    (fits :
      ∀ target : EvidenceTarget, permits.truncate target →
        target.focus.engine.accounting.bytesAdmitted.toNat +
          target.shard.transferredBytes.toNat < 2 ^ 64) :
    Balanced before after := by
  cases change with
  | annotate _ _ noted =>
      refine .of_same covered (fun bucket _ => noted.engine.bytes bucket) ?_
        noted.engine.underflow
      intro bucket _
      rw [noted.session]
      cases bucket <;> rfl
  | unprove _ bytes =>
      exact before.markUnproven_balanced bytes covered tallied
  | cancelOutstanding =>
      exact before.settleOutstandingAsCancelled_balanced covered tallied
  | close _ state reason detail now =>
      exact Focus.closeAs_balanced state reason detail now covered rfl
        (fun _ => rfl)
  | closeAbandoned _ reason detail now =>
      refine Focus.closeAs_balanced .failed reason detail now covered rfl ?_
      intro bucket
      cases bucket <;> rfl
  | closeMismatched _ reason detail now =>
      refine Focus.closeAs_balanced .failed reason detail now covered rfl ?_
      intro bucket
      cases bucket <;> rfl
  | unreserve =>
      rcases before.releasePathReservation_accounting with
        ⟨accounting, underflow⟩
      refine .of_same covered ?_ ?_ underflow
      · intro bucket _
        rw [accounting]
      · intro bucket _
        rw [Focus.releasePathReservation_session]
        cases bucket <;> rfl
  | charge =>
      refine .of_same covered ?_ ?_ rfl
      · intro bucket _
        cases bucket <;> rfl
      · intro bucket _
        cases bucket <;> rfl
  | acknowledge target evidence now valid _ _ funded =>
      exact target.acknowledge_balanced valid tallied covered evidence now
        funded
  | verify =>
      refine .of_same covered ?_ ?_ rfl
      · intro bucket counted
        cases bucket <;> first | rfl | exact absurd rfl counted
      · intro bucket counted
        cases bucket <;> first | rfl | exact absurd rfl counted
  | truncate target valid permitted =>
      exact target.truncate_balanced valid tallied covered
        (fits target permitted)
  | blurShard =>
      refine .of_same covered ?_ ?_ ?_
      · intro bucket _
        exact (Focus.dropActiveAttempt_bytes _ bucket).1
      · intro bucket _
        rw [EvidenceTarget.blur_session]
        cases bucket <;> rfl
      · exact (Focus.dropActiveAttempt_bytes _ .admitted).2
  | blurAttempt target now =>
      refine .of_same covered ?_ ?_ (target.blur_bytes now .admitted).2
      · intro bucket _
        exact (target.blur_bytes now bucket).1
      · intro bucket _
        rw [AttemptTarget.blur_session]
        cases bucket <;> rfl
  | complete _ now complete active =>
      exact before.completeSession_balanced now covered complete active
  | _ =>
      refine .of_same covered (fun _ _ => rfl) ?_ rfl
      intro bucket _
      cases bucket <;> rfl

end TrafficFabric
