import TrafficFabric.Engine.Conservation
import TrafficFabric.Engine.Staleness

/-!
# What is booked for one attempt

A report on an attempt moves bytes out of the outstanding authority of its
session: an acknowledged transfer credits what newly arrived, an ambiguity
report books what did not arrive as unproven.  Neither report remembers that
the shortfall was booked before, so this is bounded by what the attempt was
granted only when an ambiguous attempt is not reported as ambiguous again.
-/

namespace TrafficFabric

open Foundation

variable {session other : SessionRecord} {attempt : TransferAttemptId}
  {position : Nat} {record updated : AttemptRecord} {engine after : Engine}
  {id : SessionId} {focus : Focus} {target : EvidenceTarget}
  {evidence : TransferEvidence} {now : Nanos} {command : Command}

/-! ## The attempt of a report -/

/-- The attempt as a report finds it; settled sessions take no reports. -/
def Engine.openAttempt
    (engine : Engine) (id : SessionId) (attempt : TransferAttemptId) :
    Option AttemptRecord :=
  (engine.sessions.lookup id).bind
    (fun session =>
      if isTerminal session.state then none
      else session.namedAttempt attempt)

/-- What reports may still move on account of an attempt. -/
def AttemptRecord.unbooked (record : AttemptRecord) : Nat :=
  if record.outcome = .ambiguous then 0
  else record.grantedBytes.toNat - record.deliveredBytes.toNat

def Engine.unbooked
    (engine : Engine) (id : SessionId) (attempt : TransferAttemptId) : Nat :=
  ((engine.openAttempt id attempt).map AttemptRecord.unbooked).getD 0

/-- Rewriting an attempt in place leaves it the one that its name finds. -/
theorem SessionRecord.namedAttempt_of_set
    (found : session.attemptPosition attempt = some position)
    (at_ : session.attempts[position]? = some record)
    (same : updated.id = record.id)
    (attempts : other.attempts = session.attempts.set position updated) :
    other.namedAttempt attempt = some updated := by
  have named := SessionRecord.id_of_attemptPosition found at_
  rcases List.findIdx?_eq_some_iff_getElem.mp found with
    ⟨inRange, _, earlier⟩
  have located : other.attemptPosition attempt = some position := by
    unfold SessionRecord.attemptPosition
    rw [attempts, List.findIdx?_eq_some_iff_getElem]
    refine ⟨by rw [List.length_set]; exact inRange, ?_, ?_⟩
    · rw [List.getElem_set_self, same, named]
      exact beq_self_eq_true attempt
    · intro index before
      rw [List.getElem_set_ne (by omega)]
      exact earlier index before
  unfold SessionRecord.namedAttempt
  rw [located, Option.bind_some, attempts,
    List.getElem?_set_self inRange]

/-- What a committed focus shows of an attempt, unless it is settled. -/
theorem Focus.openAttempt_commit
    (focus : Focus) (attempt : TransferAttemptId) :
    focus.commit.openAttempt focus.key attempt = none ∨
      focus.commit.openAttempt focus.key attempt =
        focus.session.namedAttempt attempt := by
  unfold Engine.openAttempt
  rcases focus.lookup_commit with gone | stored
  · rw [gone]
    exact .inl rfl
  · rw [stored, Option.bind_some]
    split
    · exact .inl rfl
    · exact .inr rfl

/-- An engine that shows this attempt or none has no more to book for it. -/
theorem Engine.unbooked_le
    (shown :
      engine.openAttempt id attempt = none ∨
        engine.openAttempt id attempt = some record) :
    engine.unbooked id attempt ≤ record.unbooked := by
  unfold Engine.unbooked
  rcases shown with hidden | shown
  · rw [hidden]
    exact Nat.zero_le _
  · rw [shown]
    exact Nat.le_refl _

/-- Enforcing deadlines only hides attempts. -/
theorem Engine.observe_openAttempt
    (engine : Engine) (now : Nanos) (id : SessionId)
    (attempt : TransferAttemptId) :
    (engine.observe now).openAttempt id attempt = none ∨
      (engine.observe now).openAttempt id attempt =
        engine.openAttempt id attempt := by
  unfold Engine.openAttempt
  cases found : (engine.observe now).sessions.lookup id with
  | none => exact .inl rfl
  | some session =>
    rcases engine.observe_closes now id session found with kept | closed
    · rw [kept]
      exact .inr rfl
    · rw [Option.bind_some, if_pos closed]
      exact .inl rfl

theorem Engine.observe_unbooked
    (engine : Engine) (now : Nanos) (id : SessionId)
    (attempt : TransferAttemptId) :
    (engine.observe now).unbooked id attempt ≤
      engine.unbooked id attempt := by
  unfold Engine.unbooked
  rcases engine.observe_openAttempt now id attempt with hidden | same
  · rw [hidden]
    exact Nat.zero_le _
  · rw [same]

/-! ## Progress moves no byte -/

theorem Engine.pruneHistory_accounting (engine : Engine) :
    engine.pruneHistory.accounting = engine.accounting := by
  rw [engine.pruneHistory_eq]

theorem Focus.recomputeProgress_bytes
    (focus : Focus) (now : Nanos) (bucket : Bucket) :
    (focus.recomputeProgress now).engine.accounting.bytesIn bucket =
      focus.engine.accounting.bytesIn bucket := by
  unfold Focus.recomputeProgress
  dsimp only
  split
  · dsimp only [Focus.pruneHistory]
    rw [Engine.pruneHistory_accounting]
    exact Focus.completeSession_bytes _ now bucket
  · rfl

theorem Focus.recomputeProgress_attempts (focus : Focus) (now : Nanos) :
    (focus.recomputeProgress now).session.attempts =
        focus.session.attempts ∧
      (focus.recomputeProgress now).key = focus.key := by
  unfold Focus.recomputeProgress
  dsimp only
  split
  · have framed := Focus.Framed.completeSession
      (focus.revise SessionRecord.deriveProgress) now
    dsimp only [Focus.pruneHistory]
    rw [Focus.completeSession_session, framed.key]
    exact ⟨rfl, rfl⟩
  · exact ⟨rfl, rfl⟩

theorem SessionRecord.namedAttempt_congr
    (same : other.attempts = session.attempts)
    (attempt : TransferAttemptId) :
    other.namedAttempt attempt = session.namedAttempt attempt := by
  unfold SessionRecord.namedAttempt SessionRecord.attemptPosition
  rw [same]

/-- After progress is recomputed, a committed attempt is shown or hidden. -/
theorem Focus.recomputeProgress_openAttempt
    (focus : Focus) (now : Nanos) (attempt : TransferAttemptId) :
    (focus.recomputeProgress now).commit.openAttempt focus.key attempt =
        none ∨
      (focus.recomputeProgress now).commit.openAttempt focus.key attempt =
        focus.session.namedAttempt attempt := by
  obtain ⟨attempts, key⟩ := focus.recomputeProgress_attempts now
  rw [← SessionRecord.namedAttempt_congr attempts attempt, ← key]
  exact Focus.openAttempt_commit _ attempt

/-- The end of an ambiguity report. -/
theorem Focus.markUnproven_openAttempt
    (focus : Focus) (bytes : UInt64) (now : Nanos) (reason : ReasonCode)
    (detail line : Text) (attempt : TransferAttemptId) :
    let after :=
      (((((focus.markUnproven bytes).touch now).settleReason reason
        detail).appendTimeline now line).recomputeProgress now).commit
    after.openAttempt focus.key attempt = none ∨
      after.openAttempt focus.key attempt =
        focus.session.namedAttempt attempt := by
  intro after
  have same :
      ((((focus.markUnproven bytes).touch now).settleReason reason
        detail).appendTimeline now line).session.attempts =
          focus.session.attempts := by
    dsimp only [Focus.appendTimeline, SessionRecord.appendTimeline,
      Focus.settleReason, Focus.touch, Focus.revise, Focus.markUnproven]
  rw [← SessionRecord.namedAttempt_congr same attempt]
  exact Focus.recomputeProgress_openAttempt _ now attempt

theorem Focus.finishReport_bytes
    (focus : Focus) (now : Nanos) (bucket : Bucket) :
    (focus.finishReport now).engine.accounting.bytesIn bucket =
      focus.engine.accounting.bytesIn bucket := by
  unfold Focus.finishReport
  dsimp only
  split
  · exact focus.recomputeProgress_bytes now bucket
  · exact focus.recomputeProgress_bytes now bucket

theorem Focus.finishReport_openAttempt
    (focus : Focus) (now : Nanos) (attempt : TransferAttemptId) :
    (focus.finishReport now).commit.openAttempt focus.key attempt = none ∨
      (focus.finishReport now).commit.openAttempt focus.key attempt =
        focus.session.namedAttempt attempt := by
  obtain ⟨attempts, key⟩ := focus.recomputeProgress_attempts now
  have kept :
      (focus.finishReport now).session.attempts = focus.session.attempts ∧
        (focus.finishReport now).key = focus.key := by
    unfold Focus.finishReport
    dsimp only
    split
    · exact ⟨attempts, key⟩
    · exact ⟨attempts, key⟩
  rw [← SessionRecord.namedAttempt_congr kept.1 attempt, ← kept.2]
  exact Focus.openAttempt_commit _ attempt

/-! ## The reports -/

/-- The bytes that were credited as transferred or booked as unproven between
two accounts. -/
def AccountingSnapshot.moved (before after : AccountingSnapshot) : Nat :=
  (after.bytesIn .transferred - before.bytesIn .transferred).toNat +
    (after.bytesIn .unproven - before.bytesIn .unproven).toNat

/-- What booking a shortfall as unproven moves. -/
theorem Focus.markUnproven_moved
    (focus : Focus) (bytes : UInt64)
    (accounts :
      ∀ bucket,
        after.accounting.bytesIn bucket =
          (focus.markUnproven bytes).engine.accounting.bytesIn bucket) :
    focus.engine.accounting.moved after.accounting =
        (min bytes focus.session.outstandingBytes).toNat ∧
      (min bytes focus.session.outstandingBytes = 0 →
        ∀ bucket,
          after.accounting.bytesIn bucket =
            focus.engine.accounting.bytesIn bucket) := by
  have transferred :
      after.accounting.bytesIn .transferred =
        focus.engine.accounting.bytesIn .transferred :=
    accounts .transferred
  have unproven :
      after.accounting.bytesIn .unproven =
        focus.engine.accounting.bytesIn .unproven +
          min bytes focus.session.outstandingBytes :=
    accounts .unproven
  have outstanding :
      after.accounting.bytesIn .outstanding =
        focus.engine.accounting.bytesIn .outstanding -
          min bytes focus.session.outstandingBytes :=
    accounts .outstanding
  refine ⟨?_, ?_⟩
  · unfold AccountingSnapshot.moved
    rw [transferred, unproven, UInt64.sub_self, UInt64.add_comm,
      UInt64.add_sub_cancel]
    exact Nat.zero_add _
  · intro nothing bucket
    rw [nothing] at unproven outstanding
    cases bucket with
    | unproven => exact unproven.trans (UInt64.add_zero _)
    | outstanding => exact outstanding.trans (UInt64.sub_zero _)
    | _ => exact accounts _

/-- Whatever is booked of what an attempt did not deliver, its ambiguity
leaves nothing more to book. -/
theorem AttemptRecord.books_shortfall
    {outstanding : UInt64}
    (shown :
      after.openAttempt id attempt = none ∨
        after.openAttempt id attempt = some updated)
    (ambiguous : updated.outcome = .ambiguous)
    (spent :
      record.outcome = .ambiguous →
        record.grantedBytes ≤ record.deliveredBytes ∨ outstanding = 0) :
    (min (SessionRecord.undelivered record) outstanding).toNat +
          after.unbooked id attempt ≤ record.unbooked ∧
      (record.outcome = .ambiguous →
        min (SessionRecord.undelivered record) outstanding = 0) := by
  have closed : updated.unbooked = 0 := if_pos ambiguous
  have hidden := Engine.unbooked_le shown
  have clamped :=
    Word.toNat_min (SessionRecord.undelivered record) outstanding
  have short := SessionRecord.toNat_undelivered record
  have empty :
      record.outcome = .ambiguous →
        (min (SessionRecord.undelivered record) outstanding).toNat = 0 := by
    intro again
    rcases spent again with complete | rfl
    · rw [UInt64.le_iff_toNat_le] at complete
      omega
    · exact clamped.trans (Nat.min_zero _)
  refine ⟨?_, ?_⟩
  · unfold AttemptRecord.unbooked
    split
    · rename_i again
      have nothing := empty again
      omega
    · omega
  · intro again
    apply UInt64.toNat.inj
    rw [empty again]
    rfl

/-- The effect of a report on what may still be booked for its attempt: what
it moves is taken from it, and a repetition moves nothing at all. -/
structure Books
    (before : AccountingSnapshot) (after : Engine) (id : SessionId)
    (attempt : TransferAttemptId) (record : AttemptRecord) : Prop where
  paid : before.moved after.accounting + after.unbooked id attempt ≤
    record.unbooked
  idle :
    record.outcome = .ambiguous →
      ∀ bucket, after.accounting.bytesIn bucket = before.bytesIn bucket

/-- An ambiguity report, from its blurred attempt on. -/
theorem Books.of_shortfall
    {blurred : Focus}
    (bytes :
      ∀ bucket,
        blurred.engine.accounting.bytesIn bucket =
          focus.engine.accounting.bytesIn bucket)
    (outstanding :
      blurred.session.outstandingBytes = focus.session.outstandingBytes)
    (accounts :
      ∀ bucket,
        after.accounting.bytesIn bucket =
          (blurred.markUnproven
            (SessionRecord.undelivered record)).engine.accounting.bytesIn
              bucket)
    (shown :
      after.openAttempt focus.key attempt = none ∨
        after.openAttempt focus.key attempt = some updated)
    (ambiguous : updated.outcome = .ambiguous)
    (spent :
      record.outcome = .ambiguous →
        record.grantedBytes ≤ record.deliveredBytes ∨
          focus.session.outstandingBytes = 0) :
    Books focus.engine.accounting after focus.key attempt record := by
  obtain ⟨moved, still⟩ := blurred.markUnproven_moved _ accounts
  rw [outstanding] at moved still
  obtain ⟨paid, empty⟩ :=
    AttemptRecord.books_shortfall shown ambiguous spent
  refine ⟨?_, ?_⟩
  · have same :
        focus.engine.accounting.moved after.accounting =
          blurred.engine.accounting.moved after.accounting := by
      unfold AccountingSnapshot.moved
      rw [bytes, bytes]
    rw [same, moved]
    exact paid
  · intro again bucket
    exact (still (empty again) bucket).trans (bytes bucket)

/-- An ambiguous verdict of the destination. -/
theorem EvidenceTarget.reportBlurred_books
    (found :
      target.focus.session.attemptPosition attempt =
        some target.attemptPosition)
    (valid : target.Valid)
    (spent :
      target.attempt.outcome = .ambiguous →
        target.attempt.grantedBytes ≤ target.attempt.deliveredBytes ∨
          target.focus.session.outstandingBytes = 0)
    (shard : ShardIndex) (now : Nanos) :
    Books target.focus.engine.accounting (target.reportBlurred shard now)
      target.focus.key attempt target.attempt := by
  have key : target.blur.key = target.focus.key :=
    (Focus.Framed.dropActiveAttempt _).key
  have bytes :
      ∀ bucket,
        target.blur.engine.accounting.bytesIn bucket =
          target.focus.engine.accounting.bytesIn bucket :=
    fun bucket => (Focus.dropActiveAttempt_bytes _ bucket).1
  have outstanding :
      target.blur.session.outstandingBytes =
        target.focus.session.outstandingBytes := by
    rw [target.blur_session]
  obtain ⟨updated, ambiguous, named⟩ :
      ∃ updated : AttemptRecord,
        updated.outcome = .ambiguous ∧
          target.blur.session.namedAttempt attempt = some updated :=
    ⟨{ target.attempt with outcome := .ambiguous, outstanding := false },
      rfl,
      SessionRecord.namedAttempt_of_set found valid.attemptAt rfl
        (by rw [target.blur_session])⟩
  have shown :=
    target.blur.markUnproven_openAttempt
      (SessionRecord.undelivered target.attempt) now .ambiguousSinkOutcome
      (ascii "destination outcome is ambiguous")
      (ascii "shard " ++ shard.toText ++
        ascii " outcome ambiguous; unproven bytes recorded") attempt
  rw [key, named] at shown
  exact
    Books.of_shortfall bytes outstanding
      (fun bucket => Focus.recomputeProgress_bytes _ now bucket) shown
      ambiguous spent

/-- A report that the outcome of an attempt is not known. -/
theorem AttemptTarget.recordAmbiguity_books
    {target : AttemptTarget}
    (found :
      target.focus.session.attemptPosition attempt = some target.position)
    (valid : target.Valid)
    (spent :
      target.attempt.outcome = .ambiguous →
        target.attempt.grantedBytes ≤ target.attempt.deliveredBytes ∨
          target.focus.session.outstandingBytes = 0)
    (cause : Text) (now : Nanos) :
    Books target.focus.engine.accounting (target.recordAmbiguity cause now)
      target.focus.key attempt target.attempt := by
  have key : (target.blur now).key = target.focus.key := by
    unfold AttemptTarget.blur
    dsimp only [Focus.revise]
    split
    · exact (Focus.Framed.dropActiveAttempt _).key
    · rfl
  have outstanding :
      (target.blur now).session.outstandingBytes =
        target.focus.session.outstandingBytes := by
    rw [target.blur_session]
  obtain ⟨updated, ambiguous, named⟩ :
      ∃ updated : AttemptRecord,
        updated.outcome = .ambiguous ∧
          (target.blur now).session.namedAttempt attempt = some updated :=
    ⟨{ target.attempt with
          outcome := .ambiguous
          outstanding := false
          updatedAt := now },
      rfl,
      SessionRecord.namedAttempt_of_set found valid.attemptAt rfl
        (by rw [target.blur_session])⟩
  have shown :=
    (target.blur now).markUnproven_openAttempt
      (SessionRecord.undelivered target.attempt) now .ambiguousSinkOutcome
      cause (ascii "ambiguity recorded: " ++ cause) attempt
  rw [key, named] at shown
  exact
    Books.of_shortfall (fun bucket => (target.blur_bytes now bucket).1)
      outstanding (fun bucket => Focus.recomputeProgress_bytes _ now bucket)
      shown ambiguous spent

/-- An acknowledged transfer. -/
theorem EvidenceTarget.transfer_books
    (found :
      target.focus.session.attemptPosition attempt =
        some target.attemptPosition)
    (valid : target.Valid)
    (within : evidence.arrivedBytes ≤ target.attempt.grantedBytes)
    (grows : target.attempt.deliveredBytes ≤ evidence.arrivedBytes)
    (certain : target.attempt.outcome ≠ .ambiguous)
    (acknowledged : evidence.sinkAcknowledged = true) (now : Nanos) :
    Books target.focus.engine.accounting (target.transfer evidence now).2
      target.focus.key attempt target.attempt := by
  constructor
  case idle => exact fun again => absurd again certain
  rw [UInt64.le_iff_toNat_le] at within grows
  have newly := Word.toNat_sub_of_le grows
  have before :
      target.attempt.unbooked =
        target.attempt.grantedBytes.toNat -
          target.attempt.deliveredBytes.toNat :=
    if_neg certain
  -- Either way, what arrived is what was delivered from now on.
  have reached :
      ∀ record : AttemptRecord,
        record.grantedBytes = target.attempt.grantedBytes →
        record.deliveredBytes = evidence.arrivedBytes →
        record.unbooked ≤
          target.attempt.grantedBytes.toNat -
            evidence.arrivedBytes.toNat := by
    intro record granted delivered
    unfold AttemptRecord.unbooked
    rw [granted, delivered]
    split
    · exact Nat.zero_le _
    · exact Nat.le_refl _
  unfold EvidenceTarget.transfer
  dsimp only
  rw [if_pos acknowledged]
  split
  · dsimp only
    have named :=
      SessionRecord.namedAttempt_of_set found valid.attemptAt
        (rfl : (target.sighted evidence now).id = target.attempt.id)
        (rfl :
          (target.focus.setAttempt target.attemptPosition
            (target.sighted evidence now)).session.attempts =
            target.focus.session.attempts.set target.attemptPosition _)
    have shown :=
      (target.focus.setAttempt target.attemptPosition
        (target.sighted evidence now)).openAttempt_commit attempt
    rw [named] at shown
    have limit := Engine.unbooked_le shown
    have bound := reached (target.sighted evidence now) rfl rfl
    have still :
        target.focus.engine.accounting.moved
          (target.focus.setAttempt target.attemptPosition
            (target.sighted evidence now)).commit.accounting = 0 := by
      change target.focus.engine.accounting.moved
        target.focus.engine.accounting = 0
      unfold AccountingSnapshot.moved
      rw [UInt64.sub_self, UInt64.sub_self]
      rfl
    change Engine.unbooked _ target.focus.key attempt ≤ _ at limit
    omega
  · dsimp only
    have key :
        (target.acknowledge evidence
          (evidence.arrivedBytes - target.attempt.deliveredBytes)
          now).key = target.focus.key :=
      (Focus.Framed.dropActiveAttempt _).key
    have bytes (bucket : Bucket) :=
      (Focus.finishReport_bytes
        (target.acknowledge evidence
          (evidence.arrivedBytes - target.attempt.deliveredBytes) now) now
        bucket).trans (target.acknowledge_bytes evidence _ now bucket)
    have shown :=
      Focus.finishReport_openAttempt
        (target.acknowledge evidence
          (evidence.arrivedBytes - target.attempt.deliveredBytes) now) now
        attempt
    have named :=
      SessionRecord.namedAttempt_of_set found valid.attemptAt
        (rfl :
          { target.sighted evidence now with
              outcome := .deliveredAcked
              outstanding := false }.id = target.attempt.id)
        (by rw [target.acknowledge_session] :
          (target.acknowledge evidence
            (evidence.arrivedBytes - target.attempt.deliveredBytes)
            now).session.attempts =
            target.focus.session.attempts.set target.attemptPosition _)
    rw [named, key] at shown
    have limit := Engine.unbooked_le shown
    have bound :=
      reached
        { target.sighted evidence now with
            outcome := .deliveredAcked
            outstanding := false } rfl rfl
    have credited :
        target.focus.engine.accounting.moved
            ((target.acknowledge evidence
              (evidence.arrivedBytes - target.attempt.deliveredBytes)
              now).finishReport now).commit.accounting =
          (evidence.arrivedBytes -
            target.attempt.deliveredBytes).toNat := by
      have transferred :
          ((target.acknowledge evidence
              (evidence.arrivedBytes - target.attempt.deliveredBytes)
              now).finishReport now).commit.accounting.bytesIn
                .transferred =
            target.focus.engine.accounting.bytesIn .transferred +
              (evidence.arrivedBytes - target.attempt.deliveredBytes) :=
        bytes .transferred
      have unproven :
          ((target.acknowledge evidence
              (evidence.arrivedBytes - target.attempt.deliveredBytes)
              now).finishReport now).commit.accounting.bytesIn .unproven =
            target.focus.engine.accounting.bytesIn .unproven :=
        bytes .unproven
      unfold AccountingSnapshot.moved
      rw [transferred, unproven, UInt64.sub_self, UInt64.add_comm,
        UInt64.add_sub_cancel]
      rfl
    omega

/-! ## Sequences of reports -/

/-- The command is a report about the attempt: that its outcome is not known,
that the destination is not sure of it, or that the sink acknowledges it. -/
def Command.ReportsOn
    (id : SessionId) (attempt : TransferAttemptId) : Command → Prop
  | .reportAmbiguous session named _ _ _ => session = id ∧ named = attempt
  | .reportVerification evidence _ =>
      evidence.session = id ∧ evidence.attempt = attempt ∧
        (evidence.outcome = .ambiguous ∨ evidence.outcome = .rejected)
  | .reportTransfer evidence _ =>
      evidence.session = id ∧ evidence.attempt = attempt ∧
        evidence.sinkAcknowledged = true
  | _ => False

/-- The attempt that a session still has open is not known to be ambiguous,
or has nothing more to be booked. -/
def Engine.Bookable
    (engine : Engine) (id : SessionId) (attempt : TransferAttemptId) :
    Prop :=
  ∀ session ∈ engine.sessions.lookup id,
    ∀ record ∈ session.namedAttempt attempt,
      record.outcome = .ambiguous →
        record.grantedBytes ≤ record.deliveredBytes ∨
          session.outstandingBytes = 0

instance
    (engine : Engine) (id : SessionId) (attempt : TransferAttemptId) :
    Decidable (engine.Bookable id attempt) :=
  inferInstanceAs (Decidable (∀ session ∈ engine.sessions.lookup id, _))

/-- An ambiguous attempt is reported as ambiguous again only when nothing of
it is left to be booked. -/
def AmbiguityCondition (engine : Engine) (_ : Nanos) : Command → Prop
  | .reportAmbiguous session attempt _ _ _ =>
      engine.Bookable session attempt
  | .reportVerification evidence _ =>
      engine.Bookable evidence.session evidence.attempt
  | _ => True

instance (engine : Engine) (now : Nanos) :
    ∀ command, Decidable (AmbiguityCondition engine now command) := by
  intro command
  apply @Command.casesOn
      (fun command => Decidable (AmbiguityCondition engine now command)) command <;>
    intros <;> unfold AmbiguityCondition <;> infer_instance

/-- The bytes that a command credits as transferred or books as unproven once
the deadlines have been enforced. -/
def Engine.booked (engine : Engine) (now : Nanos) (command : Command) : Nat :=
  (engine.observe now).accounting.moved
    (engine.execute now command).2.accounting

/-- The same, over a sequence of commands. -/
def Engine.bookedBy : Engine → List (Nanos × Command) → Nat
  | _, [] => 0
  | engine, (now, command) :: calls =>
      engine.booked now command +
        (engine.execute now command).2.bookedBy calls

/-- The attempt of a report that passes its guards was there before. -/
theorem Engine.Holds.openAttempt
    (holds : (engine.observe now).Holds id focus)
    (active : isTerminal focus.session.state = false)
    (found : focus.session.attemptPosition attempt = some position)
    (at_ : focus.session.attempts[position]? = some record) :
    engine.sessions.lookup id = some focus.session ∧
      focus.session.namedAttempt attempt = some record ∧
      engine.unbooked id attempt = record.unbooked := by
  have named : focus.session.namedAttempt attempt = some record :=
    Option.bind_eq_some_iff.mpr ⟨position, found, at_⟩
  have stored : engine.sessions.lookup id = some focus.session := by
    rcases engine.observe_closes now id focus.session holds.lookup with
      kept | closed
    · exact kept
    · rw [active] at closed
      cases closed
  refine ⟨stored, named, ?_⟩
  unfold Engine.unbooked Engine.openAttempt
  rw [stored, Option.bind_some, if_neg (Bool.eq_false_iff.mp active), named]
  rfl

/-- A report takes what it moves from what may still be moved, and moves
nothing for an attempt that is ambiguous already. -/
structure Reported
    (engine : Engine) (now : Nanos) (id : SessionId)
    (attempt : TransferAttemptId) (after : Engine) : Prop where
  paid :
    (engine.observe now).accounting.moved after.accounting +
      after.unbooked id attempt ≤ engine.unbooked id attempt
  idle :
    ∀ record, engine.openAttempt id attempt = some record →
      record.outcome = .ambiguous →
        ∀ bucket,
          after.accounting.bytesIn bucket =
            (engine.observe now).accounting.bytesIn bucket

/-- A refused report only enforces the deadlines. -/
theorem Reported.refused
    (engine : Engine) (now : Nanos) (id : SessionId)
    (attempt : TransferAttemptId) :
    Reported engine now id attempt (engine.observe now) where
  paid := by
    have lowered := engine.observe_unbooked now id attempt
    have still :
        (engine.observe now).accounting.moved
          (engine.observe now).accounting = 0 := by
      unfold AccountingSnapshot.moved
      rw [UInt64.sub_self, UInt64.sub_self]
      rfl
    omega
  idle := fun _ _ _ _ => rfl

theorem Reported.of_books
    (holds : (engine.observe now).Holds id focus)
    (active : isTerminal focus.session.state = false)
    (found : focus.session.attemptPosition attempt = some position)
    (at_ : focus.session.attempts[position]? = some record)
    (books :
      Books focus.engine.accounting after focus.key attempt record) :
    Reported engine now id attempt after := by
  obtain ⟨stored, named, same⟩ := holds.openAttempt active found at_
  rw [holds.engine, holds.key] at books
  refine ⟨same ▸ books.paid, ?_⟩
  intro other shown again
  unfold Engine.openAttempt at shown
  rw [stored, Option.bind_some, if_neg (Bool.eq_false_iff.mp active), named]
    at shown
  cases shown
  exact books.idle again

/-- A guarded report, from what its guards establish. -/
theorem Reported.of_guarded
    {Ticket Value : Type}
    {guard : Result Ticket} {body : Ticket → Result Value × Engine}
    (each :
      ∀ ticket, guard = .ok ticket →
        Reported engine now id attempt (body ticket).2) :
    Reported engine now id attempt
      ((engine.observe now).guarded guard body).2 := by
  cases guard with
  | error => exact .refused engine now id attempt
  | ok ticket => exact each ticket rfl

namespace Engine

variable {engine : Engine} {fence : CommandFence}

/-- The guards find the attempt by its name. -/
theorem transferTarget_position
    (passed : engine.transferTarget evidence fence = .ok target) :
    target.focus.session.attemptPosition evidence.attempt =
      some target.attemptPosition := by
  simp only [transferTarget, bind_eq_ok, requireSome_eq_ok] at passed
  rcases passed with
    ⟨focus, _, _, _, _, _, position, found, _, _, _, _, _, _, _, _, _, _,
      _, _, _, _, same⟩
  cases same
  exact found

theorem verificationTarget_position
    {evidence : VerificationEvidence}
    (passed : engine.verificationTarget evidence fence = .ok target) :
    target.focus.session.attemptPosition evidence.attempt =
      some target.attemptPosition := by
  simp only [verificationTarget, bind_eq_ok, requireSome_eq_ok] at passed
  rcases passed with
    ⟨focus, _, _, _, _, _, position, found, _, _, _, _, _, _, same⟩
  cases same
  exact found

theorem ambiguityTarget_position
    {sequence : AttemptSequence} {target : AttemptTarget}
    (passed :
      engine.ambiguityTarget id attempt sequence fence = .ok target) :
    target.focus.session.attemptPosition attempt =
      some target.position := by
  simp only [ambiguityTarget, bind_eq_ok, requireSome_eq_ok] at passed
  rcases passed with ⟨focus, _, _, _, position, found, _, _, _, _, same⟩
  cases same
  exact found

end Engine

/-- Every report that meets the condition is paid for. -/
theorem Command.ReportsOn.reported
    (about : command.ReportsOn id attempt)
    (meets : AmbiguityCondition engine now command) :
    Reported engine now id attempt (engine.execute now command).2 := by
  cases command with
  | reportTransfer =>
    obtain ⟨rfl, rfl, acknowledged⟩ := about
    refine Reported.of_guarded (fun target passed => ?_)
    obtain ⟨holds, valid, within, grows, certain, _⟩ :=
      Engine.transferTarget_ok passed
    have found := Engine.transferTarget_position passed
    exact .of_books holds valid.active found valid.attemptAt
      (EvidenceTarget.transfer_books found valid within grows certain
        acknowledged now)
  | reportVerification evidence =>
    obtain ⟨rfl, rfl, unclear⟩ := about
    refine Reported.of_guarded (fun target passed => ?_)
    obtain ⟨holds, valid, _⟩ := Engine.verificationTarget_ok passed
    have found := Engine.verificationTarget_position passed
    obtain ⟨stored, named, _⟩ :=
      holds.openAttempt valid.active found valid.attemptAt
    have books :=
      EvidenceTarget.reportBlurred_books found valid
        (meets _ stored _ named) evidence.shard now
    have after :
        (target.verification evidence now).2 =
          target.reportBlurred evidence.shard now := by
      unfold EvidenceTarget.verification
      rcases unclear with ambiguous | rejected
      · rw [ambiguous]
      · rw [rejected]
    rw [after]
    exact .of_books holds valid.active found valid.attemptAt books
  | reportAmbiguous _ named _ cause =>
    obtain ⟨rfl, rfl⟩ := about
    refine Reported.of_guarded (fun target passed => ?_)
    obtain ⟨holds, valid⟩ := Engine.ambiguityTarget_ok passed
    have found := Engine.ambiguityTarget_position passed
    obtain ⟨stored, named, _⟩ :=
      holds.openAttempt valid.active found valid.attemptAt
    exact .of_books holds valid.active found valid.attemptAt
      (AttemptTarget.recordAmbiguity_books found valid
        (meets _ stored _ named) cause now)
  | _ => cases about

/-- A sequence of reports moves no more than was left. -/
theorem Engine.bookedBy_le
    {reports : List (Nanos × Command)}
    (about : ∀ call ∈ reports, call.2.ReportsOn id attempt)
    (meets : ScriptMeets AmbiguityCondition engine reports) :
    engine.bookedBy reports ≤ engine.unbooked id attempt := by
  induction reports generalizing engine with
  | nil => exact Nat.zero_le _
  | cons call reports bounded =>
    obtain ⟨now, command⟩ := call
    obtain ⟨_, condition, later⟩ := meets
    have first :
        Reported engine now id attempt (engine.execute now command).2 :=
      Command.ReportsOn.reported (about (now, command) List.mem_cons_self)
        condition
    have rest :=
      bounded (fun call listed => about call (List.mem_cons_of_mem _ listed))
        later
    have paid := first.paid
    change
      (engine.observe now).accounting.moved
          (engine.execute now command).2.accounting +
        (engine.execute now command).2.bookedBy reports ≤ _
    omega

/-- The condition holds where a later call of the script is made. -/
theorem ScriptMeets.reached
    {Condition : Engine → Nanos → Command → Prop}
    {earlier later : List (Nanos × Command)}
    (meets :
      ScriptMeets Condition engine (earlier ++ (now, command) :: later)) :
    Condition (engine.executeAll earlier).2 now command := by
  induction earlier generalizing engine with
  | nil => exact meets.2.1
  | cons _ _ reached => exact reached meets.2.2

/--
From every state of the engine, a sequence of reports about one attempt
credits and books at most what the attempt was granted and had not delivered
before, and a report about an attempt that is ambiguous already changes no
byte bucket.
-/
theorem ambiguity_is_booked_once
    {engine : Engine} {id : SessionId} {attempt : TransferAttemptId}
    {session : SessionRecord} {record : AttemptRecord}
    (stored : engine.sessions.lookup id = some session)
    (named : session.namedAttempt attempt = some record)
    {reports : List (Nanos × Command)}
    (about : ∀ call ∈ reports, call.2.ReportsOn id attempt)
    (meets : ScriptMeets AmbiguityCondition engine reports) :
    engine.bookedBy reports ≤
        record.grantedBytes.toNat - record.deliveredBytes.toNat ∧
      ∀ earlier now command later,
        reports = earlier ++ (now, command) :: later →
          let reached := (engine.executeAll earlier).2
          ∀ repeated, reached.openAttempt id attempt = some repeated →
            repeated.outcome = .ambiguous →
              ∀ bucket,
                (reached.execute now command).2.accounting.bytesIn bucket =
                  (reached.observe now).accounting.bytesIn bucket := by
  constructor
  · have bounded := Engine.bookedBy_le about meets
    have limit : engine.unbooked id attempt ≤ record.unbooked := by
      refine Engine.unbooked_le ?_
      unfold Engine.openAttempt
      rw [stored, Option.bind_some]
      split
      · exact .inl rfl
      · exact .inr named
    have most :
        record.unbooked ≤
          record.grantedBytes.toNat - record.deliveredBytes.toNat := by
      unfold AttemptRecord.unbooked
      split
      · exact Nat.zero_le _
      · exact Nat.le_refl _
    omega
  · rintro earlier now command later rfl reached repeated shown again
    have reported :=
      (about (now, command) (by simp)).reported meets.reached
    exact reported.idle repeated shown again

namespace Sample

/-- A session of two shards, the first of which is granted. -/
def grantedScript : List (Nanos × Command) :=
  [(1, .submitSession (Sample.request 4 [2, 2]) (Sample.fence 1)),
    (2, .requestWave ⟨Sample.drawn 0⟩ ⟨0⟩ (Sample.fence 1))]

/-- The report that the outcome of the first attempt is not known. -/
def unknownOutcome : Command :=
  .reportAmbiguous ⟨Sample.drawn 0⟩ ⟨Sample.drawn 1⟩ ⟨1⟩ (ascii "timeout")
    (Sample.fence 1)

end Sample

/-- One evaluation of the granted run serves both reports. -/
theorem grantedScript_evaluated :
    let engine :=
      ((Engine.construct Sample.config 0).executeAll Sample.grantedScript).2
    (engine.sessions.lookup ⟨Sample.drawn 0⟩).any (fun session =>
        (session.namedAttempt ⟨Sample.drawn 1⟩).isSome) = true ∧
      ScriptMeets AmbiguityCondition engine [(3, Sample.unknownOutcome)] ∧
      (engine.openAttempt ⟨Sample.drawn 0⟩ ⟨Sample.drawn 1⟩).map
          (fun record => record.grantedBytes) = some 2 ∧
      engine.bookedBy
          [(3, Sample.unknownOutcome), (4, Sample.unknownOutcome)] = 4 := by
  decide +kernel

/-- Reported once, the shortfall of the attempt is booked once. -/
theorem ambiguity_is_booked_once_when_reported_once :
    let engine :=
      ((Engine.construct Sample.config 0).executeAll Sample.grantedScript).2
    ∃ session record,
      engine.sessions.lookup ⟨Sample.drawn 0⟩ = some session ∧
      session.namedAttempt ⟨Sample.drawn 1⟩ = some record ∧
      engine.bookedBy [(3, Sample.unknownOutcome)] ≤
        record.grantedBytes.toNat - record.deliveredBytes.toNat := by
  intro engine
  obtain ⟨any, meets, _⟩ := grantedScript_evaluated
  obtain ⟨session, stored, known⟩ := (Option.any_eq_true _ _).mp any
  obtain ⟨record, named⟩ := Option.isSome_iff_exists.mp known
  have about :
      ∀ call ∈ [((3 : Nanos), Sample.unknownOutcome)],
        call.2.ReportsOn ⟨Sample.drawn 0⟩ ⟨Sample.drawn 1⟩ := by
    intro call listed
    obtain rfl := List.mem_singleton.mp listed
    exact ⟨rfl, rfl⟩
  exact ⟨session, record, stored, named,
    (ambiguity_is_booked_once stored named about meets).1⟩

/-- Reported twice, it is booked twice, at the expense of the other shard. -/
theorem repeated_ambiguity_is_booked_again :
    ∃ history engine,
      EngineRun Sample.config 0 history engine ∧
        ((engine.openAttempt ⟨Sample.drawn 0⟩ ⟨Sample.drawn 1⟩).map
          (fun record => record.grantedBytes)) = some 2 ∧
        (∀ call ∈ [((3 : Nanos), Sample.unknownOutcome),
            (4, Sample.unknownOutcome)],
          call.2.ReportsOn ⟨Sample.drawn 0⟩ ⟨Sample.drawn 1⟩) ∧
        engine.bookedBy
          [(3, Sample.unknownOutcome), (4, Sample.unknownOutcome)] = 4 := by
  obtain ⟨_, _, granted, booked⟩ := grantedScript_evaluated
  refine ⟨_, _, Engine.executeAll_run _ Sample.grantedScript, granted, ?_,
    booked⟩
  intro call listed
  rcases List.mem_cons.mp listed with rfl | listed
  · exact ⟨rfl, rfl⟩
  · obtain rfl := List.mem_singleton.mp listed
    exact ⟨rfl, rfl⟩

end TrafficFabric
