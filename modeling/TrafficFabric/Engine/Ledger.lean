import TrafficFabric.Engine.Conservation
import TrafficFabric.Engine.Runs

/-!
# The ledger over whole runs

The aggregate counters cover the sessions in the table, and admitted bytes
are conserved, as long as the counter of admitted bytes does not wrap.  The
counter grows at most once in a command, so that it wraps exactly when the
command makes it smaller.
-/

namespace TrafficFabric

open Foundation

variable {before after focus : Focus} {engine : Engine} {id : SessionId}
  {session : SessionRecord} {now : Nanos}

/-! ## Bytes of the table -/

/-- A change moves the bytes of the table as it moves those of the session. -/
theorem Change.sessionBytes
    {permits : Permits}
    (change : Change permits before after) (live : before.Live)
    (bucket : Bucket) :
    after.commit.sessionBytes bucket +
        (before.session.bytesIn bucket).toNat =
      before.commit.sessionBytes bucket +
        (after.session.bytesIn bucket).toNat := by
  have framed := change.framed
  have table :
      after.commit.sessions =
        before.commit.sessions.replace before.key after.session := by
    unfold Focus.commit
    rw [Table.replace_replace, framed.key, framed.engine.sessions]
  unfold Engine.sessionBytes
  rw [table]
  exact Table.total_replace (fun session => (session.bytesIn bucket).toNat)
    (Focus.lookup_commit_self live)

theorem Focus.Live.le_sessionBytes
    (live : focus.Live) (bucket : Bucket) :
    (focus.session.bytesIn bucket).toNat ≤
      focus.commit.sessionBytes bucket :=
  Table.le_total (fun session => (session.bytesIn bucket).toNat)
    (Focus.lookup_commit_self live)

theorem Engine.sessionBytes_evict
    (found : engine.sessions.lookup id = some session) (bucket : Bucket) :
    (engine.evict id session).sessionBytes bucket +
        (session.bytesIn bucket).toNat =
      engine.sessionBytes bucket :=
  Table.total_erase (fun session => (session.bytesIn bucket).toNat) found

/-- What an enrolment leaves alone. -/
theorem Engine.enroll_frame (engine : Engine) (session : SessionRecord) :
    (engine.enroll session).pruned = engine.pruned ∧
      (engine.enroll session).underflow = engine.underflow ∧
      (engine.enroll session).retentionBound = engine.retentionBound := by
  unfold Engine.enroll Engine.indexDeadline
  dsimp only
  split <;> exact ⟨rfl, rfl, rfl⟩

theorem Engine.enroll_bytes
    (engine : Engine) (session : SessionRecord) (bucket : Bucket) :
    (engine.enroll session).accounting.bytesIn bucket =
      match bucket with
      | .admitted =>
          engine.accounting.bytesAdmitted +
            session.request.manifest.totalBytes
      | .outstanding =>
          engine.accounting.grantedOutstandingBytes +
            session.request.manifest.totalBytes
      | other => engine.accounting.bytesIn other := by
  unfold Engine.enroll Engine.indexDeadline
  dsimp only
  split <;> cases bucket <;> rfl

/-- The bytes of a session that was just admitted. -/
theorem SessionRecord.Admitted.bytesIn
    (admitted : session.Admitted)
    (bucket : Bucket) :
    session.bytesIn bucket =
      match bucket with
      | .admitted => session.request.manifest.totalBytes
      | .outstanding => session.request.manifest.totalBytes
      | _ => 0 := by
  rcases admitted with ⟨engine, now, request, plan, _, rfl⟩
  cases bucket <;> rfl

theorem SessionRecord.Admitted.tallied
    (admitted : session.Admitted) :
    session.Tallied := by
  rcases admitted with ⟨engine, now, request, plan, _, rfl⟩
  refine ⟨?_, ?_, fun _ => rfl⟩
  · have bounded := request.manifest.totalBytes.toNat_lt
    change 0 + 0 + request.manifest.totalBytes.toNat + 0 < 2 ^ 64
    omega
  · intro _
    change 0 = arrivedBytes (request.manifest.shards.map _)
    unfold arrivedBytes shardTotal
    rw [List.map_map]
    exact (List.sum_eq_zero (by simp [admittedShard])).symm

/-- Without wrapping, an enrolment adds the bytes of the session to the
aggregate, which stays conserved. -/
theorem Engine.enroll_adds
    (engine : Engine)
    (admitted : session.Admitted)
    (conserved : engine.accounting.Conserved)
    (fits :
      engine.accounting.bytesAdmitted.toNat +
        session.request.manifest.totalBytes.toNat < 2 ^ 64) :
    (∀ bucket,
      ((engine.enroll session).accounting.bytesIn bucket).toNat =
        (engine.accounting.bytesIn bucket).toNat +
          (session.bytesIn bucket).toNat) ∧
      (engine.enroll session).accounting.Conserved := by
  unfold AccountingSnapshot.Conserved at conserved ⊢
  have bytes := engine.enroll_bytes session
  have raised := congrArg UInt64.toNat (bytes .admitted)
  have owed := congrArg UInt64.toNat (bytes .outstanding)
  dsimp only at raised owed
  rw [Word.toNat_add_of_lt fits] at raised
  rw [Word.toNat_add_of_lt (by omega)] at owed
  constructor
  · intro bucket
    rw [admitted.bytesIn]
    cases bucket with
    | admitted =>
        exact raised
    | outstanding =>
        exact owed
    | _ =>
        rw [bytes]
        rfl
  · have sameTransferred := congrArg UInt64.toNat (bytes .transferred)
    have sameWasted := congrArg UInt64.toNat (bytes .wasted)
    have sameCancelled := congrArg UInt64.toNat (bytes .cancelled)
    have sameUnproven := congrArg UInt64.toNat (bytes .unproven)
    dsimp only [AccountingSnapshot.bytesIn] at *
    omega

/-! ## The invariant -/

/-- The sessions are tallied, the aggregate covers them, every admitted byte
is counted once and no counter was taken below zero. -/
structure Engine.Conserving (engine : Engine) : Prop where
  tallied :
    ∀ id session, engine.sessions.lookup id = some session →
      session.Tallied
  covers :
    ∀ bucket, bucket ≠ .verified →
      engine.sessionBytes bucket ≤
        (engine.accounting.bytesIn bucket).toNat
  conserved : engine.accounting.Conserved
  underflow : engine.underflow = false

/-- Bytes are admitted only while the counter does not wrap. -/
def ledgerPermits : Permits where
  enroll := fun engine session =>
    engine.accounting.bytesAdmitted.toNat +
      session.request.manifest.totalBytes.toNat < 2 ^ 64
  truncate := fun target =>
    target.focus.engine.accounting.bytesAdmitted.toNat +
      target.shard.transferredBytes.toNat < 2 ^ 64

theorem ledgerPermits_routine : ledgerPermits.Routine :=
  { Permits.Routine.free with }

namespace Engine.Conserving

theorem of_same
    {other : Engine} (conserving : engine.Conserving)
    (sessions : other.sessions = engine.sessions)
    (bytes :
      ∀ bucket,
        other.accounting.bytesIn bucket = engine.accounting.bytesIn bucket)
    (underflow : other.underflow = engine.underflow) :
    other.Conserving where
  tallied := by
    rw [sessions]
    exact conserving.tallied
  covers := by
    intro bucket counted
    unfold Engine.sessionBytes
    rw [sessions, bytes]
    exact conserving.covers bucket counted
  conserved := conserving.conserved.of_same (fun bucket _ => bytes bucket)
  underflow := underflow.trans conserving.underflow

/-- A live session of a covered table is covered. -/
theorem covered
    (conserving : focus.commit.Conserving)
    (live : focus.Live) : focus.Covered where
  covers := fun bucket counted =>
    (live.le_sessionBytes bucket).trans (conserving.covers bucket counted)
  conserved := conserving.conserved

theorem change
    {before after : Focus} (conserving : before.commit.Conserving)
    (live : before.Live) (change : Change ledgerPermits before after) :
    after.commit.Conserving := by
  have tallied :=
    conserving.tallied _ _ (Focus.lookup_commit_self live)
  have balanced := change.balanced tallied (conserving.covered live)
    (fun _ permitted => permitted)
  refine ⟨?_, ?_, balanced.conserved,
    balanced.underflow.trans conserving.underflow⟩
  · exact @Change.forall_sessions _ _ _
      (fun _ session => session.Tallied) change live conserving.tallied
      change.tallied
  · intro bucket counted
    have table := change.sessionBytes live bucket
    have own := live.le_sessionBytes bucket
    have covers :
        before.commit.sessionBytes bucket ≤
          (before.engine.accounting.bytesIn bucket).toNat :=
      conserving.covers bucket counted
    change _ ≤ (after.engine.accounting.bytesIn bucket).toNat
    rcases balanced.moved bucket counted with moved | ⟨_, _, _, kept, empty⟩
    · omega
    · omega

theorem evict
    (conserving : engine.Conserving)
    (found : engine.sessions.lookup id = some session) :
    (engine.evict id session).Conserving where
  tallied := fun other kept stored =>
    conserving.tallied other kept (Engine.lookup_evict stored)
  covers := by
    intro bucket counted
    have erased := Engine.sessionBytes_evict found bucket
    have covers := conserving.covers bucket counted
    change _ ≤ (engine.accounting.bytesIn bucket).toNat
    omega
  conserved := conserving.conserved
  underflow := conserving.underflow

theorem enroll
    (conserving : engine.Conserving) (admitted : session.Admitted)
    (fits :
      engine.accounting.bytesAdmitted.toNat +
        session.request.manifest.totalBytes.toNat < 2 ^ 64) :
    (engine.enroll session).Conserving := by
  have table := engine.enroll_sessions session
  have underflow := (engine.enroll_frame session).2.1
  rcases engine.enroll_adds admitted conserving.conserved fits with
    ⟨added, conserved⟩
  refine ⟨?_, ?_, conserved, underflow.trans conserving.underflow⟩
  · intro id found stored
    rcases Engine.lookup_enroll stored with known | ⟨_, rfl, _⟩
    · exact conserving.tallied id found known
    · exact admitted.tallied
  · intro bucket counted
    have covers := conserving.covers bucket counted
    have grown :
        (engine.enroll session).sessionBytes bucket ≤
          engine.sessionBytes bucket + (session.bytesIn bucket).toNat := by
      unfold Engine.sessionBytes
      rw [table]
      by_cases known : session.id ∈ engine.sessions
      · rw [Table.emplace_of_mem known]
        exact Nat.le_add_right _ _
      · rw [Table.emplace_of_not_mem known, Table.total_insert _ known]
    rw [added]
    omega

end Engine.Conserving

theorem Edit.conserving
    {before after : Engine} (edit : Edit ledgerPermits before after)
    (conserving : before.Conserving) : after.Conserving := by
  cases edit with
  | housekeeping _ _ same =>
      exact conserving.of_same same.sessions same.bytes same.underflow
  | prune =>
      exact Engine.pruneHistory_rule
        (fun _ _ _ found _ conserving => conserving.evict found)
        (fun _ _ conserving => conserving.of_same rfl (fun _ => rfl) rfl)
        (fun _ conserving => conserving.of_same rfl (fun _ => rfl) rfl)
        conserving
  | enroll _ _ admitted permitted =>
      exact conserving.enroll admitted permitted
  | change live performed =>
      exact conserving.change live performed
  | _ =>
      exact conserving.of_same rfl (fun _ => rfl) rfl

/-! ## Admitted bytes -/

theorem Change.admittedBytes
    (change : Change idlePermits before after) :
    after.engine.accounting.bytesIn .admitted =
      before.engine.accounting.bytesIn .admitted := by
  cases change with
  | annotate _ _ noted =>
      exact noted.engine.bytes .admitted
  | close | closeAbandoned | closeMismatched =>
      exact Focus.closeAs_bytes _ _ _ _ _ .admitted
  | unreserve =>
      rw [before.releasePathReservation_accounting.1]
  | acknowledge target evidence now =>
      exact target.acknowledge_bytes evidence _ now .admitted
  | truncate _ _ permitted =>
      exact permitted.elim
  | blurShard =>
      exact (Focus.dropActiveAttempt_bytes _ .admitted).1
  | blurAttempt target now =>
      exact (target.blur_bytes now .admitted).1
  | complete _ now =>
      exact before.completeSession_bytes now .admitted
  | _ =>
      rfl

theorem Edits.admittedBytes
    {before after : Engine} (edits : Edits idlePermits before after) :
    after.accounting.bytesAdmitted = before.accounting.bytesAdmitted := by
  induction edits with
  | refl =>
      rfl
  | tail _ edit hypothesis =>
      refine Eq.trans ?_ hypothesis
      cases edit with
      | housekeeping _ _ same =>
          exact same.bytes .admitted
      | enroll _ _ _ permitted =>
          exact permitted.elim
      | change _ performed =>
          exact performed.admittedBytes
      | prune =>
          rw [Engine.pruneHistory_eq]
      | _ =>
          rfl

/-- A committed submission admits the bytes of its manifest, and nothing
before that. -/
theorem Engine.submitSession_admits
    {request : SessionRequest}
    {fence : CommandFence} {plan : AdmissionPlan} {shaper : RateShaper}
    (planned :
      (engine.observe now).admissionPlan now request fence = .ok plan)
    (reserved :
      (engine.observe now).shaper.reservePathRate plan.path plan.rateBps =
        some shaper) :
    ((engine.observe now).drawn.makeRoom shaper now
        ((engine.observe now).newSession now request plan).id
        plan.targets).accounting.bytesAdmitted =
        engine.accounting.bytesAdmitted ∧
      (engine.submitSession now request fence).2.accounting.bytesAdmitted =
        engine.accounting.bytesAdmitted + request.manifest.totalBytes := by
  have cleared :=
    (Engine.observe_idle engine now).trans (Engine.cleared_idle planned reserved)
  have same := Edits.admittedBytes cleared
  refine ⟨same, ?_⟩
  have kept :
      (engine.observe now).drawn.shaper = (engine.observe now).shaper := rfl
  unfold Engine.submitSession
  dsimp only
  rw [planned]
  unfold Engine.commitAdmission
  dsimp only
  rw [kept, reserved, ← same]
  exact ((Engine.rememberCommand_housekeeping _ _ _).bytes .admitted).trans
    (Engine.enroll_bytes _ _ .admitted)

/-- A truncated shard admits the bytes that had arrived for it. -/
theorem EvidenceTarget.reportTruncated_admits
    {target : EvidenceTarget} (valid : target.Valid)
    (shard : ShardIndex) (now : Nanos) :
    (target.reportTruncated shard now).accounting.bytesAdmitted =
      target.focus.engine.accounting.bytesAdmitted +
        target.shard.transferredBytes := by
  have truncated : Change {} target.focus target.truncate :=
    .truncate target valid trivial
  have live := truncated.live valid.live
  have noted : Changes idlePermits.calm target.truncate
      ((target.truncate.touch now).appendTimeline now
        (ascii "shard " ++ shard.toText ++
          ascii " truncated; retry permitted")) :=
    .single (.annotate _ _ ((Annotated.touch _ now).trans
      (Annotated.appendTimeline _ now _)))
  have active : isTerminal target.truncate.session.state = false :=
    (congrArg isTerminal target.truncate_state).trans valid.active
  have ended := Changes.progressing trivial noted live active now
  exact ended.edits.admittedBytes.trans (target.truncate_bytes .admitted)

/-- A command that does not make the counter of admitted bytes smaller has
not made it wrap. -/
theorem ledgerPermits_allow
    {command : Command}
    (ordinary : ∀ snapshot, command ≠ .restore snapshot)
    (grown :
      engine.accounting.bytesAdmitted ≤
        (engine.execute now command).2.accounting.bytesAdmitted) :
    ledgerPermits.Allow engine now command := by
  refine Permits.Grounds.allow ?_ ordinary
  exact { Permits.Grounds.free engine now command with
    enroll := by
      rintro request fence plan shaper rfl planned reserved
      rcases Engine.submitSession_admits planned reserved with ⟨same, raised⟩
      change engine.accounting.bytesAdmitted ≤
        (engine.submitSession now request
          fence).2.accounting.bytesAdmitted at grown
      rw [raised] at grown
      change UInt64.toNat (AccountingSnapshot.bytesAdmitted _) + _ < _
      rw [same]
      exact Word.add_lt_of_le grown
    truncate := by
      rintro evidence fence target rfl passed truncated
      rcases Engine.verificationTarget_ok passed with ⟨holds, valid, _⟩
      have observed := Engine.observe_idle engine now
      have raised := target.reportTruncated_admits valid evidence.shard now
      have same := observed.admittedBytes
      rw [holds.engine, same] at raised
      have reached :
          (engine.execute now (.reportVerification evidence fence)).2 =
            target.reportTruncated evidence.shard now := by
        simp only [Engine.execute, Engine.reportVerification,
          Engine.guarded, passed, EvidenceTarget.verification, truncated,
          Prod.map, id_eq]
      rw [reached, raised] at grown
      change UInt64.toNat (AccountingSnapshot.bytesAdmitted _) + _ < _
      rw [holds.engine, same]
      exact Word.add_lt_of_le grown }

/-! ## Runs -/

theorem Engine.Conserving.initial (config : EngineConfig) (boot : Nanos) :
    (Engine.construct config boot).Conserving := by
  rcases Engine.construct_blank config boot with
    ⟨sessions, accounting, _, underflow⟩
  refine ⟨?_, ?_, ?_, underflow⟩
  · intro id session found
    rw [sessions] at found
    cases found
  · intro bucket _
    unfold Engine.sessionBytes
    rw [sessions]
    exact Nat.zero_le _
  · rw [accounting]
    rfl

theorem Engine.Conserving.rehash
    (conserving : engine.Conserving)
    {sessions : Table SessionId SessionRecord}
    (contracts : Table WorkloadId WorkloadContract)
    (same : sessions.entries.Perm engine.sessions.entries) :
    { engine with
      sessions := sessions
      contracts := contracts : Engine }.Conserving where
  tallied := fun id session found =>
    conserving.tallied id session ((AList.perm_lookup same).symm.trans found)
  covers := by
    intro bucket counted
    refine le_trans (le_of_eq ?_) (conserving.covers bucket counted)
    exact Table.total_perm _ same
  conserved := conserving.conserved
  underflow := conserving.underflow

theorem Engine.Conserving.run
    {config : EngineConfig} {boot : Nanos} {history : List Event}
    (run :
      Run (fun engine event next =>
          Step engine event next ∧ event.restores = false ∧
            engine.accounting.bytesAdmitted ≤
              next.accounting.bytesAdmitted)
        (Engine.construct config boot) history engine) :
    engine.Conserving := by
  refine run.invariant (Engine.Conserving.initial config boot) ?_
  rintro state event next ⟨step, ordinary, grown⟩ conserving
  cases step with
  | call now command =>
      have edits :
          Edits ledgerPermits state (state.execute now command).2 :=
        Engine.execute_edits ledgerPermits_routine state now command
          (ledgerPermits_allow (Event.ordinary_of_restores ordinary) grown)
      exact reflTransGen_preserves (fun _ _ edit => edit.conserving) edits
        conserving
  | rehash _ contracts sameSessions =>
      exact conserving.rehash contracts sameSessions

/-- In every run in which the counter of admitted bytes does not wrap, every
admitted byte is transferred, wasted, cancelled, unproven or outstanding, and
no counter was ever taken below zero. -/
theorem admitted_bytes_are_conserved
    {config : EngineConfig} {boot : Nanos} {history : List Event}
    {engine : Engine}
    (run :
      Run (fun engine event next =>
          Step engine event next ∧ event.restores = false ∧
            engine.accounting.bytesAdmitted ≤
              next.accounting.bytesAdmitted)
        (Engine.construct config boot) history engine) :
    engine.accounting.bytesAdmitted.toNat =
        engine.accounting.bytesTransferred.toNat +
          engine.accounting.bytesWasted.toNat +
          engine.accounting.bytesCancelled.toNat +
          engine.accounting.bytesUnproven.toNat +
          engine.accounting.grantedOutstandingBytes.toNat ∧
      engine.underflow = false := by
  have conserving := Engine.Conserving.run run
  exact ⟨conserving.conserved, conserving.underflow⟩

/-- A submission to the sample deployment admits two bytes, which are
outstanding. -/
theorem admitted_bytes_are_conserved_on_submission :
    let engine := ((Engine.construct Sample.config 0).execute 1
      (.submitSession (Sample.request 2 [2]) (Sample.fence 1))).2
    engine.accounting.bytesAdmitted = 2 ∧
      engine.accounting.bytesAdmitted.toNat =
        engine.accounting.bytesTransferred.toNat +
          engine.accounting.bytesWasted.toNat +
          engine.accounting.bytesCancelled.toNat +
          engine.accounting.bytesUnproven.toNat +
          engine.accounting.grantedOutstandingBytes.toNat ∧
      engine.underflow = false :=
  have grown :
      (Engine.construct Sample.config 0).accounting.bytesAdmitted ≤
        ((Engine.construct Sample.config 0).execute 1
          (.submitSession (Sample.request 2 [2])
            (Sample.fence 1))).2.accounting.bytesAdmitted := by
    decide +kernel
  ⟨by decide +kernel,
    admitted_bytes_are_conserved
      (.single ⟨.call (Engine.construct Sample.config 0) 1
        (.submitSession (Sample.request 2 [2]) (Sample.fence 1)), rfl,
        grown⟩)⟩

end TrafficFabric
