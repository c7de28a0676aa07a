import TrafficFabric.Engine.Settlement

/-!
# The aggregate agrees with the sessions

Every aggregate byte counter is the pruned total plus the sum over the
sessions in the table.
-/

namespace TrafficFabric

open Foundation

variable {evicting : Bool} {engine : Engine} {session : SessionRecord}

/-- What an engine whose aggregate agrees with its sessions satisfies. -/
structure Engine.Agreeing (evicting : Bool) (engine : Engine) : Prop where
  tallied :
    ∀ id session, engine.sessions.lookup id = some session →
      session.Tallied
  settling :
    ∀ id session, engine.sessions.lookup id = some session →
      session.Settling evicting
  agrees :
    ∀ bucket,
      (engine.accounting.bytesIn bucket).toNat =
        (engine.pruned.bytesIn bucket).toNat + engine.sessionBytes bucket
  conserved : engine.accounting.Conserved
  owed : engine.pruned.verified.toNat ≤ engine.pruned.admitted.toNat

/-! ## One change -/

/-- The aggregate could verify all that is admitted for the session. -/
def Focus.Owing (focus : Focus) : Prop :=
  focus.engine.accounting.bytesVerified.toNat +
      focus.session.admittedBytes.toNat ≤
    focus.engine.accounting.bytesAdmitted.toNat +
      focus.session.verifiedBytes.toNat

/-- Verified bytes are counted alike in the aggregate and in the session. -/
theorem Change.verifiedBytes
    {permits : Permits} {before after : Focus}
    (change : Change permits before after) (owing : before.Owing)
    (settling : before.session.Settling evicting)
    (settlingAfter : after.session.Settling evicting) :
    after.engine.accounting.bytesVerified.toNat +
        before.session.verifiedBytes.toNat =
      before.engine.accounting.bytesVerified.toNat +
        after.session.verifiedBytes.toNat := by
  have idle
      (aggregate :
        after.engine.accounting.bytesIn .verified =
          before.engine.accounting.bytesIn .verified)
      (session :
        after.session.verifiedBytes = before.session.verifiedBytes) :
      after.engine.accounting.bytesVerified.toNat +
          before.session.verifiedBytes.toNat =
        before.engine.accounting.bytesVerified.toNat +
          after.session.verifiedBytes.toNat := by
    have same := congrArg UInt64.toNat aggregate
    dsimp only [AccountingSnapshot.bytesIn] at same
    rw [same, session]
  cases change with
  | annotate _ _ noted =>
      exact idle (noted.engine.bytes .verified) (by rw [noted.session])
  | close =>
      exact idle (Focus.closeAs_bytes _ _ _ _ _ .verified)
        (by rw [Focus.closeAs_session])
  | closeAbandoned | closeMismatched =>
      exact idle (Focus.closeAs_bytes _ _ _ _ _ .verified)
        (by rw [Focus.closeAs_session]; rfl)
  | unreserve =>
      exact idle (by rw [before.releasePathReservation_accounting.1])
        (by rw [Focus.releasePathReservation_session])
  | acknowledge target evidence now =>
      exact idle (target.acknowledge_bytes evidence _ now .verified)
        (by rw [EvidenceTarget.acknowledge_session])
  | verify target evidence valid _ exact_ =>
      have open_ := discards_of_active valid.active
      have moved :
          checkedBytes (target.verify evidence).session.shards +
              target.shard.verifiedBytes.toNat =
            checkedBytes target.focus.session.shards +
              evidence.verifiedBytes.toNat :=
        shardTotal_set valid.shardAt _
      have own :=
        (settling.shards _ (List.mem_of_getElem? valid.shardAt)).checked
      have reported := congrArg UInt64.toNat exact_
      have summed := settling.summed open_
      have summedAfter := settlingAfter.summed open_
      have owed := settlingAfter.owed
      have admitted :
          (target.verify evidence).session.admittedBytes =
            target.focus.session.admittedBytes := rfl
      have bounded :=
        target.focus.engine.accounting.bytesAdmitted.toNat_lt
      have delta := Word.toNat_monus evidence.verifiedBytes
        target.shard.verifiedBytes
      unfold Focus.Owing at owing
      rw [admitted] at owed
      have raised :
          (target.verify evidence).engine.accounting.bytesVerified.toNat =
            target.focus.engine.accounting.bytesVerified.toNat +
              (evidence.verifiedBytes.toNat -
                target.shard.verifiedBytes.toNat) := by
        change UInt64.toNat
          (target.focus.engine.accounting.bytesVerified + ite _ _ _) = _
        rw [Word.toNat_add_of_lt (by omega), delta]
      omega
  | truncate target =>
      exact idle (target.truncate_bytes .verified)
        (by rw [EvidenceTarget.truncate_session])
  | blurShard =>
      exact idle (Focus.dropActiveAttempt_bytes _ .verified).1
        (by rw [EvidenceTarget.blur_session])
  | blurAttempt target now =>
      exact idle (target.blur_bytes now .verified).1
        (by rw [AttemptTarget.blur_session])
  | complete _ now =>
      exact idle (before.completeSession_bytes now .verified)
        (by rw [Focus.completeSession_session])
  | _ =>
      rfl

/-! ## The invariant -/

namespace Engine.Agreeing

theorem of_same
    {other : Engine} (agreeing : engine.Agreeing evicting)
    (sessions : other.sessions = engine.sessions)
    (bytes :
      ∀ bucket,
        other.accounting.bytesIn bucket = engine.accounting.bytesIn bucket)
    (pruned : other.pruned = engine.pruned) :
    other.Agreeing evicting where
  tallied := by
    rw [sessions]
    exact agreeing.tallied
  settling := by
    rw [sessions]
    exact agreeing.settling
  agrees := by
    intro bucket
    unfold Engine.sessionBytes
    rw [sessions, bytes, pruned]
    exact agreeing.agrees bucket
  conserved := agreeing.conserved.of_same (fun bucket _ => bytes bucket)
  owed := by
    rw [pruned]
    exact agreeing.owed

section

variable {before : Focus} (agreeing : before.commit.Agreeing evicting)
  (live : before.Live)

include agreeing live

theorem covered : before.Covered where
  covers := by
    intro bucket _
    have own := live.le_sessionBytes bucket
    have agrees :
        (before.engine.accounting.bytesIn bucket).toNat =
          _ + before.commit.sessionBytes bucket :=
      agreeing.agrees bucket
    omega
  conserved := agreeing.conserved

/-- No session has verified more than was admitted for it, so that all it may
still verify is admitted in the aggregate too. -/
theorem owing : before.Owing := by
  have verified :
      before.engine.accounting.bytesVerified.toNat =
        before.engine.pruned.verified.toNat +
          before.commit.sessionBytes .verified :=
    agreeing.agrees .verified
  have admitted :
      before.engine.accounting.bytesAdmitted.toNat =
        before.engine.pruned.admitted.toNat +
          before.commit.sessionBytes .admitted :=
    agreeing.agrees .admitted
  have owed :
      before.engine.pruned.verified.toNat ≤
        before.engine.pruned.admitted.toNat :=
    agreeing.owed
  have exchanged :
      before.commit.sessionBytes .verified +
          before.session.admittedBytes.toNat ≤
        before.commit.sessionBytes .admitted +
          before.session.verifiedBytes.toNat :=
    Table.total_exchange_le
      (fun session : SessionRecord => session.verifiedBytes.toNat)
      (fun id session found => (agreeing.settling id session found).owed)
      (Focus.lookup_commit_self live)
  unfold Focus.Owing
  omega

theorem change
    {after : Focus} (change : Change (settlementPermits evicting) before after)
    (contracted :
      before.session.request.workload ∈ before.engine.contracts) :
    after.commit.Agreeing evicting := by
  have held := Focus.lookup_commit_self live
  have tallied := agreeing.tallied _ _ held
  have settling := agreeing.settling _ _ held
  have covered := agreeing.covered live
  have framed := change.framed
  have balanced := change.balanced tallied covered
    (fun _ permitted => permitted)
  have settlingAfter := change.settling tallied settling contracted
    (covered.covers .admitted (by decide))
  refine ⟨?_, ?_, ?_, balanced.conserved, ?_⟩
  · exact @Change.forall_sessions _ _ _
      (fun _ session => session.Tallied) change live agreeing.tallied
      change.tallied
  · exact @Change.forall_sessions _ _ _
      (fun _ session => session.Settling evicting) change live agreeing.settling
      (fun _ => settlingAfter)
  · intro bucket
    have table := change.sessionBytes live bucket
    have own := live.le_sessionBytes bucket
    have agrees :
        (before.engine.accounting.bytesIn bucket).toNat =
          (before.engine.pruned.bytesIn bucket).toNat +
            before.commit.sessionBytes bucket :=
      agreeing.agrees bucket
    have moved :
        (after.engine.accounting.bytesIn bucket).toNat +
            (before.session.bytesIn bucket).toNat =
          (before.engine.accounting.bytesIn bucket).toNat +
            (after.session.bytesIn bucket).toNat := by
      by_cases verified : bucket = .verified
      · subst verified
        exact change.verifiedBytes (agreeing.owing live) settling
          settlingAfter
      · rcases balanced.moved bucket verified with
          moved | ⟨rfl, complete, active, kept, empty⟩
        · exact moved
        · have nothing : before.session.outstandingBytes = 0 :=
            settling.outstanding_of_reached tallied
              (discards_of_active active)
              (Focus.reached_of_isComplete complete)
          rw [kept, empty]
          exact congrArg (_ + UInt64.toNat ·) nothing
    change (after.engine.accounting.bytesIn bucket).toNat =
      (after.engine.pruned.bytesIn bucket).toNat +
        after.commit.sessionBytes bucket
    rw [framed.engine.pruned]
    omega
  · change after.engine.pruned.verified.toNat ≤
      after.engine.pruned.admitted.toNat
    rw [framed.engine.pruned]
    exact agreeing.owed

end

/-- An eviction moves the bytes of a session to the pruned totals. -/
theorem evict
    {id : SessionId}
    (agreeing : engine.Agreeing evicting)
    (evicted : evicting = true)
    (found : engine.sessions.lookup id = some session)
    (terminal : isTerminal session.state = true) :
    (engine.evict id session).Agreeing evicting := by
  have settling := agreeing.settling id session found
  have sum (bucket : Bucket) :
      ((engine.evict id session).pruned.bytesIn bucket).toNat =
        (engine.pruned.bytesIn bucket).toNat +
          (session.bytesIn bucket).toNat := by
    have agrees := agreeing.agrees bucket
    have own : (session.bytesIn bucket).toNat ≤ engine.sessionBytes bucket :=
      Table.le_total
        (fun session : SessionRecord => (session.bytesIn bucket).toNat)
        found
    have bounded := (engine.accounting.bytesIn bucket).toNat_lt
    have fits :
        (engine.pruned.bytesIn bucket).toNat +
          (session.bytesIn bucket).toNat < 2 ^ 64 := by
      omega
    cases bucket with
    | outstanding =>
        have empty :=
          congrArg UInt64.toNat (settling.settled evicted terminal)
        exact (congrArg (0 + ·) empty).symm
    | _ =>
        exact Word.toNat_add_of_lt fits
  refine ⟨?_, ?_, ?_, agreeing.conserved, ?_⟩
  · exact fun other kept stored =>
      agreeing.tallied other kept (Engine.lookup_evict stored)
  · exact fun other kept stored =>
      agreeing.settling other kept (Engine.lookup_evict stored)
  · intro bucket
    have erased := Engine.sessionBytes_evict found bucket
    have agrees := agreeing.agrees bucket
    rw [sum]
    change (engine.accounting.bytesIn bucket).toNat = _
    omega
  · have verified := sum .verified
    have admitted := sum .admitted
    have owed := agreeing.owed
    have own := settling.owed
    dsimp only [PrunedTotals.bytesIn, SessionRecord.bytesIn]
      at verified admitted
    omega

theorem enroll
    (agreeing : engine.Agreeing evicting) (admitted : session.Admitted)
    (fits :
      engine.accounting.bytesAdmitted.toNat +
        session.request.manifest.totalBytes.toNat < 2 ^ 64)
    (new : session.id ∉ engine.sessions) :
    (engine.enroll session).Agreeing evicting := by
  have table := engine.enroll_sessions session
  have pruned := (engine.enroll_frame session).1
  rcases engine.enroll_adds admitted agreeing.conserved fits with
    ⟨added, conserved⟩
  refine ⟨?_, ?_, ?_, conserved, ?_⟩
  · intro id found stored
    rcases Engine.lookup_enroll stored with known | ⟨_, rfl, _⟩
    · exact agreeing.tallied id found known
    · exact admitted.tallied
  · intro id found stored
    rcases Engine.lookup_enroll stored with known | ⟨_, rfl, _⟩
    · exact agreeing.settling id found known
    · exact admitted.settling
  · intro bucket
    have agrees := agreeing.agrees bucket
    have grown :
        (engine.enroll session).sessionBytes bucket =
          engine.sessionBytes bucket + (session.bytesIn bucket).toNat := by
      unfold Engine.sessionBytes
      rw [table, Table.emplace_of_not_mem new, Table.total_insert _ new]
    rw [added, pruned, grown]
    omega
  · rw [pruned]
    exact agreeing.owed

end Engine.Agreeing

theorem Edit.agreeing
    {before after : Engine}
    (edit : Edit (settlementPermits evicting) before after)
    (contracted : before.Contracted)
    (roomy : evicting = false → before.Roomy 0) (agreeing : before.Agreeing evicting) :
    after.Agreeing evicting := by
  cases edit with
  | housekeeping _ _ same =>
      exact agreeing.of_same same.sessions same.bytes same.pruned
  | prune _ crowded =>
      have evicted : evicting = true := by
        cases evicting with
        | true => rfl
        | false => exact absurd (roomy rfl) (Nat.not_le.mpr crowded)
      exact Engine.pruneHistory_rule
        (fun _ _ _ found terminal agreeing =>
          agreeing.evict evicted found terminal)
        (fun _ _ agreeing => agreeing.of_same rfl (fun _ => rfl) rfl)
        (fun _ agreeing => agreeing.of_same rfl (fun _ => rfl) rfl) agreeing
  | enroll _ _ admitted permitted =>
      rcases permitted with ⟨fits, new, _⟩
      exact agreeing.enroll admitted fits new
  | change live performed =>
      exact agreeing.change live performed
        (contracted _ _ (Focus.lookup_commit_self live))
  | _ =>
      exact agreeing.of_same rfl (fun _ => rfl) rfl

theorem Engine.Agreeing.initial (config : EngineConfig) (boot : Nanos) :
    (Engine.construct config boot).Agreeing evicting := by
  rcases Engine.construct_blank config boot with
    ⟨sessions, accounting, pruned, _⟩
  have absent (id : SessionId) (session : SessionRecord)
      (found :
        (Engine.construct config boot).sessions.lookup id = some session) :
      False := by
    rw [sessions] at found
    cases found
  refine ⟨fun id session found => (absent id session found).elim,
    fun id session found => (absent id session found).elim, ?_, ?_, ?_⟩
  · intro bucket
    unfold Engine.sessionBytes
    rw [sessions, accounting, pruned]
    cases bucket <;> rfl
  · rw [accounting]
    rfl
  · rw [pruned]

theorem Engine.Agreeing.rehash
    (agreeing : engine.Agreeing evicting)
    {sessions : Table SessionId SessionRecord}
    (contracts : Table WorkloadId WorkloadContract)
    (same : sessions.entries.Perm engine.sessions.entries) :
    (engine.rehashed sessions contracts).Agreeing evicting := by
  have stored {id : SessionId} {session : SessionRecord}
      (found : sessions.lookup id = some session) :
      engine.sessions.lookup id = some session :=
    (AList.perm_lookup same).symm.trans found
  refine ⟨?_, ?_, ?_, agreeing.conserved, agreeing.owed⟩
  · exact fun id session found => agreeing.tallied id session (stored found)
  · exact fun id session found => agreeing.settling id session (stored found)
  · intro bucket
    refine (agreeing.agrees bucket).trans (congrArg (_ + ·) ?_)
    exact (Table.total_perm _ same).symm

/-! ## Runs -/

/-- Admitted bytes do not wrap, a new session gets an unused identity, and
verification is reported for shards that received what they declare.  A
report that fails a session finds nothing outstanding, or else there is room
for every admitted session. -/
def AgreementCondition
    (evicting : Bool) (engine : Engine) (now : Nanos) : Command → Prop
  | .submitSession request fence =>
      ∀ plan,
        (engine.observe now).admissionPlan now request fence = .ok plan →
        engine.accounting.bytesAdmitted.toNat +
            request.manifest.totalBytes.toNat < 2 ^ 64 ∧
          ⟨(engine.observe now).idFactory.next.1⟩ ∉
            (engine.observe now).sessions ∧
          (evicting = false → (engine.observe now).Roomy 1)
  | .reportVerification evidence fence =>
      ∀ target,
        (engine.observe now).verificationTarget evidence fence =
          .ok target →
        (evidence.outcome = .verified → evidence.Matches target.shard →
          target.shard.declaredBytes ≤ target.shard.transferredBytes) ∧
        (evidence.Fails target.shard → evicting = true →
          target.focus.session.outstandingBytes = 0) ∧
        (evidence.outcome = .truncated →
          engine.accounting.bytesAdmitted.toNat +
            target.shard.transferredBytes.toNat < 2 ^ 64)
  | _ => True

instance (evicting : Bool) (engine : Engine) (now : Nanos) :
    ∀ command,
      Decidable (AgreementCondition evicting engine now command) := by
  intro command
  apply @Command.casesOn
      (fun command =>
        Decidable (AgreementCondition evicting engine now command))
      command <;>
    intros <;> unfold AgreementCondition <;> infer_instance

theorem settlementPermits_allow
    (engine : Engine) (now : Nanos) (command : Command)
    (ordinary : ∀ snapshot, command ≠ .restore snapshot)
    (condition : AgreementCondition evicting engine now command) :
    (settlementPermits evicting).Allow engine now command := by
  have observed := Engine.observe_idle engine now
  refine Permits.Grounds.allow ?_ ordinary
  exact { Permits.Grounds.free engine now command with
    enroll := by
      rintro request fence plan shaper rfl planned reserved
      rcases condition plan planned with ⟨fits, new, spare⟩
      have admissible := Engine.admissionPlan_ok planned
      have cleared := Engine.cleared_idle planned reserved
      refine ⟨?_, Edits.sessions_of_idle cleared new, ?_, ?_⟩
      · rw [(Engine.submitSession_admits planned reserved).1]
        exact fits
      · exact Edits.contracts cleared
          (Table.mem_of_lookup admissible.contract)
      · exact fun kept =>
          @reflTransGen_preserves _ _ (fun engine => engine.Roomy 1)
            (fun _ _ edit => edit.roomy (fun _ _ => False.elim)) _ _ cleared
            (spare kept)
    verify := by
      rintro evidence fence target rfl passed outcome matching
      exact UInt64.le_iff_toNat_le.mp
        ((condition target passed).1 outcome matching)
    failVerification := by
      rintro evidence fence target rfl passed
      exact (condition target passed).2.1
    truncate := by
      rintro evidence fence target rfl passed outcome
      have holds := (Engine.verificationTarget_ok passed).1
      change UInt64.toNat (AccountingSnapshot.bytesAdmitted _) + _ < _
      rw [holds.engine, Edits.admittedBytes observed]
      exact (condition target passed).2.2 outcome }

/-- Along runs that meet the condition, every aggregate byte counter is the
pruned total plus the sum over the sessions in the table. -/
theorem aggregate_agrees_with_sessions
    {config : EngineConfig} {boot : Nanos} {history : List Event}
    {engine : Engine}
    (run :
      ConditionedRun (AgreementCondition evicting) config boot history
        engine) :
    ∀ bucket,
      (engine.accounting.bytesIn bucket).toNat =
        (engine.pruned.bytesIn bucket).toNat + engine.sessionBytes bucket := by
  have invariant := @ConditionedRun.invariant (AgreementCondition evicting)
    (settlementPermits evicting)
    (fun engine => engine.Contracted ∧
      (evicting = false → engine.Roomy 0) ∧ engine.Agreeing evicting)
    settlementPermits_routine settlementPermits_allow ?_ ?_ _ _
    ⟨.initial config boot, fun _ => ?_, .initial config boot⟩ _ _ run
  · exact invariant.2.2.agrees
  · rintro before after edit ⟨contracted, roomy, agreeing⟩
    refine ⟨edit.contracted (fun _ _ permitted => permitted.2.2.1) contracted,
      fun kept => edit.roomy ?_ (roomy kept),
      edit.agreeing contracted roomy agreeing⟩
    exact fun _ _ permitted => ⟨rfl, permitted.2.2.2 kept⟩
  · rintro state sessions contracts sameSessions sameContracts
      ⟨contracted, roomy, agreeing⟩
    exact ⟨contracted.rehash sameSessions sameContracts,
      fun kept => (congrArg (· + 0) sameSessions.length_eq).trans_le
        (roomy kept),
      agreeing.rehash contracts sameSessions⟩
  · rw [Engine.Roomy, (Engine.construct_blank config boot).1]
    exact Nat.zero_le _

/-- A delivery of both bytes meets the condition; two bytes end up
transferred and none outstanding. -/
theorem aggregate_agrees_with_sessions_on_delivery :
    let engine :=
      ((Engine.construct Sample.config 0).executeAll (deliveryScript 2)).2
    engine.accounting.bytesTransferred = 2 ∧
      engine.accounting.grantedOutstandingBytes = 0 ∧
      ∀ bucket,
        (engine.accounting.bytesIn bucket).toNat =
          (engine.pruned.bytesIn bucket).toNat +
            engine.sessionBytes bucket :=
  have evaluated :
      ScriptMeets (AgreementCondition true)
          (Engine.construct Sample.config 0)
          (deliveryScript 2) ∧
        ((Engine.construct Sample.config 0).executeAll
          (deliveryScript 2)).2.accounting.bytesTransferred = 2 ∧
        ((Engine.construct Sample.config 0).executeAll
          (deliveryScript 2)).2.accounting.grantedOutstandingBytes = 0 := by
    decide +kernel
  ⟨evaluated.2.1, evaluated.2.2, aggregate_agrees_with_sessions
    (Engine.executeAll_conditioned _ evaluated.1)⟩

/-- When one of two bytes has arrived and the shard is verified all the same,
the session completes and drops the other byte, which the aggregate goes on
counting as outstanding. -/
theorem completed_session_leaves_outstanding_bytes :
    ∃ history engine,
      EngineRun Sample.config 0 history engine ∧
        (∀ event ∈ history, event.restores = false) ∧
        engine.accounting.grantedOutstandingBytes = 1 ∧
        (engine.pruned.bytesIn .outstanding).toNat +
          engine.sessionBytes .outstanding = 0 := by
  refine ⟨_, _, Engine.executeAll_run _ (deliveryScript 1), ?_, ?_⟩
  · simp [Engine.executeAll, deliveryScript, Event.restores]
  · decide +kernel

end TrafficFabric
