import TrafficFabric.Engine.Edits

/-!
# Every command is a sequence of edits

The parts of the operations are sequences of changes, edits and moves, each
under the permits it asks for.  What an operation does on its own account,
whatever its caller, is `Permits.Routine`.
-/

namespace TrafficFabric

open Foundation

variable {focus before after : Focus} {engine : Engine}
  {request : SessionRequest} {plan : AdmissionPlan} {targets : List SessionId}
  {now : Nanos} {detail : Text} {target : EvidenceTarget}
  {evidence : VerificationEvidence}

/-- What the operations do on their own account is permitted: they settle
sessions and book bytes as unproven or cancelled. -/
structure Permits.Settling (permits : Permits) : Prop where
  close : permits.close := by trivial
  unprove : ∀ focus bytes, permits.unprove focus bytes := by intros; trivial
  cancel : ∀ focus, permits.cancel focus := by intros; trivial

/-- The passage of time empties the deadline index besides. -/
structure Permits.Routine (permits : Permits) : Prop
    extends permits.Settling where
  reschedule :
    ∀ engine deadlines, permits.reschedule engine deadlines := by
    intros; trivial

/-- Permits that ask for nothing allow the routine. -/
theorem Permits.Routine.free : ({} : Permits).Routine where
  close := trivial
  unprove _ _ := trivial
  cancel _ := trivial
  reschedule _ _ := trivial

section

variable {permits : Permits}
  (closing : permits.close)
  (settling : permits.Settling)
  (routine : permits.Routine)

/-! ## Ends of operations -/

include closing in
theorem Focus.recomputeProgress_moves
    (now : Nanos) (live : focus.Live)
    (active : isTerminal focus.session.state = false) :
    Moves permits focus.commit (focus.recomputeProgress now).commit := by
  unfold Focus.recomputeProgress
  dsimp only
  split
  · rename_i condition
    have progressed :
        Changes permits focus (focus.revise SessionRecord.deriveProgress) :=
      .single (.progress focus active)
    have completed := progressed.tail
      (.complete _ now condition.1 (isTerminal_eq_false condition.2) closing)
    exact Changes.closing completed live (.refl _)
  · exact Edits.moves
      (Changes.edits (.single (.progress focus active)) live)

include closing in
theorem Focus.finishReport_moves
    (now : Nanos) (live : focus.Live)
    (active : isTerminal focus.session.state = false) :
    Moves permits focus.commit (focus.finishReport now).commit := by
  have progressed :
      Moves permits focus.commit (focus.recomputeProgress now).commit :=
    Focus.recomputeProgress_moves closing now live active
  unfold Focus.finishReport
  dsimp only
  split
  · exact progressed.trans
      (Annotated.appendTimeline _ now _).moves
  · exact progressed

/-! ## Deadlines and authority changes -/

theorem Focus.markStale_edits
    (held : focus.Held) (now : Nanos)
    {reason line : String}
    (stale : ascii reason ≠ []) :
    Edits permits focus.commit (focus.markStale now reason line) := by
  unfold Focus.markStale
  split
  · rw [held.commit]
  · rename_i condition
    have active := isTerminal_eq_false (not_or.mp condition).1
    have withdrawn :
        Changes permits focus (focus.withdraw (ascii reason)) :=
      .single (.withdraw focus _ active stale)
    refine Changes.edits (withdrawn.tail (.annotate _ _ ?_)) held.live
    exact (Annotated.touch _ now).trans
      (Annotated.appendTimeline _ now _)

theorem Focus.markUnproven_state (focus : Focus) (bytes : UInt64) :
    (focus.markUnproven bytes).session.state = focus.session.state :=
  rfl

theorem Focus.markUnproven_all (focus : Focus) :
    (focus.markUnproven
      focus.session.outstandingBytes).session.outstandingBytes = 0 := by
  simp [Focus.markUnproven]

/-- The bytes at risk may be booked after the attempts are released. -/
theorem Focus.rearm_markUnproven
    (focus : Focus) (bytes : UInt64) (now : Nanos) :
    (focus.markUnproven bytes).rearm now =
      (focus.rearm now).markUnproven bytes :=
  rfl

theorem Focus.restart_edits
    (held : focus.Held) (now : Nanos)
    (unproven :
      permits.unprove (focus.rearm now) focus.session.atRiskBytes) :
    Edits permits focus.commit (focus.restart now) := by
  unfold Focus.restart
  split
  · rw [held.commit]
  · rename_i open_
    have rearmed : Changes permits focus (focus.rearm now) :=
      .single (.rearm focus now (isTerminal_eq_false open_))
    have booked := rearmed.tail (.unprove _ _ unproven)
    rw [← Focus.rearm_markUnproven] at booked
    refine Changes.edits (booked.tail (.annotate _ _ ?_)) held.live
    exact (Annotated.touch _ now).trans
      (Annotated.appendTimeline _ now _)

include settling in
theorem Focus.expire_moves
    (held : focus.Held) (deadline now : Nanos) :
    Moves permits focus.commit (focus.expire deadline now) := by
  unfold Focus.expire
  split
  · rw [held.commit]
  · rename_i condition
    have active := isTerminal_eq_false (not_or.mp condition).1
    have unproven :
        Changes permits focus
          (focus.markUnproven focus.session.outstandingBytes) :=
      .single (.unprove focus _ (settling.unprove _ _))
    have closed := unproven.tail
      (.close _ .failed .deadlineUnreachable
        (ascii "checkpoint deadline elapsed before completion") now rfl
        (.inl active) focus.markUnproven_all settling.close)
    refine Changes.closing closed held.live ?_
    refine (Annotated.book _ ?_).trans
      (Annotated.appendTimeline _ now _)
    intro accounting
    exact ⟨fun bucket => by cases bucket <;> rfl, rfl, rfl⟩

include routine in
theorem Engine.enforceFrom_moves
    (now : Nanos) (entries : List (Nanos × List SessionId))
    (engine : Engine) :
    Moves permits engine (enforceFrom now entries engine) := by
  have rescheduled (deadlines : List (Nanos × List SessionId)) :
      Moves permits engine { engine with deadlines := deadlines } :=
    .single (.edit (.reschedule engine _ (routine.reschedule _ _)))
  induction entries generalizing engine with
  | nil =>
      exact rescheduled _
  | cons entry _ hypothesis =>
      rcases entry with ⟨deadline, due⟩
      unfold enforceFrom
      split
      · exact rescheduled _
      · exact (Engine.visit_moves
          (fun focus held => Focus.expire_moves routine.toSettling held
            deadline now)
          engine due).trans
          (hypothesis _ fun _ => .single
            (.edit (.reschedule _ _ (routine.reschedule _ _))))

include routine in
theorem Engine.observe_moves (engine : Engine) (now : Nanos) :
    Moves permits engine (engine.observe now) := by
  have counted :
      Edit permits.calm engine
        { engine with commandsProcessed := engine.commandsProcessed + 1 } :=
    .housekeeping _ _ { Housekeeping.refl engine with }
  exact .head (.edit counted) (Engine.enforceFrom_moves routine now _ _)

include routine in
theorem Engine.observe_edits (engine : Engine) (now : Nanos) :
    Edits permits engine (engine.observe now) :=
  (Engine.observe_moves routine engine now).edits

/-- Configuring the buckets leaves the reservations alone. -/
theorem Engine.configureShaper_reservations (engine : Engine) (now : Nanos) :
    (engine.configureShaper now).shaper.pathReservations =
      engine.shaper.pathReservations := by
  unfold Engine.configureShaper
  dsimp only
  refine (foldl_preserves RateShaper.pathReservations ?_ _ _).trans
    (foldl_preserves RateShaper.pathReservations ?_ _ _)
  · exact fun _ _ => rfl
  · exact fun _ _ => rfl

theorem Engine.applyPolicy_edits
    (engine : Engine) (now : Nanos) (policy : PolicySnapshot)
    (permitted : permits.policy policy)
    (reshapes : ∀ reached shaper, permits.reshape reached shaper) :
    Edits permits engine (engine.applyPolicy now policy).2 := by
  unfold Engine.applyPolicy Engine.guarded
  split
  · exact .refl
  · rename_i accepted
    simp only [bind_eq_ok, refuseWhen_eq_ok] at accepted
    rcases accepted with ⟨_, _, valid⟩
    have adopted :
        Edit permits engine { engine with policy := policy } :=
      .adoptPolicy engine policy valid permitted
    have configured :
        Edit permits { engine with policy := policy }
          ({ engine with policy := policy }.configureShaper now) :=
      .reshape _ _ (Engine.configureShaper_reservations _ now)
        (reshapes _ _)
    refine .head adopted (.head configured ?_)
    refine Engine.visit_edits (fun focus held => ?_) _ _
    exact Focus.markStale_edits held now (by simp [ascii])

theorem Engine.applyTopology_edits
    (engine : Engine) (now : Nanos) (topology : TopologySnapshot)
    (permitted : permits.topology topology) :
    Edits permits engine (engine.applyTopology now topology).2 := by
  unfold Engine.applyTopology Engine.guarded
  split
  · exact .refl
  · rename_i accepted
    simp only [bind_eq_ok, refuseWhen_eq_ok] at accepted
    rcases accepted with ⟨_, _, valid⟩
    have adopted :
        Edit permits engine { engine with topology := topology } :=
      .adoptTopology engine topology valid permitted
    refine .head adopted ?_
    refine Engine.visit_edits (fun focus held => ?_) _ _
    exact Focus.markStale_edits held now (by simp [ascii])

theorem Engine.upsertContract_edits
    (engine : Engine) (now : Nanos) (contract : WorkloadContract)
    (permitted : permits.contract contract)
    (reshapes : ∀ reached shaper, permits.reshape reached shaper) :
    Edits permits engine (engine.upsertContract now contract).2 := by
  unfold Engine.upsertContract Engine.guarded
  split
  · exact .refl
  · rename_i accepted
    have adopted :
        Edit permits engine { engine with
          contracts := engine.contracts.insert contract.workload
            contract } :=
      .adoptContract engine contract accepted permitted
    have configured :
        Edit permits
          { engine with
            contracts := engine.contracts.insert contract.workload contract }
          { engine with
            shaper := engine.shaper.configureWorkload contract.workload
              contract.ceilingBps workloadBurstWindow now
            contracts :=
              engine.contracts.insert contract.workload contract } :=
      .reshape _ _ rfl (reshapes _ _)
    refine .head adopted (.head configured ?_)
    refine Engine.visit_edits (fun focus held => ?_) _ _
    exact Focus.markStale_edits held now (by simp [ascii])

theorem Engine.advanceEpoch_edits
    (engine : Engine) (now : Nanos) (epoch : CoordinatorEpoch)
    (unproven :
      ∀ focus bytes, permits.unprove (Focus.rearm focus now) bytes)
    (permitted : permits.epoch epoch)
    (reschedules : ∀ reached, permits.reschedule reached []) :
    Edits permits engine (engine.advanceEpoch now epoch).2 := by
  unfold Engine.advanceEpoch Engine.guarded
  split
  · exact .refl
  · have adopted :
        Edit permits engine { engine with epoch := epoch } :=
      .adoptEpoch _ _ permitted
    have emptied :
        Edit permits { engine with epoch := epoch }
          { engine with epoch := epoch, deadlines := [] } :=
      .reschedule _ _ (reschedules _)
    refine .head adopted (.head emptied ?_)
    exact Engine.visit_edits
      (fun focus held => Focus.restart_edits held now
        (unproven focus _)) _ _

/-! ## Submission -/

/-- A session that may be superseded: still active, or superseded already by
an earlier mention of its identity. -/
def Engine.Supersedable (engine : Engine) (id : SessionId) : Prop :=
  ∀ session, engine.sessions.lookup id = some session →
    isTerminal session.state = false ∨ session.state = .superseded

/-- The targets of an admissible submission may be superseded. -/
theorem Engine.Admissible.supersedable
    (admissible : engine.Admissible request plan) :
    ∀ id ∈ plan.targets, engine.Supersedable id := by
  intro id target session found
  rcases admissible.targets id target with ⟨existing, known, active⟩
  rw [known] at found
  cases found
  exact .inl active

/-- The state in which `apply_supersession` leaves a session. -/
theorem Focus.supersede_eq
    (focus : Focus) (successor : SessionId) (now : Nanos) :
    ∃ after : Focus,
      focus.supersede successor now = after.commit ∧
        after.key = focus.key ∧ after.session.state = .superseded ∧
        Annotated
          ((focus.markUnproven focus.session.outstandingBytes).closeAs
            .superseded .supersededByNewerGeneration
            (ascii "superseded by checkpoint generation of session " ++
              successor.toText) now).pruneHistory after := by
  have framed := Focus.Framed.closeAs
    (focus.markUnproven focus.session.outstandingBytes) .superseded
    .supersededByNewerGeneration
    (ascii "superseded by checkpoint generation of session " ++
      successor.toText) now
  refine ⟨_, rfl, framed.key, ?_, ?_⟩
  · simp only [Focus.appendTimeline, Focus.book, Focus.revise,
      Focus.settleTerminal, Focus.pruneHistory,
      SessionRecord.appendTimeline]
    rw [Focus.closeAs_session]
  · refine ((Annotated.supersededBy _ _).trans (Annotated.book _ ?_)).trans
      (Annotated.appendTimeline _ now _)
    intro accounting
    exact ⟨fun bucket => by cases bucket <;> rfl, rfl, rfl⟩

include settling in
/-- Superseding a session keeps the other targets supersedable. -/
theorem Focus.supersede_moves
    (held : focus.Held)
    (open_ :
      isTerminal focus.session.state = false ∨
        focus.session.state = .superseded)
    (successor : SessionId) (now : Nanos) :
    Moves permits focus.commit (focus.supersede successor now) ∧
      ∀ id, focus.engine.Supersedable id →
        (focus.supersede successor now).Supersedable id := by
  rcases focus.supersede_eq successor now with
    ⟨after, same, key, state, remarked⟩
  have closed :
      Changes permits focus
        ((focus.markUnproven focus.session.outstandingBytes).closeAs
          .superseded .supersededByNewerGeneration
          (ascii "superseded by checkpoint generation of session " ++
            successor.toText) now) :=
    .tail (.single (.unprove focus _ (settling.unprove _ _)))
      (.close _ .superseded _ _ now rfl open_ focus.markUnproven_all
        settling.close)
  rw [same]
  refine ⟨Changes.closing closed held.live remarked, ?_⟩
  intro id ready session found
  by_cases own : id = focus.key
  · subst own
    rw [← key] at found
    rcases after.lookup_commit with gone | kept
    · rw [gone] at found
      cases found
    · rw [kept] at found
      cases found
      exact .inr state
  · rcases Changes.closing_confined closed remarked id own with gone | kept
    · rw [gone] at found
      cases found
    · rw [kept, held.commit] at found
      exact ready session found

include settling in
theorem Engine.makeRoom_moves
    (engine : Engine) (shaper : RateShaper) (now : Nanos)
    (successor : SessionId)
    (ready : ∀ id ∈ targets, engine.Supersedable id) :
    Moves permits { engine with shaper := shaper }
      (engine.makeRoom shaper now successor targets) := by
  have rule :
      Moves permits { engine with shaper := shaper }
          (engine.makeRoom shaper now successor targets) ∧
        ∀ id ∈ targets,
          (engine.makeRoom shaper now successor targets).Supersedable id := by
    refine @Engine.visit_rule
      (fun reached => Moves permits { engine with shaper := shaper } reached ∧
        ∀ id ∈ targets, reached.Supersedable id)
      _ _ ?_ _ ⟨.refl, ready⟩
    rintro focus held member ⟨earlier, open_⟩
    rcases Focus.supersede_moves settling held
      (open_ focus.key member focus.session held) successor now with
      ⟨superseded, kept⟩
    rw [held.commit] at superseded
    exact ⟨earlier.trans superseded, fun id target =>
      kept id (open_ id target)⟩
  exact rule.1

include settling in
theorem Engine.makeRoom_edits
    (engine : Engine) (shaper : RateShaper) (now : Nanos)
    (successor : SessionId)
    (ready : ∀ id ∈ targets, engine.Supersedable id) :
    Edits permits { engine with shaper := shaper }
      (engine.makeRoom shaper now successor targets) :=
  (Engine.makeRoom_moves settling engine shaper now successor ready).edits

theorem Engine.rememberCommand_housekeeping
    (engine : Engine) (command : CommandId) (record : CommandRecord) :
    Housekeeping engine (engine.rememberCommand command record) :=
  { Housekeeping.refl engine with }

theorem Engine.denySubmission_housekeeping
    (engine : Engine) (now : Nanos) (request : SessionRequest)
    (reason : ReasonCode) (detail : Text) :
    Housekeeping engine
      (engine.denySubmission now request reason detail).2 := by
  refine Housekeeping.trans (Housekeeping.book engine ?_)
    (Engine.rememberCommand_housekeeping _ _ _)
  intro accounting
  exact ⟨fun bucket => by cases bucket <;> rfl, rfl, rfl⟩

/-- Without a new session a submission only keeps books. -/
theorem Engine.reject_housekeeping
    (engine : Engine) (now : Nanos) (request : SessionRequest)
    (rejection : Rejection) :
    Housekeeping engine (engine.reject now request rejection).2 := by
  cases rejection with
  | refused | replayed =>
      exact Housekeeping.refl engine
  | denied =>
      exact Engine.denySubmission_housekeeping _ _ _ _ _
  | deferred =>
      refine Housekeeping.trans (Housekeeping.book engine ?_)
        (Engine.rememberCommand_housekeeping _ _ _)
      intro accounting
      exact ⟨fun bucket => by cases bucket <;> rfl, rfl, rfl⟩
  | duplicate =>
      exact Engine.rememberCommand_housekeeping _ _ _

include settling in
theorem Engine.commitAdmission_moves
    (admissible : engine.Admissible request plan)
    (remembers : permits.remember)
    (reserves : ∀ reached shaper, permits.reserve reached shaper)
    (permitted :
      ∀ shaper,
        engine.shaper.reservePathRate plan.path plan.rateBps = some shaper →
        permits.enroll
          (engine.drawn.makeRoom shaper now
            (engine.newSession now request plan).id plan.targets)
          (engine.newSession now request plan)) :
    Moves permits engine (engine.commitAdmission now request plan).2 := by
  refine .head (.edit (.draw engine)) ?_
  unfold Engine.commitAdmission
  dsimp only
  split
  · exact .single (.edit (.housekeeping _ _
      (Engine.denySubmission_housekeeping _ _ _ _ _) (.inl remembers)))
  · rename_i shaper reserved
    have cleared := Engine.makeRoom_moves settling engine.drawn shaper now
      (engine.newSession now request plan).id admissible.supersedable
    refine .head (.edit (.reserve _ _ _ _ reserved (reserves _ _))) ?_
    exact (cleared.tail (.edit (.enroll _ _ ⟨engine, now, request, plan,
      admissible, rfl⟩ (permitted shaper reserved)))).tail
      (.edit (.housekeeping _ _ (Engine.rememberCommand_housekeeping _ _ _)
        (.inl remembers)))

/-! ## Revalidation -/

include closing in
theorem Focus.failRevalidation_moves
    (held : focus.Held)
    {unproven : Focus} (settled : Changes permits focus unproven)
    (active : isTerminal unproven.session.state = false)
    (empty :
      unproven.session.outstandingBytes = 0 ∨
        unproven.engine.contracts.lookup unproven.session.request.workload =
          none)
    (permitted : permits.abandon unproven)
    (reason : ReasonCode) (detail : Text) (now : Nanos) :
    Moves permits focus.commit
      (unproven.abandon.failRevalidation reason detail now) := by
  refine Changes.closing
    (settled.tail (.closeAbandoned unproven reason detail now active empty
      permitted closing)) held.live ?_
  refine Annotated.book _ ?_
  intro accounting
  exact ⟨fun bucket => by cases bucket <;> rfl, rfl, rfl⟩

theorem Engine.indexDeadline_edits
    (engine : Engine) (session : SessionRecord)
    (permitted : ∀ deadlines, permits.reschedule engine deadlines) :
    Edits permits engine (engine.indexDeadline session) := by
  unfold Engine.indexDeadline
  split
  · exact .single (.reschedule engine _ (permitted _))
  · exact .refl

/-- What a successful revalidation of the session at a key asks for. -/
structure Permits.RenewsAt (permits : Permits) (key : SessionId) : Prop where
  renew : ∀ renewed : Focus, renewed.key = key → permits.renew renewed
  reserve : ∀ reached shaper, permits.reserve reached shaper := by
    intros; trivial
  reschedule : ∀ reached deadlines, permits.reschedule reached deadlines := by
    intros; trivial

theorem Permits.RenewsAt.calm
    {key : SessionId} (renews : permits.RenewsAt key) :
    permits.calm.RenewsAt key :=
  ⟨renews.renew, renews.reserve, renews.reschedule⟩

theorem Focus.readmit_edits
    {focus : Focus} (held : focus.Held)
    (stale :
      focus.session.state = .revalidationRequired ∨
        focus.session.state = .deferred)
    (contract : WorkloadContract) (path : PathClassId) (rateBps : UInt64)
    (now : Nanos)
    (permitted :
      ∀ decision, (focus.readmit contract path rateBps now).1 = .ok decision →
        permits.RenewsAt focus.key) :
    Edits permits focus.commit
      (focus.readmit contract path rateBps now).2 := by
  have released :
      Changes permits focus focus.releasePathReservation :=
    .single (.unreserve focus)
  unfold Focus.readmit at permitted ⊢
  dsimp only at permitted ⊢
  split
  · exact released.edits held.live
  · rename_i shaper reserved
    rw [reserved] at permitted
    have framed := Focus.Framed.releasePathReservation focus
    have stillStale :
        focus.releasePathReservation.session.state =
            .revalidationRequired ∨
          focus.releasePathReservation.session.state = .deferred := by
      rw [Focus.releasePathReservation_session]
      exact stale
    have granted := permitted _ rfl
    let shaped : Focus :=
      { focus.releasePathReservation with
        engine := { focus.releasePathReservation.engine with
          shaper := shaper } }
    have reshaped : Edit permits focus.releasePathReservation.commit
        shaped.commit :=
      .reserve _ path rateBps shaper reserved (granted.reserve _ _)
    have live : shaped.Live := released.live held.live
    let settled :=
      ((shaped.renew contract path rateBps now).touch now).settleReason
        .admitted (ascii "revalidated")
    have renewed : Changes permits shaped settled :=
      .tail (.single (.renew shaped contract path rateBps now stillStale
        (granted.renew _ framed.key)))
        (.annotate _ _ ((Annotated.touch _ now).trans
          (Annotated.settleReason _ _ _)))
    let scheduled : Focus :=
      { settled with engine := settled.engine.indexDeadline settled.session }
    have indexed : Edits permits settled.commit scheduled.commit := by
      have same : scheduled.commit =
          settled.commit.indexDeadline settled.session := by
        unfold Engine.indexDeadline Focus.commit
        dsimp only [scheduled]
        unfold Engine.indexDeadline
        split <;> rfl
      rw [same]
      exact Engine.indexDeadline_edits _ _ (granted.reschedule _)
    have remarked :
        Annotated scheduled (scheduled.appendTimeline now
          (ascii "revalidated envelope_sequence=" ++
            decimal settled.session.envelopeSequence.toNat)) :=
      Annotated.appendTimeline _ now _
    exact ((((released.edits held.live).tail reshaped).trans
      (renewed.edits live)).trans indexed).trans remarked.edits

/-- Revalidation would fail for good: the contract is gone, or no later
moment can lift the refusal of `plan_rate`. -/
def Focus.unrenewable (focus : Focus) (now : Nanos) : Bool :=
  match focus.engine.contracts.lookup focus.session.request.workload with
  | none => true
  | some contract =>
      match findEnvelope focus.engine.policy
          focus.session.envelope.isolation,
        findPathClass focus.engine.topology
          (focus.session.envelope.pathClass.getD ⟨0⟩) with
      | some envelope, some path =>
          match focus.engine.planRate focus.session.request contract envelope
              path now with
          | .error refusal => refusal.permanent
          | .ok _ => false
      | _, _ => false

include closing in
theorem Focus.revalidate_moves
    (held : focus.Held)
    (stale :
      focus.session.state = .revalidationRequired ∨
        focus.session.state = .deferred)
    (now : Nanos)
    (permitted :
      ∀ decision, (focus.revalidate now).1 = .ok decision →
        decision.kind = .admitted → permits.RenewsAt focus.key)
    (abandoned :
      focus.unrenewable now = true →
        permits.unprove focus focus.session.outstandingBytes ∧
          ∀ failed : Focus, failed.key = focus.key →
            permits.abandon failed) :
    Moves permits focus.commit (focus.revalidate now).2 := by
  have active : isTerminal focus.session.state = false := by
    rcases stale with state | state <;> rw [state] <;> rfl
  unfold Focus.unrenewable at abandoned
  unfold Focus.revalidate at permitted ⊢
  dsimp only at permitted ⊢
  split
  · rename_i unknown
    rw [unknown] at abandoned
    exact Focus.failRevalidation_moves closing held .refl active
      (.inr unknown) ((abandoned rfl).2 focus rfl) _ _ now
  · rename_i contract known
    rw [known] at permitted abandoned
    dsimp only at permitted abandoned
    split
    · rename_i envelope path configured routed
      rw [configured, routed] at permitted abandoned
      dsimp only at permitted abandoned
      split
      · rename_i refusal refused
        rw [refused] at abandoned
        split
        · rename_i permanent
          rcases abandoned permanent with ⟨unproven, failed⟩
          exact Focus.failRevalidation_moves closing held
            (.single (.unprove focus focus.session.outstandingBytes
              unproven)) active
            (.inl focus.markUnproven_all) (failed _ rfl)
            refusal.reason _ now
        · refine Edits.moves (Changes.edits (.tail (.single
            (.postpone focus _ stale ?_))
            (.annotate _ _ (Annotated.touch _ now))) held.live)
          exact List.append_ne_nil_of_left_ne_nil (by simp [ascii]) _
      · rename_i rate planned
        rw [planned] at permitted
        dsimp only at permitted
        refine Edits.moves (Focus.readmit_edits held stale _ _ _ now ?_)
        intro decision answered
        refine (permitted decision answered ?_).calm
        unfold Focus.readmit at answered
        dsimp only at answered
        split at answered
        · cases answered
        · cases answered
          rfl
    · rw [held.commit]

/-! ## Pause, resume, cancel and credit -/

theorem Focus.pause_edits
    (held : focus.Held)
    (active : isTerminal focus.session.state = false)
    (authorised : focus.session.state ≠ .revalidationRequired)
    (unpaused : focus.session.paused = false)
    (reason : Text) (now : Nanos) :
    Edits permits focus.commit (focus.pause reason now) := by
  have suspended : Changes permits focus focus.suspend :=
    .single (.suspend focus active authorised unpaused)
  refine Changes.edits (suspended.tail (.annotate _ _ ?_)) held.live
  exact ((Annotated.touch _ now).trans
    (Annotated.settleReason _ _ _)).trans
    (Annotated.appendTimeline _ now _)

theorem Focus.resume_edits
    (held : focus.Held)
    (paused : focus.session.paused = true)
    (permitted : permits.resume focus) (now : Nanos) :
    Edits permits focus.commit (focus.resume now) := by
  have reinstated : Changes permits focus focus.reinstate :=
    .single (.reinstate focus paused permitted)
  refine Changes.edits (reinstated.tail (.annotate _ _ ?_)) held.live
  exact (Annotated.touch _ now).trans
    (Annotated.appendTimeline _ now _)

include closing in
theorem Focus.cancel_moves
    (held : focus.Held)
    (active : isTerminal focus.session.state = false)
    (settles : permits.cancel focus) (reason : ReasonCode)
    (detail : Text) (now : Nanos) :
    Moves permits focus.commit (focus.cancel reason detail now) := by
  have cancelled :
      Changes permits focus focus.settleOutstandingAsCancelled :=
    .single (.cancelOutstanding focus active settles)
  have closed := cancelled.tail
    (.close _ .cancelled reason detail now rfl (.inl active) rfl closing)
  refine Changes.closing closed held.live ?_
  refine (Annotated.book _ ?_).trans (Annotated.appendTimeline _ now _)
  intro accounting
  exact ⟨fun bucket => by cases bucket <;> rfl, rfl, rfl⟩

theorem ShardTarget.issueGrant_edits
    {target : ShardTarget} {chunk : UInt64}
    (grantable : target.Grantable chunk)
    (permitted : permits.grant target) {shaper : RateShaper}
    (kept :
      shaper.pathReservations = target.focus.engine.shaper.pathReservations)
    (now : Nanos) :
    Edits permits target.focus.commit
      (target.issueGrant shaper chunk now) := by
  have charged :
      Changes permits target.focus (target.charge shaper chunk now) :=
    .single (.charge target shaper chunk now grantable kept permitted)
  refine Changes.edits (charged.tail (.annotate _ _ ?_)) grantable.live
  exact Annotated.appendTimeline _ now _

theorem ShardTarget.requestCredit_edits
    {target : ShardTarget} (held : target.focus.Held)
    (grantable : ∀ chunk, chunk ≤ Engine.remainingBytes target.shard →
      target.Grantable chunk)
    (now : Nanos)
    (reshapes : ∀ reached shaper, permits.reshape reached shaper)
    (permitted :
      ∀ outcome, (target.requestCredit now).1 = .ok outcome →
        outcome.granted = true → permits.grant target) :
    Edits permits target.focus.commit (target.requestCredit now).2 := by
  unfold ShardTarget.requestCredit at permitted ⊢
  dsimp only at permitted ⊢
  split
  · rw [held.commit]
    exact .single (.reshape _ _ (by simp) (reshapes _ _))
  · rename_i sufficient
    rw [if_neg sufficient] at permitted
    split
    · rw [held.commit]
      exact .single (.reshape _ _ (by simp) (reshapes _ _))
    · rename_i consumed
      rw [if_neg consumed] at permitted
      have within := UInt64.le_trans
        (Word.min_le_left
          (min (Engine.remainingBytes target.shard) maxGrantChunk)
          (target.focus.engine.shaper.classTokensAt
            target.focus.session.envelope.isolation now).1)
        (Word.min_le_left _ _)
      exact ShardTarget.issueGrant_edits (grantable _ within)
        (permitted _ rfl rfl) (by simp) now

/-! ## Evidence -/

include closing in
/-- A report that ends by recomputing progress, possibly completing the
session. -/
theorem Changes.progressing
    (changes : Changes permits.calm before after)
    (live : before.Live)
    (active : isTerminal after.session.state = false) (now : Nanos) :
    Moves permits before.commit (after.recomputeProgress now).commit :=
  (changes.edits live).moves.trans
    (Focus.recomputeProgress_moves closing now (changes.live live) active)

include closing in
theorem Changes.reporting
    (changes : Changes permits.calm before after)
    (live : before.Live)
    (active : isTerminal after.session.state = false) (now : Nanos) :
    Moves permits before.commit (after.finishReport now).commit :=
  (changes.edits live).moves.trans
    (Focus.finishReport_moves closing now (changes.live live) active)

include closing in
theorem ShardTarget.sourceCompleted_moves
    {target : ShardTarget} (valid : target.Valid)
    (sourceBytes : UInt64) (now : Nanos) :
    Moves permits target.focus.commit
      (target.sourceCompleted sourceBytes now) :=
  Changes.reporting closing
    (.tail (.single (.flagSource target sourceBytes valid))
      (.annotate _ _ (Annotated.touch _ now)))
    valid.live valid.active now

theorem EvidenceTarget.acknowledge_state
    (target : EvidenceTarget) (evidence : TransferEvidence)
    (newlyDelivered : UInt64) (now : Nanos) :
    (target.acknowledge evidence newlyDelivered now).session.state =
      target.focus.session.state := by
  rw [EvidenceTarget.acknowledge_session]

include closing in
theorem EvidenceTarget.transfer_moves
    (valid : target.Valid)
    {evidence : TransferEvidence}
    (within : evidence.arrivedBytes ≤ target.attempt.grantedBytes)
    (grows : target.attempt.deliveredBytes ≤ evidence.arrivedBytes)
    (permitted :
      evidence.sinkAcknowledged = true → permits.acknowledge target)
    (now : Nanos) :
    Moves permits target.focus.commit (target.transfer evidence now).2 := by
  unfold EvidenceTarget.transfer
  dsimp only
  split
  · rename_i acknowledged
    split
    · exact Edits.moves (Changes.edits (.single
        (.sight target evidence now _ valid within grows (.inl rfl)))
        valid.live)
    · rename_i funded
      refine Changes.reporting closing (.single
        (.acknowledge target evidence now valid within grows
          (UInt64.not_lt.mp funded) (permitted acknowledged))) valid.live
        ?_ now
      rw [EvidenceTarget.acknowledge_state]
      exact valid.active
  · exact Changes.reporting closing (.single
      (.sight target evidence now .deliveredUnacked valid within grows
        (.inr rfl))) valid.live valid.active now

include closing in
theorem EvidenceTarget.failVerification_moves
    (valid : target.Valid)
    (permitted : permits.failVerification target) (detail : String)
    (now : Nanos) :
    Moves permits target.focus.commit
      (target.failVerification detail now) := by
  refine Changes.closing (.single
    (.closeMismatched target .verificationMismatch (ascii detail) now valid
      permitted closing)) valid.live ?_
  refine Annotated.book _ ?_
  intro accounting
  exact ⟨fun bucket => by cases bucket <;> rfl, rfl, rfl⟩

theorem EvidenceTarget.truncate_state (target : EvidenceTarget) :
    target.truncate.session.state = target.focus.session.state := by
  rw [EvidenceTarget.truncate_session]

include closing in
theorem EvidenceTarget.reportTruncated_moves
    (valid : target.Valid)
    (permitted : permits.truncate target)
    (shard : ShardIndex) (now : Nanos) :
    Moves permits target.focus.commit
      (target.reportTruncated shard now) := by
  refine Changes.progressing closing (.tail
    (.single (.truncate target valid permitted))
    (.annotate _ _ ((Annotated.touch _ now).trans
      (Annotated.appendTimeline _ now _)))) valid.live ?_ now
  exact (congrArg isTerminal target.truncate_state).trans valid.active

/-- The remarks on an ambiguous outcome. -/
theorem Annotated.ambiguous
    (focus : Focus) (now : Nanos) (detail line : Text) :
    Annotated focus
      (((focus.touch now).settleReason .ambiguousSinkOutcome
        detail).appendTimeline now line) :=
  ((Annotated.touch _ now).trans (Annotated.settleReason _ _ detail)).trans
    (Annotated.appendTimeline _ now line)

theorem EvidenceTarget.blur_state (target : EvidenceTarget) :
    target.blur.session.state = target.focus.session.state := by
  rw [EvidenceTarget.blur_session]

include closing in
theorem EvidenceTarget.reportBlurred_moves
    (valid : target.Valid)
    (permitted : permits.blurShard target)
    (unproven :
      permits.unprove target.blur (SessionRecord.undelivered target.attempt))
    (shard : ShardIndex) (now : Nanos) :
    Moves permits target.focus.commit (target.reportBlurred shard now) := by
  have booked :
      Changes permits.calm target.focus
        (target.blur.markUnproven
          (SessionRecord.undelivered target.attempt)) :=
    .tail (.single (.blurShard target valid permitted))
      (.unprove _ _ unproven)
  have noted := Annotated.ambiguous
    (target.blur.markUnproven (SessionRecord.undelivered target.attempt))
    now (ascii "destination outcome is ambiguous")
    (ascii "shard " ++ shard.toText ++
      ascii " outcome ambiguous; unproven bytes recorded")
  refine Changes.progressing closing (booked.tail (.annotate _ _ noted)) valid.live
    ?_ now
  rw [noted.state, Focus.markUnproven_state, target.blur_state]
  exact valid.active

/-- The permits that a verification report needs. -/
def Permits.AllowVerification
    (permits : Permits) (evidence : VerificationEvidence)
    (target : EvidenceTarget) : Prop :=
  match evidence.outcome with
  | .verified =>
      if evidence.verifiedBytes ≠ target.shard.declaredBytes ∨
          (¬ target.shard.declaredDigest.isZero ∧
            evidence.verifiedDigest ≠ target.shard.declaredDigest) then
        permits.failVerification target
      else permits.verify target
  | .digestMismatch => permits.failVerification target
  | .truncated => permits.truncate target
  | .ambiguous => permits.blurShard target
  | .rejected => permits.blurShard target

/-- The destination verified exactly what the shard declares. -/
def VerificationEvidence.Matches
    (evidence : VerificationEvidence) (shard : ShardRecord) : Prop :=
  evidence.verifiedBytes = shard.declaredBytes ∧
    (shard.declaredDigest.isZero = true ∨
      evidence.verifiedDigest = shard.declaredDigest)

instance (evidence : VerificationEvidence) (shard : ShardRecord) :
    Decidable (evidence.Matches shard) :=
  inferInstanceAs (Decidable (_ ∧ _))

/-- The report fails the session. -/
def VerificationEvidence.Fails
    (evidence : VerificationEvidence) (shard : ShardRecord) : Prop :=
  (evidence.outcome = .verified ∧ ¬ evidence.Matches shard) ∨
    evidence.outcome = .digestMismatch

instance (evidence : VerificationEvidence) (shard : ShardRecord) :
    Decidable (evidence.Fails shard) :=
  inferInstanceAs (Decidable (_ ∨ _))

theorem Permits.allowVerification_of
    (verified :
      evidence.outcome = .verified → evidence.Matches target.shard →
        permits.verify target)
    (failed :
      evidence.Fails target.shard → permits.failVerification target)
    (truncated :
      evidence.outcome = .truncated → permits.truncate target)
    (blurred :
      evidence.outcome = .ambiguous ∨ evidence.outcome = .rejected →
        permits.blurShard target) :
    permits.AllowVerification evidence target := by
  unfold Permits.AllowVerification
  split
  · rename_i outcome
    split
    · rename_i mismatch
      refine failed (.inl ⟨outcome, ?_⟩)
      rintro ⟨sizes, digests⟩
      rcases mismatch with size | ⟨given, digest⟩
      · exact size sizes
      · exact digests.elim given digest
    · rename_i matching
      rw [not_or, not_and_or, not_not, not_not, not_not] at matching
      exact verified outcome matching
  · rename_i outcome
    exact failed (.inr outcome)
  · rename_i outcome
    exact truncated outcome
  · rename_i outcome
    exact blurred (.inl outcome)
  · rename_i outcome
    exact blurred (.inr outcome)

include closing in
theorem EvidenceTarget.verification_moves
    (valid : target.Valid)
    (acked :
      evidence.outcome = .verified →
        target.attempt.outcome = .deliveredAcked ∨
          target.attempt.outcome = .verified)
    (allowed : permits.AllowVerification evidence target)
    (unproven :
      evidence.outcome = .ambiguous ∨ evidence.outcome = .rejected →
        permits.unprove target.blur
          (SessionRecord.undelivered target.attempt))
    (now : Nanos) :
    Moves permits target.focus.commit
      (target.verification evidence now).2 := by
  unfold EvidenceTarget.verification
  unfold Permits.AllowVerification at allowed
  split
  · rename_i verified
    rw [verified] at allowed
    dsimp only at allowed
    split
    · rename_i short
      rw [if_pos (.inl short)] at allowed
      exact EvidenceTarget.failVerification_moves closing valid allowed _ now
    · rename_i exact_
      split
      · rename_i mismatch
        rw [if_pos (.inr mismatch)] at allowed
        exact EvidenceTarget.failVerification_moves closing valid allowed _ now
      · rename_i matching
        rw [if_neg (not_or.mpr ⟨exact_, matching⟩)] at allowed
        exact Changes.reporting closing (.single
          (.verify target evidence valid (acked verified)
            (not_not.mp exact_) allowed)) valid.live valid.active now
  · rename_i mismatch
    rw [mismatch] at allowed
    exact EvidenceTarget.failVerification_moves closing valid allowed _ now
  · rename_i truncated
    rw [truncated] at allowed
    exact EvidenceTarget.reportTruncated_moves closing valid allowed _ now
  · rename_i ambiguous
    rw [ambiguous] at allowed
    exact EvidenceTarget.reportBlurred_moves closing valid allowed
      (unproven (.inl ambiguous)) _ now
  · rename_i rejected
    rw [rejected] at allowed
    exact EvidenceTarget.reportBlurred_moves closing valid allowed
      (unproven (.inr rejected)) _ now

theorem AttemptTarget.blur_state (target : AttemptTarget) (now : Nanos) :
    (target.blur now).session.state = target.focus.session.state := by
  rw [AttemptTarget.blur_session]

include closing in
theorem AttemptTarget.recordAmbiguity_moves
    {target : AttemptTarget} (valid : target.Valid)
    (permittedBlur : permits.blurAttempt target) (cause : Text)
    (now : Nanos)
    (unproven :
      permits.unprove (target.blur now)
        (SessionRecord.undelivered target.attempt)) :
    Moves permits target.focus.commit
      (target.recordAmbiguity cause now) := by
  have booked :
      Changes permits.calm target.focus
        ((target.blur now).markUnproven
          (SessionRecord.undelivered target.attempt)) :=
    .tail (.single (.blurAttempt target now valid permittedBlur))
      (.unprove _ _ unproven)
  have noted := Annotated.ambiguous
    ((target.blur now).markUnproven
      (SessionRecord.undelivered target.attempt))
    now cause (ascii "ambiguity recorded: " ++ cause)
  refine Changes.progressing closing (booked.tail (.annotate _ _ noted)) valid.live
    ?_ now
  rw [noted.state, Focus.markUnproven_state, target.blur_state]
  exact valid.active

end

end TrafficFabric
