import TrafficFabric.Engine.Funding
import TrafficFabric.Engine.Reservations

/-!
# Refused commands

A refused command should leave behind what the passage of time alone does.
Two kinds of refusal do not: an acknowledged transfer beyond the outstanding
authority is refused after the attempt has been rewritten, and the commands
of the operator do not look at the deadlines.
-/

namespace TrafficFabric

open Foundation

variable {engine : Engine} {now : Nanos} {status : Status}
  {target : EvidenceTarget} {fence : CommandFence}

/-- The status of a refusal. -/
def Response.refusal : Response → Option Status
  | .status (.error refused) => some refused
  | .decision (.error refused) => some refused
  | .wave (.error refused) => some refused
  | _ => none

/-- No deadline has elapsed. -/
def Engine.Undue (engine : Engine) (now : Nanos) : Prop :=
  ∀ entry ∈ engine.deadlines.head?, now < entry.1

/-- An acknowledged report stays within the outstanding bytes, and a command
that does not observe time comes before any deadline. -/
def RefusalCondition (engine : Engine) (now : Nanos) : Command → Prop
  | .reportTransfer evidence fence =>
      ∀ target,
        (engine.observe now).transferTarget evidence fence = .ok target →
        evidence.sinkAcknowledged = true →
        evidence.arrivedBytes - target.attempt.deliveredBytes ≤
          target.focus.session.outstandingBytes
  | .applyPolicy _ => engine.Undue now
  | .applyTopology _ => engine.Undue now
  | .upsertContract _ => engine.Undue now
  | .advanceEpoch _ => engine.Undue now
  | .restore _ => engine.Undue now
  | .recordDurabilityAssertion _ _ _ => engine.Undue now
  | .beginShutdown => engine.Undue now
  | _ => True

/-- Only time was observed, the count of commands aside. -/
def Engine.OnlyObserved (engine : Engine) (now : Nanos) (after : Engine) :
    Prop :=
  after =
    { engine.observe now with commandsProcessed := after.commandsProcessed }

theorem Engine.OnlyObserved.observe (engine : Engine) (now : Nanos) :
    engine.OnlyObserved now (engine.observe now) :=
  rfl

/-- Before any deadline, observing time changes nothing. -/
theorem Engine.Undue.observe
    (undue : engine.Undue now) :
    engine.observe now =
      { engine with commandsProcessed := engine.commandsProcessed + 1 } := by
  unfold Engine.Undue at undue
  unfold Engine.observe Engine.enforceDeadlines
  dsimp only
  cases listed : engine.deadlines with
  | nil =>
      rw [Engine.enforceFrom, ← listed]
  | cons entry =>
      rcases entry with ⟨deadline, due⟩
      rw [listed] at undue
      rw [Engine.enforceFrom, if_pos (undue _ rfl), ← listed]

/-- Enforcement drops the entries that are due from the index. -/
theorem Engine.enforceFrom_deadlines
    (now : Nanos) (entries : List (Nanos × List SessionId))
    (engine : Engine) :
    (enforceFrom now entries engine).deadlines =
      entries.dropWhile (fun entry => !decide (now < entry.1)) := by
  induction entries generalizing engine with
  | nil =>
      rfl
  | cons entry later hypothesis =>
      rcases entry with ⟨deadline, due⟩
      unfold enforceFrom
      split
      · rename_i ahead
        rw [List.dropWhile_cons_of_neg (by simp [ahead])]
      · rename_i elapsed
        rw [List.dropWhile_cons_of_pos (by simp [elapsed])]
        exact hypothesis _

/-- An index that enforcement leaves alone has no entry that is due. -/
theorem Engine.undue_of_deadlines
    (same : (engine.observe now).deadlines = engine.deadlines) :
    engine.Undue now := by
  intro entry first
  by_contra due
  have dropped : engine.deadlines.dropWhile
      (fun entry => !decide (now < entry.1)) = engine.deadlines :=
    (Engine.enforceFrom_deadlines now _ _).symm.trans same
  cases listed : engine.deadlines with
  | nil =>
      rw [listed] at first
      cases first
  | cons head rest =>
      rw [listed] at first dropped
      cases first
      rw [List.dropWhile_cons_of_pos (by simp [due])] at dropped
      have shorter := (List.dropWhile_suffix (l := rest)
        (fun entry => !decide (now < entry.1))).length_le
      rw [dropped, List.length_cons] at shorter
      omega

/-- An engine that did nothing is what observing time leaves exactly when no
deadline has elapsed. -/
theorem Engine.onlyObserved_iff
    (count : UInt64) :
    engine.OnlyObserved now { engine with commandsProcessed := count } ↔
      engine.Undue now := by
  constructor
  · intro same
    exact Engine.undue_of_deadlines (congrArg Engine.deadlines same).symm
  · intro undue
    unfold Engine.OnlyObserved
    rw [undue.observe]

theorem ok_ne_error {Value : Type} {value : Value} :
    (Except.ok value : Result Value) ≠ .error status :=
  nofun

/-! ## Guards -/

section

variable {Ticket Value : Type} {engine : Engine} {guard : Result Ticket}
  {body : Ticket → Result Value × Engine} {status : Status}

/-- A command whose body does not refuse is refused by its guards, before
anything is written. -/
theorem Engine.guarded_refused
    (refused : (engine.guarded guard body).1 = .error status)
    (accepts :
      ∀ ticket, guard = .ok ticket → (body ticket).1 ≠ .error status) :
    (engine.guarded guard body).2 = engine := by
  unfold Engine.guarded at refused ⊢
  split
  · rfl
  · rename_i ticket
    exact absurd refused (accepts ticket rfl)

theorem Engine.observed_refused
    (refused :
      ((engine.observe now).guarded guard body).1 = .error status)
    (accepts :
      ∀ ticket, guard = .ok ticket → (body ticket).1 ≠ .error status) :
    engine.OnlyObserved now
      ((engine.observe now).guarded guard body).2 := by
  rw [Engine.guarded_refused refused accepts]
  exact .observe engine now

theorem Engine.unobserved_refused
    (refused : (engine.guarded guard body).1 = .error status)
    (accepts :
      ∀ ticket, guard = .ok ticket → (body ticket).1 ≠ .error status) :
    engine.OnlyObserved now (engine.guarded guard body).2 ↔
      engine.Undue now := by
  rw [Engine.guarded_refused refused accepts]
  exact Engine.onlyObserved_iff engine.commandsProcessed

end

/-! ## Bodies -/

/-- A rate that was planned can be reserved once the old reservation is
released. -/
theorem Focus.Renewable.reservable
    {focus : Focus} {contract : WorkloadContract} {pathId : PathClassId}
    {rateBps : UInt64} (renewable : focus.Renewable contract pathId rateBps)
    (now : Nanos) (status : Status) :
    (focus.readmit contract pathId rateBps now).1 ≠ .error status := by
  rcases renewable.rated with ⟨envelope, path, _, found, rated⟩
  have fits := rated.fits
  rw [findPathClass_id found] at fits
  have lower :
      (focus.releasePathReservation.engine.shaper.reservedPathRate
        pathId).toNat ≤
        (focus.engine.shaper.reservedPathRate pathId).toNat := by
    unfold Focus.releasePathReservation
    split
    · exact le_rfl
    · rw [RateShaper.reserved_release]
      exact Nat.sub_le _ _
  have bounded := path.capacityBps.toNat_lt
  rcases RateShaper.reservePathRate_of_fits
      (lt_of_le_of_lt ((Nat.add_le_add_right lower _).trans fits) bounded)
    with ⟨shaper, reserved⟩
  unfold Focus.readmit
  dsimp only
  rw [reserved]
  exact nofun

theorem Focus.revalidate_accepts
    (focus : Focus) (now : Nanos) (status : Status) :
    (focus.revalidate now).1 ≠ .error status := by
  rcases focus.revalidate_cases now with
    ⟨contract, pathId, rateBps, renewable, same⟩ | ⟨made, answered, _⟩
  · rw [same]
    exact renewable.reservable now status
  · rw [answered]
    exact nofun

theorem ShardTarget.requestCredit_accepts
    (target : ShardTarget) (now : Nanos) (status : Status) :
    (target.requestCredit now).1 ≠ .error status := by
  unfold ShardTarget.requestCredit
  dsimp only
  split
  · exact nofun
  · split <;> exact nofun

theorem EvidenceTarget.transfer_accepts
    {evidence : TransferEvidence}
    (within :
      evidence.sinkAcknowledged = true →
        evidence.arrivedBytes - target.attempt.deliveredBytes ≤
          target.focus.session.outstandingBytes)
    (now : Nanos) (status : Status) :
    (target.transfer evidence now).1 ≠ .error status := by
  unfold EvidenceTarget.transfer
  dsimp only
  split
  · rename_i acknowledged
    rw [if_neg (UInt64.not_lt.mpr (within acknowledged))]
    exact nofun
  · exact nofun

/-- Beyond the outstanding bytes an acknowledged transfer rewrites the attempt
before it is refused. -/
theorem EvidenceTarget.transfer_rewrites
    {evidence : TransferEvidence}
    (valid : target.Valid) (held : target.focus.Held)
    (acknowledged : evidence.sinkAcknowledged = true)
    (beyond :
      target.focus.session.outstandingBytes <
        evidence.arrivedBytes - target.attempt.deliveredBytes)
    (now : Nanos) :
    (target.transfer evidence now).2.sessions ≠
      target.focus.engine.sessions := by
  intro same
  have stored := Focus.lookup_commit_self
    (show (target.focus.setAttempt target.attemptPosition
      (target.sighted evidence now)).Live from valid.live)
  unfold EvidenceTarget.transfer at same
  dsimp only at same
  rw [if_pos acknowledged, if_pos beyond] at same
  dsimp only at same
  rw [same] at stored
  have session := Option.some.inj (held.symm.trans stored)
  have attempts := congrArg SessionRecord.attempts session
  change _ = target.focus.session.attempts.set _ _ at attempts
  have attempt := valid.attemptAt
  rw [attempts, List.getElem?_set_self
    (List.getElem?_eq_some_iff.mp valid.attemptAt).1] at attempt
  have delivered :=
    congrArg AttemptRecord.deliveredBytes (Option.some.inj attempt)
  change evidence.arrivedBytes = _ at delivered
  rw [delivered, UInt64.sub_self] at beyond
  exact UInt64.not_lt_zero beyond

/-- Past its guards a verification is refused for a mismatch only. -/
theorem EvidenceTarget.verification_accepts
    {evidence : VerificationEvidence}
    (other : status.code ≠ .verificationMismatch) :
    (target.verification evidence now).1 ≠ .error status := by
  unfold EvidenceTarget.verification
  split
  · split
    · rintro ⟨⟩
      exact other rfl
    · split
      · rintro ⟨⟩
        exact other rfl
      · exact nofun
  all_goals exact nofun

/-! ## Commands -/

theorem Response.status_refused
    {result : Result Unit}
    (refused : (Response.status result).refusal = some status) :
    result = .error status := by
  cases result with
  | error =>
      exact congrArg Except.error (Option.some.inj refused)
  | ok =>
      cases refused

theorem Response.decision_refused
    {result : Result AdmissionDecision}
    (refused : (Response.decision result).refusal = some status) :
    result = .error status := by
  cases result with
  | error =>
      exact congrArg Except.error (Option.some.inj refused)
  | ok =>
      cases refused

theorem Response.wave_refused
    {result : Result WaveOutcome}
    (refused : (Response.wave result).refusal = some status) :
    result = .error status := by
  cases result with
  | error =>
      exact congrArg Except.error (Option.some.inj refused)
  | ok =>
      cases refused

theorem Engine.submitSession_refused
    {request : SessionRequest}
    (refused : (engine.submitSession now request fence).1 = .error status) :
    engine.OnlyObserved now (engine.submitSession now request fence).2 := by
  unfold Engine.submitSession at refused ⊢
  dsimp only at refused ⊢
  split at refused
  · rename_i rejection rejected
    cases rejection with
    | refused =>
        exact .observe engine now
    | _ =>
        cases refused
  · unfold Engine.commitAdmission at refused
    dsimp only at refused
    split at refused <;> cases refused

theorem Engine.requestWave_refused
    {id : SessionId} {index : ShardIndex}
    (refused : (engine.requestWave now id index fence).1 = .error status) :
    engine.OnlyObserved now (engine.requestWave now id index fence).2 := by
  unfold Engine.requestWave at refused ⊢
  dsimp only at refused ⊢
  cases passed : (engine.observe now).creditHolder now id fence with
  | error =>
      rw [Engine.guarded]
      exact .observe engine now
  | ok focus =>
      rw [passed, Engine.guarded] at refused
      rw [Engine.guarded]
      split at refused
      · cases refused
      · rename_i available
        rw [if_neg available]
        exact Engine.observed_refused refused
          (fun target _ => target.requestCredit_accepts now status)

theorem Engine.reportTransfer_refused
    {evidence : TransferEvidence}
    (refused : (engine.reportTransfer now evidence fence).1 = .error status) :
    engine.OnlyObserved now (engine.reportTransfer now evidence fence).2 ↔
      RefusalCondition engine now (.reportTransfer evidence fence) := by
  constructor
  · intro same target passed acknowledged
    by_contra beyond
    obtain ⟨holds, valid, _⟩ := Engine.transferTarget_ok passed
    refine target.transfer_rewrites valid holds.held acknowledged
      (UInt64.not_le.mp beyond) now ?_
    have table :
        (engine.reportTransfer now evidence fence).2.sessions =
          (engine.observe now).sessions := by
      rw [same]
    unfold Engine.reportTransfer Engine.guarded at table
    dsimp only at table
    rw [passed] at table
    rw [holds.engine]
    exact table
  · intro condition
    exact Engine.observed_refused refused
      (fun target passed => EvidenceTarget.transfer_accepts
        (condition target passed) now status)

/-- In any state a command refused for anything but a verification mismatch
leaves what observing time leaves exactly under the condition. -/
theorem refused_commands_change_nothing_iff
    {engine : Engine} {now : Nanos} {command : Command} {status : Status}
    (refused : (engine.execute now command).1.refusal = some status)
    (other : status.code ≠ .verificationMismatch) :
    engine.OnlyObserved now (engine.execute now command).2 ↔
      RefusalCondition engine now command := by
  cases command with
  | applyPolicy | applyTopology | upsertContract | advanceEpoch | restore
  | beginShutdown =>
      exact Engine.unobserved_refused (Response.status_refused refused)
        (fun _ _ => ok_ne_error)
  | submitSession =>
      exact iff_of_true (Engine.submitSession_refused
        (Response.decision_refused refused)) trivial
  | revalidateSession =>
      exact iff_of_true (Engine.observed_refused
        (Response.decision_refused refused)
        (fun focus _ => focus.revalidate_accepts now status)) trivial
  | pauseSession | resumeSession | cancelSession | reportSourceComplete
  | reportAmbiguous =>
      exact iff_of_true (Engine.observed_refused
        (Response.status_refused refused) (fun _ _ => ok_ne_error)) trivial
  | requestWave =>
      exact iff_of_true (Engine.requestWave_refused
        (Response.wave_refused refused)) trivial
  | reportTransfer =>
      exact Engine.reportTransfer_refused (Response.status_refused refused)
  | reportVerification =>
      exact iff_of_true (Engine.observed_refused
        (Response.status_refused refused)
        (fun _ _ => EvidenceTarget.verification_accepts other)) trivial
  | recordDurabilityAssertion id assertion fence =>
      have same := Engine.guarded_refused (Response.status_refused refused)
        (fun _ _ => ok_ne_error)
      rw [show (engine.execute now
        (.recordDurabilityAssertion id assertion fence)).2 = _ from same]
      exact Engine.onlyObserved_iff _
  | pollDeadlines =>
      cases refused

/-- The arrival of the two bytes that were granted again after a restart. -/
def regrantedArrival : Command :=
  .reportTransfer (Sample.arrival 2 2 0 2)
    { Sample.fence 1 with epoch := ⟨⟨2⟩, ⟨1⟩⟩ }

theorem refusalsScripts_evaluated :
    ((Sample.admittedEngine.execute 2 (.reportTransfer
         (Sample.arrival 7 1 0 2) (Sample.fence 1))).1.refusal.any
       (fun status => status.code ≠ .verificationMismatch) = true ∧
       (((Sample.admittedEngine.observe 2).transferTarget
         (Sample.arrival 7 1 0 2) (Sample.fence 1)).toOption.isNone) =
         true) ∧
      (let run := (Engine.construct Sample.config 0).executeAll regrantScript
       (run.2.execute 6 regrantedArrival).1.refusal.any
           (fun status => status.code = .impossibleState) = true ∧
         (run.2.execute 6 regrantedArrival).2.sessions.lookup
             ⟨Sample.drawn 0⟩ ≠
           (run.2.observe 6).sessions.lookup ⟨Sample.drawn 0⟩) := by
  decide +kernel

/-- A report for an attempt that was never granted is refused without a
trace. -/
theorem refused_commands_change_nothing_for_unknown_attempt :
    ∃ status,
      (Sample.admittedEngine.execute 2 (.reportTransfer
          (Sample.arrival 7 1 0 2) (Sample.fence 1))).1.refusal =
          some status ∧
        Sample.admittedEngine.OnlyObserved 2
          (Sample.admittedEngine.execute 2 (.reportTransfer
            (Sample.arrival 7 1 0 2) (Sample.fence 1))).2 := by
  have evaluated := refusalsScripts_evaluated.1
  rcases (Option.any_eq_true _ _).mp evaluated.1 with ⟨status, refused, other⟩
  refine ⟨status, refused, (refused_commands_change_nothing_iff refused
    (of_decide_eq_true other)).mpr ?_⟩
  intro target passed
  rw [passed] at evaluated
  cases evaluated.2

/-- The report is refused as impossible, and yet the attempt it names is
rewritten. -/
theorem refused_transfer_rewrites_attempt :
    ∃ history engine status,
      EngineRun Sample.config 0 history engine ∧
        (∀ event ∈ history, event.restores = false) ∧
        (engine.execute 6 regrantedArrival).1.refusal = some status ∧
        status.code = .impossibleState ∧
        (engine.execute 6 regrantedArrival).2.sessions.lookup
            ⟨Sample.drawn 0⟩ ≠
          (engine.observe 6).sessions.lookup ⟨Sample.drawn 0⟩ := by
  have evaluated := refusalsScripts_evaluated.2
  rcases (Option.any_eq_true _ _).mp evaluated.1 with ⟨status, refused, code⟩
  refine ⟨_, _, status, Engine.executeAll_run _ regrantScript, ?_, refused,
    of_decide_eq_true code, evaluated.2⟩
  simp [Engine.executeAll, regrantScript, Event.restores]

end TrafficFabric
