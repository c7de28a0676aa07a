import TrafficFabric.Engine.Generations
import TrafficFabric.Engine.Recovery
import TrafficFabric.Foundation.Recent

/-!
# Replayed submissions

A submission that is decided is remembered under its command.  While fewer
new commands than the bound of the replay index are remembered after it, the
same request is answered with the decision made then, and another request
under the same command is refused; neither touches a session, a reservation
or an account.

The argument is about three operations only.  A submission that is decided
remembers its command, a restore forgets every command, and nothing else
writes the replay index.
-/

namespace TrafficFabric

open Foundation

variable {before after engine : Engine} {command : CommandId}
  {record : CommandRecord} {rejection : Rejection} {history : List Event}
  {newer bound : Nat} {request : SessionRequest}

/-! ## The replay index of an engine -/

/-- The remembered commands, the oldest first. -/
def Engine.recent (engine : Engine) : Recent CommandId CommandRecord where
  index := engine.commandIndex
  order := engine.commandOrder

theorem Engine.recent_of_memory
    (same : after.memory = before.memory) :
    after.recent = before.recent := by
  unfold Engine.recent
  rw [show after.commandIndex = before.commandIndex from
      congrArg (fun memory => memory.1) same,
    show after.commandOrder = before.commandOrder from
      congrArg (fun memory => memory.2.1) same]

theorem Engine.rememberCommand_recent
    (fresh : command ∉ engine.commandIndex) (record : CommandRecord) :
    (engine.rememberCommand command record).recent =
      engine.recent.remember (commandBound engine.timelineBound) command
        record := by
  have dropped :
      ((engine.commandOrder ++ [command]).take
        ((engine.commandOrder ++ [command]).length -
          commandBound engine.timelineBound)).length =
        engine.commandOrder.length + 1 -
          commandBound engine.timelineBound := by
    rw [List.length_take, List.length_append, List.length_singleton]
    omega
  unfold Engine.rememberCommand Engine.recent Recent.remember Recent.forget
  dsimp only
  rw [if_neg fresh, if_neg fresh, dropped, List.length_append,
    List.length_singleton]

theorem Engine.commandBound_of_policy
    (same : after.policy = before.policy) :
    commandBound after.timelineBound = commandBound before.timelineBound := by
  unfold Engine.timelineBound
  rw [same]

theorem commandBound_pos (timelineBound : Nat) :
    0 < commandBound timelineBound :=
  lt_of_lt_of_le (by decide) (Nat.le_max_left 64 _)

/-! ## What leaves the index alone -/

namespace Focus

variable (focus : Focus)

theorem releasePathReservation_memory :
    focus.releasePathReservation.engine.memory = focus.engine.memory := by
  unfold releasePathReservation
  split <;> rfl

theorem dropActiveAttempt_memory :
    focus.dropActiveAttempt.engine.memory = focus.engine.memory := by
  unfold dropActiveAttempt
  split <;> rfl

theorem retire_memory :
    focus.retire.engine.memory = focus.engine.memory := by
  unfold retire
  split <;> rfl

theorem closeAs_memory
    (state : SessionState) (reason : ReasonCode) (detail : Text)
    (now : Nanos) :
    (focus.closeAs state reason detail now).engine.memory =
      focus.engine.memory := by
  unfold closeAs
  dsimp only
  rw [releasePathReservation_memory]
  dsimp only [touch, settleReason, revise]
  rw [retire_memory]
  rfl

theorem completeSession_memory (now : Nanos) :
    (focus.completeSession now).engine.memory = focus.engine.memory := by
  have finished := (focus.finish now).releasePathReservation_memory
  unfold completeSession noteTerminal
  dsimp only [book, revise, Engine.book, Engine.deactivate]
  exact finished

end Focus

theorem Change.memory
    {permits : Permits} {before after : Focus}
    (change : Change permits before after) :
    after.engine.memory = before.engine.memory := by
  cases change with
  | annotate _ _ noted =>
      exact noted.memory
  | close _ state reason detail now =>
      exact before.closeAs_memory state reason detail now
  | closeAbandoned _ reason detail now =>
      exact before.abandon.closeAs_memory .failed reason detail now
  | closeMismatched target reason detail now =>
      exact target.markFailed.closeAs_memory .failed reason detail now
  | unreserve =>
      exact before.releasePathReservation_memory
  | acknowledge | blurShard =>
      exact Focus.dropActiveAttempt_memory _
  | truncate =>
      unfold EvidenceTarget.truncate
      dsimp only [Focus.book, Focus.revise, Engine.book, Focus.setShard]
      split
      · exact Focus.dropActiveAttempt_memory _
      · rfl
  | blurAttempt =>
      unfold AttemptTarget.blur
      dsimp only [Focus.revise]
      split
      · exact Focus.dropActiveAttempt_memory _
      · rfl
  | complete _ now =>
      exact before.completeSession_memory now
  | _ =>
      rfl

theorem Engine.pruneHistory_memory (engine : Engine) :
    engine.pruneHistory.memory = engine.memory :=
  @Engine.pruneHistory_rule
    (fun reached => reached.memory = engine.memory)
    (fun _ _ _ _ _ same => same) (fun _ _ same => same)
    (fun _ same => same) engine rfl

theorem Engine.enroll_memory (engine : Engine) (session : SessionRecord) :
    (engine.enroll session).memory = engine.memory := by
  unfold Engine.enroll Engine.indexDeadline
  dsimp only
  split <;> rfl

/-- The permits under which no command is remembered. -/
def forgetfulPermits : Permits := { remember := False }

theorem forgetfulPermits_routine : forgetfulPermits.Routine :=
  { Permits.Routine.free with }

theorem Edit.memory
    (edit : Edit forgetfulPermits before after) :
    after.memory = before.memory := by
  cases edit with
  | housekeeping _ _ _ recalled =>
      exact recalled.resolve_left not_false
  | prune =>
      exact before.pruneHistory_memory
  | enroll _ session =>
      exact before.enroll_memory session
  | change _ performed =>
      exact performed.memory
  | _ =>
      rfl

theorem Edits.memory
    (edits : Edits forgetfulPermits before after) :
    after.memory = before.memory := by
  induction edits with
  | refl =>
      rfl
  | tail _ edit hypothesis =>
      exact edit.memory.trans hypothesis

theorem Engine.observe_memory (engine : Engine) (now : Nanos) :
    (engine.observe now).memory = engine.memory :=
  (Engine.observe_edits forgetfulPermits_routine engine now).memory

/-- Only a submission and a restore write the replay index. -/
theorem Engine.execute_memory
    (engine : Engine) (now : Nanos) {command : Command}
    (ordinary : ∀ snapshot, command ≠ .restore snapshot)
    (other : ∀ request fence, command ≠ .submitSession request fence) :
    (engine.execute now command).2.memory = engine.memory := by
  have allowed : forgetfulPermits.Allow engine now command :=
    Permits.Grounds.allow
      { Permits.Grounds.free engine now command with
        remember := fun request fence same =>
          absurd same (other request fence) } ordinary
  exact (Engine.execute_edits forgetfulPermits_routine engine now command
    allowed).memory

/-! ## What leaves the policy alone -/

/-- The permits under which no policy is adopted. -/
def settledPermits : Permits := { policy := fun _ => False }

theorem settledPermits_routine : settledPermits.Routine :=
  { Permits.Routine.free with }

theorem Edit.policy
    (edit : Edit settledPermits before after) :
    after.policy = before.policy := by
  cases edit with
  | housekeeping _ _ same =>
      exact same.policy
  | adoptPolicy _ _ _ permitted =>
      exact permitted.elim
  | prune =>
      exact congrArg Authority.policy before.pruneHistory_authority
  | enroll =>
      unfold Engine.enroll Engine.indexDeadline
      dsimp only
      split <;> rfl
  | change _ performed =>
      exact performed.framed.engine.policy
  | _ =>
      rfl

theorem Edits.policy
    (edits : Edits settledPermits before after) :
    after.policy = before.policy := by
  induction edits with
  | refl =>
      rfl
  | tail _ edit hypothesis =>
      exact edit.policy.trans hypothesis

theorem Engine.execute_policy
    (engine : Engine) (now : Nanos) {command : Command}
    (ordinary : ∀ snapshot, command ≠ .restore snapshot)
    (other : ∀ policy, command ≠ .applyPolicy policy) :
    (engine.execute now command).2.policy = engine.policy := by
  have allowed : settledPermits.Allow engine now command :=
    Permits.Grounds.allow
      { Permits.Grounds.free engine now command with
        policy := fun policy same => absurd same (other policy) } ordinary
  exact (Engine.execute_edits settledPermits_routine engine now command
    allowed).policy

/-! ## Submissions -/

/-- A fence under which a submission is decided or replayed. -/
structure Engine.FencesSubmission
    (engine : Engine) (request : SessionRequest) (fence : CommandFence) :
    Prop where
  current : engine.checkFenceStatus fence = .ok ()
  policy : request.policyGeneration = fence.policyGeneration
  topology : request.topologyGeneration = fence.topologyGeneration
  contract : request.contractGeneration = fence.contractGeneration

/-- What is remembered of a decision. -/
structure CommandRecord.Records
    (record : CommandRecord) (request : SessionRequest)
    (decision : AdmissionDecision) : Prop where
  session : record.session = decision.session
  kind : record.kind = decision.kind
  fingerprint : record.fingerprint = fingerprintRequest request

namespace Engine

variable {engine : Engine} {now : Nanos} {request : SessionRequest}
  {fence : CommandFence}

theorem FencesSubmission.observe
    (valid : engine.FencesSubmission request fence) (now : Nanos) :
    (engine.observe now).FencesSubmission request fence :=
  { valid with
    current := (checkFenceStatus_of_authority
      (engine.observe_authority now) fence).trans valid.current }

/-- The replay check under a valid fence. -/
theorem FencesSubmission.submissionFenced
    (valid : engine.FencesSubmission request fence)
    (found : engine.commandIndex.lookup request.command = some record) :
    engine.submissionFenced request fence =
      .error (if record.fingerprint = fingerprintRequest request then
          .replayed record
        else .refused (.error .replayDetected
          "command id was used for a different request")) := by
  unfold Engine.submissionFenced
  rw [valid.current, valid.policy, valid.topology, valid.contract, found]
  by_cases same : record.fingerprint = fingerprintRequest request
  · simp only [refusing, refuseWhen, ne_eq, not_true_eq_false, if_false,
      same]
    rfl
  · simp only [refusing, refuseWhen, ne_eq, not_true_eq_false, if_false,
      same, not_false_eq_true, if_true]
    rfl

theorem admissionPlan_of_fenced
    (failed : engine.submissionFenced request fence = .error rejection) :
    engine.admissionPlan now request fence = .error rejection := by
  unfold admissionPlan
  rw [failed]
  rfl

/-- Only a remembered command is replayed. -/
theorem admissionPlan_replayed
    (failed :
      engine.admissionPlan now request fence = .error (.replayed record)) :
    request.command ∈ engine.commandIndex := by
  rcases admissionPlan_origin failed trivial with
    fenced | ⟨_, _, _, _, _, _, _, wrong⟩
  · obtain ⟨_, found, _⟩ := submissionFenced_repeats fenced trivial
    exact Table.mem_of_lookup found
  · cases wrong

/-- Under a valid fence a remembered command is answered from the index. -/
theorem FencesSubmission.submitSession
    (valid : engine.FencesSubmission request fence)
    (found : engine.commandIndex.lookup request.command = some record)
    (now : Nanos) :
    engine.submitSession now request fence =
      (engine.observe now).reject now request
        (if record.fingerprint = fingerprintRequest request then
          .replayed record
        else .refused (.error .replayDetected
          "command id was used for a different request")) := by
  have known :
      (engine.observe now).commandIndex.lookup request.command =
        some record := by
    rw [show (engine.observe now).commandIndex = engine.commandIndex from
      congrArg Authority.commandIndex (engine.observe_authority now)]
    exact found
  unfold Engine.submitSession
  dsimp only
  rw [admissionPlan_of_fenced ((valid.observe now).submissionFenced known)]

/-- What a submission leaves of the replay index. -/
inductive Recollection
    (engine : Engine) (request : SessionRequest)
    (answer : Result AdmissionDecision) (after : Engine) : Prop
  | kept (same : after.recent = engine.recent)
      (undecided :
        request.command ∈ engine.commandIndex ∨
          ∃ status, answer = .error status)
  | remembered (record : CommandRecord)
      (fresh : request.command ∉ engine.commandIndex)
      (index :
        after.recent =
          engine.recent.remember (commandBound engine.timelineBound)
            request.command record)
      (bound :
        after.commandIndexBound = commandBound engine.timelineBound)
      (records :
        ∀ decision, answer = .ok decision → record.Records request decision)

theorem rememberCommand_recollection
    {before : Engine} (memory : before.memory = engine.memory)
    (policy : before.policy = engine.policy)
    (fresh : request.command ∉ engine.commandIndex)
    {record : CommandRecord} {decision : AdmissionDecision}
    (records : record.Records request decision) :
    engine.Recollection request (.ok decision)
      (before.rememberCommand request.command record) := by
  have bound := commandBound_of_policy policy
  have unknown : request.command ∉ before.commandIndex := by
    rw [show before.commandIndex = engine.commandIndex from
      congrArg (fun memory => memory.1) memory]
    exact fresh
  refine .remembered record fresh ?_ ?_ ?_
  · rw [rememberCommand_recent unknown, recent_of_memory memory, bound]
  · exact bound
  · rintro _ ⟨⟩
    exact records

/-- The answer to a submission that creates no session. -/
theorem reject_recollection
    (memory : before.memory = engine.memory)
    (policy : before.policy = engine.policy)
    (fresh : request.command ∉ engine.commandIndex)
    (unreplayed : ∀ record, rejection ≠ .replayed record) :
    engine.Recollection request (before.reject now request rejection).1
      (before.reject now request rejection).2 := by
  cases rejection with
  | refused status =>
      exact .kept (recent_of_memory memory) (.inr ⟨status, rfl⟩)
  | replayed record =>
      exact absurd rfl (unreplayed record)
  | denied | deferred =>
      exact @rememberCommand_recollection engine request (before.book _)
        memory policy fresh _ _ ⟨rfl, rfl, rfl⟩
  | duplicate =>
      exact rememberCommand_recollection memory policy fresh ⟨rfl, rfl, rfl⟩

theorem commitAdmission_recollection
    (memory : before.memory = engine.memory)
    (policy : before.policy = engine.policy)
    (fresh : request.command ∉ engine.commandIndex)
    {plan : AdmissionPlan} (admissible : before.Admissible request plan) :
    engine.Recollection request (before.commitAdmission now request plan).1
      (before.commitAdmission now request plan).2 := by
  unfold commitAdmission
  dsimp only
  split
  · exact @rememberCommand_recollection engine request (before.drawn.book _)
      memory policy fresh _ _ ⟨rfl, rfl, rfl⟩
  · rename_i shaper reserved
    have cleared := Engine.makeRoom_edits forgetfulPermits_routine.toSettling
      before.drawn shaper now (before.newSession now request plan).id
      admissible.supersedable
    have room := before.drawn.makeRoom_authority shaper now
      (before.newSession now request plan).id plan.targets
    refine rememberCommand_recollection
      ((Engine.enroll_memory _ _).trans (cleared.memory.trans memory)) ?_
      fresh ⟨rfl, rfl, rfl⟩
    have enrolled :=
      (Edit.enroll _ _ ⟨before, now, request, plan, admissible, rfl⟩ trivial :
        Edit settledPermits
          (before.drawn.makeRoom shaper now
            (before.newSession now request plan).id plan.targets) _).policy
    exact (enrolled.trans (congrArg Authority.policy room)).trans policy

theorem submitSession_recollection
    (engine : Engine) (now : Nanos) (request : SessionRequest)
    (fence : CommandFence) :
    engine.Recollection request (engine.submitSession now request fence).1
      (engine.submitSession now request fence).2 := by
  have memory := engine.observe_memory now
  have policy : (engine.observe now).policy = engine.policy :=
    congrArg Authority.policy (engine.observe_authority now)
  have index : (engine.observe now).commandIndex = engine.commandIndex :=
    congrArg (fun memory => memory.1) memory
  by_cases known : request.command ∈ engine.commandIndex
  · obtain ⟨record, found⟩ :
        ∃ record,
          (engine.observe now).commandIndex.lookup request.command =
            some record :=
      Table.exists_lookup_of_mem (index ▸ known)
    rcases submissionFenced_known found with ⟨rejection, failed, answered⟩
    unfold submitSession
    dsimp only
    rw [admissionPlan_of_fenced failed]
    refine .kept ?_ (.inl known)
    rcases answered with rfl | ⟨status, rfl⟩ <;>
      exact recent_of_memory memory
  · unfold submitSession
    dsimp only
    split
    · rename_i rejection rejected
      refine reject_recollection memory policy known ?_
      rintro record rfl
      exact known (index ▸ admissionPlan_replayed rejected)
    · rename_i plan planned
      exact commitAdmission_recollection memory policy known
        (admissionPlan_ok planned)

/-! ## Runs -/

theorem construct_recent (config : EngineConfig) (boot : Nanos) :
    (construct config boot).recent = ⟨∅, []⟩ := by
  unfold construct
  dsimp only
  split <;> rfl

theorem Recollection.recollects
    {answer : Result AdmissionDecision}
    (recollection : engine.Recollection request answer after)
    (sound : engine.recent.Sound) : after.recent.Sound := by
  cases recollection with
  | kept same =>
      rw [same]
      exact sound
  | remembered record fresh index =>
      rw [index]
      exact sound.remember (commandBound_pos _) fresh record

theorem restore_recent
    (engine : Engine) (now : Nanos) (snapshot : EngineSnapshot) :
    (engine.restore now snapshot).2.recent = engine.recent ∨
      (engine.restore now snapshot).2.recent = ⟨∅, []⟩ := by
  cases accepted : engine.restorable snapshot with
  | error =>
      rw [restore_refused accepted]
      exact .inl rfl
  | ok =>
      right
      refine (restore_keeps Engine.recent accepted (fun _ => rfl) ?_ ?_
        ?_).trans ?_
      · intro state session
        unfold Engine.recountSession
        dsimp only
        split <;> rfl
      · intro state session
        unfold Engine.indexDeadline
        split <;> rfl
      · intro focus
        unfold Focus.quiesce
        split <;> rfl
      · rfl

/-- What a command leaves of the replay index. -/
theorem execute_recent (engine : Engine) (now : Nanos) (command : Command) :
    let after := (engine.execute now command).2
    after.recent = engine.recent ∨ after.recent = ⟨∅, []⟩ ∨
      ∃ request answer, engine.Recollection request answer after := by
  by_cases restoring : ∃ snapshot, command = .restore snapshot
  · rcases restoring with ⟨snapshot, rfl⟩
    exact (engine.restore_recent now snapshot).imp_right .inl
  by_cases submitting : ∃ request fence, command = .submitSession request fence
  · rcases submitting with ⟨request, fence, rfl⟩
    exact .inr (.inr ⟨request, _,
      engine.submitSession_recollection now request fence⟩)
  · exact .inl (recent_of_memory (engine.execute_memory now
      (fun snapshot same => restoring ⟨snapshot, same⟩)
      (fun request fence same => submitting ⟨request, fence, same⟩)))

end Engine

/-- In every run the order of the replay index lists its commands, each
once. -/
theorem EngineRun.recollects
    {config : EngineConfig} {boot : Nanos}
    (run : EngineRun config boot history engine) :
    engine.recent.Sound := by
  refine @Run.invariant _ _ _ _ (fun engine => engine.recent.Sound) ?_ ?_ _ _
    run
  · rw [Engine.construct_recent]
    exact .empty
  · rintro state event next step sound
    cases step with
    | call now command =>
        rcases state.execute_recent now command with
          same | emptied | ⟨_, _, recollection⟩
        · exact same ▸ sound
        · exact emptied ▸ Recent.Sound.empty
        · exact recollection.recollects sound
    | rehash =>
        exact sound

/-- Whatever commands an engine is given, it remembers at most 4096 of them,
and the order in which it forgets them lists each of them once. -/
theorem replay_index_is_bounded
    (config : EngineConfig) (boot : Nanos) (calls : List (Nanos × Command)) :
    let engine := ((Engine.construct config boot).executeAll calls).2
    engine.commandOrder.length ≤ 4096 ∧ engine.recent.Sound := by
  have run := (Engine.construct config boot).executeAll_run calls
  refine ⟨?_, EngineRun.recollects run⟩
  refine @Run.invariant _ _ _ _
    (fun engine => engine.recent.order.length ≤ 4096) ?_ ?_ _ _ run
  · rw [Engine.construct_recent]
    exact Nat.zero_le _
  · rintro state event next step few
    cases step with
    | call now command =>
        rcases state.execute_recent now command with
          same | emptied | ⟨_, _, ⟨same, _⟩ | ⟨_, _, index, _⟩⟩
        · exact same ▸ few
        · exact emptied ▸ Nat.zero_le _
        · exact same ▸ few
        · simp [index, Recent.remember, commandBound]
          omega
    | rehash =>
        exact few

/-! ## The window of a decision -/

/-- The event is no restore and no change of authority. -/
def Event.keepsAuthority : Event → Bool
  | .call _ (.restore _) _ => false
  | .call _ (.applyPolicy _) _ => false
  | .call _ (.applyTopology _) _ => false
  | .call _ (.advanceEpoch _) _ => false
  | .call _ (.upsertContract _) _ => false
  | _ => true

/-- The number of commands that are remembered after a step and were not
before. -/
def Engine.newlyRemembered (before after : Engine) : Nat :=
  (after.commandIndex.keys.filter
    (fun command => command ∉ before.commandIndex)).length

/-- A step that keeps the authority, with the count of newly remembered
commands. -/
def WindowStep
    (before : Engine × Nat) (event : Event) (after : Engine × Nat) : Prop :=
  Step before.1 event after.1 ∧ event.keepsAuthority = true ∧
    after.2 = before.2 + before.1.newlyRemembered after.1

/-- The runs after a decision, with the number of commands newly remembered
on the way. -/
abbrev ReplayWindow (decided : Engine) (history : List Event)
    (newer : Nat) (reached : Engine) : Prop :=
  Run WindowStep (decided, 0) history (reached, newer)

/-- A window of one call that remembers nothing. -/
theorem ReplayWindow.call
    {decided : Engine} {now : Nanos} {command : Command}
    (keeps :
      ∀ response, (Event.call now command response).keepsAuthority = true)
    (nothing :
      decided.newlyRemembered (decided.execute now command).2 = 0) :
    ReplayWindow decided [.call now command (decided.execute now command).1]
      0 (decided.execute now command).2 :=
  .single ⟨.call decided now command, keeps _,
    nothing.symm.trans (Nat.zero_add _).symm⟩

/-- The index recalls a command as long as the window lasts. -/
def Engine.RecallsWithin
    (bound : Nat) (command : CommandId) (record : CommandRecord)
    (state : Engine × Nat) : Prop :=
  state.1.recent.Sound ∧ commandBound state.1.timelineBound = bound ∧
    (state.2 < bound → state.1.recent.Recalls command record state.2)

theorem Engine.newlyRemembered_pos
    (fresh : command ∉ before.commandIndex)
    (known : command ∈ after.commandIndex) :
    0 < before.newlyRemembered after := by
  refine List.length_pos_of_mem (List.mem_filter.mpr ⟨?_, decide_eq_true fresh⟩)
  exact AList.mem_keys.mpr known

theorem Engine.Recollection.recallsWithin
    {answer : Result AdmissionDecision}
    (recollection : engine.Recollection request answer after)
    (policy : after.policy = engine.policy)
    (within : Engine.RecallsWithin bound command record (engine, newer)) :
    Engine.RecallsWithin bound command record
      (after, newer + engine.newlyRemembered after) := by
  rcases within with ⟨sound, bounded, recalls⟩
  refine ⟨recollection.recollects sound,
    (Engine.commandBound_of_policy policy).trans bounded, ?_⟩
  intro few
  have recalled := recalls (lt_of_le_of_lt (Nat.le_add_right newer _) few)
  cases recollection with
  | kept same =>
      rw [same]
      exact recalled.mono (Nat.le_add_right _ _)
  | remembered entry fresh index =>
      have known : request.command ∈ after.commandIndex := by
        change request.command ∈ after.recent.index
        rw [index]
        exact (AList.mem_insert _).mpr (.inl rfl)
      have counted := Engine.newlyRemembered_pos fresh known
      rw [index, bounded]
      exact (recalled.remember sound
        (lt_of_le_of_lt (Nat.add_le_add_left counted newer) few) fresh
        entry).mono (Nat.add_le_add_left counted newer)

theorem WindowStep.recallsWithin
    {before after : Engine × Nat} {event : Event}
    (step : WindowStep before event after)
    (within : Engine.RecallsWithin bound command record before) :
    Engine.RecallsWithin bound command record after := by
  rcases before with ⟨engine, newer⟩
  rcases after with ⟨next, total⟩
  rcases step with ⟨taken, keeps, counted⟩
  dsimp only at counted
  subst counted
  cases taken with
  | call now performed =>
      have ordinary : ∀ snapshot, performed ≠ .restore snapshot := by
        rintro snapshot rfl
        cases keeps
      have policy := engine.execute_policy now ordinary (by
        rintro policy rfl
        cases keeps)
      by_cases submitting :
          ∃ request fence, performed = .submitSession request fence
      · rcases submitting with ⟨request, fence, rfl⟩
        exact (engine.submitSession_recollection now request
          fence).recallsWithin policy within
      · have memory := engine.execute_memory now ordinary
          (fun request fence same => submitting ⟨request, fence, same⟩)
        rcases within with ⟨sound, bounded, recalls⟩
        have same := Engine.recent_of_memory memory
        refine ⟨same.symm ▸ sound,
          (Engine.commandBound_of_policy policy).trans bounded, ?_⟩
        intro few
        rw [same]
        exact (recalls (lt_of_le_of_lt (Nat.le_add_right newer _)
          few)).mono (Nat.le_add_right _ _)
  | rehash =>
      rcases within with ⟨sound, bounded, recalls⟩
      exact ⟨sound, bounded, fun few =>
        (recalls (lt_of_le_of_lt (Nat.le_add_right newer _) few)).mono
          (Nat.le_add_right _ _)⟩

/-- A decision is recalled throughout its window. -/
theorem ReplayWindow.recalls
    (sound : engine.recent.Sound) {now : Nanos}
    {fence : CommandFence}
    {decision : AdmissionDecision}
    (fresh : request.command ∉ engine.commandIndex)
    (decided : (engine.submitSession now request fence).1 = .ok decision)
    {reached : Engine}
    (window :
      ReplayWindow (engine.submitSession now request fence).2 history newer
        reached)
    (few :
      newer < (engine.submitSession now request fence).2.commandIndexBound) :
    ∃ record, record.Records request decision ∧
      reached.commandIndex.lookup request.command = some record := by
  have policy :
      (engine.execute now (.submitSession request fence)).2.policy =
        engine.policy :=
    engine.execute_policy now (fun _ => nofun) (fun _ => nofun)
  have recollection := engine.submitSession_recollection now request fence
  have kept := recollection.recollects sound
  cases recollection with
  | kept _ undecided =>
      rcases undecided with known | ⟨status, refused⟩
      · exact absurd known fresh
      · rw [decided] at refused
        cases refused
  | remembered record _ index bound records =>
      rw [bound] at few
      refine ⟨record, records decision decided, ?_⟩
      have opened :
          Engine.RecallsWithin (commandBound engine.timelineBound)
            request.command record
            ((engine.submitSession now request fence).2, 0) := by
        refine ⟨kept, Engine.commandBound_of_policy policy, fun _ => ?_⟩
        rw [index]
        exact Recent.recalls_remember (commandBound_pos _) _ _
      have closed := Run.invariant opened
        (fun _ _ _ step within => WindowStep.recallsWithin step within) window
      exact (closed.2.2 few).1

/-- A decided submission is replayed throughout its window: the identical
request under a valid fence is answered with the kind and the session decided
then and only time is observed; under the same command a request with another
fingerprint is refused. -/
theorem decided_submissions_replay
    {config : EngineConfig} {boot : Nanos} {history : List Event}
    {engine : Engine} (run : EngineRun config boot history engine)
    {now : Nanos} {request : SessionRequest} {fence : CommandFence}
    {decision : AdmissionDecision}
    (fresh : request.command ∉ engine.commandIndex)
    (decided : (engine.submitSession now request fence).1 = .ok decision)
    {later : List Event} {newer : Nat} {reached : Engine}
    (window :
      ReplayWindow (engine.submitSession now request fence).2 later newer
        reached)
    (few :
      newer < (engine.submitSession now request fence).2.commandIndexBound)
    (again : Nanos) :
    (∀ valid, reached.FencesSubmission request valid →
      ∃ repeated,
        reached.submitSession again request valid =
            (.ok repeated, reached.observe again) ∧
          repeated.kind = decision.kind ∧
          repeated.session = decision.session ∧
          repeated.reason = .duplicateCommand) ∧
    (∀ other valid, reached.FencesSubmission other valid →
      other.command = request.command →
      fingerprintRequest other ≠ fingerprintRequest request →
      ∃ status,
        reached.submitSession again other valid =
            (.error status, reached.observe again) ∧
          status.code = .replayDetected) := by
  rcases window.recalls run.recollects fresh decided few with
    ⟨record, records, found⟩
  constructor
  · intro valid fenced
    rw [fenced.submitSession found again, if_pos records.fingerprint]
    exact ⟨_, rfl, records.kind, records.session, rfl⟩
  · intro other valid fenced same differs
    rw [← same] at found
    rw [fenced.submitSession found again, if_neg]
    · exact ⟨_, rfl, rfl⟩
    · rw [records.fingerprint]
      exact differs.symm

/-- The sample deployment once its first submission is decided. -/
abbrev decidedSubmission : Result AdmissionDecision × Engine :=
  (Engine.construct Sample.config 0).submitSession 1 (Sample.request 2 [2])
    (Sample.fence 1)

/-- The first submission of the sample deployment, submitted again after its
deadlines were polled. -/
theorem decided_submissions_replay_after_poll :
    ∃ decision repeated,
      decidedSubmission.1 = .ok decision ∧
        (decidedSubmission.2.execute 2 .pollDeadlines).2.submitSession 3
            (Sample.request 2 [2]) (Sample.fence 1) =
          (.ok repeated,
            (decidedSubmission.2.execute 2 .pollDeadlines).2.observe 3) ∧
        repeated.kind = decision.kind ∧
        repeated.session = decision.session ∧
        repeated.reason = .duplicateCommand := by
  have evaluated :
      decidedSubmission.1.toOption.isSome = true ∧
        decidedSubmission.2.newlyRemembered
            (decidedSubmission.2.execute 2 .pollDeadlines).2 = 0 ∧
        0 < ((Engine.construct Sample.config 0).submitSession 1
          (Sample.request 2 [2]) (Sample.fence 1)).2.commandIndexBound ∧
        ((decidedSubmission.2.execute 2 .pollDeadlines).2.checkFenceStatus
          (Sample.fence 1)).toOption.isSome = true := by
    decide +kernel
  rcases evaluated with ⟨answered, nothing, few, current⟩
  cases decided : decidedSubmission.1 with
  | error =>
      rw [decided] at answered
      cases answered
  | ok decision =>
      have window :=
        @ReplayWindow.call decidedSubmission.2 2 .pollDeadlines
          (fun _ => rfl) nothing
      have fenced :
          (decidedSubmission.2.execute 2 .pollDeadlines).2.FencesSubmission
            (Sample.request 2 [2]) (Sample.fence 1) := by
        refine ⟨?_, rfl, rfl, rfl⟩
        cases status : (decidedSubmission.2.execute 2
            .pollDeadlines).2.checkFenceStatus (Sample.fence 1) with
        | error refused =>
            rw [status] at current
            cases current
        | ok =>
            rfl
      have fresh :
          (Sample.request 2 [2]).command ∉
            (Engine.construct Sample.config 0).commandIndex := by
        change _ ∉ (Engine.construct Sample.config 0).recent.index
        rw [Engine.construct_recent]
        exact AList.notMem_empty _
      have replayed := @decided_submissions_replay Sample.config 0 []
        (Engine.construct Sample.config 0) .start 1 (Sample.request 2 [2])
        (Sample.fence 1) decision fresh decided _ _ _ window few 3
      rcases replayed.1 _ fenced with ⟨repeated, same⟩
      exact ⟨decision, repeated, rfl, same⟩

end TrafficFabric
