import TrafficFabric.Engine.Edits

/-!
# What the changes of a session leave to the operations

The deadline index and the buckets of the shaper are written by the
operations themselves: by a submission, by an authority change, by the
refills of a request for credit.  Among the changes of one session only a
grant touches the buckets, and none the index.
-/

namespace TrafficFabric

open Foundation

/-- The parts of an engine beside its sessions and its accounts. -/
structure Engine.Aside where
  deadlines : List (Nanos × List SessionId)
  classes : Table IsolationClass TokenBucket
  workloads : Table WorkloadId TokenBucket

def Engine.aside (engine : Engine) : Engine.Aside where
  deadlines := engine.deadlines
  classes := engine.shaper.classes
  workloads := engine.shaper.workloads

theorem RateShaper.releasePathRate_buckets
    (shaper : RateShaper) (path : PathClassId) (rateBps : UInt64) :
    (shaper.releasePathRate path rateBps).classes = shaper.classes ∧
      (shaper.releasePathRate path rateBps).workloads =
        shaper.workloads := by
  unfold RateShaper.releasePathRate
  split <;> exact ⟨rfl, rfl⟩

theorem RateShaper.reservePathRate_buckets
    {shaper after : RateShaper} {path : PathClassId} {rateBps : UInt64}
    (reserved : shaper.reservePathRate path rateBps = some after) :
    after.classes = shaper.classes ∧ after.workloads = shaper.workloads := by
  unfold RateShaper.reservePathRate at reserved
  split at reserved
  · cases reserved
    exact ⟨rfl, rfl⟩
  · split at reserved
    · cases reserved
    · cases reserved
      exact ⟨rfl, rfl⟩

namespace Focus

variable (focus : Focus)

theorem releasePathReservation_aside :
    focus.releasePathReservation.engine.aside = focus.engine.aside := by
  unfold releasePathReservation
  split
  · rfl
  · rename_i path reserved
    rcases focus.engine.shaper.releasePathRate_buckets path
      focus.session.reservedRateBps with ⟨classes, workloads⟩
    unfold Engine.aside
    dsimp only
    rw [classes, workloads]

theorem retire_aside :
    focus.retire.engine.aside = focus.engine.aside := by
  unfold retire
  split <;> rfl

theorem dropActiveAttempt_aside :
    focus.dropActiveAttempt.engine.aside = focus.engine.aside := by
  unfold dropActiveAttempt
  split <;> rfl

theorem closeAs_aside
    (state : SessionState) (reason : ReasonCode) (detail : Text)
    (now : Nanos) :
    (focus.closeAs state reason detail now).engine.aside =
      focus.engine.aside := by
  unfold closeAs
  dsimp only
  rw [releasePathReservation_aside]
  dsimp only [touch, settleReason, revise]
  rw [retire_aside]
  rfl

theorem completeSession_aside (now : Nanos) :
    (focus.completeSession now).engine.aside = focus.engine.aside := by
  have finished := (focus.finish now).releasePathReservation_aside
  unfold completeSession noteTerminal
  dsimp only [book, revise, Engine.book, Engine.deactivate]
  exact finished

end Focus

/-- Only a grant touches what stands beside the sessions, and it leaves the
deadline index alone. -/
theorem Change.aside
    {permits : Permits} {before after : Focus}
    (change : Change permits before after) :
    after.engine.aside = before.engine.aside ∨
      (∃ target, permits.grant target) ∧
        after.engine.deadlines = before.engine.deadlines := by
  cases change with
  | charge target _ _ _ _ _ permitted =>
      exact .inr ⟨⟨target, permitted⟩, rfl⟩
  | annotate _ _ noted =>
      left
      unfold Engine.aside
      rw [noted.engine.deadlines, noted.engine.shaper]
  | close _ state reason detail now =>
      exact .inl (before.closeAs_aside state reason detail now)
  | closeAbandoned _ reason detail now =>
      exact .inl (before.abandon.closeAs_aside .failed reason detail now)
  | closeMismatched target reason detail now =>
      exact .inl (target.markFailed.closeAs_aside .failed reason detail now)
  | unreserve =>
      exact .inl before.releasePathReservation_aside
  | acknowledge | blurShard =>
      exact .inl (Focus.dropActiveAttempt_aside _)
  | truncate =>
      left
      unfold EvidenceTarget.truncate
      dsimp only [Focus.book, Focus.revise, Engine.book, Focus.setShard]
      split
      · exact Focus.dropActiveAttempt_aside _
      · rfl
  | blurAttempt =>
      left
      unfold AttemptTarget.blur
      dsimp only [Focus.revise]
      split
      · exact Focus.dropActiveAttempt_aside _
      · rfl
  | complete _ now =>
      exact .inl (before.completeSession_aside now)
  | _ =>
      exact .inl rfl

theorem Engine.pruneHistory_aside (engine : Engine) :
    engine.pruneHistory.aside = engine.aside :=
  @Engine.pruneHistory_rule
    (fun reached => reached.aside = engine.aside)
    (fun _ _ _ _ _ same => same) (fun _ _ same => same)
    (fun _ same => same) engine rfl

end TrafficFabric
