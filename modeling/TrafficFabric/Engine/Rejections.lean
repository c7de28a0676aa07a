import TrafficFabric.Engine.Script

/-!
# Submissions that admit nothing

An error, a denial, a deferral and the answer to a repeated submission leave
the sessions, their indexes, the reservations and the ledger as observing time
leaves them.  The checks write nothing, and the last refusal, an overflow of
the path reservation, comes when an identity has been drawn and a record built
for it but before either is entered anywhere.
-/

namespace TrafficFabric

open Foundation

/-- An answer that admits no session: an error, a denial, a deferral or a
duplicate. -/
def NonAdmitting (answer : Result AdmissionDecision) : Prop :=
  ∀ decision, answer = .ok decision →
    decision.kind = .denied ∨ decision.kind = .deferred ∨
      decision.reason = .duplicateCommand

instance : (answer : Result AdmissionDecision) → Decidable (NonAdmitting answer)
  | .error _ => .isTrue fun _ same => by cases same
  | .ok decision =>
      decidable_of_iff
        (decision.kind = .denied ∨ decision.kind = .deferred ∨
          decision.reason = .duplicateCommand)
        ⟨fun holds _ same => Except.ok.inj same ▸ holds,
          fun holds => holds decision rfl⟩

/-- The sessions, their indexes, the reservations, the active counters and
the ledger are the same, but for what counts denied and deferred
submissions. -/
structure Engine.Untouched (before after : Engine) : Prop where
  sessions : after.sessions = before.sessions
  byCheckpoint : after.byCheckpoint = before.byCheckpoint
  byWorkload : after.byWorkload = before.byWorkload
  shaper : after.shaper = before.shaper
  classActive : after.classActive = before.classActive
  workloadActive : after.workloadActive = before.workloadActive
  accounting :
    { after.accounting with
      bytesDeferred := before.accounting.bytesDeferred
      sessionsDeferred := before.accounting.sessionsDeferred
      sessionsDenied := before.accounting.sessionsDenied } =
      before.accounting

namespace Engine.Untouched

theorem refl (engine : Engine) : engine.Untouched engine :=
  ⟨rfl, rfl, rfl, rfl, rfl, rfl, rfl⟩

theorem rememberCommand
    (engine : Engine) (command : CommandId) (record : CommandRecord) :
    engine.Untouched (engine.rememberCommand command record) :=
  ⟨rfl, rfl, rfl, rfl, rfl, rfl, rfl⟩

theorem denySubmission
    (engine : Engine) (now : Nanos) (request : SessionRequest)
    (reason : ReasonCode) (detail : Text) :
    engine.Untouched (engine.denySubmission now request reason detail).2 :=
  ⟨rfl, rfl, rfl, rfl, rfl, rfl, rfl⟩

theorem deferSubmission
    (engine : Engine) (now : Nanos) (request : SessionRequest)
    (reason : ReasonCode) (detail : Text) (retryAfter : Nanos) :
    engine.Untouched
      (engine.deferSubmission now request reason detail retryAfter).2 :=
  ⟨rfl, rfl, rfl, rfl, rfl, rfl, rfl⟩

/-- Drawing an identity is seen by the identity source alone. -/
theorem of_drawn {engine after : Engine} (same : engine.drawn.Untouched after) :
    engine.Untouched after :=
  ⟨same.sessions, same.byCheckpoint, same.byWorkload, same.shaper,
    same.classActive, same.workloadActive, same.accounting⟩

theorem reject
    (engine : Engine) (now : Nanos) (request : SessionRequest)
    (rejection : Rejection) :
    engine.Untouched (engine.reject now request rejection).2 := by
  cases rejection with
  | refused | replayed =>
      exact refl engine
  | denied reason detail =>
      exact denySubmission engine now request reason detail
  | deferred reason detail retryAfter =>
      exact deferSubmission engine now request reason detail retryAfter
  | duplicate =>
      exact rememberCommand engine request.command _

end Engine.Untouched

/-- Whatever the state, a submission that admits nothing leaves what
observing time leaves. -/
theorem non_admitting_submission_leaves_no_trace
    (engine : Engine) (now : Nanos) (request : SessionRequest)
    (fence : CommandFence)
    (answer : NonAdmitting (engine.submitSession now request fence).1) :
    (engine.observe now).Untouched
      (engine.submitSession now request fence).2 := by
  unfold Engine.submitSession at answer ⊢
  dsimp only at answer ⊢
  split
  · exact .reject _ _ _ _
  · rename_i plan planned
    rw [planned] at answer
    unfold Engine.commitAdmission at answer ⊢
    dsimp only at answer ⊢
    split
    · exact .of_drawn (.denySubmission _ _ _ _ _)
    · rename_i shaper reserved
      rw [reserved] at answer
      -- An admission answers with its own reason.
      rcases answer _ rfl with denied | deferred | duplicate
      · cases denied
      · cases deferred
      · cases duplicate

/-- An engine that has admitted one session. -/
def occupiedEngine : Engine :=
  ((Engine.construct Sample.config 0).executeAll
    [(1, .submitSession (Sample.request 3 [5]) (Sample.fence 1))]).2

/-- The same submission again. -/
theorem repeated_submission_leaves_no_trace :
    NonAdmitting
        (occupiedEngine.submitSession 2 (Sample.request 3 [5])
          (Sample.fence 1)).1 ∧
      (occupiedEngine.observe 2).Untouched
        (occupiedEngine.submitSession 2 (Sample.request 3 [5])
          (Sample.fence 1)).2 := by
  have answer :
      NonAdmitting
        (occupiedEngine.submitSession 2 (Sample.request 3 [5])
          (Sample.fence 1)).1 := by
    decide +kernel
  exact And.intro answer
    (non_admitting_submission_leaves_no_trace occupiedEngine 2
      (Sample.request 3 [5]) (Sample.fence 1) answer)

end TrafficFabric
