import TrafficFabric.Engine.Coverage

/-!
# The standing of a session

Whether a session may hold credit is spread over four of its fields: the
state, the stale reason, the paused flag and the state it was paused from.
`Accountable` is the rule that ties them together: an active session either
has no stale reason, and then its authority is in order, or it is in a state
that asks for revalidation.
-/

namespace TrafficFabric

open Foundation

variable {InOrder : Prop} {session other : SessionRecord} {id : SessionId}
  {state : SessionState}

/-- The rule for an active session whose authority is in order when
`InOrder` holds. -/
structure SessionRecord.Accountable
    (InOrder : Prop) (session : SessionRecord) : Prop where
  fresh : session.staleReason = [] → InOrder
  stale :
    session.staleReason ≠ [] →
      session.state = .revalidationRequired ∨ session.state = .deferred ∨
        (session.state = .paused ∧ session.pausedFrom = .deferred)
  withdrawn :
    session.state = .revalidationRequired → session.staleReason ≠ []
  suspended : session.state = .paused → session.paused = true
  interrupted :
    session.paused = true →
      session.pausedFrom ≠ .paused ∧
        session.pausedFrom ≠ .revalidationRequired

namespace SessionRecord

theorem Accountable.mono
    {Larger : Prop}
    (accountable : session.Accountable InOrder)
    (included : session.staleReason = [] → InOrder → Larger) :
    session.Accountable Larger :=
  { accountable with
    fresh := fun clean => included clean (accountable.fresh clean) }

/-- Only the four fields matter. -/
theorem Accountable.of_same
    (accountable : session.Accountable InOrder)
    (state : other.state = session.state)
    (staleReason : other.staleReason = session.staleReason)
    (paused : other.paused = session.paused)
    (pausedFrom : other.pausedFrom = session.pausedFrom) :
    other.Accountable InOrder where
  fresh := by rw [staleReason]; exact accountable.fresh
  stale := by
    rw [staleReason, state, pausedFrom]
    exact accountable.stale
  withdrawn := by rw [staleReason, state]; exact accountable.withdrawn
  suspended := by rw [state, paused]; exact accountable.suspended
  interrupted := by rw [paused, pausedFrom]; exact accountable.interrupted

/-- A session that asks for revalidation. -/
theorem Accountable.of_stale
    (stale : session.staleReason ≠ [])
    (state :
      session.state = .revalidationRequired ∨ session.state = .deferred)
    (interrupted :
      session.paused = true →
        session.pausedFrom ≠ .paused ∧
          session.pausedFrom ≠ .revalidationRequired) :
    session.Accountable InOrder where
  fresh := fun clean => absurd clean stale
  stale := fun _ => by tauto
  withdrawn := fun _ => stale
  suspended := by
    intro paused
    rcases state with other | other <;> rw [paused] at other <;> cases other
  interrupted := interrupted

/-- A session in order, in a state of ordinary progress. -/
theorem Accountable.of_clean
    (clean : session.staleReason = []) (inOrder : InOrder)
    (withdrawn : session.state ≠ .revalidationRequired)
    (suspended : session.state = .paused → session.paused = true)
    (interrupted :
      session.paused = true →
        session.pausedFrom ≠ .paused ∧
          session.pausedFrom ≠ .revalidationRequired) :
    session.Accountable InOrder where
  fresh := fun _ => inOrder
  stale := fun stale => absurd clean stale
  withdrawn := fun required => absurd required withdrawn
  suspended := suspended
  interrupted := interrupted

/-- A derived state is one of ordinary progress, or the state that was
held. -/
theorem derivedState_cases (session : SessionRecord) :
    (holdsState session.state = true ∧
        session.derivedState = session.state) ∨
      (holdsState session.state = false ∧
        isTerminal session.derivedState = false ∧
        holdsState session.derivedState = false) := by
  unfold derivedState
  split
  · rename_i held
    exact .inl ⟨held, rfl⟩
  · rename_i free
    refine .inr ⟨Bool.eq_false_iff.mpr free, ?_⟩
    split_ifs <;> exact ⟨rfl, rfl⟩

/-- Recomputing the progress of an active session does not end it. -/
theorem derivedState_active
    (session : SessionRecord) (active : isTerminal session.state = false) :
    isTerminal session.derivedState = false := by
  rcases session.derivedState_cases with ⟨_, same⟩ | ⟨_, open_, _⟩
  · rw [same]
    exact active
  · exact open_

theorem holdsState_of_stale
    (accountable : session.Accountable InOrder)
    (stale : session.staleReason ≠ []) :
    holdsState session.state = true := by
  rcases accountable.stale stale with state | state | ⟨state, _⟩ <;>
    rw [state] <;> rfl

theorem deriveProgress_accountable
    (accountable : session.Accountable InOrder) :
    session.deriveProgress.Accountable InOrder := by
  rcases session.derivedState_cases with ⟨_, same⟩ | ⟨free, _, unheld⟩
  · exact accountable.of_same same rfl rfl rfl
  · have clean : session.staleReason = [] := by
      by_contra stale
      rw [holdsState_of_stale accountable stale] at free
      cases free
    refine .of_clean clean (accountable.fresh clean) ?_ ?_
      accountable.interrupted
    · intro required
      have : session.derivedState = .revalidationRequired := required
      rw [this] at unheld
      cases unheld
    · intro paused
      have : session.derivedState = .paused := paused
      rw [this] at unheld
      cases unheld

end SessionRecord

/-! ## Changes keep the rule -/

/-- The rule for a session under its key. -/
def Standing
    (InOrder : SessionId → WorkloadId → Prop)
    (id : SessionId) (session : SessionRecord) : Prop :=
  isTerminal session.state = false →
    session.Accountable (InOrder id session.request.workload)

/-- A session is resumed only in the state it was paused to, or back into a
deferral. -/
def ResumesInPlace (focus : Focus) : Prop :=
  focus.session.state = .paused ∨
    (isTerminal focus.session.state = false ∧
      focus.session.pausedFrom = .deferred)

/-- Authority is renewed, or given to a new session, only in order. -/
def creditPermits
    (InOrder : SessionId → WorkloadId → Prop) : Permits where
  resume := ResumesInPlace
  renew := fun focus => InOrder focus.key focus.session.request.workload
  enroll := fun _ session => Standing InOrder session.id session

theorem creditPermits_routine (InOrder : SessionId → WorkloadId → Prop) :
    (creditPermits InOrder).Routine :=
  { Permits.Routine.free with }

section

variable {InOrder : SessionId → WorkloadId → Prop}

theorem Standing.of_same
    (standing : Standing InOrder id session)
    (request : other.request = session.request)
    (state : other.state = session.state)
    (staleReason : other.staleReason = session.staleReason)
    (paused : other.paused = session.paused)
    (pausedFrom : other.pausedFrom = session.pausedFrom) :
    Standing InOrder id other := by
  intro active
  rw [state] at active
  rw [request]
  exact (standing active).of_same state staleReason paused pausedFrom

theorem Standing.of_terminal
    (terminal : isTerminal session.state = true) :
    Standing InOrder id session := by
  intro active
  rw [terminal] at active
  cases active

theorem discards_terminal
    (discarded : discards state = true) :
    isTerminal state = true := by
  cases state <;> first | rfl | cases discarded

theorem Focus.closeAs_terminal
    (focus : Focus) (reason : ReasonCode)
    (detail : Text) (now : Nanos) (discarded : discards state = true) :
    isTerminal (focus.closeAs state reason detail now).session.state =
      true := by
  rw [Focus.closeAs_session]
  exact discards_terminal discarded

theorem Change.standing
    {before after : Focus}
    (change : Change (creditPermits InOrder) before after)
    (standing : Standing InOrder before.key before.session) :
    Standing InOrder before.key after.session := by
  cases change with
  | annotate _ _ noted =>
      rw [noted.session]
      exact standing.of_same rfl rfl rfl rfl rfl
  | withdraw _ _ active stale =>
      exact fun _ => .of_stale stale (.inl rfl) (standing active).interrupted
  | unprove | cancelOutstanding | flagSource | sight | verify =>
      exact standing.of_same rfl rfl rfl rfl rfl
  | rearm =>
      refine fun _ => .of_stale ?_ (.inl rfl) (fun paused => nomatch paused)
      simp [Focus.rearm, Focus.revise, Focus.book, ascii]
  | close _ _ _ _ _ discarded =>
      exact .of_terminal (Focus.closeAs_terminal _ _ _ _ discarded)
  | closeAbandoned | closeMismatched =>
      exact .of_terminal (Focus.closeAs_terminal _ _ _ _ rfl)
  | postpone _ _ stale nonempty =>
      have active : isTerminal before.session.state = false := by
        rcases stale with state | state <;> rw [state] <;> rfl
      exact fun _ =>
        .of_stale nonempty (.inr rfl) (standing active).interrupted
  | unreserve =>
      rw [Focus.releasePathReservation_session]
      exact standing.of_same rfl rfl rfl rfl rfl
  | renew _ _ _ _ _ _ permitted =>
      refine fun _ => .of_clean rfl permitted ?_ ?_ ?_
      · intro required
        cases required
      · intro paused
        cases paused
      · intro paused
        cases paused
  | suspend _ active authorised unpaused =>
      have accountable := standing active
      have running : before.session.state ≠ .paused := by
        intro paused
        rw [accountable.suspended paused] at unpaused
        cases unpaused
      refine fun _ => ⟨accountable.fresh, ?_, ?_, fun _ => rfl, ?_⟩
      · intro stale
        rcases accountable.stale stale with state | state | ⟨state, _⟩
        · exact absurd state authorised
        · exact .inr (.inr ⟨rfl, state⟩)
        · exact absurd state running
      · intro required
        cases required
      · exact fun _ => ⟨running, authorised⟩
  | reinstate _ paused permitted =>
      have active : isTerminal before.session.state = false := by
        rcases permitted with state | ⟨active, _⟩
        · rw [state]
          rfl
        · exact active
      have accountable := standing active
      have interrupted := accountable.interrupted paused
      refine fun _ => ⟨accountable.fresh, ?_, ?_, ?_, ?_⟩
      · intro stale
        right
        left
        rcases permitted with state | ⟨_, deferred⟩
        · rcases accountable.stale stale with other | other | ⟨_, deferred⟩
          · rw [state] at other
            cases other
          · rw [state] at other
            cases other
          · exact deferred
        · exact deferred
      · exact fun required => absurd required interrupted.2
      · exact fun state => absurd state interrupted.1
      · intro paused
        cases paused
  | charge target _ _ _ grantable =>
      have accountable := standing grantable.active
      have state := grantable.state
      have clean : target.focus.session.staleReason = [] := by
        by_contra stale
        rcases accountable.stale stale with other | other | ⟨other, _⟩
        · exact state.1 other
        · exact state.2.1 other
        · exact state.2.2 other
      refine fun _ => .of_clean clean (accountable.fresh clean) ?_ ?_
        accountable.interrupted
      · intro required
        simp only [ShardTarget.charge, ShardTarget.grantedSession] at required
        split at required
        · cases required
        · exact state.1 required
      · intro paused
        simp only [ShardTarget.charge, ShardTarget.grantedSession] at paused
        split at paused
        · cases paused
        · exact absurd paused state.2.2
  | acknowledge =>
      rw [EvidenceTarget.acknowledge_session]
      exact standing.of_same rfl rfl rfl rfl rfl
  | truncate =>
      rw [EvidenceTarget.truncate_session]
      exact standing.of_same rfl rfl rfl rfl rfl
  | blurShard =>
      rw [EvidenceTarget.blur_session]
      exact standing.of_same rfl rfl rfl rfl rfl
  | blurAttempt =>
      rw [AttemptTarget.blur_session]
      exact standing.of_same rfl rfl rfl rfl rfl
  | progress _ active =>
      exact fun _ =>
        SessionRecord.deriveProgress_accountable (standing active)
  | complete =>
      rw [Focus.completeSession_session]
      exact .of_terminal rfl

end

end TrafficFabric
