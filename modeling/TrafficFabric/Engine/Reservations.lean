import TrafficFabric.Engine.Generations
import TrafficFabric.Engine.Rates
import TrafficFabric.Engine.Recovery
import TrafficFabric.Engine.Release

/-!
# Rate reserved on the paths

Admission and revalidation reserve rate on a path class and the end of a
session gives it back.  The shaper keeps one number per path; this module
compares it with the sessions that hold a reservation.
-/

namespace TrafficFabric

open Foundation

variable {path own pathId : PathClassId} {rateBps : UInt64}
  {session : SessionRecord} {before after engine : Engine} {permits : Permits}
  {focus : Focus} {contract : WorkloadContract} {command : Command}
  {bound : Nat} {config : EngineConfig} {boot : Nanos} {history : List Event}

/-! ## The shaper -/

namespace RateShaper

variable {shaper : RateShaper}

theorem path_value_ne
    (differs : path ≠ own) :
    path.value ≠ own.value := by
  intro same
  exact differs (by cases path; cases own; cases same; rfl)

/-- A release gives back at most what is reserved. -/
theorem reserved_release
    (own path : PathClassId) (rateBps : UInt64) :
    ((shaper.releasePathRate own rateBps).reservedPathRate path).toNat =
      (shaper.reservedPathRate path).toNat -
        if path = own then rateBps.toNat else 0 := by
  unfold releasePathRate reservedPathRate Table.findD
  cases known : shaper.pathReservations.lookup own.value with
  | none =>
      by_cases same : path = own
      · subst same
        rw [known, if_pos rfl]
        simp
      · rw [if_neg same]
        rfl
  | some reserved =>
      dsimp only
      by_cases same : path = own
      · subst same
        rw [Table.lookup_replace_self (Table.mem_of_lookup known), known,
          if_pos rfl]
        dsimp only [Option.getD_some]
        split
        · rename_i small
          have bounded := UInt64.le_iff_toNat_le.mp small
          rw [Nat.sub_eq_zero_of_le bounded]
          rfl
        · rename_i large
          exact UInt64.toNat_sub_of_le _ _
            (UInt64.le_of_lt (UInt64.not_le.mp large))
      · rw [Table.lookup_replace_ne (path_value_ne same), if_neg same]
        rfl

/-- A reservation that does not overflow adds to what is reserved. -/
theorem reserved_reserve
    {after : RateShaper}
    (accepted : shaper.reservePathRate own rateBps = some after)
    (path : PathClassId) :
    (after.reservedPathRate path).toNat =
      (shaper.reservedPathRate path).toNat +
        if path = own then rateBps.toNat else 0 := by
  unfold reservePathRate at accepted
  unfold reservedPathRate Table.findD
  cases known : shaper.pathReservations.lookup own.value with
  | none =>
      rw [known] at accepted
      cases accepted
      by_cases same : path = own
      · subst same
        rw [AList.lookup_insert, known, if_pos rfl]
        simp
      · rw [AList.lookup_insert_ne (path_value_ne same), if_neg same]
        rfl
  | some reserved =>
      rw [known] at accepted
      dsimp only at accepted
      split at accepted
      · cases accepted
      · rename_i fits
        cases accepted
        by_cases same : path = own
        · subst same
          rw [Table.lookup_replace_self (Table.mem_of_lookup known), known,
            if_pos rfl]
          dsimp only [Option.getD_some]
          have room := UInt64.le_iff_toNat_le.mp (UInt64.not_lt.mp fits)
          have top : reserved ≤ 18446744073709551615 := by
            rw [UInt64.le_iff_toNat_le]
            exact Nat.le_of_lt_succ reserved.toNat_lt
          rw [UInt64.toNat_sub_of_le _ _ top] at room
          have limit : (18446744073709551615 : UInt64).toNat =
              18446744073709551615 := rfl
          rw [limit] at room
          rw [UInt64.toNat_add]
          have size := reserved.toNat_lt
          omega
        · rw [Table.lookup_replace_ne (path_value_ne same), if_neg same]
          rfl

/-- Reservations that fit into a word are accepted. -/
theorem reservePathRate_of_fits
    (fits :
      (shaper.reservedPathRate own).toNat + rateBps.toNat < 2 ^ 64) :
    ∃ after, shaper.reservePathRate own rateBps = some after := by
  unfold reservedPathRate Table.findD at fits
  unfold reservePathRate
  cases known : shaper.pathReservations.lookup own.value with
  | none =>
      exact ⟨_, rfl⟩
  | some reserved =>
      rw [known] at fits
      dsimp only [Option.getD_some] at fits
      have room : ¬ 18446744073709551615 - reserved < rateBps := by
        rw [UInt64.not_lt, UInt64.le_iff_toNat_le, UInt64.toNat_sub_of_le]
        · change _ ≤ 18446744073709551615 - _
          omega
        · rw [UInt64.le_iff_toNat_le]
          exact Nat.le_of_lt_succ reserved.toNat_lt
      dsimp only
      rw [if_neg room]
      exact ⟨_, rfl⟩

end RateShaper

/-! ## One session -/

/-- What a session holds on a path. -/
def SessionRecord.reservedOn
    (path : PathClassId) (session : SessionRecord) : Nat :=
  if session.reservedPath = some path then session.reservedRateBps.toNat
  else 0

theorem SessionRecord.reservedOn_none
    (released : session.reservedPath = none)
    (path : PathClassId) : session.reservedOn path = 0 := by
  unfold SessionRecord.reservedOn
  rw [released]
  rfl

/-- The rate reserved on a path. -/
def Engine.reservedOn (path : PathClassId) (engine : Engine) : Nat :=
  (engine.shaper.reservedPathRate path).toNat

/-- What the session gives up is given back to the path. -/
structure Focus.Returns (path : PathClassId) (before after : Focus) : Prop where
  moved :
    after.engine.reservedOn path + before.session.reservedOn path =
      before.engine.reservedOn path + after.session.reservedOn path
  lower :
    after.session.reservedOn path ≤ before.session.reservedOn path

theorem Focus.Returns.of_same
    {before after : Focus}
    (reservations :
      after.engine.shaper.pathReservations =
        before.engine.shaper.pathReservations)
    (reservedPath :
      after.session.reservedPath = before.session.reservedPath)
    (rate :
      after.session.reservedRateBps = before.session.reservedRateBps) :
    Focus.Returns path before after := by
  have session :
      after.session.reservedOn path = before.session.reservedOn path := by
    unfold SessionRecord.reservedOn
    rw [reservedPath, rate]
  have engine :
      after.engine.reservedOn path = before.engine.reservedOn path := by
    unfold Engine.reservedOn RateShaper.reservedPathRate
    rw [reservations]
  exact ⟨by rw [session, engine], session.le⟩

theorem Focus.Returns.released
    {path : PathClassId} {before middle after : Focus}
    (booked :
      before.session.reservedOn path ≤ before.engine.reservedOn path)
    (shaper : middle.engine.shaper = before.engine.shaper)
    (reservedPath :
      middle.session.reservedPath = before.session.reservedPath)
    (rate :
      middle.session.reservedRateBps = before.session.reservedRateBps)
    (returned :
      after.engine.shaper = middle.releasePathReservation.engine.shaper)
    (freed : after.session.reservedPath = none) :
    Focus.Returns path before after := by
  have empty := SessionRecord.reservedOn_none freed path
  refine ⟨?_, by omega⟩
  rw [empty]
  unfold Focus.releasePathReservation at returned
  unfold SessionRecord.reservedOn Engine.reservedOn at *
  rw [returned]
  split at returned
  · rename_i none_
    rw [← reservedPath, none_, shaper]
    rfl
  · rename_i own some_
    have given := @RateShaper.reserved_release before.engine.shaper own path
      before.session.reservedRateBps
    dsimp only
    rw [← reservedPath, some_] at booked ⊢
    rw [shaper, rate, given]
    by_cases same : path = own
    · subst same
      simp only [if_true] at booked ⊢
      omega
    · have other : ¬ some own = some path := by
        intro equal
        cases equal
        exact same rfl
      simp only [same, other, if_false] at booked ⊢
      omega

/-! ## Changes -/

theorem Focus.retire_shaper (focus : Focus) :
    focus.retire.engine.shaper = focus.engine.shaper := by
  unfold Focus.retire
  split <;> rfl

theorem Focus.dropActiveAttempt_shaper (focus : Focus) :
    focus.dropActiveAttempt.engine.shaper = focus.engine.shaper := by
  unfold Focus.dropActiveAttempt
  split <;> rfl

theorem Focus.completeSession_shaper (focus : Focus) (now : Nanos) :
    (focus.completeSession now).engine.shaper =
      (focus.finish now).releasePathReservation.engine.shaper := by
  unfold Focus.completeSession Focus.noteTerminal
  dsimp only [Focus.book, Focus.revise, Engine.book, Engine.deactivate]

section

variable {path : PathClassId} {before : Focus}
  (booked :
    before.session.reservedOn path ≤ before.engine.reservedOn path)

include booked

/-- Settlement gives the reservation back. -/
theorem Focus.Returns.closeAs
    {middle : Focus} (shaper : middle.engine.shaper = before.engine.shaper)
    (reservedPath :
      middle.session.reservedPath = before.session.reservedPath)
    (rate :
      middle.session.reservedRateBps = before.session.reservedRateBps)
    (state : SessionState) (reason : ReasonCode) (detail : Text)
    (now : Nanos) :
    Focus.Returns path before (middle.closeAs state reason detail now) := by
  let retired := ((middle.releaseActiveAttempts
    (if state = .superseded then .superseded else .released)).wasteUnverified
      state).retire
  let closed := ((retired.revise (fun session =>
    { session with state := state, paused := false })).settleReason reason
      detail).touch now
  have settled :
      middle.closeAs state reason detail now =
        closed.releasePathReservation := rfl
  rw [settled]
  refine @Focus.Returns.released path before closed _ booked ?_ ?_ ?_ rfl ?_
  · exact (Focus.retire_shaper _).trans shaper
  · change retired.session.reservedPath = _
    dsimp only [retired]
    rw [Focus.retire_session]
    exact reservedPath
  · change retired.session.reservedRateBps = _
    dsimp only [retired]
    rw [Focus.retire_session]
    exact rate
  · rw [Focus.releasePathReservation_session]

theorem Focus.Returns.complete (now : Nanos) :
    Focus.Returns path before (before.completeSession now) := by
  refine @Focus.Returns.released path before (before.finish now) _ booked rfl
    rfl rfl (before.completeSession_shaper now) ?_
  rw [Focus.completeSession_session]

/-- Where nothing is renewed, a change keeps the reservation or gives it
back. -/
theorem Change.returns
    {after : Focus}
    (frozen : ∀ focus, ¬ permits.renew focus)
    (change : Change permits before after) :
    Focus.Returns path before after := by
  cases change with
  | annotate _ _ noted =>
      refine .of_same ?_ ?_ ?_
      · rw [noted.engine.shaper]
      · rw [noted.session]
      · rw [noted.session]
  | close _ state reason detail now =>
      exact .closeAs booked rfl rfl rfl state reason detail now
  | closeAbandoned _ reason detail now =>
      exact @Focus.Returns.closeAs path before booked before.abandon rfl rfl
        rfl .failed reason detail now
  | closeMismatched target reason detail now =>
      exact @Focus.Returns.closeAs path target.focus booked target.markFailed
        rfl rfl rfl .failed reason detail now
  | unreserve =>
      refine @Focus.Returns.released path before before _ booked rfl rfl rfl
        rfl ?_
      rw [Focus.releasePathReservation_session]
  | renew _ _ _ _ _ _ permitted =>
      exact absurd permitted (frozen _)
  | charge _ _ _ _ _ kept =>
      exact .of_same kept rfl rfl
  | acknowledge =>
      refine .of_same ?_ ?_ ?_
      · exact congrArg RateShaper.pathReservations
          (Focus.dropActiveAttempt_shaper _)
      · rw [EvidenceTarget.acknowledge_session]
      · rw [EvidenceTarget.acknowledge_session]
  | truncate target =>
      refine .of_same ?_ ?_ ?_
      · have dropped :
            (if target.attempt.outstanding = true then
              (target.focus.setAttempt target.attemptPosition
                { target.attempt with
                  outcome := .failed
                  outstanding := false }).dropActiveAttempt
            else
              target.focus.setAttempt target.attemptPosition
                { target.attempt with
                  outcome := .failed
                  outstanding := false }).engine.shaper =
              target.focus.engine.shaper := by
          split
          · exact Focus.dropActiveAttempt_shaper _
          · rfl
        exact congrArg RateShaper.pathReservations dropped
      · rw [EvidenceTarget.truncate_session]
      · rw [EvidenceTarget.truncate_session]
  | blurShard =>
      refine .of_same ?_ ?_ ?_
      · exact congrArg RateShaper.pathReservations
          (Focus.dropActiveAttempt_shaper _)
      · rw [EvidenceTarget.blur_session]
      · rw [EvidenceTarget.blur_session]
  | blurAttempt target now =>
      refine .of_same ?_ ?_ ?_
      · have dropped :
            (if target.attempt.outstanding = true then
              (target.focus.setAttempt target.position
                { target.attempt with
                  outcome := .ambiguous
                  outstanding := false
                  updatedAt := now }).dropActiveAttempt
            else
              target.focus.setAttempt target.position
                { target.attempt with
                  outcome := .ambiguous
                  outstanding := false
                  updatedAt := now }).engine.shaper =
              target.focus.engine.shaper := by
          split
          · exact Focus.dropActiveAttempt_shaper _
          · rfl
        exact congrArg RateShaper.pathReservations dropped
      · rw [AttemptTarget.blur_session]
      · rw [AttemptTarget.blur_session]
  | complete _ now =>
      exact .complete booked now
  | _ =>
      exact .of_same rfl rfl rfl

end

/-! ## The table -/

/-- The rate reserved on a path is what the sessions hold, apart from what is
reserved for a session about to take it over, and stays within a bound.
Terminal sessions hold nothing. -/
structure Engine.Reserves
    (path : PathClassId) (pending bound : Nat) (engine : Engine) : Prop where
  balance :
    engine.reservedOn path =
      engine.sessions.total (SessionRecord.reservedOn path) + pending
  limit : engine.reservedOn path ≤ bound
  sessions :
    ∀ id session, engine.sessions.lookup id = some session →
      isTerminal session.pausedFrom = false ∧
        (isTerminal session.state = true → session.reservedPath = none)

namespace Engine.Reserves

variable {path : PathClassId} {pending bound : Nat} {permits : Permits}

theorem of_same
    (holds : before.Reserves path pending bound)
    (sessions : after.sessions = before.sessions)
    (reservations :
      after.shaper.pathReservations = before.shaper.pathReservations) :
    after.Reserves path pending bound := by
  have same : after.reservedOn path = before.reservedOn path := by
    unfold Engine.reservedOn RateShaper.reservedPathRate
    rw [reservations]
  refine ⟨?_, ?_, ?_⟩
  · rw [same, sessions]
    exact holds.balance
  · rw [same]
    exact holds.limit
  · rw [sessions]
    exact holds.sessions

theorem of_housekeeping
    (holds : before.Reserves path pending bound)
    (same : Housekeeping before after) :
    after.Reserves path pending bound :=
  holds.of_same same.sessions
    (congrArg RateShaper.pathReservations same.shaper)

theorem evict
    (holds : engine.Reserves path pending bound)
    {id : SessionId}
    (found : engine.sessions.lookup id = some session)
    (terminal : isTerminal session.state = true) :
    (engine.evict id session).Reserves path pending bound where
  balance := by
    have free := SessionRecord.reservedOn_none
      ((holds.sessions id session found).2 terminal) path
    have erased :=
      Table.total_erase (SessionRecord.reservedOn path) found
    have balance := holds.balance
    change engine.reservedOn path =
      Table.total (SessionRecord.reservedOn path)
        (engine.sessions.erase id) + pending
    omega
  limit := holds.limit
  sessions := by
    intro other kept stored
    exact holds.sessions other kept (Engine.lookup_evict stored)

theorem booked
    (holds : focus.commit.Reserves path pending bound)
    (live : focus.Live) :
    focus.session.reservedOn path ≤ focus.engine.reservedOn path := by
  have bounded := Table.le_total (SessionRecord.reservedOn path)
    (Focus.lookup_commit_self live)
  have balance : focus.engine.reservedOn path = _ := holds.balance
  omega

/-- A change that ends a session takes its reservation. -/
theorem released
    {before after : Focus} (performed : Change permits before after)
    (resumable : isTerminal before.session.pausedFrom = false)
    (settled :
      isTerminal before.session.state = true →
        before.session.reservedPath = none)
    (terminal : isTerminal after.session.state = true) :
    after.session.reservedPath = none := by
  cases performed.ending resumable terminal with
  | kept earlier _ _ _ reservation =>
      exact reservation (settled earlier)
  | closed _ _ _ _ _ same =>
      rw [same, Focus.closeAs_session]
  | completed _ _ same =>
      rw [same, Focus.completeSession_session]

theorem change
    (frozen : ∀ focus, ¬ permits.renew focus)
    {before after : Focus} (live : before.Live)
    (performed : Change permits before after)
    (holds : before.commit.Reserves path pending bound) :
    after.commit.Reserves path pending bound := by
  have returns := performed.returns (holds.booked live) frozen
  have moved := returns.moved
  have lower := returns.lower
  have balance : before.engine.reservedOn path = _ := holds.balance
  have limit : before.engine.reservedOn path ≤ _ := holds.limit
  refine ⟨?_, ?_, ?_⟩
  · have total := performed.total (SessionRecord.reservedOn path) live
    change after.engine.reservedOn path = _
    omega
  · change after.engine.reservedOn path ≤ _
    omega
  · refine performed.forall_sessions live holds.sessions ?_
    rintro ⟨resumable, settled⟩
    exact ⟨performed.resumable resumable,
      released performed resumable settled⟩

/-- Edits that neither reserve nor hand a reservation over. -/
theorem edit
    (frozen : ∀ focus, ¬ permits.renew focus)
    (closed : ∀ engine session, ¬ permits.enroll engine session)
    (unreserving : ∀ engine shaper, ¬ permits.reserve engine shaper)
    {before after : Engine} (edit : Edit permits before after)
    (holds : before.Reserves path pending bound) :
    after.Reserves path pending bound := by
  cases edit with
  | housekeeping _ _ same =>
      exact holds.of_housekeeping same
  | prune =>
      exact Engine.pruneHistory_rule
        (fun _ _ _ found terminal holds => holds.evict found terminal)
        (fun _ _ holds => holds.of_same rfl rfl)
        (fun _ holds => holds.of_same rfl rfl) holds
  | reshape _ _ kept =>
      exact holds.of_same rfl kept
  | reserve _ _ _ _ _ permitted =>
      exact absurd permitted (unreserving _ _)
  | enroll _ _ _ permitted =>
      exact absurd permitted (closed _ _)
  | change live performed =>
      exact holds.change frozen live performed
  | _ =>
      exact holds.of_same rfl rfl

end Engine.Reserves

/-- Nothing is reserved or handed over. -/
def returnPermits : Permits where
  renew := fun _ => False
  enroll := fun _ _ => False
  reserve := fun _ _ => False

theorem returnPermits_routine : returnPermits.Routine :=
  { Permits.Routine.free with }

namespace Engine.Reserves

variable {path : PathClassId} {pending bound : Nat}

theorem edits
    (edits : Edits returnPermits before after)
    (holds : before.Reserves path pending bound) :
    after.Reserves path pending bound :=
  @reflTransGen_preserves _ (Edit returnPermits)
    (Engine.Reserves path pending bound)
    (fun _ _ edit holds => Engine.Reserves.edit (fun _ => not_false)
      (fun _ _ => not_false) (fun _ _ => not_false) edit holds)
    _ _ edits holds

theorem observe
    (holds : engine.Reserves path pending bound)
    (now : Nanos) :
    (engine.observe now).Reserves path pending bound :=
  holds.edits (Engine.observe_edits returnPermits_routine engine now)

/-- Rate reserved for a session that is still to take it over. -/
theorem reserve
    (holds : engine.Reserves path pending bound)
    {shaper : RateShaper}
    (reserved : engine.shaper.reservePathRate own rateBps = some shaper)
    (room :
      path = own → engine.reservedOn path + rateBps.toNat ≤ bound) :
    ({ engine with shaper := shaper } : Engine).Reserves path
      (pending + if path = own then rateBps.toNat else 0) bound := by
  have added := RateShaper.reserved_reserve reserved path
  have balance := holds.balance
  have limit := holds.limit
  unfold Engine.reservedOn at room balance limit
  refine ⟨?_, ?_, holds.sessions⟩
  · change (shaper.reservedPathRate path).toNat = _
    dsimp only
    omega
  · change (shaper.reservedPathRate path).toNat ≤ _
    by_cases own_ : path = own
    · have fits := room own_
      rw [if_pos own_] at added
      omega
    · rw [if_neg own_] at added
      omega

/-- The session takes over what is reserved for it. -/
theorem enroll
    (holds : engine.Reserves path (session.reservedOn path) bound)
    (fresh : session.id ∉ engine.sessions)
    (resumable : isTerminal session.pausedFrom = false)
    (active : isTerminal session.state = false) :
    (engine.enroll session).Reserves path 0 bound := by
  have table := engine.enroll_sessions session
  rw [Table.emplace_of_not_mem fresh] at table
  have shaper : (engine.enroll session).shaper = engine.shaper := by
    unfold Engine.enroll Engine.indexDeadline
    dsimp only
    split <;> rfl
  have same : (engine.enroll session).reservedOn path =
      engine.reservedOn path := by
    unfold Engine.reservedOn
    rw [shaper]
  have balance := holds.balance
  have added : Table.total _ (engine.sessions.insert session.id session) = _ :=
    Table.total_insert (SessionRecord.reservedOn path) fresh
  refine ⟨?_, ?_, ?_⟩
  · rw [same, table]
    omega
  · rw [same]
    exact holds.limit
  · intro id kept found
    rw [table] at found
    by_cases own : id = session.id
    · subst own
      rw [AList.lookup_insert] at found
      cases found
      refine ⟨resumable, fun terminal => ?_⟩
      rw [active] at terminal
      cases terminal
    · rw [AList.lookup_insert_ne own] at found
      exact holds.sessions id kept found

/-- The capacity of a path in the topology stays within the bound. -/
def Within (path : PathClassId) (bound : Nat) (engine : Engine) : Prop :=
  ∀ pathClass, findPathClass engine.topology path = some pathClass →
    pathClass.capacityBps.toNat ≤ bound

theorem room_of_planned
    (within : Within path bound engine)
    {envelope : IsolationEnvelopeConfig}
    {pathClass : PathClass}
    (found : findPathClass engine.topology pathId = some pathClass)
    (planned : engine.RatePlanned contract envelope pathClass rateBps)
    (same : path = pathId) :
    engine.reservedOn path + rateBps.toNat ≤ bound := by
  subst same
  have fits := planned.fits
  rw [findPathClass_id found] at fits
  exact fits.trans (within pathClass found)

/-! ## Commands -/

theorem Within.observe
    (within : Within path bound engine) (now : Nanos) :
    Within path bound (engine.observe now) := by
  intro pathClass found
  have topology : (engine.observe now).topology = engine.topology :=
    congrArg Authority.topology (engine.observe_authority now)
  rw [topology] at found
  exact within pathClass found

theorem submit
    (holds : engine.Reserves path 0 bound)
    (within : Within path bound engine) (now : Nanos)
    (request : SessionRequest) (fence : CommandFence)
    (fresh :
      ⟨(engine.observe now).idFactory.next.1⟩ ∉
        (engine.observe now).sessions) :
    (engine.submitSession now request fence).2.Reserves path 0 bound := by
  have observed := holds.observe now
  unfold Engine.submitSession
  dsimp only
  split
  · exact observed.of_housekeeping (Engine.reject_housekeeping _ _ _ _)
  · rename_i plan planned
    rcases (Engine.admissionPlan_issuable planned).rated with
      ⟨envelope, pathClass, _, found, rated⟩
    have drawn : (engine.observe now).drawn.Reserves path 0 bound :=
      observed.of_same rfl rfl
    unfold Engine.commitAdmission
    dsimp only
    split
    · exact drawn.of_housekeeping
        (Engine.denySubmission_housekeeping _ _ _ _ _)
    · rename_i shaper reserved
      let session := (engine.observe now).newSession now request plan
      have room := room_of_planned (within.observe now) found rated
      have booked := drawn.reserve reserved room
      have cleared :
          ((engine.observe now).drawn.makeRoom shaper now session.id
            plan.targets).Reserves path (session.reservedOn path) bound := by
        have held :
            session.reservedOn path =
              0 + if path = plan.path then plan.rateBps.toNat else 0 := by
          rw [Nat.zero_add]
          change (if some plan.path = some path then _ else _) = _
          simp only [Option.some.injEq, eq_comm]
          rfl
        rw [held]
        exact booked.edits (Engine.makeRoom_edits
          returnPermits_routine.toSettling
          (engine.observe now).drawn shaper now session.id
          (Engine.admissionPlan_ok planned).supersedable)
      refine (cleared.enroll ?_ rfl rfl).of_housekeeping
        (Engine.rememberCommand_housekeeping _ _ _)
      exact Edits.sessions_of_idle (Engine.cleared_idle planned reserved)
        fresh

/-- A session already in the table takes over what is reserved for it. -/
theorem takeOver
    {before after : Focus}
    (holds : before.commit.Reserves path pending bound)
    (live : before.Live) (framed : Focus.Framed before after)
    (shaper : after.engine.shaper = before.engine.shaper)
    (taken :
      after.session.reservedOn path =
        before.session.reservedOn path + pending)
    (active : isTerminal after.session.state = false)
    (resumable : after.session.pausedFrom = before.session.pausedFrom) :
    after.commit.Reserves path 0 bound := by
  have written :
      after.commit.sessions =
        before.commit.sessions.replace before.key after.session := by
    unfold Focus.commit
    dsimp only
    rw [framed.engine.sessions, framed.key, Table.replace_replace]
  have slot := Focus.lookup_commit_self live
  have same : after.engine.reservedOn path = before.engine.reservedOn path := by
    unfold Engine.reservedOn
    rw [shaper]
  refine ⟨?_, ?_, ?_⟩
  · have total : Table.total _
        (before.commit.sessions.replace before.key after.session) + _ = _ :=
      Table.total_replace (SessionRecord.reservedOn path) slot
    have balance : before.engine.reservedOn path = _ := holds.balance
    change after.engine.reservedOn path = _
    rw [written]
    omega
  · change after.engine.reservedOn path ≤ _
    rw [same]
    exact holds.limit
  · intro id kept found
    rw [written] at found
    by_cases own : id = before.key
    · subst own
      rw [Table.lookup_replace_self (Table.mem_of_lookup slot)] at found
      cases found
      rw [active, resumable]
      exact ⟨(holds.sessions _ _ slot).1, nofun⟩
    · rw [Table.lookup_replace_ne own] at found
      exact holds.sessions id kept found

/-- The session has given its old reservation back before it takes over the
new one. -/
theorem readmit
    (held : focus.Held)
    (holds : focus.engine.Reserves path 0 bound)
    (within : Within path bound focus.engine)
    (renewable : focus.Renewable contract pathId rateBps) (now : Nanos) :
    (focus.readmit contract pathId rateBps now).2.Reserves path 0 bound := by
  rcases renewable.rated with ⟨envelope, pathClass, _, found, rated⟩
  have unreserved : Change returnPermits focus focus.releasePathReservation :=
    .unreserve focus
  rw [← held.commit] at holds
  have returned := unreserved.returns (holds.booked held.live)
    (fun _ => not_false)
  have released := holds.change (fun _ => not_false) held.live unreserved
  have freed : focus.releasePathReservation.session.reservedPath = none := by
    rw [Focus.releasePathReservation_session]
  unfold Focus.readmit
  dsimp only
  split
  · exact released
  · rename_i shaper reserved
    have booked :
        ({ focus.releasePathReservation with
          engine := { focus.releasePathReservation.engine with
            shaper := shaper } } : Focus).commit.Reserves path
          (0 + if path = pathId then rateBps.toNat else 0) bound := by
      refine released.reserve reserved ?_
      intro same
      have room := room_of_planned within found rated same
      have moved := returned.moved
      have lower := returned.lower
      change focus.releasePathReservation.engine.reservedOn path + _ ≤ _
      omega
    refine booked.takeOver (unreserved.live held.live) ?_ ?_ ?_ rfl rfl
    · refine ⟨rfl, ?_⟩
      unfold Focus.renewEnvelope Engine.indexDeadline
      dsimp only
      split <;> exact { Frame.refl _ with }
    · unfold Focus.renewEnvelope Engine.indexDeadline
      dsimp only
      split <;> rfl
    · rw [SessionRecord.reservedOn_none freed, Nat.zero_add, Nat.zero_add]
      change (if some pathId = some path then _ else _) = _
      simp only [Option.some.injEq, eq_comm]
      rfl

theorem revalidate
    (holds : engine.Reserves path 0 bound)
    (within : Within path bound engine) (now : Nanos) (id : SessionId)
    (fence : CommandFence) :
    (engine.revalidateSession now id fence).2.Reserves path 0 bound := by
  have observed := holds.observe now
  unfold Engine.revalidateSession Engine.guarded
  dsimp only
  split
  · exact observed
  · rename_i focus passed
    rcases Engine.revalidationTarget_ok passed with ⟨owned, stale⟩
    rcases focus.revalidate_cases now with
      ⟨contract, pathId, rateBps, renewable, same⟩ |
      ⟨decision, answered, refused⟩
    · rw [same]
      rw [← owned.engine] at observed
      refine observed.readmit owned.held ?_ renewable now
      rw [owned.engine]
      exact within.observe now
    · refine observed.edits (owned.edits ?_)
      refine (Focus.revalidate_moves trivial owned.held stale now ?_
        (fun _ => ⟨trivial, fun _ _ => trivial⟩)).edits
      intro other same admitted
      rw [answered] at same
      cases same
      exact absurd admitted refused

/-- A snapshot restores no reservation. -/
theorem restore
    (holds : engine.Reserves path 0 bound)
    (empty : engine.reservedOn path = 0) (now : Nanos)
    (snapshot : EngineSnapshot) :
    (engine.restore now snapshot).2.Reserves path 0 bound := by
  cases accepted : engine.restorable snapshot with
  | error =>
      rw [Engine.restore_refused accepted]
      exact holds
  | ok =>
      have shaper :
          (engine.restore now snapshot).2.shaper = engine.shaper :=
        congrArg Engine.Settings.shaper (engine.restore_settings now snapshot)
      have unheld (id : SessionId) (session : SessionRecord)
          (found : (engine.restore now snapshot).2.sessions.lookup id =
            some session) :
          session.reservedPath = none ∧
            isTerminal session.pausedFrom = false := by
        rw [Engine.restore_lookup accepted] at found
        rcases Option.map_eq_some_iff.mp found with ⟨record, stored, rfl⟩
        rcases Engine.restored_lookup accepted stored with
          ⟨persisted, _, shards, _, _, rfl⟩
        unfold SessionRecord.quiesced
        split <;> exact ⟨rfl, rfl⟩
      have same :
          (engine.restore now snapshot).2.reservedOn path = 0 := by
        unfold Engine.reservedOn at empty ⊢
        rw [shaper]
        exact empty
      refine ⟨?_, by omega, ?_⟩
      · have none_ :
            (engine.restore now snapshot).2.sessions.total
              (SessionRecord.reservedOn path) = 0 := by
          rw [@Table.total_congr _ _ _ _ (fun _ => 0) _
            (fun id session found =>
              SessionRecord.reservedOn_none (unheld id session found).1 path)]
          simp [Table.total]
        omega
      · intro id session found
        exact ⟨(unheld id session found).2,
          fun _ => (unheld id session found).1⟩

theorem initial (config : EngineConfig) (boot : Nanos) :
    (Engine.construct config boot).reservedOn path = 0 ∧
      (Engine.construct config boot).Reserves path 0 bound := by
  have blank := (Engine.construct_blank config boot).1
  have empty : (Engine.construct config boot).reservedOn path = 0 := by
    unfold Engine.construct
    dsimp only
    split
    · rfl
    · unfold Engine.reservedOn RateShaper.reservedPathRate
      dsimp only
      rw [Engine.configureShaper_reservations]
      rfl
  refine ⟨empty, ?_, by omega, ?_⟩
  · rw [empty, blank]
    rfl
  · intro id session found
    rw [blank] at found
    cases found

end Engine.Reserves

/-! ## Runs -/

/-- The identity of a new session is not in use. -/
def FreshIdentity (engine : Engine) (now : Nanos) : Command → Prop
  | .submitSession _ _ =>
      ⟨(engine.observe now).idFactory.next.1⟩ ∉ (engine.observe now).sessions
  | _ => True

/-- The runs with distinct identities that restore at most a fresh engine. -/
abbrev ReservingRun (config : EngineConfig) (boot : Nanos) :
    List Event → Engine → Prop :=
  Run (fun engine event next =>
      Step engine event next ∧
        (event.restores = true → engine = Engine.construct config boot) ∧
        event.meets FreshIdentity engine)
    (Engine.construct config boot)

/-- The event replaces the topology. -/
def Event.reroutes : Event → Bool
  | .call _ (.applyTopology _) _ => true
  | _ => false

/-- The other commands reserve nothing. -/
theorem Command.returns
    (returning : command.reserves = false)
    (ordinary : ∀ snapshot, command ≠ .restore snapshot)
    (engine : Engine) (now : Nanos) :
    Edits returnPermits engine (engine.execute now command).2 := by
  refine Engine.execute_edits returnPermits_routine engine now command
    (Permits.Grounds.allow
      { Permits.Grounds.free engine now command with
        reserve := ?_, enroll := ?_, renew := ?_ } ordinary)
  · intro reached shaper reserves
    rw [returning] at reserves
    cases reserves
  · rintro request fence plan shaper rfl
    cases returning
  · rintro id fence focus made rfl
    cases returning

theorem Engine.Reserves.execute
    (holds : engine.Reserves path 0 bound)
    (within : Engine.Reserves.Within path bound engine) (now : Nanos)
    (command : Command)
    (empty :
      ∀ snapshot, command = .restore snapshot → engine.reservedOn path = 0)
    (fresh : FreshIdentity engine now command) :
    (engine.execute now command).2.Reserves path 0 bound := by
  by_cases restoring : ∃ snapshot, command = .restore snapshot
  · rcases restoring with ⟨snapshot, rfl⟩
    exact holds.restore (empty snapshot rfl) now snapshot
  · cases reserving : command.reserves with
    | false =>
        exact holds.edits (Command.returns reserving
          (fun snapshot same => restoring ⟨snapshot, same⟩) engine now)
    | true =>
        cases command with
        | submitSession request fence =>
            exact holds.submit within now request fence fresh
        | revalidateSession id fence =>
            exact holds.revalidate within now id fence
        | _ =>
            cases reserving

theorem Engine.Reserves.rehash
    {pending : Nat}
    (holds : engine.Reserves path pending bound)
    {sessions : Table SessionId SessionRecord}
    (contracts : Table WorkloadId WorkloadContract)
    (same : sessions.entries.Perm engine.sessions.entries) :
    (engine.rehashed sessions contracts).Reserves path pending bound where
  balance := by
    have total := Table.total_perm (SessionRecord.reservedOn path) same
    have balance := holds.balance
    change engine.reservedOn path = sessions.total _ + pending
    omega
  limit := holds.limit
  sessions := by
    intro id session found
    exact holds.sessions id session
      ((AList.perm_lookup same).symm.trans found)

theorem Engine.Reserves.run
    (run : ReservingRun config boot history engine)
    (within :
      ∀ earlier reached, ReservingRun config boot earlier reached →
        earlier <+: history →
        Engine.Reserves.Within path bound reached) :
    engine.Reserves path 0 bound := by
  induction run with
  | start =>
      exact (Engine.Reserves.initial config boot).2
  | @step history state next event earlier last hypothesis =>
      rcases last with ⟨step, restoring, fresh⟩
      have holds := hypothesis (fun past reached run shorter =>
        within past reached run (shorter.trans (List.prefix_append _ _)))
      cases step with
      | call now command =>
          refine holds.execute
            (within history state earlier (List.prefix_append _ _)) now
            command ?_ fresh
          rintro snapshot rfl
          rw [restoring rfl]
          exact (@Engine.Reserves.initial path bound config boot).1
      | rehash _ contracts same =>
          exact holds.rehash contracts same

/-! ## Topologies -/

/-- The topology stays. -/
def routedPermits : Permits where
  topology := fun _ => False

theorem routedPermits_routine : routedPermits.Routine :=
  { Permits.Routine.free with }

theorem Edit.topology
    (routed : ∀ topology, ¬ permits.topology topology)
    (edit : Edit permits before after) :
    after.topology = before.topology := by
  cases edit with
  | housekeeping _ _ same =>
      exact same.topology
  | adoptTopology _ topology _ permitted =>
      exact absurd permitted (routed topology)
  | prune =>
      exact congrArg Authority.topology
        (Engine.pruneHistory_authority before)
  | enroll =>
      unfold Engine.enroll Engine.indexDeadline
      dsimp only
      split <;> rfl
  | change _ performed =>
      exact performed.framed.engine.topology
  | _ =>
      rfl

/-- Only `apply_topology` replaces the topology. -/
theorem Engine.execute_topology
    (engine : Engine) (now : Nanos)
    (kept : ∀ topology, command ≠ .applyTopology topology) :
    (engine.execute now command).2.topology = engine.topology := by
  by_cases restoring : ∃ snapshot, command = .restore snapshot
  · rcases restoring with ⟨snapshot, rfl⟩
    exact congrArg Engine.Settings.topology
      (engine.restore_settings now snapshot)
  · have edits : Edits routedPermits engine (engine.execute now command).2 :=
      Engine.execute_edits routedPermits_routine engine now command
        (Permits.Grounds.allow
          { Permits.Grounds.free engine now command with
            topology := fun topology same => absurd same (kept topology) }
          (fun snapshot same => restoring ⟨snapshot, same⟩))
    exact @reflTransGen_preserves _ (Edit routedPermits)
      (fun reached => reached.topology = engine.topology)
      (fun _ _ edit same => (edit.topology (fun _ => not_false)).trans same)
      _ _ edits rfl

theorem ReservingRun.topology
    (run : ReservingRun config boot history engine)
    (kept : ∀ event ∈ history, event.reroutes = false) :
    engine.topology = config.topology := by
  induction run with
  | start =>
      unfold Engine.construct
      dsimp only
      split <;> rfl
  | @step history state next event earlier last hypothesis =>
      have same := hypothesis (fun past member =>
        kept past (List.mem_append_left _ member))
      have quiet := kept event (List.mem_append_right _ List.mem_cons_self)
      rcases last with ⟨step, _⟩
      cases step with
      | call now =>
          refine (Engine.execute_topology state now ?_).trans same
          rintro topology rfl
          cases quiet
      | rehash =>
          exact same

/-- What is reserved on a path is what its sessions hold and, while the
topology stays, no more than its capacity. -/
theorem path_reservations_are_exact
    {config : EngineConfig} {boot : Nanos} {history : List Event}
    {engine : Engine} (run : ReservingRun config boot history engine)
    (path : PathClassId) :
    (engine.shaper.reservedPathRate path).toNat =
        engine.sessions.total (SessionRecord.reservedOn path) ∧
      ((∀ event ∈ history, event.reroutes = false) →
        ∀ pathClass, findPathClass engine.topology path = some pathClass →
          engine.sessions.total (SessionRecord.reservedOn path) ≤
            pathClass.capacityBps.toNat) := by
  have balance (bound : Nat) (holds : engine.Reserves path 0 bound) :
      (engine.shaper.reservedPathRate path).toNat =
        engine.sessions.total (SessionRecord.reservedOn path) :=
    holds.balance
  constructor
  · refine balance (2 ^ 64) (Engine.Reserves.run run ?_)
    intro _ _ _ _ pathClass _
    exact pathClass.capacityBps.toNat_lt.le
  · intro kept pathClass found
    have holds : engine.Reserves path 0 pathClass.capacityBps.toNat := by
      refine Engine.Reserves.run run ?_
      intro earlier reached past shorter other routed
      rw [ReservingRun.topology past
          (fun event member => kept event (shorter.subset member)),
        ← ReservingRun.topology run kept, found] at routed
      cases routed
      exact le_rfl
    rw [← balance _ holds]
    exact holds.limit

instance (engine : Engine) (now : Nanos) :
    ∀ command, Decidable (FreshIdentity engine now command) := by
  intro command
  apply @Command.casesOn
      (fun command => Decidable (FreshIdentity engine now command)) command <;>
    intros <;> unfold FreshIdentity <;> infer_instance

/-- A session is admitted, loses its authority and is revalidated. -/
def revalidatedScript : List (Nanos × Command) :=
  [(1, .submitSession (Sample.request 2 [2]) (Sample.fence 1)),
    (2, .applyPolicy (Sample.policy 2)),
    (3, .revalidateSession ⟨Sample.drawn 0⟩ (Sample.fence 2))]

/-- The revalidated session holds what is reserved. -/
theorem path_reservations_are_exact_after_revalidation :
    let engine :=
      ((Engine.construct Sample.config 0).executeAll revalidatedScript).2
    (engine.shaper.reservedPathRate ⟨1⟩).toNat = 1000000000 ∧
      engine.sessions.total (SessionRecord.reservedOn ⟨1⟩) = 1000000000 := by
  have evaluated :
      ScriptMeets FreshIdentity (Engine.construct Sample.config 0)
          revalidatedScript ∧
        (((Engine.construct Sample.config 0).executeAll
          revalidatedScript).2.shaper.reservedPathRate ⟨1⟩).toNat =
            1000000000 := by
    decide +kernel
  have run : ReservingRun Sample.config 0 _ _ :=
    (Engine.executeAll_conditioned _ evaluated.1).mono
      (fun _ _ _ step => ⟨step.1, fun restores =>
        Bool.noConfusion (step.2.1.symm.trans restores), step.2.2⟩)
  have exact_ := (path_reservations_are_exact run ⟨1⟩).1
  exact ⟨evaluated.2, exact_.symm.trans evaluated.2⟩

end TrafficFabric
