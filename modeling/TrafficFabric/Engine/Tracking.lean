import TrafficFabric.Engine.Attempts

/-!
# Attempts in flight

An attempt in flight is the current attempt of a shard that has not reached
its target, provided that the identities drawn for new attempts are new to
the session.  So a session whose shards all reached their targets has no
attempt in flight.

`AttemptMove` lists how a change moves the number of attempts in flight, the
counter the session keeps of them and the one of the engine.
-/

namespace TrafficFabric

open Foundation

variable {attempt newAttempt : AttemptRecord} {shard : ShardRecord}
  {session other : SessionRecord} {target : ShardTarget} {permits : Permits}
  {before after middle : Focus} {position : Nat}

/-! ## Current attempts -/

/-- The shard reached its target. -/
def ShardRecord.Reached (shard : ShardRecord) : Prop :=
  shard.state = .transferred ∨ shard.state = .verified

/-- The sink acknowledged the attempt. -/
def AttemptRecord.Acknowledged (attempt : AttemptRecord) : Prop :=
  attempt.outcome = .deliveredAcked ∨ attempt.outcome = .verified

/-- An attempt in flight is current for a shard below its target. -/
structure SessionRecord.Tracking (session : SessionRecord) : Prop where
  distinct : session.attemptIds.Nodup
  current :
    ∀ attempt ∈ session.attempts, attempt.outstanding = true →
      ∃ shard ∈ session.shards,
        shard.attempt = some attempt.id ∧ ¬ shard.Reached
  settled :
    ∀ attempt ∈ session.attempts, attempt.Acknowledged →
      attempt.outstanding = false

/-- A later record of an attempt that was not put in flight again. -/
structure AttemptRecord.Calms (earlier later : AttemptRecord) : Prop where
  id : later.id = earlier.id
  outstanding : later.outstanding = true → earlier.outstanding = true
  settled :
    later.Acknowledged → later.outstanding = false ∨ earlier.Acknowledged

theorem AttemptRecord.Calms.refl (attempt : AttemptRecord) :
    attempt.Calms attempt :=
  ⟨rfl, fun outstanding => outstanding, .inr⟩

theorem AttemptRecord.Calms.of_quiet
    {earlier later : AttemptRecord} (id : later.id = earlier.id)
    (quiet : later.outstanding = false) : earlier.Calms later where
  id := id
  outstanding := by
    rw [quiet]
    exact fun wrong => nomatch wrong
  settled := fun _ => .inl quiet

namespace SessionRecord.Tracking

variable {session other : SessionRecord}

/-- Attempts may calm down as long as those in flight keep their shards. -/
theorem of_stems
    (tracking : session.Tracking)
    (ids : other.attemptIds = session.attemptIds)
    (attempts : Stems AttemptRecord.Calms session.attempts other.attempts)
    (shards :
      ∀ attempt ∈ other.attempts, attempt.outstanding = true →
        ∀ shard ∈ session.shards, shard.attempt = some attempt.id →
          ¬ shard.Reached →
          ∃ kept ∈ other.shards,
            kept.attempt = some attempt.id ∧ ¬ kept.Reached) :
    other.Tracking where
  distinct := by
    rw [ids]
    exact tracking.distinct
  current := by
    intro attempt member outstanding
    rcases attempts attempt member with ⟨earlier, known, calms⟩
    rcases tracking.current earlier known (calms.outstanding outstanding)
      with ⟨shard, shardKnown, named, open_⟩
    rw [← calms.id] at named
    exact shards attempt member outstanding shard shardKnown named open_
  settled := by
    intro attempt member acknowledged
    rcases attempts attempt member with ⟨earlier, known, calms⟩
    rcases calms.settled acknowledged with quiet | before
    · exact quiet
    · by_contra outstanding
      have flying := calms.outstanding (Bool.not_eq_false _ ▸ outstanding)
      rw [tracking.settled earlier known before] at flying
      cases flying

/-- The same attempts; the shards keep their current attempts and stay below
their targets. -/
theorem of_shards
    (tracking : session.Tracking)
    (attempts : other.attempts = session.attempts)
    (shards :
      ∀ shard ∈ session.shards, ¬ shard.Reached →
        ∃ kept ∈ other.shards,
          kept.attempt = shard.attempt ∧ ¬ kept.Reached) :
    other.Tracking := by
  refine tracking.of_stems ?_ ?_ ?_
  · unfold SessionRecord.attemptIds
    rw [attempts]
  · rw [attempts]
    exact .refl AttemptRecord.Calms.refl
  · intro attempt _ _ shard known named open_
    rcases shards shard known open_ with ⟨kept, member, same, below⟩
    exact ⟨kept, member, same.trans named, below⟩

theorem of_same
    (tracking : session.Tracking)
    (attempts : other.attempts = session.attempts)
    (shards : other.shards = session.shards) :
    other.Tracking := by
  refine tracking.of_shards attempts ?_
  rw [shards]
  exact fun shard known open_ => ⟨shard, known, rfl, open_⟩

/-- No attempt is in flight. -/
theorem of_quiet
    (tracking : session.Tracking)
    (ids : other.attemptIds = session.attemptIds)
    (quiet : ∀ attempt ∈ other.attempts, attempt.outstanding = false) :
    other.Tracking where
  distinct := by
    rw [ids]
    exact tracking.distinct
  current := by
    intro attempt member outstanding
    rw [quiet attempt member] at outstanding
    cases outstanding
  settled := fun attempt member _ => quiet attempt member

/-- The current attempt of a shard is no longer in flight; the shard may
change in any way. -/
theorem of_set
    (tracking : session.Tracking)
    {attemptPosition shardPosition : Nat}
    {newShard : ShardRecord}
    (attemptAt : session.attempts[attemptPosition]? = some attempt)
    (shardAt : session.shards[shardPosition]? = some shard)
    (current : shard.attempt = some attempt.id)
    (attempts :
      other.attempts = session.attempts.set attemptPosition newAttempt)
    (shards : other.shards = session.shards.set shardPosition newShard)
    (id : newAttempt.id = attempt.id)
    (quiet : newAttempt.outstanding = false) :
    other.Tracking := by
  refine tracking.of_stems ?_ ?_ ?_
  · unfold SessionRecord.attemptIds
    rw [attempts]
    exact map_set_same attemptAt id
  · rw [attempts]
    exact .set AttemptRecord.Calms.refl attemptAt (.of_quiet id quiet)
  · intro flying member outstanding kept known named open_
    rw [attempts] at member
    rcases mem_set_of_nodup tracking.distinct attemptAt member with
      rfl | ⟨_, differs⟩
    · rw [quiet] at outstanding
      cases outstanding
    · rw [shards]
      rcases mem_set_or_eq shardAt newShard known with stays | rfl
      · exact ⟨kept, stays, named, open_⟩
      · rw [current] at named
        exact absurd (Option.some.inj named).symm differs

/-- A session whose shards all reached their targets has no attempt in
flight. -/
theorem quiet_of_reached
    (tracking : session.Tracking)
    (reached : ∀ shard ∈ session.shards, shard.Reached) :
    ∀ attempt ∈ session.attempts, attempt.outstanding = false := by
  intro attempt member
  by_contra outstanding
  rcases tracking.current attempt member (Bool.not_eq_false _ ▸ outstanding)
    with ⟨shard, known, _, open_⟩
  exact open_ (reached shard known)

end SessionRecord.Tracking

/-- The attempts after a settlement: none is in flight. -/
theorem Focus.closeAs_quiet
    (focus : Focus) (state : SessionState) (reason : ReasonCode)
    (detail : Text) (now : Nanos) :
    (focus.closeAs state reason detail now).session.attemptIds =
        focus.session.attemptIds ∧
      ∀ attempt ∈ (focus.closeAs state reason detail now).session.attempts,
        attempt.outstanding = false := by
  rw [Focus.closeAs_session]
  constructor
  · unfold SessionRecord.attemptIds
    dsimp only
    rw [List.map_map]
    refine List.map_congr_left ?_
    intro attempt _
    dsimp only [Function.comp]
    split <;> rfl
  · intro attempt member
    rcases List.mem_map.mp member with ⟨earlier, _, rfl⟩
    split
    · rfl
    · rename_i quiet
      exact Bool.eq_false_iff.mpr quiet

theorem Focus.rearm_quiet (focus : Focus) (now : Nanos) :
    (focus.rearm now).session.attemptIds = focus.session.attemptIds ∧
      ∀ attempt ∈ (focus.rearm now).session.attempts,
        attempt.outstanding = false := by
  have attempts :
      (focus.rearm now).session.attempts =
        (focus.session.attempts.map (Focus.blurAttempt now)).map
          (fun attempt => { attempt with outstanding := false }) := rfl
  constructor
  · unfold SessionRecord.attemptIds
    rw [attempts, List.map_map, List.map_map]
    refine List.map_congr_left ?_
    intro attempt _
    dsimp only [Function.comp, Focus.blurAttempt]
    split <;> rfl
  · rw [attempts]
    intro attempt member
    rcases List.mem_map.mp member with ⟨earlier, _, rfl⟩
    rfl

/-- An attempt that holds its shard is found there. -/
theorem Engine.quiet_of_unheld
    (distinct : session.attemptIds.Nodup)
    (unheld : Engine.holdsAttempt session shard = false)
    (member : attempt ∈ session.attempts)
    (current : shard.attempt = some attempt.id) :
    attempt.outstanding = false := by
  unfold Engine.holdsAttempt at unheld
  rw [current] at unheld
  cases found : session.attempts.find? (fun other => other.id == attempt.id)
    with
  | none =>
      have missed := List.find?_eq_none.mp found attempt member
      simp at missed
  | some other =>
      have named : other.id = attempt.id := by
        simpa using List.find?_some found
      have same : other = attempt :=
        List.inj_on_of_nodup_map distinct (List.mem_of_find?_eq_some found)
          member named
      simpa [found, same] using unheld

/-- A new attempt takes over a shard whose current attempt is settled. -/
theorem ShardTarget.charge_tracking
    {chunk : UInt64}
    (grantable : target.Grantable chunk) (unused : target.Unused)
    (tracking : target.focus.session.Tracking)
    (shaper : RateShaper) (now : Nanos) :
    (target.charge shaper chunk now).session.Tracking := by
  refine ⟨?_, ?_, ?_⟩
  · exact ShardTarget.charge_distinct unused tracking.distinct shaper chunk
      now
  · intro attempt member outstanding
    rcases ShardTarget.mem_charge_attempts member with older | rfl
    · rcases tracking.current attempt older outstanding with
        ⟨shard, known, named, open_⟩
      rcases mem_set_or_eq grantable.shardAt
        { target.shard with
          state := .inFlight
          sequence := (target.grant chunk now).sequence
          attempt := some (target.grant chunk now).attempt
          grantedBytes := (target.grant chunk now).maxBytes } known with
        stays | rfl
      · exact ⟨shard, stays, named, open_⟩
      · have quiet := Engine.quiet_of_unheld tracking.distinct
          grantable.unheld older named
        rw [quiet] at outstanding
        cases outstanding
    · refine ⟨_, mem_set_self grantable.shardAt _, rfl, ?_⟩
      simp [ShardRecord.Reached]
  · intro attempt member acknowledged
    rcases ShardTarget.mem_charge_attempts member with older | rfl
    · exact tracking.settled attempt older acknowledged
    · simp [AttemptRecord.Acknowledged, ShardTarget.attemptOf] at acknowledged

/-- What the sink acknowledged is no longer in flight. -/
theorem EvidenceTarget.quiet_of_acknowledged
    {target : EvidenceTarget} (valid : target.Valid)
    (tracking : target.focus.session.Tracking)
    (acknowledged : target.attempt.Acknowledged) :
    target.attempt.outstanding = false :=
  tracking.settled _ (List.mem_of_getElem? valid.attemptAt) acknowledged

/-- An ambiguity report settles its attempt and leaves the shards below their
targets where they are. -/
theorem AttemptTarget.blur_tracking
    {target : AttemptTarget} (valid : target.Valid) (now : Nanos)
    (tracking : target.focus.session.Tracking) :
    (target.blur now).session.Tracking := by
  rw [AttemptTarget.blur_session]
  refine tracking.of_stems ?_ ?_ ?_
  · exact map_set_same valid.attemptAt rfl
  · exact .set AttemptRecord.Calms.refl valid.attemptAt (.of_quiet rfl rfl)
  · intro attempt _ _ shard known named open_
    dsimp only
    rcases target.blurredShards_eq with same |
      ⟨position, blurred, at_, _, _, _, same⟩
    · rw [same]
      exact ⟨shard, known, named, open_⟩
    · rw [same]
      rcases mem_set_or_eq at_ { blurred with state := .ambiguous } known
        with stays | rfl
      · exact ⟨shard, stays, named, open_⟩
      · exact ⟨_, mem_set_self at_ _, named, by simp [ShardRecord.Reached]⟩

theorem Change.tracking
    (unused : ∀ target, permits.grant target → target.Unused)
    (change : Change permits before after)
    (tracking : before.session.Tracking) :
    after.session.Tracking := by
  cases change with
  | annotate _ _ noted =>
      rw [noted.session]
      exact tracking.of_same rfl rfl
  | rearm _ now =>
      rcases before.rearm_quiet now with ⟨ids, quiet⟩
      exact tracking.of_quiet ids quiet
  | close _ state reason detail now =>
      rcases before.closeAs_quiet state reason detail now with ⟨ids, quiet⟩
      exact tracking.of_quiet ids quiet
  | closeAbandoned _ reason detail now =>
      rcases before.abandon.closeAs_quiet .failed reason detail now with
        ⟨ids, quiet⟩
      exact tracking.of_quiet ids quiet
  | closeMismatched target reason detail now valid =>
      rcases target.markFailed.closeAs_quiet .failed reason detail now with
        ⟨ids, quiet⟩
      refine tracking.of_quiet (ids.trans ?_) quiet
      exact map_set_same valid.attemptAt rfl
  | unreserve =>
      rw [Focus.releasePathReservation_session]
      exact tracking.of_same rfl rfl
  | charge target shaper _ now grantable _ permitted =>
      exact target.charge_tracking grantable (unused target permitted)
        tracking shaper now
  | flagSource target sourceBytes valid =>
      refine tracking.of_shards rfl ?_
      intro shard known open_
      have marked := mem_set_self valid.shardAt
        { target.shard with
          sourceComplete := true
          sourceBytes := sourceBytes
          state :=
            if target.shard.state = .pending ∨
                target.shard.state = .granted then .inFlight
            else target.shard.state }
      rcases mem_set_or_eq valid.shardAt _ known with stays | rfl
      · exact ⟨shard, stays, rfl, open_⟩
      · refine ⟨_, marked, rfl, ?_⟩
        dsimp only [ShardRecord.Reached]
        split
        · simp
        · exact open_
  | sight _ _ _ _ valid _ _ unsettled =>
      refine tracking.of_stems ?_ ?_
        (fun _ _ _ shard known named open_ => ⟨shard, known, named, open_⟩)
      · exact map_set_same valid.attemptAt rfl
      · refine .set AttemptRecord.Calms.refl valid.attemptAt
          ⟨rfl, fun outstanding => outstanding, ?_⟩
        intro acknowledged
        right
        rcases unsettled with rfl | rfl
        · exact acknowledged
        · simp [AttemptRecord.Acknowledged] at acknowledged
  | acknowledge _ _ _ valid =>
      rw [EvidenceTarget.acknowledge_session]
      exact tracking.of_set valid.attemptAt valid.shardAt valid.current rfl
        rfl rfl rfl
  | verify target _ valid acked =>
      exact tracking.of_set valid.attemptAt valid.shardAt valid.current rfl
        rfl rfl (target.quiet_of_acknowledged valid tracking acked)
  | truncate _ valid =>
      rw [EvidenceTarget.truncate_session]
      exact tracking.of_set valid.attemptAt valid.shardAt valid.current rfl
        rfl rfl rfl
  | blurShard _ valid =>
      rw [EvidenceTarget.blur_session]
      exact tracking.of_set valid.attemptAt valid.shardAt valid.current rfl
        rfl rfl rfl
  | blurAttempt target now valid =>
      exact target.blur_tracking valid now tracking
  | complete =>
      rw [Focus.completeSession_session]
      exact tracking.of_same rfl rfl
  | _ =>
      exact tracking.of_same rfl rfl

/-- A new session has no attempts. -/
theorem SessionRecord.Admitted.tracking
    (admitted : session.Admitted) :
    session.Tracking := by
  rcases admitted with ⟨engine, now, request, plan, _, rfl⟩
  refine ⟨List.nodup_nil, ?_, ?_⟩
  · intro attempt member
    cases member
  · intro attempt member
    cases member

/-! ## Counting attempts in flight -/

/-- The number of attempts in flight. -/
def SessionRecord.inFlight (session : SessionRecord) : Nat :=
  session.attempts.countP (fun attempt => attempt.outstanding)

theorem SessionRecord.inFlight_of_quiet
    (quiet : ∀ attempt ∈ session.attempts, attempt.outstanding = false) :
    session.inFlight = 0 := by
  refine List.countP_eq_zero.mpr ?_
  intro attempt member
  rw [quiet attempt member]
  exact Bool.false_ne_true

/-- A grant for the shard would drop no attempt in flight from the history
of its session. -/
def ShardTarget.Spares (target : ShardTarget) : Prop :=
  ∀ attempt ∈ target.focus.session.attempts.take
      (target.focus.session.attempts.length + 1 -
        target.focus.engine.timelineBound),
    attempt.outstanding = false

instance (target : ShardTarget) : Decidable target.Spares :=
  inferInstanceAs (Decidable (∀ _ ∈ _, _))

theorem Engine.timelineBound_pos (engine : Engine) :
    0 < engine.timelineBound := by
  unfold Engine.timelineBound
  dsimp only
  split
  · exact Nat.one_pos
  · rename_i positive
    exact Nat.pos_of_ne_zero positive

theorem ShardTarget.charge_inFlight
    (spares : target.Spares) (shaper : RateShaper)
    (chunk : UInt64) (now : Nanos) :
    (target.charge shaper chunk now).session.inFlight =
      target.focus.session.inFlight + 1 := by
  have positive := target.focus.engine.timelineBound_pos
  have split := List.take_append_drop
    (target.focus.session.attempts.length + 1 -
      target.focus.engine.timelineBound) target.focus.session.attempts
  have dropped :
      (target.charge shaper chunk now).session.attempts =
        target.focus.session.attempts.drop
            (target.focus.session.attempts.length + 1 -
              target.focus.engine.timelineBound) ++
          [ShardTarget.attemptOf (target.grant chunk now) now] := by
    change ShardTarget.trimAttempts _ _ = _
    unfold ShardTarget.trimAttempts
    rw [List.length_append, List.length_singleton,
      List.drop_append_of_le_length (by omega)]
  have trimmed :
      (target.focus.session.attempts.take
        (target.focus.session.attempts.length + 1 -
          target.focus.engine.timelineBound)).countP
        (fun attempt => attempt.outstanding) = 0 := by
    refine List.countP_eq_zero.mpr ?_
    intro attempt member
    rw [spares attempt member]
    exact Bool.false_ne_true
  unfold SessionRecord.inFlight
  rw [dropped, List.countP_append, ← split, List.countP_append, trimmed,
    split]
  simp [ShardTarget.attemptOf]

/-- The two counters of attempts in flight after one is settled. -/
def Focus.DropsOne (before after : Focus) : Prop :=
  after.session.activeAttempts =
      before.dropActiveAttempt.session.activeAttempts ∧
    after.engine.accounting.activeAttempts =
      before.dropActiveAttempt.engine.accounting.activeAttempts

/-- How a change moves the attempts in flight and their counters. -/
inductive Focus.AttemptMove
    (permits : Permits) (before after : Focus) : Prop
  | kept
      (count : after.session.inFlight = before.session.inFlight)
      (active :
        after.session.activeAttempts = before.session.activeAttempts)
      (total :
        after.engine.accounting.activeAttempts =
          before.engine.accounting.activeAttempts)
  | cleared
      (count : after.session.inFlight = 0)
      (active : after.session.activeAttempts = 0)
      (total :
        after.engine.accounting.activeAttempts =
          before.engine.accounting.activeAttempts -
            before.session.activeAttempts)
  | settled
      (count : after.session.inFlight + 1 = before.session.inFlight)
      (drops : before.DropsOne after)
  /-- A report on an attempt that was settled before. -/
  | resettled (target : EvidenceTarget) (own : target.focus = before)
      (quiet : target.attempt.outstanding = false)
      (permitted : permits.acknowledge target ∨ permits.blurShard target)
      (count : after.session.inFlight = before.session.inFlight)
      (drops : before.DropsOne after)
  | granted (target : ShardTarget) (own : target.focus = before)
      (permitted : permits.grant target)
      (count : after.session.inFlight = before.session.inFlight + 1)
      (active :
        after.session.activeAttempts = before.session.activeAttempts + 1)
      (total :
        after.engine.accounting.activeAttempts =
          before.engine.accounting.activeAttempts + 1)

theorem Focus.DropsOne.of_counters
    (active : middle.session.activeAttempts = before.session.activeAttempts)
    (total :
      middle.engine.accounting.activeAttempts =
        before.engine.accounting.activeAttempts) :
    before.DropsOne middle.dropActiveAttempt := by
  unfold Focus.DropsOne Focus.dropActiveAttempt
  rw [active]
  split
  · dsimp only [Engine.book]
    rw [total]
    exact ⟨rfl, rfl⟩
  · exact ⟨active, total⟩

theorem SessionRecord.inFlight_set
    (attemptAt : session.attempts[position]? = some attempt)
    (attempts : other.attempts = session.attempts.set position newAttempt) :
    other.inFlight + attempt.outstanding.toNat =
      session.inFlight + newAttempt.outstanding.toNat := by
  unfold SessionRecord.inFlight
  rw [attempts]
  exact countP_set (fun attempt => attempt.outstanding) attemptAt newAttempt

theorem SessionRecord.inFlight_set_same
    (attemptAt : session.attempts[position]? = some attempt)
    (attempts : other.attempts = session.attempts.set position newAttempt)
    (same : newAttempt.outstanding = attempt.outstanding) :
    other.inFlight = session.inFlight := by
  have moved := SessionRecord.inFlight_set attemptAt attempts
  rw [same] at moved
  exact Nat.add_right_cancel moved

theorem Focus.retire_activeAttempts (focus : Focus) :
    focus.retire.engine.accounting.activeAttempts =
      focus.engine.accounting.activeAttempts := by
  unfold Focus.retire
  split <;> rfl

theorem Focus.closeAs_activeAttempts
    (focus : Focus) (state : SessionState) (reason : ReasonCode)
    (detail : Text) (now : Nanos) :
    (focus.closeAs state reason detail
        now).engine.accounting.activeAttempts =
      focus.engine.accounting.activeAttempts -
        focus.session.activeAttempts := by
  unfold Focus.closeAs
  dsimp only
  rw [(Focus.releasePathReservation_accounting _).1]
  dsimp only [Focus.touch, Focus.settleReason, Focus.revise]
  rw [Focus.retire_activeAttempts]
  rfl

theorem Focus.closeAs_cleared
    (state : SessionState)
    (reason : ReasonCode) (detail : Text) (now : Nanos)
    (active : middle.session.activeAttempts = before.session.activeAttempts)
    (total :
      middle.engine.accounting.activeAttempts =
        before.engine.accounting.activeAttempts) :
    Focus.AttemptMove permits before
      (middle.closeAs state reason detail now) := by
  refine .cleared ?_ ?_ ?_
  · exact SessionRecord.inFlight_of_quiet
      (middle.closeAs_quiet state reason detail now).2
  · rw [Focus.closeAs_session]
  · rw [Focus.closeAs_activeAttempts, active, total]

theorem Focus.completeSession_activeAttempts (focus : Focus) (now : Nanos) :
    (focus.completeSession now).engine.accounting.activeAttempts =
      focus.engine.accounting.activeAttempts := by
  have released := (focus.finish now).releasePathReservation_accounting.1
  unfold Focus.completeSession
  dsimp only [Focus.noteTerminal, Focus.revise, Focus.book, Engine.book,
    Engine.deactivate]
  rw [released]
  rfl

/-- Settling the current attempt of a shard. -/
theorem EvidenceTarget.settles
    {target : EvidenceTarget}
    (valid : target.Valid)
    (permitted : permits.acknowledge target ∨ permits.blurShard target)
    (attempts :
      after.session.attempts =
        target.focus.session.attempts.set target.attemptPosition newAttempt)
    (quiet : newAttempt.outstanding = false)
    (drops : target.focus.DropsOne after) :
    Focus.AttemptMove permits target.focus after := by
  have moved := SessionRecord.inFlight_set valid.attemptAt attempts
  rw [quiet] at moved
  cases outstanding : target.attempt.outstanding with
  | true =>
      rw [outstanding] at moved
      exact .settled moved drops
  | false =>
      rw [outstanding] at moved
      exact .resettled target rfl outstanding permitted moved drops

/-- Settling an attempt whose counters drop only if it was in flight. -/
theorem Focus.AttemptMove.of_settled
    {permits : Permits} {before middle after : Focus} {position : Nat}
    {attempt newAttempt : AttemptRecord}
    (attemptAt : before.session.attempts[position]? = some attempt)
    (attempts :
      after.session.attempts = before.session.attempts.set position newAttempt)
    (quiet : newAttempt.outstanding = false)
    (active : middle.session.activeAttempts = before.session.activeAttempts)
    (total :
      middle.engine.accounting.activeAttempts =
        before.engine.accounting.activeAttempts)
    (counters :
      after.session.activeAttempts =
          (if attempt.outstanding then middle.dropActiveAttempt
            else middle).session.activeAttempts ∧
        after.engine.accounting.activeAttempts =
          (if attempt.outstanding then middle.dropActiveAttempt
            else middle).engine.accounting.activeAttempts) :
    Focus.AttemptMove permits before after := by
  have moved := SessionRecord.inFlight_set attemptAt attempts
  rw [quiet] at moved
  cases outstanding : attempt.outstanding with
  | true =>
      rw [outstanding] at moved counters
      rcases Focus.DropsOne.of_counters active total with ⟨lower, lowerTotal⟩
      exact .settled moved
        ⟨counters.1.trans lower, counters.2.trans lowerTotal⟩
  | false =>
      rw [outstanding] at moved counters
      exact .kept moved (counters.1.trans active) (counters.2.trans total)

theorem Change.attemptMove
    (spares : ∀ target, permits.grant target → target.Spares)
    (change : Change permits before after) :
    Focus.AttemptMove permits before after := by
  cases change with
  | annotate _ _ noted =>
      refine .kept ?_ ?_ noted.engine.accounts.activeAttempts
      · rw [noted.session]
        rfl
      · rw [noted.session]
  | rearm _ now =>
      exact .cleared (SessionRecord.inFlight_of_quiet
        (before.rearm_quiet now).2) rfl rfl
  | close _ state reason detail now =>
      exact Focus.closeAs_cleared state reason detail now rfl rfl
  | closeAbandoned _ reason detail now =>
      exact Focus.closeAs_cleared .failed reason detail now rfl rfl
  | closeMismatched _ reason detail now =>
      exact Focus.closeAs_cleared .failed reason detail now rfl rfl
  | unreserve =>
      refine .kept ?_ ?_ ?_
      · rw [Focus.releasePathReservation_session]
        rfl
      · rw [Focus.releasePathReservation_session]
      · rw [before.releasePathReservation_accounting.1]
  | charge target shaper chunk now _ _ permitted =>
      exact .granted target rfl permitted (target.charge_inFlight (spares target permitted)
        shaper chunk now) rfl rfl
  | sight _ _ _ _ valid =>
      exact .kept
        (SessionRecord.inFlight_set_same valid.attemptAt rfl rfl) rfl rfl
  | acknowledge target evidence now valid _ _ _ permitted =>
      exact EvidenceTarget.settles valid (.inl permitted)
        (congrArg SessionRecord.attempts
          (target.acknowledge_session evidence _ now)) rfl
        (Focus.DropsOne.of_counters rfl rfl)
  | verify _ _ valid =>
      exact .kept
        (SessionRecord.inFlight_set_same valid.attemptAt rfl rfl) rfl rfl
  | truncate target valid =>
      exact @Focus.AttemptMove.of_settled _ target.focus
        (target.focus.setAttempt target.attemptPosition
          { target.attempt with outcome := .failed, outstanding := false })
        target.truncate _ _ _ valid.attemptAt
        (congrArg SessionRecord.attempts target.truncate_session)
        rfl rfl rfl ⟨rfl, rfl⟩
  | blurShard target valid permitted =>
      exact EvidenceTarget.settles valid (.inr permitted)
        (congrArg SessionRecord.attempts target.blur_session) rfl
        (Focus.DropsOne.of_counters rfl rfl)
  | blurAttempt target now valid =>
      refine @Focus.AttemptMove.of_settled _ target.focus
        (target.focus.setAttempt target.position
          { target.attempt with
            outcome := .ambiguous
            outstanding := false
            updatedAt := now })
        (target.blur now) _ _ _ valid.attemptAt
        (congrArg SessionRecord.attempts (target.blur_session now))
        rfl rfl rfl ⟨?_, rfl⟩
      unfold AttemptTarget.blur
      dsimp only [Focus.revise]
      rw [AttemptTarget.blurShard_session]
  | complete _ now =>
      refine .kept ?_ ?_ (before.completeSession_activeAttempts now)
      · rw [Focus.completeSession_session]
        rfl
      · rw [Focus.completeSession_session]
  | _ =>
      exact .kept rfl rfl rfl

end TrafficFabric
