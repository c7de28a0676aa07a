import TrafficFabric.Engine.Aside
import TrafficFabric.Engine.Closing
import TrafficFabric.Engine.Recovery
import TrafficFabric.Engine.Rates
import TrafficFabric.Engine.Terminal

/-!
# Deadlines

The deadlines of the sessions are kept in an ordered index of their own,
whose entries outlive the envelopes they were made for.  Enforcement is right
as long as the index covers every active session, which an epoch advance
does not see to: it clears the index, and the sessions keep their deadlines.
-/

namespace TrafficFabric

open Foundation

variable {before after engine : Engine} {id : SessionId}
  {session : SessionRecord} {now deadline : Nanos} {focus : Focus}
  {permits : Permits}

/-! ## Elapsing -/

/-- The deadline of a session, if it has one, has not elapsed. -/
def SessionRecord.Timely (now : Nanos) (session : SessionRecord) : Prop :=
  isTerminal session.state = false →
    ¬ (0 < session.envelope.deadlineTarget ∧
      session.envelope.deadlineTarget ≤ now)

/-- Only sessions with an elapsed deadline are failed; active sessions with a
later one are kept as they are. -/
structure Engine.Elapses (now : Nanos) (before after : Engine) : Prop where
  kept :
    ∀ id session, before.sessions.lookup id = some session →
      isTerminal session.state = false →
      now < session.envelope.deadlineTarget →
      after.sessions.lookup id = some session
  origin :
    ∀ id session, after.sessions.lookup id = some session →
      before.sessions.lookup id = some session ∨
        session.state = .failed ∧
          ∃ earlier, before.sessions.lookup id = some earlier ∧
            isTerminal earlier.state = false ∧
            earlier.envelope.deadlineTarget ≤ now

namespace Engine.Elapses

variable {now : Nanos}

theorem of_sessions
    (same : after.sessions = before.sessions) :
    before.Elapses now after where
  kept := by
    intro id session found _ _
    rw [same]
    exact found
  origin := by
    intro id session found
    rw [same] at found
    exact .inl found

theorem trans
    {first second third : Engine} (left : first.Elapses now second)
    (right : second.Elapses now third) : first.Elapses now third where
  kept := fun id session found active later =>
    right.kept id session (left.kept id session found active later) active
      later
  origin := by
    intro id session found
    rcases right.origin id session found with
      same | ⟨failed, middle, stored, active, elapsed⟩
    · exact left.origin id session same
    · rcases left.origin id middle stored with same | ⟨ended, _⟩
      · exact .inr ⟨failed, middle, same, active, elapsed⟩
      · rw [ended] at active
        cases active

end Engine.Elapses

/-- Pruning keeps the active sessions. -/
theorem Engine.lookup_pruneHistory_of_active
    (found : engine.sessions.lookup id = some session)
    (active : isTerminal session.state = false) :
    engine.pruneHistory.sessions.lookup id = some session := by
  refine @Engine.pruneHistory_rule
    (fun reached => reached.sessions.lookup id = some session) ?_
    (fun _ _ kept => kept) (fun _ kept => kept) engine found
  intro reached other record stored terminal kept
  have differs : id ≠ other := by
    rintro rfl
    rw [kept] at stored
    cases stored
    rw [active] at terminal
    cases terminal
  exact (AList.lookup_erase_ne differs).trans kept

/-- Settlement spares the other active sessions. -/
theorem Focus.Framed.closeAs_spares
    {before middle after : Focus} (framed : Focus.Framed before middle)
    {state : SessionState} {reason : ReasonCode} {detail : Text}
    (noted :
      Annotated
        (middle.closeAs state reason detail now).pruneHistory after)
    (other : id ≠ before.key)
    (found : before.engine.sessions.lookup id = some session)
    (active : isTerminal session.state = false) :
    after.commit.sessions.lookup id = some session := by
  have closed := framed.trans (.closeAs _ state reason detail now)
  have key : after.key = before.key := noted.key.trans closed.key
  have table :
      after.engine.sessions =
        (middle.closeAs state reason detail
          now).commit.pruneHistory.sessions :=
    noted.engine.sessions
  rw [Focus.lookup_commit_ne (by rw [key]; exact other), table]
  refine Engine.lookup_pruneHistory_of_active ?_ active
  rw [Focus.lookup_commit_ne (by rw [closed.key]; exact other),
    closed.engine.sessions]
  exact found

/-- The count and the timeline line of an elapsed deadline. -/
theorem Annotated.noteExpiry (focus : Focus) (now : Nanos) :
    Annotated focus ((focus.book (fun accounting =>
      { accounting with
        sessionsFailed := accounting.sessionsFailed + 1 })).appendTimeline
        now (ascii "failed reason=DeadlineUnreachable")) :=
  (Annotated.noteFailure focus).trans
    (Annotated.appendTimeline _ now _)

/-- What the body of the loop leaves in its own slot. -/
theorem Focus.expire_own
    (held : focus.Held)
    (found :
      (focus.expire deadline now).sessions.lookup focus.key =
        some session) :
    isTerminal session.state = true ∨
      session.envelope.deadlineTarget ≠ deadline := by
  unfold Focus.expire at found
  split at found
  · rename_i skipped
    rw [held] at found
    cases found
    exact skipped
  · left
    exact isTerminal_of_failed _
      ((Focus.Framed.markUnproven focus _).closeAs_own
        (Annotated.noteExpiry _ now) found)

theorem Focus.expire_elapses
    (held : focus.Held)
    (due : deadline ≤ now) :
    focus.engine.Elapses now (focus.expire deadline now) := by
  unfold Focus.expire
  split
  · exact .of_sessions rfl
  · rename_i condition
    rcases not_or.mp condition with ⟨active, target⟩
    rw [not_not] at target
    have framed := Focus.Framed.markUnproven focus
      focus.session.outstandingBytes
    constructor
    · intro id session found open_ later
      by_cases own : id = focus.key
      · subst own
        rw [held] at found
        cases found
        rw [target] at later
        exact absurd due (Int64.not_le.mpr later)
      · exact framed.closeAs_spares (Annotated.noteExpiry _ now) own
          found open_
    · intro id session found
      by_cases own : id = focus.key
      · subst own
        refine .inr ⟨framed.closeAs_own (Annotated.noteExpiry _ now) found,
          focus.session, held, isTerminal_eq_false active, ?_⟩
        rw [target]
        exact due
      · exact .inl (framed.closeAs_confined (Annotated.noteExpiry _ now) own
          found)

theorem Engine.visit_expire_elapses
    (due : deadline ≤ now) (engine : Engine)
    (ids : List SessionId) :
    engine.Elapses now
      (engine.visit ids (fun focus => focus.expire deadline now)) := by
  refine @Engine.visit_rule (fun reached => engine.Elapses now reached) _ _
    ?_ engine (.of_sessions rfl)
  intro focus held _ earlier
  exact earlier.trans (Focus.expire_elapses held due)

/-- After the loop over an entry no active session it lists has that
deadline. -/
theorem Engine.visit_expire_own
    {ids : List SessionId}
    (member : id ∈ ids)
    (found :
      (engine.visit ids (fun focus =>
        focus.expire deadline now)).sessions.lookup id = some session) :
    isTerminal session.state = true ∨
      session.envelope.deadlineTarget ≠ deadline := by
  induction ids generalizing engine with
  | nil =>
      cases member
  | cons _ rest hypothesis =>
      by_cases later : id ∈ rest
      · exact hypothesis later found
      · have own := (List.mem_cons.mp member).resolve_right later
        subst own
        rw [Engine.visit_cons] at found
        rcases Settles.visit
          (fun focus => focus.expire_settles deadline now) _ id session found
          with earlier | failed
        · cases looked : engine.hold id with
          | none =>
              rw [looked] at earlier
              have missing := Option.map_eq_none_iff.mp looked
              cases missing.symm.trans earlier
          | some =>
              rw [looked] at earlier
              rcases Engine.hold_eq_some.mp looked with ⟨rfl, rfl, held⟩
              exact Focus.expire_own held earlier
        · exact .inl (isTerminal_of_failed _ failed)

theorem Engine.enforceFrom_elapses
    (now : Nanos) (entries : List (Nanos × List SessionId))
    (engine : Engine) :
    engine.Elapses now (enforceFrom now entries engine) := by
  induction entries generalizing engine with
  | nil =>
      exact .of_sessions rfl
  | cons entry later hypothesis =>
      unfold enforceFrom
      split
      · exact .of_sessions rfl
      · rename_i due
        exact (Engine.visit_expire_elapses (Int64.not_lt.mp due) engine
          _).trans (hypothesis _)

/-- An active session is as it was before time was observed. -/
theorem Engine.lookup_of_observe
    (found : (engine.observe now).sessions.lookup id = some session)
    (active : isTerminal session.state = false) :
    engine.sessions.lookup id = some session := by
  rcases (Engine.enforceFrom_elapses now _ _).origin id session found with
    same | ⟨failed, _⟩
  · exact same
  · rw [failed] at active
    cases active

/-- The session that a command holds is stored. -/
theorem Engine.Holds.lookup
    (holds : engine.Holds id focus) :
    engine.sessions.lookup id = some focus.session := by
  rw [← holds.engine, ← holds.key]
  exact holds.held

theorem Engine.hold_of_lookup
    (stored : engine.sessions.lookup id = some session) :
    engine.hold id = some ⟨engine, id, session⟩ :=
  Engine.hold_eq_some.mpr ⟨rfl, rfl, stored⟩

/-! ## The index -/

/-- The index lists a session under a deadline. -/
def Lists
    (entries : List (Nanos × List SessionId)) (deadline : Nanos)
    (id : SessionId) : Prop :=
  ∃ due, (deadline, due) ∈ entries ∧ id ∈ due

def Ordered (entries : List (Nanos × List SessionId)) : Prop :=
  entries.Pairwise (fun first second => first.1 < second.1)

theorem Lists.cons
    {entries : List (Nanos × List SessionId)}
    (lists : Lists entries deadline id)
    (first : Nanos × List SessionId) :
    Lists (first :: entries) deadline id := by
  rcases lists with ⟨due, member, listed⟩
  exact ⟨due, List.mem_cons_of_mem _ member, listed⟩

theorem lists_pushDeadline_self
    (deadline : Nanos) (id : SessionId)
    (entries : List (Nanos × List SessionId)) :
    Lists (Engine.pushDeadline deadline id entries) deadline id := by
  induction entries with
  | nil =>
      exact ⟨[id], List.mem_cons_self, List.mem_cons_self⟩
  | cons entry rest hypothesis =>
      rcases entry with ⟨key, ids⟩
      unfold Engine.pushDeadline
      split
      · exact ⟨[id], List.mem_cons_self, List.mem_cons_self⟩
      · split
        · rename_i same
          subst same
          exact ⟨ids ++ [id], List.mem_cons_self, by simp⟩
        · exact hypothesis.cons _

theorem Lists.pushDeadline
    {entries : List (Nanos × List SessionId)}
    (lists : Lists entries deadline id)
    (other : Nanos) (added : SessionId) :
    Lists (Engine.pushDeadline other added entries) deadline id := by
  induction entries with
  | nil =>
      rcases lists with ⟨due, member, _⟩
      cases member
  | cons entry _ hypothesis =>
      rcases entry with ⟨key, ids⟩
      unfold Engine.pushDeadline
      split
      · exact lists.cons _
      · rcases lists with ⟨due, member, listed⟩
        rcases List.mem_cons.mp member with own | later
        · cases own
          split
          · exact ⟨ids ++ [added], List.mem_cons_self,
              List.mem_append_left _ listed⟩
          · exact ⟨ids, List.mem_cons_self, listed⟩
        · split
          · exact ⟨due, List.mem_cons_of_mem _ later, listed⟩
          · exact (hypothesis ⟨due, later, listed⟩).cons _

theorem mem_pushDeadline
    {entries : List (Nanos × List SessionId)}
    {entry : Nanos × List SessionId}
    (member : entry ∈ Engine.pushDeadline deadline id entries) :
    entry.1 = deadline ∨ ∃ earlier ∈ entries, earlier.1 = entry.1 := by
  induction entries with
  | nil =>
      rw [List.mem_singleton.mp member]
      exact .inl rfl
  | cons first _ hypothesis =>
      rcases first with ⟨key, ids⟩
      unfold Engine.pushDeadline at member
      split at member
      · rcases List.mem_cons.mp member with own | later
        · rw [own]
          exact .inl rfl
        · exact .inr ⟨entry, later, rfl⟩
      · split at member
        · rcases List.mem_cons.mp member with own | later
          · rw [own]
            exact .inr ⟨(key, ids), List.mem_cons_self, rfl⟩
          · exact .inr ⟨entry, List.mem_cons_of_mem _ later, rfl⟩
        · rcases List.mem_cons.mp member with own | later
          · rw [own]
            exact .inr ⟨(key, ids), List.mem_cons_self, rfl⟩
          · rcases hypothesis later with same | ⟨earlier, kept, same⟩
            · exact .inl same
            · exact .inr ⟨earlier, List.mem_cons_of_mem _ kept, same⟩

theorem Ordered.pushDeadline
    {entries : List (Nanos × List SessionId)} (ordered : Ordered entries)
    (deadline : Nanos) (id : SessionId) :
    Ordered (Engine.pushDeadline deadline id entries) := by
  induction entries with
  | nil =>
      exact List.pairwise_singleton _ _
  | cons first rest hypothesis =>
      rcases first with ⟨key, ids⟩
      rcases List.pairwise_cons.mp ordered with ⟨smallest, tail⟩
      unfold Engine.pushDeadline
      split
      · rename_i below
        refine List.pairwise_cons.mpr ⟨?_, ordered⟩
        intro entry member
        rcases List.mem_cons.mp member with own | later
        · rw [own]
          exact below
        · exact Int64.lt_trans below (smallest entry later)
      · rename_i notBelow
        split
        · exact List.pairwise_cons.mpr ⟨smallest, tail⟩
        · rename_i differs
          refine List.pairwise_cons.mpr ⟨?_, hypothesis tail⟩
          intro entry member
          rcases mem_pushDeadline member with same | ⟨earlier, kept, same⟩
          · rw [same]
            exact Int64.lt_of_le_of_ne (Int64.not_lt.mp notBelow)
              (fun equal => differs equal.symm)
          · rw [← same]
            exact smallest earlier kept

theorem Engine.indexDeadline_deadlines
    (engine : Engine) (session : SessionRecord) :
    (engine.indexDeadline session).deadlines =
      if 0 < session.envelope.deadlineTarget then
        pushDeadline session.envelope.deadlineTarget session.id
          engine.deadlines
      else engine.deadlines := by
  unfold Engine.indexDeadline
  split <;> rfl

theorem Engine.indexDeadline_sessions
    (engine : Engine) (session : SessionRecord) :
    (engine.indexDeadline session).sessions = engine.sessions := by
  unfold Engine.indexDeadline
  split <;> rfl

/-! ## Coverage -/

/-- The index lists every active session that has a deadline. -/
structure Engine.Scheduled
    (engine : Engine) (entries : List (Nanos × List SessionId)) : Prop where
  ordered : Ordered entries
  covered :
    ∀ id session, engine.sessions.lookup id = some session →
      isTerminal session.state = false →
      0 < session.envelope.deadlineTarget →
      Lists entries session.envelope.deadlineTarget id

theorem Engine.Scheduled.of_elapses
    {entries : List (Nanos × List SessionId)}
    (scheduled : before.Scheduled entries)
    (elapses : before.Elapses now after) : after.Scheduled entries where
  ordered := scheduled.ordered
  covered := by
    intro id session found active positive
    rcases elapses.origin id session found with same | ⟨failed, _⟩
    · exact scheduled.covered id session same active positive
    · rw [failed] at active
      cases active

/-- Enforcement leaves the entries that are not due, and they cover the
sessions that are left. -/
theorem Engine.Scheduled.enforceFrom
    {entries : List (Nanos × List SessionId)}
    (scheduled : engine.Scheduled entries) :
    (Engine.enforceFrom now entries engine).Scheduled
        (Engine.enforceFrom now entries engine).deadlines ∧
      ∀ entry ∈ (Engine.enforceFrom now entries engine).deadlines,
        now < entry.1 := by
  induction entries generalizing engine with
  | nil =>
      exact ⟨⟨scheduled.ordered, scheduled.covered⟩, nofun⟩
  | cons entry later hypothesis =>
      rcases entry with ⟨deadline, due⟩
      rcases List.pairwise_cons.mp scheduled.ordered with ⟨smallest, tail⟩
      unfold Engine.enforceFrom
      split
      · rename_i early
        refine ⟨⟨scheduled.ordered, scheduled.covered⟩, ?_⟩
        intro entry member
        rcases List.mem_cons.mp member with own | inLater
        · rw [own]
          exact early
        · exact Int64.lt_trans early (smallest entry inLater)
      · rename_i reached
        refine hypothesis ⟨tail, ?_⟩
        have visited := scheduled.of_elapses
          (Engine.visit_expire_elapses (Int64.not_lt.mp reached) engine due)
        intro id session found active positive
        rcases visited.covered id session found active positive with
          ⟨listed, member, own⟩
        rcases List.mem_cons.mp member with here | inLater
        · cases here
          -- a session of this entry is failed by the loop over it
          rcases Engine.visit_expire_own own found with terminal | differs
          · rw [active] at terminal
            cases terminal
          · exact absurd rfl differs
        · exact ⟨listed, inLater, own⟩

/-! ## Changes -/

/-- No change but a renewal touches the envelope of a session. -/
theorem Change.envelope
    (frozen : ∀ focus, ¬ permits.renew focus)
    {before after : Focus} (change : Change permits before after) :
    after.session.envelope = before.session.envelope := by
  cases change with
  | annotate _ _ noted =>
      rw [noted.session]
  | renew _ _ _ _ _ _ permitted =>
      exact absurd permitted (frozen _)
  | close =>
      rw [Focus.closeAs_session]
  | closeAbandoned | closeMismatched =>
      rw [Focus.closeAs_session]
      rfl
  | unreserve =>
      rw [Focus.releasePathReservation_session]
  | acknowledge =>
      rw [EvidenceTarget.acknowledge_session]
  | truncate =>
      rw [EvidenceTarget.truncate_session]
  | blurShard =>
      rw [EvidenceTarget.blur_session]
  | blurAttempt =>
      rw [AttemptTarget.blur_session]
  | complete =>
      rw [Focus.completeSession_session]
  | _ =>
      rfl

/-- The index is left to the operations. -/
theorem Change.deadlines
    {before after : Focus}
    (change : Change permits before after) :
    after.engine.deadlines = before.engine.deadlines := by
  rcases change.aside with same | ⟨_, same⟩
  · exact congrArg Engine.Aside.deadlines same
  · exact same

/-! ## Edits -/

/-- Every session is stored under its identity. -/
def Engine.Keyed (engine : Engine) : Prop :=
  ∀ id session, engine.sessions.lookup id = some session → session.id = id

theorem Edits.keyed
    (edits : Edits permits before after) (keyed : before.Keyed) :
    after.Keyed :=
  @Edits.forall_sessions _ (fun id session => session.id = id) _ _ edits
    (fun _ _ _ change same => change.request.2.trans same)
    (fun _ _ _ _ => rfl) keyed

/-- Envelopes and the index stay, and only active sessions are resumed. -/
def duePermits : Permits where
  renew := fun _ => False
  reschedule := fun _ _ => False
  resume := fun focus => isTerminal focus.session.state = false

theorem duePermits_settling : duePermits.Settling :=
  { Permits.Routine.free with }

namespace Engine.Scheduled

theorem of_same
    (scheduled : before.Scheduled before.deadlines)
    (sessions : after.sessions = before.sessions)
    (deadlines : after.deadlines = before.deadlines) :
    after.Scheduled after.deadlines := by
  rw [deadlines]
  refine ⟨scheduled.ordered, ?_⟩
  rw [sessions]
  exact scheduled.covered

/-- A new session is listed before it is stored. -/
theorem enroll
    (scheduled : engine.Scheduled engine.deadlines)
    (session : SessionRecord) :
    (engine.enroll session).Scheduled (engine.enroll session).deadlines := by
  have indexed :
      (engine.enroll session).deadlines =
        if 0 < session.envelope.deadlineTarget then
          pushDeadline session.envelope.deadlineTarget session.id
            engine.deadlines
        else engine.deadlines :=
    Engine.indexDeadline_deadlines _ session
  have table := engine.enroll_sessions session
  have kept (deadline : Nanos) (id : SessionId)
      (listed : Lists engine.deadlines deadline id) :
      Lists (engine.enroll session).deadlines deadline id := by
    rw [indexed]
    split
    · exact listed.pushDeadline _ _
    · exact listed
  constructor
  · rw [indexed]
    split
    · exact scheduled.ordered.pushDeadline _ _
    · exact scheduled.ordered
  · intro id stored found active positive
    rw [table] at found
    by_cases own : id = session.id
    · subst own
      rw [Table.lookup_emplace_self] at found
      cases earlier : engine.sessions.lookup session.id with
      | some =>
          rw [earlier, Option.getD_some] at found
          cases found
          exact kept _ _
            (scheduled.covered _ _ earlier active positive)
      | none =>
          rw [earlier, Option.getD_none] at found
          cases found
          rw [indexed, if_pos positive]
          exact lists_pushDeadline_self _ _ _
    · rw [Table.lookup_emplace_ne own] at found
      exact kept _ _ (scheduled.covered id stored found active positive)

theorem change
    {before after : Focus} (live : before.Live)
    (performed : Change duePermits before after)
    (scheduled : before.commit.Scheduled before.commit.deadlines) :
    after.commit.Scheduled after.commit.deadlines := by
  have deadlines : after.commit.deadlines = before.commit.deadlines :=
    performed.deadlines
  rw [deadlines]
  refine ⟨scheduled.ordered, ?_⟩
  refine performed.forall_sessions live scheduled.covered ?_
  intro covered active positive
  rw [performed.envelope (fun _ => not_false)] at positive ⊢
  refine covered ?_ positive
  -- a session that is active after the change was active before it
  cases ended : isTerminal before.session.state with
  | false =>
      rfl
  | true =>
      rw [performed.state_of_terminal (fun _ permitted => permitted) ended,
        ended] at active
      cases active

theorem edit
    {before after : Engine} (edit : Edit duePermits before after)
    (scheduled : before.Scheduled before.deadlines) :
    after.Scheduled after.deadlines := by
  cases edit with
  | housekeeping _ _ same =>
      exact scheduled.of_same same.sessions same.deadlines
  | prune =>
      have deadlines : before.pruneHistory.deadlines = before.deadlines :=
        congrArg Engine.Aside.deadlines before.pruneHistory_aside
      rw [deadlines]
      exact ⟨scheduled.ordered, fun id session found =>
        scheduled.covered id session (Engine.lookup_of_pruneHistory found)⟩
  | reschedule _ _ permitted =>
      exact permitted.elim
  | enroll _ session =>
      exact scheduled.enroll session
  | change live performed =>
      exact scheduled.change live performed
  | _ =>
      exact scheduled.of_same rfl rfl

theorem edits
    (edits : Edits duePermits before after)
    (scheduled : before.Scheduled before.deadlines) :
    after.Scheduled after.deadlines :=
  @reflTransGen_preserves _ (Edit duePermits)
    (fun engine => engine.Scheduled engine.deadlines)
    (fun _ _ edit scheduled => scheduled.edit edit) _ _ edits scheduled

theorem enforceDeadlines
    (scheduled : engine.Scheduled engine.deadlines)
    (now : Nanos) :
    (engine.enforceDeadlines now).Scheduled
      (engine.enforceDeadlines now).deadlines :=
  (Engine.Scheduled.enforceFrom scheduled).1

theorem observe
    (scheduled : engine.Scheduled engine.deadlines)
    (now : Nanos) :
    (engine.observe now).Scheduled (engine.observe now).deadlines := by
  have counted :
      ({ engine with
        commandsProcessed := engine.commandsProcessed + 1 } :
          Engine).Scheduled engine.deadlines :=
    ⟨scheduled.ordered, scheduled.covered⟩
  exact Engine.Scheduled.enforceDeadlines counted now

end Engine.Scheduled

/-! ## Revalidation -/

/-- A renewed session is listed under its new deadline. -/
theorem Engine.Scheduled.renewEnvelope
    (live : focus.Live) (own : focus.session.id = focus.key)
    (scheduled : focus.commit.Scheduled focus.commit.deadlines)
    (contract : WorkloadContract) (path : PathClassId) (rateBps : UInt64)
    (now : Nanos) :
    (focus.renewEnvelope contract path rateBps now).commit.Scheduled
      (focus.renewEnvelope contract path rateBps now).commit.deadlines := by
  let renewed := focus.renewEnvelope contract path rateBps now
  have indexed :
      renewed.commit.deadlines =
        if 0 < renewed.session.envelope.deadlineTarget then
          pushDeadline renewed.session.envelope.deadlineTarget
            focus.session.id focus.engine.deadlines
        else focus.engine.deadlines :=
    Engine.indexDeadline_deadlines focus.engine
      (((focus.renew contract path rateBps now).touch now).settleReason
        .admitted (ascii "revalidated")).session
  have table :
      renewed.commit.sessions =
        focus.commit.sessions.replace focus.key renewed.session := by
    have same : renewed.engine.sessions = focus.engine.sessions :=
      Engine.indexDeadline_sessions focus.engine
        (((focus.renew contract path rateBps now).touch now).settleReason
          .admitted (ascii "revalidated")).session
    unfold Focus.commit
    dsimp only
    rw [same, Table.replace_replace]
    rfl
  have slot := Focus.lookup_commit_self live
  constructor
  · rw [indexed]
    split
    · exact Ordered.pushDeadline scheduled.ordered _ _
    · exact scheduled.ordered
  · intro id session found active positive
    rw [table] at found
    by_cases held : id = focus.key
    · subst held
      rw [Table.lookup_replace_self (Table.mem_of_lookup slot)] at found
      cases found
      rw [indexed, if_pos positive, own]
      exact lists_pushDeadline_self _ _ _
    · rw [Table.lookup_replace_ne held] at found
      have listed := scheduled.covered id session found active positive
      rw [indexed]
      split
      · exact Lists.pushDeadline listed _ _
      · exact listed

theorem Engine.Scheduled.readmit
    (held : focus.Held) (own : focus.session.id = focus.key)
    (scheduled : focus.engine.Scheduled focus.engine.deadlines)
    (contract : WorkloadContract) (path : PathClassId) (rateBps : UInt64)
    (now : Nanos) :
    (focus.readmit contract path rateBps now).2.Scheduled
      (focus.readmit contract path rateBps now).2.deadlines := by
  have unreserved : Change duePermits focus focus.releasePathReservation :=
    .unreserve focus
  rw [← held.commit] at scheduled
  have released := scheduled.change held.live unreserved
  unfold Focus.readmit
  dsimp only
  split
  · exact released
  · rename_i shaper reserved
    let shaped : Focus :=
      { focus.releasePathReservation with
        engine := { focus.releasePathReservation.engine with
          shaper := shaper } }
    have live : shaped.Live := unreserved.live held.live
    have named : shaped.session.id = shaped.key :=
      unreserved.request.2.trans
        (own.trans (Focus.Framed.releasePathReservation focus).key.symm)
    exact Engine.Scheduled.renewEnvelope live named
      (released.of_same rfl rfl) contract path rateBps now

theorem Engine.Scheduled.revalidate
    (scheduled : engine.Scheduled engine.deadlines)
    (keyed : engine.Keyed) (now : Nanos) (id : SessionId)
    (fence : CommandFence) :
    (engine.revalidateSession now id fence).2.Scheduled
      (engine.revalidateSession now id fence).2.deadlines := by
  have observed := scheduled.observe now
  have stillKeyed : (engine.observe now).Keyed :=
    Edits.keyed (Engine.observe_edits anyPermits_routine engine now) keyed
  unfold Engine.revalidateSession Engine.guarded
  dsimp only
  split
  · exact observed
  · rename_i focus passed
    rcases Engine.revalidationTarget_ok passed with ⟨owned, stale⟩
    rcases focus.revalidate_cases now with
      ⟨contract, pathId, rateBps, _, same⟩ | ⟨made, answered, refused⟩
    · rw [same]
      rw [← owned.engine] at observed stillKeyed
      exact observed.readmit owned.held (stillKeyed _ _ owned.held) contract
        pathId rateBps now
    · refine observed.edits (owned.edits ?_)
      refine (Focus.revalidate_moves trivial owned.held stale now ?_
        (fun _ => ⟨trivial, fun _ _ => trivial⟩)).edits
      intro other same admitted
      rw [answered] at same
      cases same
      exact absurd admitted refused

/-! ## Epochs and snapshots -/

/-- No active session has a deadline. -/
def Engine.Unscheduled (engine : Engine) : Prop :=
  ∀ id session, engine.sessions.lookup id = some session →
    isTerminal session.state = false →
    ¬ 0 < session.envelope.deadlineTarget

theorem Engine.Scheduled.advanceEpoch
    (scheduled : engine.Scheduled engine.deadlines)
    (now : Nanos) (epoch : CoordinatorEpoch)
    (unscheduled : engine.epoch < epoch → engine.Unscheduled) :
    (engine.advanceEpoch now epoch).2.Scheduled
      (engine.advanceEpoch now epoch).2.deadlines := by
  unfold Engine.advanceEpoch Engine.guarded
  split
  · exact scheduled
  · rename_i passed
    have newer : engine.epoch < epoch := by
      simpa [refuseWhen_eq_ok] using passed
    have emptied :
        ({ engine with epoch := epoch, deadlines := [] } :
          Engine).Scheduled [] :=
      ⟨List.Pairwise.nil, fun id session found active positive =>
        absurd positive (unscheduled newer id session found active)⟩
    exact Engine.Scheduled.edits (Engine.visit_edits
      (fun focus held => Focus.restart_edits held now trivial) _ _) emptied

/-- Listing the active sessions of a table. -/
theorem scheduleAll
    (sessions : List SessionRecord)
    (ordered : Ordered engine.deadlines) :
    let after := sessions.foldl
      (fun engine session =>
        if isTerminal session.state then engine
        else engine.indexDeadline session) engine
    Ordered after.deadlines ∧
      (∀ deadline id, Lists engine.deadlines deadline id →
        Lists after.deadlines deadline id) ∧
      ∀ session ∈ sessions, isTerminal session.state = false →
        0 < session.envelope.deadlineTarget →
        Lists after.deadlines session.envelope.deadlineTarget session.id := by
  induction sessions generalizing engine with
  | nil =>
      refine ⟨ordered, fun _ _ listed => listed, ?_⟩
      intro session member
      cases member
  | cons first rest hypothesis =>
      let next :=
        if isTerminal first.state then engine
        else engine.indexDeadline first
      have step :
          Ordered next.deadlines ∧
            (∀ deadline id, Lists engine.deadlines deadline id →
              Lists next.deadlines deadline id) ∧
            (isTerminal first.state = false →
              0 < first.envelope.deadlineTarget →
              Lists next.deadlines first.envelope.deadlineTarget
                first.id) := by
        dsimp only [next]
        unfold Engine.indexDeadline
        split
        · rename_i terminal
          refine ⟨ordered, fun _ _ listed => listed, ?_⟩
          intro active
          rw [terminal] at active
          cases active
        · split
          · exact ⟨ordered.pushDeadline _ _,
              fun _ _ listed => listed.pushDeadline _ _,
              fun _ _ => lists_pushDeadline_self _ _ _⟩
          · rename_i none_
            exact ⟨ordered, fun _ _ listed => listed,
              fun _ positive => absurd positive none_⟩
      rcases hypothesis step.1 with ⟨stillOrdered, kept, listed⟩
      refine ⟨stillOrdered, fun deadline id earlier =>
        kept deadline id (step.2.1 deadline id earlier), ?_⟩
      intro session member active positive
      rcases List.mem_cons.mp member with rfl | later
      · exact kept _ _ (step.2.2 active positive)
      · exact listed session later active positive

theorem Engine.restore_keyed
    (keyed : engine.Keyed) (now : Nanos)
    (snapshot : EngineSnapshot) : (engine.restore now snapshot).2.Keyed := by
  cases accepted : engine.restorable snapshot with
  | error =>
      rw [Engine.restore_refused accepted]
      exact keyed
  | ok =>
      intro id session found
      rw [Engine.restore_lookup accepted] at found
      rcases Option.map_eq_some_iff.mp found with ⟨record, stored, rfl⟩
      rcases Engine.restored_lookup accepted stored with
        ⟨persisted, _, shards, _, named, rfl⟩
      unfold SessionRecord.quiesced
      split <;> exact named

/-- The restored engine with its counters derived from the table. -/
def Engine.recounted
    (engine : Engine) (now : Nanos) (snapshot : EngineSnapshot)
    (restored : Table SessionId SessionRecord) : Engine :=
  let quiet := engine.quieted now snapshot restored
  quiet.sessions.values.foldl Engine.recountSession
    { quiet with
      classActive := fun _ => 0
      workloadActive := ∅
      terminalOrder := []
      deadlines := []
      accounting := { quiet.accounting with
        activeSessions := 0
        grantedOutstandingBytes := 0 } }

theorem Engine.recountSession_deadlines
    (engine : Engine) (session : SessionRecord) :
    (engine.recountSession session).deadlines = engine.deadlines := by
  unfold Engine.recountSession
  dsimp only
  split <;> rfl

theorem Engine.Scheduled.restore
    (scheduled : engine.Scheduled engine.deadlines)
    (keyed : engine.Keyed) (now : Nanos) (snapshot : EngineSnapshot) :
    (engine.restore now snapshot).2.Scheduled
      (engine.restore now snapshot).2.deadlines := by
  have restoredKeyed := Engine.restore_keyed keyed now snapshot
  cases accepted : engine.restorable snapshot with
  | error =>
      rw [Engine.restore_refused accepted]
      exact scheduled
  | ok restored =>
      have cleared :
          (engine.restore now snapshot).2 =
            ((engine.recounted now snapshot restored).sessions.values.foldl
              (fun engine session =>
                if isTerminal session.state then engine
                else engine.indexDeadline session)
              (engine.recounted now snapshot restored)) := by
        unfold Engine.restore Engine.guarded
        rw [accepted]
        rfl
      have empty : (engine.recounted now snapshot restored).deadlines = [] :=
        foldl_preserves Engine.deadlines
          (fun state session => state.recountSession_deadlines session) _ _
      have table :
          (engine.restore now snapshot).2.sessions =
            (engine.recounted now snapshot restored).sessions := by
        rw [cleared]
        refine foldl_preserves Engine.sessions ?_ _ _
        intro state session
        split
        · rfl
        · exact state.indexDeadline_sessions session
      rcases scheduleAll
          (engine.recounted now snapshot restored).sessions.values
          (by rw [empty]; exact List.Pairwise.nil) with
        ⟨ordered, _, listed⟩
      rw [← cleared] at ordered listed
      refine ⟨ordered, ?_⟩
      intro id session found active positive
      have own := restoredKeyed id session found
      rw [table] at found
      have covered := listed session (Table.mem_values_iff.mpr ⟨id, found⟩)
        active positive
      rw [own] at covered
      exact covered

/-! ## Runs -/

/-- The epoch advances only while no active session has a deadline, and only
active sessions are resumed. -/
def DeadlineCondition (engine : Engine) (now : Nanos) : Command → Prop
  | .advanceEpoch epoch =>
      engine.epoch < epoch →
        ∀ session ∈ engine.sessions.values,
          isTerminal session.state = false →
          ¬ 0 < session.envelope.deadlineTarget
  | .resumeSession id fence => engine.ResumesActive now id fence
  | _ => True

/-- The runs whose commands meet the condition; any snapshot may be restored
at any time. -/
abbrev DeadlineRun (config : EngineConfig) (boot : Nanos) :
    List Event → Engine → Prop :=
  Run (fun engine event next =>
      Step engine event next ∧ event.meets DeadlineCondition engine)
    (Engine.construct config boot)

theorem Engine.Scheduled.entered
    (scheduled : engine.Scheduled engine.deadlines)
    (now : Nanos) (command : Command) :
    (engine.entered now command).Scheduled
      (engine.entered now command).deadlines := by
  cases command with
  | pollDeadlines =>
      exact scheduled.enforceDeadlines now
  | _ =>
      first
      | exact scheduled
      | exact scheduled.of_same rfl rfl
      | exact scheduled.observe now

theorem Engine.Scheduled.execute
    (scheduled : engine.Scheduled engine.deadlines)
    (keyed : engine.Keyed) {command : Command}
    (condition : DeadlineCondition engine now command) :
    (engine.execute now command).2.Scheduled
      (engine.execute now command).2.deadlines := by
  by_cases rewriting : command.reschedules = true
  · cases command with
    | advanceEpoch epoch =>
        refine scheduled.advanceEpoch now epoch ?_
        intro newer id session found
        exact condition newer session (Table.mem_values_iff.mpr ⟨id, found⟩)
    | revalidateSession id fence =>
        exact scheduled.revalidate keyed now id fence
    | _ =>
        cases rewriting
  · by_cases restoring : ∃ snapshot, command = .restore snapshot
    · rcases restoring with ⟨snapshot, rfl⟩
      exact scheduled.restore keyed now snapshot
    · refine Engine.Scheduled.edits (Engine.body_edits duePermits_settling
        engine now command (Permits.Grounds.allow
          { Permits.Grounds.free engine now command with
            reschedule := ?_, renew := ?_, resume := ?_ }
          (fun snapshot same => restoring ⟨snapshot, same⟩)))
        (scheduled.entered now command)
      · intro _ _ reschedules
        exact absurd reschedules rewriting
      · rintro id fence focus made rfl
        exact absurd rfl rewriting
      · rintro id fence focus rfl passed
        exact condition focus passed

theorem DeadlineRun.scheduled
    {config : EngineConfig} {boot : Nanos} {history : List Event}
    (run : DeadlineRun config boot history engine) :
    engine.Keyed ∧ engine.Scheduled engine.deadlines := by
  refine @Run.invariant _ _ _ _
    (fun state => state.Keyed ∧ state.Scheduled state.deadlines) ?_ ?_ _ _
    run
  · have blank := (Engine.construct_blank config boot).1
    refine ⟨?_, ?_, ?_⟩
    · intro id session found
      rw [blank] at found
      cases found
    · unfold Engine.construct
      dsimp only
      split <;> exact List.Pairwise.nil
    · intro id session found
      rw [blank] at found
      cases found
  · rintro state event next ⟨step, condition⟩ ⟨keyed, scheduled⟩
    cases step with
    | call now command =>
        refine ⟨?_, scheduled.execute keyed condition⟩
        by_cases restoring : ∃ snapshot, command = .restore snapshot
        · rcases restoring with ⟨snapshot, rfl⟩
          exact Engine.restore_keyed keyed now snapshot
        · exact Edits.keyed (Engine.execute_edits anyPermits_routine state
            now command (Permits.Grounds.allow (.free state now command)
              (fun snapshot same => restoring ⟨snapshot, same⟩))) keyed
    | rehash sessions _ same =>
        have stored (id : SessionId) :
            sessions.lookup id = state.sessions.lookup id :=
          AList.perm_lookup same
        refine ⟨?_, scheduled.ordered, ?_⟩
        · intro id session found
          exact keyed id session ((stored id).symm.trans found)
        · intro id session found
          exact scheduled.covered id session ((stored id).symm.trans found)

/-- After a poll no active session has an elapsed deadline, and the poll
touches no other session. -/
theorem deadlines_are_enforced
    {config : EngineConfig} {boot : Nanos} {history : List Event}
    {engine : Engine} (run : DeadlineRun config boot history engine)
    (now : Nanos) :
    (∀ id session,
        (engine.execute now .pollDeadlines).2.sessions.lookup id =
          some session →
        session.Timely now) ∧
      engine.Elapses now (engine.execute now .pollDeadlines).2 := by
  refine ⟨?_, Engine.enforceFrom_elapses now _ engine⟩
  rintro id session found active ⟨positive, elapsed⟩
  rcases Engine.Scheduled.enforceFrom run.scheduled.2 with
    ⟨scheduled, later⟩
  rcases scheduled.covered id session found active positive with
    ⟨due, member, _⟩
  exact absurd elapsed (Int64.not_le.mpr (later _ member))

instance (engine : Engine) (now : Nanos) :
    ∀ command, Decidable (DeadlineCondition engine now command) := by
  intro command
  apply @Command.casesOn
      (fun command => Decidable (DeadlineCondition engine now command)) command <;>
    intros <;> unfold DeadlineCondition <;> infer_instance

instance (now : Nanos) (session : SessionRecord) :
    Decidable (session.Timely now) := by
  unfold SessionRecord.Timely
  infer_instance

/-- A session outlives an epoch. -/
def outlivedEpochScript : List (Nanos × Command) :=
  Sample.admittedScript ++ [(2, .advanceEpoch ⟨⟨2⟩, ⟨1⟩⟩)]

theorem deadlinesScripts_evaluated :
    (ScriptMeets DeadlineCondition (Engine.construct Sample.config 0)
         Sample.admittedScript ∧
       ∃ session ∈
         (Sample.admittedEngine.execute 300000000002
           .pollDeadlines).2.sessions.lookup ⟨Sample.drawn 0⟩,
         session.state = .failed) ∧
      (let engine :=
         ((Engine.construct Sample.config 0).executeAll
           outlivedEpochScript).2
       ∃ session ∈
         (engine.execute 400000000000 .pollDeadlines).2.sessions.lookup
           ⟨Sample.drawn 0⟩, ¬ session.Timely 400000000000) := by
  decide +kernel

/-- A session has five minutes from its admission; a poll one nanosecond after
that fails it. -/
theorem deadlines_are_enforced_after_admission :
    ∃ session,
      (Sample.admittedEngine.execute 300000000002
          .pollDeadlines).2.sessions.lookup ⟨Sample.drawn 0⟩ =
          some session ∧
        session.state = .failed ∧ session.Timely 300000000002 := by
  have evaluated := deadlinesScripts_evaluated.1
  have run : DeadlineRun Sample.config 0 _ _ :=
    (Engine.executeAll_conditioned _ evaluated.1).mono
      (fun _ _ _ step => ⟨step.1, step.2.2⟩)
  rcases evaluated.2 with ⟨session, found, failed⟩
  exact ⟨session, found, failed,
    (deadlines_are_enforced run 300000000002).1 _ _ found⟩

/-- After the epoch has advanced, no poll finds the session. -/
theorem deadline_is_lost_with_epoch :
    ∃ history engine session,
      EngineRun Sample.config 0 history engine ∧
        (∀ event ∈ history, event.restores = false) ∧
        (engine.execute 400000000000 .pollDeadlines).2.sessions.lookup
            ⟨Sample.drawn 0⟩ = some session ∧
        ¬ session.Timely 400000000000 := by
  have evaluated := deadlinesScripts_evaluated.2
  rcases evaluated with ⟨session, found, late⟩
  refine ⟨_, _, session, Engine.executeAll_run _ outlivedEpochScript, ?_,
    found, late⟩
  simp [Engine.executeAll, outlivedEpochScript, Sample.admittedScript,
    Event.restores]

end TrafficFabric
