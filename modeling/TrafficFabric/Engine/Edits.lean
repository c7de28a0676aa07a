import TrafficFabric.Engine.Guards

/-!
# What one command can do to the engine

A command is a sequence of `Edit`s: elementary changes of single sessions,
prunings, enrolments and bookkeeping.  The sections below show this for the
building blocks that several commands share.  A `Move` is an edit that settles
no session, or a settlement together with the pruning that follows it.
-/

namespace TrafficFabric

open Foundation

variable {before after closed : Focus} {line : Text} {engine : Engine}
  {id : SessionId} {session : SessionRecord} {workload : WorkloadId}

/-- The elementary edits of an engine. -/
inductive Edit (permits : Permits) : Engine → Engine → Prop
  | housekeeping (before after : Engine)
      (same : Housekeeping before after)
      (recalled :
        permits.remember ∨ after.memory = before.memory := by
        exact Or.inr rfl) :
      Edit permits before after
  | adoptEpoch (engine : Engine) (epoch : CoordinatorEpoch)
      (permitted : permits.epoch epoch) :
      Edit permits engine { engine with epoch := epoch }
  | adoptPolicy (engine : Engine) (policy : PolicySnapshot)
      (accepted : validatePolicy policy = .ok ())
      (permitted : permits.policy policy) :
      Edit permits engine { engine with policy := policy }
  | adoptTopology (engine : Engine) (topology : TopologySnapshot)
      (accepted : validateTopology topology engine.limits = .ok ())
      (permitted : permits.topology topology) :
      Edit permits engine { engine with topology := topology }
  | adoptContract (engine : Engine) (contract : WorkloadContract)
      (accepted : engine.contractAccepted contract = .ok ())
      (permitted : permits.contract contract) :
      Edit permits engine { engine with
        contracts := engine.contracts.insert contract.workload contract }
  | prune (engine : Engine)
      (crowded :
        engine.retentionBound < engine.sessions.entries.length) :
      Edit permits engine engine.pruneHistory
  | draw (engine : Engine) :
      Edit permits engine engine.drawn
  /-- Buckets are configured, refilled or drawn on. -/
  | reshape (engine : Engine) (shaper : RateShaper)
      (kept : shaper.pathReservations = engine.shaper.pathReservations)
      (permitted : permits.reshape engine shaper) :
      Edit permits engine { engine with shaper := shaper }
  | reserve (engine : Engine) (path : PathClassId) (rateBps : UInt64)
      (shaper : RateShaper)
      (reserved :
        engine.shaper.reservePathRate path rateBps = some shaper)
      (permitted : permits.reserve engine shaper) :
      Edit permits engine { engine with shaper := shaper }
  | reschedule (engine : Engine) (deadlines : List (Nanos × List SessionId))
      (permitted : permits.reschedule engine deadlines) :
      Edit permits engine { engine with deadlines := deadlines }
  | enroll (engine : Engine) (session : SessionRecord)
      (admitted : session.Admitted)
      (permitted : permits.enroll engine session) :
      Edit permits engine (engine.enroll session)
  | change {before after : Focus} (live : before.Live)
      (performed : Change permits before after) :
      Edit permits before.commit after.commit

/-- Finitely many edits. -/
abbrev Edits (permits : Permits) : Engine → Engine → Prop :=
  Relation.ReflTransGen (Edit permits)

/-- Finitely many changes of one session. -/
abbrev Changes (permits : Permits) : Focus → Focus → Prop :=
  Relation.ReflTransGen (Change permits)

section

variable {permits : Permits}

/-! ## Changes of one session -/

theorem Changes.live
    (changes : Changes permits before after) (live : before.Live) :
    after.Live := by
  induction changes with
  | refl =>
      exact live
  | tail _ change hypothesis =>
      exact change.live hypothesis

theorem Changes.framed
    (changes : Changes permits before after) :
    Focus.Framed before after := by
  induction changes with
  | refl =>
      exact ⟨rfl, Frame.refl _⟩
  | tail _ change hypothesis =>
      exact hypothesis.trans change.framed

/-- Changes of a live session are edits of the engine. -/
theorem Changes.edits
    (changes : Changes permits before after) (live : before.Live) :
    Edits permits before.commit after.commit := by
  induction changes with
  | refl =>
      exact .refl
  | tail earlier change hypothesis =>
      exact hypothesis.tail (.change (Changes.live earlier live) change)

/-! ## Remarks -/

theorem Housekeeping.trans
    {first second third : Engine}
    (left : Housekeeping first second)
    (right : Housekeeping second third) :
    Housekeeping first third :=
  { left.toFrame.trans right.toFrame with
    factory := right.factory.trans left.factory
    underflow := right.underflow.trans left.underflow
    accounts := left.accounts.trans right.accounts
    classActive := right.classActive.trans left.classActive
    workloadActive := right.workloadActive.trans left.workloadActive
    shaper := right.shaper.trans left.shaper
    deadlines := right.deadlines.trans left.deadlines
    terminalOrder := right.terminalOrder.trans left.terminalOrder }

/-- Counting something other than bytes and activity is bookkeeping. -/
theorem Housekeeping.book
    (engine : Engine) {change : AccountingSnapshot → AccountingSnapshot}
    (same :
      ∀ accounting : AccountingSnapshot, accounting.Alike (change accounting)) :
    Housekeeping engine (engine.book change) :=
  { Housekeeping.refl engine with accounts := same engine.accounting }

namespace Annotated

theorem refl (focus : Focus) : Annotated focus focus where
  key := rfl
  engine := Housekeeping.refl _
  memory := rfl
  session := rfl

theorem trans
    {first second third : Focus}
    (left : Annotated first second)
    (right : Annotated second third) :
    Annotated first third where
  key := right.key.trans left.key
  engine := left.engine.trans right.engine
  memory := right.memory.trans left.memory
  session := by
    rw [right.session, left.session]

/-- Bookkeeping in the engine while a session is held. -/
theorem account
    (focus : Focus)
    (same : Housekeeping focus.engine engine)
    (recalled : engine.memory = focus.engine.memory) :
    Annotated focus { focus with engine := engine } where
  key := rfl
  engine := same
  memory := recalled
  session := rfl

theorem book
    (focus : Focus) {change : AccountingSnapshot → AccountingSnapshot}
    (same :
      ∀ accounting : AccountingSnapshot, accounting.Alike (change accounting)) :
    Annotated focus (focus.book change) :=
  account focus (Housekeeping.book focus.engine same) rfl

theorem touch (focus : Focus) (now : Nanos) :
    Annotated focus (focus.touch now) where
  key := rfl
  engine := Housekeeping.refl _
  memory := rfl
  session := rfl

theorem settleReason
    (focus : Focus) (reason : ReasonCode) (detail : Text) :
    Annotated focus (focus.settleReason reason detail) where
  key := rfl
  engine := Housekeeping.refl _
  memory := rfl
  session := rfl

theorem supersededBy (focus : Focus) (successor : SessionId) :
    Annotated focus (focus.revise (fun session =>
      { session with supersededBy := some successor })) where
  key := rfl
  engine := Housekeeping.refl _
  memory := rfl
  session := rfl

theorem durability (focus : Focus) (assertion : DurabilityAssertion) :
    Annotated focus (focus.revise (fun session =>
      { session with durability := assertion })) where
  key := rfl
  engine := Housekeeping.refl _
  memory := rfl
  session := rfl

theorem appendTimeline
    (focus : Focus) (now : Nanos) (line : Text) :
    Annotated focus (focus.appendTimeline now line) where
  key := rfl
  engine := Housekeeping.refl _
  memory := rfl
  session := rfl

theorem state
    (noted : Annotated before after) :
    after.session.state = before.session.state := by
  rw [noted.session]

/-- Remarks on a session are edits, even through a dangling reference, where
only the bookkeeping remains. -/
theorem edits
    (noted : Annotated before after) :
    Edits permits before.commit after.commit := by
  by_cases live : before.Live
  · exact .single (.change live (.annotate _ _ noted))
  · have gone : ¬ after.Live := by
      unfold Focus.Live at live ⊢
      rw [noted.key, noted.engine.sessions]
      exact live
    rw [Focus.commit_of_dead live, Focus.commit_of_dead gone]
    exact .single (.housekeeping _ _ noted.engine (.inr noted.memory))

end Annotated

/-! ## Visits -/

/-- What every visit keeps holds after a loop over sessions. -/
theorem Engine.visit_rule
    {Holds : Engine → Prop} {body : Focus → Engine} {ids : List SessionId}
    (each :
      ∀ focus : Focus, focus.Held → focus.key ∈ ids →
        Holds focus.engine → Holds (body focus))
    {engine : Engine} (holds : Holds engine) :
    Holds (engine.visit ids body) := by
  induction ids generalizing engine with
  | nil =>
      exact holds
  | cons id rest hypothesis =>
      refine hypothesis ?_ ?_
      · intro focus held member
        exact each focus held (List.mem_cons_of_mem _ member)
      · dsimp only
        split
        · exact holds
        · rename_i focus found
          rcases Engine.hold_eq_some.mp found with ⟨rfl, rfl, held⟩
          exact each focus held List.mem_cons_self holds

theorem Engine.visit_edits
    {body : Focus → Engine}
    (each :
      ∀ focus : Focus, focus.Held → Edits permits focus.commit (body focus))
    (engine : Engine) (ids : List SessionId) :
    Edits permits engine (engine.visit ids body) := by
  refine Engine.visit_rule ?_ (.refl : Edits permits engine engine)
  intro focus held _ earlier
  have visited := each focus held
  rw [held.commit] at visited
  exact earlier.trans visited

/-! ## Pruning -/

theorem Engine.pruneLoop_rule
    {Holds : Engine → Prop}
    (evicted :
      ∀ (engine : Engine) (id : SessionId) (session : SessionRecord),
        engine.sessions.lookup id = some session →
        isTerminal session.state = true → Holds engine →
        Holds (engine.evict id session))
    (popped :
      ∀ (engine : Engine) (order : List SessionId), Holds engine →
        Holds { engine with terminalOrder := order })
    (target : Nat) (ids : List SessionId) (erased : Bool)
    (holds : Holds engine) :
    Holds (pruneLoop target ids erased engine).2 := by
  induction ids generalizing erased engine with
  | nil =>
      exact popped engine [] holds
  | cons id rest hypothesis =>
      unfold pruneLoop
      split
      · split
        · exact hypothesis _ holds
        · rename_i session found
          split
          · rename_i terminal
            exact hypothesis _
              (evicted engine id session found terminal holds)
          · exact hypothesis _ holds
      · exact popped engine _ holds

/-- What evictions and rebuilt indexes keep, pruning keeps. -/
theorem Engine.pruneHistory_rule
    {Holds : Engine → Prop}
    (evicted :
      ∀ (engine : Engine) (id : SessionId) (session : SessionRecord),
        engine.sessions.lookup id = some session →
        isTerminal session.state = true → Holds engine →
        Holds (engine.evict id session))
    (popped :
      ∀ (engine : Engine) (order : List SessionId), Holds engine →
        Holds { engine with terminalOrder := order })
    (rebuilt :
      ∀ engine : Engine, Holds engine → Holds engine.rebuildIndexes)
    {engine : Engine} (holds : Holds engine) :
    Holds engine.pruneHistory := by
  have looped := Engine.pruneLoop_rule evicted popped
    (engine.retentionBound * 3 / 4) engine.terminalOrder false holds
  unfold Engine.pruneHistory
  split
  · exact holds
  · dsimp only
    split
    · exact rebuilt _ looped
    · exact looped

/-- Pruning touches the table, its indexes and the pruned totals only. -/
theorem Engine.pruneHistory_eq (engine : Engine) :
    engine.pruneHistory =
      { engine with
        sessions := engine.pruneHistory.sessions
        byWorkload := engine.pruneHistory.byWorkload
        byCheckpoint := engine.pruneHistory.byCheckpoint
        pruned := engine.pruneHistory.pruned
        terminalOrder := engine.pruneHistory.terminalOrder } := by
  refine @Engine.pruneHistory_rule
    (fun reached => reached =
      { engine with
        sessions := reached.sessions
        byWorkload := reached.byWorkload
        byCheckpoint := reached.byCheckpoint
        pruned := reached.pruned
        terminalOrder := reached.terminalOrder })
    ?_ ?_ ?_ engine rfl
  · intro reached id session _ _ same
    rw [same]
    rfl
  · intro reached order same
    rw [same]
  · intro reached same
    rw [same]
    rfl

/-- Without too many sessions there is nothing to prune. -/
theorem Engine.pruneHistory_of_roomy
    (roomy : engine.sessions.entries.length ≤ engine.retentionBound) :
    engine.pruneHistory = engine := by
  unfold Engine.pruneHistory
  rw [if_pos roomy]

/-- Pruning evicts sessions and leaves the others as they are. -/
theorem Engine.lookup_pruneLoop
    (target : Nat) (ids : List SessionId) (erased : Bool)
    (engine : Engine) (id : SessionId) :
    (pruneLoop target ids erased engine).2.sessions.lookup id = none ∨
      (pruneLoop target ids erased engine).2.sessions.lookup id =
        engine.sessions.lookup id := by
  induction ids generalizing erased engine with
  | nil =>
      exact .inr rfl
  | cons first rest hypothesis =>
      unfold pruneLoop
      split
      · split
        · exact hypothesis _ _
        · rename_i session found
          split
          · rcases hypothesis true (engine.evict first session) with
              gone | kept
            · exact .inl gone
            · by_cases same : id = first
              · subst same
                left
                rw [kept]
                exact AList.lookup_erase _ _
              · right
                rw [kept]
                exact AList.lookup_erase_ne same
          · exact hypothesis _ _
      · exact .inr rfl

theorem Engine.pruneHistory_edits (engine : Engine) :
    Edits permits engine engine.pruneHistory := by
  by_cases crowded : engine.retentionBound < engine.sessions.entries.length
  · exact .single (.prune engine crowded)
  · rw [Engine.pruneHistory_of_roomy (Nat.le_of_not_lt crowded)]

theorem Engine.lookup_pruneHistory (engine : Engine) (id : SessionId) :
    engine.pruneHistory.sessions.lookup id = none ∨
      engine.pruneHistory.sessions.lookup id =
        engine.sessions.lookup id := by
  unfold Engine.pruneHistory
  split
  · exact .inr rfl
  · have looped := Engine.lookup_pruneLoop
      (engine.retentionBound * 3 / 4) engine.terminalOrder false engine id
    dsimp only
    split
    · exact looped
    · exact looped

theorem Engine.lookup_of_pruneHistory
    (stored : engine.pruneHistory.sessions.lookup id = some session) :
    engine.sessions.lookup id = some session := by
  rcases Engine.lookup_pruneHistory engine id with gone | kept
  · rw [gone] at stored
    cases stored
  · rw [← kept]
    exact stored

/-- Pruning with a held session is pruning the committed engine: the slot
either survives with what was written or is gone. -/
theorem Focus.commit_pruneHistory (focus : Focus) :
    focus.pruneHistory.commit = focus.commit.pruneHistory := by
  rcases Engine.lookup_pruneHistory focus.commit focus.key with gone | kept
  · refine @Focus.commit_of_dead focus.pruneHistory ?_
    exact AList.lookup_eq_none.mp gone
  · by_cases live : focus.Live
    · refine @Focus.Held.commit focus.pruneHistory ?_
      exact kept.trans (Focus.lookup_commit_self live)
    · refine @Focus.commit_of_dead focus.pruneHistory ?_
      refine AList.lookup_eq_none.mp (kept.trans ?_)
      rw [Focus.commit_of_dead live]
      exact AList.lookup_eq_none.mpr live

theorem Focus.pruneHistory_edits (focus : Focus) :
    Edits permits focus.commit focus.pruneHistory.commit := by
  rw [Focus.commit_pruneHistory]
  exact Engine.pruneHistory_edits focus.commit

/-! ## Moves -/

/-- The permits without settlements. -/
abbrev Permits.calm (permits : Permits) : Permits :=
  { permits with close := False }

/-- An edit that settles no session, or a settlement together with the
pruning that follows it. -/
inductive Move (permits : Permits) : Engine → Engine → Prop
  | edit {before after : Engine} (edit : Edit permits.calm before after) :
      Move permits before after
  | settle {before closed : Focus} (live : before.Live)
      (changes : Changes permits before closed) :
      Move permits before.commit closed.pruneHistory.commit

/-- Finitely many moves. -/
abbrev Moves (permits : Permits) : Engine → Engine → Prop :=
  Relation.ReflTransGen (Move permits)

theorem Edits.moves
    {before after : Engine} (edits : Edits permits.calm before after) :
    Moves permits before after :=
  Relation.ReflTransGen.mono (fun _ _ edit => Move.edit edit) _ _ edits

theorem Annotated.moves
    (noted : Annotated before after) :
    Moves permits before.commit after.commit := by
  exact Edits.moves noted.edits

theorem Change.of_calm
    (change : Change permits.calm before after) :
    Change permits before after := by
  cases change with
  | annotate _ _ noted =>
      exact .annotate _ _ noted
  | withdraw _ reason active stale =>
      exact .withdraw _ reason active stale
  | unprove _ bytes permitted =>
      exact .unprove _ bytes permitted
  | cancelOutstanding _ active permitted =>
      exact .cancelOutstanding _ active permitted
  | rearm _ now active =>
      exact .rearm _ now active
  | close _ _ _ _ _ _ _ _ closing =>
      exact closing.elim
  | closeAbandoned _ _ _ _ _ _ _ closing =>
      exact closing.elim
  | closeMismatched _ _ _ _ _ _ closing =>
      exact closing.elim
  | postpone _ reason stale nonempty =>
      exact .postpone _ reason stale nonempty
  | unreserve =>
      exact .unreserve _
  | renew _ contract path rateBps now stale permitted =>
      exact .renew _ contract path rateBps now stale permitted
  | suspend _ active authorised unpaused =>
      exact .suspend _ active authorised unpaused
  | reinstate _ paused permitted =>
      exact .reinstate _ paused permitted
  | charge target shaper chunk now grantable kept permitted =>
      exact .charge target shaper chunk now grantable kept permitted
  | flagSource target sourceBytes valid =>
      exact .flagSource target sourceBytes valid
  | sight target evidence now outcome valid within grows unsettled =>
      exact .sight target evidence now outcome valid within grows unsettled
  | acknowledge target evidence now valid within grows funded permitted =>
      exact .acknowledge target evidence now valid within grows funded
        permitted
  | verify target evidence valid acked exact_ permitted =>
      exact .verify target evidence valid acked exact_ permitted
  | truncate target valid permitted =>
      exact .truncate target valid permitted
  | blurShard target valid permitted =>
      exact .blurShard target valid permitted
  | blurAttempt target now valid permitted =>
      exact .blurAttempt target now valid permitted
  | progress _ active =>
      exact .progress _ active
  | complete _ _ _ _ closing =>
      exact closing.elim

theorem Edit.of_calm
    {before after : Engine} (edit : Edit permits.calm before after) :
    Edit permits before after := by
  cases edit with
  | housekeeping _ _ same recalled =>
      exact .housekeeping _ _ same recalled
  | adoptEpoch _ epoch permitted =>
      exact .adoptEpoch _ epoch permitted
  | adoptPolicy _ policy accepted permitted =>
      exact .adoptPolicy _ policy accepted permitted
  | adoptTopology _ topology accepted permitted =>
      exact .adoptTopology _ topology accepted permitted
  | adoptContract _ contract accepted permitted =>
      exact .adoptContract _ contract accepted permitted
  | prune _ crowded =>
      exact .prune _ crowded
  | draw =>
      exact .draw _
  | reshape _ shaper kept permitted =>
      exact .reshape _ shaper kept permitted
  | reserve _ path rateBps shaper reserved permitted =>
      exact .reserve _ path rateBps shaper reserved permitted
  | reschedule _ deadlines permitted =>
      exact .reschedule _ deadlines permitted
  | enroll _ session admitted permitted =>
      exact .enroll _ session admitted permitted
  | change live performed =>
      exact .change live performed.of_calm

/-- Moves are edits. -/
theorem Moves.edits
    {before after : Engine} (moves : Moves permits before after) :
    Edits permits before after := by
  induction moves with
  | refl =>
      exact .refl
  | tail _ move hypothesis =>
      cases move with
      | edit edit =>
          exact hypothesis.tail edit.of_calm
      | settle live changes =>
          exact hypothesis.trans
            ((changes.edits live).trans (Focus.pruneHistory_edits _))

theorem Engine.visit_moves
    {body : Focus → Engine}
    (each :
      ∀ focus : Focus, focus.Held → Moves permits focus.commit (body focus))
    (engine : Engine) (ids : List SessionId) :
    Moves permits engine (engine.visit ids body) := by
  refine Engine.visit_rule ?_ (.refl : Moves permits engine engine)
  intro focus held _ earlier
  have visited := each focus held
  rw [held.commit] at visited
  exact earlier.trans visited

/-! ## Locality -/

/-- The slots other than `key` are kept or lost, never rewritten. -/
def Engine.Confined (key : SessionId) (before after : Engine) : Prop :=
  ∀ id, id ≠ key →
    after.sessions.lookup id = none ∨
      after.sessions.lookup id = before.sessions.lookup id

theorem Changes.lookup_ne
    (changes : Changes permits before after)
    (differs : id ≠ before.key) :
    after.commit.sessions.lookup id = before.commit.sessions.lookup id := by
  rcases changes.framed with ⟨key, frame⟩
  rw [Focus.lookup_commit_ne (by rw [key]; exact differs),
    Focus.lookup_commit_ne differs, frame.sessions]

/-- Changes that settle a session, the pruning that follows and the remarks
made afterwards. -/
theorem Changes.closing
    (changes : Changes permits before closed) (live : before.Live)
    (noted : Annotated closed.pruneHistory after) :
    Moves permits before.commit after.commit :=
  .head (.settle live changes) noted.moves

theorem Changes.closing_confined
    (changes : Changes permits before closed)
    (noted : Annotated closed.pruneHistory after) :
    Engine.Confined before.key before.commit after.commit := by
  intro id differs
  have key : after.key = before.key :=
    noted.key.trans changes.framed.key
  have table :
      after.commit.sessions.lookup id =
        closed.commit.pruneHistory.sessions.lookup id := by
    rw [Focus.lookup_commit_ne (by rw [key]; exact differs),
      noted.engine.sessions]
    rfl
  rw [table, ← changes.lookup_ne differs]
  exact Engine.lookup_pruneHistory closed.commit id

/-- The slot of a focus holds its session or is gone. -/
theorem Focus.lookup_commit (focus : Focus) :
    focus.commit.sessions.lookup focus.key = none ∨
      focus.commit.sessions.lookup focus.key = some focus.session := by
  by_cases live : focus.Live
  · exact .inr (Focus.lookup_commit_self live)
  · left
    rw [Focus.commit_of_dead live]
    exact AList.lookup_eq_none.mpr live

/-! ## Properties of all sessions -/

theorem Engine.lookup_enroll
    {found : SessionRecord}
    (stored : (engine.enroll session).sessions.lookup id = some found) :
    engine.sessions.lookup id = some found ∨
      (id = session.id ∧ found = session ∧
        session.id ∉ engine.sessions) := by
  rw [Engine.enroll_sessions] at stored
  by_cases known : session.id ∈ engine.sessions
  · rw [Table.emplace_of_mem known] at stored
    exact .inl stored
  · by_cases own : id = session.id
    · subst own
      rw [Table.lookup_emplace_self, AList.lookup_eq_none.mpr known] at stored
      cases stored
      exact .inr ⟨rfl, rfl, known⟩
    · rw [Table.lookup_emplace_ne own] at stored
      exact .inl stored

theorem Engine.lookup_evict
    {other : SessionId} {kept : SessionRecord}
    (stored :
      (engine.evict id session).sessions.lookup other = some kept) :
    engine.sessions.lookup other = some kept := by
  have erased :
      (engine.evict id session).sessions = engine.sessions.erase id := rfl
  rw [erased] at stored
  by_cases own : other = id
  · subst own
    rw [AList.lookup_erase] at stored
    cases stored
  · rw [AList.lookup_erase_ne own] at stored
    exact stored

/-- A property of every session survives an edit when the changes keep it
and new sessions have it. -/
theorem Edit.forall_sessions
    {Property : SessionId → SessionRecord → Prop} {before after : Engine}
    (edit : Edit permits before after)
    (changed :
      ∀ first second : Focus, first.commit = before → first.Live →
        Change permits first second →
        Property first.key first.session →
        Property first.key second.session)
    (enrolled :
      ∀ engine session, session.Admitted → permits.enroll engine session →
        Property session.id session)
    (holds :
      ∀ id session, before.sessions.lookup id = some session →
        Property id session) :
    ∀ id session, after.sessions.lookup id = some session →
      Property id session := by
  cases edit with
  | housekeeping _ _ same =>
      rw [same.sessions]
      exact holds
  | prune =>
      exact fun id session stored =>
        holds id session (Engine.lookup_of_pruneHistory stored)
  | enroll _ _ admitted permitted =>
      intro id found stored
      rcases Engine.lookup_enroll stored with known | ⟨rfl, rfl, _⟩
      · exact holds id found known
      · exact enrolled before found admitted permitted
  | change live performed =>
      exact performed.forall_sessions live holds
        (changed _ _ rfl live performed)
  | _ =>
      exact holds

theorem Edits.forall_sessions
    {Property : SessionId → SessionRecord → Prop} {before after : Engine}
    (edits : Edits permits before after)
    (changed :
      ∀ first second : Focus, first.Live → Change permits first second →
        Property first.key first.session →
        Property first.key second.session)
    (enrolled :
      ∀ engine session, session.Admitted → permits.enroll engine session →
        Property session.id session)
    (holds :
      ∀ id session, before.sessions.lookup id = some session →
        Property id session) :
    ∀ id session, after.sessions.lookup id = some session →
      Property id session :=
  reflTransGen_preserves
    (fun _ _ edit holds => edit.forall_sessions
      (fun first second _ => changed first second) enrolled holds)
    edits holds

/-! ## Contracts -/

theorem Engine.enroll_contracts (engine : Engine) (session : SessionRecord) :
    (engine.enroll session).contracts = engine.contracts := by
  unfold Engine.enroll Engine.indexDeadline
  dsimp only
  split <;> rfl

/-- No contract is ever withdrawn. -/
theorem Edit.contracts
    {before after : Engine} (edit : Edit permits before after)
    (known : workload ∈ before.contracts) :
    workload ∈ after.contracts := by
  cases edit with
  | housekeeping _ _ same =>
      rw [same.contracts]
      exact known
  | adoptContract =>
      exact (AList.mem_insert _).mpr (.inr known)
  | enroll =>
      rw [Engine.enroll_contracts]
      exact known
  | change _ performed =>
      exact performed.framed.engine.contracts ▸ known
  | prune =>
      rw [Engine.pruneHistory_eq]
      exact known
  | _ =>
      exact known

theorem Edits.contracts
    {before after : Engine} (edits : Edits permits before after)
    (known : workload ∈ before.contracts) :
    workload ∈ after.contracts :=
  @reflTransGen_preserves _ _ (fun engine => workload ∈ engine.contracts)
    (fun _ _ edit known => edit.contracts known) _ _ edits known

/-- Every session belongs to a workload with a contract. -/
def Engine.Contracted (engine : Engine) : Prop :=
  ∀ id session, engine.sessions.lookup id = some session →
    session.request.workload ∈ engine.contracts

theorem Edit.contracted
    {before after : Engine} (edit : Edit permits before after)
    (enrolled :
      ∀ engine session, permits.enroll engine session →
        session.request.workload ∈ engine.contracts)
    (contracted : before.Contracted) : after.Contracted := by
  have known :
      ∀ id session, after.sessions.lookup id = some session →
        session.request.workload ∈ before.contracts := by
    cases edit with
    | housekeeping _ _ same =>
        rw [same.sessions]
        exact contracted
    | prune =>
        exact fun id session stored =>
          contracted id session (Engine.lookup_of_pruneHistory stored)
    | enroll _ _ _ permitted =>
        intro id found stored
        rcases Engine.lookup_enroll stored with older | ⟨rfl, rfl, _⟩
        · exact contracted id found older
        · exact enrolled before found permitted
    | change live performed =>
        refine performed.forall_sessions live contracted ?_
        intro held
        rw [performed.request.1]
        exact held
    | _ =>
        exact contracted
  intro id session found
  exact edit.contracts (known id session found)

end

end TrafficFabric
