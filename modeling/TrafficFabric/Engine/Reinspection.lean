import TrafficFabric.Engine.Inspection
import TrafficFabric.Engine.Closing
import TrafficFabric.Engine.Fencing

/-!
# Inspections across authority changes

A new policy, topology or contract asks active sessions to revalidate and
changes nothing else of them.  The inspection reads one thing from the policy,
whether completed sessions need verified shards, and holds it against the
sessions that were completed under earlier policies as well.
-/

namespace TrafficFabric

open Foundation

/-! ## Sessions asked to revalidate -/

/-- A session without what a request to revalidate writes. -/
def SessionRecord.unstamped (session : SessionRecord) : SessionRecord :=
  { session with
    state := .submitted
    staleReason := []
    updatedAt := 0
    timeline := [] }

/-- A session that was left alone or, being active, asked to revalidate. -/
structure SessionRecord.Recalled (before after : SessionRecord) : Prop where
  rest : after.unstamped = before.unstamped
  terminal : isTerminal before.state = true → after.state = before.state
  active :
    isTerminal before.state = false → isTerminal after.state = false

namespace SessionRecord.Recalled

variable {before between after : SessionRecord}

theorem refl (session : SessionRecord) : session.Recalled session :=
  ⟨rfl, fun _ => rfl, fun active => active⟩

theorem trans
    (first : before.Recalled between) (second : between.Recalled after) :
    before.Recalled after where
  rest := second.rest.trans first.rest
  terminal := by
    intro closed
    have same := first.terminal closed
    exact (second.terminal (by rw [same]; exact closed)).trans same
  active := fun active => second.active (first.active active)

theorem isTerminal_eq (recalled : before.Recalled after) :
    isTerminal after.state = isTerminal before.state := by
  cases closed : isTerminal before.state with
  | true =>
      rw [recalled.terminal closed]
      exact closed
  | false =>
      exact recalled.active closed

theorem complete_iff (recalled : before.Recalled after) :
    after.state = .trafficSessionComplete ↔
      before.state = .trafficSessionComplete := by
  constructor
  · intro complete
    have closed : isTerminal before.state = true := by
      rw [← recalled.isTerminal_eq, complete]
      rfl
    exact (recalled.terminal closed).symm.trans complete
  · intro complete
    exact (recalled.terminal (by rw [complete]; rfl)).trans complete

/-- What does not depend on what the request writes is unchanged. -/
theorem unchanged
    (recalled : before.Recalled after) {Value : Type}
    (field : SessionRecord → Value)
    (unread :
      ∀ session : SessionRecord, field session.unstamped = field session) :
    field after = field before := by
  rw [← unread after, recalled.rest, unread]

theorem shards (recalled : before.Recalled after) :
    after.shards = before.shards :=
  recalled.unchanged SessionRecord.shards (fun _ => rfl)

theorem bytesIn (recalled : before.Recalled after) (bucket : Bucket) :
    after.bytesIn bucket = before.bytesIn bucket :=
  recalled.unchanged (fun session => session.bytesIn bucket)
    (fun _ => by cases bucket <;> rfl)

/-- The inspection sees the difference in no other check than the one on
completed sessions. -/
theorem sound_iff
    (recalled : before.Recalled after) {old new : PolicySnapshot}
    (sound : before.Sound old) :
    after.Sound new ↔
      (before.state = .trafficSessionComplete →
        new.requireDestinationVerification = true →
        ∀ shard ∈ before.shards, shard.state = .verified) := by
  constructor
  · intro fresh complete required
    rw [← recalled.shards]
    exact fresh.completed (recalled.complete_iff.mpr complete) required
  · intro completed
    refine ⟨?_, ?_, ?_, ?_, ?_, ?_, ?_, ?_, ?_⟩
    · rw [recalled.shards,
        recalled.unchanged SessionRecord.request (fun _ => rfl)]
      exact sound.ordered
    · have transferred := recalled.bytesIn .transferred
      have admitted := recalled.bytesIn .admitted
      change after.transferredBytes = before.transferredBytes at transferred
      change after.admittedBytes = before.admittedBytes at admitted
      rw [transferred, admitted]
      exact sound.transferred
    · have transferred := recalled.bytesIn .transferred
      have verified := recalled.bytesIn .verified
      change after.transferredBytes = before.transferredBytes at transferred
      change after.verifiedBytes = before.verifiedBytes at verified
      rw [transferred, verified]
      exact sound.verified
    · have sum := recalled.unchanged
        (fun session => session.transferredBytes + session.wastedBytes +
          session.cancelledBytes + session.unprovenBytes +
          session.outstandingBytes) (fun _ => rfl)
      have admitted := recalled.bytesIn .admitted
      exact sum.trans (sound.balance.trans admitted.symm)
    · have outstanding := recalled.bytesIn .outstanding
      have admitted := recalled.bytesIn .admitted
      change after.outstandingBytes = before.outstandingBytes at outstanding
      change after.admittedBytes = before.admittedBytes at admitted
      rw [outstanding, admitted]
      exact sound.outstanding
    · intro closed
      rw [recalled.isTerminal_eq] at closed
      obtain ⟨nothing, none_⟩ := sound.settled closed
      exact ⟨(recalled.bytesIn .outstanding).trans nothing,
        (recalled.unchanged SessionRecord.activeAttempts
          (fun _ => rfl)).trans none_⟩
    · rw [recalled.unchanged SessionRecord.envelope (fun _ => rfl),
        recalled.unchanged SessionRecord.id (fun _ => rfl)]
      exact sound.envelope
    · rw [recalled.unchanged SessionRecord.evidence (fun _ => rfl),
        recalled.shards]
      exact sound.evidence
    · rw [recalled.complete_iff, recalled.shards]
      exact completed

end SessionRecord.Recalled

/-! ## Engines -/

/-- What the inspection reads of an engine, sessions and policy apart. -/
structure Engine.Reviewed where
  accounting : AccountingSnapshot
  pruned : PrunedTotals
  byWorkload : Table WorkloadId (List SessionId)
  byCheckpoint : Table CheckpointId (List SessionId)
  commandIndex : Table CommandId CommandRecord
  commandIndexBound : Nat
  count : Nat

def Engine.reviewed (engine : Engine) : Engine.Reviewed where
  accounting := engine.accounting
  pruned := engine.pruned
  byWorkload := engine.byWorkload
  byCheckpoint := engine.byCheckpoint
  commandIndex := engine.commandIndex
  commandIndexBound := engine.commandIndexBound
  count := engine.sessions.entries.length

/-- The sessions of an engine were recalled, and nothing else happened that
the inspection reads. -/
structure Engine.Recalls (before after : Engine) : Prop where
  sessions :
    ∀ id, Option.Rel SessionRecord.Recalled (before.sessions.lookup id)
      (after.sessions.lookup id)
  totals :
    ∀ field : SessionRecord → Nat,
      (∀ old new, old.Recalled new → field new = field old) →
      after.sessions.total field = before.sessions.total field
  rest : after.reviewed = before.reviewed

namespace Engine.Recalls

variable {before between after : Engine}

theorem of_same
    (sessions : after.sessions = before.sessions)
    (rest : after.reviewed = before.reviewed) : before.Recalls after where
  sessions := by
    intro id
    rw [sessions]
    cases before.sessions.lookup id with
    | none =>
        exact .none
    | some session =>
        exact .some (.refl session)
  totals := fun _ _ => by rw [sessions]
  rest := rest

theorem trans
    (first : before.Recalls between) (second : between.Recalls after) :
    before.Recalls after where
  sessions := by
    intro id
    have early := first.sessions id
    have late := second.sessions id
    generalize before.sessions.lookup id = old at early ⊢
    generalize after.sessions.lookup id = new at late ⊢
    generalize between.sessions.lookup id = middle at early late
    cases early with
    | none =>
        exact late
    | some earlier =>
        cases late with
        | some later =>
            exact .some (earlier.trans later)
  totals := fun field same =>
    (second.totals field same).trans (first.totals field same)
  rest := second.rest.trans first.rest

/-- Storing a recalled session. -/
theorem commit
    {focus : Focus} (held : focus.Held) {session : SessionRecord}
    (recalled : focus.session.Recalled session) :
    focus.engine.Recalls { focus with session := session }.commit where
  sessions := by
    intro id
    change Option.Rel _ _ ((focus.engine.sessions.replace focus.key
      session).lookup id)
    by_cases own : id = focus.key
    · subst own
      rw [Table.lookup_replace_self (Table.mem_of_lookup held), held]
      exact .some recalled
    · rw [Table.lookup_replace_ne own]
      cases focus.engine.sessions.lookup id with
      | none =>
          exact .none
      | some other =>
          exact .some (.refl other)
  totals := by
    intro field same
    have total :
        Table.total field
            (focus.engine.sessions.replace focus.key session) +
          field focus.session =
        Table.total field focus.engine.sessions + field session :=
      Table.total_replace field held
    rw [same _ _ recalled] at total
    exact Nat.add_right_cancel total
  rest := by
    unfold Engine.reviewed Focus.commit
    rw [Table.length_replace]

theorem lookup
    (recalls : before.Recalls after) {id : SessionId}
    {session : SessionRecord}
    (found : before.sessions.lookup id = some session) :
    ∃ recalled, after.sessions.lookup id = some recalled ∧
      session.Recalled recalled := by
  have related := recalls.sessions id
  rw [found] at related
  cases stored : after.sessions.lookup id with
  | none =>
      rw [stored] at related
      cases related
  | some recalled =>
      rw [stored] at related
      cases related with
      | some same =>
          exact ⟨recalled, rfl, same⟩

theorem origin
    (recalls : before.Recalls after) {id : SessionId}
    {recalled : SessionRecord}
    (found : after.sessions.lookup id = some recalled) :
    ∃ session, before.sessions.lookup id = some session ∧
      session.Recalled recalled := by
  have related := recalls.sessions id
  rw [found] at related
  cases stored : before.sessions.lookup id with
  | none =>
      rw [stored] at related
      cases related
  | some session =>
      rw [stored] at related
      cases related with
      | some same =>
          exact ⟨session, rfl, same⟩

theorem mem (recalls : before.Recalls after) {id : SessionId}
    (member : id ∈ before.sessions) : id ∈ after.sessions := by
  rcases Table.exists_lookup_of_mem member with ⟨session, found⟩
  rcases recalls.lookup found with ⟨recalled, stored, _⟩
  exact Table.mem_of_lookup stored

/-- The inspection still succeeds exactly when completed sessions meet the
policy now in force. -/
theorem consistent_iff
    (recalls : before.Recalls after) (consistent : before.Consistent) :
    after.Consistent ↔
      ∀ id session, before.sessions.lookup id = some session →
        session.state = .trafficSessionComplete →
        after.policy.requireDestinationVerification = true →
        ∀ shard ∈ session.shards, shard.state = .verified := by
  constructor
  · intro fresh id session found
    rcases recalls.lookup found with ⟨recalled, stored, same⟩
    exact (same.sound_iff (consistent.sound id session found)).mp
      (fresh.sound id recalled stored)
  · intro completed
    have accounting : after.accounting = before.accounting :=
      congrArg Engine.Reviewed.accounting recalls.rest
    have pruned : after.pruned = before.pruned :=
      congrArg Engine.Reviewed.pruned recalls.rest
    refine ⟨?_, ?_, ?_, ?_, ?_, ?_, ?_, ?_, ?_⟩
    · rw [accounting]
      exact consistent.conserves
    · intro id recalled stored
      rcases recalls.origin stored with ⟨session, found, same⟩
      exact (same.sound_iff (consistent.sound id session found)).mpr
        (completed id session found)
    · intro bucket
      rw [accounting, pruned, show after.sessionBytes bucket =
        before.sessionBytes bucket from recalls.totals _
          (fun _ _ same => congrArg UInt64.toNat (same.bytesIn bucket))]
      exact consistent.bytes bucket
    · rw [accounting, show after.activeCount = before.activeCount from
        recalls.totals _ (fun _ _ same => by rw [same.isTerminal_eq])]
      exact consistent.activeSessions
    · rw [accounting, show after.attemptCount = before.attemptCount from
        recalls.totals _ (fun _ _ same =>
          same.unchanged (fun session => session.activeAttempts.toNat)
            (fun _ => rfl))]
      exact consistent.activeAttempts
    · rw [show after.byWorkload = before.byWorkload from
        congrArg Engine.Reviewed.byWorkload recalls.rest]
      exact fun ids listed id member =>
        recalls.mem (consistent.workloads ids listed id member)
    · rw [show after.byCheckpoint = before.byCheckpoint from
        congrArg Engine.Reviewed.byCheckpoint recalls.rest]
      exact fun ids listed id member =>
        recalls.mem (consistent.checkpoints ids listed id member)
    · rw [show after.byWorkload = before.byWorkload from
          congrArg Engine.Reviewed.byWorkload recalls.rest,
        show after.sessions.entries.length = before.sessions.entries.length
          from congrArg Engine.Reviewed.count recalls.rest]
      exact consistent.indexed
    · rw [show after.commandIndex = before.commandIndex from
          congrArg Engine.Reviewed.commandIndex recalls.rest,
        show after.commandIndexBound = before.commandIndexBound from
          congrArg Engine.Reviewed.commandIndexBound recalls.rest]
      exact consistent.commands

end Engine.Recalls

/-! ## The three commands -/

theorem Focus.markStale_recalls
    {focus : Focus} (held : focus.Held) (now : Nanos)
    (reason line : String) :
    focus.engine.Recalls (focus.markStale now reason line) ∧
      (focus.markStale now reason line).policy = focus.engine.policy := by
  unfold Focus.markStale
  split
  · exact ⟨.of_same rfl rfl, rfl⟩
  · rename_i active
    rw [not_or] at active
    refine ⟨Engine.Recalls.commit held ⟨rfl, ?_, fun _ => rfl⟩, rfl⟩
    intro closed
    exact absurd closed active.1

/-- Asking any sessions to revalidate. -/
theorem Engine.visit_markStale_recalls
    (engine : Engine) (ids : List SessionId) (now : Nanos)
    (reason line : String) :
    engine.Recalls
        (engine.visit ids (fun focus => focus.markStale now reason line)) ∧
      (engine.visit ids
        (fun focus => focus.markStale now reason line)).policy =
        engine.policy := by
  refine @Engine.visit_rule
    (fun reached => engine.Recalls reached ∧ reached.policy = engine.policy)
    _ _ ?_ engine ⟨.of_same rfl rfl, rfl⟩
  intro focus held _ earlier
  obtain ⟨recalls, policy⟩ := Focus.markStale_recalls held now reason line
  exact ⟨earlier.1.trans recalls, policy.trans earlier.2⟩

/-- The policy that is in force after a command. -/
def Command.policyAfter (command : Command) (engine : Engine) :
    PolicySnapshot :=
  match command with
  | .applyPolicy policy => policy
  | _ => engine.policy

/-- The commands that change the authority. -/
def Command.changesTerms : Command → Bool
  | .applyPolicy _ | .applyTopology _ | .upsertContract _ => true
  | _ => false

/-- A successful change of authority recalls sessions. -/
theorem Engine.execute_recalls
    {engine : Engine} {now : Nanos} {command : Command}
    (authority : command.changesTerms = true)
    (succeeded : (engine.execute now command).1.succeeded = true) :
    engine.Recalls (engine.execute now command).2 ∧
      (engine.execute now command).2.policy =
        command.policyAfter engine := by
  cases command with
  | applyPolicy policy =>
      change (Response.status (engine.applyPolicy now policy).1).succeeded = true
        at succeeded
      change engine.Recalls (engine.applyPolicy now policy).2 ∧
        (engine.applyPolicy now policy).2.policy = policy
      revert succeeded
      unfold Engine.applyPolicy Engine.guarded
      split
      · intro failed
        cases failed
      · intro _
        obtain ⟨recalls, same⟩ := Engine.visit_markStale_recalls
          ({ engine with policy := policy }.configureShaper now)
          ({ engine with policy := policy }.configureShaper now).sessions.keys
          now "policy generation advanced after this envelope was issued"
          "revalidation required: policy generation"
        refine ⟨Engine.Recalls.trans ?_ recalls, same⟩
        exact .of_same rfl rfl
  | applyTopology topology =>
      change (Response.status (engine.applyTopology now topology).1).succeeded = true
        at succeeded
      change engine.Recalls (engine.applyTopology now topology).2 ∧
        (engine.applyTopology now topology).2.policy = engine.policy
      revert succeeded
      unfold Engine.applyTopology Engine.guarded
      split
      · intro failed
        cases failed
      · intro _
        obtain ⟨recalls, same⟩ := Engine.visit_markStale_recalls
          { engine with topology := topology } engine.sessions.keys
          now "topology generation advanced after this envelope was issued"
          "revalidation required: topology generation"
        refine ⟨Engine.Recalls.trans ?_ recalls, same⟩
        exact .of_same rfl rfl
  | upsertContract contract =>
      change (Response.status (engine.upsertContract now contract).1).succeeded = true
        at succeeded
      change engine.Recalls (engine.upsertContract now contract).2 ∧
        (engine.upsertContract now contract).2.policy = engine.policy
      revert succeeded
      unfold Engine.upsertContract Engine.guarded
      split
      · intro failed
        cases failed
      · intro _
        obtain ⟨recalls, same⟩ := Engine.visit_markStale_recalls
          { engine with
            shaper := engine.shaper.configureWorkload contract.workload
              contract.ceilingBps workloadBurstWindow now
            contracts := engine.contracts.insert contract.workload contract }
          (engine.byWorkload.findD contract.workload []) now
          "workload contract generation advanced after this envelope was issued"
          "revalidation required: contract generation"
        refine ⟨Engine.Recalls.trans ?_ recalls, same⟩
        exact .of_same rfl rfl
  | _ =>
      cases authority

/-- Whatever the state, a change of authority keeps the engine consistent
exactly when it does not begin to require verified shards of a session that
was completed without them. -/
theorem authority_change_keeps_consistency_iff
    {engine : Engine} {now : Nanos} {command : Command}
    (consistent : engine.checkInvariants = .ok ())
    (authority : command.changesTerms = true)
    (succeeded : (engine.execute now command).1.succeeded = true) :
    (engine.execute now command).2.checkInvariants = .ok () ↔
      ∀ policy, command = .applyPolicy policy →
        policy.requireDestinationVerification = true →
        ∀ id session, engine.sessions.lookup id = some session →
          session.state = .trafficSessionComplete →
          ∀ shard ∈ session.shards, shard.state = .verified := by
  rw [Engine.checkInvariants_ok] at consistent ⊢
  obtain ⟨recalls, policy⟩ := Engine.execute_recalls authority succeeded
  rw [recalls.consistent_iff consistent, policy]
  constructor
  · rintro completed own rfl required id session found complete
    exact completed id session found complete required
  · intro completed id session found complete required
    cases command with
    | applyPolicy own =>
        exact completed own rfl required id session found complete
    | applyTopology | upsertContract =>
        exact (consistent.sound id session found).completed complete required
    | _ =>
        cases authority

/-- The grant and the arrival of the two bytes of a session. -/
def transferredScript : List (Nanos × Command) :=
  Sample.admittedScript ++
    [(2, .requestWave ⟨Sample.drawn 0⟩ ⟨0⟩ (Sample.fence 1)),
      (3, .reportTransfer (Sample.arrival 1 1 0 2) (Sample.fence 1))]

/-- A session that completes with the verification of its shard. -/
def verifiedEngine : Engine :=
  ((Engine.construct Sample.config 0).executeAll (transferredScript ++
    [(4, .reportVerification (Sample.verdict 1 1 0 2 .verified)
      (Sample.fence 1))])).2

theorem verifiedEngine_evaluated :
    verifiedEngine.checkInvariants = .ok () ∧
      (verifiedEngine.execute 5
        (.applyPolicy (Sample.policy 2))).1.succeeded = true ∧
      (Sample.policy 2).requireDestinationVerification = true ∧
      (∃ entry ∈ verifiedEngine.sessions.entries,
        entry.2.state = .trafficSessionComplete) ∧
      ∀ entry ∈ verifiedEngine.sessions.entries,
        ∀ shard ∈ entry.2.shards, shard.state = .verified := by
  decide +kernel

/-- A new policy that requires verification keeps it consistent. -/
theorem authority_change_keeps_consistency_of_verified_engine :
    (Sample.policy 2).requireDestinationVerification = true ∧
      (∃ entry ∈ verifiedEngine.sessions.entries,
        entry.2.state = .trafficSessionComplete) ∧
      (verifiedEngine.execute 5
          (.applyPolicy (Sample.policy 2))).2.checkInvariants = .ok () := by
  obtain ⟨consistent, succeeded, requires, complete, verified⟩ :=
    verifiedEngine_evaluated
  refine ⟨requires, complete,
    (authority_change_keeps_consistency_iff consistent rfl
      succeeded).mpr ?_⟩
  intro _ _ _ id session found _
  exact verified ⟨id, session⟩ (AList.mem_lookup_iff.mp found)

/-- A deployment that does not require verification. -/
def lenientConfig : EngineConfig :=
  { Sample.config with
    policy :=
      { Sample.policy 1 with requireDestinationVerification := false } }

/-- A session that completes with its transfer. -/
def transferredEngine : Engine :=
  ((Engine.construct lenientConfig 0).executeAll transferredScript).2

/-- A policy that requires verification from now on is held against it. -/
theorem stricter_policy_breaks_consistency :
    ∃ history,
      EngineRun lenientConfig 0 history transferredEngine ∧
        transferredEngine.checkInvariants = .ok () ∧
        (transferredEngine.execute 4
            (.applyPolicy (Sample.policy 2))).1.succeeded = true ∧
        (transferredEngine.execute 4
            (.applyPolicy (Sample.policy 2))).2.checkInvariants =
          .error (.error .corruptState
            "completed session has an unverified shard") := by
  refine ⟨_, Engine.executeAll_run _ transferredScript, ?_⟩
  decide +kernel

end TrafficFabric
