import TrafficFabric.Engine.Buckets

/-!
# The inspection of an engine

`check_invariants` compares the aggregates with the session table, checks
every session on its own and looks through the indexes.  `Consistent` is what
it accepts.
-/

namespace TrafficFabric

open Foundation

/-! ## The check -/

/-- The checks of one session, in the order of the source. -/
def SessionRecord.inspect
    (policy : PolicySnapshot) (session : SessionRecord) : Result Unit := do
  refuseWhen
    (session.shards.length ≠ session.request.manifest.shards.length)
    (.error .corruptState "session shard table diverged from its manifest")
  refuseWhen
    (session.shards.map ShardRecord.index ≠
      session.request.manifest.shards.map ShardDescriptor.index)
    (.error .corruptState "session shard ordering diverged")
  refuseWhen (session.admittedBytes < session.transferredBytes)
    (.error .accountingImbalance
      "session transferred more bytes than were admitted")
  refuseWhen (session.transferredBytes < session.verifiedBytes)
    (.error .accountingImbalance
      "session verified more bytes than were transferred")
  refuseWhen
    (session.transferredBytes + session.wastedBytes +
        session.cancelledBytes + session.unprovenBytes +
        session.outstandingBytes ≠ session.admittedBytes)
    (.error .accountingImbalance
      "session byte buckets do not sum to its admitted bytes")
  refuseWhen (session.admittedBytes < session.outstandingBytes)
    (.error .accountingImbalance
      "session outstanding exceeds admitted bytes")
  -- the comparison of verified bytes stands twice in the source
  refuseWhen (session.transferredBytes < session.verifiedBytes)
    (.error .accountingImbalance
      "session verified more bytes than it currently counts as transferred")
  refuseWhen
    (isTerminal session.state ∧
      (session.outstandingBytes ≠ 0 ∨ session.activeAttempts ≠ 0))
    (.error .accountingImbalance
      "terminal session retains outstanding authority")
  refuseWhen
    (¬ session.envelope.session.isNil ∧
      session.envelope.session ≠ session.id)
    (.error .corruptState "envelope is bound to a different session")
  refuseWhen
    (session.evidence = .verifiedAtDestination ∧
      ∃ shard ∈ session.shards, shard.state ≠ .verified)
    (.error .corruptState
      "session claims verified evidence with an unverified shard")
  refuseWhen
    (session.state = .trafficSessionComplete ∧
      policy.requireDestinationVerification ∧
      ∃ shard ∈ session.shards, shard.state ≠ .verified)
    (.error .corruptState "completed session has an unverified shard")

/-- The sums of the check after one more session. -/
def AccountingSnapshot.addSession
    (sums : AccountingSnapshot) (session : SessionRecord) :
    AccountingSnapshot :=
  { sums with
    bytesAdmitted := sums.bytesAdmitted + session.admittedBytes
    bytesTransferred := sums.bytesTransferred + session.transferredBytes
    bytesVerified := sums.bytesVerified + session.verifiedBytes
    bytesCancelled := sums.bytesCancelled + session.cancelledBytes
    bytesWasted := sums.bytesWasted + session.wastedBytes
    bytesUnproven := sums.bytesUnproven + session.unprovenBytes
    grantedOutstandingBytes :=
      sums.grantedOutstandingBytes + session.outstandingBytes
    activeAttempts := sums.activeAttempts + session.activeAttempts
    activeSessions :=
      if isTerminal session.state then sums.activeSessions
      else sums.activeSessions + 1 }

/-- The loop of the check over the sessions. -/
def inspectSessions (policy : PolicySnapshot) :
    AccountingSnapshot → List SessionRecord → Result AccountingSnapshot
  | sums, [] => .ok sums
  | sums, session :: rest => do
      session.inspect policy
      inspectSessions policy (sums.addSession session) rest

/-- The sums start from the evicted sessions. -/
def PrunedTotals.sums (pruned : PrunedTotals) : AccountingSnapshot where
  bytesAdmitted := pruned.admitted
  bytesTransferred := pruned.transferred
  bytesVerified := pruned.verified
  bytesCancelled := pruned.cancelled
  bytesWasted := pruned.wasted
  bytesUnproven := pruned.unproven

/-- `check_invariants`. -/
def Engine.checkInvariants (engine : Engine) : Result Unit := do
  refuseWhen (¬ engine.accounting.conserves)
    (.error .accountingImbalance
      "bytes_admitted != transferred + wasted + cancelled + unproven + outstanding")
  let sums ← inspectSessions engine.policy engine.pruned.sums
    engine.sessions.values
  refuseWhen
    (sums.bytesAdmitted ≠ engine.accounting.bytesAdmitted ∨
      sums.bytesTransferred ≠ engine.accounting.bytesTransferred ∨
      sums.bytesVerified ≠ engine.accounting.bytesVerified ∨
      sums.bytesCancelled ≠ engine.accounting.bytesCancelled ∨
      sums.bytesWasted ≠ engine.accounting.bytesWasted ∨
      sums.bytesUnproven ≠ engine.accounting.bytesUnproven ∨
      sums.grantedOutstandingBytes ≠
        engine.accounting.grantedOutstandingBytes)
    (.error .accountingImbalance
      "aggregate accounting disagrees with per-session accounting")
  refuseWhen
    (sums.activeSessions ≠ engine.accounting.activeSessions ∨
      sums.activeAttempts ≠ engine.accounting.activeAttempts)
    (.error .accountingImbalance
      "active counters disagree with live session state")
  refuseWhen
    (∃ ids ∈ engine.byWorkload.values, ∃ id ∈ ids, id ∉ engine.sessions)
    (.error .corruptState "workload index references an unknown session")
  refuseWhen
    (∃ ids ∈ engine.byCheckpoint.values, ∃ id ∈ ids, id ∉ engine.sessions)
    (.error .corruptState "checkpoint index references an unknown session")
  refuseWhen
    ((engine.byWorkload.values.map List.length).sum ≠
      engine.sessions.entries.length)
    (.error .corruptState "index size disagrees with the session table")
  refuseWhen
    (engine.commandIndexBound < engine.commandIndex.entries.length)
    (.error .resourceExhausted "command replay index exceeds its bound")

/-! ## What it accepts -/

/-- What the check accepts of one session. -/
structure SessionRecord.Sound
    (policy : PolicySnapshot) (session : SessionRecord) : Prop where
  ordered :
    session.shards.map ShardRecord.index =
      session.request.manifest.shards.map ShardDescriptor.index
  transferred : session.transferredBytes ≤ session.admittedBytes
  verified : session.verifiedBytes ≤ session.transferredBytes
  balance :
    session.transferredBytes + session.wastedBytes +
        session.cancelledBytes + session.unprovenBytes +
        session.outstandingBytes = session.admittedBytes
  outstanding : session.outstandingBytes ≤ session.admittedBytes
  settled :
    isTerminal session.state = true →
      session.outstandingBytes = 0 ∧ session.activeAttempts = 0
  envelope :
    session.envelope.session.isNil = true ∨
      session.envelope.session = session.id
  evidence :
    session.evidence = .verifiedAtDestination →
      ∀ shard ∈ session.shards, shard.state = .verified
  completed :
    session.state = .trafficSessionComplete →
      policy.requireDestinationVerification = true →
      ∀ shard ∈ session.shards, shard.state = .verified

theorem SessionRecord.inspect_ok
    {policy : PolicySnapshot} {session : SessionRecord} :
    session.inspect policy = .ok () ↔ session.Sound policy := by
  simp only [SessionRecord.inspect, bind_eq_ok, refuseWhen_eq_ok, not_not,
    ne_eq, not_and, not_or, UInt64.not_lt, not_exists]
  constructor
  · rintro ⟨_, _, _, ordered, _, transferred, _, verified, _, balance, _,
      outstanding, _, _, _, settled, _, envelope, _, evidence, completed⟩
    refine ⟨ordered, transferred, verified, balance, outstanding, settled, ?_,
      evidence, completed⟩
    by_cases nil : session.envelope.session.isNil = true
    · exact .inl nil
    · exact .inr (envelope nil)
  · intro sound
    have lengths := congrArg List.length sound.ordered
    rw [List.length_map, List.length_map] at lengths
    exact ⟨(), lengths, (), sound.ordered, (), sound.transferred, (),
      sound.verified, (), sound.balance, (), sound.outstanding, (),
      sound.verified, (), sound.settled, (),
      fun named => sound.envelope.resolve_left named, (), sound.evidence,
      sound.completed⟩

theorem inspectSessions_ok
    {policy : PolicySnapshot} {sums result : AccountingSnapshot}
    {sessions : List SessionRecord} :
    inspectSessions policy sums sessions = .ok result ↔
      (∀ session ∈ sessions, session.Sound policy) ∧
        sessions.foldl AccountingSnapshot.addSession sums = result := by
  induction sessions generalizing sums with
  | nil =>
      simp [inspectSessions]
  | cons _ _ hypothesis =>
      simp only [inspectSessions, bind_eq_ok, hypothesis,
        List.forall_mem_cons, List.foldl_cons, and_assoc]
      constructor
      · rintro ⟨_, passed, later⟩
        exact ⟨SessionRecord.inspect_ok.mp passed, later⟩
      · rintro ⟨sound, later⟩
        exact ⟨(), SessionRecord.inspect_ok.mpr sound, later⟩

/-! ## Sums -/

theorem AccountingSnapshot.addSession_bytes
    (sums : AccountingSnapshot) (session : SessionRecord) (bucket : Bucket) :
    (sums.addSession session).bytesIn bucket =
      sums.bytesIn bucket + session.bytesIn bucket := by
  cases bucket <;> rfl

/-- A loop of additions to words that wrap at a modulus. -/
theorem value_foldl_add
    {Word State Item : Type} [Add Word] {value : Word → Nat} {modulus : Nat}
    (bounded : ∀ word, value word < modulus)
    (wraps :
      ∀ first second, value (first + second) =
        (value first + value second) % modulus)
    (word : State → Word) (measure : Item → Word)
    {step : State → Item → State}
    (adds : ∀ state item, word (step state item) = word state + measure item)
    (items : List Item) (state : State) :
    value (word (items.foldl step state)) =
      (value (word state) +
        (items.map (fun item => value (measure item))).sum) % modulus := by
  induction items generalizing state with
  | nil =>
      exact (Nat.mod_eq_of_lt (bounded _)).symm
  | cons _ _ hypothesis =>
      rw [List.foldl_cons, hypothesis, adds, wraps, List.map_cons,
        List.sum_cons, Nat.mod_add_mod, Nat.add_assoc]

/-- The number of active sessions. -/
def Engine.activeCount (engine : Engine) : Nat :=
  engine.sessions.total (fun session => (!isTerminal session.state).toNat)

/-- The attempts that the sessions count as active. -/
def Engine.attemptCount (engine : Engine) : Nat :=
  engine.sessions.total (fun session => session.activeAttempts.toNat)

/-- What `check_invariants` accepts. -/
structure Engine.Consistent (engine : Engine) : Prop where
  conserves : engine.accounting.conserves = true
  sound :
    ∀ id session, engine.sessions.lookup id = some session →
      session.Sound engine.policy
  bytes :
    ∀ bucket,
      (engine.accounting.bytesIn bucket).toNat =
        ((engine.pruned.bytesIn bucket).toNat +
          engine.sessionBytes bucket) % 2 ^ 64
  activeSessions :
    engine.accounting.activeSessions.toNat = engine.activeCount % 2 ^ 32
  activeAttempts :
    engine.accounting.activeAttempts.toNat = engine.attemptCount % 2 ^ 32
  workloads :
    ∀ ids ∈ engine.byWorkload.values, ∀ id ∈ ids, id ∈ engine.sessions
  checkpoints :
    ∀ ids ∈ engine.byCheckpoint.values, ∀ id ∈ ids, id ∈ engine.sessions
  indexed :
    (engine.byWorkload.values.map List.length).sum =
      engine.sessions.entries.length
  commands : engine.commandIndex.entries.length ≤ engine.commandIndexBound

namespace Engine

/-- The sums of the check over the whole table. -/
def sums (engine : Engine) : AccountingSnapshot :=
  engine.sessions.values.foldl AccountingSnapshot.addSession
    engine.pruned.sums

theorem sums_bytes (engine : Engine) (bucket : Bucket) :
    (engine.sums.bytesIn bucket).toNat =
      ((engine.pruned.bytesIn bucket).toNat + engine.sessionBytes bucket) %
        2 ^ 64 := by
  have start :
      engine.pruned.sums.bytesIn bucket = engine.pruned.bytesIn bucket := by
    cases bucket <;> rfl
  have folded := @value_foldl_add _ _ _ _ _ _ UInt64.toNat_lt
    UInt64.toNat_add (fun sums : AccountingSnapshot => sums.bytesIn bucket)
    (fun session : SessionRecord => session.bytesIn bucket) _
    (fun sums session => sums.addSession_bytes session bucket)
    engine.sessions.values engine.pruned.sums
  rw [start] at folded
  exact folded

theorem sums_activeSessions (engine : Engine) :
    engine.sums.activeSessions.toNat = engine.activeCount % 2 ^ 32 := by
  have adds (sums : AccountingSnapshot) (session : SessionRecord) :
      (sums.addSession session).activeSessions =
        sums.activeSessions + if isTerminal session.state then 0 else 1 := by
    unfold AccountingSnapshot.addSession
    dsimp only
    split
    · exact (UInt32.add_zero _).symm
    · rfl
  have folded := @value_foldl_add _ _ _ _ _ _ UInt32.toNat_lt
    UInt32.toNat_add AccountingSnapshot.activeSessions _ _ adds
    engine.sessions.values engine.pruned.sums
  refine folded.trans ?_
  have start : engine.pruned.sums.activeSessions.toNat = 0 := rfl
  rw [start, Nat.zero_add]
  refine congrArg (fun count => count % 2 ^ 32)
    (congrArg List.sum (List.map_congr_left (fun session _ => ?_)))
  cases isTerminal session.state <;> rfl

theorem sums_activeAttempts (engine : Engine) :
    engine.sums.activeAttempts.toNat = engine.attemptCount % 2 ^ 32 := by
  have folded := @value_foldl_add _ _ _ _ _ _ UInt32.toNat_lt
    UInt32.toNat_add AccountingSnapshot.activeAttempts
    (fun session : SessionRecord => session.activeAttempts)
    AccountingSnapshot.addSession (fun _ _ => rfl) engine.sessions.values
    engine.pruned.sums
  refine folded.trans ?_
  have start : engine.pruned.sums.activeAttempts.toNat = 0 := rfl
  rw [start, Nat.zero_add]
  rfl

/-- The sums agree with the aggregates bucket by bucket. -/
theorem sums_agree {engine : Engine} :
    (∀ bucket, engine.sums.bytesIn bucket =
        engine.accounting.bytesIn bucket) ↔
      ∀ bucket,
        (engine.accounting.bytesIn bucket).toNat =
          ((engine.pruned.bytesIn bucket).toNat +
            engine.sessionBytes bucket) % 2 ^ 64 := by
  refine forall_congr' (fun bucket => ?_)
  rw [← engine.sums_bytes bucket, UInt64.toNat_inj]
  exact eq_comm

/-- `check_invariants` succeeds on the consistent engines. -/
theorem checkInvariants_ok {engine : Engine} :
    engine.checkInvariants = .ok () ↔ engine.Consistent := by
  simp only [checkInvariants, bind_eq_ok, refuseWhen_eq_ok, not_not, ne_eq,
    not_and, not_or, not_lt, not_exists, inspectSessions_ok]
  constructor
  · rintro ⟨_, conserves, _, ⟨sound, rfl⟩, _, ⟨admitted, transferred, verified,
      cancelled, wasted, unproven, outstanding⟩, _, ⟨sessions, attempts⟩, _,
      workloads, _, checkpoints, _, indexed, commands⟩
    refine ⟨conserves, ?_, sums_agree.mp ?_, ?_, ?_, workloads, checkpoints,
      indexed, commands⟩
    · intro id session found
      exact sound session (Table.mem_values_iff.mpr ⟨id, found⟩)
    · intro bucket
      cases bucket with
      | admitted => exact admitted
      | transferred => exact transferred
      | verified => exact verified
      | cancelled => exact cancelled
      | wasted => exact wasted
      | unproven => exact unproven
      | outstanding => exact outstanding
    · rw [← engine.sums_activeSessions]
      exact congrArg UInt32.toNat sessions.symm
    · rw [← engine.sums_activeAttempts]
      exact congrArg UInt32.toNat attempts.symm
  · intro consistent
    have bytes := sums_agree.mpr consistent.bytes
    refine ⟨(), consistent.conserves, engine.sums, ⟨?_, rfl⟩, (),
      ⟨bytes .admitted, bytes .transferred, bytes .verified,
        bytes .cancelled, bytes .wasted, bytes .unproven,
        bytes .outstanding⟩, (), ⟨?_, ?_⟩, (), consistent.workloads, (),
      consistent.checkpoints, (), consistent.indexed, consistent.commands⟩
    · intro session member
      rcases Table.mem_values_iff.mp member with ⟨id, found⟩
      exact consistent.sound id session found
    · rw [← UInt32.toNat_inj, engine.sums_activeSessions,
        consistent.activeSessions]
    · rw [← UInt32.toNat_inj, engine.sums_activeAttempts,
        consistent.activeAttempts]

end Engine

end TrafficFabric
