import Mathlib.Algebra.Ring.Nat
import TrafficFabric.Domain
import TrafficFabric.Streaming

/-!
# The sink

The receive loop of `CheckpointSink::run` in `src/agent.cpp` on one transfer
connection.  Messages are given as their decoded payloads.  What the loop asks
of its surroundings comes with each message: whether the destination file takes
the bytes, whether the acknowledgement can be sent, what the coordinator
answers to the evidence and what the clock reads.  The count of received bytes
has 64 bits; that no file takes as many bytes as would make it wrap is the one
thing assumed of the surroundings.
-/

namespace TrafficFabric

/-! ## Messages of a transfer connection -/

structure ShardBeginPayload where
  session : SessionId := StrongId.nil
  attempt : TransferAttemptId := StrongId.nil
  sequence : AttemptSequence := ⟨0⟩
  shard : ShardIndex := ⟨0⟩
  declaredBytes : UInt64 := 0
  declaredDigest : Digest := {}

structure ShardDataPayload where
  attempt : TransferAttemptId := StrongId.nil
  sequence : AttemptSequence := ⟨0⟩
  offset : UInt64 := 0
  data : Bytes := []

structure ShardEndPayload where
  sentDigest : Digest := {}
  truncated : Bool := false

structure ShardAckPayload where
  bytesReceived : UInt64 := 0
  verified : Bool := false
  truncated : Bool := false
  receivedDigest : Digest := {}
  detail : Text := []

/-- A received message: `other` is one of another type or one whose payload
does not decode. -/
inductive TransferMessage where
  | shardBegin (payload : ShardBeginPayload)
  | shardData (payload : ShardDataPayload)
  | shardEnd (payload : ShardEndPayload)
  | other

/-- A message and the surroundings it meets. -/
structure Delivery where
  message : TransferMessage
  fileReady : Bool := true
  ackSent : Bool := true
  reported : Result Unit := .ok ()
  now : Nanos := 0

/-! ## The receive loop -/

/-- The settings that the loop reads. -/
structure SinkConfig where
  dieAfterBytes : UInt64 := 0
  verify : Bool := true

structure SinkResult where
  shardsReceived : UInt32 := 0
  shardsVerified : UInt32 := 0
  shardsTruncated : UInt32 := 0
  shardsMismatched : UInt32 := 0
  bytesReceived : UInt64 := 0
  exitCode : Int := 0
  message : Text := []

/-- The variables of the loop, with the acknowledgements that were sent and
the evidence that was reported. -/
structure SinkState where
  active : Bool := false
  opening : ShardBeginPayload := {}
  digest : Digest := {}
  received : UInt64 := 0
  lastAttempt : TransferAttemptId := StrongId.nil
  lastSequence : AttemptSequence := ⟨0⟩
  result : SinkResult := {}
  acks : List ShardAckPayload := []
  reported : List VerificationEvidence := []

/-- Whether the loop goes on after a message. -/
inductive SinkControl where
  | proceed
  /-- The connection is given up. -/
  | leave
  /-- `run` returns an error. -/
  | failed (status : Status)
  /-- The injected death of the sink. -/
  | died

/-- The stable name of an outcome. -/
def VerificationOutcome.name : VerificationOutcome → String
  | .verified => "Verified"
  | .digestMismatch => "DigestMismatch"
  | .truncated => "Truncated"
  | .ambiguous => "Ambiguous"
  | .rejected => "Rejected"

namespace SinkState

/-- A `ShardBegin` message. -/
def openShard (state : SinkState) (payload : ShardBeginPayload) : SinkState :=
  { state with
    active := true
    opening := payload
    digest := {}
    received := 0
    lastAttempt := payload.attempt
    lastSequence := payload.sequence }

/-- The bytes of a `ShardData` message are taken in. -/
def take (state : SinkState) (payload : ShardDataPayload) : SinkState :=
  { state with
    digest := state.digest.update payload.data
    received := state.received + payload.data.length.toUInt64
    lastAttempt := payload.attempt
    lastSequence := payload.sequence
    result := { state.result with
      bytesReceived :=
        state.result.bytesReceived + payload.data.length.toUInt64 } }

/-- The acknowledgement of a chunk. -/
def acknowledge (state : SinkState) : SinkState :=
  { state with
    acks := state.acks ++
      [{ bytesReceived := state.received
         receivedDigest := state.digest
         detail := ascii "chunk accepted" }] }

/-- A `ShardData` message. -/
def receiveData
    (config : SinkConfig) (state : SinkState) (delivery : Delivery)
    (payload : ShardDataPayload) : SinkControl × SinkState :=
  if ¬ state.active then (.leave, state)
  else if payload.offset ≠ state.received then (.leave, state)
  else if ¬ delivery.fileReady then
    (.failed (.error .ioFailure "sink destination write failed"), state)
  else
    let taken := state.take payload
    if config.dieAfterBytes ≠ 0 ∧
        config.dieAfterBytes ≤ taken.result.bytesReceived then
      (.died, { taken with
        result := { taken.result with
          exitCode := 9
          message := ascii "sink died after " ++
            decimal taken.result.bytesReceived.toNat ++
            ascii
              " bytes before acknowledging (injected sink death)" } })
    else if ¬ delivery.ackSent then (.leave, taken)
    else (.proceed, taken.acknowledge)

/-- The outcome of a shard that is closed by a `ShardEnd` message. -/
def outcome
    (config : SinkConfig) (state : SinkState) (payload : ShardEndPayload) :
    VerificationOutcome :=
  if payload.truncated ∨ state.received ≠ state.opening.declaredBytes then
    .truncated
  else if payload.sentDigest ≠ state.digest then .digestMismatch
  else if ¬ state.opening.declaredDigest.isZero ∧
      state.opening.declaredDigest ≠ state.digest then .digestMismatch
  else if ¬ config.verify then .ambiguous
  else .verified

/-- The evidence for such a shard. -/
def evidence
    (config : SinkConfig) (state : SinkState) (payload : ShardEndPayload)
    (now : Nanos) : VerificationEvidence where
  session := state.opening.session
  attempt := state.lastAttempt
  sequence := state.lastSequence
  shard := state.opening.shard
  verifiedBytes := state.received
  verifiedDigest := state.digest
  outcome := state.outcome config payload
  observedAt := now

/-- The shard is counted under its outcome. -/
def count (result : SinkResult) (outcome : VerificationOutcome) : SinkResult :=
  let received :=
    { result with shardsReceived := result.shardsReceived + 1 }
  match outcome with
  | .verified =>
      { received with shardsVerified := received.shardsVerified + 1 }
  | .truncated =>
      { received with shardsTruncated := received.shardsTruncated + 1 }
  | .digestMismatch =>
      { received with shardsMismatched := received.shardsMismatched + 1 }
  | .ambiguous | .rejected => received

/-- A `ShardEnd` message. -/
def receiveEnd
    (config : SinkConfig) (state : SinkState) (delivery : Delivery)
    (payload : ShardEndPayload) : SinkControl × SinkState :=
  if ¬ state.active then (.leave, state)
  else if ¬ delivery.ackSent then (.leave, state)
  else
    let outcome := state.outcome config payload
    let counted := count state.result outcome
    (.proceed, { state with
      active := false
      acks := state.acks ++
        [{ bytesReceived := state.received
           verified := outcome = .verified
           truncated := outcome = .truncated
           receivedDigest := state.digest
           detail := ascii outcome.name }]
      reported := state.reported ++
        [state.evidence config payload delivery.now]
      result :=
        match delivery.reported with
        | .ok () => counted
        | .error status =>
            { counted with
              message :=
                ascii "verification was refused: " ++ status.toText } })

/-- One round of the loop. -/
def receive
    (config : SinkConfig) (state : SinkState) (delivery : Delivery) :
    SinkControl × SinkState :=
  match delivery.message with
  | .shardBegin payload =>
      if ¬ delivery.fileReady then
        (.failed (.error .ioFailure "cannot open the sink destination file"),
          state.openShard payload)
      else (.proceed, state.openShard payload)
  | .shardData payload => state.receiveData config delivery payload
  | .shardEnd payload => state.receiveEnd config delivery payload
  | .other => (.leave, state)

/-- The loop over the messages that a peer sends before it closes. -/
def receiveAll (config : SinkConfig) :
    SinkState → List Delivery → SinkControl × SinkState
  | state, [] => (.proceed, state)
  | state, delivery :: rest =>
      match state.receive config delivery with
      | (.proceed, next) => receiveAll config next rest
      | stopped => stopped

end SinkState

/-! ## What was accepted -/

/-- The shard that was begun last and the data received since. -/
def sinceBegin (messages : List TransferMessage) :
    Option (ShardBeginPayload × List ShardDataPayload) :=
  messages.foldl
    (fun known message =>
      match message with
      | .shardBegin payload => some (payload, [])
      | .shardData payload =>
          known.map (fun shard => (shard.1, shard.2 ++ [payload]))
      | _ => known)
    none

/-- The concatenation of received data. -/
def concatenation (pieces : List ShardDataPayload) : Bytes :=
  pieces.flatMap ShardDataPayload.data

theorem concatenation_concat
    (pieces : List ShardDataPayload) (piece : ShardDataPayload) :
    concatenation (pieces ++ [piece]) =
      concatenation pieces ++ piece.data := by
  unfold concatenation
  rw [List.flatMap_append, List.flatMap_singleton]

/-- Every piece begins where those before it end. -/
def Contiguous (pieces : List ShardDataPayload) : Prop :=
  ∀ front piece back, pieces = front ++ piece :: back →
    piece.offset.toNat = (concatenation front).length

/-- The same for offsets of 64 bits. -/
def Chained (pieces : List ShardDataPayload) : Prop :=
  ∀ front piece back, pieces = front ++ piece :: back →
    piece.offset.toNat = (concatenation front).length % 2 ^ 64

theorem Chained.nil : Chained [] := by
  intro front piece back wrong
  cases front <;> cases wrong

theorem Chained.concat
    {pieces : List ShardDataPayload} (chained : Chained pieces)
    {piece : ShardDataPayload}
    (follows :
      piece.offset.toNat = (concatenation pieces).length % 2 ^ 64) :
    Chained (pieces ++ [piece]) := by
  intro front other back split
  rcases List.eq_nil_or_concat back with rfl | ⟨back, last, rfl⟩
  · obtain ⟨rfl, same⟩ := List.append_inj' split rfl
    cases same
    exact follows
  · rw [List.concat_eq_append, ← List.cons_append, ← List.append_assoc]
      at split
    obtain ⟨rfl, _⟩ := List.append_inj' split rfl
    exact chained front other back rfl

/-- Short of a wrap of the offset the pieces have no gaps. -/
theorem Chained.contiguous
    {pieces : List ShardDataPayload} (chained : Chained pieces)
    (short : (concatenation pieces).length < 2 ^ 64) :
    Contiguous pieces := by
  intro front piece back split
  rw [chained front piece back split]
  refine Nat.mod_eq_of_lt (Nat.lt_of_le_of_lt ?_ short)
  rw [split]
  unfold concatenation
  rw [List.flatMap_append, List.length_append]
  exact Nat.le_add_right _ _

/-- The digest of a whole text. -/
def Digest.of (data : Bytes) : Digest :=
  ({} : Digest).update data

/-- While a shard is open, the variables of the loop describe the data received
for it. -/
def SinkState.Follows
    (state : SinkState) (messages : List TransferMessage) : Prop :=
  state.active = true →
    ∃ pieces,
      sinceBegin messages = some (state.opening, pieces) ∧
        state.digest = Digest.of (concatenation pieces) ∧
        state.received.toNat = (concatenation pieces).length % 2 ^ 64 ∧
        Chained pieces

theorem sinceBegin_concat
    (messages : List TransferMessage) (message : TransferMessage) :
    sinceBegin (messages ++ [message]) =
      match message with
      | .shardBegin payload => some (payload, [])
      | .shardData payload =>
          (sinceBegin messages).map
            (fun shard => (shard.1, shard.2 ++ [payload]))
      | _ => sinceBegin messages := by
  unfold sinceBegin
  rw [List.foldl_append]
  rfl

namespace SinkState

theorem Follows.take
    {state : SinkState} {messages : List TransferMessage}
    (follows : state.Follows messages) (active : state.active = true)
    {payload : ShardDataPayload} (next : payload.offset = state.received)
    {after : SinkState} (opening : after.opening = state.opening)
    (digest : after.digest = state.digest.update payload.data)
    (received :
      after.received = state.received + payload.data.length.toUInt64) :
    after.Follows (messages ++ [.shardData payload]) := by
  obtain ⟨pieces, known, hashed, counted, chained⟩ := follows active
  intro _
  refine ⟨pieces ++ [payload], ?_, ?_, ?_, chained.concat ?_⟩
  · rw [sinceBegin_concat, known, opening]
    rfl
  · rw [digest, hashed, concatenation_concat]
    unfold Digest.of
    rw [Digest.update_streams.append]
  · rw [received, UInt64.toNat_add, counted, concatenation_concat,
      List.length_append]
    rw [Nat.toUInt64, UInt64.toNat_ofNat']
    omega
  · rw [next, counted]

/-- One round of the loop. -/
theorem Follows.receive
    {config : SinkConfig} {state next : SinkState} {delivery : Delivery}
    {messages : List TransferMessage} (follows : state.Follows messages)
    (went : state.receive config delivery = (.proceed, next)) :
    next.Follows (messages ++ [delivery.message]) := by
  unfold SinkState.receive at went
  split at went
  · rename_i payload begun
    split at went
    · cases went
    · cases went
      intro _
      refine ⟨[], ?_, rfl, rfl, .nil⟩
      rw [begun, sinceBegin_concat]
      rfl
  · rename_i payload data
    unfold receiveData at went
    split at went
    · cases went
    rename_i active
    split at went
    · cases went
    rename_i offset
    split at went
    · cases went
    dsimp only at went
    split at went
    · cases went
    split at went
    · cases went
    · cases went
      rw [data]
      exact follows.take (not_not.mp active) (not_not.mp offset) rfl rfl rfl
  · rename_i payload ended
    unfold receiveEnd at went
    split at went
    · cases went
    split at went
    · cases went
    · cases went
      nofun
  · cases went

theorem Follows.receiveAll
    {config : SinkConfig} {state reached : SinkState}
    {deliveries : List Delivery} {messages : List TransferMessage}
    (follows : state.Follows messages)
    (went : state.receiveAll config deliveries = (.proceed, reached)) :
    reached.Follows (messages ++ deliveries.map Delivery.message) := by
  induction deliveries generalizing state messages with
  | nil =>
      cases went
      rw [List.map_nil, List.append_nil]
      exact follows
  | cons delivery deliveries hypothesis =>
      rw [SinkState.receiveAll] at went
      split at went
      · rename_i next stepped
        have later := hypothesis (follows.receive stepped) went
        rw [List.append_assoc] at later
        exact later
      · rename_i stopped unlike
        exact (unlike _ went).elim

end SinkState

/-! ## Evidence -/

/-- The evidence is about the accepted data: without gaps, of the declared
size, with the digests that were sent and declared. -/
structure Attested
    (opening : ShardBeginPayload) (pieces : List ShardDataPayload)
    (finish : ShardEndPayload) (evidence : VerificationEvidence) : Prop where
  contiguous : Contiguous pieces
  total :
    (concatenation pieces).length = opening.declaredBytes.toNat
  sent : Digest.of (concatenation pieces) = finish.sentDigest
  declared :
    opening.declaredDigest.isZero = false →
      Digest.of (concatenation pieces) = opening.declaredDigest
  shard :
    evidence.session = opening.session ∧ evidence.shard = opening.shard
  bytes :
    evidence.verifiedBytes.toNat = (concatenation pieces).length
  digest : evidence.verifiedDigest = Digest.of (concatenation pieces)

namespace SinkState

theorem receiveData_reported
    (config : SinkConfig) (state : SinkState) (delivery : Delivery)
    (payload : ShardDataPayload) :
    (state.receiveData config delivery payload).2.reported =
      state.reported := by
  unfold receiveData
  dsimp only
  repeat' split
  all_goals rfl

/-- Evidence is only reported when a shard is closed. -/
theorem receive_reports
    {config : SinkConfig} {state : SinkState} {delivery : Delivery}
    {evidence : VerificationEvidence}
    (reports :
      (state.receive config delivery).2.reported =
        state.reported ++ [evidence]) :
    ∃ finish, delivery.message = .shardEnd finish ∧ state.active = true ∧
      evidence = state.evidence config finish delivery.now := by
  have unchanged
      {after : SinkState} (same : after.reported = state.reported)
      (reports : after.reported = state.reported ++ [evidence]) : False := by
    rw [same] at reports
    exact absurd (List.self_eq_append_right.mp reports) (List.cons_ne_nil _ _)
  unfold SinkState.receive at reports
  split at reports
  · split at reports <;> exact (unchanged rfl reports).elim
  · exact (unchanged (state.receiveData_reported config _ _) reports).elim
  · rename_i finish ended
    unfold receiveEnd at reports
    split at reports
    · exact (unchanged rfl reports).elim
    rename_i active
    split at reports
    · exact (unchanged rfl reports).elim
    · refine ⟨finish, ended, not_not.mp active, ?_⟩
      have same := List.append_cancel_left reports
      exact (List.singleton_inj.mp same).symm
  · exact (unchanged rfl reports).elim

theorem outcome_verified
    {config : SinkConfig} {state : SinkState} {finish : ShardEndPayload}
    (verified : state.outcome config finish = .verified) :
    state.received = state.opening.declaredBytes ∧
      finish.sentDigest = state.digest ∧
      (state.opening.declaredDigest.isZero = false →
        state.opening.declaredDigest = state.digest) := by
  unfold outcome at verified
  split at verified
  · cases verified
  rename_i complete
  split at verified
  · cases verified
  rename_i sent
  split at verified
  · cases verified
  rename_i declared
  obtain ⟨_, counted⟩ := not_or.mp complete
  refine ⟨not_not.mp counted, not_not.mp sent, ?_⟩
  intro nonzero
  by_contra differs
  exact declared ⟨by rw [nonzero]; exact Bool.false_ne_true, differs⟩

end SinkState

/-- What a connection may assume of the destination files: each takes fewer
than 2 ^ 64 bytes.  A file offset is a signed 64-bit number, and a write beyond
the largest one fails. -/
def FilesBounded (deliveries : List Delivery) : Prop :=
  ∀ taken, taken <+: deliveries →
    ∀ shard ∈ sinceBegin (taken.map Delivery.message),
      (concatenation shard.2).length < 2 ^ 64

/-- On a connection with files of bounded size, whatever the messages, evidence
with the outcome `Verified` is about the data accepted since the last
`ShardBegin`. -/
theorem verified_evidence_is_attested
    {config : SinkConfig} {start reached : SinkState}
    (fresh : start.active = false) {front : List Delivery}
    (bounded : FilesBounded front)
    (went : start.receiveAll config front = (.proceed, reached))
    {last : Delivery} {evidence : VerificationEvidence}
    (reports :
      (reached.receive config last).2.reported =
        reached.reported ++ [evidence])
    (verified : evidence.outcome = .verified) :
    ∃ opening pieces finish,
      sinceBegin (front.map Delivery.message) = some (opening, pieces) ∧
        last.message = .shardEnd finish ∧
        Attested opening pieces finish evidence := by
  have idle : start.Follows [] := by
    intro active
    rw [fresh] at active
    cases active
  have follows := idle.receiveAll went
  rw [List.nil_append] at follows
  obtain ⟨finish, ended, active, rfl⟩ := SinkState.receive_reports reports
  obtain ⟨pieces, known, hashed, counted, chained⟩ := follows active
  obtain ⟨complete, sent, declared⟩ := SinkState.outcome_verified verified
  have short : (concatenation pieces).length < 2 ^ 64 :=
    bounded front (List.prefix_refl front) _ known
  rw [Nat.mod_eq_of_lt short] at counted
  exact ⟨reached.opening, pieces, finish, known, ended,
    { contiguous := chained.contiguous short
      total := by rw [← counted, complete]
      sent := by rw [sent, hashed]
      declared := fun nonzero => by rw [declared nonzero, hashed]
      shard := ⟨rfl, rfl⟩
      bytes := counted
      digest := hashed }⟩

/-- A shard of two bytes, sent in one piece. -/
def shortFront : List Delivery :=
  [{ message := .shardBegin { declaredBytes := 2 } },
    { message := .shardData { data := [1, 2] } }]

def shortFinish : ShardEndPayload := { sentDigest := Digest.of [1, 2] }

/-- The sink after the two bytes. -/
def shortSink : SinkState :=
  (({} : SinkState).receiveAll {} shortFront).2

theorem shortFront_bounded : FilesBounded shortFront := by
  intro taken within shard known
  rcases within with ⟨rest, split⟩
  match taken with
  | [] =>
      cases known
  | [_] =>
      cases split
      cases known
      decide
  | [_, _] =>
      cases split
      cases known
      decide
  | _ :: _ :: _ :: _ =>
      cases split

/-- Two bytes in one piece are verified, and the evidence is about them. -/
theorem verified_evidence_is_attested_for_two_bytes :
    (shortSink.evidence {} shortFinish 0).outcome = .verified ∧
      ∃ opening pieces finish,
        sinceBegin (shortFront.map Delivery.message) =
            some (opening, pieces) ∧
          TransferMessage.shardEnd shortFinish = .shardEnd finish ∧
          Attested opening pieces finish
            (shortSink.evidence {} shortFinish 0) := by
  have verified : (shortSink.evidence {} shortFinish 0).outcome = .verified :=
    rfl
  exact ⟨verified,
    @verified_evidence_is_attested {} {} shortSink rfl shortFront
      shortFront_bounded rfl { message := .shardEnd shortFinish } _ rfl
      verified⟩

/-! ## Reports -/

/-- The message begins a shard. -/
def Delivery.begins (delivery : Delivery) : Bool :=
  delivery.message matches .shardBegin _

namespace SinkState

/-- The shards that were reported or are open. -/
def opened (state : SinkState) : Nat :=
  state.reported.length + state.active.toNat

variable (config : SinkConfig) (state : SinkState)

theorem receive_opened (delivery : Delivery) :
    (state.receive config delivery).2.opened ≤
      state.opened + [delivery].countP Delivery.begins := by
  obtain ⟨message, _⟩ := delivery
  cases message with
  | shardBegin =>
      dsimp only [receive]
      split <;> exact Nat.add_le_add_right (Nat.le_add_right _ _) 1
  | shardData =>
      dsimp only [receive, receiveData]
      split_ifs <;> exact le_rfl
  | shardEnd =>
      dsimp only [receive, receiveEnd]
      split_ifs with active
      · -- the open shard becomes a report
        simp [opened, active]
      all_goals exact le_rfl
  | other =>
      exact le_rfl

/-- Whatever the sink receives, every report uses up a `ShardBegin` of its
own. -/
theorem reports_use_up_openings (deliveries : List Delivery) :
    (receiveAll config state deliveries).2.opened ≤
      state.opened + deliveries.countP Delivery.begins := by
  induction deliveries generalizing state with
  | nil =>
      exact le_rfl
  | cons delivery rest hypothesis =>
      have step := state.receive_opened config delivery
      rw [receiveAll, ← List.singleton_append, List.countP_append]
      split
      · rename_i next went
        rw [went] at step
        have later := hypothesis next
        dsimp only at step
        omega
      · omega

end SinkState

end TrafficFabric
