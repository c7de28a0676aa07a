import TrafficFabric.Wire.Frame

/-!
# The message channel

One end of a connection numbers the messages it sends, and the other accepts
only numbers that grow.  Whatever a network does with whole frames, drops,
repeats or reorders them, what is delivered before the first refusal is part
of what was sent, in the order of sending.  The numbering wraps after `2 ^ 64`
messages, and from then on the order can be broken.
-/

namespace TrafficFabric

open Foundation

/-! ## Messages -/

inductive MessageType where
  | helloRequest
  | helloResponse
  | submitSession
  | decisionResponse
  | revalidateSession
  | requestWave
  | waveResponse
  | reportSourceComplete
  | reportTransfer
  | reportVerification
  | reportAmbiguous
  | cancelSession
  | pauseSession
  | resumeSession
  | recordDurability
  | querySession
  | sessionViewResponse
  | querySessions
  | sessionListResponse
  | queryAccounting
  | accountingResponse
  | queryExplain
  | explanationResponse
  | queryInvariants
  | statusResponse
  | shutdownRequest
  | shardBegin
  | shardData
  | shardEnd
  | shardAck
deriving DecidableEq

namespace MessageType

/-- The number of a type on the wire. -/
def code : MessageType → UInt16
  | helloRequest => 1
  | helloResponse => 2
  | submitSession => 16
  | decisionResponse => 17
  | revalidateSession => 18
  | requestWave => 19
  | waveResponse => 20
  | reportSourceComplete => 21
  | reportTransfer => 22
  | reportVerification => 23
  | reportAmbiguous => 24
  | cancelSession => 25
  | pauseSession => 26
  | resumeSession => 27
  | recordDurability => 28
  | querySession => 32
  | sessionViewResponse => 33
  | querySessions => 34
  | sessionListResponse => 35
  | queryAccounting => 36
  | accountingResponse => 37
  | queryExplain => 38
  | explanationResponse => 39
  | queryInvariants => 40
  | statusResponse => 48
  | shutdownRequest => 56
  | shardBegin => 64
  | shardData => 65
  | shardEnd => 66
  | shardAck => 67

/-- The types that `to_string` has a name for. -/
def known : List MessageType :=
  [helloRequest, helloResponse, submitSession, decisionResponse,
    revalidateSession, requestWave, waveResponse, reportSourceComplete,
    reportTransfer, reportVerification, reportAmbiguous, cancelSession,
    pauseSession, resumeSession, recordDurability, querySession,
    sessionViewResponse, querySessions, sessionListResponse, queryAccounting,
    accountingResponse, queryExplain, explanationResponse, queryInvariants,
    statusResponse, shutdownRequest, shardBegin, shardData, shardEnd,
    shardAck]

/-- The type of a number, unless `is_known_message` refuses it. -/
def ofCode (number : UInt16) : Option MessageType :=
  known.find? (fun type => type.code == number)

theorem ofCode_code (type : MessageType) : ofCode type.code = some type := by
  cases type <;> rfl

end MessageType

structure Message where
  type : MessageType
  sequence : UInt64
  payload : Bytes
deriving DecidableEq

/-- What the sender handed over. -/
def Message.content (message : Message) : MessageType × Bytes :=
  (message.type, message.payload)

/-! ## The channel -/

/-- The counters of `MessageChannel`; its socket is the byte stream. -/
structure MessageChannel where
  sendSequence : UInt64 := 0
  lastReceivedSequence : UInt64 := 0
  receivedAny : Bool := false

namespace MessageChannel

/-- `send`: the bytes written, and the counter, which a refused message uses
up as well. -/
def send (channel : MessageChannel) (type : MessageType) (payload : Bytes) :
    Result Bytes × MessageChannel :=
  let sequence := channel.sendSequence + 1
  let header : FrameHeader :=
    { messageType := type.code
      sequence := sequence
      payloadBytes := payload.length.toUInt32 }
  (encodeFrame header payload, { channel with sendSequence := sequence })

/-- `read_exactly`, with what the stream holds after it. -/
def readExactly (stream : Bytes) (count : Nat) : Result (Bytes × Bytes) := do
  refuseWhen (stream.length < count)
    (.error .peerClosed "peer closed the connection")
  return (stream.take count, stream.drop count)

/-- `receive` on the bytes that have arrived: the message, what the stream
holds after it, and the counters. -/
def receive (channel : MessageChannel) (stream : Bytes) :
    Result (Message × Bytes × MessageChannel) := do
  let (headerBytes, rest) ← readExactly stream frameHeaderBytes
  refuseWhen (readWord32 headerBytes 0 ≠ frameMagic)
    (.error .invalidSyntax "frame magic does not match")
  let payloadBytes := readWord32 headerBytes 20
  refuseWhen (maxPayloadBytes < payloadBytes.toNat)
    (.error .payloadTooLarge "peer declared an oversized frame payload")
  let (payloadPart, rest) ← readExactly rest payloadBytes.toNat
  let (header, payload) ← decodeFrame (headerBytes ++ payloadPart)
  let type ← requireSome
    (.error .unknownMessageType "peer sent an unknown message type")
    (MessageType.ofCode header.messageType)
  refuseWhen
    (channel.receivedAny = true ∧
      header.sequence ≤ channel.lastReceivedSequence)
    (.error .sequenceViolation
      "peer repeated or rewound a frame sequence number")
  let next : MessageChannel :=
    { channel with
      receivedAny := true
      lastReceivedSequence := header.sequence }
  return (⟨type, header.sequence, payload⟩, rest, next)

/-- The frames that a list of messages is sent as; none for a refused one. -/
def sendAll (channel : MessageChannel) :
    List (MessageType × Bytes) → List Bytes
  | [] => []
  | (type, payload) :: messages =>
      (channel.send type payload).1.toOption.toList ++
        (channel.send type payload).2.sendAll messages

/-- What a number of calls deliver up to the first that fails. -/
def receiveAll : Nat → MessageChannel → Bytes → List Message
  | 0, _, _ => []
  | calls + 1, channel, stream =>
      (channel.receive stream).toOption.elim [] fun (message, rest, next) =>
        message :: receiveAll calls next rest

/-! ## One frame -/

/-- The frame of a message under a number. -/
def sentFrame
    (sequence : UInt64) (type : MessageType) (payload : Bytes) : Bytes :=
  checkedHeader { messageType := type.code, sequence := sequence } payload ++
    payload

theorem send_eq
    (channel : MessageChannel) (type : MessageType) {payload : Bytes} :
    (channel.send type payload).1.toOption =
      if payload.length ≤ maxPayloadBytes then
        some (sentFrame (channel.sendSequence + 1) type payload)
      else none := by
  unfold send encodeFrame refuseWhen
  by_cases fits : payload.length ≤ maxPayloadBytes
  · rw [if_pos fits, if_neg (Nat.not_lt.mpr fits)]
    rfl
  · rw [if_neg fits, if_pos (Nat.not_le.mp fits)]
    rfl

theorem readExactly_append
    {front rest : Bytes} {count : Nat} (exactly : front.length = count) :
    readExactly (front ++ rest) count = .ok (front, rest) := by
  have enough : ¬(front ++ rest).length < count := by
    rw [List.length_append]
    omega
  rw [readExactly, refuseWhen, if_neg enough, List.take_left' exactly,
    List.drop_left' exactly]
  rfl

/-- The number is behind one that was accepted. -/
def Behind (channel : MessageChannel) (sequence : UInt64) : Prop :=
  channel.receivedAny = true ∧ sequence ≤ channel.lastReceivedSequence

instance (channel : MessageChannel) (sequence : UInt64) :
    Decidable (channel.Behind sequence) :=
  inferInstanceAs (Decidable (_ ∧ _))

/-- A frame in front of the stream is delivered unless its number is
behind. -/
theorem receive_sentFrame
    (channel : MessageChannel) {sequence : UInt64} (type : MessageType)
    {payload : Bytes} (fits : payload.length ≤ maxPayloadBytes)
    (rest : Bytes) :
    (channel.receive (sentFrame sequence type payload ++ rest)).toOption =
      if channel.Behind sequence then none
      else
        some
          (⟨type, sequence, payload⟩, rest,
            { channel with
              receivedAny := true
              lastReceivedSequence := sequence }) := by
  have accepted :=
    decodeFrame_ok_iff.mpr (@sent_isWireFrame
      { messageType := type.code, sequence := sequence } payload rfl fits)
  have reads := checkedHeader_reads
    { messageType := type.code, sequence := sequence } payload []
  rw [List.append_nil] at reads
  have declared := congrArg UInt32.toNat reads.payloadBytes
  rw [toNat_payloadBytes fits] at declared
  have bounded : ¬maxPayloadBytes < payload.length := Nat.not_lt.mpr fits
  unfold receive sentFrame
  rw [List.append_assoc, readExactly_append (length_checkedHeader _ _)]
  simp only [bind, Except.bind, refuseWhen, reads.magic, declared, ne_eq,
    not_true_eq_false, if_false, bounded, readExactly_append rfl, accepted,
    FrameHeader.received, MessageType.ofCode_code, requireSome]
  by_cases behind : channel.Behind sequence
  · rw [if_pos behind]
    simp only [if_pos (show _ ∧ _ from behind)]
    rfl
  · rw [if_neg behind]
    simp only [if_neg (show ¬(_ ∧ _) from behind)]
    rfl

/-! ## Whole streams -/

/-- The frames of a list of messages are those of its messages that fit, each
under its own number. -/
theorem mem_sendAll_iff
    {channel : MessageChannel} {messages : List (MessageType × Bytes)}
    {frame : Bytes} :
    frame ∈ channel.sendAll messages ↔
      ∃ index type payload sequence,
        messages[index]? = some (type, payload) ∧
          payload.length ≤ maxPayloadBytes ∧
          sequence.toNat = (channel.sendSequence.toNat + 1 + index) % 2 ^ 64 ∧
          frame = sentFrame sequence type payload := by
  induction messages generalizing channel with
  | nil =>
      simp [sendAll]
  | cons message messages ih =>
      obtain ⟨type, payload⟩ := message
      have next :
          (channel.send type payload).2.sendSequence.toNat =
            (channel.sendSequence.toNat + 1) % 2 ^ 64 :=
        UInt64.toNat_add _ _
      rw [sendAll, List.mem_append, ih, send_eq, Option.mem_toList]
      constructor
      · rintro (own | ⟨index, kind, content, sequence, listed, fits, number,
          rfl⟩)
        · split at own
          · rename_i fits
            cases own
            exact ⟨0, type, payload, _, rfl, fits, UInt64.toNat_add _ _, rfl⟩
          · cases own
        · refine ⟨index + 1, kind, content, sequence, listed, fits, ?_, rfl⟩
          rw [number, next]
          omega
      · rintro ⟨index, kind, content, sequence, listed, fits, number, rfl⟩
        cases index with
        | zero =>
            cases listed
            refine .inl ?_
            rw [if_pos fits]
            have same : sequence = channel.sendSequence + 1 :=
              UInt64.toNat.inj
                (number.trans (UInt64.toNat_add channel.sendSequence 1).symm)
            rw [same]
        | succ index =>
            refine .inr ⟨index, kind, content, sequence, listed, fits, ?_, rfl⟩
            rw [number, next]
            omega

theorem receive_nil (channel : MessageChannel) :
    (channel.receive []).toOption = none :=
  rfl

/-- How far into the messages the receiver has come. -/
def reached (channel : MessageChannel) : Nat :=
  if channel.receivedAny then channel.lastReceivedSequence.toNat else 0

theorem reached_lt
    {channel : MessageChannel} {sequence : UInt64}
    (ahead : ¬channel.Behind sequence) (positive : 0 < sequence.toNat) :
    channel.reached < sequence.toNat := by
  unfold reached
  split
  · rename_i received
    exact UInt64.lt_iff_toNat_lt.mp
      (UInt64.not_le.mp (fun behind => ahead ⟨received, behind⟩))
  · exact positive

/-- From where the receiver is, it delivers part of what follows. -/
theorem receiveAll_sublist
    {messages : List (MessageType × Bytes)} (few : messages.length < 2 ^ 64)
    {received : List Bytes}
    (whole :
      ∀ frame ∈ received, frame ∈ sendAll {} messages)
    (calls : Nat) (channel : MessageChannel) :
    ((receiveAll calls channel received.flatten).map
      Message.content).Sublist (messages.drop channel.reached) := by
  induction calls generalizing channel received with
  | zero =>
      exact List.nil_sublist _
  | succ calls ih =>
      rw [receiveAll]
      cases received with
      | nil =>
          rw [List.flatten_nil, receive_nil]
          exact List.nil_sublist _
      | cons frame received =>
          obtain ⟨index, type, payload, sequence, listed, fits, number, rfl⟩ :=
            mem_sendAll_iff.mp (whole _ List.mem_cons_self)
          have inside : index < messages.length :=
            (List.getElem?_eq_some_iff.mp listed).1
          have counted : sequence.toNat = index + 1 := by
            have zero : ({} : MessageChannel).sendSequence.toNat = 0 := rfl
            omega
          rw [List.flatten_cons, receive_sentFrame channel type fits]
          split
          · exact List.nil_sublist _
          · rename_i ahead
            have before := reached_lt ahead (by omega)
            have later := ih
              (fun other listed => whole other (List.mem_cons_of_mem _ listed))
              { channel with
                receivedAny := true
                lastReceivedSequence := sequence }
            have place : (MessageChannel.reached
                { channel with
                  receivedAny := true
                  lastReceivedSequence := sequence }) = index + 1 :=
              counted
            rw [place] at later
            have here :
                messages.drop index =
                  (type, payload) :: messages.drop (index + 1) := by
              rw [List.drop_eq_getElem_cons inside,
                (List.getElem?_eq_some_iff.mp listed).2]
            refine List.Sublist.trans ?_
              (List.drop_sublist_drop_left messages
                (show channel.reached ≤ index by omega))
            rw [here]
            exact later.cons_cons (type, payload)

end MessageChannel

/--
Up to the first refusal, a fresh receiver delivers part of what a fresh sender
sent, in the order of sending, each message at most as often as it was sent
and with its own type and payload.
-/
theorem deliveries_keep_the_order
    {messages : List (MessageType × Bytes)} (few : messages.length < 2 ^ 64)
    {received : List Bytes}
    (whole :
      ∀ frame ∈ received, frame ∈ MessageChannel.sendAll {} messages)
    (calls : Nat) :
    ((MessageChannel.receiveAll calls {} received.flatten).map
      Message.content).Sublist messages :=
  MessageChannel.receiveAll_sublist few whole calls {}

/-- Of two swapped frames only the later one is delivered. -/
theorem swapped_delivery_keeps_the_order :
    let messages : List (MessageType × Bytes) :=
      [(.helloRequest, []), (.shutdownRequest, [1])]
    let delivered :=
      (MessageChannel.receiveAll 2 {}
        (MessageChannel.sendAll {} messages).reverse.flatten).map
          Message.content
    delivered.Sublist messages ∧ delivered = [(.shutdownRequest, [1])] :=
  ⟨deliveries_keep_the_order (by decide)
    (fun _ listed => List.mem_reverse.mp listed) 2, by decide +kernel⟩

/-! ## The numbering wraps -/

/-- A last message behind many others. -/
def wrappingMessages (count : Nat) : List (MessageType × Bytes) :=
  List.replicate count (.helloRequest, []) ++ [(.shutdownRequest, [])]

/-- The last message is followed by none of the others. -/
theorem not_sublist_wrappingMessages (count : Nat) :
    ¬[(MessageType.shutdownRequest, []), (.helloRequest, [])].Sublist
      (wrappingMessages count) := by
  intro delivered
  have turned := delivered.reverse
  rw [wrappingMessages, List.reverse_append, List.reverse_replicate] at turned
  have inside :
      (MessageType.shutdownRequest, ([] : Bytes)) ∈
        List.replicate count (MessageType.helloRequest, ([] : Bytes)) := by
    cases turned with
    | cons _ rest => exact rest.subset (List.mem_cons_of_mem _ List.mem_cons_self)
  cases List.eq_of_mem_replicate inside

theorem wrapped_numbers_swap
    {count : Nat} (occupied : 0 < count) (wraps : (count + 1) % 2 ^ 64 = 0) :
    ∃ received : List Bytes,
      (∀ frame ∈ received,
        frame ∈ MessageChannel.sendAll {} (wrappingMessages count)) ∧
      (MessageChannel.receiveAll 2 {} received.flatten).map Message.content =
        [(.shutdownRequest, []), (.helloRequest, [])] := by
  refine ⟨[MessageChannel.sentFrame 0 .shutdownRequest [],
    MessageChannel.sentFrame 1 .helloRequest []], ?_, by decide +kernel⟩
  have zero : ({} : MessageChannel).sendSequence.toNat = 0 := rfl
  intro frame listed
  rw [MessageChannel.mem_sendAll_iff, zero]
  rcases List.mem_cons.mp listed with rfl | later
  · refine ⟨count, .shutdownRequest, [], 0, ?_, by decide, ?_, rfl⟩
    · rw [wrappingMessages, List.getElem?_append_right (by
        rw [List.length_replicate]), List.length_replicate, Nat.sub_self]
      rfl
    · rw [UInt64.toNat_zero]
      omega
  · obtain rfl := List.mem_singleton.mp later
    refine ⟨0, .helloRequest, [], 1, ?_, by decide, rfl, rfl⟩
    rw [wrappingMessages, List.getElem?_append_left (by
      rwa [List.length_replicate]), List.getElem?_replicate, if_pos occupied]

/-- The last of `2 ^ 64` messages bears the number zero, and is delivered
before the first. -/
theorem wrapped_numbers_break_the_order :
    ∃ received : List Bytes,
      (∀ frame ∈ received,
        frame ∈ MessageChannel.sendAll {}
          (wrappingMessages 18446744073709551615)) ∧
      ¬((MessageChannel.receiveAll 2 {} received.flatten).map
        Message.content).Sublist (wrappingMessages 18446744073709551615) := by
  obtain ⟨received, whole, swapped⟩ :=
    @wrapped_numbers_swap 18446744073709551615 (by decide) (by decide)
  refine ⟨received, whole, ?_⟩
  rw [swapped]
  exact not_sublist_wrappingMessages _

end TrafficFabric
