import TrafficFabric.Encoding
import TrafficFabric.Status
import TrafficFabric.Wire.Detection

/-!
# Wire frames

A frame is a header of 32 bytes and a payload.  The header carries a magic
number, the protocol version, the type of the message, flags, a sequence
number and the length of the payload, then a checksum over all of these and
one over the payload.  A frame decodes to what was encoded, and no frame with
one byte changed, with bytes missing or with bytes added decodes at all.
-/

namespace TrafficFabric

open Foundation

variable {frame data : Bytes} {position offset : Nat} {byte : UInt8}

/-! ## The format -/

/-- `kFrameMagic`. -/
def frameMagic : UInt32 := 0x31465443

/-- `kFrameHeaderBytes`. -/
def frameHeaderBytes : Nat := 32

/-- `kHeaderChecksumCoverage`. -/
def headerChecksumCoverage : Nat := 24

/-- `kProtocolVersion`. -/
def protocolVersion : UInt16 := 1

structure FrameHeader where
  protocolVersion : UInt16 := TrafficFabric.protocolVersion
  messageType : UInt16 := 0
  flags : UInt32 := 0
  sequence : UInt64 := 0
  payloadBytes : UInt32 := 0
  payloadCrc : UInt32 := 0
deriving DecidableEq

/-- The part of a header that its checksum covers. -/
def coveredHeader (header : FrameHeader) (payload : Bytes) : Bytes :=
  bigEndian32 frameMagic ++ bigEndian16 header.protocolVersion ++
    bigEndian16 header.messageType ++ bigEndian32 header.flags ++
    bigEndian64 header.sequence ++ bigEndian32 payload.length.toUInt32

/-- The header as it is sent. -/
def checkedHeader (header : FrameHeader) (payload : Bytes) : Bytes :=
  coveredHeader header payload ++
    bigEndian32 (crc32c (coveredHeader header payload) 0) ++
    bigEndian32 (crc32c payload 0)

/-- `encode_frame`: the length and the payload checksum of the header given
are not looked at. -/
def encodeFrame (header : FrameHeader) (payload : Bytes) : Result Bytes := do
  refuseWhen (maxPayloadBytes < payload.length)
    (.error .payloadTooLarge "frame payload exceeds the protocol bound")
  return checkedHeader header payload ++ payload

/-- `decode_frame`, with the header that it fills in. -/
def decodeFrame (frame : Bytes) : Result (FrameHeader × Bytes) := do
  refuseWhen (frame.length < frameHeaderBytes)
    (.error .truncatedInput "frame is shorter than its header")
  refuseWhen (readWord32 frame 0 ≠ frameMagic)
    (.error .invalidSyntax "frame magic does not match")
  let version := readWord16 frame 4
  refuseWhen (version ≠ protocolVersion)
    (.error .versionIncompatible "frame protocol version is not supported")
  refuseWhen
    (readWord32 frame headerChecksumCoverage ≠
      crc32c (frame.take headerChecksumCoverage) 0)
    (.error .integrityFailure "frame header checksum does not match")
  let payloadBytes := readWord32 frame 20
  refuseWhen (maxPayloadBytes < payloadBytes.toNat)
    (.error .payloadTooLarge "frame declares an oversized payload")
  let expected := frameHeaderBytes + payloadBytes.toNat
  refuseWhen (frame.length ≠ expected)
    (.error
      (if frame.length < expected then .truncatedInput else .trailingGarbage)
      "frame length does not match its declared payload size")
  let payload := (frame.drop frameHeaderBytes).take payloadBytes.toNat
  refuseWhen (readWord32 frame 28 ≠ crc32c payload 0)
    (.error .integrityFailure "frame payload checksum does not match")
  let header : FrameHeader :=
    { protocolVersion := version
      messageType := readWord16 frame 6
      flags := readWord32 frame 8
      sequence := readWord64 frame 12
      payloadBytes := payloadBytes
      payloadCrc := readWord32 frame 28 }
  return (header, payload)

/-! ## What is accepted -/

/-- What the decoder has established of a frame that it accepts. -/
structure IsWireFrame
    (frame : Bytes) (header : FrameHeader) (payload : Bytes) : Prop where
  whole : ¬frame.length < frameHeaderBytes
  magic : readWord32 frame 0 = frameMagic
  version : readWord16 frame 4 = protocolVersion
  covered :
    readWord32 frame headerChecksumCoverage =
      crc32c (frame.take headerChecksumCoverage) 0
  bounded : ¬maxPayloadBytes < (readWord32 frame 20).toNat
  extent : frame.length = frameHeaderBytes + (readWord32 frame 20).toNat
  intact : readWord32 frame 28 = crc32c payload 0
  fields :
    header =
      { protocolVersion := readWord16 frame 4
        messageType := readWord16 frame 6
        flags := readWord32 frame 8
        sequence := readWord64 frame 12
        payloadBytes := readWord32 frame 20
        payloadCrc := readWord32 frame 28 }
  content : payload = frame.drop frameHeaderBytes

theorem decodeFrame_ok_iff
    {payload : Bytes} {header : FrameHeader} :
    decodeFrame frame = .ok (header, payload) ↔
      IsWireFrame frame header payload := by
  have rest
      (extent : frame.length = frameHeaderBytes + (readWord32 frame 20).toNat) :
      (frame.drop frameHeaderBytes).take (readWord32 frame 20).toNat =
        frame.drop frameHeaderBytes := by
    apply List.take_of_length_le
    rw [List.length_drop]
    omega
  simp only [decodeFrame, bind_eq_ok, refuseWhen_eq_ok, pure, Except.pure,
    Except.ok.injEq, Prod.mk.injEq, exists_and_left, exists_const, not_not]
  constructor
  · rintro ⟨whole, magic, version, covered, bounded, extent, intact, rfl, rfl⟩
    rw [rest extent] at intact ⊢
    exact ⟨whole, magic, version, covered, bounded, extent, intact, rfl, rfl⟩
  · rintro ⟨whole, magic, version, covered, bounded, extent, intact, rfl, rfl⟩
    rw [rest extent]
    exact ⟨whole, magic, version, covered, bounded, extent, intact, rfl, rfl⟩

/-- A frame that cannot be accepted is refused. -/
theorem decodeFrame_refused
    (unacceptable : ∀ header payload, ¬IsWireFrame frame header payload) :
    ∃ status, decodeFrame frame = .error status := by
  rcases decoded : decodeFrame frame with status | ⟨header, payload⟩
  · exact ⟨status, rfl⟩
  · exact absurd (decodeFrame_ok_iff.mp decoded)
      (unacceptable header payload)

/-! ## Windows of a frame -/

theorem window_set
    (byte : UInt8)
    (outside : position < offset ∨ offset + 4 ≤ position) :
    ((data.set position byte).drop offset).take 4 =
      (data.drop offset).take 4 := by
  apply List.ext_getElem?
  intro place
  rw [List.getElem?_take, List.getElem?_take]
  split
  · rw [List.getElem?_drop, List.getElem?_drop,
      List.getElem?_set_ne (by omega)]
  · rfl

/-- A word does not change with a byte outside it. -/
theorem readWord32_set
    (byte : UInt8)
    (outside : position < offset ∨ offset + 4 ≤ position) :
    readWord32 (data.set position byte) offset = readWord32 data offset := by
  rw [readWord32, window_set byte outside, readWord32]

theorem readWord32_window (data : Bytes) (offset : Nat) :
    readWord32 ((data.drop offset).take 4) 0 = readWord32 data offset := by
  simp only [readWord32, List.drop_zero, List.take_take, min_self]

theorem toNat_readWord32 (first second third fourth : UInt8) :
    (readWord32 [first, second, third, fourth] 0).toNat =
      ((first.toNat * 256 + second.toNat) * 256 + third.toNat) * 256 +
        fourth.toNat := by
  have firstBound := first.toNat_lt
  have secondBound := second.toNat_lt
  have thirdBound := third.toNat_lt
  have fourthBound := fourth.toNat_lt
  simp only [readWord32, List.drop_zero, List.take_succ_cons, List.take_zero,
    List.foldl_cons, List.foldl_nil, toNat_push32, UInt32.toNat_zero]
  omega

/-- Four bytes are determined by the word they spell. -/
theorem readWord32_injective
    {left right : Bytes} (leftLength : left.length = 4)
    (rightLength : right.length = 4)
    (same : readWord32 left 0 = readWord32 right 0) : left = right := by
  obtain ⟨first, second, third, fourth, rfl⟩ :=
    List.length_eq_four.mp leftLength
  obtain ⟨one, two, three, four, rfl⟩ := List.length_eq_four.mp rightLength
  have value := congrArg UInt32.toNat same
  rw [toNat_readWord32, toNat_readWord32] at value
  have secondBound := second.toNat_lt
  have thirdBound := third.toNat_lt
  have fourthBound := fourth.toNat_lt
  have twoBound := two.toNat_lt
  have threeBound := three.toNat_lt
  have fourBound := four.toNat_lt
  have firsts : first = one := UInt8.toNat.inj (by omega)
  have seconds : second = two := UInt8.toNat.inj (by omega)
  have thirds : third = three := UInt8.toNat.inj (by omega)
  have fourths : fourth = four := UInt8.toNat.inj (by omega)
  rw [firsts, seconds, thirds, fourths]

/-- A word changes with any of its bytes. -/
theorem readWord32_set_ne
    (above : offset ≤ position) (below : position < offset + 4)
    (whole : offset + 4 ≤ data.length)
    (changed : data[position]? ≠ some byte) :
    readWord32 (data.set position byte) offset ≠ readWord32 data offset := by
  intro same
  rw [← readWord32_window, ← readWord32_window data] at same
  have windows := readWord32_injective
    (by rw [List.length_take, List.length_drop, List.length_set]; omega)
    (by rw [List.length_take, List.length_drop]; omega) same
  have place := congrArg (fun window : Bytes => window[position - offset]?)
    windows
  simp only [List.getElem?_take, List.getElem?_drop,
    Nat.add_sub_of_le above] at place
  rw [if_pos (by omega), if_pos (by omega),
    List.getElem?_set_self (by omega)] at place
  exact changed place.symm

/-! ## Spoiled frames -/

namespace IsWireFrame

variable {frame other payload content : Bytes} {header found : FrameHeader}

theorem length_ge (accepted : IsWireFrame frame header payload) :
    32 ≤ frame.length :=
  Nat.not_lt.mp accepted.whole

/-- An accepted frame with one byte changed is not accepted. -/
theorem not_set
    (accepted : IsWireFrame frame header payload)
    (inside : position < frame.length)
    (changed : frame[position]? ≠ some byte) :
    ¬IsWireFrame (frame.set position byte) found content := by
  intro spoiled
  have whole := accepted.length_ge
  have covered :
      readWord32 (frame.set position byte) 24 =
        crc32c ((frame.set position byte).take 24) 0 :=
    spoiled.covered
  have intact :
      readWord32 (frame.set position byte) 28 =
        crc32c ((frame.set position byte).drop 32) 0 :=
    spoiled.content ▸ spoiled.intact
  have ownCovered : readWord32 frame 24 = crc32c (frame.take 24) 0 :=
    accepted.covered
  have ownIntact : readWord32 frame 28 = crc32c (frame.drop 32) 0 :=
    accepted.content ▸ accepted.intact
  rcases Nat.lt_or_ge position 24 with early | late
  · -- The header checksum covers the byte and stands behind it.
    rw [readWord32_set byte (.inl early), ownCovered, List.take_set] at covered
    refine crc32c_set_ne ?_ ?_ 0 covered.symm
    · rw [List.length_take]
      exact lt_min early inside
    · rwa [List.getElem?_take_of_lt early]
  rcases Nat.lt_or_ge position 28 with early | late
  · -- The byte is one of the header checksum's own.
    refine readWord32_set_ne late early (by omega) changed ?_
    rw [covered, ownCovered, List.take_set_of_le late]
  rcases Nat.lt_or_ge position 32 with early | late
  · -- The byte is one of the payload checksum's own.
    refine readWord32_set_ne late early (by omega) changed ?_
    rw [intact, ownIntact, List.drop_set_of_lt early]
  · -- The payload checksum covers the byte and stands before it.
    rw [readWord32_set byte (.inr late), ownIntact, List.drop_set,
      if_neg (Nat.not_lt.mpr late)] at intact
    refine crc32c_set_ne ?_ ?_ 0 intact.symm
    · rw [List.length_drop]
      exact Nat.sub_lt_sub_right late inside
    · rwa [List.getElem?_drop, Nat.add_sub_of_le late]

/-- The declared length fixes the length of a frame. -/
theorem length_eq
    (accepted : IsWireFrame frame header payload)
    (alike : IsWireFrame other found content)
    (declared : readWord32 frame 20 = readWord32 other 20) :
    frame.length = other.length := by
  rw [accepted.extent, alike.extent, declared]

/-- No proper beginning of an accepted frame is accepted. -/
theorem not_take
    (accepted : IsWireFrame frame header payload) {count : Nat}
    (short : count < frame.length) :
    ¬IsWireFrame (frame.take count) found content := by
  intro cut
  have whole := cut.length_ge
  rw [List.length_take] at whole
  have lengths := cut.length_eq accepted (by
    rw [readWord32, readWord32, List.drop_take, List.take_take,
      Nat.min_eq_left (by omega)])
  rw [List.length_take] at lengths
  omega

/-- Nothing can be added to an accepted frame. -/
theorem not_append
    (accepted : IsWireFrame frame header payload) {extra : Bytes}
    (added : extra ≠ []) :
    ¬IsWireFrame (frame ++ extra) found content := by
  intro longer
  have whole := accepted.length_ge
  have lengths := longer.length_eq accepted (by
    rw [readWord32, readWord32, List.drop_append_of_le_length (by omega),
      List.take_append_of_le_length (by rw [List.length_drop]; omega)])
  rw [List.length_append] at lengths
  exact added (List.length_eq_zero_iff.mp (by omega))

end IsWireFrame

/-! ## Frames as they are sent -/

section Sent

variable (header : FrameHeader) (payload rest : Bytes)

theorem length_checkedHeader :
    (checkedHeader header payload).length = frameHeaderBytes :=
  rfl

/-- The header that the receiver of a frame sees. -/
def FrameHeader.received : FrameHeader :=
  { header with
    payloadBytes := payload.length.toUInt32
    payloadCrc := crc32c payload 0 }

/-- The words of a header, where the receiver looks for them. -/
structure ReadsHeader (frame : Bytes) : Prop where
  magic : readWord32 frame 0 = frameMagic
  version : readWord16 frame 4 = header.protocolVersion
  messageType : readWord16 frame 6 = header.messageType
  flags : readWord32 frame 8 = header.flags
  sequence : readWord64 frame 12 = header.sequence
  payloadBytes : readWord32 frame 20 = payload.length.toUInt32
  headerCrc : readWord32 frame 24 = crc32c (coveredHeader header payload) 0
  payloadCrc : readWord32 frame 28 = crc32c payload 0

theorem checkedHeader_reads :
    ReadsHeader header payload (checkedHeader header payload ++ rest) where
  magic := readWord32_eq
    (rfl :
      (checkedHeader header payload ++ rest).drop 0 =
        bigEndian32 frameMagic ++
          (checkedHeader header payload ++ rest).drop 4)
  version := readWord16_eq
    (rfl :
      (checkedHeader header payload ++ rest).drop 4 =
        bigEndian16 header.protocolVersion ++
          (checkedHeader header payload ++ rest).drop 6)
  messageType := readWord16_eq
    (rfl :
      (checkedHeader header payload ++ rest).drop 6 =
        bigEndian16 header.messageType ++
          (checkedHeader header payload ++ rest).drop 8)
  flags := readWord32_eq
    (rfl :
      (checkedHeader header payload ++ rest).drop 8 =
        bigEndian32 header.flags ++
          (checkedHeader header payload ++ rest).drop 12)
  sequence := readWord64_eq
    (rfl :
      (checkedHeader header payload ++ rest).drop 12 =
        bigEndian64 header.sequence ++
          (checkedHeader header payload ++ rest).drop 20)
  payloadBytes := readWord32_eq
    (rfl :
      (checkedHeader header payload ++ rest).drop 20 =
        bigEndian32 payload.length.toUInt32 ++
          (checkedHeader header payload ++ rest).drop 24)
  headerCrc := readWord32_eq
    (rfl :
      (checkedHeader header payload ++ rest).drop 24 =
        bigEndian32 (crc32c (coveredHeader header payload) 0) ++
          (checkedHeader header payload ++ rest).drop 28)
  payloadCrc := readWord32_eq
    (rfl :
      (checkedHeader header payload ++ rest).drop 28 =
        bigEndian32 (crc32c payload 0) ++ rest)

variable {header payload}

theorem toNat_payloadBytes (fits : payload.length ≤ maxPayloadBytes) :
    payload.length.toUInt32.toNat = payload.length := by
  rw [maxPayloadBytes] at fits
  rw [Nat.toUInt32_eq, UInt32.toNat_ofNat']
  exact Nat.mod_eq_of_lt (by omega)

/-- A frame is accepted with the header and the payload it was made of. -/
theorem sent_isWireFrame
    (version : header.protocolVersion = protocolVersion)
    (fits : payload.length ≤ maxPayloadBytes) :
    IsWireFrame (checkedHeader header payload ++ payload)
      (header.received payload) payload := by
  have reads := checkedHeader_reads header payload payload
  have extent :
      (checkedHeader header payload ++ payload).length =
        frameHeaderBytes + payload.length :=
    List.length_append
  have declared :
      (readWord32 (checkedHeader header payload ++ payload) 20).toNat =
        payload.length := by
    rw [reads.payloadBytes, toNat_payloadBytes fits]
  exact
    { whole := by omega
      magic := reads.magic
      version := reads.version.trans version
      covered := reads.headerCrc
      bounded := by rw [declared]; exact Nat.not_lt.mpr fits
      extent := by rw [declared]; exact extent
      intact := reads.payloadCrc
      fields := by
        rw [reads.version, reads.messageType, reads.flags, reads.sequence,
          reads.payloadBytes, reads.payloadCrc]
        rfl
      content := (List.drop_left' (length_checkedHeader header payload)).symm }

end Sent

/--
A frame decodes to its payload under its own type, flags and sequence number,
and it is refused once a byte of it has changed, once it is cut or once
anything follows it.
-/
theorem frames_are_intact_or_refused
    {header : FrameHeader} {payload : Bytes}
    (version : header.protocolVersion = protocolVersion)
    (fits : payload.length ≤ maxPayloadBytes) :
    ∃ frame, encodeFrame header payload = .ok frame ∧
      decodeFrame frame = .ok (header.received payload, payload) ∧
      (∀ position byte, position < frame.length →
        frame[position]? ≠ some byte →
          ∃ status, decodeFrame (frame.set position byte) = .error status) ∧
      (∀ count < frame.length,
        ∃ status, decodeFrame (frame.take count) = .error status) ∧
      ∀ extra, extra ≠ [] →
        ∃ status, decodeFrame (frame ++ extra) = .error status := by
  have accepted := sent_isWireFrame version fits
  refine ⟨checkedHeader header payload ++ payload, ?_,
    decodeFrame_ok_iff.mpr accepted, ?_, ?_, ?_⟩
  · rw [encodeFrame, refuseWhen, if_neg (Nat.not_lt.mpr fits)]
    rfl
  · intro position byte inside changed
    exact decodeFrame_refused (fun _ _ => accepted.not_set inside changed)
  · intro count short
    exact decodeFrame_refused (fun _ _ => accepted.not_take short)
  · intro extra added
    exact decodeFrame_refused (fun _ _ => accepted.not_append added)

/-- A frame of three bytes. -/
theorem sample_frame_is_intact_or_refused :
    ∃ frame, encodeFrame { messageType := 16, sequence := 1 } [1, 2, 3] =
        .ok frame ∧
      decodeFrame frame =
        .ok
          (FrameHeader.received { messageType := 16, sequence := 1 }
            [1, 2, 3], [1, 2, 3]) ∧
      ∃ status, decodeFrame (frame.take 34) = .error status := by
  obtain ⟨frame, encoded, decoded, _, cut, _⟩ :=
    @frames_are_intact_or_refused { messageType := 16, sequence := 1 }
      [1, 2, 3] rfl (by decide)
  have long : 34 < frame.length := by
    cases encoded
    decide
  exact ⟨frame, encoded, decoded, cut 34 long⟩

end TrafficFabric
