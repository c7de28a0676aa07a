import TrafficFabric.Digest
import TrafficFabric.Encoding
import TrafficFabric.Status

/-!
# Journal records

Snapshot and journal files hold records of one format: a header of 28 bytes,
a label and a payload.  The header carries a magic number, the version of the
format, the sequence number of the record, the lengths of both parts and a
checksum over everything but itself.  A record decodes to itself whatever
follows it, and no proper prefix of one decodes.
-/

namespace TrafficFabric

open Foundation

variable {data rest : Bytes} {offset : Nat}

/-! ## The format -/

def journalMagic : UInt32 := 0x4A465443

def journalHeaderBytes : Nat := 28

def maxLabelBytes : Nat := 64

/-- `kPersistenceFormatVersion`. -/
def persistenceFormatVersion : UInt16 := 1

structure JournalRecord where
  sequence : UInt64 := 0
  label : Text := []
  payload : Bytes := []
deriving DecidableEq

/-- The header up to its checksum. -/
def journalHeader (record : JournalRecord) : Bytes :=
  bigEndian32 journalMagic ++ bigEndian16 persistenceFormatVersion ++
    [0, 0] ++ bigEndian64 record.sequence ++
    bigEndian32 record.payload.length.toUInt32 ++
    bigEndian16 record.label.length.toUInt16 ++ [0, 0]

/-- The checksum runs over the header, the label and the payload. -/
def journalChecksum (header label payload : Bytes) : UInt32 :=
  crc32c payload (crc32c label (crc32c header 0))

/-- `encode_journal_record`: no bytes when a part is too long. -/
def encodeJournalRecord (record : JournalRecord) : Bytes :=
  if maxLabelBytes < record.label.length ∨
      maxPayloadBytes < record.payload.length then
    []
  else
    journalHeader record ++
      bigEndian32
        (journalChecksum (journalHeader record) record.label
          record.payload) ++
      record.label ++ record.payload

/-- `decode_journal_record`: the record in front, and how long it is. -/
def decodeJournalRecord (data : Bytes) : Result (JournalRecord × Nat) := do
  refuseWhen (data.length < journalHeaderBytes)
    (.error .truncatedInput "journal record header is incomplete")
  refuseWhen (readWord32 data 0 ≠ journalMagic)
    (.error .invalidSyntax "journal record magic does not match")
  refuseWhen (readWord16 data 4 ≠ persistenceFormatVersion)
    (.error .versionIncompatible "journal record version is not supported")
  refuseWhen
    (data.getD 6 0 ≠ 0 ∨ data.getD 7 0 ≠ 0 ∨ data.getD 22 0 ≠ 0 ∨
      data.getD 23 0 ≠ 0)
    (.error .nonCanonicalEncoding
      "journal record reserved fields are non-zero")
  let payloadBytes := (readWord32 data 16).toNat
  let labelBytes := (readWord16 data 20).toNat
  refuseWhen (maxLabelBytes < labelBytes)
    (.error .stringTooLong "journal record label is too long")
  refuseWhen (maxPayloadBytes < payloadBytes)
    (.error .payloadTooLarge "journal record payload is too large")
  let total := journalHeaderBytes + labelBytes + payloadBytes
  refuseWhen (data.length < total)
    (.error .truncatedInput "journal record payload is incomplete")
  let label := (data.drop journalHeaderBytes).take labelBytes
  let payload := (data.drop (journalHeaderBytes + labelBytes)).take payloadBytes
  refuseWhen
    (journalChecksum (data.take 24) label payload ≠ readWord32 data 24)
    (.error .integrityFailure "journal record checksum does not match")
  return (⟨readWord64 data 8, label, payload⟩, total)

/-! ## Reading back what was written -/

/-- The header of a record with its checksum. -/
def sealedHeader (record : JournalRecord) : Bytes :=
  journalHeader record ++
    bigEndian32
      (journalChecksum (journalHeader record) record.label record.payload)

/-- A record both of whose parts fit. -/
def JournalRecord.Fits (record : JournalRecord) : Prop :=
  record.label.length ≤ maxLabelBytes ∧
    record.payload.length ≤ maxPayloadBytes

instance (record : JournalRecord) : Decidable record.Fits :=
  inferInstanceAs (Decidable (_ ∧ _))

theorem encodeJournalRecord_of_fits
    {record : JournalRecord} (fits : record.Fits) :
    encodeJournalRecord record =
      sealedHeader record ++ (record.label ++ record.payload) := by
  have within :
      ¬(maxLabelBytes < record.label.length ∨
        maxPayloadBytes < record.payload.length) := by
    have labelled := fits.1
    have loaded := fits.2
    omega
  rw [encodeJournalRecord, if_neg within, sealedHeader,
    List.append_assoc _ record.label]

@[simp]
theorem length_sealedHeader (record : JournalRecord) :
    (sealedHeader record).length = journalHeaderBytes :=
  rfl

theorem length_encodeJournalRecord
    {record : JournalRecord} (fits : record.Fits) :
    (encodeJournalRecord record).length =
      journalHeaderBytes + (record.label.length + record.payload.length) := by
  rw [encodeJournalRecord_of_fits fits, List.length_append,
    List.length_append, length_sealedHeader]

/-- A record that is written fits. -/
theorem fits_of_encode_ne_nil
    {record : JournalRecord} (written : encodeJournalRecord record ≠ []) :
    record.Fits := by
  by_contra oversized
  refine written (if_pos ?_)
  rw [JournalRecord.Fits] at oversized
  omega

section Reading

variable (record : JournalRecord) (rest : Bytes)

theorem read_magic :
    readWord32 (sealedHeader record ++ rest) 0 = journalMagic :=
  readWord32_eq
    (rfl :
      (sealedHeader record ++ rest).drop 0 =
        bigEndian32 journalMagic ++ (sealedHeader record ++ rest).drop 4)

theorem read_version :
    readWord16 (sealedHeader record ++ rest) 4 = persistenceFormatVersion :=
  readWord16_eq
    (rfl :
      (sealedHeader record ++ rest).drop 4 =
        bigEndian16 persistenceFormatVersion ++
          (sealedHeader record ++ rest).drop 6)

theorem read_sequence :
    readWord64 (sealedHeader record ++ rest) 8 = record.sequence :=
  readWord64_eq
    (rfl :
      (sealedHeader record ++ rest).drop 8 =
        bigEndian64 record.sequence ++ (sealedHeader record ++ rest).drop 16)

theorem read_payload_length :
    readWord32 (sealedHeader record ++ rest) 16 =
      record.payload.length.toUInt32 :=
  readWord32_eq
    (rfl :
      (sealedHeader record ++ rest).drop 16 =
        bigEndian32 record.payload.length.toUInt32 ++
          (sealedHeader record ++ rest).drop 20)

theorem read_label_length :
    readWord16 (sealedHeader record ++ rest) 20 =
      record.label.length.toUInt16 :=
  readWord16_eq
    (rfl :
      (sealedHeader record ++ rest).drop 20 =
        bigEndian16 record.label.length.toUInt16 ++
          (sealedHeader record ++ rest).drop 22)

theorem read_checksum :
    readWord32 (sealedHeader record ++ rest) 24 =
      journalChecksum (journalHeader record) record.label record.payload :=
  readWord32_eq
    (rfl :
      (sealedHeader record ++ rest).drop 24 =
        bigEndian32
            (journalChecksum (journalHeader record) record.label
              record.payload) ++ rest)

variable {record}

theorem read_payloadBytes (fits : record.Fits) :
    (readWord32 (sealedHeader record ++ rest) 16).toNat =
      record.payload.length := by
  have loaded := fits.2
  rw [maxPayloadBytes] at loaded
  rw [read_payload_length, Nat.toUInt32_eq, UInt32.toNat_ofNat']
  exact Nat.mod_eq_of_lt (by omega)

theorem read_labelBytes (fits : record.Fits) :
    (readWord16 (sealedHeader record ++ rest) 20).toNat =
      record.label.length := by
  have labelled := fits.1
  rw [maxLabelBytes] at labelled
  rw [read_label_length, Nat.toUInt16_eq, UInt16.toNat_ofNat']
  exact Nat.mod_eq_of_lt (by omega)

end Reading

/-- What the decoder has established of a record that it returns. -/
structure IsFrame
    (data : Bytes) (record : JournalRecord) (consumed : Nat) : Prop where
  header : ¬data.length < journalHeaderBytes
  magic : readWord32 data 0 = journalMagic
  version : readWord16 data 4 = persistenceFormatVersion
  reserved :
    ¬(data.getD 6 0 ≠ 0 ∨ data.getD 7 0 ≠ 0 ∨ data.getD 22 0 ≠ 0 ∨
      data.getD 23 0 ≠ 0)
  labelled : ¬maxLabelBytes < (readWord16 data 20).toNat
  loaded : ¬maxPayloadBytes < (readWord32 data 16).toNat
  extent :
    consumed =
      journalHeaderBytes + (readWord16 data 20).toNat +
        (readWord32 data 16).toNat
  whole : ¬data.length < consumed
  content :
    record =
      ⟨readWord64 data 8,
        (data.drop journalHeaderBytes).take (readWord16 data 20).toNat,
        (data.drop
          (journalHeaderBytes + (readWord16 data 20).toNat)).take
          (readWord32 data 16).toNat⟩
  intact :
    journalChecksum (data.take 24) record.label record.payload =
      readWord32 data 24

theorem decodeJournalRecord_ok_iff
    {record : JournalRecord} {consumed : Nat} :
    decodeJournalRecord data = .ok (record, consumed) ↔
      IsFrame data record consumed := by
  simp only [decodeJournalRecord, bind_eq_ok, refuseWhen_eq_ok, pure,
    Except.pure, Except.ok.injEq, Prod.mk.injEq, exists_and_left,
    exists_const]
  constructor
  · rintro ⟨header, magic, version, reserved, labelled, loaded, whole,
      intact, rfl, rfl⟩
    exact ⟨header, not_not.mp magic, not_not.mp version, reserved, labelled,
      loaded, rfl, whole, rfl, not_not.mp intact⟩
  · rintro ⟨header, magic, version, reserved, labelled, loaded, rfl, whole,
      rfl, intact⟩
    exact ⟨header, not_not.mpr magic, not_not.mpr version, reserved,
      labelled, loaded, whole, not_not.mpr intact, rfl, rfl⟩

/-- A record decodes to itself whatever follows it. -/
theorem decode_encode_append
    {record : JournalRecord} (fits : record.Fits) (rest : Bytes) :
    decodeJournalRecord (encodeJournalRecord record ++ rest) =
      .ok (record, (encodeJournalRecord record).length) := by
  rw [length_encodeJournalRecord fits, encodeJournalRecord_of_fits fits,
    List.append_assoc, decodeJournalRecord_ok_iff]
  have labelBytes := read_labelBytes (record.label ++ record.payload ++ rest) fits
  have payloadBytes :=
    read_payloadBytes (record.label ++ record.payload ++ rest) fits
  have headed :
      (sealedHeader record ++
        (record.label ++ record.payload ++ rest)).drop journalHeaderBytes =
        record.label ++ record.payload ++ rest :=
    List.drop_left' (length_sealedHeader record)
  have content :
      record =
        ⟨record.sequence,
          (record.label ++ record.payload ++ rest).take record.label.length,
          ((record.label ++ record.payload ++ rest).drop
            record.label.length).take record.payload.length⟩ := by
    rw [List.append_assoc, List.take_left, List.drop_left, List.take_left]
  have extent :
      (sealedHeader record ++
        (record.label ++ record.payload ++ rest)).length =
        journalHeaderBytes +
          (record.label.length + record.payload.length + rest.length) := by
    rw [List.length_append, List.length_append, List.length_append,
      length_sealedHeader]
  refine
    { header := by omega
      magic := read_magic _ _
      version := read_version _ _
      reserved := ?_
      labelled := by rw [labelBytes]; exact Nat.not_lt.mpr fits.1
      loaded := by rw [payloadBytes]; exact Nat.not_lt.mpr fits.2
      extent := by rw [labelBytes, payloadBytes]; omega
      whole := by omega
      content := ?_
      intact := ?_ }
  · exact not_or.mpr ⟨fun wrong => wrong rfl, not_or.mpr
      ⟨fun wrong => wrong rfl, not_or.mpr
        ⟨fun wrong => wrong rfl, fun wrong => wrong rfl⟩⟩⟩
  · rw [labelBytes, payloadBytes, ← List.drop_drop, headed,
      read_sequence]
    exact content
  · exact (read_checksum _ _).symm

/-- No proper prefix of a record decodes. -/
theorem decode_torn
    {record : JournalRecord}
    (torn : data <+: encodeJournalRecord record)
    (short : data.length < (encodeJournalRecord record).length) :
    ∃ status, decodeJournalRecord data = .error status := by
  have fits : record.Fits := by
    refine fits_of_encode_ne_nil (fun empty => ?_)
    rw [empty] at short
    exact Nat.not_lt_zero _ short
  cases decoded : decodeJournalRecord data with
  | error status => exact ⟨status, rfl⟩
  | ok =>
    -- The header is complete, so it declares the length of the record.
    exfalso
    have frame := decodeJournalRecord_ok_iff.mp decoded
    obtain ⟨lost, whole⟩ := torn
    have headed : data = sealedHeader record ++ data.drop journalHeaderBytes := by
      have front := congrArg (List.take journalHeaderBytes) whole
      rw [encodeJournalRecord_of_fits fits,
        List.take_left' (length_sealedHeader record),
        List.take_append_of_le_length (Nat.not_lt.mp frame.header)] at front
      conv_lhs => rw [← List.take_append_drop journalHeaderBytes data, front]
    have declared := frame.extent
    rw [headed, read_labelBytes _ fits, read_payloadBytes _ fits] at declared
    rw [length_encodeJournalRecord fits] at short
    have bounded := frame.whole
    omega

end TrafficFabric
