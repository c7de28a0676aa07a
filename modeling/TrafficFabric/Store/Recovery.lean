import TrafficFabric.Foundation.Frames
import TrafficFabric.Store.Persistence

/-!
# What recovery makes of a journal

`persist` and `append` say which records they leave in the two files, and
`load` replays such records: after records that fit, rise in sequence and
decode, the loop stands before whatever follows them with the state of the
last.  What follows is either nothing or is discarded as a whole.
-/

namespace TrafficFabric

open Foundation Foundation.Frames

variable {outcome : WriteOutcome} {files : StoreFiles}
  {store next : PersistentStore} {snapshot state : EngineSnapshot}
  {recovery : Recovery} {record : JournalRecord}
  {entries : List (JournalRecord × EngineSnapshot)} {tail : Bytes}

variable {codec : SnapshotCodec} {config : StoreConfig}

/-! ## Writing -/

/-- The two records that `persist` writes. -/
def PersistentStore.snapshotRecord
    (codec : SnapshotCodec) (config : StoreConfig) (sequence : UInt64)
    (snapshot : EngineSnapshot) : JournalRecord :=
  ⟨sequence, ascii "snapshot", codec.encode snapshot config.limits⟩

theorem writeFileFlushed_ok
    {file written : Option Bytes} {data : Bytes} {append : Bool}
    (success :
      writeFileFlushed file data append outcome = (.ok (), written)) :
    written = some ((if append then file.getD [] else []) ++ data) := by
  cases outcome with
  | completed => exact ((Prod.mk.inj success).2).symm
  | unopened => cases success
  | interrupted => cases success

theorem atomicReplace_ok
    {replaced : StoreFiles} {refusal : Option Status}
    (success : atomicReplace files refusal = (.ok (), replaced)) :
    replaced =
      { files with temporary := none, snapshot := files.temporary } := by
  cases refusal with
  | some => cases success
  | none => exact ((Prod.mk.inj success).2).symm

/-- A successful `persist` leaves one record in each file. -/
theorem PersistentStore.persist_ok
    {outcome : PersistOutcome}
    (success :
      store.persist codec config snapshot outcome = (.ok (), next)) :
    (snapshotRecord codec config (store.sequence + 1) snapshot).Fits ∧
      next.files.snapshot =
        some
          (encodeJournalRecord
            (snapshotRecord codec config (store.sequence + 1) snapshot)) ∧
      next.files.journal =
        some
          (encodeJournalRecord
            (snapshotRecord codec config (store.sequence + 1 + 1)
              snapshot)) ∧
      next.sequence = store.sequence + 1 + 1 := by
  unfold persist at success
  dsimp only at success
  split at success
  · cases success
  split at success
  · cases success
  rename_i written
  split at success
  · cases success
  rename_i temporaryWrite
  split at success
  · cases success
  rename_i replacement
  split at success
  · cases success
  split at success
  · cases success
  rename_i journalWrite
  obtain rfl := writeFileFlushed_ok temporaryWrite
  obtain rfl := atomicReplace_ok replacement
  obtain rfl := writeFileFlushed_ok journalWrite
  obtain rfl := (Prod.mk.inj success).2
  exact ⟨fits_of_encode_ne_nil written, rfl, rfl, rfl⟩

/-- Whether an append crosses a bound of the journal. -/
def PersistentStore.Compacts
    (codec : SnapshotCodec) (config : StoreConfig)
    (store : PersistentStore) (label : Text) (snapshot : EngineSnapshot) :
    Prop :=
  (store.extended
    (encodeJournalRecord (store.nextRecord codec config label snapshot))
    store.files.journal).Overgrown config

instance
    (store : PersistentStore) (label : Text) (snapshot : EngineSnapshot) :
    Decidable (store.Compacts codec config label snapshot) :=
  inferInstanceAs (Decidable (PersistentStore.Overgrown _ _))

/-- A successful append adds its record, and compacts when it must. -/
theorem PersistentStore.append_ok
    {label : Text}
    {compaction : PersistOutcome}
    (success :
      store.append codec config label snapshot outcome compaction =
        (.ok (), next)) :
    (store.nextRecord codec config label snapshot).Fits ∧
      if store.Compacts codec config label snapshot then
        (store.extended
          (encodeJournalRecord
            (store.nextRecord codec config label snapshot))
          (some
            (store.files.journal.getD [] ++
              encodeJournalRecord
                (store.nextRecord codec config label snapshot)))).persist
            codec config snapshot compaction =
          (.ok (), next)
      else
        next =
          store.extended
            (encodeJournalRecord
              (store.nextRecord codec config label snapshot))
            (some
              (store.files.journal.getD [] ++
                encodeJournalRecord
                  (store.nextRecord codec config label snapshot))) := by
  unfold append at success
  dsimp only at success
  split at success
  · cases success
  rename_i written
  refine ⟨fits_of_encode_ne_nil written, ?_⟩
  split at success
  · cases success
  rename_i journalWrite
  have grown := writeFileFlushed_ok journalWrite
  rw [if_pos rfl] at grown
  subst grown
  split at success
  · rename_i overgrown
    rw [if_pos (show store.Compacts codec config label snapshot from overgrown)]
    exact success
  · rename_i small
    rw [if_neg (show ¬store.Compacts codec config label snapshot from small)]
    exact ((Prod.mk.inj success).2).symm

/-! ## Replaying -/

/-- Records that the replay loop accepts one after the other. -/
def Readable
    (codec : SnapshotCodec) (config : StoreConfig) (last : UInt64) :
    List (JournalRecord × EngineSnapshot) → Prop
  | [] => True
  | (record, state) :: entries =>
      (record.Fits ∧ last < record.sequence ∧
        codec.decode record.payload config.limits = .ok state) ∧
        Readable codec config record.sequence entries

/-- The bytes of such records. -/
def entryStream (entries : List (JournalRecord × EngineSnapshot)) : Bytes :=
  stream encodeJournalRecord (entries.map Prod.fst)

/-- The recovery after all of them. -/
def Recovery.applyAll
    (recovery : Recovery)
    (entries : List (JournalRecord × EngineSnapshot)) : Recovery :=
  entries.foldl (fun reached entry => reached.apply entry.1.sequence entry.2)
    recovery

@[simp]
theorem Recovery.applyAll_cons
    (recovery : Recovery) (record : JournalRecord) (state : EngineSnapshot)
    (entries : List (JournalRecord × EngineSnapshot)) :
    recovery.applyAll ((record, state) :: entries) =
      (recovery.apply record.sequence state).applyAll entries :=
  rfl

theorem Recovery.applyAll_state
    (recovery : Recovery)
    (entries : List (JournalRecord × EngineSnapshot)) :
    (recovery.applyAll entries).state =
      (entries.map Prod.snd).getLastD recovery.state := by
  induction entries generalizing recovery with
  | nil => rfl
  | cons entry _ applied =>
    obtain ⟨record, state⟩ := entry
    rw [applyAll_cons, applied, List.map_cons, List.getLastD_cons]
    rfl

/-- Applying a record leaves the marks of a torn tail alone. -/
theorem Recovery.applyAll_report
    (recovery : Recovery)
    (entries : List (JournalRecord × EngineSnapshot)) :
    (recovery.applyAll entries).report.tornTail =
        recovery.report.tornTail ∧
      (recovery.applyAll entries).report.discardedBytes =
        recovery.report.discardedBytes := by
  induction entries generalizing recovery with
  | nil => exact ⟨rfl, rfl⟩
  | cons entry _ applied =>
    exact applied (recovery.apply entry.1.sequence entry.2)

theorem replayRecord_encoded
    (fits : record.Fits) (rises : recovery.lastSequence < record.sequence)
    (decoded : codec.decode record.payload config.limits = .ok state)
    (rest : Bytes) :
    replayRecord codec config recovery (encodeJournalRecord record ++ rest) =
      .ok
        (recovery.apply record.sequence state,
          (encodeJournalRecord record).length) := by
  have fresh : ¬record.sequence ≤ recovery.lastSequence :=
    UInt64.not_le.mpr rises
  simp only [replayRecord, decode_encode_append fits, if_neg fresh, decoded]

theorem replayJournal_nil (fuel : Nat) (recovery : Recovery) :
    replayJournal codec config fuel [] recovery = recovery := by
  cases fuel with
  | zero => rfl
  | succ => exact if_pos rfl

/-- Readable records are applied, whatever stands behind them. -/
theorem replayJournal_entries
    (readable : Readable codec config recovery.lastSequence entries)
    (tail : Bytes) (fuel : Nat) :
    replayJournal codec config (entries.length + fuel)
        (entryStream entries ++ tail) recovery =
      replayJournal codec config fuel tail (recovery.applyAll entries) := by
  induction entries generalizing recovery with
  | nil =>
    rw [List.length_nil, Nat.zero_add]
    rfl
  | cons entry entries replayed =>
    obtain ⟨record, state⟩ := entry
    obtain ⟨⟨fits, rises, decoded⟩, later⟩ := readable
    have bytes :
        entryStream ((record, state) :: entries) ++ tail =
          encodeJournalRecord record ++ (entryStream entries ++ tail) :=
      List.append_assoc _ _ _
    have occupied :
        encodeJournalRecord record ++ (entryStream entries ++ tail) ≠ [] := by
      intro empty
      have counted := congrArg List.length empty
      rw [List.length_append, length_encodeJournalRecord fits,
        journalHeaderBytes] at counted
      simp only [List.length_nil] at counted
      omega
    rw [List.length_cons, Nat.add_right_comm, bytes, replayJournal,
      if_neg occupied, replayRecord_encoded fits rises decoded]
    dsimp only
    rw [List.drop_left, Recovery.applyAll_cons]
    exact replayed later

/-- Bytes that do not decode are discarded together. -/
theorem replayJournal_torn
    {status : Status}
    (occupied : tail ≠ [])
    (torn : decodeJournalRecord tail = .error status) (fuel : Nat) :
    replayJournal codec config (fuel + 1) tail recovery =
      recovery.discard tail
        (ascii "journal tail discarded: " ++ status.toText) := by
  rw [replayJournal, if_neg occupied, replayRecord, torn]

/-- Every readable record takes a byte at least. -/
theorem Readable.length_le
    {last : UInt64}
    (readable : Readable codec config last entries) :
    entries.length ≤ (entryStream entries).length := by
  induction entries generalizing last with
  | nil => exact Nat.le_refl 0
  | cons entry entries counted =>
    obtain ⟨record, state⟩ := entry
    obtain ⟨⟨fits, _, _⟩, later⟩ := readable
    have rest := counted later
    have front := length_encodeJournalRecord fits
    have split :
        (entryStream ((record, state) :: entries)).length =
          (encodeJournalRecord record).length +
            (entryStream entries).length :=
      List.length_append
    rw [journalHeaderBytes] at front
    rw [split, List.length_cons]
    omega

/-! ## Loading -/

/-- A file of one record is never too long to be read. -/
theorem length_encode_le (fits : record.Fits) :
    (encodeJournalRecord record).length ≤ maxFileBytes := by
  have labelled : record.label.length ≤ 64 := fits.1
  have loaded : record.payload.length ≤ maxPayloadBytes := fits.2
  rw [length_encodeJournalRecord fits]
  unfold maxFileBytes journalHeaderBytes
  generalize maxPayloadBytes = bound at loaded ⊢
  omega

theorem readFileBytes_ok {file raw : Bytes} :
    readFileBytes file = .ok raw ↔
      file.length ≤ maxFileBytes ∧ raw = file := by
  unfold readFileBytes
  simp only [bind_eq_ok, refuseWhen_eq_ok, Nat.not_lt]
  constructor
  · rintro ⟨_, bounded, read⟩
    cases read
    exact ⟨bounded, rfl⟩
  · rintro ⟨bounded, rfl⟩
    exact ⟨(), bounded, rfl⟩

/-- A snapshot file that holds one readable record is taken over. -/
theorem loadSnapshot_record
    (present : files.snapshot = some (encodeJournalRecord record))
    (fits : record.Fits)
    (decoded : codec.decode record.payload config.limits = .ok state) :
    loadSnapshot codec config files =
      .ok
        ⟨state, record.sequence,
          { snapshotPresent := true
            snapshotSequence := record.sequence }⟩ := by
  have read := readFileBytes_ok.mpr ⟨length_encode_le fits, rfl⟩
  have front := decode_encode_append fits []
  rw [List.append_nil] at front
  simp only [loadSnapshot, present, read, front, decoded, ne_eq,
    not_true_eq_false, if_false]

/-- `load` replays the journal from what the snapshot gave. -/
theorem load_replays
    (started : loadSnapshot codec config files = .ok recovery)
    (present : files.journal = some (entryStream entries ++ tail))
    (bounded : (entryStream entries ++ tail).length ≤ maxFileBytes)
    (readable : Readable codec config recovery.lastSequence entries) :
    PersistentStore.load codec config files =
      let ended :=
        replayJournal codec config
          ((entryStream entries ++ tail).length - entries.length) tail
          ({ recovery with
              report :=
                { recovery.report with
                    journalPresent := true } }.applyAll entries)
      (.ok ended.state, ended.report) := by
  have read := readFileBytes_ok.mpr ⟨bounded, rfl⟩
  have enough : entries.length ≤ (entryStream entries ++ tail).length := by
    rw [List.length_append]
    exact Nat.le_add_right_of_le readable.length_le
  simp only [PersistentStore.load, started, present, read]
  conv_lhs =>
    rw [← Nat.add_sub_of_le enough]
  rw [replayJournal_entries]
  exact readable

end TrafficFabric
