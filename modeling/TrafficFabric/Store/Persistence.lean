import TrafficFabric.Engine.Snapshot
import TrafficFabric.Store.Journal

/-!
# The persistent store

`PersistentStore` keeps one engine state in two files.  `persist` writes a
snapshot beside the old one, renames it into place and starts the journal
anew; `append` adds a record to the journal, and compacts once the journal is
too long.  Every record carries a complete state and the next sequence
number.  `load` reads the snapshot and then the journal, as far as its records
decode and their sequence numbers rise.

What the file system does with a write is an argument: it completes, or it
fails after some of the bytes.  The codec of engine states is a parameter.
-/

namespace TrafficFabric

open Foundation

/-- `encode_snapshot` and `decode_snapshot`. -/
structure SnapshotCodec where
  encode : EngineSnapshot → Limits → Bytes
  decode : Bytes → Limits → Result EngineSnapshot

structure StoreConfig where
  directory : Text := []
  limits : Limits := {}
  maxJournalBytes : UInt64 := 4194304
  maxJournalRecords : UInt32 := 2048

/-- The files of a store directory that exist. -/
structure StoreFiles where
  /-- `fabric.snapshot.tmp` -/
  temporary : Option Bytes := none
  /-- `fabric.snapshot` -/
  snapshot : Option Bytes := none
  /-- `fabric.journal` -/
  journal : Option Bytes := none
deriving DecidableEq

/-- An open store: its directory and the counters of the instance. -/
structure PersistentStore where
  files : StoreFiles
  sequence : UInt64 := 0
  journalRecords : UInt32 := 0
  journalBytes : UInt64 := 0
deriving DecidableEq

/-! ## File primitives -/

/-- What becomes of a flushed write. -/
inductive WriteOutcome where
  | completed
  | unopened (status : Status)
  | interrupted (written : Nat) (status : Status)

/-- What becomes of the writes of `persist`. -/
structure PersistOutcome where
  temporary : WriteOutcome := .completed
  replace : Option Status := none
  journal : WriteOutcome := .completed

/-- `write_file_flushed`: opening for writing empties the file. -/
def writeFileFlushed
    (file : Option Bytes) (data : Bytes) (append : Bool) :
    WriteOutcome → Result Unit × Option Bytes
  | .completed =>
      (.ok (), some ((if append then file.getD [] else []) ++ data))
  | .unopened status => (.error status, file)
  | .interrupted written status =>
      (.error status,
        some ((if append then file.getD [] else []) ++ data.take written))

/-- `atomic_replace` of the snapshot by the temporary file. -/
def atomicReplace (files : StoreFiles) :
    Option Status → Result Unit × StoreFiles
  | some status => (.error status, files)
  | none =>
      (.ok (), { files with temporary := none, snapshot := files.temporary })

/-- The longest file that is read. -/
def maxFileBytes : Nat := maxPayloadBytes + 4096

/-- `read_file_bytes` of a file that exists. -/
def readFileBytes (file : Bytes) : Result Bytes := do
  refuseWhen (maxFileBytes < file.length)
    (.error .payloadTooLarge
      "persisted file exceeds the maximum supported size")
  return file

/-! ## Writing -/

/-- `open` over the files of a directory; the file system may refuse it. -/
def PersistentStore.open
    (config : StoreConfig) (files : StoreFiles) (refusal : Option Status) :
    Result PersistentStore := do
  refuseWhen (config.directory = [])
    (.error .invalidArgument "store directory must not be empty")
  match refusal with
  | some status => .error status
  | none => return { files }

variable (codec : SnapshotCodec) (config : StoreConfig)

/-- `persist` -/
def PersistentStore.persist
    (store : PersistentStore) (snapshot : EngineSnapshot)
    (outcome : PersistOutcome) : Result Unit × PersistentStore :=
  let store := { store with sequence := store.sequence + 1 }
  let record : JournalRecord :=
    ⟨store.sequence, ascii "snapshot", codec.encode snapshot config.limits⟩
  if record.payload = [] ∧ snapshot.sessions ≠ [] then
    (.error (.error .internal "snapshot encoding produced an empty payload"),
      store)
  else if encodeJournalRecord record = [] then
    (.error (.error .internal "journal encoding failed"), store)
  else
    match
      writeFileFlushed store.files.temporary (encodeJournalRecord record)
        false outcome.temporary
    with
    | (.error status, temporary) =>
        (.error status,
          { store with files := { store.files with temporary } })
    | (.ok _, temporary) =>
      match atomicReplace { store.files with temporary } outcome.replace with
      | (.error status, files) => (.error status, { store with files })
      | (.ok _, files) =>
        let store := { store with files, sequence := store.sequence + 1 }
        -- The journal starts anew with the same state under the next number.
        let rotated : JournalRecord :=
          ⟨store.sequence, ascii "snapshot", record.payload⟩
        if encodeJournalRecord rotated = [] then
          (.error (.error .internal "journal encoding failed"), store)
        else
          match
            writeFileFlushed files.journal (encodeJournalRecord rotated)
              false outcome.journal
          with
          | (.error status, journal) =>
              (.error status, { store with files := { files with journal } })
          | (.ok _, journal) =>
              (.ok (),
                { store with
                    files := { files with journal }
                    journalRecords := 1
                    journalBytes :=
                      (encodeJournalRecord rotated).length.toUInt64 })

/-- The record that `append` writes. -/
def PersistentStore.nextRecord
    (store : PersistentStore) (label : Text) (snapshot : EngineSnapshot) :
    JournalRecord :=
  ⟨store.sequence + 1, label, codec.encode snapshot config.limits⟩

/-- The journal has outgrown a bound of the configuration. -/
def PersistentStore.Overgrown (store : PersistentStore) : Prop :=
  config.maxJournalBytes < store.journalBytes ∨
    config.maxJournalRecords < store.journalRecords

instance (store : PersistentStore) : Decidable (store.Overgrown config) :=
  inferInstanceAs (Decidable (_ ∨ _))

/-- The store after a record of this length has been written. -/
def PersistentStore.extended
    (store : PersistentStore) (encoded : Bytes) (journal : Option Bytes) :
    PersistentStore :=
  { files := { store.files with journal }
    sequence := store.sequence + 1
    journalRecords := store.journalRecords + 1
    journalBytes := store.journalBytes + encoded.length.toUInt64 }

/-- `append`, which compacts when the journal is overgrown. -/
def PersistentStore.append
    (store : PersistentStore) (label : Text) (snapshot : EngineSnapshot)
    (outcome : WriteOutcome) (compaction : PersistOutcome) :
    Result Unit × PersistentStore :=
  let encoded :=
    encodeJournalRecord (store.nextRecord codec config label snapshot)
  if encoded = [] then
    -- The number taken for the record is given back.
    (.error (.error .internal "journal encoding failed"), store)
  else
    match writeFileFlushed store.files.journal encoded true outcome with
    | (.error status, journal) =>
        (.error status,
          { store with
              files := { store.files with journal }
              sequence := store.sequence + 1 })
    | (.ok _, journal) =>
        let store := store.extended encoded journal
        if store.Overgrown config then
          store.persist codec config snapshot compaction
        else
          (.ok (), store)

/-! ## Reading -/

/-- What recovery observed. -/
structure LoadReport where
  snapshotPresent : Bool := false
  journalPresent : Bool := false
  tornTail : Bool := false
  corruptPrefix : Bool := false
  versionMismatch : Bool := false
  snapshotSequence : UInt64 := 0
  journalRecordsApplied : Nat := 0
  discardedBytes : Nat := 0
  notes : List Text := []
deriving DecidableEq

/-- The local variables of the replay loop. -/
structure Recovery where
  state : EngineSnapshot := {}
  lastSequence : UInt64 := 0
  report : LoadReport := {}

/-- The journal ends here as far as recovery is concerned. -/
def Recovery.discard
    (recovery : Recovery) (rest : Bytes) (note : Text) : Recovery :=
  { recovery with
      report :=
        { recovery.report with
            tornTail := true
            discardedBytes := recovery.report.discardedBytes + rest.length
            notes := recovery.report.notes ++ [note] } }

/-- The state of one more record is taken over. -/
def Recovery.apply
    (recovery : Recovery) (sequence : UInt64) (state : EngineSnapshot) :
    Recovery :=
  { state
    lastSequence := sequence
    report :=
      { recovery.report with
          journalRecordsApplied :=
            recovery.report.journalRecordsApplied + 1 } }

/--
One turn of the replay loop: the recovery after the record in front and the
bytes that it took, or the note under which the rest is discarded.
-/
def replayRecord (recovery : Recovery) (rest : Bytes) :
    Except Text (Recovery × Nat) :=
  match decodeJournalRecord rest with
  | .error status =>
      .error (ascii "journal tail discarded: " ++ status.toText)
  | .ok (record, consumed) =>
    if record.sequence ≤ recovery.lastSequence then
      .error
        (ascii
          "journal repeats or rewinds a sequence number; tail discarded")
    else
      match codec.decode record.payload config.limits with
      | .error status =>
          .error
            (ascii "journal record '" ++ record.label ++
              ascii "' rejected: " ++ status.toText)
      | .ok state => .ok (recovery.apply record.sequence state, consumed)

/-- The replay loop.  Every turn that goes on consumes a header at least. -/
def replayJournal : Nat → Bytes → Recovery → Recovery
  | 0, _, recovery => recovery
  | fuel + 1, rest, recovery =>
    if rest = [] then
      recovery
    else
      match replayRecord codec config recovery rest with
      | .error note => recovery.discard rest note
      | .ok (next, consumed) => replayJournal fuel (rest.drop consumed) next

/--
The snapshot part of `load`: the recovery it starts from, or the failure and
the report that the caller then sees.
-/
def loadSnapshot (files : StoreFiles) :
    Except (Status × LoadReport) Recovery :=
  match files.snapshot with
  | none => .ok {}
  | some file =>
    let report : LoadReport := { snapshotPresent := true }
    match readFileBytes file with
    -- A file that cannot be read leaves the caller's report as it was.
    | .error status => .error (status, {})
    | .ok raw =>
      match decodeJournalRecord raw with
      | .error status =>
          .error
            (status,
              { report with
                  corruptPrefix := true
                  versionMismatch := status.code = .versionIncompatible
                  notes :=
                    [ascii "snapshot rejected: " ++ status.toText] })
      | .ok (record, consumed) =>
        if consumed ≠ raw.length then
          .error
            (.error .trailingGarbage "snapshot has trailing bytes",
              { report with
                  corruptPrefix := true
                  notes :=
                    [ascii "snapshot has trailing bytes after its record"] })
        else
          let report := { report with snapshotSequence := record.sequence }
          match codec.decode record.payload config.limits with
          | .error status =>
              .error
                (status,
                  { report with
                      corruptPrefix := true
                      versionMismatch := status.code = .versionIncompatible
                      notes :=
                        [ascii "snapshot payload rejected: " ++
                          status.toText] })
          | .ok state => .ok ⟨state, record.sequence, report⟩

/-- `load`: the state, and the report that the caller finds. -/
def PersistentStore.load (files : StoreFiles) :
    Result EngineSnapshot × LoadReport :=
  match loadSnapshot codec config files with
  | .error (status, report) => (.error status, report)
  | .ok recovery =>
    match files.journal with
    | none =>
        if recovery.report.snapshotPresent then
          (.ok recovery.state, recovery.report)
        else
          (.error (.error .notFound "no persisted state"), recovery.report)
    | some file =>
      match readFileBytes file with
      | .error status => (.error status, {})
      | .ok raw =>
        let started :=
          { recovery with
              report := { recovery.report with journalPresent := true } }
        let ended := replayJournal codec config raw.length raw started
        (.ok ended.state, ended.report)

end TrafficFabric
