import TrafficFabric.Engine.Observation
import TrafficFabric.Engine.Recovery
import TrafficFabric.Engine.Script
import TrafficFabric.Store.Lifetimes

/-!
# Coordinator processes and their epochs

`CoordinatorService::start` recovers the state of its directory, takes the
incarnation after the one it finds, opens its port, and only then writes the
snapshot that makes the new incarnation known.  When that snapshot is complete
before a process ends, all that a later one can load bears its epoch, however
the last write broke off, and the epochs of the processes rise.  A process
that ends before it leaves its epoch to the next.
-/

namespace TrafficFabric

open Foundation Foundation.Frames

variable {tail : Bytes} {files : StoreFiles} {record : JournalRecord}
  {now : Nanos} {epoch : CoordinatorEpoch}

variable {codec : SnapshotCodec}

/-! ## Starting -/

structure CoordinatorConfig where
  policy : PolicySnapshot
  topology : TopologySnapshot
  contracts : List WorkloadContract
  limits : Limits := {}
  identitySeed : UInt64 := 0x5DEECE66D
  dataDirectory : Text

namespace CoordinatorConfig

/-- A first boot is incarnation one. -/
def engine (config : CoordinatorConfig) : EngineConfig where
  policy := config.policy
  topology := config.topology
  contracts := config.contracts
  epoch := ⟨⟨1⟩, ⟨1⟩⟩
  limits := config.limits
  identitySeed := config.identitySeed

def store (config : CoordinatorConfig) : StoreConfig where
  directory := config.dataDirectory
  limits := config.limits

end CoordinatorConfig

/-- A refusal under a note. -/
def noted (note : String) {Value : Type} : Result Value → Result Value
  | .error status => .error ⟨status.code, ascii note ++ status.detail⟩
  | .ok value => .ok value

/-- The engine that goes on from a loaded state, one incarnation later. -/
def Engine.resumeFrom
    (engine : Engine) (now : Nanos) (snapshot : EngineSnapshot) :
    Result Engine := do
  noted "restore refused: " (engine.restore now snapshot).1
  let epoch : CoordinatorEpoch :=
    ⟨⟨snapshot.epoch.incarnation.value + 1⟩, ⟨1⟩⟩
  ((engine.restore now snapshot).2.advanceEpoch now epoch).1
  return ((engine.restore now snapshot).2.advanceEpoch now epoch).2

/-- `start` up to the opening of the port: the engine and the store with which
the process accepts connections. -/
def CoordinatorConfig.boot
    (codec : SnapshotCodec) (config : CoordinatorConfig) (now : Nanos)
    (files : StoreFiles) : Result (Engine × PersistentStore) := do
  let engine := Engine.construct config.engine now
  engine.configStatus
  let store ← PersistentStore.open config.store files none
  if files.hasState then
    let snapshot ← noted "persisted state was refused: "
      (PersistentStore.load codec config.store files).1
    let resumed ← engine.resumeFrom now snapshot
    return (resumed, store)
  else
    return (engine, store)

/-! ## What a directory can be loaded as -/

section

variable {config : StoreConfig} {epoch : CoordinatorEpoch}

/-- The record is whole, and decodes to no state of another epoch. -/
def JournalRecord.Dated
    (codec : SnapshotCodec) (config : StoreConfig) (epoch : CoordinatorEpoch)
    (record : JournalRecord) : Prop :=
  record.Fits ∧
    ∀ state, codec.decode record.payload config.limits = .ok state →
      state.epoch = epoch

/-- Both files hold records of one epoch; the journal may break off inside
its last one. -/
structure StoreFiles.Dated
    (codec : SnapshotCodec) (config : StoreConfig) (epoch : CoordinatorEpoch)
    (files : StoreFiles) (tail : Bytes) : Prop where
  snapshot :
    ∃ record, files.snapshot = some (encodeJournalRecord record) ∧
      record.Dated codec config epoch
  journal :
    ∃ records, files.journal =
        some (stream encodeJournalRecord records ++ tail) ∧
      ∀ record ∈ records, record.Dated codec config epoch
  torn : tail ≠ [] → ∃ status, decodeJournalRecord tail = .error status

/-- Replaying records of one epoch does not leave it. -/
theorem replayJournal_epoch
    {records : List JournalRecord}
    (dated : ∀ record ∈ records, record.Dated codec config epoch)
    (torn : tail ≠ [] → ∃ status, decodeJournalRecord tail = .error status)
    (fuel : Nat) {recovery : Recovery}
    (started : recovery.state.epoch = epoch) :
    (replayJournal codec config fuel
      (stream encodeJournalRecord records ++ tail)
        recovery).state.epoch = epoch := by
  induction fuel generalizing records recovery with
  | zero =>
      exact started
  | succ fuel ih =>
      unfold replayJournal
      split
      · exact started
      · rename_i occupied
        cases records with
        | nil =>
            obtain ⟨status, broken⟩ := torn occupied
            have refused :
                replayRecord codec config recovery
                    (stream encodeJournalRecord [] ++ tail) =
                  .error (ascii "journal tail discarded: " ++ status.toText) := by
              rw [stream_nil, List.nil_append, replayRecord, broken]
            rw [refused]
            exact started
        | cons record records =>
            obtain ⟨fits, own⟩ := dated record List.mem_cons_self
            have decoded := decode_encode_append fits
              (stream encodeJournalRecord records ++ tail)
            rw [stream_cons, List.append_assoc, replayRecord, decoded]
            dsimp only
            split
            · rename_i broken
              exact started
            · rename_i next consumed turn
              split at turn
              · cases turn
              · split at turn
                · cases turn
                · rename_i state read
                  cases turn
                  rw [List.drop_left]
                  exact ih (fun other listed =>
                    dated other (List.mem_cons_of_mem _ listed))
                    (own state read)

/-- A snapshot whose state does not decode cannot be started from. -/
theorem loadSnapshot_undecoded
    {status : Status}
    (present : files.snapshot = some (encodeJournalRecord record))
    (fits : record.Fits)
    (undecoded : codec.decode record.payload config.limits = .error status) :
    ∃ report, loadSnapshot codec config files = .error (status, report) := by
  have read := readFileBytes_ok.mpr ⟨length_encode_le fits, rfl⟩
  have front := decode_encode_append fits []
  rw [List.append_nil] at front
  simp only [loadSnapshot, present, read, front, undecoded, ne_eq,
    not_true_eq_false, if_false]
  exact ⟨_, rfl⟩

/-- Whatever such a directory is loaded as, it is of this epoch. -/
theorem StoreFiles.Dated.load_epoch
    (dated : files.Dated codec config epoch tail) {state : EngineSnapshot}
    (loaded : (PersistentStore.load codec config files).1 = .ok state) :
    state.epoch = epoch := by
  obtain ⟨record, snapshots, fits, own⟩ := dated.snapshot
  obtain ⟨records, journals, dates⟩ := dated.journal
  rcases decoded : codec.decode record.payload config.limits with status | first
  · obtain ⟨report, refused⟩ := loadSnapshot_undecoded snapshots fits decoded
    simp only [PersistentStore.load, refused] at loaded
    cases loaded
  · have started := loadSnapshot_record snapshots fits decoded
    simp only [PersistentStore.load, started, journals] at loaded
    split at loaded
    · cases loaded
    · rename_i raw read
      obtain ⟨_, rfl⟩ := readFileBytes_ok.mp read
      cases loaded
      exact replayJournal_epoch dates dated.torn _ (own first decoded)

/-! ## What a process leaves -/

/-- What is encoded does not come back under another epoch. -/
def KeepsEpochs (codec : SnapshotCodec) (config : StoreConfig) : Prop :=
  ∀ snapshot state,
    codec.decode (codec.encode snapshot config.limits) config.limits =
        .ok state →
      state.epoch = snapshot.epoch

variable {store next : PersistentStore} {snapshot : EngineSnapshot}

theorem dated_of_encoded
    (keeps : KeepsEpochs codec config) (own : snapshot.epoch = epoch)
    {sequence : UInt64} {label : Text}
    (written :
      encodeJournalRecord
          ⟨sequence, label, codec.encode snapshot config.limits⟩ ≠ []) :
    JournalRecord.Dated codec config epoch
      ⟨sequence, label, codec.encode snapshot config.limits⟩ :=
  ⟨fits_of_encode_ne_nil written,
    fun state decoded => (keeps snapshot state decoded).trans own⟩

/-- A write to the journal leaves whole records and perhaps a part of one. -/
theorem dated_write
    (files : StoreFiles) {file written : Option Bytes}
    (records : List JournalRecord) {append : Bool}
    {outcome : WriteOutcome} {result : Result Unit}
    (opened :
      (if append then file.getD [] else []) =
        stream encodeJournalRecord records)
    (before : ∃ records, file = some (stream encodeJournalRecord records) ∧
      ∀ record ∈ records, record.Dated codec config epoch)
    (snapshots :
      ∃ record, files.snapshot = some (encodeJournalRecord record) ∧
        record.Dated codec config epoch)
    (dates : ∀ record ∈ records, record.Dated codec config epoch)
    (own : record.Dated codec config epoch)
    (write :
      writeFileFlushed file (encodeJournalRecord record) append outcome =
        (result, written)) :
    ∃ tail, StoreFiles.Dated codec config epoch
      { files with journal := written } tail := by
  have extended :
      ∀ other ∈ records ++ [record], other.Dated codec config epoch := by
    intro other listed
    rcases List.mem_append.mp listed with earlier | last
    · exact dates other earlier
    · exact List.mem_singleton.mp last ▸ own
  have joined :
      stream encodeJournalRecord (records ++ [record]) =
        stream encodeJournalRecord records ++ encodeJournalRecord record := by
    rw [stream_append, stream_cons, stream_nil, List.append_nil]
  cases outcome with
  | completed =>
      cases write
      refine ⟨[], snapshots, ⟨records ++ [record], ?_, extended⟩,
        fun wrong => absurd rfl wrong⟩
      rw [opened, joined, List.append_nil]
  | unopened =>
      cases write
      obtain ⟨kept, held, old⟩ := before
      refine ⟨[], snapshots, ⟨kept, ?_, old⟩, fun wrong => absurd rfl wrong⟩
      rw [List.append_nil]
      exact held
  | interrupted count =>
      cases write
      rcases Nat.lt_or_ge count (encodeJournalRecord record).length with
        short | long
      · refine ⟨(encodeJournalRecord record).take count, snapshots,
          ⟨records, ?_, dates⟩, fun _ => ?_⟩
        · rw [opened]
        · exact decode_torn (List.take_prefix _ _)
            ((List.length_take_le _ _).trans_lt short)
      · refine ⟨[], snapshots, ⟨records ++ [record], ?_, extended⟩,
          fun wrong => absurd rfl wrong⟩
        rw [opened, joined, List.append_nil, List.take_of_length_le long]

/-- A snapshot that is written from a directory of one epoch leaves it there,
wherever the writing breaks off. -/
theorem persist_dated
    (keeps : KeepsEpochs codec config) (own : snapshot.epoch = epoch)
    (dated : store.files.Dated codec config epoch [])
    (outcome : PersistOutcome) :
    ∃ tail, (store.persist codec config snapshot outcome).2.files.Dated codec
      config epoch tail := by
  have clean :
      ∃ records,
        store.files.journal = some (stream encodeJournalRecord records) ∧
          ∀ record ∈ records, record.Dated codec config epoch := by
    obtain ⟨records, journals, dates⟩ := dated.journal
    exact ⟨records, journals.trans (by rw [List.append_nil]), dates⟩
  unfold PersistentStore.persist
  dsimp only
  split
  · exact ⟨[], dated⟩
  split
  · exact ⟨[], dated⟩
  rename_i written
  have whole := dated_of_encoded keeps own written
  split
  · exact ⟨[], dated.snapshot, dated.journal, dated.torn⟩
  rename_i temporaryWrite
  obtain rfl := writeFileFlushed_ok temporaryWrite
  split
  · rename_i replacement
    cases refusal : outcome.replace with
    | some =>
        rw [refusal] at replacement
        cases replacement
        exact ⟨[], dated.snapshot, dated.journal, dated.torn⟩
    | none =>
        rw [refusal] at replacement
        cases replacement
  rename_i replacement
  obtain rfl := atomicReplace_ok replacement
  have replaced :
      ∃ record,
        some (([] : Bytes) ++ encodeJournalRecord
            ⟨store.sequence + 1, ascii "snapshot",
              codec.encode snapshot config.limits⟩) =
            some (encodeJournalRecord record) ∧
          record.Dated codec config epoch :=
    ⟨_, rfl, whole⟩
  split
  · exact ⟨[], replaced, dated.journal, dated.torn⟩
  rename_i rotated
  split
  · rename_i journalWrite
    exact dated_write { store.files with temporary := none, snapshot := _ } []
      rfl clean replaced (List.forall_mem_nil _)
      (dated_of_encoded keeps own rotated) journalWrite
  · rename_i journalWrite
    exact dated_write { store.files with temporary := none, snapshot := _ } []
      rfl clean replaced (List.forall_mem_nil _)
      (dated_of_encoded keeps own rotated) journalWrite

/-- One more whole record. -/
theorem StoreFiles.Dated.extend
    (dated : files.Dated codec config epoch [])
    (own : record.Dated codec config epoch) :
    StoreFiles.Dated codec config epoch
      { files with
        journal :=
          some (files.journal.getD [] ++ encodeJournalRecord record) } [] := by
  obtain ⟨records, journals, dates⟩ := dated.journal
  refine ⟨dated.snapshot, ⟨records ++ [record], ?_, ?_⟩, dated.torn⟩
  · dsimp only
    rw [journals, Option.getD_some, stream_append, stream_cons, stream_nil,
      List.append_nil, List.append_nil, List.append_nil]
  · intro other listed
    rcases List.mem_append.mp listed with earlier | last
    · exact dates other earlier
    · exact List.mem_singleton.mp last ▸ own

/-- An append to whole records of one epoch leaves the directory there,
wherever it breaks off. -/
theorem append_dated
    (keeps : KeepsEpochs codec config) (own : snapshot.epoch = epoch)
    (dated : store.files.Dated codec config epoch []) (label : Text)
    (outcome : WriteOutcome) (compaction : PersistOutcome) :
    ∃ tail, (store.append codec config label snapshot outcome
      compaction).2.files.Dated codec config epoch tail := by
  obtain ⟨records, journals, dates⟩ := dated.journal
  rw [List.append_nil] at journals
  unfold PersistentStore.append
  dsimp only
  split
  · exact ⟨[], dated⟩
  rename_i written
  have whole := dated_of_encoded keeps own written
  have opened :
      (if true = true then store.files.journal.getD [] else []) =
        stream encodeJournalRecord records := by
    rw [if_pos rfl, journals, Option.getD_some]
  split
  · rename_i journalWrite
    exact dated_write store.files records opened ⟨records, journals, dates⟩
      dated.snapshot dates whole journalWrite
  · rename_i journalWrite
    have grown := writeFileFlushed_ok journalWrite
    rw [if_pos rfl] at grown
    subst grown
    have extended := dated.extend whole
    split
    · exact persist_dated keeps own extended compaction
    · exact ⟨[], extended⟩

/-- A snapshot that was written replaces whatever the directory held. -/
theorem persisted_dated
    (keeps : KeepsEpochs codec config) (own : snapshot.epoch = epoch)
    {outcome : PersistOutcome}
    (persisted :
      store.persist codec config snapshot outcome = (.ok (), next)) :
    next.files.Dated codec config epoch [] := by
  obtain ⟨fits, snapshots, journals, _⟩ := PersistentStore.persist_ok persisted
  have whole (sequence : UInt64) :
      (PersistentStore.snapshotRecord codec config sequence snapshot).Dated
        codec config epoch :=
    ⟨fits, fun state decoded => (keeps snapshot state decoded).trans own⟩
  refine ⟨⟨_, snapshots, whole _⟩,
    ⟨[PersistentStore.snapshotRecord codec config (store.sequence + 1 + 1)
      snapshot], ?_, ?_⟩, fun wrong => absurd rfl wrong⟩
  · exact journals.trans (by
      rw [stream_cons, stream_nil, List.append_nil, List.append_nil])
  · intro record listed
    exact List.mem_singleton.mp listed ▸ whole _

/-- Successful calls keep the records whole. -/
theorem Writes.dated
    (keeps : KeepsEpochs codec config) {calls : List StoreCall}
    {final : PersistentStore}
    (writes : Writes codec config store calls final)
    (own : ∀ call ∈ calls, call.snapshot.epoch = epoch)
    (dated : store.files.Dated codec config epoch []) :
    final.files.Dated codec config epoch [] := by
  induction writes with
  | done =>
      exact dated
  | @appended store next final label snapshot outcome compaction calls
      succeeded later ih =>
      have first : snapshot.epoch = epoch := own _ List.mem_cons_self
      refine ih (fun call listed => own call (List.mem_cons_of_mem _ listed)) ?_
      obtain ⟨fits, shape⟩ := PersistentStore.append_ok succeeded
      split at shape
      · exact persisted_dated keeps first shape
      · rw [shape]
        exact dated.extend ⟨fits,
          fun state decoded => (keeps snapshot state decoded).trans first⟩
  | @persisted store next final snapshot outcome calls succeeded later ih =>
      exact ih (fun call listed => own call (List.mem_cons_of_mem _ listed))
        (persisted_dated keeps (own _ List.mem_cons_self) succeeded)

end

/-! ## Epochs -/

theorem CoordinatorEpoch.lt_trans
    {first second third : CoordinatorEpoch} (earlier : first < second)
    (later : second < third) : first < third := by
  rcases earlier with older | ⟨same, older⟩
  · refine .inl ?_
    rcases later with newer | ⟨equal, _⟩
    · exact UInt64.lt_trans older newer
    · exact equal ▸ older
  · rcases later with newer | ⟨equal, newer⟩
    · exact .inl (same ▸ newer)
    · exact .inr ⟨same.trans equal, UInt64.lt_trans older newer⟩

theorem Engine.restore_epoch
    {engine : Engine} {snapshot : EngineSnapshot}
    (restored : (engine.restore now snapshot).1 = .ok ()) :
    (engine.restore now snapshot).2.epoch = snapshot.epoch := by
  cases accepted : engine.restorable snapshot with
  | error =>
      rw [restore_refused accepted] at restored
      cases restored
  | ok =>
      exact congrArg Takeover.epoch (restore_takeover accepted)

theorem Engine.advanceEpoch_epoch
    {engine : Engine}
    (advanced : (engine.advanceEpoch now epoch).1 = .ok ()) :
    engine.epoch < epoch ∧ (engine.advanceEpoch now epoch).2.epoch = epoch := by
  unfold Engine.advanceEpoch Engine.guarded at advanced ⊢
  by_cases newer : engine.epoch < epoch
  · have allowed :
        refuseWhen (¬engine.epoch < epoch)
            (Status.error .staleEpoch
              "new epoch must be greater than the active epoch") = .ok () :=
      if_neg (not_not.mpr newer)
    rw [allowed]
    refine ⟨newer, @Engine.visit_rule
      (fun reached => reached.epoch = epoch) _ _ ?_ _ rfl⟩
    intro focus _ _ same
    refine Eq.trans ?_ same
    unfold Focus.restart
    split <;> rfl
  · have refused :
        refuseWhen (¬engine.epoch < epoch)
            (Status.error .staleEpoch
              "new epoch must be greater than the active epoch") =
          .error (.error .staleEpoch
            "new epoch must be greater than the active epoch") :=
      if_pos newer
    rw [refused] at advanced
    cases advanced

theorem noted_eq_ok
    {note : String} {Value : Type} {result : Result Value} {value : Value} :
    noted note result = .ok value ↔ result = .ok value := by
  cases result with
  | error => exact ⟨fun wrong => (nomatch wrong), fun wrong => (nomatch wrong)⟩
  | ok => exact Iff.rfl

/-- A process that starts from a directory of one epoch takes a later one. -/
theorem boot_epoch
    {config : CoordinatorConfig}
    {engine : Engine} {store : PersistentStore}
    (booted : config.boot codec now files = .ok (engine, store))
    (dated : files.Dated codec config.store epoch tail) :
    epoch < engine.epoch := by
  have occupied : files.hasState = true := by
    obtain ⟨record, snapshots, _⟩ := dated.snapshot
    rw [StoreFiles.hasState, snapshots]
    rfl
  simp only [CoordinatorConfig.boot, Engine.resumeFrom, occupied, if_true,
    bind_eq_ok, noted_eq_ok] at booted
  obtain ⟨_, _, opened, _, snapshot, loaded, resumed, ⟨_, restored, _,
    advanced, same⟩, returned⟩ := booted
  cases same
  cases returned
  have recovered := Engine.restore_epoch restored
  obtain ⟨rises, taken⟩ := Engine.advanceEpoch_epoch advanced
  rw [recovered] at rises
  rw [taken, ← dated.load_epoch loaded]
  exact rises

/-- A first process starts with the engine of its configuration. -/
theorem boot_empty
    {config : CoordinatorConfig}
    (vacant : files.hasState = false)
    (valid : (Engine.construct config.engine now).configStatus = .ok ())
    (named : config.store.directory ≠ []) :
    config.boot codec now files =
      .ok (Engine.construct config.engine now, { files }) := by
  have opened :
      PersistentStore.open config.store files none = .ok { files } := by
    rw [PersistentStore.open, refuseWhen, if_neg named]
    rfl
  simp only [CoordinatorConfig.boot, valid, opened, vacant, bind, Except.bind,
    Bool.false_eq_true, if_false]
  rfl

/-! ## Serving -/

/-- The permits under which no epoch is adopted. -/
def standingPermits : Permits := { epoch := fun _ => False }

theorem standingPermits_routine : standingPermits.Routine :=
  { Permits.Routine.free with }

theorem Edit.epoch_eq
    {before after : Engine} (edit : Edit standingPermits before after) :
    after.epoch = before.epoch := by
  cases edit with
  | housekeeping _ _ same =>
      exact same.epoch
  | adoptEpoch _ _ permitted =>
      exact permitted.elim
  | prune =>
      exact congrArg Authority.epoch before.pruneHistory_authority
  | enroll =>
      unfold Engine.enroll Engine.indexDeadline
      dsimp only
      split <;> rfl
  | change _ performed =>
      exact performed.framed.engine.epoch
  | _ =>
      rfl

/-- Only a restore and `advance_epoch` move the epoch. -/
theorem Engine.execute_epoch
    (engine : Engine) (now : Nanos) {command : Command}
    (ordinary : ∀ snapshot, command ≠ .restore snapshot)
    (other : ∀ epoch, command ≠ .advanceEpoch epoch) :
    (engine.execute now command).2.epoch = engine.epoch := by
  have edits := Engine.execute_edits standingPermits_routine engine now
    command (Permits.Grounds.allow
      { Permits.Grounds.free engine now command with
        epoch := fun epoch same => absurd same (other epoch) } ordinary)
  exact @reflTransGen_preserves _ _
    (fun reached => reached.epoch = engine.epoch)
    (fun _ _ edit same => edit.epoch_eq.trans same) _ _ edits rfl

/-- The commands that the connections of a process can issue: only its start
restores a state and takes an epoch. -/
def Event.served : Event → Bool
  | .call _ (.restore _) _ => false
  | .call _ (.advanceEpoch _) _ => false
  | _ => true

/-- The states that a process writes are those of its engine after commands
that it has served. -/
def Engine.Serves (engine : Engine) (snapshot : EngineSnapshot) : Prop :=
  ∃ history reached,
    Run (fun before event after =>
        Step before event after ∧ event.served = true)
      engine history reached ∧
      snapshot = reached.exportSnapshot

/-- They bear the epoch of the process. -/
theorem Engine.Serves.epoch_eq
    {engine : Engine} {snapshot : EngineSnapshot}
    (serves : engine.Serves snapshot) : snapshot.epoch = engine.epoch := by
  obtain ⟨history, reached, run, rfl⟩ := serves
  change reached.epoch = engine.epoch
  refine @Run.invariant _ _ _ _ (fun state => state.epoch = engine.epoch)
    rfl ?_ _ _ run
  rintro before event after ⟨step, served⟩ same
  cases step with
  | call now command =>
      refine (before.execute_epoch now ?_ ?_).trans same
      · rintro snapshot rfl
        cases served
      · rintro epoch rfl
        cases served
  | rehash =>
      exact same

/-! ## Processes on one directory -/

/-- How the writes of a process end: between two calls, or inside one. -/
inductive Ending
    (codec : SnapshotCodec) (config : StoreConfig) (engine : Engine)
    (store : PersistentStore) : StoreFiles → Prop
  | idle : Ending codec config engine store store.files
  | appending
      {label : Text} {snapshot : EngineSnapshot}
      (own : engine.Serves snapshot) (outcome : WriteOutcome)
      (compaction : PersistOutcome) :
      Ending codec config engine store
        (store.append codec config label snapshot outcome compaction).2.files
  | persisting
      {snapshot : EngineSnapshot} (own : engine.Serves snapshot)
      (outcome : PersistOutcome) :
      Ending codec config engine store
        (store.persist codec config snapshot outcome).2.files

/--
Processes that accept connections one after another on a directory, with the
epochs under which they do.  A process that ends before it opens its port
writes nothing.  One that has opened it may handle commands before it writes
the boot snapshot; the states that it writes are those its engine reaches by
the commands it serves.  Whether a process may end before that snapshot is
complete is a parameter.
-/
inductive Processes
    (codec : SnapshotCodec) (config : CoordinatorConfig) (hasty : Prop) :
    StoreFiles → List CoordinatorEpoch → StoreFiles → Prop
  | done (files : StoreFiles) : Processes codec config hasty files [] files
  | unannounced
      {files left final : StoreFiles} {now : Nanos} {engine : Engine}
      {store : PersistentStore} {epochs : List CoordinatorEpoch}
      (allowed : hasty)
      (booted : config.boot codec now files = .ok (engine, store))
      (ending : Ending codec config.store engine store left)
      (later : Processes codec config hasty left epochs final) :
      Processes codec config hasty files (engine.epoch :: epochs) final
  | announced
      {files left final : StoreFiles} {now : Nanos} {engine : Engine}
      {store ready known last : PersistentStore}
      {early calls : List StoreCall} {snapshot : EngineSnapshot}
      {outcome : PersistOutcome} {epochs : List CoordinatorEpoch}
      (booted : config.boot codec now files = .ok (engine, store))
      (before : Writes codec config.store store early ready)
      (present : engine.Serves snapshot)
      (boot :
        ready.persist codec config.store snapshot outcome = (.ok (), known))
      (own : ∀ call ∈ calls, engine.Serves call.snapshot)
      (after : Writes codec config.store known calls last)
      (ending : Ending codec config.store engine last left)
      (later : Processes codec config hasty left epochs final) :
      Processes codec config hasty files (engine.epoch :: epochs) final

theorem Ending.dated
    {config : StoreConfig}
    {store : PersistentStore}
    {engine : Engine} (ending : Ending codec config engine store files)
    (keeps : KeepsEpochs codec config)
    (dated : store.files.Dated codec config engine.epoch []) :
    ∃ tail, files.Dated codec config engine.epoch tail := by
  cases ending with
  | idle => exact ⟨[], dated⟩
  | appending own outcome compaction =>
      exact append_dated keeps own.epoch_eq dated _ outcome compaction
  | persisting own outcome =>
      exact persist_dated keeps own.epoch_eq dated outcome

/-- The epochs rise, and from a directory of one epoch they all follow it. -/
theorem Processes.rise
    {config : CoordinatorConfig} (keeps : KeepsEpochs codec config.store)
    {final : StoreFiles} {epochs : List CoordinatorEpoch}
    (processes : Processes codec config False files epochs final) :
    epochs.Pairwise (· < ·) ∧
      ∀ epoch tail, files.Dated codec config.store epoch tail →
        ∀ later ∈ epochs, epoch < later := by
  induction processes with
  | done =>
      exact ⟨.nil, fun _ _ _ _ listed => (nomatch listed)⟩
  | unannounced allowed =>
      exact allowed.elim
  | @announced files left final now engine store ready known last early calls
      snapshot outcome epochs booted before present boot own after ending
      later ih =>
      obtain ⟨tail, dated⟩ := ending.dated keeps
        (after.dated keeps (fun call made => (own call made).epoch_eq)
          (persisted_dated keeps present.epoch_eq boot))
      have following := ih.2 engine.epoch tail dated
      refine ⟨.cons following ih.1, ?_⟩
      intro epoch tail earlier other listed
      have first := boot_epoch booted earlier
      rcases List.mem_cons.mp listed with rfl | further
      · exact first
      · exact CoordinatorEpoch.lt_trans first (following other further)

namespace Sample

/-- A codec for states that have only an epoch. -/
def epochCodec : SnapshotCodec where
  encode snapshot _ :=
    bigEndian64 snapshot.epoch.incarnation.value ++
      bigEndian64 snapshot.epoch.term.value
  decode data _ :=
    .ok { epoch := ⟨⟨readWord64 data 0⟩, ⟨readWord64 data 8⟩⟩ }

theorem epochCodec_keepsEpochs (config : StoreConfig) :
    KeepsEpochs epochCodec config := by
  intro snapshot state decoded
  cases decoded
  have incarnation :
      readWord64 (epochCodec.encode snapshot config.limits) 0 =
        snapshot.epoch.incarnation.value :=
    readWord64_eq rfl
  have term :
      readWord64 (epochCodec.encode snapshot config.limits) 8 =
        snapshot.epoch.term.value :=
    readWord64_eq
      (rfl : _ = bigEndian64 snapshot.epoch.term.value ++ [])
  dsimp only
  rw [incarnation, term]

def coordinatorConfig : CoordinatorConfig where
  policy := config.policy
  topology := config.topology
  contracts := config.contracts
  limits := config.limits
  identitySeed := config.identitySeed
  dataDirectory := ascii "data"

theorem coordinatorConfig_boots :
    coordinatorConfig.boot epochCodec 0 {} =
      .ok (Engine.construct coordinatorConfig.engine 0, { files := {} }) :=
  boot_empty rfl (by decide +kernel) (by decide)

/-- What the first process leaves behind. -/
def announcedStore : PersistentStore :=
  (PersistentStore.persist epochCodec coordinatorConfig.store { files := {} }
    (Engine.construct coordinatorConfig.engine 0).exportSnapshot {}).2

end Sample

end TrafficFabric
