import TrafficFabric.Store.Faults

/-!
# Process lifetimes

A process opens the directory, appends and persists, and ends; the next one
opens what it left.  Opening restarts the numbering, and recovery stops at the
first number that does not rise.  So a process that appends behind the records
of an earlier one is not heard, while one that persists first starts both
files anew.  Within a lifetime the records rise, and the only obstacle left is
the length of the journal: it may grow beyond what is read back.
-/

namespace TrafficFabric

open Foundation Foundation.Frames

variable {files : StoreFiles} {journal : Bytes}
  {store final closed : PersistentStore} {state : EngineSnapshot}
  {kept : Option EngineSnapshot} {commands : UInt64}

variable {codec : SnapshotCodec} {config : StoreConfig}

/-! ## Calls of one instance -/

inductive StoreCall where
  | append (label : Text) (snapshot : EngineSnapshot)
  | persist (snapshot : EngineSnapshot)

/-- The state passed to a call. -/
def StoreCall.snapshot : StoreCall → EngineSnapshot
  | .append _ snapshot => snapshot
  | .persist snapshot => snapshot

/-- Calls of one instance that all return success. -/
inductive Writes (codec : SnapshotCodec) (config : StoreConfig) :
    PersistentStore → List StoreCall → PersistentStore → Prop
  | done (store : PersistentStore) : Writes codec config store [] store
  | appended
      {store next final : PersistentStore} {label : Text}
      {snapshot : EngineSnapshot} {outcome : WriteOutcome}
      {compaction : PersistOutcome} {calls : List StoreCall}
      (succeeded :
        store.append codec config label snapshot outcome compaction =
          (.ok (), next))
      (later : Writes codec config next calls final) :
      Writes codec config store (.append label snapshot :: calls) final
  | persisted
      {store next final : PersistentStore} {snapshot : EngineSnapshot}
      {outcome : PersistOutcome} {calls : List StoreCall}
      (succeeded :
        store.persist codec config snapshot outcome = (.ok (), next))
      (later : Writes codec config next calls final) :
      Writes codec config store (.persist snapshot :: calls) final

/-- The states passed to some calls survive the codec. -/
def RoundTrips
    (codec : SnapshotCodec) (config : StoreConfig)
    (calls : List StoreCall) : Prop :=
  ∀ call ∈ calls,
    codec.decode (codec.encode call.snapshot config.limits) config.limits =
      .ok call.snapshot

/-- Recovery reads the whole directory and ends with this state. -/
def PersistentStore.Returns
    (codec : SnapshotCodec) (config : StoreConfig)
    (store : PersistentStore) (state : EngineSnapshot) : Prop :=
  ∃ recovery entries,
    store.Reads codec config recovery entries [] ∧
      (entries.map Prod.snd).getLastD recovery.state = state

/-- A journal that is too long is not read at all. -/
theorem load_unread
    {recovery : Recovery}
    (started : loadSnapshot codec config files = .ok recovery)
    (present : files.journal = some journal)
    (long : maxFileBytes < journal.length) :
    (PersistentStore.load codec config files).1 =
      .error
        (.error .payloadTooLarge
          "persisted file exceeds the maximum supported size") := by
  have unread :
      readFileBytes journal =
        .error
          (.error .payloadTooLarge
            "persisted file exceeds the maximum supported size") := by
    rw [readFileBytes, refuseWhen, if_pos long]
    rfl
  simp only [PersistentStore.load, started, present, unread]

theorem PersistentStore.Returns.load_iff
    (returns : store.Returns codec config state)
    (present : store.files.journal = some journal) :
    (PersistentStore.load codec config store.files).1 = .ok state ↔
      journal.length ≤ maxFileBytes := by
  obtain ⟨recovery, entries, reads, rfl⟩ := returns
  constructor
  · intro loaded
    by_contra long
    rw [load_unread reads.started present (Nat.not_le.mp long)] at loaded
    cases loaded
  · intro bounded
    refine reads.load (fun wrong => absurd rfl wrong) ?_ ?_
    · rw [present]
      exact Option.some_ne_none _
    · intro other found
      cases present.symm.trans found
      exact bounded

/-- Opening restarts the counters over the files as they are. -/
theorem open_eq
    {refusal : Option Status}
    (opened : PersistentStore.open config files refusal = .ok store) :
    store = { files } := by
  obtain ⟨_, _, answered⟩ := bind_eq_ok.mp opened
  cases refusal with
  | some => cases answered
  | none => exact (Except.ok.inj answered).symm

/-- An empty directory reads as no record at all. -/
theorem PersistentStore.Reads.empty
    (snapshots : store.files.snapshot = none)
    (journals : store.files.journal = none) :
    store.Reads codec config {} [] [] where
  started := by rw [loadSnapshot, snapshots]
  journal := by rw [journals]; rfl
  readable := trivial
  numbered := UInt64.zero_le

theorem PersistentStore.Returns.of_open
    (snapshots : files.snapshot = none)
    (journals : files.journal = none) :
    PersistentStore.Returns codec config { files } {} :=
  ⟨{}, [], .empty snapshots journals, rfl⟩

/-- A run of calls ends with the state of the last, and counts at most three
numbers a call. -/
theorem Writes.returns
    {calls : List StoreCall}
    (writes : Writes codec config store calls final)
    (roundTrips : RoundTrips codec config calls)
    (few : store.sequence.toNat + 3 * calls.length < 2 ^ 64)
    (returns : store.Returns codec config state) :
    final.Returns codec config
      ((calls.map StoreCall.snapshot).getLastD state) := by
  induction writes generalizing state with
  | done =>
      exact returns
  | @appended store next final label snapshot outcome compaction calls
      succeeded later ih =>
      rw [List.length_cons] at few
      obtain ⟨recovery, entries, reads, _⟩ := returns
      obtain ⟨numbered, found⟩ :=
        reads.succeeded (by omega) (roundTrips _ List.mem_cons_self) succeeded
      rw [List.map_cons, List.getLastD_cons]
      exact ih (fun call listed => roundTrips call (List.mem_cons_of_mem _ listed))
        (by omega) found
  | @persisted store next final snapshot outcome calls succeeded later ih =>
      rw [List.length_cons] at few
      obtain ⟨numbered, found⟩ := PersistentStore.Reads.of_persist (by omega)
        (roundTrips _ List.mem_cons_self) succeeded
      rw [List.map_cons, List.getLastD_cons]
      exact ih (fun call listed => roundTrips call (List.mem_cons_of_mem _ listed))
        (by omega) found

/-- Calls leave a journal. -/
theorem Writes.journal_present
    {calls : List StoreCall}
    (writes : Writes codec config store calls final)
    (present : calls ≠ [] ∨ store.files.journal ≠ none) :
    final.files.journal ≠ none := by
  induction writes with
  | done =>
      exact present.resolve_left (fun wrong => wrong rfl)
  | appended succeeded _ ih =>
      refine ih (.inr ?_)
      have shape := (PersistentStore.append_ok succeeded).2
      split at shape
      · rw [(PersistentStore.persist_ok shape).2.2.1]
        exact Option.some_ne_none _
      · rw [shape]
        exact Option.some_ne_none _
  | persisted succeeded _ ih =>
      refine ih (.inr ?_)
      rw [(PersistentStore.persist_ok succeeded).2.2.1]
      exact Option.some_ne_none _

/--
Whatever a store wrote from an empty directory on, it reads back as the state
of the last call exactly as long as the journal is short enough to be read.
-/
theorem written_state_loads_iff
    (codec : SnapshotCodec) (config : StoreConfig)
    {store final : PersistentStore} {calls : List StoreCall}
    (opened : PersistentStore.open config {} none = .ok store)
    (writes : Writes codec config store calls final)
    (few : 3 * calls.length < 2 ^ 64)
    (roundTrips : RoundTrips codec config calls)
    {last : EngineSnapshot}
    (called : (calls.map StoreCall.snapshot).getLast? = some last)
    {journal : Bytes} (present : final.files.journal = some journal) :
    (PersistentStore.load codec config final.files).1 = .ok last ↔
      journal.length ≤ maxFileBytes := by
  obtain rfl := open_eq opened
  have returns := writes.returns roundTrips (by
    change 0 + 3 * calls.length < 2 ^ 64
    omega) (.of_open rfl rfl)
  rw [List.getLastD_eq_getLast?, called] at returns
  exact returns.load_iff present

/-- One append, read back. -/
theorem written_state_loads_after_append :
    ∃ final,
      Writes Sample.countingCodec Sample.storeConfig { files := {} }
        [.append (ascii "submit") (Sample.counted 1)] final ∧
      (PersistentStore.load Sample.countingCodec Sample.storeConfig
        final.files).1 = .ok (Sample.counted 1) := by
  have appended :
      PersistentStore.append Sample.countingCodec Sample.storeConfig
          { files := {} } (ascii "submit") (Sample.counted 1) .completed {} =
        (.ok (),
          (PersistentStore.append Sample.countingCodec Sample.storeConfig
            { files := {} } (ascii "submit") (Sample.counted 1) .completed
            {}).2) :=
    Prod.ext (by decide +kernel) rfl
  have writes :
      Writes Sample.countingCodec Sample.storeConfig { files := {} }
        [.append (ascii "submit") (Sample.counted 1)] _ :=
    .appended appended (.done _)
  have opened :
      PersistentStore.open Sample.storeConfig {} none =
        .ok { files := {} } :=
    rfl
  refine ⟨_, writes, (written_state_loads_iff _ _ opened writes (by decide) ?_
    rfl rfl).mpr (by decide +kernel)⟩
  intro call listed
  obtain rfl := List.mem_singleton.mp listed
  exact Sample.counted_roundTrips 1 _

/-- An append that completes and does not compact. -/
theorem PersistentStore.append_completed
    {label : Text} {snapshot : EngineSnapshot}
    (fits : (store.nextRecord codec config label snapshot).Fits)
    (small : ¬store.Compacts codec config label snapshot)
    (compaction : PersistOutcome) :
    store.append codec config label snapshot .completed compaction =
      (.ok (),
        store.extended
          (encodeJournalRecord (store.nextRecord codec config label snapshot))
          (some
            (store.files.journal.getD [] ++
              encodeJournalRecord
                (store.nextRecord codec config label snapshot)))) := by
  have occupied :
      encodeJournalRecord (store.nextRecord codec config label snapshot) ≠
        [] := by
    intro empty
    have length := length_encodeJournalRecord fits
    rw [empty, journalHeaderBytes, List.length_nil] at length
    omega
  unfold append
  dsimp only
  rw [if_neg occupied]
  simp only [writeFileFlushed, if_true]
  exact if_neg small

namespace Sample

/-- The codec of counters with padding behind them. -/
def paddedCodec (padding : Nat) : SnapshotCodec where
  encode snapshot _ :=
    bigEndian64 snapshot.commandsProcessed ++ List.replicate padding 0
  decode data _ :=
    if data.length = 8 + padding then
      .ok { commandsProcessed := readWord64 data 0 }
    else .error (.error .truncatedInput "not a padded counter")

variable (padding : Nat)

theorem length_padded (snapshot : EngineSnapshot) (limits : Limits) :
    ((paddedCodec padding).encode snapshot limits).length = 8 + padding := by
  change (bigEndian64 _ ++ List.replicate padding 0).length = _
  rw [List.length_append, List.length_replicate]
  rfl

theorem padded_roundTrips (commands : UInt64) (limits : Limits) :
    (paddedCodec padding).decode
        ((paddedCodec padding).encode (counted commands) limits) limits =
      .ok (counted commands) := by
  have read :
      readWord64
          ((paddedCodec padding).encode (counted commands) limits) 0 =
        commands :=
    readWord64_eq
      (rfl :
        ((paddedCodec padding).encode (counted commands) limits).drop 0 =
          bigEndian64 commands ++ List.replicate padding 0)
  change (if _ = _ then _ else _) = _
  rw [if_pos (length_padded padding _ limits), read]
  rfl

variable {padding}

/-- Padded counters are appended while the counters of the store are low. -/
theorem padded_append
    (fits : padding ≤ 1048568) {store : PersistentStore}
    (short : store.journalBytes.toNat + (42 + padding) ≤ 4194304)
    (few : store.journalRecords.toNat < 2048) (commands : UInt64) :
    ∃ encoded : Bytes, encoded.length = 42 + padding ∧
      store.append (paddedCodec padding) storeConfig (ascii "submit")
          (counted commands) .completed {} =
        (.ok (),
          store.extended encoded
            (some (store.files.journal.getD [] ++ encoded))) := by
  have loaded := length_padded padding (counted commands) storeConfig.limits
  have whole :
      (store.nextRecord (paddedCodec padding) storeConfig (ascii "submit")
        (counted commands)).Fits := by
    refine ⟨show 6 ≤ 64 by decide, ?_⟩
    change ((paddedCodec padding).encode (counted commands)
      storeConfig.limits).length ≤ maxPayloadBytes
    rw [loaded, maxPayloadBytes]
    omega
  have length :
      (encodeJournalRecord
        (store.nextRecord (paddedCodec padding) storeConfig (ascii "submit")
          (counted commands))).length = 42 + padding := by
    rw [length_encodeJournalRecord whole]
    change 28 + (6 + ((paddedCodec padding).encode (counted commands)
      storeConfig.limits).length) = _
    rw [loaded]
    omega
  refine ⟨_, length, PersistentStore.append_completed whole ?_ {}⟩
  rintro (bytes | records)
  · have grown := UInt64.lt_iff_toNat_lt.mp bytes
    change 4194304 < (store.journalBytes + Nat.toUInt64 _).toNat at grown
    rw [length, UInt64.toNat_add, Nat.toUInt64_eq, UInt64.toNat_ofNat'] at grown
    omega
  · have grown := UInt32.lt_iff_toNat_lt.mp records
    change 2048 < (store.journalRecords + 1).toNat at grown
    rw [UInt32.toNat_add] at grown
    change 2048 < (store.journalRecords.toNat + 1) % 2 ^ 32 at grown
    omega

end Sample

/-- Two records of 600042 bytes are more than is read back, and less than
makes the store compact. -/
theorem long_journal_is_not_read :
    ∃ store final,
      PersistentStore.open Sample.storeConfig {} none = .ok store ∧
      Writes (Sample.paddedCodec 600000) Sample.storeConfig store
        [.append (ascii "submit") (Sample.counted 1),
          .append (ascii "submit") (Sample.counted 2)] final ∧
      RoundTrips (Sample.paddedCodec 600000) Sample.storeConfig
        [.append (ascii "submit") (Sample.counted 1),
          .append (ascii "submit") (Sample.counted 2)] ∧
      (PersistentStore.load (Sample.paddedCodec 600000) Sample.storeConfig
          final.files).1 =
        .error
          (.error .payloadTooLarge
            "persisted file exceeds the maximum supported size") := by
  have start : (0 : UInt64).toNat = 0 := rfl
  have none_ : (0 : UInt32).toNat = 0 := rfl
  obtain ⟨first, firstLength, firstAppend⟩ :=
    @Sample.padded_append 600000 (by omega) { files := {} }
      (show (0 : UInt64).toNat + (42 + 600000) ≤ 4194304 by omega)
      (show (0 : UInt32).toNat < 2048 by omega) 1
  have bytes : (first.length.toUInt64).toNat = 600042 := by
    rw [firstLength]
    rfl
  obtain ⟨second, secondLength, secondAppend⟩ :=
    @Sample.padded_append 600000 (by omega)
      (PersistentStore.extended { files := {} } first (some ([] ++ first)))
      (by
        change (0 + first.length.toUInt64).toNat + (42 + 600000) ≤ 4194304
        rw [UInt64.zero_add, bytes]
        omega)
      (show (0 + 1 : UInt32).toNat < 2048 by decide) 2
  refine ⟨_, _, rfl, .appended firstAppend (.appended secondAppend (.done _)),
    ?_, ?_⟩
  · intro call listed
    rcases List.mem_cons.mp listed with rfl | later
    · exact Sample.padded_roundTrips 600000 1 _
    · obtain rfl := List.mem_singleton.mp later
      exact Sample.padded_roundTrips 600000 2 _
  · refine load_unread rfl rfl ?_
    rw [List.length_append, secondLength]
    change 1052672 < ([] ++ first).length + (42 + 600000)
    rw [List.nil_append, firstLength]
    omega

/-! ## Lifetimes on one directory -/

/-- `has_state`. -/
def StoreFiles.hasState (files : StoreFiles) : Bool :=
  files.snapshot.isSome || files.journal.isSome

/-- Processes that open one directory after another, each of which meets a
condition on what it finds and calls. -/
inductive Lifetimes
    (codec : SnapshotCodec) (config : StoreConfig)
    (Condition : StoreFiles → List StoreCall → Prop) :
    StoreFiles → List (List StoreCall) → StoreFiles → Prop
  | done (files : StoreFiles) :
      Lifetimes codec config Condition files [] files
  | lived
      {files final : StoreFiles} {store closed : PersistentStore}
      {calls : List StoreCall} {lives : List (List StoreCall)}
      (opened : PersistentStore.open config files none = .ok store)
      (met : Condition files calls)
      (writes : Writes codec config store calls closed)
      (later : Lifetimes codec config Condition closed.files lives final) :
      Lifetimes codec config Condition files (calls :: lives) final

/-- A process that finds a state does not begin with an append. -/
def PersistsFirst (files : StoreFiles) (calls : List StoreCall) : Prop :=
  files.hasState = true →
    ∀ label snapshot, calls.head? ≠ some (.append label snapshot)

/-- What a directory holds between two lifetimes. -/
def StoreFiles.Keeps
    (codec : SnapshotCodec) (config : StoreConfig) (files : StoreFiles)
    (kept : Option EngineSnapshot) : Prop :=
  kept = none ∧ files.snapshot = none ∧ files.journal = none ∨
    ∃ state, kept = some state ∧ files.journal ≠ none ∧
      ∃ store : PersistentStore, store.files = files ∧
        store.Returns codec config state

theorem StoreFiles.Keeps.of_returns
    (returns : store.Returns codec config state)
    (present : store.files.journal ≠ none) :
    store.files.Keeps codec config (some state) :=
  .inr ⟨state, rfl, present, store, rfl, returns⟩

/-- The first call of a process that finds a state replaces it. -/
theorem Writes.returns_of_persistsFirst
    {call : StoreCall}
    {calls : List StoreCall}
    (writes : Writes codec config { files } (call :: calls) closed)
    (roundTrips : RoundTrips codec config (call :: calls))
    (few : 3 * (call :: calls).length < 2 ^ 64)
    (met : ∀ label snapshot,
      (call :: calls).head? ≠ some (.append label snapshot)) :
    closed.Returns codec config
      ((calls.map StoreCall.snapshot).getLastD call.snapshot) := by
  rw [List.length_cons] at few
  have start : (0 : UInt64).toNat = 0 := rfl
  cases writes with
  | appended =>
      exact absurd rfl (met _ _)
  | persisted succeeded later =>
      obtain ⟨numbered, found⟩ := PersistentStore.Reads.of_persist
        (show (0 : UInt64).toNat + 2 < 2 ^ 64 by decide)
        (roundTrips _ List.mem_cons_self) succeeded
      change _ ≤ (0 : UInt64).toNat + 2 at numbered
      exact later.returns
        (fun other listed => roundTrips other (List.mem_cons_of_mem _ listed))
        (by omega) found

/-- A lifetime leaves the state of its last call, or what it found. -/
theorem Writes.keeps
    {calls : List StoreCall}
    (writes : Writes codec config { files } calls closed)
    (roundTrips : RoundTrips codec config calls)
    (few : 3 * calls.length < 2 ^ 64) (met : PersistsFirst files calls)
    (keeps : files.Keeps codec config kept) :
    closed.files.Keeps codec config
      ((calls.map StoreCall.snapshot).getLast?.or kept) := by
  cases calls with
  | nil =>
      cases writes
      exact keeps
  | cons call calls =>
      have present := writes.journal_present (.inl (List.cons_ne_nil _ _))
      have named :
          ((call :: calls).map StoreCall.snapshot).getLast?.or kept =
            some ((calls.map StoreCall.snapshot).getLastD call.snapshot) := by
        rw [List.map_cons, List.getLast?_cons, Option.some_or,
          List.getLastD_eq_getLast?]
      rw [named]
      rcases keeps with ⟨_, snapshots, journals⟩ | ⟨state, _, held, _⟩
      · have returns := writes.returns roundTrips (by
          change 0 + 3 * _ < 2 ^ 64
          omega) (.of_open snapshots journals)
        rw [List.map_cons, List.getLastD_cons] at returns
        exact .of_returns returns present
      · have occupied : files.hasState = true := by
          rw [StoreFiles.hasState, Option.isSome_iff_ne_none.mpr held,
            Bool.or_true]
        exact .of_returns
          (writes.returns_of_persistsFirst roundTrips few (met occupied))
          present

theorem Lifetimes.keeps
    {final : StoreFiles} {lives : List (List StoreCall)}
    (lifetimes : Lifetimes codec config PersistsFirst files lives final)
    (roundTrips : RoundTrips codec config lives.flatten)
    (few : ∀ calls ∈ lives, 3 * calls.length < 2 ^ 64)
    (keeps : files.Keeps codec config kept) :
    final.Keeps codec config
      ((lives.flatten.map StoreCall.snapshot).getLast?.or kept) := by
  induction lifetimes generalizing kept with
  | done =>
      exact keeps
  | @lived files final store closed calls lives opened met writes later ih =>
      obtain rfl := open_eq opened
      rw [List.flatten_cons] at roundTrips ⊢
      have first := writes.keeps
        (fun call listed => roundTrips call (List.mem_append_left _ listed))
        (few calls List.mem_cons_self) met keeps
      have rest := ih
        (fun call listed => roundTrips call (List.mem_append_right _ listed))
        (fun other listed => few other (List.mem_cons_of_mem _ listed)) first
      rwa [← Option.or_assoc, ← List.getLast?_append, ← List.map_append]
        at rest

/--
When every process that finds a state persists before it appends, the state
of the last successful call of all lifetimes is what is loaded.
-/
theorem lifetimes_load_the_last_state
    (codec : SnapshotCodec) (config : StoreConfig) {final : StoreFiles}
    {lives : List (List StoreCall)}
    (lifetimes : Lifetimes codec config PersistsFirst {} lives final)
    (roundTrips : RoundTrips codec config lives.flatten)
    (few : ∀ calls ∈ lives, 3 * calls.length < 2 ^ 64)
    (bounded : ∀ journal ∈ final.journal, journal.length ≤ maxFileBytes)
    {last : EngineSnapshot}
    (called :
      (lives.flatten.map StoreCall.snapshot).getLast? = some last) :
    (PersistentStore.load codec config final).1 = .ok last := by
  have keeps := lifetimes.keeps roundTrips few
    (show StoreFiles.Keeps codec config {} none from .inl ⟨rfl, rfl, rfl⟩)
  rw [called, Option.some_or] at keeps
  rcases keeps with ⟨wrong, _⟩ | ⟨state, same, present, store, rfl, returns⟩
  · cases wrong
  · cases same
    obtain ⟨journal, found⟩ := Option.ne_none_iff_exists'.mp present
    exact (returns.load_iff found).mpr (bounded journal found)

namespace Sample

/-- The store of a process that appends one state and ends. -/
def appendingStore (files : StoreFiles) (commands : UInt64) :
    PersistentStore :=
  (PersistentStore.append countingCodec storeConfig { files }
    (ascii "submit") (counted commands) .completed {}).2

/-- The store of a process that persists one state and ends. -/
def persistingStore (files : StoreFiles) (commands : UInt64) :
    PersistentStore :=
  (PersistentStore.persist countingCodec storeConfig { files }
    (counted commands) {}).2

theorem appendingStore_writes
    (succeeded :
      (PersistentStore.append countingCodec storeConfig { files }
        (ascii "submit") (counted commands) .completed {}).1 = .ok ()) :
    Writes countingCodec storeConfig { files }
      [.append (ascii "submit") (counted commands)]
      (appendingStore files commands) :=
  .appended (Prod.ext succeeded rfl) (.done _)

theorem persistingStore_writes
    (succeeded :
      (PersistentStore.persist countingCodec storeConfig { files }
        (counted commands) {}).1 = .ok ()) :
    Writes countingCodec storeConfig { files }
      [.persist (counted commands)] (persistingStore files commands) :=
  .persisted (Prod.ext succeeded rfl) (.done _)

end Sample

/-- A second process that persists is heard. -/
theorem lifetimes_load_persisted_state :
    (PersistentStore.load Sample.countingCodec Sample.storeConfig
      (Sample.persistingStore (Sample.appendingStore {} 1).files
        2).files).1 = .ok (Sample.counted 2) := by
  have lifetimes :
      Lifetimes Sample.countingCodec Sample.storeConfig PersistsFirst {}
        [[.append (ascii "submit") (Sample.counted 1)],
          [.persist (Sample.counted 2)]]
        (Sample.persistingStore (Sample.appendingStore {} 1).files 2).files :=
    .lived rfl (fun occupied => by cases occupied)
      (Sample.appendingStore_writes (by decide +kernel))
      (.lived rfl (fun _ _ _ wrong => by cases wrong)
        (Sample.persistingStore_writes (by decide +kernel)) (.done _))
  refine lifetimes_load_the_last_state _ _ lifetimes ?_ ?_
    (by decide +kernel) rfl
  · intro call listed
    rcases List.mem_cons.mp listed with rfl | later
    · exact Sample.counted_roundTrips 1 _
    · obtain rfl := List.mem_singleton.mp later
      exact Sample.counted_roundTrips 2 _
  · intro calls listed
    rcases List.mem_cons.mp listed with rfl | later
    · decide
    · obtain rfl := List.mem_singleton.mp later
      decide

/-- A second process that appends is not. -/
theorem second_process_is_not_heard :
    Lifetimes Sample.countingCodec Sample.storeConfig (fun _ _ => True) {}
        [[.append (ascii "submit") (Sample.counted 1)],
          [.append (ascii "submit") (Sample.counted 2)]]
        (Sample.appendingStore (Sample.appendingStore {} 1).files 2).files ∧
      (PersistentStore.load Sample.countingCodec Sample.storeConfig
        (Sample.appendingStore (Sample.appendingStore {} 1).files
          2).files).1 = .ok (Sample.counted 1) :=
  ⟨.lived rfl trivial (Sample.appendingStore_writes (by decide +kernel))
    (.lived rfl trivial (Sample.appendingStore_writes (by decide +kernel))
      (.done _)), by decide +kernel⟩

end TrafficFabric
