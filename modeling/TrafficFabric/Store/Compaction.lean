import TrafficFabric.Store.Backing

/-!
# Crashes during a compaction

`persist` replaces the snapshot before it starts the journal anew.  Between
the two the new snapshot stands beside the old journal, and the numbers of its
records decide what recovery makes of it: records that the old snapshot had
outranked come to life again when the store numbers its snapshots from below
them, as a store does that was opened over an older directory.
-/

namespace TrafficFabric

open Foundation

variable {recovery left right : Recovery} {record : JournalRecord}
  {consumed : Nat} {state : EngineSnapshot} {files : StoreFiles}

variable {codec : SnapshotCodec} {config : StoreConfig}

/-! ## Replays that take over a record -/

theorem replayRecord_rising
    {rest : Bytes}
    (decoded : decodeJournalRecord rest = .ok (record, consumed))
    (rises : recovery.lastSequence < record.sequence)
    (read : codec.decode record.payload config.limits = .ok state) :
    replayRecord codec config recovery rest =
      .ok (recovery.apply record.sequence state, consumed) := by
  have fresh : ¬record.sequence ≤ recovery.lastSequence :=
    UInt64.not_le.mpr rises
  simp only [replayRecord, decoded, if_neg fresh, read]

/-- The report has no influence on the states. -/
theorem replayJournal_congr
    (fuel : Nat) (rest : Bytes)
    (state : left.state = right.state)
    (last : left.lastSequence = right.lastSequence) :
    (replayJournal codec config fuel rest left).state =
      (replayJournal codec config fuel rest right).state := by
  induction fuel generalizing rest left right with
  | zero =>
      exact state
  | succ _ hypothesis =>
      rw [replayJournal, replayJournal]
      by_cases empty : rest = []
      · rw [if_pos empty, if_pos empty]
        exact state
      rw [if_neg empty, if_neg empty]
      cases replayed : replayRecord codec config left rest with
      | ok result =>
          rcases result with ⟨next, consumed⟩
          rcases replayRecord_ok replayed with
            ⟨record, decoded, rises, read, number⟩
          rw [last] at rises
          rw [replayRecord_rising decoded rises read]
          exact hypothesis (rest.drop consumed) rfl number
      | error =>
          cases other : replayRecord codec config right rest with
          | error =>
              exact state
          | ok result =>
              rcases result with ⟨next, consumed⟩
              rcases replayRecord_ok other with
                ⟨record, decoded, rises, read, _⟩
              rw [← last] at rises
              rw [replayRecord_rising decoded rises read] at replayed
              cases replayed

/-- Once the first record is taken over, it does not matter from what. -/
theorem replayJournal_forgets
    {file : Bytes}
    (decoded : decodeJournalRecord file = .ok (record, consumed))
    (risesLeft : left.lastSequence < record.sequence)
    (risesRight : right.lastSequence < record.sequence)
    (read : codec.decode record.payload config.limits = .ok state) :
    (replayJournal codec config file.length file left).state =
      (replayJournal codec config file.length file right).state := by
  have occupied : file ≠ [] := by
    rintro rfl
    cases decoded
  obtain ⟨fuel, counted⟩ :=
    Nat.exists_eq_succ_of_ne_zero
      (fun empty => occupied (List.length_eq_zero_iff.mp empty))
  rw [counted, replayJournal, replayJournal, if_neg occupied,
    if_neg occupied, replayRecord_rising decoded risesLeft read,
    replayRecord_rising decoded risesRight read]
  exact replayJournal_congr fuel (file.drop consumed) rfl rfl

/-! ## Loading -/

theorem load_journal
    {journal : Bytes}
    (started : loadSnapshot codec config files = .ok recovery)
    (present : files.journal = some journal)
    (bounded : journal.length ≤ maxFileBytes) :
    (PersistentStore.load codec config files).1 =
      .ok
        (replayJournal codec config journal.length journal
          { recovery with
              report :=
                { recovery.report with journalPresent := true } }).state := by
  simp only [PersistentStore.load, started, present,
    readFileBytes_ok.mpr ⟨bounded, rfl⟩]

/-- Recovery does not look at the temporary file. -/
theorem load_of_same
    {others : StoreFiles}
    (snapshot : files.snapshot = others.snapshot)
    (journal : files.journal = others.journal) :
    PersistentStore.load codec config files =
      PersistentStore.load codec config others := by
  simp only [PersistentStore.load, loadSnapshot, snapshot, journal]

/-- The directory without its snapshot. -/
def StoreFiles.journalOnly (files : StoreFiles) : StoreFiles :=
  { files with snapshot := none }

/-- The first journal record is outranked by the snapshot, but not by a
snapshot of this number. -/
def StoreFiles.Revives
    (codec : SnapshotCodec) (config : StoreConfig) (files : StoreFiles)
    (sequence : UInt64) : Prop :=
  ∃ snapshot old consumedOld journal first consumed state,
    files.snapshot = some snapshot ∧
      decodeJournalRecord snapshot = .ok (old, consumedOld) ∧
      files.journal = some journal ∧
      decodeJournalRecord journal = .ok (first, consumed) ∧
      codec.decode first.payload config.limits = .ok state ∧
      sequence < first.sequence ∧ first.sequence ≤ old.sequence

section

variable {files renamed : StoreFiles} {record : JournalRecord}
  {before after : EngineSnapshot}

/-- The new snapshot beside the old journal: the new state, the old state,
or a revived one. -/
theorem load_renamed
    (loaded : (PersistentStore.load codec config files).1 = .ok before)
    (snapshot : renamed.snapshot = some (encodeJournalRecord record))
    (journal : renamed.journal = files.journal)
    (fits : record.Fits)
    (decoded : codec.decode record.payload config.limits = .ok after)
    (current : ¬files.Revives codec config record.sequence) :
    (PersistentStore.load codec config renamed).1 = .ok before ∨
      (PersistentStore.load codec config renamed).1 = .ok after := by
  have begun := loadSnapshot_record snapshot fits decoded
  rcases load_ok loaded with
    ⟨recovery, started, ⟨absent, _, _⟩ |
      ⟨bytes, opened, present, same, last, bounded, rfl⟩⟩
  · refine .inr ?_
    rw [absent] at journal
    simp only [PersistentStore.load, begun, journal, if_true]
  rw [present] at journal
  rw [load_journal begun journal bounded]
  cases replayed :
      replayRecord codec config
        { state := after, lastSequence := record.sequence
          report :=
            { snapshotPresent := true
              snapshotSequence := record.sequence
              journalPresent := true } } bytes with
  | error note =>
      exact .inr (congrArg Except.ok (replayJournal_refused _ replayed))
  | ok result =>
      refine .inl (congrArg Except.ok ?_)
      rcases result with ⟨next, consumed⟩
      rcases replayRecord_ok replayed with ⟨first, front, rises, read, _⟩
      refine replayJournal_forgets front rises ?_ read
      rw [last]
      -- The old snapshot does not outrank a record that is accepted now.
      rcases loadSnapshot_ok started with
        ⟨_, rfl⟩ | ⟨file, old, found, held, _, number⟩
      · exact Nat.zero_lt_of_lt (UInt64.lt_iff_toNat_lt.mp rises)
      · rw [number]
        apply UInt64.not_le.mp
        intro outranked
        exact current ⟨file, old, file.length, bytes, first, consumed,
          next.state, found, held, present, front, read, rises, outranked⟩

/-- A revived journal is all that recovery returns. -/
theorem load_revived
    (loaded : (PersistentStore.load codec config files).1 = .ok before)
    (snapshot : renamed.snapshot = some (encodeJournalRecord record))
    (journal : renamed.journal = files.journal)
    (fits : record.Fits)
    (decoded : codec.decode record.payload config.limits = .ok after)
    (revives : files.Revives codec config record.sequence) :
    (PersistentStore.load codec config renamed).1 =
      (PersistentStore.load codec config files.journalOnly).1 := by
  have begun := loadSnapshot_record snapshot fits decoded
  rcases revives with
    ⟨_, _, _, bytes, first, consumed, state, _, _, present, front, read,
      rises, _⟩
  have bounded : bytes.length ≤ maxFileBytes := by
    rcases load_ok loaded with
      ⟨_, _, ⟨absent, _⟩ | ⟨held, _, found, _, _, bounded, _⟩⟩
    · rw [absent] at present
      cases present
    · obtain rfl := Option.some.inj (present.symm.trans found)
      exact bounded
  have alone : loadSnapshot codec config files.journalOnly = .ok {} := rfl
  rw [load_journal begun (journal.trans present) bounded,
    load_journal alone present bounded]
  refine congrArg Except.ok (replayJournal_forgets front rises ?_ read)
  exact UInt64.lt_of_le_of_lt UInt64.zero_le rises

end

/-- Replaying the record of a state, or a part of it, after that state
changes nothing. -/
theorem replayJournal_cut
    (fits : record.Fits)
    (decoded :
      codec.decode record.payload config.limits = .ok recovery.state)
    (written fuel : Nat) :
    (replayJournal codec config fuel
        ((encodeJournalRecord record).take written) recovery).state =
      recovery.state := by
  cases replayed :
      replayRecord codec config recovery
        ((encodeJournalRecord record).take written) with
  | error note =>
      exact replayJournal_refused fuel replayed
  | ok result =>
      rcases result with ⟨next, consumed⟩
      rcases replayRecord_ok replayed with ⟨found, front, _, read, _⟩
      by_cases whole : (encodeJournalRecord record).length ≤ written
      · have bytes := List.take_of_length_le whole
        rw [bytes] at front replayed ⊢
        have exact_ := decode_encode_append fits []
        rw [List.append_nil, front] at exact_
        cases exact_
        rw [decoded] at read
        cases fuel with
        | zero =>
            rfl
        | succ =>
            rw [replayJournal, replayed]
            split
            · rfl
            · dsimp only
              rw [List.drop_length, replayJournal_nil]
              exact (Except.ok.inj read).symm
      · -- A part of a record does not decode.
        have short :
            ((encodeJournalRecord record).take written).length <
              (encodeJournalRecord record).length := by
          rw [List.length_take]
          omega
        obtain ⟨status, torn⟩ :=
          decode_torn (List.take_prefix _ _) short
        rw [torn] at front
        cases front

/-- A journal that `persist` has begun to write loads as the new state. -/
theorem load_restarted
    {rotated : JournalRecord}
    {written : Nat}
    (snapshot : files.snapshot = some (encodeJournalRecord record))
    (journal :
      files.journal = some ((encodeJournalRecord rotated).take written))
    (fits : record.Fits) (fitsRotated : rotated.Fits)
    (same : rotated.payload = record.payload)
    (decoded : codec.decode record.payload config.limits = .ok state) :
    (PersistentStore.load codec config files).1 = .ok state := by
  have begun := loadSnapshot_record snapshot fits decoded
  have bounded :
      ((encodeJournalRecord rotated).take written).length ≤ maxFileBytes :=
    (List.length_take_le' _ _).trans (length_encode_le fitsRotated)
  rw [load_journal begun journal bounded]
  rw [← same] at decoded
  exact congrArg Except.ok
    (replayJournal_cut fitsRotated decoded written _)

/-! ## Crash points -/

/-- What a `persist` that may stop anywhere leaves in the two files. -/
theorem PersistentStore.persist_files
    (codec : SnapshotCodec) (config : StoreConfig)
    (store : PersistentStore) (snapshot : EngineSnapshot)
    (outcome : PersistOutcome) :
    let files := (store.persist codec config snapshot outcome).2.files
    (files.snapshot = store.files.snapshot ∧
        files.journal = store.files.journal) ∨
      ((snapshotRecord codec config (store.sequence + 1) snapshot).Fits ∧
        files.snapshot =
          some
            (encodeJournalRecord
              (snapshotRecord codec config (store.sequence + 1)
                snapshot)) ∧
        (files.journal = store.files.journal ∨
          ∃ written,
            files.journal =
              some
                ((encodeJournalRecord
                  (snapshotRecord codec config (store.sequence + 1 + 1)
                    snapshot)).take written))) := by
  intro files
  unfold files PersistentStore.persist
  dsimp only
  split
  · exact .inl ⟨rfl, rfl⟩
  split
  · exact .inl ⟨rfl, rfl⟩
  rename_i written
  have fits := fits_of_encode_ne_nil written
  rcases outcome with ⟨temporary, replace, journal⟩
  cases temporary with
  | unopened | interrupted =>
      exact .inl ⟨rfl, rfl⟩
  | completed =>
      cases replace with
      | some =>
          exact .inl ⟨rfl, rfl⟩
      | none =>
          refine .inr ⟨fits, ?_⟩
          simp only [writeFileFlushed, atomicReplace]
          split
          · exact ⟨rfl, .inl rfl⟩
          cases journal with
          | unopened =>
              exact ⟨rfl, .inl rfl⟩
          | interrupted count =>
              exact ⟨rfl, .inr ⟨count, rfl⟩⟩
          | completed =>
              exact ⟨rfl, .inr ⟨_, congrArg some List.take_length.symm⟩⟩

/-- The crash between the rename and the new journal is one of them. -/
theorem PersistentStore.persist_renamed
    {store : PersistentStore} {snapshot : EngineSnapshot}
    (writable : (store.persist codec config snapshot {}).1 = .ok ())
    (status : Status) :
    let files :=
      (store.persist codec config snapshot
        { journal := .unopened status }).2.files
    (snapshotRecord codec config (store.sequence + 1) snapshot).Fits ∧
      files.snapshot =
        some
          (encodeJournalRecord
            (snapshotRecord codec config (store.sequence + 1) snapshot)) ∧
      files.journal = store.files.journal := by
  intro files
  unfold files
  unfold PersistentStore.persist at writable ⊢
  dsimp only at writable ⊢
  split at writable
  · cases writable
  rename_i loaded
  split at writable
  · cases writable
  rename_i written
  rw [if_neg loaded, if_neg written]
  simp only [writeFileFlushed, atomicReplace]
  refine ⟨fits_of_encode_ne_nil written, ?_⟩
  split <;> exact ⟨rfl, rfl⟩

/--
A compaction that may stop anywhere leaves the old or the new state, exactly
when it revives no outranked journal, or one that carries either state.
-/
theorem compaction_is_crash_atomic_iff
    (codec : SnapshotCodec) (config : StoreConfig)
    (store : PersistentStore) (before after : EngineSnapshot)
    (loaded :
      (PersistentStore.load codec config store.files).1 = .ok before)
    (writable : (store.persist codec config after {}).1 = .ok ())
    (roundTrips :
      codec.decode (codec.encode after config.limits) config.limits =
        .ok after) :
    (∀ outcome,
        (PersistentStore.load codec config
            (store.persist codec config after outcome).2.files).1 =
            .ok before ∨
          (PersistentStore.load codec config
            (store.persist codec config after outcome).2.files).1 =
            .ok after) ↔
      ¬store.files.Revives codec config (store.sequence + 1) ∨
        (PersistentStore.load codec config store.files.journalOnly).1 =
          .ok before ∨
        (PersistentStore.load codec config store.files.journalOnly).1 =
          .ok after := by
  constructor
  · intro atomic
    by_cases revives : store.files.Revives codec config (store.sequence + 1)
    · -- The crash between the rename and the new journal.
      have crash := atomic { journal := .unopened (.error .internal "") }
      obtain ⟨fits, snapshot, journal⟩ :=
        PersistentStore.persist_renamed writable (.error .internal "")
      rw [load_revived loaded snapshot journal fits roundTrips revives]
        at crash
      exact .inr crash
    · exact .inl revives
  · intro safe outcome
    rcases store.persist_files codec config after outcome with
      ⟨snapshot, journal⟩ | ⟨fits, snapshot, journal | ⟨written, journal⟩⟩
    · rw [load_of_same snapshot journal]
      exact .inl loaded
    · by_cases revives :
          store.files.Revives codec config (store.sequence + 1)
      · rw [load_revived loaded snapshot journal fits roundTrips revives]
        exact safe.resolve_left (not_not_intro revives)
      · exact load_renamed loaded snapshot journal fits roundTrips revives
    · exact .inr (load_restarted snapshot journal fits fits rfl roundTrips)

/-- The store that wrote its own journal. -/
theorem compaction_is_crash_atomic_after_append :
    (PersistentStore.load Sample.countingCodec Sample.storeConfig
        Sample.appendedStore.files).1 = .ok (Sample.counted 1) ∧
      ∀ outcome,
        (PersistentStore.load Sample.countingCodec Sample.storeConfig
            (Sample.appendedStore.persist Sample.countingCodec
              Sample.storeConfig (Sample.counted 2) outcome).2.files).1 =
            .ok (Sample.counted 1) ∨
          (PersistentStore.load Sample.countingCodec Sample.storeConfig
            (Sample.appendedStore.persist Sample.countingCodec
              Sample.storeConfig (Sample.counted 2) outcome).2.files).1 =
            .ok (Sample.counted 2) := by
  have loaded :
      (PersistentStore.load Sample.countingCodec Sample.storeConfig
        Sample.appendedStore.files).1 = .ok (Sample.counted 1) := by
    decide +kernel
  have writable :
      (Sample.appendedStore.persist Sample.countingCodec Sample.storeConfig
        (Sample.counted 2) {}).1 = .ok () := by
    decide +kernel
  refine ⟨loaded, (compaction_is_crash_atomic_iff _ _ _ _ _ loaded writable
    (Sample.counted_roundTrips 2 _)).mpr (.inl ?_)⟩
  rintro ⟨snapshot, old, _, _, first, _, _, present, held, _, _, _, rises,
    outranked⟩
  have numbered :
      Sample.appendedStore.files.snapshot.map (fun file =>
          (decodeJournalRecord file).toOption.map (fun found =>
            found.1.sequence)) =
        some (some 1) ∧ Sample.appendedStore.sequence = 3 := by
    decide +kernel
  rw [present, Option.map_some, held] at numbered
  have number : old.sequence = 1 :=
    Option.some.inj (Option.some.inj numbered.1)
  rw [number] at outranked
  rw [numbered.2] at rises
  exact absurd (UInt64.lt_of_lt_of_le rises outranked) (by decide)

/-- A directory whose snapshot outranks its journal. -/
def Sample.outrankedStore : PersistentStore where
  files :=
    { snapshot :=
        some
          (encodeJournalRecord
            ⟨5, ascii "snapshot", bigEndian64 1⟩)
      journal :=
        some (encodeJournalRecord ⟨3, ascii "submit", bigEndian64 2⟩) }

/-- A store opened over it numbers its snapshot from one, and a crash before
the journal is started anew brings the outranked record back. -/
theorem crash_revives_outranked_journal :
    PersistentStore.open Sample.storeConfig Sample.outrankedStore.files
        none = .ok Sample.outrankedStore ∧
      (PersistentStore.load Sample.countingCodec Sample.storeConfig
        Sample.outrankedStore.files).1 = .ok (Sample.counted 1) ∧
      (Sample.outrankedStore.persist Sample.countingCodec
        Sample.storeConfig (Sample.counted 3) {}).1 = .ok () ∧
      (PersistentStore.load Sample.countingCodec Sample.storeConfig
        (Sample.outrankedStore.persist Sample.countingCodec
          Sample.storeConfig (Sample.counted 3)
          { journal :=
              .unopened (.error .internal "crash") }).2.files).1 =
        .ok (Sample.counted 2) ∧
      Sample.counted 2 ≠ Sample.counted 1 ∧
      Sample.counted 2 ≠ Sample.counted 3 := by
  refine ⟨rfl, ?_⟩
  decide +kernel

end TrafficFabric
