import TrafficFabric.Store.TornTail

/-!
# Where a loaded state comes from

`load` decides from the presence of the files that there is a state, and fills
it from the records that pass its checks.  A journal without a snapshot whose
first record is not accepted therefore loads as the state of a fresh engine,
which no record carries.
-/

namespace TrafficFabric

open Foundation

variable {recovery next : Recovery} {consumed : Nat} {file : Bytes}
  {files : StoreFiles}

variable {codec : SnapshotCodec} {config : StoreConfig}

/-- A complete record with a right checksum stands in the file, and its
payload decodes to the state. -/
def Backs
    (codec : SnapshotCodec) (config : StoreConfig) (file : Bytes)
    (state : EngineSnapshot) : Prop :=
  ∃ offset record consumed,
    decodeJournalRecord (file.drop offset) = .ok (record, consumed) ∧
      codec.decode record.payload config.limits = .ok state

/-- One of the two files backs the state. -/
def StoreFiles.Back
    (codec : SnapshotCodec) (config : StoreConfig) (files : StoreFiles)
    (state : EngineSnapshot) : Prop :=
  ∃ file, (files.snapshot = some file ∨ files.journal = some file) ∧
    Backs codec config file state

/-- The record in front of a journal is one that recovery starts with when
there is no snapshot. -/
def StartsJournal
    (codec : SnapshotCodec) (config : StoreConfig) (journal : Bytes) :
    Prop :=
  ∃ record consumed state,
    decodeJournalRecord journal = .ok (record, consumed) ∧
      0 < record.sequence ∧
      codec.decode record.payload config.limits = .ok state

/-! ## The replay loop -/

theorem replayRecord_ok
    {rest : Bytes}
    (replayed :
      replayRecord codec config recovery rest = .ok (next, consumed)) :
    ∃ record,
      decodeJournalRecord rest = .ok (record, consumed) ∧
        recovery.lastSequence < record.sequence ∧
        codec.decode record.payload config.limits = .ok next.state ∧
        next.lastSequence = record.sequence := by
  unfold replayRecord at replayed
  split at replayed
  · cases replayed
  · rename_i record taken decoded
    split at replayed
    · cases replayed
    · rename_i fresh
      split at replayed
      · cases replayed
      · rename_i state read
        cases replayed
        exact ⟨record, decoded, UInt64.not_le.mp fresh, read, rfl⟩

/-- The loop ends with the state it started from or with one of the file. -/
theorem replayJournal_backed
    (file : Bytes) (fuel offset : Nat) (recovery : Recovery) :
    (replayJournal codec config fuel (file.drop offset) recovery).state =
        recovery.state ∨
      Backs codec config file
        (replayJournal codec config fuel (file.drop offset)
          recovery).state := by
  induction fuel generalizing offset recovery with
  | zero =>
      exact .inl rfl
  | succ fuel hypothesis =>
      rw [replayJournal]
      split
      · exact .inl rfl
      · split
        · exact .inl rfl
        · rename_i next consumed replayed
          rcases replayRecord_ok replayed with ⟨record, decoded, _, read, _⟩
          rw [List.drop_drop]
          rcases hypothesis (offset + consumed) next with same | backed
          · rw [same]
            exact .inr ⟨offset, record, consumed, decoded, read⟩
          · exact .inr backed

/-- Once a record is taken over, the state is one of the file. -/
theorem replayJournal_started
    (occupied : file ≠ [])
    (replayed :
      replayRecord codec config recovery file = .ok (next, consumed)) :
    Backs codec config file
      (replayJournal codec config file.length file recovery).state := by
  obtain ⟨fuel, counted⟩ :=
    Nat.exists_eq_succ_of_ne_zero
      (fun empty => occupied (List.length_eq_zero_iff.mp empty))
  rcases replayRecord_ok replayed with ⟨record, decoded, _, read, _⟩
  rw [counted, replayJournal, if_neg occupied, replayed]
  dsimp only
  rcases replayJournal_backed file fuel consumed next with same | backed
  · rw [same]
    exact ⟨0, record, consumed, decoded, read⟩
  · exact backed

/-- A first record that is not taken over ends the journal. -/
theorem replayJournal_refused
    {note : Text} (fuel : Nat)
    (refused : replayRecord codec config recovery file = .error note) :
    (replayJournal codec config fuel file recovery).state =
      recovery.state := by
  cases fuel with
  | zero =>
      rfl
  | succ =>
      rw [replayJournal, refused]
      split <;> rfl

/-! ## Loading -/

/-- What the snapshot file gives: nothing when there is none. -/
theorem loadSnapshot_ok
    (started : loadSnapshot codec config files = .ok recovery) :
    (files.snapshot = none ∧ recovery = {}) ∨
      ∃ file record,
        files.snapshot = some file ∧
          decodeJournalRecord file = .ok (record, file.length) ∧
          codec.decode record.payload config.limits = .ok recovery.state ∧
          recovery.lastSequence = record.sequence := by
  unfold loadSnapshot at started
  split at started
  · rename_i absent
    cases started
    exact .inl ⟨absent, rfl⟩
  · rename_i file present
    dsimp only at started
    split at started
    · cases started
    · rename_i raw read
      obtain ⟨_, rfl⟩ := readFileBytes_ok.mp read
      split at started
      · cases started
      · rename_i record consumed decoded
        split at started
        · cases started
        · rename_i whole
          split at started
          · cases started
          · rename_i state read
            cases started
            rw [not_not] at whole
            rw [whole] at decoded
            exact .inr ⟨_, record, present, decoded, read, rfl⟩

/-- The ways in which `load` succeeds. -/
theorem load_ok
    {state : EngineSnapshot}
    (loaded : (PersistentStore.load codec config files).1 = .ok state) :
    ∃ recovery,
      loadSnapshot codec config files = .ok recovery ∧
        ((files.journal = none ∧ files.snapshot ≠ none ∧
            state = recovery.state) ∨
          ∃ journal started,
            files.journal = some journal ∧
              started.state = recovery.state ∧
              started.lastSequence = recovery.lastSequence ∧
              journal.length ≤ maxFileBytes ∧
              state =
                (replayJournal codec config journal.length journal
                  started).state) := by
  unfold PersistentStore.load at loaded
  split at loaded
  · cases loaded
  · rename_i recovery started
    refine ⟨recovery, started, ?_⟩
    split at loaded
    · rename_i absent
      split at loaded
      · rename_i present
        cases loaded
        refine .inl ⟨absent, ?_, rfl⟩
        intro missing
        rcases loadSnapshot_ok started with ⟨_, rfl⟩ | ⟨_, _, found, _⟩
        · cases present
        · rw [missing] at found
          cases found
      · cases loaded
    · rename_i journal present
      split at loaded
      · cases loaded
      · rename_i raw read
        obtain ⟨bounded, rfl⟩ := readFileBytes_ok.mp read
        cases loaded
        exact .inr ⟨_,
          { recovery with
              report := { recovery.report with journalPresent := true } },
          present, rfl, rfl, bounded, rfl⟩

/-- A loaded state is the payload of a record in one of the files exactly
when there is a snapshot, when recovery takes over the first record of the
journal, or when some record happens to carry the empty state. -/
theorem loaded_state_is_recorded_iff
    (codec : SnapshotCodec) (config : StoreConfig) (files : StoreFiles)
    (state : EngineSnapshot)
    (loaded : (PersistentStore.load codec config files).1 = .ok state) :
    files.Back codec config state ↔
      files.snapshot ≠ none ∨
        (∃ journal, files.journal = some journal ∧
          StartsJournal codec config journal) ∨
        files.Back codec config {} := by
  rcases load_ok loaded with ⟨recovery, started, ways⟩
  rcases loadSnapshot_ok started with
    ⟨absent, rfl⟩ | ⟨file, record, present, decoded, read, _⟩
  · -- Without a snapshot the journal is all there is.
    rcases ways with ⟨_, present, _⟩ | ⟨journal, begun, present, same, last, _, rfl⟩
    · exact absurd absent present
    cases replayed : replayRecord codec config begun journal with
    | error =>
        rw [replayJournal_refused _ replayed, same]
        refine ⟨fun backed => .inr (.inr backed), ?_⟩
        rintro (wrong | ⟨other, found, starts⟩ | backed)
        · exact absurd absent wrong
        · obtain rfl := Option.some.inj (present.symm.trans found)
          rcases starts with ⟨record, consumed, first, decoded, rises, read⟩
          have fresh : ¬record.sequence ≤ begun.lastSequence := by
            rw [last]
            exact UInt64.not_le.mpr rises
          simp only [replayRecord, decoded, if_neg fresh, read] at replayed
          cases replayed
        · exact backed
    | ok result =>
        rcases result with ⟨next, consumed⟩
        rcases replayRecord_ok replayed with
          ⟨record, decoded, rises, read, _⟩
        have occupied : journal ≠ [] := by
          rintro rfl
          cases decoded
        rw [last] at rises
        refine iff_of_true ?_ (.inr (.inl ⟨journal, present, record,
          consumed, next.state, decoded, rises, read⟩))
        exact ⟨journal, .inr present,
          replayJournal_started occupied replayed⟩
  · have snapshotBacks : Backs codec config file recovery.state :=
      ⟨0, record, file.length, decoded, read⟩
    refine iff_of_true ?_ (.inl (by rw [present]; exact Option.some_ne_none _))
    rcases ways with ⟨_, _, rfl⟩ | ⟨journal, begun, found, same, _, _, rfl⟩
    · exact ⟨file, .inl present, snapshotBacks⟩
    · rcases replayJournal_backed journal journal.length 0 begun with
        kept | backed
      · rw [List.drop_zero, same] at kept
        rw [kept]
        exact ⟨file, .inl present, snapshotBacks⟩
      · exact ⟨journal, .inr found, backed⟩

/-- The state of a store after one append is recorded. -/
theorem loaded_state_is_recorded_after_append :
    ∃ state,
      (PersistentStore.load Sample.countingCodec Sample.storeConfig
          Sample.appendedStore.files).1 = .ok state ∧
        Sample.appendedStore.files.Back Sample.countingCodec
          Sample.storeConfig state := by
  have loaded :
      (PersistentStore.load Sample.countingCodec Sample.storeConfig
        Sample.appendedStore.files).1.isOk = true := by
    decide +kernel
  have present : Sample.appendedStore.files.snapshot ≠ none := by
    decide +kernel
  cases answer :
      (PersistentStore.load Sample.countingCodec Sample.storeConfig
        Sample.appendedStore.files).1 with
  | error status =>
      rw [answer] at loaded
      cases loaded
  | ok state =>
      exact ⟨state, rfl, (loaded_state_is_recorded_iff _ _ _ state
        answer).mpr (.inl present)⟩

/-- An empty journal without a snapshot loads as the state of a fresh
engine. -/
theorem empty_journal_loads_as_fresh_state :
    (PersistentStore.load Sample.countingCodec Sample.storeConfig
        { journal := some [] }).1 = .ok {} ∧
      ¬ StoreFiles.Back Sample.countingCodec Sample.storeConfig
        { journal := some [] } {} := by
  refine ⟨rfl, ?_⟩
  rintro ⟨file, absent | present, offset, record, consumed, decoded, _⟩
  · cases absent
  · cases present
    rw [List.drop_nil] at decoded
    cases decoded

end TrafficFabric
