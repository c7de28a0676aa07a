import TrafficFabric.Store.Backing

/-!
# Appends that fail

A failed append may leave a part of its record in the journal.  Recovery stops
at the first record that does not decode, so whatever is appended behind such
a part is lost; as long as a store appends nothing behind it, recovery returns
the state of the last append that succeeded.
-/

namespace TrafficFabric

open Foundation Foundation.Frames

variable {recovery : Recovery}
  {entries : List (JournalRecord × EngineSnapshot)}
  {store final : PersistentStore}

variable {codec : SnapshotCodec} {config : StoreConfig}

/-- A call of `append`; for one that failed, the bytes it wrote. -/
structure AppendCall where
  label : Text
  snapshot : EngineSnapshot
  written : Option Nat := none

/-- Appends of one instance that succeed or fail after a proper prefix of
their record. -/
inductive FaultyAppends (codec : SnapshotCodec) (config : StoreConfig) :
    PersistentStore → List AppendCall → PersistentStore → Prop
  | done (store : PersistentStore) : FaultyAppends codec config store [] store
  | succeeded
      {store next final : PersistentStore} {label : Text}
      {snapshot : EngineSnapshot} {compaction : PersistOutcome}
      {calls : List AppendCall}
      (appended :
        store.append codec config label snapshot .completed compaction =
          (.ok (), next))
      (later : FaultyAppends codec config next calls final) :
      FaultyAppends codec config store (⟨label, snapshot, none⟩ :: calls)
        final
  | failed
      {store final : PersistentStore} {label : Text}
      {snapshot : EngineSnapshot} {compaction : PersistOutcome}
      {calls : List AppendCall} (written : Nat) (status : Status)
      (proper :
        written <
          (encodeJournalRecord
            (store.nextRecord codec config label snapshot)).length)
      (later :
        FaultyAppends codec config
          (store.append codec config label snapshot
            (.interrupted written status) compaction).2 calls final) :
      FaultyAppends codec config store
        (⟨label, snapshot, some written⟩ :: calls) final

/-- The states of the appends that succeeded, in order. -/
def successes (calls : List AppendCall) : List EngineSnapshot :=
  (calls.filter (fun call => call.written.isNone)).map
    (fun call => call.snapshot)

/-- Nothing is appended behind a part of a record. -/
def Unspoiled : List AppendCall → Prop
  | [] => True
  | call :: calls =>
      ((∃ written, call.written = some written ∧ 0 < written) → calls = []) ∧
        Unspoiled calls

/-- The number of the last readable record. -/
def lastNumber
    (recovery : Recovery)
    (entries : List (JournalRecord × EngineSnapshot)) : UInt64 :=
  (entries.map (fun entry => entry.1.sequence)).getLastD
    recovery.lastSequence

/-- Recovery reads the whole directory as these records, up to a tail, and
the store goes on numbering from there. -/
structure PersistentStore.Reads
    (codec : SnapshotCodec) (config : StoreConfig)
    (store : PersistentStore) (recovery : Recovery)
    (entries : List (JournalRecord × EngineSnapshot)) (tail : Bytes) :
    Prop where
  started : loadSnapshot codec config store.files = .ok recovery
  journal :
    store.files.journal.getD [] = entryStream entries ++ tail
  readable : Readable codec config recovery.lastSequence entries
  numbered : lastNumber recovery entries ≤ store.sequence

/-- The store continues the numbering of a directory that reads whole. -/
def PersistentStore.InStep
    (codec : SnapshotCodec) (config : StoreConfig)
    (store : PersistentStore) : Prop :=
  ∃ recovery entries, store.Reads codec config recovery entries []

/-! ## Steps -/

theorem Readable.concat
    {record : JournalRecord} {state : EngineSnapshot}
    (readable : Readable codec config recovery.lastSequence entries)
    (fits : record.Fits)
    (rises : lastNumber recovery entries < record.sequence)
    (decoded : codec.decode record.payload config.limits = .ok state) :
    Readable codec config recovery.lastSequence
      (entries ++ [(record, state)]) := by
  induction entries generalizing recovery with
  | nil =>
      exact ⟨⟨fits, rises, decoded⟩, trivial⟩
  | cons entry _ hypothesis =>
      rcases entry with ⟨first, held⟩
      refine ⟨readable.1, @hypothesis ⟨held, first.sequence, {}⟩ readable.2 ?_⟩
      unfold lastNumber at rises ⊢
      rw [List.map_cons, List.getLastD_cons] at rises
      exact rises

theorem entryStream_concat
    (entries : List (JournalRecord × EngineSnapshot))
    (record : JournalRecord) (state : EngineSnapshot) :
    entryStream (entries ++ [(record, state)]) =
      entryStream entries ++ encodeJournalRecord record := by
  induction entries with
  | nil =>
      exact List.append_nil _
  | cons entry entries hypothesis =>
      change encodeJournalRecord entry.1 ++ entryStream (entries ++ _) =
        (encodeJournalRecord entry.1 ++ entryStream entries) ++ _
      rw [hypothesis, List.append_assoc]

theorem lastNumber_concat
    (recovery : Recovery)
    (entries : List (JournalRecord × EngineSnapshot))
    (record : JournalRecord) (state : EngineSnapshot) :
    lastNumber recovery (entries ++ [(record, state)]) =
      record.sequence := by
  unfold lastNumber
  rw [List.map_append, List.map_singleton, List.getLastD_concat]

section

variable {store : PersistentStore} {recovery : Recovery}
  {entries : List (JournalRecord × EngineSnapshot)} {label : Text}
  {snapshot : EngineSnapshot}

/-- A successful `persist` starts both files from its state, whatever the
directory held. -/
theorem PersistentStore.Reads.of_persist
    {next : PersistentStore} {outcome : PersistOutcome}
    (bounded : store.sequence.toNat + 2 < 2 ^ 64)
    (roundTrips :
      codec.decode (codec.encode snapshot config.limits) config.limits =
        .ok snapshot)
    (persisted :
      store.persist codec config snapshot outcome = (.ok (), next)) :
    next.sequence.toNat ≤ store.sequence.toNat + 2 ∧
      ∃ recovery entries,
        next.Reads codec config recovery entries [] ∧
          (entries.map Prod.snd).getLastD recovery.state = snapshot := by
  obtain ⟨fits, snapshots, journals, numbered⟩ :=
    PersistentStore.persist_ok persisted
  have one : (store.sequence + 1).toNat = store.sequence.toNat + 1 := by
    rw [UInt64.toNat_add, UInt64.toNat_one, Nat.mod_eq_of_lt (by omega)]
  have two : (store.sequence + 1 + 1).toNat = store.sequence.toNat + 2 := by
    rw [UInt64.toNat_add, UInt64.toNat_one, one, Nat.mod_eq_of_lt (by omega)]
  refine ⟨by rw [numbered, two], _,
    [(PersistentStore.snapshotRecord codec config (store.sequence + 1 + 1)
      snapshot, snapshot)],
    ⟨loadSnapshot_record snapshots fits roundTrips, ?_, ?_, ?_⟩, rfl⟩
  · rw [journals]
    exact (List.append_nil _).symm.trans (List.append_nil _).symm
  · refine ⟨⟨fits, ?_, roundTrips⟩, trivial⟩
    apply UInt64.lt_iff_toNat_lt.mpr
    change (store.sequence + 1).toNat < (store.sequence + 1 + 1).toNat
    omega
  · rw [numbered]
    exact UInt64.le_refl _

/-- A successful append leaves its state behind all others. -/
theorem PersistentStore.Reads.succeeded
    {next : PersistentStore} {outcome : WriteOutcome}
    {compaction : PersistOutcome}
    (reads : store.Reads codec config recovery entries [])
    (bounded : store.sequence.toNat + 3 < 2 ^ 64)
    (roundTrips :
      codec.decode (codec.encode snapshot config.limits) config.limits =
        .ok snapshot)
    (appended :
      store.append codec config label snapshot outcome compaction =
        (.ok (), next)) :
    next.sequence.toNat ≤ store.sequence.toNat + 3 ∧
      ∃ recovery entries,
        next.Reads codec config recovery entries [] ∧
          (entries.map Prod.snd).getLastD recovery.state = snapshot := by
  have one : (store.sequence + 1).toNat = store.sequence.toNat + 1 := by
    rw [UInt64.toNat_add, UInt64.toNat_one, Nat.mod_eq_of_lt (by omega)]
  obtain ⟨fits, shape⟩ := PersistentStore.append_ok appended
  split at shape
  · obtain ⟨numbered, found⟩ := Reads.of_persist
      (show (store.sequence + 1).toNat + 2 < 2 ^ 64 by omega) roundTrips shape
    change next.sequence.toNat ≤ (store.sequence + 1).toNat + 2 at numbered
    exact ⟨by omega, found⟩
  · subst shape
    refine ⟨by change (store.sequence + 1).toNat ≤ _; omega, recovery,
      entries ++ [(store.nextRecord codec config label snapshot, snapshot)],
      ⟨reads.started, ?_, ?_, ?_⟩, ?_⟩
    · change store.files.journal.getD [] ++ _ = _
      rw [reads.journal, List.append_nil, entryStream_concat,
        List.append_nil]
    · refine reads.readable.concat fits ?_ roundTrips
      apply UInt64.lt_of_le_of_lt reads.numbered
      apply UInt64.lt_iff_toNat_lt.mpr
      change _ < (store.sequence + 1).toNat
      omega
    · rw [lastNumber_concat]
      exact UInt64.le_refl _
    · rw [List.map_append, List.map_singleton, List.getLastD_concat]

theorem PersistentStore.append_interrupted
    {compaction : PersistOutcome} {written : Nat} {status : Status}
    (proper :
      written <
        (encodeJournalRecord
          (store.nextRecord codec config label snapshot)).length) :
    (store.append codec config label snapshot
        (.interrupted written status) compaction).2 =
      { store with
          files :=
            { store.files with
                journal :=
                  some
                    (store.files.journal.getD [] ++
                      (encodeJournalRecord
                        (store.nextRecord codec config label
                          snapshot)).take written) }
          sequence := store.sequence + 1 } := by
  have occupied :
      encodeJournalRecord (store.nextRecord codec config label snapshot) ≠
        [] := by
    intro empty
    rw [empty] at proper
    exact Nat.not_lt_zero _ proper
  unfold PersistentStore.append
  dsimp only
  rw [if_neg occupied]
  rfl

/-- A failed append leaves at most a tail that does not decode. -/
theorem PersistentStore.Reads.failed
    {compaction : PersistOutcome} {written : Nat} {status : Status}
    (reads : store.Reads codec config recovery entries [])
    (bounded : store.sequence.toNat + 3 < 2 ^ 64)
    (proper :
      written <
        (encodeJournalRecord
          (store.nextRecord codec config label snapshot)).length) :
    (store.append codec config label snapshot
        (.interrupted written status) compaction).2.Reads codec config
      recovery entries
      ((encodeJournalRecord
        (store.nextRecord codec config label snapshot)).take written) := by
  rw [PersistentStore.append_interrupted proper]
  refine ⟨reads.started, ?_, reads.readable, ?_⟩
  · change store.files.journal.getD [] ++ _ = _
    rw [reads.journal, List.append_nil]
  · apply UInt64.le_trans reads.numbered
    apply UInt64.le_iff_toNat_le.mpr
    change _ ≤ (store.sequence + 1).toNat
    rw [UInt64.toNat_add, UInt64.toNat_one, Nat.mod_eq_of_lt (by omega)]
    omega

end

/-! ## Runs -/

/-- Where a run of unspoiled appends ends: with the last state that was
appended, and with a tail that does not decode if there is one. -/
theorem FaultyAppends.reads
    {calls : List AppendCall}
    (appends : FaultyAppends codec config store calls final)
    (unspoiled : Unspoiled calls)
    (roundTrips :
      ∀ snapshot ∈ successes calls,
        codec.decode (codec.encode snapshot config.limits) config.limits =
          .ok snapshot)
    (bounded : store.sequence.toNat + 3 * calls.length < 2 ^ 64)
    (reads : store.Reads codec config recovery entries []) :
    ∃ recovered records tail,
      final.Reads codec config recovered records tail ∧
        (tail ≠ [] → ∃ status, decodeJournalRecord tail = .error status) ∧
        (records.map Prod.snd).getLastD recovered.state =
          (successes calls).getLastD
            ((entries.map Prod.snd).getLastD recovery.state) := by
  induction appends generalizing recovery entries with
  | done =>
      exact ⟨recovery, entries, [], reads, fun wrong => absurd rfl wrong, rfl⟩
  | @succeeded store next final label snapshot compaction calls appended
      later hypothesis =>
      rw [List.length_cons] at bounded
      obtain ⟨grown, recovered, records, nextReads, state⟩ :=
        reads.succeeded (by omega)
          (roundTrips snapshot List.mem_cons_self) appended
      obtain ⟨ended, last, tail, finalReads, torn, same⟩ :=
        hypothesis unspoiled.2
          (fun other listed =>
            roundTrips other (List.mem_cons_of_mem _ listed))
          (by omega) nextReads
      refine ⟨ended, last, tail, finalReads, torn, ?_⟩
      rw [same, state]
      exact (List.getLastD_cons).symm
  | @failed store final label snapshot compaction calls written status
      proper later hypothesis =>
      rw [List.length_cons] at bounded
      have step :
          (store.append codec config label snapshot
            (.interrupted written status) compaction).2.Reads codec config
            recovery entries
            ((encodeJournalRecord
              (store.nextRecord codec config label snapshot)).take
              written) :=
        reads.failed (by omega) proper
      by_cases untouched : written = 0
      · subst untouched
        rw [List.take_zero] at step
        refine hypothesis unspoiled.2 roundTrips ?_ step
        rw [PersistentStore.append_interrupted proper]
        change (store.sequence + 1).toNat + 3 * calls.length < 2 ^ 64
        rw [UInt64.toNat_add, UInt64.toNat_one,
          Nat.mod_eq_of_lt (by omega)]
        omega
      · -- This was the last call.
        obtain rfl :=
          unspoiled.1 ⟨written, rfl, Nat.pos_of_ne_zero untouched⟩
        cases later
        refine ⟨recovery, entries, _, step, fun _ => ?_, rfl⟩
        exact decode_torn (List.take_prefix _ _)
          ((List.length_take_le _ _).trans_lt proper)

/-- Every append that gets as far as the file leaves a journal. -/
theorem FaultyAppends.journal_present
    {calls : List AppendCall}
    (appends : FaultyAppends codec config store calls final)
    (present : calls ≠ [] ∨ store.files.journal ≠ none) :
    final.files.journal ≠ none := by
  induction appends with
  | done =>
      exact present.resolve_left (fun wrong => wrong rfl)
  | succeeded appended _ hypothesis =>
      refine hypothesis (.inr ?_)
      have shape := (PersistentStore.append_ok appended).2
      split at shape
      · rw [(PersistentStore.persist_ok shape).2.2.1]
        exact Option.some_ne_none _
      · rw [shape]
        exact Option.some_ne_none _
  | failed _ _ proper _ hypothesis =>
      refine hypothesis (.inr ?_)
      rw [PersistentStore.append_interrupted proper]
      exact Option.some_ne_none _

/-- What a directory that reads up to a tail loads as. -/
theorem PersistentStore.Reads.load
    {tail : Bytes}
    (reads : store.Reads codec config recovery entries tail)
    (torn : tail ≠ [] → ∃ status, decodeJournalRecord tail = .error status)
    (present : store.files.journal ≠ none)
    (bounded :
      ∀ journal ∈ store.files.journal, journal.length ≤ maxFileBytes) :
    (PersistentStore.load codec config store.files).1 =
      .ok ((entries.map Prod.snd).getLastD recovery.state) := by
  obtain ⟨journal, found⟩ := Option.ne_none_iff_exists'.mp present
  have bytes := reads.journal
  rw [found, Option.getD_some] at bytes
  subst bytes
  have loaded :=
    load_replays reads.started found (bounded _ found) reads.readable
  dsimp only at loaded
  rw [loaded]
  refine congrArg Except.ok ?_
  by_cases empty : tail = []
  · subst empty
    rw [replayJournal_nil, Recovery.applyAll_state]
  · obtain ⟨status, undecodable⟩ := torn empty
    have refused (recovery : Recovery) :
        replayRecord codec config recovery tail =
          .error (ascii "journal tail discarded: " ++ status.toText) := by
      rw [replayRecord, undecodable]
    rw [replayJournal_refused _ (refused _), Recovery.applyAll_state]

/--
Whatever appends fail, recovery returns the state of the last one that
succeeded, as long as nothing is appended behind a part of a record and the
store continues the numbers of its directory.
-/
theorem failed_append_spares_later_ones
    (codec : SnapshotCodec) (config : StoreConfig)
    {store final : PersistentStore} {calls : List AppendCall}
    (appends : FaultyAppends codec config store calls final)
    (inStep : store.InStep codec config)
    (few : store.sequence.toNat + 3 * calls.length < 2 ^ 64)
    (unspoiled : Unspoiled calls)
    (roundTrips :
      ∀ snapshot ∈ successes calls,
        codec.decode (codec.encode snapshot config.limits) config.limits =
          .ok snapshot)
    (bounded :
      ∀ journal ∈ final.files.journal, journal.length ≤ maxFileBytes)
    {last : EngineSnapshot}
    (succeeded : (successes calls).getLast? = some last) :
    (PersistentStore.load codec config final.files).1 = .ok last := by
  obtain ⟨recovery, entries, reads⟩ := inStep
  obtain ⟨recovered, records, tail, finalReads, torn, same⟩ :=
    appends.reads unspoiled roundTrips few reads
  have called : calls ≠ [] := by
    rintro rfl
    cases succeeded
  rw [finalReads.load torn (appends.journal_present (.inl called)) bounded,
    same, List.getLastD_eq_getLast?, succeeded]
  rfl

namespace Sample

theorem persistedStore_inStep :
    persistedStore.InStep countingCodec storeConfig := by
  obtain ⟨fits, snapshots, journals, numbered⟩ :=
    PersistentStore.persist_ok persistedStore_eq
  refine ⟨_, [(PersistentStore.snapshotRecord countingCodec storeConfig 2
    (counted 0), counted 0)],
    ⟨loadSnapshot_record snapshots fits (counted_roundTrips 0 _), ?_, ?_, ?_⟩⟩
  · rw [journals]
    exact (List.append_nil _).symm.trans (List.append_nil _).symm
  · exact ⟨⟨fits, by decide, counted_roundTrips 0 _⟩, trivial⟩
  · rw [numbered]
    decide

/-- A store whose second append failed after five bytes. -/
def interruptedStore : PersistentStore :=
  (appendedStore.append countingCodec storeConfig (ascii "submit")
    (counted 2) (.interrupted 5 (.error .internal "disk full")) {}).2

/-- A store whose first append failed after five bytes, and which went on. -/
def spoiledStore : PersistentStore :=
  ((persistedStore.append countingCodec storeConfig (ascii "submit")
    (counted 1) (.interrupted 5 (.error .internal "disk full"))
    {}).2.append countingCodec storeConfig (ascii "submit") (counted 2)
      .completed {}).2

end Sample

/-- A failed append behind a successful one. -/
theorem failed_append_spares_earlier_one :
    (PersistentStore.load Sample.countingCodec Sample.storeConfig
      Sample.interruptedStore.files).1 = .ok (Sample.counted 1) := by
  have appends :
      FaultyAppends Sample.countingCodec Sample.storeConfig
        Sample.persistedStore
        [⟨ascii "submit", Sample.counted 1, none⟩,
          ⟨ascii "submit", Sample.counted 2, some 5⟩]
        Sample.interruptedStore :=
    .succeeded Sample.appendedStore_eq
      (.failed 5 (.error .internal "disk full") (by decide +kernel)
        (.done _))
  have few : Sample.persistedStore.sequence.toNat + 3 * 2 < 2 ^ 64 := by
    decide +kernel
  have bounded :
      ∀ journal ∈ Sample.interruptedStore.files.journal,
        journal.length ≤ maxFileBytes := by
    decide +kernel
  refine failed_append_spares_later_ones Sample.countingCodec
    Sample.storeConfig appends Sample.persistedStore_inStep few
    ⟨fun ⟨_, wrong, _⟩ => (nomatch wrong), fun _ => rfl, trivial⟩ ?_ bounded
    rfl
  intro snapshot listed
  obtain rfl := List.mem_singleton.mp listed
  exact Sample.counted_roundTrips 1 _

/-- The append that succeeds behind a part of a record is lost. -/
theorem failed_append_poisons_next :
    FaultyAppends Sample.countingCodec Sample.storeConfig
        Sample.persistedStore
        [⟨ascii "submit", Sample.counted 1, some 5⟩,
          ⟨ascii "submit", Sample.counted 2, none⟩]
        Sample.spoiledStore ∧
      (PersistentStore.load Sample.countingCodec Sample.storeConfig
        Sample.spoiledStore.files).1 = .ok (Sample.counted 0) := by
  refine ⟨?_, by decide +kernel⟩
  refine @FaultyAppends.failed _ _ _ _ _ _ {} _ 5
    (.error .internal "disk full") (by decide +kernel) ?_
  exact @FaultyAppends.succeeded _ _ _ _ _ _ _ {} _
    (Prod.ext (by decide +kernel) rfl) (.done _)

end TrafficFabric
