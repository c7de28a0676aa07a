import TrafficFabric.Store.Recovery

/-!
# Torn tails

One `persist` followed by appends leaves a journal whose records rise in
sequence from the snapshot's.  When the file is cut anywhere, `load` still
succeeds: it returns the state of the last record that is whole, and reports
the bytes after it as discarded.
-/

namespace TrafficFabric

open Foundation Foundation.Frames

variable {final : PersistentStore} {updates : List (Text × EngineSnapshot)}
  {sequence : UInt64} {entries : List (JournalRecord × EngineSnapshot)}
  {files : StoreFiles}

variable {codec : SnapshotCodec} {config : StoreConfig}

/-- Successful appends of one instance, none of which compacts. -/
inductive Appends (codec : SnapshotCodec) (config : StoreConfig) :
    PersistentStore → List (Text × EngineSnapshot) → PersistentStore → Prop
  | done (store : PersistentStore) : Appends codec config store [] store
  | step
      {store next final : PersistentStore} {label : Text}
      {snapshot : EngineSnapshot} {outcome : WriteOutcome}
      {compaction : PersistOutcome}
      {updates : List (Text × EngineSnapshot)}
      (appended :
        store.append codec config label snapshot outcome compaction =
          (.ok (), next))
      (small : ¬store.Compacts codec config label snapshot)
      (later : Appends codec config next updates final) :
      Appends codec config store ((label, snapshot) :: updates) final

/-- The records of such appends, each with the state it carries. -/
def appendedEntries
    (codec : SnapshotCodec) (config : StoreConfig) (sequence : UInt64) :
    List (Text × EngineSnapshot) → List (JournalRecord × EngineSnapshot)
  | [] => []
  | (label, snapshot) :: updates =>
      (⟨sequence + 1, label, codec.encode snapshot config.limits⟩,
          snapshot) ::
        appendedEntries codec config (sequence + 1) updates

/-- The records of a journal that `persist` began under this number. -/
def journalEntries
    (codec : SnapshotCodec) (config : StoreConfig) (sequence : UInt64)
    (first : EngineSnapshot) (updates : List (Text × EngineSnapshot)) :
    List (JournalRecord × EngineSnapshot) :=
  (PersistentStore.snapshotRecord codec config sequence first, first) ::
    appendedEntries codec config sequence updates

theorem map_snd_appendedEntries
    (sequence : UInt64) (updates : List (Text × EngineSnapshot)) :
    (appendedEntries codec config sequence updates).map Prod.snd =
      updates.map Prod.snd := by
  induction updates generalizing sequence with
  | nil => rfl
  | cons update _ mapped =>
    exact congrArg (update.2 :: ·) (mapped (sequence + 1))

theorem map_snd_journalEntries
    (sequence : UInt64) (first : EngineSnapshot)
    (updates : List (Text × EngineSnapshot)) :
    (journalEntries codec config sequence first updates).map Prod.snd =
      first :: updates.map Prod.snd :=
  congrArg (first :: ·) (map_snd_appendedEntries sequence updates)

/-- Appends leave the snapshot and add their records, which fit. -/
theorem Appends.written
    {store : PersistentStore}
    (appends : Appends codec config store updates final)
    {journal : Bytes} (present : store.files.journal = some journal) :
    final.files.snapshot = store.files.snapshot ∧
      final.files.journal =
        some
          (journal ++
            entryStream
              (appendedEntries codec config store.sequence updates)) ∧
      ∀ entry ∈ appendedEntries codec config store.sequence updates,
        entry.1.Fits := by
  induction appends generalizing journal with
  | done =>
    refine ⟨rfl, ?_, fun entry listed => nomatch listed⟩
    rw [present]
    exact congrArg some (List.append_nil journal).symm
  | @step store next final label snapshot outcome compaction updates
      appended small later written =>
    obtain ⟨fits, shape⟩ := PersistentStore.append_ok appended
    rw [if_neg small, present] at shape
    subst shape
    obtain ⟨snapshots, journals, fit⟩ := written rfl
    refine ⟨snapshots, ?_, ?_⟩
    · rw [journals]
      exact congrArg some (List.append_assoc _ _ _)
    · intro entry listed
      rcases List.mem_cons.mp listed with rfl | further
      · exact fits
      · exact fit entry further

/-- Numbers that do not wrap rise. -/
theorem lt_succ_of_no_wrap
    (bounded : sequence.toNat + 1 < 2 ^ 64) :
    sequence < sequence + 1 := by
  rw [UInt64.lt_iff_toNat_lt, UInt64.toNat_add, UInt64.toNat_one,
    Nat.mod_eq_of_lt bounded]
  exact Nat.lt_succ_self _

theorem readable_appendedEntries
    (fit :
      ∀ entry ∈ appendedEntries codec config sequence updates,
        entry.1.Fits)
    (roundTrips :
      ∀ snapshot ∈ updates.map Prod.snd,
        codec.decode (codec.encode snapshot config.limits) config.limits =
          .ok snapshot)
    (bounded : sequence.toNat + updates.length < 2 ^ 64) :
    Readable codec config sequence
      (appendedEntries codec config sequence updates) := by
  induction updates generalizing sequence with
  | nil => trivial
  | cons update updates readable =>
    obtain ⟨label, snapshot⟩ := update
    have wide : sequence.toNat + (updates.length + 1) < 2 ^ 64 := bounded
    have next : (sequence + 1).toNat = sequence.toNat + 1 := by
      rw [UInt64.toNat_add, UInt64.toNat_one, Nat.mod_eq_of_lt (by omega)]
    refine
      ⟨⟨fit _ List.mem_cons_self, lt_succ_of_no_wrap (by omega),
        roundTrips snapshot List.mem_cons_self⟩, readable ?_ ?_ ?_⟩
    · exact fun entry listed => fit entry (List.mem_cons_of_mem _ listed)
    · exact fun later listed =>
        roundTrips later (List.mem_cons_of_mem _ listed)
    · change (sequence + 1).toNat + updates.length < 2 ^ 64
      rw [next]
      omega

/-- The first of readable records are readable. -/
theorem Readable.take
    {last : UInt64}
    (readable : Readable codec config last entries) (count : Nat) :
    Readable codec config last (entries.take count) := by
  induction entries generalizing last count with
  | nil =>
    rw [List.take_nil]
    trivial
  | cons _ _ taken =>
    cases count with
    | zero => trivial
    | succ count => exact ⟨readable.1, taken readable.2 count⟩

/--
`load` of a cut journal: the state of the last whole record, and a report of
exactly the bytes behind it.
-/
theorem load_cut
    {recovery : Recovery}
    {size whole : Nat} {tail : Bytes}
    (started : loadSnapshot codec config files = .ok recovery)
    (clean :
      recovery.report.tornTail = false ∧
        recovery.report.discardedBytes = 0)
    (readable : Readable codec config recovery.lastSequence entries)
    (cut :
      IsCut encodeJournalRecord (entries.map Prod.fst) size whole tail)
    (present : files.journal = some ((entryStream entries).take size))
    (bounded : ((entryStream entries).take size).length ≤ maxFileBytes) :
    (PersistentStore.load codec config files).1 =
        .ok
          (((entries.map Prod.snd).take whole).getLastD recovery.state) ∧
      ((PersistentStore.load codec config files).2.tornTail = true ↔
        tail ≠ []) ∧
      (PersistentStore.load codec config files).2.discardedBytes =
        tail.length := by
  have bytes :
      (entryStream entries).take size =
        entryStream (entries.take whole) ++ tail := by
    rw [entryStream, entryStream, List.map_take]
    exact cut.bytes
  rw [bytes] at present bounded
  have loaded := load_replays started present bounded (readable.take whole)
  set begun : Recovery :=
    { recovery with
        report := { recovery.report with journalPresent := true } }
  obtain ⟨untorn, undiscarded⟩ :=
    begun.applyAll_report (entries.take whole)
  have state :
      (begun.applyAll (entries.take whole)).state =
        ((entries.map Prod.snd).take whole).getLastD recovery.state := by
    rw [begun.applyAll_state, List.map_take]
  by_cases empty : tail = []
  · subst empty
    rw [replayJournal_nil] at loaded
    rw [loaded]
    refine ⟨congrArg Except.ok state, ?_, undiscarded.trans clean.2⟩
    rw [untorn, show begun.report.tornTail = false from clean.1]
    exact ⟨fun wrong => (nomatch wrong), fun wrong => absurd rfl wrong⟩
  · -- What is left is a proper prefix of the next record.
    obtain ⟨record, next⟩ :
        ∃ record, (entries.map Prod.fst)[whole]? = some record := by
      refine ⟨_, List.getElem?_eq_getElem ?_⟩
      exact Nat.lt_of_le_of_ne cut.within (fun all => empty (cut.ended all))
    obtain ⟨proper, short⟩ := cut.torn record next
    obtain ⟨status, undecodable⟩ := decode_torn proper short
    have counted := (readable.take whole).length_le
    have occupied := List.length_pos_iff.mpr empty
    obtain ⟨fuel, enough⟩ :
        ∃ fuel,
          (entryStream (entries.take whole) ++ tail).length -
              (entries.take whole).length =
            fuel + 1 := by
      refine ⟨_, (Nat.succ_pred_eq_of_pos ?_).symm⟩
      rw [List.length_append]
      omega
    rw [enough, replayJournal_torn empty undecodable] at loaded
    rw [loaded]
    refine ⟨congrArg Except.ok state, iff_of_true rfl empty, ?_⟩
    rw [Recovery.discard, undiscarded,
      show begun.report.discardedBytes = 0 from clean.2, Nat.zero_add]

/-! ## One instance -/

/-- The files after one `persist` of an opened store and appends. -/
theorem journalEntries_written
    {refusal : Option Status}
    {opened persisted : PersistentStore} {first : EngineSnapshot}
    {outcome : PersistOutcome}
    (opens : PersistentStore.open config files refusal = .ok opened)
    (persists :
      opened.persist codec config first outcome = (.ok (), persisted))
    (appends : Appends codec config persisted updates final) :
    final.files.snapshot =
        some
          (encodeJournalRecord
            (PersistentStore.snapshotRecord codec config 1 first)) ∧
      final.files.journal =
        some
          (entryStream (journalEntries codec config 2 first updates)) ∧
      (PersistentStore.snapshotRecord codec config 1 first).Fits ∧
      ∀ entry ∈ journalEntries codec config 2 first updates,
        entry.1.Fits := by
  have fresh : opened.sequence = 0 := by
    unfold PersistentStore.open at opens
    rw [bind_eq_ok] at opens
    obtain ⟨_, _, opens⟩ := opens
    cases refusal with
    | some => cases opens
    | none =>
      cases opens
      rfl
  obtain ⟨fits, snapshots, journals, numbered⟩ :=
    PersistentStore.persist_ok persists
  rw [fresh] at fits snapshots journals numbered
  obtain ⟨kept, extended, fit⟩ := appends.written journals
  rw [show persisted.sequence = 2 from numbered] at extended fit
  refine ⟨kept.trans snapshots, extended, fits, ?_⟩
  intro entry listed
  rcases List.mem_cons.mp listed with rfl | further
  · exact fits
  · exact fit entry further

/-- Every record takes a header, so a readable journal has few of them. -/
theorem length_appendedEntries_le
    (fit :
      ∀ entry ∈ appendedEntries codec config sequence updates,
        entry.1.Fits) :
    updates.length ≤
      (entryStream (appendedEntries codec config sequence updates)).length := by
  induction updates generalizing sequence with
  | nil => exact Nat.zero_le _
  | cons update updates counted =>
    have rest :=
      counted (fun entry listed => fit entry (List.mem_cons_of_mem _ listed))
    have front := length_encodeJournalRecord (fit _ List.mem_cons_self)
    have split :
        (entryStream
            (appendedEntries codec config sequence
              (update :: updates))).length =
          (encodeJournalRecord
              ⟨sequence + 1, update.1,
                codec.encode update.2 config.limits⟩).length +
            (entryStream
              (appendedEntries codec config (sequence + 1)
                updates)).length :=
      List.length_append
    rw [journalHeaderBytes] at front
    rw [split, front, List.length_cons]
    omega

/--
However the journal of one `persist` and its appends is cut, `load` returns
the state of the last whole record, or the first state when there is none.
It reports a torn tail when the cut is not on a boundary, and the bytes
between the last boundary and the cut as discarded.
-/
theorem load_recovers_cut_journal
    (codec : SnapshotCodec) (config : StoreConfig)
    {files : StoreFiles} {refusal : Option Status}
    {opened persisted final : PersistentStore} {first : EngineSnapshot}
    {outcome : PersistOutcome} {updates : List (Text × EngineSnapshot)}
    {journal : Bytes}
    (opens : PersistentStore.open config files refusal = .ok opened)
    (persists :
      opened.persist codec config first outcome = (.ok (), persisted))
    (appends : Appends codec config persisted updates final)
    (roundTrips :
      ∀ snapshot ∈ first :: updates.map Prod.snd,
        codec.decode (codec.encode snapshot config.limits) config.limits =
          .ok snapshot)
    (present : final.files.journal = some journal)
    (bounded : journal.length ≤ maxFileBytes)
    (size : Nat) (inside : size ≤ journal.length) :
    let records :=
      (journalEntries codec config 2 first updates).map Prod.fst
    let loaded :=
      PersistentStore.load codec config
        { final.files with journal := some (journal.take size) }
    journal = stream encodeJournalRecord records ∧
      ∃ whole ≤ records.length,
        boundary encodeJournalRecord records whole ≤ size ∧
        (∀ count ≤ records.length,
          boundary encodeJournalRecord records count ≤ size →
            count ≤ whole) ∧
        loaded.1 =
          .ok
            (((first :: updates.map Prod.snd).take whole).getLastD first) ∧
        (loaded.2.tornTail = true ↔
          ¬∃ count ≤ records.length,
            boundary encodeJournalRecord records count = size) ∧
        loaded.2.discardedBytes =
          size - boundary encodeJournalRecord records whole := by
  intro records loaded
  obtain ⟨snapshots, journals, fits, fit⟩ :=
    journalEntries_written opens persists appends
  obtain rfl : entryStream (journalEntries codec config 2 first updates) =
      journal :=
    Option.some.inj (journals.symm.trans present)
  refine ⟨rfl, ?_⟩
  have kept :
      { final.files with
          journal :=
            some
              ((entryStream
                (journalEntries codec config 2 first updates)).take
                size) }.snapshot =
        some
          (encodeJournalRecord
            (PersistentStore.snapshotRecord codec config 1 first)) :=
    snapshots
  have started :=
    loadSnapshot_record kept fits (roundTrips first List.mem_cons_self)
  have few : updates.length < 2 ^ 63 := by
    have counted :=
      length_appendedEntries_le
        (fun entry listed => fit entry (List.mem_cons_of_mem _ listed))
    have split :
        (entryStream (journalEntries codec config 2 first updates)).length =
          (encodeJournalRecord
              (PersistentStore.snapshotRecord codec config 2 first)).length +
            (entryStream
              (appendedEntries codec config 2 updates)).length :=
      List.length_append
    rw [split] at bounded
    have limit : maxFileBytes < 2 ^ 63 := by decide
    omega
  have readable :
      Readable codec config 1
        (journalEntries codec config 2 first updates) := by
    refine ⟨⟨fits, show (1 : UInt64) < 2 by decide,
      roundTrips first List.mem_cons_self⟩, ?_⟩
    refine readable_appendedEntries ?_ ?_ ?_
    · exact fun entry listed => fit entry (List.mem_cons_of_mem _ listed)
    · exact fun later listed =>
        roundTrips later (List.mem_cons_of_mem _ listed)
    · change 2 + updates.length < 2 ^ 64
      omega
  obtain ⟨whole, tail, cut⟩ := exists_cut encodeJournalRecord records size
  have extent := cut.size_eq inside
  have shorter :
      ((entryStream (journalEntries codec config 2 first updates)).take
        size).length ≤ maxFileBytes :=
    Nat.le_trans (List.length_take_le' _ _) bounded
  obtain ⟨state, torn, discarded⟩ :=
    load_cut started ⟨rfl, rfl⟩ readable cut rfl shorter
  rw [map_snd_journalEntries] at state
  refine ⟨whole, cut.within, by omega, ?_, state, ?_, ?_⟩
  · exact fun count counted reached => cut.greatest inside counted reached
  · rw [torn, ne_eq, cut.tail_eq_nil_iff inside]
  · exact discarded.trans (by omega)

namespace Sample

/-- A codec for states that have only processed commands. -/
def countingCodec : SnapshotCodec where
  encode snapshot _ := bigEndian64 snapshot.commandsProcessed
  decode data _ :=
    if data.length = 8 then .ok { commandsProcessed := readWord64 data 0 }
    else .error (.error .truncatedInput "not a counter")

def storeConfig : StoreConfig := { directory := ascii "store" }

/-- The state after some commands. -/
def counted (commands : UInt64) : EngineSnapshot :=
  { commandsProcessed := commands }

def persistedStore : PersistentStore :=
  (PersistentStore.persist countingCodec storeConfig { files := {} }
    (counted 0) {}).2

def appendedStore : PersistentStore :=
  (persistedStore.append countingCodec storeConfig (ascii "submit")
    (counted 1) .completed {}).2

theorem counted_roundTrips (commands : UInt64) (limits : Limits) :
    countingCodec.decode
        (countingCodec.encode (counted commands) limits) limits =
      .ok (counted commands) := by
  have read :
      readWord64 (bigEndian64 commands) 0 = commands :=
    readWord64_eq
      (rfl : (bigEndian64 commands).drop 0 = bigEndian64 commands ++ [])
  exact congrArg (fun word => Except.ok (counted word)) read

theorem persistedStore_eq :
    PersistentStore.persist countingCodec storeConfig { files := {} }
        (counted 0) {} =
      (.ok (), persistedStore) :=
  Prod.ext (by decide +kernel) rfl

theorem appendedStore_eq :
    persistedStore.append countingCodec storeConfig (ascii "submit")
        (counted 1) .completed {} =
      (.ok (), appendedStore) :=
  Prod.ext (by decide +kernel) rfl

end Sample

/-- A journal of two records cut inside the second. -/
theorem load_recovers_cut_journal_inside_second :
    ∃ journal,
      Sample.appendedStore.files.journal = some journal ∧
      60 ≤ journal.length ∧
      let records :=
        (journalEntries Sample.countingCodec Sample.storeConfig 2
          (Sample.counted 0)
          [(ascii "submit", Sample.counted 1)]).map Prod.fst
      let loaded :=
        PersistentStore.load Sample.countingCodec Sample.storeConfig
          { Sample.appendedStore.files with
              journal := some (journal.take 60) }
      journal = stream encodeJournalRecord records ∧
        ∃ whole ≤ records.length,
          boundary encodeJournalRecord records whole ≤ 60 ∧
          (∀ count ≤ records.length,
            boundary encodeJournalRecord records count ≤ 60 →
              count ≤ whole) ∧
          loaded.1 =
            .ok
              (((Sample.counted 0 ::
                  [(ascii "submit", Sample.counted 1)].map
                    Prod.snd).take whole).getLastD (Sample.counted 0)) ∧
          (loaded.2.tornTail = true ↔
            ¬∃ count ≤ records.length,
              boundary encodeJournalRecord records count = 60) ∧
          loaded.2.discardedBytes =
            60 - boundary encodeJournalRecord records whole := by
  have opens :
      PersistentStore.open Sample.storeConfig {} none =
        .ok { files := {} } :=
    rfl
  have appends :
      Appends Sample.countingCodec Sample.storeConfig Sample.persistedStore
        [(ascii "submit", Sample.counted 1)] Sample.appendedStore :=
    .step Sample.appendedStore_eq (by decide +kernel) (.done _)
  have roundTrips :
      ∀ snapshot ∈ Sample.counted 0 :: [Sample.counted 1],
        Sample.countingCodec.decode
            (Sample.countingCodec.encode snapshot Sample.storeConfig.limits)
            Sample.storeConfig.limits =
          .ok snapshot := by
    intro snapshot listed
    rcases List.mem_cons.mp listed with rfl | further
    · exact Sample.counted_roundTrips 0 _
    · obtain rfl := List.mem_singleton.mp further
      exact Sample.counted_roundTrips 1 _
  obtain ⟨journal, present⟩ :
      ∃ journal, Sample.appendedStore.files.journal = some journal :=
    Option.isSome_iff_exists.mp (by decide +kernel)
  have extent : journal.length = 86 := by
    have measured :
        Sample.appendedStore.files.journal.map List.length = some 86 := by
      decide +kernel
    rw [present] at measured
    exact Option.some.inj measured
  have bounded : journal.length ≤ maxFileBytes := by
    rw [extent]
    decide
  have inside : 60 ≤ journal.length := by
    rw [extent]
    decide
  have recovered :=
    load_recovers_cut_journal Sample.countingCodec Sample.storeConfig opens
      Sample.persistedStore_eq appends roundTrips present bounded 60 inside
  refine ⟨journal, present, inside, ?_⟩
  dsimp only at recovered ⊢
  exact recovered

end TrafficFabric
