import Mathlib.Data.List.Sort
import TrafficFabric.Engine.Deadlines

/-!
# Listing the sessions

`list_sessions` walks the session table and stops taking sessions at its bound
before it sorts.  The table is a hash table, so which sessions are taken is
decided by its iteration order as soon as there are more of them than the
bound.
-/

namespace TrafficFabric

open Foundation

/-- What a listing says of a session. -/
structure SessionSummary where
  session : SessionId
  checkpoint : CheckpointId
  checkpointGeneration : CheckpointGeneration
  workload : WorkloadId
  state : SessionState
  evidence : EvidenceLevel
  declaredBytes : UInt64
  transferredBytes : UInt64
  verifiedBytes : UInt64
  updatedAt : Nanos
deriving DecidableEq

def SessionRecord.summary (session : SessionRecord) : SessionSummary where
  session := session.id
  checkpoint := session.request.checkpoint
  checkpointGeneration := session.request.checkpointGeneration
  workload := session.request.workload
  state := session.state
  evidence := session.evidence
  declaredBytes := session.request.manifest.totalBytes
  transferredBytes := session.transferredBytes
  verifiedBytes := session.verifiedBytes
  updatedAt := session.updatedAt

namespace SessionSummary

/-- The comparison of the sort: by time of update, then by identity, whose
bytes compare lexicographically. -/
def before (left right : SessionSummary) : Bool :=
  if left.updatedAt ≠ right.updatedAt then left.updatedAt < right.updatedAt
  else left.session.value.bytes < right.session.value.bytes

/-- The weak order of the sort. -/
def notAfter (left right : SessionSummary) : Bool := !right.before left

end SessionSummary

namespace Engine

/-- The bound of a listing; no limit stands for 64. -/
def listingBound (engine : Engine) (limit : Nat) : Nat :=
  min (if limit = 0 then 64 else limit) engine.limits.maxSessions.toNat

/-- The loop body of `list_sessions`. -/
def appendSummary
    (bound : Nat) (out : List SessionSummary) (session : SessionRecord) :
    List SessionSummary :=
  if bound ≤ out.length then out else out ++ [session.summary]

/-- `list_sessions`.  The identities of a table are distinct, so `std::sort`
and the merge sort agree. -/
def listSessions
    (engine : Engine) (workload : Option WorkloadId) (limit : Nat) :
    List SessionSummary :=
  let bound := engine.listingBound limit
  match workload with
  | some own =>
      match engine.byWorkload.lookup own with
      | none => []
      | some ids =>
          (ids.filterMap (fun id => engine.sessions.lookup id)).foldl
            (appendSummary bound) []
  | none =>
      let out := engine.sessions.values.foldl (appendSummary bound) []
      (out.mergeSort SessionSummary.notAfter).take bound

/-- The listing of the whole table. -/
def sortedSummaries (engine : Engine) : List SessionSummary :=
  (engine.sessions.values.map SessionRecord.summary).mergeSort
    SessionSummary.notAfter

end Engine

/-! ## The order -/

/-- The bytes are all there is to an identity. -/
theorem Uuid128.eq_of_bytes
    {left right : Uuid128} (same : left.bytes = right.bytes) :
    left = right := by
  rcases left with ⟨bytes, size⟩
  cases same
  rfl

namespace SessionSummary

theorem before_iff {left right : SessionSummary} :
    left.before right = true ↔
      left.updatedAt < right.updatedAt ∨
        left.updatedAt = right.updatedAt ∧
          left.session.value.bytes < right.session.value.bytes := by
  unfold before
  split
  · rename_i differs
    simp [differs]
  · rename_i same
    rw [not_not] at same
    simp [same, Int64.lt_irrefl]

theorem notAfter_iff {left right : SessionSummary} :
    left.notAfter right = true ↔
      left.updatedAt < right.updatedAt ∨
        left.updatedAt = right.updatedAt ∧
          ¬ right.session.value.bytes < left.session.value.bytes := by
  unfold notAfter
  rw [Bool.not_eq_true', ← Bool.not_eq_true, before_iff, not_or, not_and,
    Int64.not_lt]
  constructor
  · rintro ⟨ordered, last⟩
    rcases Int64.lt_or_eq_of_le ordered with earlier | same
    · exact .inl earlier
    · exact .inr ⟨same, last same.symm⟩
  · rintro (earlier | ⟨same, last⟩)
    · refine ⟨Int64.le_of_lt earlier, fun same => ?_⟩
      rw [same] at earlier
      exact absurd earlier Int64.lt_irrefl
    · exact ⟨Int64.le_of_eq same, fun _ => last⟩

theorem notAfter_trans (first second third : SessionSummary)
    (left : first.notAfter second = true)
    (right : second.notAfter third = true) :
    first.notAfter third = true := by
  rw [notAfter_iff] at left right ⊢
  rcases left with earlier | ⟨same, lower⟩
  · rcases right with later | ⟨equal, _⟩
    · exact .inl (Int64.lt_trans earlier later)
    · exact .inl (equal ▸ earlier)
  · rcases right with later | ⟨equal, upper⟩
    · exact .inl (same ▸ later)
    · refine .inr ⟨same.trans equal, ?_⟩
      rw [List.not_lt] at lower upper ⊢
      exact List.le_trans lower upper

theorem notAfter_total (left right : SessionSummary) :
    (left.notAfter right || right.notAfter left) = true := by
  rw [Bool.or_eq_true, notAfter_iff, notAfter_iff]
  rcases Int64.le_total left.updatedAt right.updatedAt with ordered | ordered
  all_goals rcases Int64.lt_or_eq_of_le ordered with earlier | same
  · exact .inl (.inl earlier)
  · rcases List.le_total left.session.value.bytes
      right.session.value.bytes with lower | lower
    · exact .inl (.inr ⟨same, List.not_lt.mpr lower⟩)
    · exact .inr (.inr ⟨same.symm, List.not_lt.mpr lower⟩)
  · exact .inr (.inl earlier)
  · rcases List.le_total left.session.value.bytes
      right.session.value.bytes with lower | lower
    · exact .inl (.inr ⟨same.symm, List.not_lt.mpr lower⟩)
    · exact .inr (.inr ⟨same, List.not_lt.mpr lower⟩)

/-- Two summaries that do not follow each other are of the same session. -/
theorem session_eq_of_notAfter {left right : SessionSummary}
    (first : left.notAfter right = true)
    (second : right.notAfter left = true) : left.session = right.session := by
  rw [notAfter_iff] at first second
  rcases first with earlier | ⟨_, lower⟩
  · rcases second with later | ⟨same, _⟩
    · exact absurd later (Int64.lt_asymm earlier)
    · rw [same] at earlier
      exact absurd earlier Int64.lt_irrefl
  · rcases second with later | ⟨_, upper⟩
    · rename_i same
      rw [same] at later
      exact absurd later Int64.lt_irrefl
    · rw [List.not_lt] at lower upper
      have bytes := List.le_antisymm lower upper
      exact congrArg StrongId.mk (Uuid128.eq_of_bytes bytes)

end SessionSummary

/-! ## The walk -/

namespace Engine

theorem foldl_appendSummary
    (bound : Nat) (sessions : List SessionRecord)
    (out : List SessionSummary) (short : out.length ≤ bound) :
    sessions.foldl (appendSummary bound) out =
      (out ++ sessions.map SessionRecord.summary).take bound := by
  induction sessions generalizing out with
  | nil =>
      rw [List.map_nil, List.append_nil, List.take_of_length_le short]
      rfl
  | cons _ _ hypothesis =>
      rw [List.foldl_cons, List.map_cons]
      unfold appendSummary
      by_cases full : bound ≤ out.length
      · have reached : out.length = bound := Nat.le_antisymm short full
        rw [if_pos full]
        refine (hypothesis out short).trans ?_
        rw [← reached, List.take_left, List.take_left]
      · rw [if_neg full]
        refine (hypothesis _ ?_).trans ?_
        · rw [List.length_append, List.length_singleton]
          omega
        · rw [List.append_assoc, List.singleton_append]

/-- A listing sorts what the walk takes. -/
theorem listSessions_none (engine : Engine) (limit : Nat) :
    engine.listSessions none limit =
      ((engine.sessions.values.map SessionRecord.summary).take
        (engine.listingBound limit)).mergeSort SessionSummary.notAfter := by
  unfold listSessions
  dsimp only
  rw [foldl_appendSummary _ _ _ (Nat.zero_le _), List.nil_append]
  refine List.take_of_length_le ?_
  rw [List.length_mergeSort]
  exact List.length_take_le _ _

end Engine

/-! ## Iteration orders -/

/-- Every reachable table stores its sessions under their identities. -/
theorem Engine.Keyed.run
    {config : EngineConfig} {boot : Nanos} {history : List Event}
    {engine : Engine} (run : EngineRun config boot history engine) :
    engine.Keyed := by
  refine Run.invariant ?_ ?_ run
  · intro id session found
    rw [(Engine.construct_blank config boot).1] at found
    cases found
  · rintro state event next step keyed
    cases step with
    | call now command =>
        by_cases restoring : ∃ snapshot, command = .restore snapshot
        · rcases restoring with ⟨snapshot, rfl⟩
          exact Engine.restore_keyed keyed now snapshot
        · exact Edits.keyed (Engine.execute_edits anyPermits_routine state
            now command (Permits.Grounds.allow (.free state now command)
              (fun snapshot same => restoring ⟨snapshot, same⟩))) keyed
    | rehash _ _ same =>
        intro id session found
        have stored := @AList.perm_lookup _ _ _ id _ _ same
        exact keyed id session (stored.symm.trans found)

section

variable {engine : Engine} (keyed : engine.Keyed)

include keyed in
/-- A summary determines the entry it is of. -/
theorem Engine.Keyed.entry_eq
    {left right : Sigma (fun _ : SessionId => SessionRecord)}
    (first : left ∈ engine.sessions.entries)
    (second : right ∈ engine.sessions.entries)
    (same : left.2.summary.session = right.2.summary.session) :
    left = right := by
  rcases left with ⟨id, session⟩
  rcases right with ⟨other, record⟩
  have own := AList.mem_lookup_iff.mpr first
  have theirs := AList.mem_lookup_iff.mpr second
  have known : session.id = id := keyed id session own
  have named : record.id = other := keyed other record theirs
  have equal : id = other := known.symm.trans (same.trans named)
  subst equal
  cases own.symm.trans theirs
  rfl

include keyed in
/-- Sorting forgets the iteration order. -/
theorem Engine.Keyed.sort_eq
    {entries : List (Sigma (fun _ : SessionId => SessionRecord))}
    (same : entries.Perm engine.sessions.entries) :
    (entries.map (fun entry => entry.2.summary)).mergeSort
        SessionSummary.notAfter = engine.sortedSummaries := by
  have listed :
      engine.sortedSummaries =
        (engine.sessions.entries.map (fun entry => entry.2.summary)).mergeSort
          SessionSummary.notAfter := by
    unfold Engine.sortedSummaries Table.values
    rw [List.map_map]
    rfl
  rw [listed]
  refine List.Perm.eq_of_pairwise ?_
    (List.pairwise_mergeSort SessionSummary.notAfter_trans
      SessionSummary.notAfter_total _)
    (List.pairwise_mergeSort SessionSummary.notAfter_trans
      SessionSummary.notAfter_total _)
    ((List.mergeSort_perm _ _).trans
      ((same.map _).trans (List.mergeSort_perm _ _).symm))
  intro left right first second lower upper
  rw [(List.mergeSort_perm _ _).mem_iff] at first second
  rcases List.mem_map.mp first with ⟨entry, member, rfl⟩
  rcases List.mem_map.mp second with ⟨other, listed_, rfl⟩
  have equal := keyed.entry_eq (same.mem_iff.mp member) listed_
    (SessionSummary.session_eq_of_notAfter lower upper)
  rw [equal]

include keyed in
/-- When the walk leaves sessions out, some order leaves out the first one of
the listing. -/
theorem Engine.Keyed.exists_order
    {bound : Nat} (some_ : 0 < bound)
    (many : bound < engine.sessions.entries.length) :
    ∃ sessions : Table SessionId SessionRecord,
      sessions.entries.Perm engine.sessions.entries ∧
        ((sessions.values.map SessionRecord.summary).take bound).mergeSort
            SessionSummary.notAfter ≠
          engine.sortedSummaries.take bound := by
  cases sorted : engine.sortedSummaries with
  | nil =>
      have lengths := congrArg List.length sorted
      unfold Engine.sortedSummaries Table.values at lengths
      rw [List.length_mergeSort, List.length_map, List.length_map,
        List.length_nil] at lengths
      omega
  | cons least rest =>
      have member : least ∈ engine.sortedSummaries := by
        rw [sorted]
        exact List.mem_cons_self
      unfold Engine.sortedSummaries at member
      rw [(List.mergeSort_perm _ _).mem_iff] at member
      rcases List.mem_map.mp member with ⟨session, valued, rfl⟩
      rcases List.mem_map.mp valued with ⟨entry, listed, rfl⟩
      obtain ⟨earlier, later, split_⟩ := List.append_of_mem listed
      -- The order that comes to this session last.
      have order :
          ((earlier ++ later) ++ [entry]).Perm engine.sessions.entries := by
        rw [split_, List.append_assoc]
        exact (@List.perm_append_comm _ later [entry]).append_left earlier
      have nodup : List.NodupKeys ((earlier ++ later) ++ [entry]) :=
        (List.perm_nodupKeys order).mpr engine.sessions.nodupKeys
      refine ⟨⟨_, nodup⟩, order, ?_⟩
      intro same
      have head :
          entry.2.summary ∈ (entry.2.summary :: rest).take bound := by
        obtain ⟨count, rfl⟩ := Nat.exists_eq_succ_of_ne_zero
          (Nat.pos_iff_ne_zero.mp some_)
        exact List.mem_cons_self
      rw [← same, (List.mergeSort_perm _ _).mem_iff] at head
      unfold Table.values at head
      rw [List.map_map, List.map_append] at head
      have count :
          bound ≤ ((earlier ++ later).map
            (SessionRecord.summary ∘ fun found => found.2)).length := by
        have lengths := congrArg List.length split_
        rw [List.length_append, List.length_cons] at lengths
        rw [List.length_map, List.length_append]
        omega
      rw [List.take_append_of_le_length count] at head
      rcases List.mem_map.mp (List.mem_of_mem_take head) with
        ⟨other, found, alike⟩
      have present : other ∈ engine.sessions.entries :=
        order.mem_iff.mp (List.mem_append_left _ found)
      have equal := keyed.entry_eq present listed
        (congrArg SessionSummary.session alike)
      subst equal
      have distinct := nodup
      unfold List.NodupKeys List.keys at distinct
      rw [List.map_append, List.nodup_append] at distinct
      exact distinct.2.2 _ (List.mem_map_of_mem found) _
        (List.mem_map_of_mem (List.mem_singleton_self _)) rfl

end

/-- In every reachable state a listing is the beginning of the sorted table
for every iteration order exactly when its bound does not cut the table. -/
theorem listing_is_deterministic_iff
    {config : EngineConfig} {boot : Nanos} {history : List Event}
    {engine : Engine} (run : EngineRun config boot history engine)
    (limit : Nat) :
    (∀ sessions : Table SessionId SessionRecord,
      sessions.entries.Perm engine.sessions.entries →
        { engine with sessions := sessions }.listSessions none limit =
          engine.sortedSummaries.take (engine.listingBound limit)) ↔
      engine.sessions.entries.length ≤ engine.listingBound limit ∨
        engine.listingBound limit = 0 := by
  have keyed := Engine.Keyed.run run
  constructor
  · intro same
    by_contra cut
    rw [not_or, Nat.not_le] at cut
    obtain ⟨sessions, order, differs⟩ :=
      keyed.exists_order (Nat.pos_of_ne_zero cut.2) cut.1
    refine differs (Eq.trans ?_ (same sessions order))
    exact (Engine.listSessions_none { engine with sessions := sessions }
      limit).symm
  · rintro (short | none_) sessions order
    · rw [Engine.listSessions_none]
      have all : sessions.entries.length ≤ engine.listingBound limit := by
        rw [order.length_eq]
        exact short
      change ((sessions.values.map SessionRecord.summary).take
        (engine.listingBound limit)).mergeSort _ = _
      unfold Table.values
      rw [List.map_map, List.take_of_length_le (by rwa [List.length_map])]
      refine (keyed.sort_eq order).trans (List.take_of_length_le ?_).symm
      unfold Engine.sortedSummaries Table.values
      rw [List.length_mergeSort, List.length_map, List.length_map]
      exact short
    · rw [Engine.listSessions_none]
      change ((sessions.values.map SessionRecord.summary).take
        (engine.listingBound limit)).mergeSort _ = _
      rw [none_, List.take_zero, List.take_zero, List.mergeSort_nil]

/-- Two sessions of the sample deployment. -/
def crowdedScript : List (Nanos × Command) :=
  [(1, .submitSession (Sample.request 2 [2]) (Sample.fence 1)),
    (2, .submitSession (Sample.request 3 [2]) (Sample.fence 1))]

def crowdedEngine : Engine :=
  ((Engine.construct Sample.config 0).executeAll crowdedScript).2

/-- The same table, walked the other way. -/
def mirrored (sessions : Table SessionId SessionRecord) :
    Table SessionId SessionRecord where
  entries := sessions.entries.reverse
  nodupKeys :=
    (List.perm_nodupKeys (List.reverse_perm _)).mpr sessions.nodupKeys

theorem mirrored_perm (sessions : Table SessionId SessionRecord) :
    (mirrored sessions).entries.Perm sessions.entries :=
  List.reverse_perm _

theorem crowdedEngine_run :
    ∃ history, EngineRun Sample.config 0 history crowdedEngine :=
  ⟨_, Engine.executeAll_run _ crowdedScript⟩

/-- The same engine, walked the other way round. -/
def mirroredEngine : Engine :=
  { crowdedEngine with sessions := mirrored crowdedEngine.sessions }

/-- One evaluation of the run serves both listings. -/
theorem crowdedEngine_evaluated :
    crowdedEngine.sessions.entries.length ≤ crowdedEngine.listingBound 2 ∧
      ((crowdedEngine.sessions.values.map SessionRecord.summary).take
          (crowdedEngine.listingBound 1)).map SessionSummary.session =
        [⟨Sample.drawn 1⟩] ∧
      ((mirroredEngine.sessions.values.map SessionRecord.summary).take
          (mirroredEngine.listingBound 1)).map SessionSummary.session =
        [⟨Sample.drawn 0⟩] := by
  decide +kernel

/-- Both fit into a listing of two. -/
theorem listing_is_deterministic_for_two_sessions :
    mirroredEngine.listSessions none 2 =
      crowdedEngine.sortedSummaries.take (crowdedEngine.listingBound 2) := by
  obtain ⟨history, run⟩ := crowdedEngine_run
  exact (listing_is_deterministic_iff run 2).mpr
    (.inl crowdedEngine_evaluated.1) _ (mirrored_perm crowdedEngine.sessions)

/-- A listing of the one session that the walk takes. -/
theorem Engine.listSessions_singleton
    {engine : Engine} {limit : Nat} {session : SessionId}
    (walked :
      ((engine.sessions.values.map SessionRecord.summary).take
          (engine.listingBound limit)).map SessionSummary.session =
        [session]) :
    (engine.listSessions none limit).map SessionSummary.session =
      [session] := by
  rw [Engine.listSessions_none]
  obtain ⟨summary, alone, rfl⟩ := List.map_eq_singleton_iff.mp walked
  rw [alone, List.mergeSort_singleton, List.map_singleton]

/-- A listing of one names the session that the walk comes to first. -/
theorem listing_depends_on_iteration_order :
    (∃ history, EngineRun Sample.config 0 history crowdedEngine) ∧
      (mirrored crowdedEngine.sessions).entries.Perm
        crowdedEngine.sessions.entries ∧
      (crowdedEngine.listSessions none 1).map SessionSummary.session =
        [⟨Sample.drawn 1⟩] ∧
      (mirroredEngine.listSessions none 1).map SessionSummary.session =
        [⟨Sample.drawn 0⟩] := by
  refine ⟨crowdedEngine_run, mirrored_perm _,
    Engine.listSessions_singleton ?_, Engine.listSessions_singleton ?_⟩
  · exact crowdedEngine_evaluated.2.1
  · exact crowdedEngine_evaluated.2.2

end TrafficFabric
