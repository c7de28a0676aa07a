import TrafficFabric.Accrual
import TrafficFabric.Engine.Deadlines
import TrafficFabric.Engine.Observation

/-!
# Rate ceilings

Every grant draws on two buckets, that of the isolation class and that of the
workload of its session.  Nothing else takes bytes from a bucket, and only an
authority change fills one.
-/

namespace TrafficFabric

open Foundation

variable {permits : Permits} {before after engine : Engine} {command : Command}
  {rateBps : UInt64} {now : Nanos} {history : List Event}

/-! ## Ceilings -/

/-- What a bucket is kept for. -/
inductive Ceiling where
  | isolation (isolation : IsolationClass)
  | workload (workload : WorkloadId)
deriving DecidableEq

namespace Ceiling

def bucket : Ceiling → RateShaper → Option TokenBucket
  | .isolation own, shaper => shaper.classes.lookup own
  | .workload own, shaper => shaper.workloads.lookup own

/-- The ceiling bounds the sessions of a class and a workload. -/
def bounds : Ceiling → IsolationClass → WorkloadId → Bool
  | .isolation own, class_, _ => own = class_
  | .workload own, _, owner => own = owner

def covers (ceiling : Ceiling) (session : SessionRecord) : Bool :=
  ceiling.bounds session.envelope.isolation session.request.workload

/-- The rate in force, from the policy or from the contract. -/
def Sets (engine : Engine) (rateBps : UInt64) : Ceiling → Prop
  | .isolation own =>
      ∃ envelope ∈ engine.policy.envelopes,
        envelope.isolation = own ∧ envelope.ceilingBps = rateBps
  | .workload own =>
      ∃ contract, engine.contracts.lookup own = some contract ∧
        contract.ceilingBps = rateBps

end Ceiling

/-! ## The shaper -/

section

variable {now : Nanos} (ceiling : Ceiling) (shaper : RateShaper)
  (isolation : IsolationClass) (workload : WorkloadId)

theorem RateShaper.refillClass_bucket :
    ceiling.bucket (shaper.refillClass isolation now) =
      if ceiling = .isolation isolation then
        (ceiling.bucket shaper).map (fun bucket => bucket.refill now)
      else ceiling.bucket shaper := by
  unfold RateShaper.refillClass
  split
  · rename_i unknown
    split
    · rename_i own
      rw [own]
      simp only [Ceiling.bucket, unknown, Option.map_none]
    · rfl
  · rename_i bucket known
    cases ceiling with
    | workload =>
        rfl
    | isolation own =>
        simp only [Ceiling.bucket, Ceiling.isolation.injEq]
        split
        · rename_i same
          rw [same, Table.lookup_replace_self (Table.mem_of_lookup known),
            known]
          rfl
        · rename_i differs
          exact Table.lookup_replace_ne differs

theorem RateShaper.classTokensAt_shaper :
    (shaper.classTokensAt isolation now).2 =
      shaper.refillClass isolation now := by
  unfold RateShaper.classTokensAt
  dsimp only
  split <;> rfl

theorem RateShaper.classTimeUntilAt_shaper (bytes : UInt64) :
    (shaper.classTimeUntilAt isolation bytes now).2 =
      shaper.refillClass isolation now := by
  unfold RateShaper.classTimeUntilAt
  dsimp only
  split <;> rfl

/-- The same draw on the bucket of a class and on that of a workload. -/
theorem Drawn.both
    {classBucket workloadBucket first second : TokenBucket} {bytes : Nat}
    (class_ : shaper.classes.lookup isolation = some classBucket)
    (workload_ : shaper.workloads.lookup workload = some workloadBucket)
    (drawnFirst : Drawn now (some classBucket) bytes (some first))
    (drawnSecond : Drawn now (some workloadBucket) bytes (some second)) :
    Drawn now (ceiling.bucket shaper)
      (if ceiling.bounds isolation workload then bytes else 0)
      (ceiling.bucket { shaper with
        classes := shaper.classes.replace isolation first
        workloads := shaper.workloads.replace workload second }) := by
  cases ceiling with
  | isolation own =>
      simp only [Ceiling.bucket, Ceiling.bounds, decide_eq_true_eq]
      split
      · rename_i same
        rw [same, Table.lookup_replace_self (Table.mem_of_lookup class_),
          class_]
        exact drawnFirst
      · rename_i differs
        rw [Table.lookup_replace_ne differs]
        exact .untouched _
  | workload own =>
      simp only [Ceiling.bucket, Ceiling.bounds, decide_eq_true_eq]
      split
      · rename_i same
        rw [same, Table.lookup_replace_self (Table.mem_of_lookup workload_),
          workload_]
        exact drawnSecond
      · rename_i differs
        rw [Table.lookup_replace_ne differs]
        exact .untouched _

/-- `try_consume` draws on both buckets or only refills them; that the two
disagree after the check is excluded. -/
theorem RateShaper.tryConsume_draws (bytes : UInt64) :
    Drawn now (ceiling.bucket shaper)
      (if (shaper.tryConsume isolation workload bytes now).1.admitted ∧
          ceiling.bounds isolation workload then bytes.toNat
        else 0)
      (ceiling.bucket (shaper.tryConsume isolation workload bytes now).2) := by
  have refused (after : RateShaper) (verdict : ShaperVerdict)
      (unadmitted : verdict.admitted = false)
      (drawn : Drawn now (ceiling.bucket shaper) 0 (ceiling.bucket after)) :
      Drawn now (ceiling.bucket shaper)
        (if verdict.admitted ∧ ceiling.bounds isolation workload then
          bytes.toNat else 0)
        (ceiling.bucket after) := by
    rw [unadmitted]
    simpa using drawn
  unfold RateShaper.tryConsume
  split
  · exact refused _ _ rfl (.untouched _)
  · rename_i classBucket class_
    split
    · exact refused _ _ rfl (.untouched _)
    · split
      · exact refused _ _ rfl (.untouched _)
      · rename_i workloadBucket workload_
        split
        · exact refused _ _ rfl (.untouched _)
        · have refilled := @Drawn.both now ceiling shaper isolation workload
            _ _ _ _ _ class_ workload_ (.refilled classBucket) (.refilled workloadBucket)
          rw [ite_self] at refilled
          unfold RateShaper.tryConsume.consumeBoth
          dsimp only
          split
          · exact refused _ _ rfl refilled
          · rename_i classCredit
            split
            · exact refused _ _ rfl refilled
            · rename_i workloadCredit
              -- the buckets are up to date, so both draws succeed
              simp only [TokenBucket.tryConsume, TokenBucket.refill_refill,
                classCredit, workloadCredit, if_false]
              have drawn := @Drawn.both now ceiling shaper isolation workload
                _ _ _ _ _ class_ workload_
                (.drawn classBucket bytes (UInt64.not_lt.mp classCredit))
                (.drawn workloadBucket bytes
                  (UInt64.not_lt.mp workloadCredit))
              simpa using drawn

/-- A draw on the shaper that the same request has refilled. -/
theorem Drawn.after_refillClass
    {bytes : Nat} {after : Option TokenBucket}
    (drawn :
      Drawn now (ceiling.bucket (shaper.refillClass isolation now)) bytes
        after) :
    Drawn now (ceiling.bucket shaper) bytes after := by
  rw [RateShaper.refillClass_bucket] at drawn
  split at drawn
  · exact drawn.of_refilled
  · exact drawn

end

/-! ## Requests for credit -/

/-- The bytes of an answer to a request for credit. -/
def grantedBytes : Result WaveOutcome → Nat
  | .ok outcome =>
      (outcome.grant.map (fun grant => grant.maxBytes.toNat)).getD 0
  | .error _ => 0

theorem ShardTarget.requestCredit_draws
    (target : ShardTarget) (now : Nanos) (ceiling : Ceiling) :
    Drawn now (ceiling.bucket target.focus.engine.shaper)
      (if ceiling.covers target.focus.session then
        grantedBytes (target.requestCredit now).1 else 0)
      (ceiling.bucket (target.requestCredit now).2.shaper) := by
  have refilled {bytes : Nat} {after : Option TokenBucket} :=
    @Drawn.after_refillClass now ceiling target.focus.engine.shaper
      target.focus.session.envelope.isolation bytes after
  -- the share of the ceiling is folded, so that the cases below are those of
  -- the request
  obtain ⟨share, counted⟩ : ∃ share : Nat → Nat, ∀ bytes, share bytes =
      if ceiling.covers target.focus.session then bytes else 0 :=
    ⟨_, fun _ => rfl⟩
  have nothing : share 0 = 0 := by
    rw [counted, ite_self]
  rw [← counted]
  unfold ShardTarget.requestCredit
  dsimp only
  rw [RateShaper.classTokensAt_shaper]
  split
  · rw [RateShaper.classTimeUntilAt_shaper]
    refine refilled ?_
    change Drawn now _ (share 0) _
    rw [nothing]
    exact Drawn.after_refillClass ceiling _ _ (.untouched _)
  · generalize min (min (Engine.remainingBytes target.shard) maxGrantChunk)
      (target.focus.engine.shaper.classTokensAt
        target.focus.session.envelope.isolation now).1 = chunk
    have drawn := refilled (RateShaper.tryConsume_draws ceiling
      (target.focus.engine.shaper.refillClass
        target.focus.session.envelope.isolation now)
      target.focus.session.envelope.isolation
      target.focus.session.request.workload chunk)
    split
    · rename_i refused
      simp only [refused, Bool.false_eq_true, false_and, if_false] at drawn
      change Drawn now _ (share 0) _
      rw [nothing]
      exact drawn
    · rename_i admitted
      rw [not_not] at admitted
      simp only [admitted, true_and] at drawn
      change Drawn now _ (share chunk.toNat) _
      rw [counted]
      exact drawn

/-! ## Edits -/

/-- Policy and contracts stay. -/
def steadyPermits : Permits where
  policy := fun _ => False
  contract := fun _ => False

theorem steadyPermits_routine : steadyPermits.Routine :=
  { Permits.Routine.free with }

/-- Policy, contracts and buckets stay. -/
def quietPermits : Permits where
  policy := fun _ => False
  contract := fun _ => False
  reshape := fun _ _ => False
  grant := fun _ => False

theorem quietPermits_routine : quietPermits.Routine :=
  { Permits.Routine.free with }

/-- What sets the ceilings. -/
def Engine.terms (engine : Engine) :
    PolicySnapshot × Table WorkloadId WorkloadContract :=
  (engine.policy, engine.contracts)

theorem Edit.terms
    (policy : ∀ policy, ¬ permits.policy policy)
    (contract : ∀ contract, ¬ permits.contract contract)
    (edit : Edit permits before after) :
    after.terms = before.terms := by
  cases edit with
  | housekeeping _ _ same =>
      exact Prod.ext same.policy same.contracts
  | adoptPolicy _ adopted _ permitted =>
      exact absurd permitted (policy adopted)
  | adoptContract _ adopted _ permitted =>
      exact absurd permitted (contract adopted)
  | prune =>
      have same := Engine.pruneHistory_authority before
      exact Prod.ext (congrArg Authority.policy same)
        (congrArg Authority.contracts same)
  | enroll =>
      unfold Engine.enroll Engine.indexDeadline
      dsimp only
      split <;> rfl
  | change _ performed =>
      have framed := performed.framed.engine
      exact Prod.ext framed.policy framed.contracts
  | _ =>
      rfl

theorem Edits.terms
    (policy : ∀ policy, ¬ permits.policy policy)
    (contract : ∀ contract, ¬ permits.contract contract)
    (edits : Edits permits before after) :
    after.terms = before.terms :=
  @reflTransGen_preserves _ _ (fun engine => engine.terms = before.terms)
    (fun _ _ edit same => (edit.terms policy contract).trans same) _ _ edits
    rfl

theorem Ceiling.bucket_aside
    (same : after.aside = before.aside)
    (ceiling : Ceiling) :
    ceiling.bucket after.shaper = ceiling.bucket before.shaper := by
  cases ceiling with
  | isolation own =>
      exact congrArg (fun aside => AList.lookup own aside.classes) same
  | workload own =>
      exact congrArg (fun aside => AList.lookup own aside.workloads) same

theorem Edit.bucket
    (reshape : ∀ engine shaper, ¬ permits.reshape engine shaper)
    (grant : ∀ target, ¬ permits.grant target)
    (edit : Edit permits before after)
    (ceiling : Ceiling) :
    ceiling.bucket after.shaper = ceiling.bucket before.shaper := by
  cases edit with
  | housekeeping _ _ same =>
      rw [same.shaper]
  | prune =>
      exact ceiling.bucket_aside before.pruneHistory_aside
  | reshape _ _ _ permitted =>
      exact absurd permitted (reshape _ _)
  | reserve _ _ _ _ reserved =>
      rcases RateShaper.reservePathRate_buckets reserved with
        ⟨classes, workloads⟩
      cases ceiling with
      | isolation own =>
          exact congrArg (AList.lookup own) classes
      | workload own =>
          exact congrArg (AList.lookup own) workloads
  | enroll =>
      unfold Engine.enroll Engine.indexDeadline
      dsimp only
      split <;> rfl
  | change _ performed =>
      rcases performed.aside with same | ⟨⟨target, permitted⟩, _⟩
      · exact ceiling.bucket_aside same
      · exact absurd permitted (grant target)
  | _ =>
      rfl

theorem Edits.bucket
    (edits : Edits quietPermits before after)
    (ceiling : Ceiling) :
    ceiling.bucket after.shaper = ceiling.bucket before.shaper :=
  @reflTransGen_preserves _ _
    (fun engine => ceiling.bucket engine.shaper =
      ceiling.bucket before.shaper)
    (fun _ _ edit same =>
      (edit.bucket (fun _ _ => not_false) (fun _ => not_false)
        ceiling).trans same) _ _ edits rfl

/-- The commands that leave the buckets alone. -/
theorem Command.quiet
    (quiet : command.reshapes = false)
    (ordinary : ∀ snapshot, command ≠ .restore snapshot)
    (engine : Engine) (now : Nanos) :
    Edits quietPermits engine (engine.execute now command).2 := by
  refine Engine.execute_edits quietPermits_routine engine now command
    (Permits.Grounds.allow
      { Permits.Grounds.free engine now command with
        policy := ?_, contract := ?_, reshape := ?_, grant := ?_ } ordinary)
  · rintro policy rfl
    cases quiet
  · rintro contract rfl
    cases quiet
  · intro reached shaper reshapes
    rw [quiet] at reshapes
    cases reshapes
  · rintro id index fence focus target rfl
    cases quiet

/-- Marking sessions stale is quiet. -/
theorem Engine.visit_markStale_quiet
    (engine : Engine) (ids : List SessionId) (now : Nanos)
    {reason line : String} (named : ascii reason ≠ []) :
    Edits quietPermits engine
      (engine.visit ids (fun focus => focus.markStale now reason line)) :=
  Engine.visit_edits (fun _ held => Focus.markStale_edits held now named) _ _

/-! ## Events -/

/-- The bytes that an event grants to the sessions under a ceiling. -/
def Event.grantedUnder (ceiling : Ceiling) (engine : Engine) : Event → Nat
  | .call _ (.requestWave id _ _) (.wave answer) =>
      if (engine.sessions.lookup id).any ceiling.covers then
        grantedBytes answer
      else 0
  | _ => 0

/-- The event configures the bucket of a ceiling. -/
def Event.reconfigures (ceiling : Ceiling) : Event → Bool
  | .call _ (.applyPolicy _) (.status (.ok _)) => true
  | .call _ (.upsertContract contract) (.status (.ok _)) =>
      ceiling = .workload contract.workload
  | _ => false

theorem Engine.observe_quiet (engine : Engine) (now : Nanos) :
    Edits quietPermits engine (engine.observe now) :=
  Engine.observe_edits quietPermits_routine engine now

theorem Engine.requestWave_draws
    (engine : Engine) (now : Nanos) (id : SessionId) (index : ShardIndex)
    (fence : CommandFence) (ceiling : Ceiling) :
    Drawn now (ceiling.bucket engine.shaper)
      (if (engine.sessions.lookup id).any ceiling.covers then
        grantedBytes (engine.requestWave now id index fence).1 else 0)
      (ceiling.bucket
        (engine.requestWave now id index fence).2.shaper) := by
  have observed := (engine.observe_quiet now).bucket ceiling
  rw [← observed]
  obtain ⟨share, counted⟩ : ∃ share : Nat → Nat, ∀ bytes, share bytes =
      if (engine.sessions.lookup id).any ceiling.covers then bytes else 0 :=
    ⟨_, fun _ => rfl⟩
  have idle :
      Drawn now (ceiling.bucket (engine.observe now).shaper) (share 0)
        (ceiling.bucket (engine.observe now).shaper) := by
    rw [counted, ite_self]
    exact .untouched _
  rw [← counted]
  unfold Engine.requestWave Engine.guarded
  dsimp only
  split
  · exact idle
  · rename_i focus passed
    rcases Engine.creditHolder_ok passed with ⟨holds, active, _⟩
    split
    · exact idle
    · split
      · exact idle
      · rename_i target found
        rcases Engine.waveTarget_ok found with ⟨same, _⟩
        have drawn := target.requestCredit_draws now ceiling
        rw [counted, Engine.lookup_of_observe holds.lookup active,
          Option.any_some]
        rw [same, holds.engine] at drawn
        exact drawn

theorem Engine.applyPolicy_cases
    (engine : Engine) (now : Nanos) (policy : PolicySnapshot) :
    (∃ status, engine.applyPolicy now policy = (.error status, engine)) ∨
      validatePolicy policy = .ok () ∧
        (engine.applyPolicy now policy).1 = .ok () ∧
        Edits quietPermits
          ({ engine with policy := policy }.configureShaper now)
          (engine.applyPolicy now policy).2 := by
  unfold Engine.applyPolicy Engine.guarded
  split
  · exact .inl ⟨_, rfl⟩
  · rename_i accepted
    simp only [bind_eq_ok, refuseWhen_eq_ok] at accepted
    rcases accepted with ⟨_, _, valid⟩
    exact .inr ⟨valid, rfl, Engine.visit_markStale_quiet _ _ now
      (by simp [ascii])⟩

/-- The engine with a contract and its bucket. -/
def Engine.contracting
    (engine : Engine) (now : Nanos) (contract : WorkloadContract) : Engine :=
  { engine with
    shaper := engine.shaper.configureWorkload contract.workload
      contract.ceilingBps workloadBurstWindow now
    contracts := engine.contracts.insert contract.workload contract }

theorem Engine.upsertContract_cases
    (engine : Engine) (now : Nanos) (contract : WorkloadContract) :
    (∃ status, engine.upsertContract now contract = (.error status, engine)) ∨
      (engine.upsertContract now contract).1 = .ok () ∧
        Edits quietPermits (engine.contracting now contract)
          (engine.upsertContract now contract).2 := by
  unfold Engine.upsertContract Engine.guarded
  split
  · exact .inl ⟨_, rfl⟩
  · exact .inr ⟨rfl, Engine.visit_markStale_quiet _ _ now
      (by simp [ascii])⟩

theorem Engine.restore_bucket
    (engine : Engine) (now : Nanos) (snapshot : EngineSnapshot)
    (ceiling : Ceiling) :
    ceiling.bucket (engine.restore now snapshot).2.shaper =
      ceiling.bucket engine.shaper :=
  congrArg (fun settings => ceiling.bucket settings.shaper)
    (engine.restore_settings now snapshot)

/-- Unless it configures the bucket, a command draws on it what it grants. -/
theorem Engine.execute_draws
    (engine : Engine) (now : Nanos) (command : Command) (ceiling : Ceiling)
    (kept :
      (Event.call now command (engine.execute now command).1).reconfigures
        ceiling = false) :
    Drawn now (ceiling.bucket engine.shaper)
      ((Event.call now command (engine.execute now command).1).grantedUnder
        ceiling engine)
      (ceiling.bucket (engine.execute now command).2.shaper) := by
  have idle {next : Engine}
      (same : ceiling.bucket next.shaper = ceiling.bucket engine.shaper) :
      Drawn now (ceiling.bucket engine.shaper) 0
        (ceiling.bucket next.shaper) := by
    rw [same]
    exact .untouched _
  cases command with
  | restore snapshot =>
      exact idle (engine.restore_bucket now snapshot ceiling)
  | requestWave id index fence =>
      exact engine.requestWave_draws now id index fence ceiling
  | applyPolicy policy =>
      refine idle ?_
      rcases engine.applyPolicy_cases now policy with
        ⟨status, refused⟩ | ⟨_, accepted, _⟩
      · change ceiling.bucket (engine.applyPolicy now policy).2.shaper = _
        rw [refused]
      · change Event.reconfigures ceiling (.call now (.applyPolicy policy)
          (.status (engine.applyPolicy now policy).1)) = false at kept
        rw [accepted] at kept
        cases kept
  | upsertContract contract =>
      refine idle ?_
      change ceiling.bucket (engine.upsertContract now contract).2.shaper = _
      rcases engine.upsertContract_cases now contract with
        ⟨status, refused⟩ | ⟨accepted, edits⟩
      · rw [refused]
      · change Event.reconfigures ceiling (.call now (.upsertContract contract)
          (.status (engine.upsertContract now contract).1)) = false at kept
        rw [accepted] at kept
        rw [edits.bucket]
        cases ceiling with
        | isolation =>
            rfl
        | workload own =>
            have differs : own ≠ contract.workload := by
              rintro rfl
              simp [Event.reconfigures] at kept
            exact AList.lookup_insert_ne differs
  | _ =>
      exact idle ((Command.quiet rfl (by nofun) engine now).bucket ceiling)

/-! ## The rates in force -/

theorem Ceiling.Sets.of_terms
    (same : after.terms = before.terms)
    {ceiling : Ceiling}
    (sets : ceiling.Sets before rateBps) : ceiling.Sets after rateBps := by
  have policy : after.policy = before.policy := congrArg Prod.fst same
  have contracts : after.contracts = before.contracts :=
    congrArg Prod.snd same
  cases ceiling with
  | isolation =>
      unfold Ceiling.Sets at sets ⊢
      rw [policy]
      exact sets
  | workload =>
      unfold Ceiling.Sets at sets ⊢
      rw [contracts]
      exact sets

/-- A bucket works at the rate in force and holds no more than its
capacity. -/
structure Engine.Calibrates
    (engine : Engine) (ceiling : Ceiling) (bucket : TokenBucket) : Prop where
  configured : bucket.configured = true
  bounded : bucket.tokens ≤ bucket.capacityBytes
  rate : ceiling.Sets engine bucket.rateBps

/-- Every bucket does. -/
def Engine.Calibrated (engine : Engine) : Prop :=
  ∀ ceiling bucket, ceiling.bucket engine.shaper = some bucket →
    engine.Calibrates ceiling bucket

theorem Engine.Calibrated.of_quiet
    (calibrated : before.Calibrated)
    (edits : Edits quietPermits before after) : after.Calibrated := by
  intro ceiling bucket found
  rw [edits.bucket] at found
  have holds := calibrated ceiling bucket found
  exact ⟨holds.configured, holds.bounded, holds.rate.of_terms
    (edits.terms (fun _ => not_false) (fun _ => not_false))⟩

theorem Engine.Calibrates.configure
    {ceiling : Ceiling}
    (sets : ceiling.Sets engine rateBps) (window : UInt64) (now : Nanos) :
    engine.Calibrates ceiling (TokenBucket.configure rateBps window now) :=
  ⟨rfl, UInt64.le_refl _, sets⟩

/-- What a loop of insertions leaves under a key. -/
theorem lookup_foldl_insert
    {Key Value Item : Type} [DecidableEq Key] (key : Item → Key)
    (value : Item → Value) (items : List Item) (table : Table Key Value)
    {own : Key} {found : Value}
    (stored :
      (items.foldl (fun table item => table.insert (key item) (value item))
        table).lookup own = some found) :
    (∃ item ∈ items, key item = own ∧ value item = found) ∨
      table.lookup own = some found ∧ ∀ item ∈ items, key item ≠ own := by
  induction items generalizing table with
  | nil =>
      exact .inr ⟨stored, nofun⟩
  | cons first _ hypothesis =>
      rcases hypothesis _ stored with
        ⟨item, member, same⟩ | ⟨earlier, others⟩
      · exact .inl ⟨item, List.mem_cons_of_mem _ member, same⟩
      · by_cases own_ : key first = own
        · subst own_
          rw [AList.lookup_insert] at earlier
          cases earlier
          exact .inl ⟨first, List.mem_cons_self, rfl, rfl⟩
        · rw [AList.lookup_insert_ne (fun same => own_ same.symm)] at earlier
          refine .inr ⟨earlier, ?_⟩
          intro item member
          rcases List.mem_cons.mp member with same | later
          · rw [same]
            exact own_
          · exact others item later

/-- It leaves something under each of its keys. -/
theorem isSome_lookup_foldl_insert
    {Key Value Item : Type} [DecidableEq Key] (key : Item → Key)
    (value : Item → Value) (items : List Item) (table : Table Key Value)
    {own : Key} (set_ : own ∈ table ∨ ∃ item ∈ items, key item = own) :
    ((items.foldl (fun table item => table.insert (key item) (value item))
      table).lookup own).isSome := by
  induction items generalizing table with
  | nil =>
      exact AList.lookup_isSome.mpr (set_.resolve_right nofun)
  | cons first _ hypothesis =>
      refine hypothesis _ ?_
      rcases set_ with earlier | ⟨item, member, same⟩
      · exact .inl ((AList.mem_insert _).mpr (.inr earlier))
      · rcases List.mem_cons.mp member with rfl | later
        · exact .inl ((AList.mem_insert _).mpr (.inl same.symm))
        · exact .inr ⟨item, later, same⟩

theorem Engine.configureShaper_classes (engine : Engine) (now : Nanos) :
    (engine.configureShaper now).shaper.classes =
      engine.policy.envelopes.foldl
        (fun table envelope => table.insert envelope.isolation
          (TokenBucket.configure envelope.ceilingBps
            envelope.burstWindowNs.toInt64.toUInt64 now))
        engine.shaper.classes := by
  unfold Engine.configureShaper
  dsimp only
  refine (foldl_preserves RateShaper.classes ?_ _ _).trans ?_
  · exact fun _ _ => rfl
  · refine (List.foldl_hom RateShaper.classes ?_).symm
    exact fun _ _ => rfl

theorem Engine.configureShaper_workloads (engine : Engine) (now : Nanos) :
    (engine.configureShaper now).shaper.workloads =
      engine.contracts.entries.foldl
        (fun table entry => table.insert entry.1
          (TokenBucket.configure entry.2.ceilingBps
            workloadBurstWindow.toUInt64 now))
        engine.shaper.workloads := by
  unfold Engine.configureShaper
  dsimp only
  refine (List.foldl_hom RateShaper.workloads ?_).symm.trans
    (congrArg (fun table => List.foldl _ table engine.contracts.entries)
      (foldl_preserves RateShaper.workloads ?_ _ _))
  · exact fun _ _ => rfl
  · exact fun _ _ => rfl

/-- The buckets after `configure_shaper`: configured for the rate in force,
or left over where no rate is in force. -/
theorem Engine.configureShaper_bucket
    {ceiling : Ceiling}
    {bucket : TokenBucket}
    (found :
      ceiling.bucket (engine.configureShaper now).shaper = some bucket) :
    (engine.configureShaper now).Calibrates ceiling bucket ∨
      ceiling.bucket engine.shaper = some bucket ∧
        ∀ rateBps, ¬ ceiling.Sets engine rateBps := by
  cases ceiling with
  | isolation own =>
      change AList.lookup own (engine.configureShaper now).shaper.classes =
        some bucket at found
      rw [Engine.configureShaper_classes] at found
      rcases lookup_foldl_insert _ _ _ _ found with
        ⟨envelope, member, rfl, rfl⟩ | ⟨earlier, others⟩
      · have sets :
            (Ceiling.isolation envelope.isolation).Sets
              (engine.configureShaper now) envelope.ceilingBps :=
          ⟨envelope, member, rfl, rfl⟩
        exact .inl (.configure sets _ _)
      · refine .inr ⟨earlier, ?_⟩
        rintro rateBps ⟨envelope, member, same, _⟩
        exact others envelope member same
  | workload own =>
      change AList.lookup own (engine.configureShaper now).shaper.workloads =
        some bucket at found
      rw [Engine.configureShaper_workloads] at found
      rcases lookup_foldl_insert _ _ _ _ found with
        ⟨entry, member, rfl, rfl⟩ | ⟨earlier, others⟩
      · have sets :
            (Ceiling.workload entry.1).Sets (engine.configureShaper now)
              entry.2.ceilingBps :=
          ⟨entry.2, AList.mem_lookup_iff.mpr member, rfl⟩
        exact .inl (.configure sets _ _)
      · refine .inr ⟨earlier, ?_⟩
        rintro rateBps ⟨contract, known, _⟩
        exact others ⟨own, contract⟩ (AList.mem_lookup_iff.mp known) rfl

/-- Validation collects the classes of the envelopes. -/
theorem mem_of_validateEnvelopes
    {envelopes : List IsolationEnvelopeConfig}
    {seen result : List IsolationClass}
    (accepted : validateEnvelopes seen envelopes = .ok result)
    {isolation : IsolationClass} (member : isolation ∈ result) :
    isolation ∈ seen ∨
      ∃ envelope ∈ envelopes, envelope.isolation = isolation := by
  induction envelopes generalizing seen with
  | nil =>
      cases accepted
      exact .inl member
  | cons first _ hypothesis =>
      simp only [validateEnvelopes, bind_eq_ok] at accepted
      rcases accepted with ⟨_, _, _, _, _, _, _, _, _, _, accepted⟩
      rcases hypothesis accepted with known | ⟨envelope, later, same⟩
      · rcases List.mem_cons.mp known with own | earlier
        · exact .inr ⟨first, List.mem_cons_self, own.symm⟩
        · exact .inl earlier
      · exact .inr ⟨envelope, List.mem_cons_of_mem _ later, same⟩

/-- A valid policy sets a ceiling for every class. -/
theorem validatePolicy_covers
    {policy : PolicySnapshot} (valid : validatePolicy policy = .ok ())
    (isolation : IsolationClass) :
    ∃ envelope ∈ policy.envelopes, envelope.isolation = isolation := by
  simp only [validatePolicy, bind_eq_ok, refuseWhen_eq_ok, not_or,
    not_not] at valid
  rcases valid with ⟨_, _, _, _, seen, collected, _, complete, _⟩
  have member : isolation ∈ seen := by
    cases isolation with
    | trainingCritical =>
        exact complete.1
    | servingLatency =>
        exact complete.2.1
    | trainingBulk =>
        exact complete.2.2.1
    | bestEffort =>
        exact complete.2.2.2
  exact (mem_of_validateEnvelopes collected member).resolve_left nofun

theorem Engine.requestWave_terms
    (engine : Engine) (now : Nanos) (id : SessionId) (index : ShardIndex)
    (fence : CommandFence) :
    (engine.requestWave now id index fence).2.terms = engine.terms := by
  have edits :
      Edits steadyPermits engine
        (engine.execute now (.requestWave id index fence)).2 :=
    Engine.execute_edits steadyPermits_routine engine now _
      (Permits.Grounds.allow
        { Permits.Grounds.free engine now (.requestWave id index fence) with
          policy := nofun, contract := nofun } nofun)
  exact edits.terms (fun _ => not_false) (fun _ => not_false)

namespace Engine.Calibrated

theorem initial (config : EngineConfig) (boot : Nanos) :
    (Engine.construct config boot).Calibrated := by
  intro ceiling bucket
  unfold Engine.construct
  dsimp only
  split
  · intro found
    cases ceiling <;> cases found
  · intro found
    rcases Engine.configureShaper_bucket found with holds | ⟨earlier, _⟩
    · exact ⟨holds.configured, holds.bounded, holds.rate.of_terms rfl⟩
    · cases ceiling <;> cases earlier

theorem applyPolicy
    (calibrated : engine.Calibrated) (now : Nanos)
    (policy : PolicySnapshot) :
    (engine.applyPolicy now policy).2.Calibrated := by
  rcases engine.applyPolicy_cases now policy with
    ⟨status, refused⟩ | ⟨valid, _, edits⟩
  · rw [refused]
    exact calibrated
  · refine Engine.Calibrated.of_quiet ?_ edits
    intro ceiling bucket found
    rcases Engine.configureShaper_bucket found with holds | ⟨earlier, unset⟩
    · exact holds
    · -- a class has an envelope, and a workload keeps its contract
      exfalso
      cases ceiling with
      | isolation own =>
          rcases validatePolicy_covers valid own with
            ⟨envelope, member, same⟩
          exact unset _ ⟨envelope, member, same, rfl⟩
      | workload =>
          exact unset _ (calibrated _ bucket earlier).rate

theorem upsertContract
    (calibrated : engine.Calibrated) (now : Nanos)
    (contract : WorkloadContract) :
    (engine.upsertContract now contract).2.Calibrated := by
  rcases engine.upsertContract_cases now contract with
    ⟨status, refused⟩ | ⟨_, edits⟩
  · rw [refused]
    exact calibrated
  · refine Engine.Calibrated.of_quiet ?_ edits
    intro ceiling bucket found
    by_cases own : ceiling = .workload contract.workload
    · subst own
      change AList.lookup contract.workload (AList.insert contract.workload _
        engine.shaper.workloads) = some bucket at found
      rw [AList.lookup_insert] at found
      cases found
      have sets :
          (Ceiling.workload contract.workload).Sets
            (engine.contracting now contract) contract.ceilingBps :=
        ⟨contract, AList.lookup_insert _, rfl⟩
      exact .configure sets _ _
    · cases ceiling with
      | isolation other =>
          have holds := calibrated (.isolation other) bucket found
          exact ⟨holds.configured, holds.bounded, holds.rate⟩
      | workload other =>
          have differs : other ≠ contract.workload := by
            rintro rfl
            exact own rfl
          have holds := calibrated (.workload other) bucket
            ((AList.lookup_insert_ne differs).symm.trans found)
          rcases holds.rate with ⟨known, looked, same⟩
          exact ⟨holds.configured, holds.bounded, known,
            (AList.lookup_insert_ne differs).trans looked, same⟩

/-- Drawing on a bucket keeps it within its capacity. -/
theorem drawn
    {next : Engine} {ceiling : Ceiling} {bytes : Nat}
    (calibrated : engine.Calibrated)
    (drawn :
      Drawn now (ceiling.bucket engine.shaper) bytes
        (ceiling.bucket next.shaper))
    (terms : next.terms = engine.terms) {bucket : TokenBucket}
    (found : ceiling.bucket next.shaper = some bucket) :
    next.Calibrates ceiling bucket := by
  rw [found] at drawn
  cases earlier : ceiling.bucket engine.shaper with
  | none =>
      rw [earlier] at drawn
      cases drawn
  | some source =>
      rw [earlier] at drawn
      have holds := calibrated ceiling source earlier
      rcases (TokenBucket.Spent.initial holds.configured holds.bounded).draw
        (Int64.le_refl now) (Int64.le_refl now) drawn with
        ⟨_, same, spent⟩
      cases same
      refine ⟨spent.configured, ?_, ?_⟩
      · rw [spent.capacity]
        exact spent.bounded
      · rw [spent.rate]
        exact holds.rate.of_terms terms

theorem requestWave
    (calibrated : engine.Calibrated) (now : Nanos)
    (id : SessionId) (index : ShardIndex) (fence : CommandFence) :
    (engine.requestWave now id index fence).2.Calibrated := by
  intro ceiling bucket found
  exact calibrated.drawn
    (engine.requestWave_draws now id index fence ceiling)
    (engine.requestWave_terms now id index fence) found

theorem execute
    (calibrated : engine.Calibrated) (now : Nanos)
    (command : Command) : (engine.execute now command).2.Calibrated := by
  cases command with
  | restore snapshot =>
      intro ceiling bucket found
      have holds := calibrated ceiling bucket
        ((engine.restore_bucket now snapshot ceiling).symm.trans found)
      have settings := engine.restore_settings now snapshot
      exact ⟨holds.configured, holds.bounded, holds.rate.of_terms
        (Prod.ext (congrArg Engine.Settings.policy settings)
          (congrArg Engine.Settings.contracts settings))⟩
  | requestWave id index fence =>
      exact calibrated.requestWave now id index fence
  | applyPolicy policy =>
      exact calibrated.applyPolicy now policy
  | upsertContract contract =>
      exact calibrated.upsertContract now contract
  | _ =>
      exact calibrated.of_quiet (Command.quiet rfl (by nofun) engine now)

theorem rehash
    (calibrated : engine.Calibrated)
    (sessions : Table SessionId SessionRecord)
    {contracts : Table WorkloadId WorkloadContract}
    (same : contracts.entries.Perm engine.contracts.entries) :
    (engine.rehashed sessions contracts).Calibrated := by
  intro ceiling bucket found
  have holds := calibrated ceiling bucket found
  refine ⟨holds.configured, holds.bounded, ?_⟩
  cases ceiling with
  | isolation =>
      exact holds.rate
  | workload =>
      rcases holds.rate with ⟨contract, known, rate⟩
      exact ⟨contract, (AList.perm_lookup same).trans known, rate⟩

theorem run
    {config : EngineConfig} {boot : Nanos}
    (run : EngineRun config boot history engine) :
    engine.Calibrated := by
  refine Run.invariant (.initial config boot) ?_ run
  intro state event next step calibrated
  cases step with
  | call now command =>
      exact calibrated.execute now command
  | rehash sessions _ _ same =>
      exact calibrated.rehash sessions same

end Engine.Calibrated

/-- Every rate in force has its bucket. -/
def Engine.Equipped (engine : Engine) : Prop :=
  ∀ ceiling rateBps, Ceiling.Sets engine rateBps ceiling →
    (ceiling.bucket engine.shaper).isSome

namespace Engine.Equipped

theorem of_kept
    (equipped : before.Equipped)
    (kept : ∀ ceiling : Ceiling, (ceiling.bucket before.shaper).isSome →
      (ceiling.bucket after.shaper).isSome)
    (terms : after.terms = before.terms) : after.Equipped := by
  intro ceiling rateBps sets
  exact kept ceiling (equipped ceiling rateBps (sets.of_terms terms.symm))

theorem of_quiet
    (equipped : before.Equipped)
    (edits : Edits quietPermits before after) : after.Equipped := by
  refine equipped.of_kept ?_
    (edits.terms (fun _ => not_false) (fun _ => not_false))
  intro ceiling
  rw [edits.bucket ceiling]
  exact id

theorem configureShaper (engine : Engine) (now : Nanos) :
    (engine.configureShaper now).Equipped := by
  intro ceiling rateBps sets
  cases ceiling with
  | isolation own =>
      obtain ⟨envelope, member, same, _⟩ := sets
      change (AList.lookup own
        (engine.configureShaper now).shaper.classes).isSome
      rw [Engine.configureShaper_classes]
      exact isSome_lookup_foldl_insert _ _ _ _
        (.inr ⟨envelope, member, same⟩)
  | workload own =>
      obtain ⟨contract, known, _⟩ := sets
      change (AList.lookup own
        (engine.configureShaper now).shaper.workloads).isSome
      rw [Engine.configureShaper_workloads]
      exact isSome_lookup_foldl_insert _ _ _ _
        (.inr ⟨⟨own, contract⟩, AList.mem_lookup_iff.mp known, rfl⟩)

theorem initial
    {config : EngineConfig} {boot : Nanos}
    (accepted : (Engine.construct config boot).configStatus = .ok ()) :
    (Engine.construct config boot).Equipped := by
  unfold Engine.construct at accepted ⊢
  dsimp only at accepted ⊢
  split at accepted
  · rename_i refused
    cases refused.symm.trans accepted
  · intro ceiling rateBps sets
    exact configureShaper _ boot ceiling rateBps (sets.of_terms rfl)

theorem contracting
    (equipped : engine.Equipped) (now : Nanos) (contract : WorkloadContract) :
    (engine.contracting now contract).Equipped := by
  intro ceiling rateBps sets
  cases ceiling with
  | isolation other =>
      exact equipped (.isolation other) rateBps sets
  | workload other =>
      change (AList.lookup other (AList.insert contract.workload _
        engine.shaper.workloads)).isSome
      by_cases own : other = contract.workload
      · rw [own, AList.lookup_insert]
        rfl
      · rw [AList.lookup_insert_ne own]
        obtain ⟨known, looked, rate⟩ := sets
        exact equipped (.workload other) rateBps
          ⟨known, (AList.lookup_insert_ne own).symm.trans looked, rate⟩

theorem execute
    (equipped : engine.Equipped) (now : Nanos) (command : Command) :
    (engine.execute now command).2.Equipped := by
  cases command with
  | restore snapshot =>
      have settings := engine.restore_settings now snapshot
      refine equipped.of_kept ?_
        (Prod.ext (congrArg Engine.Settings.policy settings)
          (congrArg Engine.Settings.contracts settings))
      intro ceiling some_
      exact (congrArg Option.isSome
        (engine.restore_bucket now snapshot ceiling)).trans some_
  | requestWave id index fence =>
      refine equipped.of_kept ?_ (engine.requestWave_terms now id index fence)
      intro ceiling some_
      exact (engine.requestWave_draws now id index fence ceiling).isSome some_
  | applyPolicy policy =>
      change (engine.applyPolicy now policy).2.Equipped
      rcases engine.applyPolicy_cases now policy with
        ⟨status, refused⟩ | ⟨_, _, edits⟩
      · rw [refused]
        exact equipped
      · exact (configureShaper _ now).of_quiet edits
  | upsertContract contract =>
      change (engine.upsertContract now contract).2.Equipped
      rcases engine.upsertContract_cases now contract with
        ⟨status, refused⟩ | ⟨_, edits⟩
      · rw [refused]
        exact equipped
      · exact (equipped.contracting now contract).of_quiet edits
  | _ =>
      exact equipped.of_quiet (Command.quiet rfl (by nofun) engine now)

/-- Every engine that runs on an accepted configuration. -/
theorem run
    {config : EngineConfig} {boot : Nanos}
    (accepted : (Engine.construct config boot).configStatus = .ok ())
    (run : EngineRun config boot history engine) : engine.Equipped := by
  refine Run.invariant (initial accepted) ?_ run
  intro state event next step equipped
  cases step with
  | call now command =>
      exact equipped.execute now command
  | rehash sessions _ _ same =>
      intro ceiling rateBps sets
      refine equipped ceiling rateBps ?_
      cases ceiling with
      | isolation =>
          exact sets
      | workload =>
          obtain ⟨contract, known, rate⟩ := sets
          exact ⟨contract, (AList.perm_lookup same).symm.trans known, rate⟩

end Engine.Equipped

/-! ## Metered runs -/

/-- A step, with the bytes granted so far under a ceiling. -/
def MeteredStep
    (ceiling : Ceiling) (before : Engine × Nat) (event : Event)
    (after : Engine × Nat) : Prop :=
  Step before.1 event after.1 ∧
    after.2 = before.2 + event.grantedUnder ceiling before.1

/-- A part of a run in which `granted` bytes are granted under a ceiling. -/
abbrev MeteredRun
    (ceiling : Ceiling) (start : Engine) (history : List Event)
    (engine : Engine) (granted : Nat) : Prop :=
  Run (MeteredStep ceiling) (start, 0) history (engine, granted)

theorem mem_clockReadings
    {response : Response}
    (member : Event.call now command response ∈ history) :
    now ∈ clockReadings history :=
  List.mem_filterMap.mpr ⟨_, member, rfl⟩

section

variable {ceiling : Ceiling} {first last : Nanos} {start : Engine}

/-- Where a bucket is never configured, what was granted is in its account. -/
theorem MeteredRun.spent
    {bucket : TokenBucket} (known : ceiling.bucket start.shaper = some bucket)
    (configured : bucket.configured = true)
    (bounded : bucket.tokens ≤ bucket.capacityBytes)
    {state : Engine × Nat}
    (run : Run (MeteredStep ceiling) (start, 0) history state)
    (within : ∀ now ∈ clockReadings history, first ≤ now ∧ now ≤ last)
    (kept : ∀ event ∈ history, event.reconfigures ceiling = false) :
    ∃ left, ceiling.bucket state.1.shaper = some left ∧
      left.Spent bucket.rateBps bucket.capacityBytes first last state.2 := by
  induction run with
  | start =>
      exact ⟨bucket, known, .initial configured bounded⟩
  | @step history before after event earlier step hypothesis =>
      rcases hypothesis
        (fun now member => within now (by
          rw [clockReadings, List.filterMap_append]
          exact List.mem_append_left _ member))
        (fun past member => kept past (List.mem_append_left _ member)) with
        ⟨left, found, spent⟩
      rcases before with ⟨engine, granted⟩
      rcases after with ⟨next, total⟩
      rcases step with ⟨step, counted⟩
      dsimp only at step counted found spent ⊢
      subst counted
      have own := List.mem_append_right history (List.mem_singleton_self event)
      cases step with
      | call now command =>
          have drawn := engine.execute_draws now command ceiling
            (kept _ own)
          rw [found] at drawn
          rcases within now (mem_clockReadings own) with ⟨since, until_⟩
          exact spent.draw since until_ drawn
      | rehash =>
          exact ⟨left, found, spent⟩

/-- Without a bucket nothing is granted. -/
theorem MeteredRun.nothing
    (unknown : ceiling.bucket start.shaper = none)
    {state : Engine × Nat}
    (run : Run (MeteredStep ceiling) (start, 0) history state)
    (kept : ∀ event ∈ history, event.reconfigures ceiling = false) :
    ceiling.bucket state.1.shaper = none ∧ state.2 = 0 := by
  induction run with
  | start =>
      exact ⟨unknown, rfl⟩
  | @step history before after event earlier step hypothesis =>
      rcases hypothesis
        (fun past member => kept past (List.mem_append_left _ member)) with
        ⟨missing, none_⟩
      rcases before with ⟨engine, granted⟩
      rcases after with ⟨next, total⟩
      rcases step with ⟨step, counted⟩
      dsimp only at step counted missing none_ ⊢
      subst counted none_
      cases step with
      | call now command =>
          have drawn := engine.execute_draws now command ceiling
            (kept _ (List.mem_append_right _ (List.mem_singleton_self _)))
          rw [missing] at drawn
          rcases drawn.of_none with ⟨missing, nothing⟩
          exact ⟨missing, by rw [nothing]⟩
      | rehash =>
          exact ⟨missing, rfl⟩

end

/-- Between two clock readings, the sessions of a class or a workload are
granted at most the capacity of its bucket and what its ceiling allows for
the time between. -/
theorem grants_stay_below_ceiling
    {config : EngineConfig} {boot : Nanos} {earlier : List Event}
    {start : Engine} (run : EngineRun config boot earlier start)
    (ceiling : Ceiling) {history : List Event} {engine : Engine}
    {granted : Nat}
    (metered : MeteredRun ceiling start history engine granted)
    {first last : Nanos}
    (within : ∀ now ∈ clockReadings history, first ≤ now ∧ now ≤ last)
    (kept : ∀ event ∈ history, event.reconfigures ceiling = false) :
    (∀ bucket, ceiling.bucket start.shaper = some bucket →
      ceiling.Sets start bucket.rateBps ∧
        granted ≤ bucket.capacityBytes.toNat +
          bucket.rateBps.toNat * (last.toInt - first.toInt).toNat /
            1000000000) ∧
      (ceiling.bucket start.shaper = none → granted = 0) := by
  constructor
  · intro bucket known
    have holds := Engine.Calibrated.run run ceiling bucket known
    rcases MeteredRun.spent known holds.configured holds.bounded metered
      within kept with ⟨left, _, spent⟩
    exact ⟨holds.rate, spent.granted_le⟩
  · intro unknown
    exact (MeteredRun.nothing unknown metered kept).2

/-- The bytes that a script grants under a ceiling. -/
def Engine.grantedOver (ceiling : Ceiling) :
    Engine → List (Nanos × Command) → Nat
  | _, [] => 0
  | engine, (now, command) :: calls =>
      let result := engine.execute now command
      (Event.call now command result.1).grantedUnder ceiling engine +
        result.2.grantedOver ceiling calls

theorem Engine.executeAll_metered
    (ceiling : Ceiling) (engine : Engine) (calls : List (Nanos × Command))
    (granted : Nat) :
    Run (MeteredStep ceiling) (engine, granted) (engine.executeAll calls).1
      ((engine.executeAll calls).2,
        granted + engine.grantedOver ceiling calls) := by
  induction calls generalizing engine granted with
  | nil =>
      exact .start
  | cons call _ hypothesis =>
      rcases call with ⟨now, command⟩
      have later := hypothesis (engine.execute now command).2 (granted +
        (Event.call now command
          (engine.execute now command).1).grantedUnder ceiling engine)
      rw [Nat.add_assoc] at later
      exact (Run.single ⟨.call engine now command, rfl⟩).append later

/-- Two shards of an admitted session ask for credit. -/
def wavesScript : List (Nanos × Command) :=
  [(2, .requestWave ⟨Sample.drawn 0⟩ ⟨0⟩ (Sample.fence 1)),
    (1000002, .requestWave ⟨Sample.drawn 0⟩ ⟨1⟩ (Sample.fence 1))]

/-- The session they belong to is admitted. -/
def wavesAdmission : List (Nanos × Command) :=
  [(1, .submitSession (Sample.request 3 [2000000, 500000]) (Sample.fence 1))]

/-- The engine they ask. -/
def waveEngine : Engine :=
  ((Engine.construct Sample.config 0).executeAll wavesAdmission).2

theorem grants_stay_below_ceiling_for_two_shards :
    ∃ bucket,
      (Ceiling.workload ⟨Sample.uuid 1⟩).bucket waveEngine.shaper =
          some bucket ∧
        waveEngine.grantedOver (.workload ⟨Sample.uuid 1⟩) wavesScript =
          1548576 ∧
        1548576 ≤ bucket.capacityBytes.toNat +
          bucket.rateBps.toNat * 1000000 / 1000000000 := by
  have facts :
      ∃ bucket ∈ (Ceiling.workload ⟨Sample.uuid 1⟩).bucket waveEngine.shaper,
        waveEngine.grantedOver (.workload ⟨Sample.uuid 1⟩) wavesScript =
            1548576 ∧
          ∀ event ∈ (waveEngine.executeAll wavesScript).1,
            event.reconfigures (.workload ⟨Sample.uuid 1⟩) = false := by
    decide +kernel
  rcases facts with ⟨bucket, known, granted, kept⟩
  have metered :=
    waveEngine.executeAll_metered (.workload ⟨Sample.uuid 1⟩) wavesScript 0
  have within :
      ∀ now ∈ clockReadings (waveEngine.executeAll wavesScript).1,
        2 ≤ now ∧ now ≤ 1000002 := by
    rw [Engine.clockReadings_executeAll]
    intro now member
    have listed : now = 2 ∨ now = 1000002 := by
      simpa [wavesScript] using member
    rcases listed with rfl | rfl <;> decide
  have reached :
      EngineRun Sample.config 0
        ((Engine.construct Sample.config 0).executeAll wavesAdmission).1
        waveEngine :=
    Engine.executeAll_run (Engine.construct Sample.config 0) wavesAdmission
  have span :
      ((1000002 : Nanos).toInt - (2 : Nanos).toInt).toNat = 1000000 := by
    decide
  rw [granted, Nat.zero_add] at metered
  rcases (grants_stay_below_ceiling reached _ metered within kept).1 bucket
    known with ⟨_, bounded⟩
  rw [span] at bounded
  exact ⟨bucket, known, granted, bounded⟩

end TrafficFabric
