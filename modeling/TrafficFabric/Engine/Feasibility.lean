import TrafficFabric.Accrual
import TrafficFabric.Engine.Issuance
import Mathlib.Tactic.Ring

/-!
# Deadlines that a granted rate can meet

`plan_rate` computes the rate that a deadline requires, checks it against the
ceiling of the class and grants it within the ceilings of the class and of the
contract.  Nothing compares it with the contract, the computation wraps for
large checkpoints, and the deadline itself is an addition that may overflow.
-/

namespace TrafficFabric

open Foundation

variable {bytes span left right : Nat} {horizon now : Nanos} {engine : Engine}
  {request : SessionRequest} {contract : WorkloadContract}
  {envelope : IsolationEnvelopeConfig} {path : PathClass} {rateBps : UInt64}
  {focus : Focus} {made : AdmissionDecision}

/-- Bytes at a rate per second fit into a span of nanoseconds. -/
def Suffices (bytes span rate : Nat) : Prop :=
  bytes * 1000000000 ≤ rate * span

instance (bytes span rate : Nat) : Decidable (Suffices bytes span rate) :=
  inferInstanceAs (Decidable (_ ≤ _))

theorem Suffices.mono
    {less more : Nat} (suffices_ : Suffices bytes span less)
    (grown : less ≤ more) : Suffices bytes span more :=
  Nat.le_trans suffices_ (Nat.mul_le_mul_right span grown)

theorem suffices_min_iff :
    Suffices bytes span (min left right) ↔
      Suffices bytes span left ∧ Suffices bytes span right := by
  constructor
  · intro both
    exact ⟨both.mono (Nat.min_le_left _ _), both.mono (Nat.min_le_right _ _)⟩
  · rintro ⟨first, second⟩
    rcases Nat.le_total left right with ordered | ordered
    · rwa [Nat.min_eq_left ordered]
    · rwa [Nat.min_eq_right ordered]

theorem suffices_max_iff :
    Suffices bytes span (max left right) ↔
      Suffices bytes span left ∨ Suffices bytes span right := by
  constructor
  · intro either
    rcases Nat.le_total left right with ordered | ordered
    · rw [Nat.max_eq_right ordered] at either
      exact .inr either
    · rw [Nat.max_eq_left ordered] at either
      exact .inl either
  · rintro (first | second)
    · exact first.mono (Nat.le_max_left _ _)
    · exact second.mono (Nat.le_max_right _ _)

/-! ## The required rate -/

/-- The words of `ceil_rate` hold its intermediate results. -/
def CeilRateExact (bytes span : Nat) : Prop :=
  bytes % span * 1000000000 + span - 1 < 2 ^ 64 ∧
    bytes / span * 1000000000 +
        (bytes % span * 1000000000 + span - 1) / span <
      2 ^ 64

instance (bytes span : Nat) : Decidable (CeilRateExact bytes span) :=
  inferInstanceAs (Decidable (_ ∧ _))

/-- What `ceil_rate` computes, wrapping included. -/
theorem toNat_ceilRate
    (bytes : UInt64) (positive : 0 < horizon) :
    (ceilRate bytes horizon).toNat =
      (bytes.toNat / horizon.toInt.toNat * 1000000000 +
        (bytes.toNat % horizon.toInt.toNat * 1000000000 +
            horizon.toInt.toNat - 1) % 2 ^ 64 /
          horizon.toInt.toNat) % 2 ^ 64 := by
  have span := Nanos.toNat_toUInt64_of_pos positive
  have some_ := Nanos.toNat_pos positive
  have bounded := horizon.toUInt64.toNat_lt
  unfold ceilRate
  rw [if_neg (Int64.not_le.mpr positive)]
  dsimp only
  have inner :
      (bytes % horizon.toUInt64 * nanosPerSecondU64 + horizon.toUInt64 -
          1).toNat =
        (bytes.toNat % horizon.toInt.toNat * 1000000000 +
          horizon.toInt.toNat - 1) % 2 ^ 64 := by
    rw [UInt64.toNat_sub, UInt64.toNat_add, UInt64.toNat_mul,
      UInt64.toNat_mod, span]
    change (2 ^ 64 - 1 + (bytes.toNat % horizon.toInt.toNat * 1000000000 %
      2 ^ 64 + horizon.toInt.toNat) % 2 ^ 64) % 2 ^ 64 = _
    generalize bytes.toNat % horizon.toInt.toNat * 1000000000 = scaled
    omega
  rw [UInt64.toNat_add, UInt64.toNat_div, UInt64.toNat_mul,
    UInt64.toNat_div, inner, span]
  change (bytes.toNat / horizon.toInt.toNat * 1000000000 % 2 ^ 64 + _) %
    2 ^ 64 = _
  rw [Nat.mod_add_mod]

/-- The computed rate suffices exactly when nothing wrapped. -/
theorem ceilRate_suffices_iff
    (bytes : UInt64) (positive : 0 < horizon) :
    Suffices bytes.toNat horizon.toInt.toNat (ceilRate bytes horizon).toNat ↔
      CeilRateExact bytes.toNat horizon.toInt.toNat := by
  rw [toNat_ceilRate bytes positive]
  have same := Nanos.toNat_toUInt64_of_pos positive
  have some_ := Nanos.toNat_pos positive
  have short : horizon.toInt.toNat < 2 ^ 64 := by
    rw [← same]
    exact horizon.toUInt64.toNat_lt
  unfold Suffices CeilRateExact
  generalize bytes.toNat = total
  generalize horizon.toInt.toNat = span at some_ short ⊢
  -- The bytes split into whole spans and a remainder.
  have parts := Nat.div_add_mod total span
  generalize whole_ : total / span = whole at parts ⊢
  generalize rest_ : total % span = rest at parts ⊢
  have scaled :
      total * 1000000000 =
        whole * 1000000000 * span + rest * 1000000000 := by
    rw [← parts]
    ring
  have ceiling (number : Nat) : number / span * span ≤ number :=
    Nat.div_mul_le_self number span
  constructor
  · intro enough
    by_contra inexact
    rw [not_and_or, Nat.not_lt, Nat.not_lt] at inexact
    have upper :=
      Nat.mul_le_mul_right span
        (Nat.mod_le
          (whole * 1000000000 +
            (rest * 1000000000 + span - 1) % 2 ^ 64 / span) (2 ^ 64))
    rw [Nat.add_mul] at upper
    by_cases first : 2 ^ 64 ≤ rest * 1000000000 + span - 1
    · have part := ceiling ((rest * 1000000000 + span - 1) % 2 ^ 64)
      omega
    · have second := inexact.resolve_left first
      rw [Nat.mod_eq_of_lt (Nat.not_le.mp first)] at enough
      obtain ⟨excess, split_⟩ := Nat.exists_eq_add_of_le second
      have part := ceiling (rest * 1000000000 + span - 1)
      have product := congrArg (· * span) split_
      rw [Nat.add_mul, Nat.add_mul] at product
      rw [split_, Nat.add_mod_left] at enough
      have lower := Nat.mul_le_mul_right span (Nat.mod_le excess (2 ^ 64))
      omega
  · rintro ⟨first, second⟩
    rw [Nat.mod_eq_of_lt first, Nat.mod_eq_of_lt second, Nat.add_mul, scaled]
    have rounded :
        rest * 1000000000 ≤
          (rest * 1000000000 + span - 1) / span * span := by
      have remainder := Nat.div_add_mod (rest * 1000000000 + span - 1) span
      have below := Nat.mod_lt (rest * 1000000000 + span - 1) some_
      rw [Nat.mul_comm] at remainder
      omega
    omega

/-! ## The least rate -/

/-- The least whole rate that moves the bytes in time. -/
def leastRate (bytes span : Nat) : Nat :=
  (bytes * 1000000000 + span - 1) / span

theorem leastRate_eq
    (bytes : Nat) (positive : 0 < span) :
    leastRate bytes span =
      bytes / span * 1000000000 +
        (bytes % span * 1000000000 + span - 1) / span := by
  unfold leastRate
  have parts := Nat.div_add_mod bytes span
  have whole :
      bytes * 1000000000 + span - 1 =
        (bytes % span * 1000000000 + span - 1) +
          span * (bytes / span * 1000000000) := by
    have scaled :
        bytes * 1000000000 =
          span * (bytes / span * 1000000000) +
            bytes % span * 1000000000 := by
      rw [← Nat.mul_assoc, ← Nat.add_mul, parts]
    omega
  rw [whole, Nat.add_mul_div_left _ _ positive, Nat.add_comm]

/-- A remainder that wraps costs at least one unit of the rate. -/
theorem wrapped_div_lt
    {number : Nat} (positive : 0 < span) (short : span ≤ 2 ^ 64)
    (wraps : 2 ^ 64 ≤ number) : number % 2 ^ 64 / span < number / span := by
  have room : number % 2 ^ 64 + span ≤ number := by
    omega
  have grown := Nat.div_le_div_right (c := span) room
  rw [Nat.add_div_right _ positive] at grown
  exact grown

/-- A rate that fits a word is computed exactly when the scaled remainder
fits one as well. -/
theorem ceil_rate_is_exact_iff
    (bytes : UInt64) {horizon : Nanos} (positive : 0 < horizon)
    (fits : leastRate bytes.toNat horizon.toInt.toNat < 2 ^ 64) :
    (ceilRate bytes horizon).toNat =
        leastRate bytes.toNat horizon.toInt.toNat ↔
      bytes.toNat % horizon.toInt.toNat * 1000000000 +
          horizon.toInt.toNat - 1 < 2 ^ 64 := by
  have same := Nanos.toNat_toUInt64_of_pos positive
  have some_ := Nanos.toNat_pos positive
  have short : horizon.toInt.toNat < 2 ^ 64 := by
    rw [← same]
    exact horizon.toUInt64.toNat_lt
  rw [toNat_ceilRate bytes positive]
  rw [leastRate_eq _ some_] at fits ⊢
  constructor
  · intro exact_
    by_contra wraps
    have less :=
      wrapped_div_lt some_ (Nat.le_of_lt short) (Nat.not_lt.mp wraps)
    rw [Nat.mod_eq_of_lt (by omega)] at exact_
    omega
  · intro holds
    rw [Nat.mod_eq_of_lt holds, Nat.mod_eq_of_lt fits]

/-- A megabyte in a minute. -/
theorem ceil_rate_is_exact_for_a_minute :
    (ceilRate 1048576 60000000000).toNat = leastRate 1048576 60000000000 :=
  (ceil_rate_is_exact_iff 1048576 (show 0 < 60000000000 by decide)
    (by decide)).mpr (by decide)

/-- A checkpoint of 3.6 terabytes and an hour give a rate that is too small by
far. -/
theorem hour_of_terabytes_wraps :
    (3599999999999 : UInt64) ≤ hardLimits.maxCheckpointBytes ∧
      leastRate 3599999999999 3600000000000 = 1000000000 ∧
      (ceilRate 3599999999999 3600000000000).toNat = 801363 := by
  decide

/-! ## Planned rates -/

theorem Engine.planRate_eq
    (planned :
      engine.planRate request contract envelope path now = .ok rateBps) :
    rateBps = plannedRate request contract envelope := by
  simp only [Engine.planRate, bind_eq_ok, refuseWhen_eq_ok] at planned
  rcases planned with ⟨_, _, _, _, _, _, _, _, _, _, same⟩
  cases same
  rfl

/-- When the granted rate moves the bytes within the horizon. -/
theorem Engine.planRate_suffices_iff
    (planned :
      engine.planRate request contract envelope path now = .ok rateBps)
    (positive : 0 < chooseHorizon request contract) :
    Suffices request.manifest.totalBytes.toNat
        (chooseHorizon request contract).toInt.toNat rateBps.toNat ↔
      (Suffices request.manifest.totalBytes.toNat
          (chooseHorizon request contract).toInt.toNat
          envelope.ceilingBps.toNat ∧
        Suffices request.manifest.totalBytes.toNat
          (chooseHorizon request contract).toInt.toNat
          contract.ceilingBps.toNat) ∧
      (request.requestedRateBps = 0 ∨
        Suffices request.manifest.totalBytes.toNat
          (chooseHorizon request contract).toInt.toNat
          request.requestedRateBps.toNat ∨
        CeilRateExact request.manifest.totalBytes.toNat
          (chooseHorizon request contract).toInt.toNat) := by
  rw [Engine.planRate_eq planned, plannedRate, requestedRate, Word.toNat_min,
    Word.toNat_max, suffices_min_iff, suffices_max_iff,
    ceilRate_suffices_iff _ positive, Word.toNat_min, suffices_min_iff]
  split
  · rename_i unasked
    rw [Word.toNat_min, suffices_min_iff]
    constructor
    · rintro ⟨_, ceilings⟩
      exact ⟨ceilings, .inl unasked⟩
    · rintro ⟨ceilings, _⟩
      exact ⟨.inl ceilings, ceilings⟩
  · rename_i asked
    constructor
    · rintro ⟨either, ceilings⟩
      exact ⟨ceilings, .inr either⟩
    · rintro ⟨ceilings, either⟩
      exact ⟨either.resolve_left asked, ceilings⟩

/-! ## Envelopes -/

/-- The rate of the envelope moves the bytes before its deadline, over the
unbounded integers. -/
def TrafficEnvelope.Feasible
    (envelope : TrafficEnvelope) (bytes : UInt64) : Prop :=
  (bytes.toNat : Int) * 1000000000 ≤
    (envelope.rateBps.toNat : Int) *
      (envelope.deadlineTarget.toInt - envelope.issuedAt.toInt)

instance (envelope : TrafficEnvelope) (bytes : UInt64) :
    Decidable (envelope.Feasible bytes) :=
  inferInstanceAs (Decidable (_ ≤ _))

/-- A deadline ahead is feasible when it can be dated and the rate
suffices. -/
theorem TrafficEnvelope.feasible_iff
    {envelope : TrafficEnvelope} {bytes : UInt64}
    (issued : envelope.issuedAt = now)
    (due : envelope.deadlineTarget = now + horizon)
    (positive : 0 < horizon) (rated : 0 < envelope.rateBps) :
    envelope.Feasible bytes ↔
      now.toInt + horizon.toInt < 2 ^ 63 ∧
        Suffices bytes.toNat horizon.toInt.toNat envelope.rateBps.toNat := by
  have above : (0 : Int) < horizon.toInt := Int64.lt_iff_toInt_lt.mp positive
  have some_ : 0 < envelope.rateBps.toNat := UInt64.lt_iff_toNat_lt.mp rated
  have least := now.le_toInt
  have most := now.toInt_lt
  have farthest := horizon.toInt_lt
  unfold TrafficEnvelope.Feasible Suffices
  rw [issued, due, Int64.toInt_add]
  have span : ((horizon.toInt.toNat : Nat) : Int) = horizon.toInt :=
    Int.toNat_of_nonneg above.le
  by_cases dated : now.toInt + horizon.toInt < 2 ^ 63
  · have target :
        (now.toInt + horizon.toInt).bmod (2 ^ 64) =
          now.toInt + horizon.toInt := by
      rw [Int.bmod_def]
      split <;> omega
    rw [target, add_sub_cancel_left]
    refine ⟨fun fits => ⟨dated, ?_⟩, fun fits => ?_⟩
    · rw [← span] at fits
      exact_mod_cast fits
    · rw [← span]
      exact_mod_cast fits.2
  · -- The deadline has wrapped into the past.
    have target :
        (now.toInt + horizon.toInt).bmod (2 ^ 64) =
          now.toInt + horizon.toInt - 2 ^ 64 := by
      rw [Int.bmod_def]
      split <;> omega
    rw [target]
    refine iff_of_false ?_ (fun both => dated both.1)
    intro fits
    have past :
        now.toInt + horizon.toInt - 2 ^ 64 - now.toInt < 0 := by
      omega
    have negative :=
      Int.mul_neg_of_pos_of_neg (Int.natCast_pos.mpr some_) past
    omega

/-- A deadline that the terms of a request, its contract and its class can
meet. -/
structure Timely
    (now : Nanos) (request : SessionRequest) (contract : WorkloadContract)
    (config : IsolationEnvelopeConfig) : Prop where
  ahead : 0 < chooseHorizon request contract
  dated : now.toInt + (chooseHorizon request contract).toInt < 2 ^ 63
  withinCeilings :
    Suffices request.manifest.totalBytes.toNat
        (chooseHorizon request contract).toInt.toNat
        config.ceilingBps.toNat ∧
      Suffices request.manifest.totalBytes.toNat
        (chooseHorizon request contract).toInt.toNat
        contract.ceilingBps.toNat
  required :
    request.requestedRateBps = 0 ∨
      Suffices request.manifest.totalBytes.toNat
        (chooseHorizon request contract).toInt.toNat
        request.requestedRateBps.toNat ∨
      CeilRateExact request.manifest.totalBytes.toNat
        (chooseHorizon request contract).toInt.toNat

/-- An envelope with a planned rate is feasible exactly when its terms are
timely. -/
theorem Engine.planRate_feasible_iff
    {config : IsolationEnvelopeConfig}
    {envelope : TrafficEnvelope}
    (planned :
      engine.planRate request contract config path now =
        .ok envelope.rateBps)
    (issued : envelope.issuedAt = now)
    (due : envelope.deadlineTarget = now + chooseHorizon request contract)
    (positive : 0 < chooseHorizon request contract) :
    envelope.Feasible request.manifest.totalBytes ↔
      Timely now request contract config := by
  rw [TrafficEnvelope.feasible_iff issued due positive
    (Engine.planRate_ok planned).positive,
    Engine.planRate_suffices_iff planned positive]
  constructor
  · rintro ⟨dated, ceilings, required⟩
    exact ⟨positive, dated, ceilings, required⟩
  · intro timely
    exact ⟨timely.dated, timely.withinCeilings, timely.required⟩

/-! ## Issues -/

/-- The terms under which a command would issue an envelope are timely. -/
def TimelyCondition (engine : Engine) (now : Nanos) : Command → Prop
  | .submitSession request _ =>
      ∀ contract ∈ engine.contracts.lookup request.workload,
        ∀ config ∈
          findEnvelope engine.policy (chooseIsolation request contract),
          Timely now request contract config
  | .revalidateSession id _ =>
      ∀ session ∈ engine.sessions.lookup id,
        ∀ contract ∈ engine.contracts.lookup session.request.workload,
          ∀ config ∈ findEnvelope engine.policy session.envelope.isolation,
            Timely now session.request contract config
  | _ => True

theorem Engine.admissionPlan_rated
    {fence : CommandFence} {plan : AdmissionPlan}
    (passed : engine.admissionPlan now request fence = .ok plan) :
    ∃ config path,
      findEnvelope engine.policy plan.isolation = some config ∧
        engine.planRate request plan.contract config path now =
          .ok plan.rateBps := by
  simp only [Engine.admissionPlan, bind_eq_ok, requireSome_eq_ok,
    refuseWhen_eq_ok] at passed
  rcases passed with
    ⟨_, _, _, _, contract, _, _, _, _, _, envelope, configured, _, _, _, _,
      path, _, _, _, _, _, _, _, _, _, _, _, planned⟩
  split at planned
  · cases planned
  · rename_i rate rated
    cases planned
    exact ⟨envelope, path, configured, rated⟩

theorem Focus.revalidate_rated
    (answered : (focus.revalidate now).1 = .ok made)
    (admitted : made.kind = .admitted) :
    ∃ contract config path pathId rateBps,
      focus.engine.contracts.lookup focus.session.request.workload =
          some contract ∧
        findEnvelope focus.engine.policy focus.session.envelope.isolation =
          some config ∧
        focus.engine.planRate focus.session.request contract config path
          now = .ok rateBps ∧
        focus.revalidate now = focus.readmit contract pathId rateBps now := by
  unfold Focus.revalidate at answered ⊢
  dsimp only at answered ⊢
  split at answered
  · cases answered
    cases admitted
  · rename_i contract known
    split at answered
    · rename_i config path configured found
      split at answered
      · split at answered
        · cases answered
          cases admitted
        · cases answered
          cases admitted
      · rename_i rate planned
        exact ⟨contract, config, path, _, rate, known, configured, planned,
          rfl⟩
    · cases answered
      cases admitted

theorem Focus.readmit_envelope
    {pathId : PathClassId}
    (answered : (focus.readmit contract pathId rateBps now).1 = .ok made) :
    ∃ envelope,
      made.envelope = some envelope ∧ envelope.rateBps = rateBps ∧
        envelope.issuedAt = now ∧
        envelope.deadlineTarget =
          now + chooseHorizon focus.session.request contract := by
  unfold Focus.readmit at answered
  dsimp only at answered
  split at answered
  · cases answered
  · cases answered
    refine ⟨_, rfl, rfl, rfl, ?_⟩
    change now + chooseHorizon focus.releasePathReservation.session.request
      contract = _
    rw [Focus.releasePathReservation_session]

/-- The request that a command would issue an envelope for. -/
def Engine.requestOf (engine : Engine) : Command → Option SessionRequest
  | .submitSession request _ => some request
  | .revalidateSession id _ =>
      (engine.sessions.lookup id).map (fun session => session.request)
  | _ => none

/-- The size of the checkpoint that a command would issue an envelope
for. -/
def Engine.checkpointBytes (engine : Engine) (command : Command) :
    Option UInt64 :=
  (engine.requestOf command).map (fun request => request.manifest.totalBytes)

/-- An issued envelope has the rate planned for the request of the command,
and its deadline lies the horizon of the request after the current time. -/
theorem Engine.issued_terms
    {command : Command} {id : SessionId} {envelope : TrafficEnvelope}
    (issued : (engine.execute now command).1.issued = some (id, envelope))
    (fresh :
      ∀ request fence, command = .submitSession request fence →
        ⟨(engine.observe now).idFactory.next.1⟩ ∉
          (engine.observe now).sessions) :
    ∃ request contract config, engine.requestOf command = some request ∧
      engine.contracts.lookup request.workload = some contract ∧
      (TimelyCondition engine now command ↔
        Timely now request contract config) ∧
      (∃ (reached : Engine) (path : PathClass),
        reached.planRate request contract config path now =
          .ok envelope.rateBps) ∧
      envelope.issuedAt = now ∧
      envelope.deadlineTarget = now + chooseHorizon request contract := by
  have policy : (engine.observe now).policy = engine.policy :=
    congrArg Authority.policy (engine.observe_authority now)
  have contracts := engine.observe_contracts now
  cases command with
  | submitSession request fence =>
      rcases Response.issued_decision issued with
        ⟨made, answered, kind, reason, rfl, enveloped⟩
      rcases Engine.admits_of_answer answered kind reason with
        ⟨plan, shaper, admits⟩
      rcases Engine.submission_envelope admits answered with ⟨named, same⟩
      have built :=
        Engine.submission_stored admits (fresh request fence rfl)
      rw [named, built, enveloped] at same
      have made_ : envelope = (engine.submitted now request plan).envelope :=
        Option.some.inj same
      have issuable := Engine.admissionPlan_issuable admits.planned
      rcases Engine.admissionPlan_rated admits.planned with
        ⟨config, path, configured, rated⟩
      have known := issuable.contract
      rw [contracts] at known
      rw [policy, issuable.isolation] at configured
      rw [made_]
      refine ⟨request, plan.contract, config, rfl, known, ?_,
        ⟨_, path, rated⟩, rfl, rfl⟩
      simp only [TimelyCondition, known, configured, Option.mem_some_iff,
        forall_eq']
  | revalidateSession own fence =>
      rcases Response.issued_decision issued with
        ⟨made, answered, kind, reason, rfl, enveloped⟩
      change (engine.revalidateSession now own fence).1 = .ok made at answered
      unfold Engine.revalidateSession Engine.guarded at answered
      dsimp only at answered
      split at answered
      · cases answered
      · rename_i focus passed
        rcases Engine.revalidationTarget_ok passed with ⟨owned, stale⟩
        rcases Focus.revalidate_rated answered kind with
          ⟨contract, config, path, pathId, rateBps, known, configured, rated,
            readmitted⟩
        rw [readmitted] at answered
        rcases Focus.readmit_envelope answered with
          ⟨sent, given, rate, dated, due⟩
        cases given.symm.trans enveloped
        rw [owned.engine, contracts] at known
        rw [owned.engine, policy] at configured
        rw [← rate] at rated
        have found := owned.unobserved stale
        refine ⟨_, contract, config, congrArg (Option.map _) found, known, ?_,
          ⟨_, path, rated⟩, dated, due⟩
        simp only [TimelyCondition, found, known, configured,
          Option.mem_some_iff, forall_eq']
  | _ =>
      cases issued

/-- Contracts leave time, as `validate_contract` demands. -/
def Engine.Budgeted (engine : Engine) : Prop :=
  ∀ workload, ∀ contract ∈ engine.contracts.lookup workload,
    0 < contract.deadlineBudgetNs

theorem chooseHorizon_pos
    (budget : 0 < contract.deadlineBudgetNs) :
    0 < chooseHorizon request contract := by
  unfold chooseHorizon
  split
  · assumption
  · exact budget

/--
In every state an envelope issued on timely terms is feasible, and where
contracts leave time it is feasible on no others.
-/
theorem issued_deadline_is_feasible
    {engine : Engine} {now : Nanos} {command : Command} {id : SessionId}
    {envelope : TrafficEnvelope}
    (issued : (engine.execute now command).1.issued = some (id, envelope))
    (fresh :
      ∀ request fence, command = .submitSession request fence →
        ⟨(engine.observe now).idFactory.next.1⟩ ∉
          (engine.observe now).sessions)
    {bytes : UInt64} (sized : engine.checkpointBytes command = some bytes) :
    (TimelyCondition engine now command → envelope.Feasible bytes) ∧
      (engine.Budgeted → envelope.Feasible bytes →
        TimelyCondition engine now command) := by
  rcases Engine.issued_terms issued fresh with
    ⟨request, contract, config, asked, known, timely, ⟨reached, path, rated⟩,
      dated, due⟩
  rw [Engine.checkpointBytes, asked] at sized
  cases sized
  have feasible (positive : 0 < chooseHorizon request contract) :=
    Engine.planRate_feasible_iff rated dated due positive
  rw [timely]
  constructor
  · intro terms
    exact (feasible terms.ahead).mpr terms
  · intro budgeted fits
    exact (feasible (chooseHorizon_pos (budgeted _ _ known))).mp fits

/-- A contract whose ceiling is ten bytes per second. -/
def lowConfig : EngineConfig :=
  { Sample.config with
    contracts := [{ Sample.contract with ceilingBps := 10 }] }

/-- A checkpoint of a thousand bytes that is due after a second. -/
def urgentRequest : SessionRequest :=
  { Sample.request 3 [1000] with deadlineHorizonNs := 1000000000 }

theorem urgentRequest_evaluated :
    ((Engine.construct Sample.config 0).execute 1
        (.submitSession urgentRequest (Sample.fence 1))).1.issued.isSome =
        true ∧
      ((Engine.construct Sample.config 0).observe 1).sessions.keys = [] ∧
      (Engine.construct Sample.config 0).contracts.lookup
        urgentRequest.workload = some Sample.contract ∧
      findEnvelope (Engine.construct Sample.config 0).policy
          (chooseIsolation urgentRequest Sample.contract) =
        some { isolation := .trainingBulk, ceilingBps := 1000000000 } ∧
      ((Engine.construct lowConfig 0).execute 1
          (.submitSession urgentRequest (Sample.fence 1))).1.issued.map
          (fun issue =>
            (issue.2.rateBps, issue.2.deadlineTarget - issue.2.issuedAt,
              decide (issue.2.Feasible 1000))) =
        some (10, 1000000000, false) := by
  decide +kernel

/-- The sample contract can carry it. -/
theorem issued_deadline_is_feasible_for_urgent_request :
    ∃ id envelope,
      ((Engine.construct Sample.config 0).execute 1
          (.submitSession urgentRequest (Sample.fence 1))).1.issued =
          some (id, envelope) ∧
        envelope.Feasible 1000 := by
  obtain ⟨answered, empty, known, configured, _⟩ := urgentRequest_evaluated
  rcases Option.isSome_iff_exists.mp answered with ⟨⟨id, envelope⟩, issued⟩
  refine ⟨id, envelope, issued, ?_⟩
  refine (issued_deadline_is_feasible issued ?_ rfl).1 ?_
  · intro _ _ _ member
    rw [AList.mem_keys, empty] at member
    cases member
  · intro contract held config found
    cases known.symm.trans held
    cases configured.symm.trans found
    exact ⟨by decide, by decide, by decide, by decide⟩

/-- Under a contract of ten bytes per second the same request is admitted
with a rate that would take a hundred seconds. -/
theorem contract_ceiling_below_required_rate :
    ((Engine.construct lowConfig 0).execute 1
        (.submitSession urgentRequest (Sample.fence 1))).1.issued.map
        (fun issue =>
          (issue.2.rateBps, issue.2.deadlineTarget - issue.2.issuedAt,
            decide (issue.2.Feasible 1000))) =
      some (10, 1000000000, false) :=
  urgentRequest_evaluated.2.2.2.2

end TrafficFabric
