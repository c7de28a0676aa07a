import TrafficFabric.Engine.Terms

/-!
# Renewals on a shared path

`revalidate_session` plans a rate before it releases what the session itself
has reserved.  A session that kept its reservation, as it does through a
change of authority, is measured against a headroom that its own reservation
has already narrowed.
-/

namespace TrafficFabric

open Foundation

variable {request : SessionRequest} {contract : WorkloadContract}
  {envelope : IsolationEnvelopeConfig} {capacity : UInt64}

/-! ## Planning -/

/-- None of the conditions holds under which `plan_rate` refuses for good. -/
@[mk_iff]
structure RateSupported
    (request : SessionRequest) (contract : WorkloadContract)
    (envelope : IsolationEnvelopeConfig) : Prop where
  withinClass :
    requestedRate request contract envelope ≤ envelope.ceilingBps
  withinContract :
    requestedRate request contract envelope ≤ contract.ceilingBps
  timely :
    ceilRate request.manifest.totalBytes (chooseHorizon request contract) ≤
      envelope.ceilingBps

instance
    (request : SessionRequest) (contract : WorkloadContract)
    (envelope : IsolationEnvelopeConfig) :
    Decidable (RateSupported request contract envelope) :=
  decidable_of_iff _ (rateSupported_iff request contract envelope).symm

theorem pos_min_iff {left right : UInt64} :
    0 < min left right ↔ 0 < left ∧ 0 < right := by
  simp only [UInt64.lt_iff_toNat_lt, Word.toNat_min]
  omega

theorem plannedRate_pos
    (classed : envelope.ceilingBps ≠ 0) (agreed : contract.ceilingBps ≠ 0) :
    0 < plannedRate request contract envelope := by
  have ceiling : 0 < min envelope.ceilingBps contract.ceilingBps :=
    pos_min_iff.mpr
      ⟨UInt64.pos_iff_ne_zero.mpr classed, UInt64.pos_iff_ne_zero.mpr agreed⟩
  have requested : 0 < requestedRate request contract envelope := by
    unfold requestedRate
    split
    · exact ceiling
    · rename_i asked
      exact UInt64.pos_iff_ne_zero.mpr asked
  refine pos_min_iff.mpr ⟨?_, ceiling⟩
  rw [UInt64.lt_iff_toNat_lt, Word.toNat_max] at *
  omega

/-- A rate fits into the headroom of a path when the path has it left. -/
theorem headroom_iff {reserved rate : UInt64} (positive : 0 < rate) :
    (¬ (if reserved < capacity then capacity - reserved else 0) < rate) ↔
      reserved.toNat + rate.toNat ≤ capacity.toNat := by
  refine ⟨headroom_fits positive, ?_⟩
  intro fits
  have some_ := UInt64.lt_iff_toNat_lt.mp positive
  have below : reserved < capacity := by
    rw [UInt64.lt_iff_toNat_lt]
    change 0 < rate.toNat at some_
    omega
  rw [if_pos below, UInt64.not_lt, UInt64.le_iff_toNat_le,
    UInt64.toNat_sub_of_le _ _ (UInt64.le_of_lt below)]
  omega

/-- What `plan_rate` answers for a supported request. -/
theorem Engine.planRate_of_supported
    (supported : RateSupported request contract envelope)
    (positive : 0 < plannedRate request contract envelope)
    (engine : Engine) (path : PathClass) (now : Nanos) :
    engine.planRate request contract envelope path now =
      if (engine.shaper.reservedPathRate path.id).toNat +
          (plannedRate request contract envelope).toNat ≤
            path.capacityBps.toNat then
        .ok (plannedRate request contract envelope)
      else
        .error {
          reason := .pathCapacityUnavailable
          detail := ascii
            "path class has no unreserved capacity for this session"
          retryAfter := some (now + engine.policy.deferHorizonNs) } := by
  split
  · rename_i fits
    have room := (headroom_iff positive).mpr fits
    simp only [Engine.planRate, bind_eq_ok, refuseWhen_eq_ok]
    exact ⟨(), UInt64.not_lt.mpr supported.withinClass, (),
      UInt64.not_lt.mpr supported.withinContract, (),
      UInt64.not_lt.mpr supported.timely, (), room, (),
      UInt64.pos_iff_ne_zero.mp positive, rfl⟩
  · rename_i exceeds
    have crowded := not_not.mp (mt (headroom_iff positive).mp exceeds)
    simp only [Engine.planRate, bind_eq_error, refuseWhen_eq_error,
      refuseWhen_eq_ok]
    exact .inr ⟨(), UInt64.not_lt.mpr supported.withinClass,
      .inr ⟨(), UInt64.not_lt.mpr supported.withinContract,
        .inr ⟨(), UInt64.not_lt.mpr supported.timely,
          .inl ⟨crowded, trivial⟩⟩⟩⟩

/-! ## Revalidation -/

/-- Giving a reservation back leaves no more reserved on any path. -/
theorem Focus.reserved_releasePathReservation
    (focus : Focus) (path : PathClassId) :
    (focus.releasePathReservation.engine.shaper.reservedPathRate
        path).toNat ≤ (focus.engine.shaper.reservedPathRate path).toNat := by
  unfold Focus.releasePathReservation
  split
  · exact le_rfl
  · change ((focus.engine.shaper.releasePathRate _ _).reservedPathRate
      path).toNat ≤ _
    rw [RateShaper.reserved_release]
    exact Nat.sub_le _ _

/-- A planned rate can be reserved once the old one is given back. -/
theorem Focus.readmit_admits
    {focus : Focus} {path : PathClassId} {rateBps : UInt64}
    (fits :
      (focus.engine.shaper.reservedPathRate path).toNat + rateBps.toNat ≤
        capacity.toNat)
    (contract : WorkloadContract) (now : Nanos) :
    ∃ decision, (focus.readmit contract path rateBps now).1 = .ok decision ∧
      decision.kind = .admitted := by
  have lower := focus.reserved_releasePathReservation path
  have bounded := capacity.toNat_lt
  obtain ⟨shaper, reserved⟩ := RateShaper.reservePathRate_of_fits
    (show (focus.releasePathReservation.engine.shaper.reservedPathRate
      path).toNat + rateBps.toNat < 2 ^ 64 by omega)
  unfold Focus.readmit
  dsimp only
  rw [reserved]
  exact ⟨_, rfl, rfl⟩

section

variable {engine : Engine} {now : Nanos} {id : SessionId}
  {fence : CommandFence} {focus : Focus}

/-- In every reachable state, a session that may be revalidated and is not
refused for good is admitted exactly when its planned rate fits beside all
that is reserved on its path, its own old reservation included. -/
theorem revalidation_admits_iff
    {config : EngineConfig} {boot : Nanos} {history : List Event}
    (run : EngineRun config boot history engine)
    (passed : (engine.observe now).revalidationTarget id fence = .ok focus)
    {contract : WorkloadContract}
    (agreed :
      engine.contracts.lookup focus.session.request.workload = some contract)
    {envelope : IsolationEnvelopeConfig}
    (classed :
      findEnvelope engine.policy focus.session.envelope.isolation =
        some envelope)
    {path : PathClass}
    (routed :
      findPathClass engine.topology
        (focus.session.envelope.pathClass.getD ⟨0⟩) = some path)
    (supported : RateSupported focus.session.request contract envelope) :
    (∃ decision,
      (engine.revalidateSession now id fence).1 = .ok decision ∧
        decision.kind = .admitted) ↔
      ((engine.observe now).shaper.reservedPathRate path.id).toNat +
          (plannedRate focus.session.request contract envelope).toNat ≤
        path.capacityBps.toNat := by
  have authority := engine.observe_authority now
  have held := (Engine.revalidationTarget_ok passed).1
  have running : engine.shuttingDown = false := by
    simp only [Engine.revalidationTarget, bind_eq_ok, refuseWhen_eq_ok]
      at passed
    rcases passed with ⟨_, _, _, _, _, _, _, _, _, up, _⟩
    rw [show (engine.observe now).shuttingDown = engine.shuttingDown from
      congrArg Authority.shuttingDown authority] at up
    exact Bool.eq_false_iff.mpr up
  have lawful := run.lawful running
  have positive :
      0 < plannedRate focus.session.request contract envelope :=
    plannedRate_pos
      (validatePolicy_positive lawful.policy
        (List.mem_of_find?_eq_some classed)).1
      (validateContract_positive (lawful.contracts _ _ agreed)).1
  have known :
      focus.engine.contracts.lookup focus.session.request.workload =
        some contract := by
    rw [held.engine, engine.observe_contracts]
    exact agreed
  have class_ :
      findEnvelope focus.engine.policy focus.session.envelope.isolation =
        some envelope := by
    rw [held.engine, show (engine.observe now).policy = engine.policy from
      congrArg Authority.policy authority]
    exact classed
  have route :
      findPathClass focus.engine.topology
          (focus.session.envelope.pathClass.getD ⟨0⟩) = some path := by
    rw [held.engine, show (engine.observe now).topology = engine.topology from
      congrArg Authority.topology authority]
    exact routed
  have answer :
      (engine.revalidateSession now id fence).1 =
        (focus.revalidate now).1 := by
    unfold Engine.revalidateSession Engine.guarded
    dsimp only
    rw [passed]
  rw [answer, ← held.engine]
  unfold Focus.revalidate
  dsimp only
  rw [known]
  dsimp only
  rw [class_, route]
  dsimp only
  rw [Engine.planRate_of_supported supported positive]
  split
  · rename_i planned failed
    split at failed
    · cases failed
    · rename_i crowded
      cases failed
      refine iff_of_false ?_ crowded
      rintro ⟨decision, made, admitted⟩
      cases made
      cases admitted
  · rename_i planned accepted
    split at accepted
    · rename_i fits
      cases accepted
      refine iff_of_true ?_ fits
      rw [findPathClass_id route] at fits
      exact Focus.readmit_admits fits contract now
    · cases accepted

end

/-- The sample deployment with a path of another capacity. -/
def routedConfig (capacityBps : UInt64) : EngineConfig :=
  { Sample.config with
    topology :=
      { Sample.topology with
        pathClasses := [{ id := ⟨1⟩, capacityBps := capacityBps }] } }

/-- A session that holds its reservation through a change of policy. -/
def recalledScript : List (Nanos × Command) :=
  [(1, .submitSession (Sample.request 2 [2]) (Sample.fence 1)),
    (2, .applyPolicy (Sample.policy 2))]

def recalledEngine (capacityBps : UInt64) : Engine :=
  ((Engine.construct (routedConfig capacityBps) 0).executeAll
    recalledScript).2

theorem recalledEngine_run (capacityBps : UInt64) :
    ∃ history,
      EngineRun (routedConfig capacityBps) 0 history
        (recalledEngine capacityBps) :=
  ⟨_, Engine.executeAll_run _ recalledScript⟩

/-- The class of the session under the new policy. -/
def recalledEnvelope : IsolationEnvelopeConfig :=
  { isolation := .trainingBulk, ceilingBps := 1000000000 }

/-- A wide path has room for the old rate and the new one. -/
theorem revalidation_admits_on_wide_path :
    ∃ decision,
      ((recalledEngine 10000000000).revalidateSession 3 ⟨Sample.drawn 0⟩
          (Sample.fence 2)).1 = .ok decision ∧
        decision.kind = .admitted := by
  have evaluated :
      (((recalledEngine 10000000000).observe 3).revalidationTarget
          ⟨Sample.drawn 0⟩ (Sample.fence 2)).toOption.any (fun focus =>
        (recalledEngine 10000000000).contracts.lookup
            focus.session.request.workload = some Sample.contract ∧
          findEnvelope (recalledEngine 10000000000).policy
              focus.session.envelope.isolation = some recalledEnvelope ∧
          findPathClass (recalledEngine 10000000000).topology
              (focus.session.envelope.pathClass.getD ⟨0⟩) =
            some { id := ⟨1⟩, capacityBps := 10000000000 } ∧
          RateSupported focus.session.request Sample.contract
            recalledEnvelope ∧
          (((recalledEngine 10000000000).observe 3).shaper.reservedPathRate
              ⟨1⟩).toNat +
            (plannedRate focus.session.request Sample.contract
              recalledEnvelope).toNat ≤
            (10000000000 : UInt64).toNat) = true := by
    decide +kernel
  obtain ⟨history, run⟩ := recalledEngine_run 10000000000
  obtain ⟨focus, passed, terms⟩ := ok_of_any evaluated
  rw [decide_eq_true_eq] at terms
  obtain ⟨agreed, classed, routed, supported, fits⟩ := terms
  exact (revalidation_admits_iff run passed agreed classed routed
    supported).mpr fits

/-- On a path with room for one and a half times the rate, the only session is
put off for what it has reserved itself. -/
theorem own_reservation_defers_revalidation :
    (∃ history,
      EngineRun (routedConfig 1500000000) 0 history
        (recalledEngine 1500000000)) ∧
      (recalledEngine 1500000000).sessions.keys = [⟨Sample.drawn 0⟩] ∧
      ((recalledEngine 1500000000).sessions.lookup ⟨Sample.drawn 0⟩).map
          (fun session => (session.state,
            plannedRate session.request Sample.contract recalledEnvelope)) =
        some (.revalidationRequired, 1000000000) ∧
      ((recalledEngine 1500000000).revalidateSession 3 ⟨Sample.drawn 0⟩
          (Sample.fence 2)).1.toOption.map
          (fun decision => (decision.kind, decision.reason)) =
        some (.deferred, .pathCapacityUnavailable) :=
  ⟨recalledEngine_run 1500000000, by decide +kernel⟩

end TrafficFabric
