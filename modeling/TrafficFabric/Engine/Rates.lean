import TrafficFabric.Engine.Guards

/-!
# What a planned rate respects

Admission and revalidation both plan a rate before they issue an envelope.
The plan fits the ceilings of the class and the contract and what is still
unreserved on the path.
-/

namespace TrafficFabric

open Foundation

variable {path : PathClass} {engine : Engine} {request : SessionRequest}
  {now : Nanos}

theorem findPathClass_id
    {topology : TopologySnapshot} {id : PathClassId}
    (found : findPathClass topology id = some path) :
    path.id = id := by
  simpa using List.find?_some found

/-- What a planned rate respects. -/
structure Engine.RatePlanned
    (engine : Engine) (contract : WorkloadContract)
    (envelope : IsolationEnvelopeConfig) (path : PathClass)
    (rateBps : UInt64) : Prop where
  positive : 0 < rateBps
  withinClass : rateBps ≤ envelope.ceilingBps
  withinContract : rateBps ≤ contract.ceilingBps
  fits :
    (engine.shaper.reservedPathRate path.id).toNat + rateBps.toNat ≤
      path.capacityBps.toNat

/-- The headroom of a path is what is not reserved. -/
theorem headroom_fits
    {reserved capacity rate : UInt64} (positive : 0 < rate)
    (room :
      ¬ (if reserved < capacity then capacity - reserved else 0) < rate) :
    reserved.toNat + rate.toNat ≤ capacity.toNat := by
  rw [UInt64.not_lt] at room
  split at room
  · rename_i below
    have bounded := UInt64.le_iff_toNat_le.mp room
    rw [UInt64.toNat_sub_of_le _ _ (UInt64.le_of_lt below)] at bounded
    have less := UInt64.lt_iff_toNat_lt.mp below
    omega
  · have zero := UInt64.le_iff_toNat_le.mp room
    have some_ := UInt64.lt_iff_toNat_lt.mp positive
    exact absurd (lt_of_lt_of_le some_ zero) (lt_irrefl _)

theorem Engine.planRate_ok
    {contract : WorkloadContract} {envelope : IsolationEnvelopeConfig}
    {rateBps : UInt64}
    (planned :
      engine.planRate request contract envelope path now = .ok rateBps) :
    engine.RatePlanned contract envelope path rateBps := by
  simp only [Engine.planRate, bind_eq_ok, refuseWhen_eq_ok] at planned
  rcases planned with ⟨_, _, _, _, _, _, _, room, _, some_, same⟩
  cases same
  have positive := UInt64.pos_iff_ne_zero.mpr some_
  refine ⟨positive, ?_, ?_, headroom_fits positive room⟩
  · exact UInt64.le_trans Std.min_le_right Std.min_le_left
  · exact UInt64.le_trans Std.min_le_right Std.min_le_right

/-- What the admission checks establish about the envelope to be issued. -/
structure Engine.Issuable
    (engine : Engine) (request : SessionRequest) (plan : AdmissionPlan) :
    Prop where
  isolation : plan.isolation = chooseIsolation request plan.contract
  contract : engine.contracts.lookup request.workload = some plan.contract
  routed :
    defaultPathClassFor engine.topology request.destination = some plan.path
  sized : request.manifest.totalBytes ≤ engine.policy.maxSessionBytes
  running : engine.shuttingDown = false
  rated :
    ∃ envelope path,
      findEnvelope engine.policy plan.isolation = some envelope ∧
        findPathClass engine.topology plan.path = some path ∧
        engine.RatePlanned plan.contract envelope path plan.rateBps

theorem Engine.admissionPlan_issuable
    {fence : CommandFence} {plan : AdmissionPlan}
    (passed : engine.admissionPlan now request fence = .ok plan) :
    engine.Issuable request plan := by
  simp only [Engine.admissionPlan, bind_eq_ok, requireSome_eq_ok,
    refuseWhen_eq_ok, UInt64.not_lt] at passed
  rcases passed with
    ⟨_, _, _, running, contract, known, _, _, _, _, envelope, configured,
      _, routed, _, _, path, found, _, _, _, _, _, _, _, sized, _, _,
      planned⟩
  split at planned
  · cases planned
  · rename_i rate rated
    cases planned
    exact ⟨rfl, known, routed, sized, by simpa using running, envelope, path,
      configured, found, Engine.planRate_ok rated⟩

/-! ## Revalidation -/

/-- What is established about a session before it is admitted again. -/
structure Focus.Renewable
    (focus : Focus) (contract : WorkloadContract) (pathId : PathClassId)
    (rateBps : UInt64) : Prop where
  contracted :
    focus.engine.contracts.lookup focus.session.request.workload =
      some contract
  routed : focus.session.envelope.pathClass.getD ⟨0⟩ = pathId
  rated :
    ∃ envelope path,
      findEnvelope focus.engine.policy focus.session.envelope.isolation =
          some envelope ∧
        findPathClass focus.engine.topology pathId = some path ∧
        focus.engine.RatePlanned contract envelope path rateBps

/-- A revalidation admits the session again under a planned rate, or answers
with another decision. -/
theorem Focus.revalidate_cases (focus : Focus) (now : Nanos) :
    (∃ contract pathId rateBps,
      focus.Renewable contract pathId rateBps ∧
        focus.revalidate now = focus.readmit contract pathId rateBps now) ∨
      ∃ decision,
        (focus.revalidate now).1 = .ok decision ∧
          decision.kind ≠ .admitted := by
  unfold Focus.revalidate
  dsimp only
  split
  · exact .inr ⟨_, rfl, nofun⟩
  · rename_i contract known
    split
    · rename_i envelope path configured found
      split
      · split
        · exact .inr ⟨_, rfl, nofun⟩
        · exact .inr ⟨_, rfl, nofun⟩
      · rename_i rate planned
        refine .inl ⟨contract,
          focus.session.envelope.pathClass.getD ⟨0⟩, rate, ?_, rfl⟩
        exact ⟨known, rfl, envelope, path, configured, found,
          Engine.planRate_ok planned⟩
    · exact .inr ⟨_, rfl, nofun⟩

end TrafficFabric
