import TrafficFabric.Engine.Issuance

/-!
# The terms in force

The constructor and the authority changes validate what they install, so an
engine that is not shutting down works under a valid policy and valid
contracts.  Rates, windows and horizons are positive there.
-/

namespace TrafficFabric

open Foundation

variable {envelope : IsolationEnvelopeConfig} {policy : PolicySnapshot}
  {config : EngineConfig} {boot : Nanos} {history : List Event}
  {engine : Engine}

/-! ## What validation demands -/

/-- A valid envelope has a ceiling and a window. -/
theorem validateEnvelopes_positive
    {envelopes : List IsolationEnvelopeConfig}
    {seen result : List IsolationClass}
    (accepted : validateEnvelopes seen envelopes = .ok result)
    (member : envelope ∈ envelopes) :
    envelope.ceilingBps ≠ 0 ∧ envelope.burstWindowNs ≠ 0 := by
  induction envelopes generalizing seen with
  | nil =>
      cases member
  | cons _ _ hypothesis =>
      simp only [validateEnvelopes, bind_eq_ok, refuseWhen_eq_ok] at accepted
      rcases accepted with ⟨_, _, _, rate, _, window, _, _, _, _, later⟩
      rcases List.mem_cons.mp member with rfl | member
      · refine ⟨rate, ?_⟩
        rintro closed
        rw [closed] at window
        exact window (UInt64.le_refl _)
      · exact hypothesis later member

theorem validatePolicy_positive
    (valid : validatePolicy policy = .ok ())
    (member : envelope ∈ policy.envelopes) :
    envelope.ceilingBps ≠ 0 ∧ envelope.burstWindowNs ≠ 0 := by
  simp only [validatePolicy, bind_eq_ok] at valid
  rcases valid with ⟨_, _, _, _, seen, collected, _⟩
  exact validateEnvelopes_positive collected member

theorem validatePolicy_deferHorizon
    (valid : validatePolicy policy = .ok ()) :
    0 < policy.deferHorizonNs := by
  simp only [validatePolicy, bind_eq_ok, refuseWhen_eq_ok] at valid
  rcases valid with
    ⟨_, _, _, _, _, _, _, _, _, _, _, _, _, _, _, _, _, horizon, _⟩
  exact Int64.not_le.mp horizon

theorem validateContract_positive
    {contract : WorkloadContract} {limits : Limits}
    (valid : validateContract contract limits = .ok ()) :
    contract.ceilingBps ≠ 0 ∧ 0 < contract.deadlineBudgetNs := by
  simp only [validateContract, bind_eq_ok, refuseWhen_eq_ok] at valid
  rcases valid with
    ⟨_, _, _, _, _, rate, _, _, _, _, _, _, _, _, _, _, budget⟩
  exact ⟨rate, Int64.not_le.mp budget⟩

theorem forM_eq_ok
    {Item : Type} {check : Item → Result Unit} {items : List Item}
    (passed : items.forM check = .ok ()) :
    ∀ item ∈ items, check item = .ok () := by
  induction items with
  | nil =>
      intro item member
      cases member
  | cons _ _ hypothesis =>
      simp only [List.forM, bind_eq_ok] at passed
      rcases passed with ⟨_, own, later⟩
      intro item member
      rcases List.mem_cons.mp member with rfl | member
      · exact own
      · exact hypothesis later item member

/-! ## Reachable engines -/

/-- The policy and the contracts of an engine pass their validation. -/
structure Engine.Lawful (engine : Engine) : Prop where
  policy : validatePolicy engine.policy = .ok ()
  contracts :
    ∀ workload contract, engine.contracts.lookup workload = some contract →
      validateContract contract engine.limits = .ok ()

/-- An engine that is not shutting down is lawful. -/
def Engine.Governed (engine : Engine) : Prop :=
  engine.shuttingDown = true ∨ engine.Lawful

namespace Engine.Governed

variable {before after : Engine}

theorem of_same
    (governed : before.Governed)
    (shutdown : before.shuttingDown = true → after.shuttingDown = true)
    (limits : after.limits = before.limits)
    (policy : after.policy = before.policy)
    (contracts :
      ∀ workload, after.contracts.lookup workload =
        before.contracts.lookup workload) : after.Governed := by
  rcases governed with down | lawful
  · exact .inl (shutdown down)
  · refine .inr ⟨?_, ?_⟩
    · rw [policy]
      exact lawful.policy
    · intro workload contract known
      rw [limits]
      exact lawful.contracts workload contract
        ((contracts workload).symm.trans known)

theorem frame (governed : before.Governed) (same : Frame before after) :
    after.Governed :=
  governed.of_same same.shutdown same.limits same.policy
    (fun _ => by rw [same.contracts])

theorem authority
    (governed : before.Governed)
    (same : after.authority = before.authority) : after.Governed :=
  governed.of_same
    (fun down => (congrArg Authority.shuttingDown same).trans down)
    (congrArg Authority.limits same) (congrArg Authority.policy same)
    (fun workload => congrArg (fun view : Authority =>
      view.contracts.lookup workload) same)

end Engine.Governed

theorem Edit.governed
    {permits : Permits} {before after : Engine}
    (edit : Edit permits before after) (governed : before.Governed) :
    after.Governed := by
  cases edit with
  | housekeeping _ _ same =>
      exact governed.frame same.toFrame
  | adoptPolicy _ _ accepted =>
      exact governed.imp_right (fun lawful => ⟨accepted, lawful.contracts⟩)
  | adoptContract _ contract accepted =>
      refine governed.imp_right (fun lawful => ⟨lawful.policy, ?_⟩)
      intro workload other known
      simp only [Engine.contractAccepted, bind_eq_ok] at accepted
      rcases accepted with ⟨_, _, _, valid, _⟩
      by_cases own : workload = contract.workload
      · subst own
        rw [AList.lookup_insert] at known
        cases known
        exact valid
      · rw [AList.lookup_insert_ne own] at known
        exact lawful.contracts workload other known
  | prune =>
      exact governed.authority (Engine.pruneHistory_authority before)
  | enroll =>
      refine governed.authority ?_
      unfold Engine.enroll Engine.indexDeadline
      dsimp only
      split <;> rfl
  | change _ performed =>
      have framed := performed.framed.engine
      exact governed.of_same framed.shutdown framed.limits framed.policy
        (fun _ => congrArg (AList.lookup _) framed.contracts)
  | _ =>
      exact governed.of_same (fun down => down) rfl rfl (fun _ => rfl)

theorem Engine.Governed.initial (config : EngineConfig) (boot : Nanos) :
    (Engine.construct config boot).Governed := by
  unfold Engine.construct
  dsimp only
  split
  · exact .inl rfl
  · rename_i valid
    simp only [Engine.validateConfig, bind_eq_ok] at valid
    rcases valid with ⟨_, policy, _, _, _, _, _, contracts, _⟩
    refine .inr ⟨policy, ?_⟩
    intro workload contract known
    exact forM_eq_ok contracts contract
      (List.mem_map_of_mem (AList.mem_lookup_iff.mp known))

/-- Every reachable engine. -/
theorem EngineRun.governed
    (run : EngineRun config boot history engine) :
    engine.Governed := by
  refine EngineRun.invariant (.initial config boot) ?_ ?_ ?_ run
  · intro before after edit governed
    exact edit.governed governed
  · intro engine now snapshot governed
    have same := engine.restore_settings now snapshot
    exact governed.of_same
      (fun down => (congrArg Engine.Settings.shuttingDown same).trans down)
      (congrArg Engine.Settings.limits same)
      (congrArg Engine.Settings.policy same)
      (fun workload => congrArg (fun view : Engine.Settings =>
        view.contracts.lookup workload) same)
  · intro engine sessions contracts _ same governed
    exact governed.of_same (fun down => down) rfl rfl
      (fun workload => @AList.perm_lookup _ _ _ workload _ _ same)

/-- The terms of a running engine. -/
theorem EngineRun.lawful
    (run : EngineRun config boot history engine)
    (running : engine.shuttingDown = false) : engine.Lawful := by
  rcases run.governed with down | lawful
  · rw [running] at down
    cases down
  · exact lawful

/-- Whatever commands an engine is given, restores included, its terms are
valid unless it is shutting down. -/
theorem terms_in_force_are_valid
    (config : EngineConfig) (boot : Nanos) (calls : List (Nanos × Command)) :
    let engine := ((Engine.construct config boot).executeAll calls).2
    engine.Governed ∧ engine.Routed := by
  have run := (Engine.construct config boot).executeAll_run calls
  exact ⟨EngineRun.governed run, EngineRun.routed run⟩

end TrafficFabric
