import TrafficFabric.Engine.Lineage

/-!
# What a restart compares

A restored snapshot carries the generations under which it was taken.  The
generations of the policy and of the topology are compared with those of the
configuration; the generations of the contracts are carried along and never
looked at.
-/

namespace TrafficFabric

open Foundation

/-! ## The configured contracts -/

/-- The contract that a configuration gives a workload: of several, the
first. -/
def EngineConfig.contractFor
    (config : EngineConfig) (workload : WorkloadId) :
    Option WorkloadContract :=
  config.contracts.find? (fun contract => contract.workload = workload)

theorem lookup_foldl_emplace
    {contracts : List WorkloadContract}
    {table : Table WorkloadId WorkloadContract} (workload : WorkloadId) :
    (contracts.foldl
      (fun table contract => table.emplace contract.workload contract)
      table).lookup workload =
      (table.lookup workload).or
        (contracts.find? (fun contract => contract.workload = workload)) := by
  induction contracts generalizing table with
  | nil =>
      simp
  | cons contract _ hypothesis =>
      rw [List.foldl_cons, hypothesis, List.find?_cons]
      by_cases own : contract.workload = workload
      · subst own
        rw [Table.lookup_emplace_self]
        cases table.lookup contract.workload <;> simp
      · rw [Table.lookup_emplace_ne (Ne.symm own)]
        simp [own]

theorem Engine.construct_contracts
    (config : EngineConfig) (boot : Nanos) (workload : WorkloadId) :
    (Engine.construct config boot).contracts.lookup workload =
      config.contractFor workload := by
  have table :
      (Engine.construct config boot).contracts =
        config.contracts.foldl
          (fun table contract => table.emplace contract.workload contract)
          ∅ := by
    unfold Engine.construct
    dsimp only
    split <;> rfl
  rw [table, lookup_foldl_emplace]
  rfl

theorem Engine.restart_settings
    (engine : Engine) (config : EngineConfig) (boot now : Nanos) :
    (engine.restart config boot now).2.settings =
      (Engine.construct config boot).settings :=
  Engine.restore_settings _ now engine.exportSnapshot

/-! ## Generations -/

/-- The authority of a successor is not older than that of the engine whose
snapshot it restored. -/
structure Engine.Upholds (engine successor : Engine) : Prop where
  policy : ¬ successor.policy.generation < engine.policy.generation
  topology : ¬ successor.topology.generation < engine.topology.generation
  contracts :
    ∀ workload active configured,
      engine.contracts.lookup workload = some active →
      successor.contracts.lookup workload = some configured →
      ¬ configured.generation < active.generation

/-- An accepted snapshot is not newer than the configuration. -/
theorem Engine.restart_accepted
    {engine : Engine} {config : EngineConfig} {boot now : Nanos}
    (accepted : (engine.restart config boot now).1 = .ok ()) :
    ¬ (Engine.construct config boot).policy.generation <
        engine.policy.generation ∧
      ¬ (Engine.construct config boot).topology.generation <
        engine.topology.generation := by
  unfold Engine.restart at accepted
  cases guard :
      (Engine.construct config boot).restorable engine.exportSnapshot with
  | error status =>
      rw [Engine.restore_refused guard] at accepted
      cases accepted
  | ok restored =>
      simp only [Engine.restorable, bind_eq_ok, refuseWhen_eq_ok] at guard
      rcases guard with ⟨_, _, _, policy, _, topology, _⟩
      exact ⟨policy, topology⟩

/-- An accepted restart never goes back behind the policy and the topology;
it goes back behind no contract exactly when the configuration names no older
one. -/
theorem restart_upholds_iff
    {engine : Engine} {config : EngineConfig} {boot now : Nanos}
    (accepted : (engine.restart config boot now).1 = .ok ()) :
    engine.Upholds (engine.restart config boot now).2 ↔
      ∀ workload active configured,
        engine.contracts.lookup workload = some active →
        config.contractFor workload = some configured →
        ¬ configured.generation < active.generation := by
  have settings := engine.restart_settings config boot now
  have policy := congrArg Engine.Settings.policy settings
  have topology := congrArg Engine.Settings.topology settings
  have contracts := congrArg Engine.Settings.contracts settings
  rcases Engine.restart_accepted accepted with ⟨policyKept, topologyKept⟩
  have looked (workload : WorkloadId) :
      (engine.restart config boot now).2.contracts.lookup workload =
        config.contractFor workload :=
    (congrArg (AList.lookup workload) contracts).trans
      (Engine.construct_contracts config boot workload)
  constructor
  · intro upholds workload active configured known named
    exact upholds.contracts workload active configured known
      ((looked workload).trans named)
  · intro kept
    refine ⟨?_, ?_, ?_⟩
    · exact Eq.subst (motive := fun policy : PolicySnapshot =>
        ¬ policy.generation < engine.policy.generation) policy.symm policyKept
    · exact Eq.subst (motive := fun topology : TopologySnapshot =>
        ¬ topology.generation < engine.topology.generation) topology.symm
        topologyKept
    · intro workload active configured known named
      exact kept workload active configured known
        ((looked workload).symm.trans named)

/-- The contract of the deployment at a later generation. -/
def Sample.renewedContract : WorkloadContract :=
  { Sample.contract with generation := ⟨2⟩ }

/-- A coordinator that restarts with the contract that was in force upholds
it. -/
theorem restart_upholds_iff_with_contract_in_force :
    let engine :=
      ((Engine.construct Sample.config 0).executeAll
        [(1, .upsertContract Sample.renewedContract)]).2
    let config := { Sample.config with contracts := [Sample.renewedContract] }
    (engine.restart config 0 2).1 = .ok () ∧
      engine.Upholds (engine.restart config 0 2).2 :=
  have evaluated :
      (((Engine.construct Sample.config 0).executeAll
          [(1, .upsertContract Sample.renewedContract)]).2.restart
        { Sample.config with contracts := [Sample.renewedContract] }
          0 2).1 = .ok () ∧
      ((Engine.construct Sample.config 0).executeAll
        [(1, .upsertContract Sample.renewedContract)]).2.contracts.entries.all
          (fun entry => entry.2.generation = ⟨2⟩) = true := by
    decide +kernel
  ⟨evaluated.1, (restart_upholds_iff evaluated.1).mpr (by
    intro workload active configured known named older
    have second : active.generation = ⟨2⟩ := by
      have entry := List.all_eq_true.mp evaluated.2 _
        (AList.mem_lookup_iff.mp known)
      simpa using entry
    have named_ : configured ∈ [Sample.renewedContract] :=
      List.mem_of_find?_eq_some named
    rw [List.mem_singleton.mp named_, second] at older
    revert older
    decide)⟩

/-- A snapshot taken under the second generation of a contract is accepted by
a coordinator configured with the first. -/
theorem restart_forgets_contract_generation :
    ∃ history engine,
      EngineRun Sample.config 0 history engine ∧
        (engine.restart Sample.config 0 2).1 = .ok () ∧
        ((engine.restart Sample.config 0 2).2.contracts.lookup
            ⟨Sample.uuid 1⟩).map (fun contract => contract.generation) =
          some ⟨1⟩ ∧
        (engine.contracts.lookup ⟨Sample.uuid 1⟩).map
            (fun contract => contract.generation) = some ⟨2⟩ := by
  refine ⟨_, _, Engine.executeAll_run _
    [(1, .upsertContract Sample.renewedContract)], ?_⟩
  decide +kernel

end TrafficFabric
