import TrafficFabric.Domain

/-!
# Fencing

`src/fence.cpp`.  A fence is accepted only when every generation in it is
exactly the current one.
-/

namespace TrafficFabric

open Foundation

/-- The authority the coordinator currently acts under. -/
structure FenceContext where
  epoch : CoordinatorEpoch
  policyGeneration : PolicyGeneration
  topologyGeneration : TopologyGeneration
  contractGeneration : WorkloadContractGeneration := ⟨0⟩
deriving DecidableEq

/-- The classification of a refused fence. -/
structure FenceRefusal where
  status : Status
  reason : ReasonCode
deriving DecidableEq

def fenceRefusal
    (code : ErrorCode) (reason : ReasonCode) (detail : String) :
    FenceRefusal :=
  ⟨.error code detail, reason⟩

/-- `validate_fence`, keeping the reason next to the status. -/
def validateFence (fence : CommandFence) (current : FenceContext) :
    Except FenceRefusal Unit := do
  refuseWhen (fence.epoch.incarnation ≠ current.epoch.incarnation)
    (fenceRefusal .foreignEpoch .authorityStale
      "command epoch names a coordinator incarnation that is not current")
  refuseWhen (fence.epoch.term < current.epoch.term)
    (fenceRefusal .staleEpoch .authorityStale
      "command epoch term is older than the current term")
  refuseWhen (current.epoch.term < fence.epoch.term)
    (fenceRefusal .foreignEpoch .authorityStale
      "command epoch term was never issued by this coordinator")
  refuseWhen (fence.policyGeneration < current.policyGeneration)
    (fenceRefusal .stalePolicyGeneration .policyGenerationStale
      "command policy generation is older than the active policy")
  refuseWhen (current.policyGeneration < fence.policyGeneration)
    (fenceRefusal .notAuthorized .policyGenerationStale
      "command policy generation is not a policy this coordinator issued")
  refuseWhen (fence.topologyGeneration < current.topologyGeneration)
    (fenceRefusal .staleTopologyGeneration .topologyGenerationStale
      "command topology generation is older than the active topology")
  refuseWhen (current.topologyGeneration < fence.topologyGeneration)
    (fenceRefusal .notAuthorized .topologyGenerationStale
      "command topology generation is not a topology this coordinator issued")
  refuseWhen (fence.contractGeneration < current.contractGeneration)
    (fenceRefusal .staleContractGeneration .contractGenerationStale
      "command workload-contract generation is older than the active contract")
  refuseWhen (current.contractGeneration < fence.contractGeneration)
    (fenceRefusal .notAuthorized .contractGenerationStale
      "command workload-contract generation is not a contract this coordinator issued")

end TrafficFabric
