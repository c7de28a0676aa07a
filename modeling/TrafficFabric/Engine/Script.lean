import Mathlib.Algebra.Ring.Nat
import Mathlib.Data.UInt
import TrafficFabric.Engine.Execution

/-!
# Scripts

A script is a list of commands with their clock readings.  Executing one is a
run, so that scripts can exhibit what an engine does.  `Sample` is a small
deployment to run them on: one workload, one path class, four isolation
classes.
-/

namespace TrafficFabric

open Foundation

/-- Executing a script is a run. -/
theorem Engine.executeAll_run
    (engine : Engine) (calls : List (Nanos × Command)) :
    Run Step engine (engine.executeAll calls).1
      (engine.executeAll calls).2 := by
  induction calls generalizing engine with
  | nil =>
      exact .start
  | cons first _ hypothesis =>
      rcases first with ⟨now, command⟩
      exact (Run.single (.call engine now command)).append (hypothesis _)

theorem Engine.clockReadings_executeAll
    (engine : Engine) (calls : List (Nanos × Command)) :
    clockReadings (engine.executeAll calls).1 =
      calls.map (fun call => call.1) := by
  induction calls generalizing engine with
  | nil =>
      rfl
  | cons first _ hypothesis =>
      rcases first with ⟨now, command⟩
      simp only [Engine.executeAll, clockReadings, List.filterMap_cons,
        List.map_cons]
      exact congrArg _ (hypothesis _)

/-- A script and one more call run under a monotone clock when their
readings never go back. -/
theorem Engine.executeAll_monotone
    {boot now : Nanos} {calls : List (Nanos × Command)}
    (ordered :
      (boot :: (calls.map (fun call => call.1) ++ [now])).Pairwise (· ≤ ·))
    (engine : Engine) (command : Command) (response : Response) :
    MonotoneClock boot
      ((engine.executeAll calls).1 ++ [.call now command response]) := by
  have readings :
      clockReadings
          ((engine.executeAll calls).1 ++ [.call now command response]) =
        calls.map (fun call => call.1) ++ [now] := by
    rw [clockReadings, List.filterMap_append]
    exact congrArg (fun early => early ++ [now])
      (Engine.clockReadings_executeAll engine calls)
  unfold MonotoneClock
  rw [readings]
  exact ordered

namespace Sample

/-- An identity that differs from the others in its last byte. -/
def uuid (tag : UInt8) : Uuid128 where
  bytes := List.replicate 15 0 ++ [tag]
  size := by simp

def policy (generation : UInt64) : PolicySnapshot where
  generation := ⟨generation⟩
  envelopes :=
    [{ isolation := .trainingCritical, ceilingBps := 1000000000 },
      { isolation := .servingLatency, ceilingBps := 1000000000 },
      { isolation := .trainingBulk, ceilingBps := 1000000000 },
      { isolation := .bestEffort, ceilingBps := 1000000000 }]

def topology : TopologySnapshot where
  generation := ⟨1⟩
  pathClasses := [{ id := ⟨1⟩, capacityBps := 10000000000 }]

def contract : WorkloadContract where
  workload := ⟨uuid 1⟩
  generation := ⟨1⟩
  ceilingBps := 1000000000

def config : EngineConfig where
  policy := policy 1
  topology := topology
  contracts := [contract]
  epoch := ⟨⟨1⟩, ⟨1⟩⟩

/-- A manifest with shards of the given sizes. -/
def manifest (checkpoint : UInt8) (sizes : List UInt64) :
    CheckpointManifest :=
  let undigested : CheckpointManifest :=
    { checkpoint := ⟨uuid checkpoint⟩
      generation := ⟨1⟩
      workload := ⟨uuid 1⟩
      contractGeneration := ⟨1⟩
      totalBytes := sizes.sum
      shards := sizes.zipIdx.map (fun entry =>
        { index := ⟨entry.2.toUInt32⟩, declaredBytes := entry.1 }) }
  { undigested with manifestDigest := computeManifestDigest undigested }

/-- A fence under a policy generation, current in the other dimensions. -/
def fence (policyGeneration : UInt64) : CommandFence where
  epoch := ⟨⟨1⟩, ⟨1⟩⟩
  policyGeneration := ⟨policyGeneration⟩
  topologyGeneration := ⟨1⟩
  contractGeneration := ⟨1⟩

/-- A request for a checkpoint with shards of the given sizes. -/
def request (checkpoint : UInt8) (sizes : List UInt64) :
    SessionRequest where
  command := ⟨uuid checkpoint⟩
  workload := ⟨uuid 1⟩
  contractGeneration := ⟨1⟩
  policyGeneration := ⟨1⟩
  topologyGeneration := ⟨1⟩
  checkpoint := ⟨uuid checkpoint⟩
  checkpointGeneration := ⟨1⟩
  manifest := manifest checkpoint sizes

/-- The identities that the factory of the deployment yields, in order. -/
def drawn (index : Nat) : Uuid128 :=
  IdFactory.identity config.identitySeed index

/-- An acknowledged arrival for the first session. -/
def arrival
    (attempt : Nat) (sequence : UInt64) (shard : UInt32) (bytes : UInt64) :
    TransferEvidence where
  session := ⟨drawn 0⟩
  attempt := ⟨drawn attempt⟩
  sequence := ⟨sequence⟩
  shard := ⟨shard⟩
  arrivedBytes := bytes
  sinkAcknowledged := true

/-- A verdict of the destination for the first session. -/
def verdict
    (attempt : Nat) (sequence : UInt64) (shard : UInt32) (bytes : UInt64)
    (outcome : VerificationOutcome) : VerificationEvidence where
  session := ⟨drawn 0⟩
  attempt := ⟨drawn attempt⟩
  sequence := ⟨sequence⟩
  shard := ⟨shard⟩
  verifiedBytes := bytes
  outcome := outcome

/-- A session with one shard of two bytes. -/
def admittedScript : List (Nanos × Command) :=
  [(1, .submitSession (request 2 [2]) (fence 1))]

/-- The deployment once that session is admitted. -/
def admittedEngine : Engine :=
  ((Engine.construct config 0).executeAll admittedScript).2

end Sample

end TrafficFabric
