import TrafficFabric.Engine.Admission
import TrafficFabric.Engine.Evidence
import TrafficFabric.Engine.Snapshot
import TrafficFabric.Foundation.Transition

/-!
# Commands and runs of the engine

Every operation that can change the engine is a `Command`; `execute` runs one
at a clock reading.  The operations that only inspect the engine are not
commands.

A run interleaves commands with `rehash`, by which the hash tables may change
their iteration order at any moment.
-/

namespace TrafficFabric

open Foundation

/-- The operations of `FabricEngine` that may change its state. -/
inductive Command where
  | applyPolicy (policy : PolicySnapshot)
  | applyTopology (topology : TopologySnapshot)
  | upsertContract (contract : WorkloadContract)
  | advanceEpoch (epoch : CoordinatorEpoch)
  | restore (snapshot : EngineSnapshot)
  | submitSession (request : SessionRequest) (fence : CommandFence)
  | revalidateSession (session : SessionId) (fence : CommandFence)
  | pauseSession (session : SessionId) (fence : CommandFence) (reason : Text)
  | resumeSession (session : SessionId) (fence : CommandFence)
  | cancelSession (session : SessionId) (fence : CommandFence)
      (reason : ReasonCode) (detail : Text)
  | requestWave (session : SessionId) (shard : ShardIndex)
      (fence : CommandFence)
  | reportSourceComplete (evidence : SourceCompleteEvidence)
      (fence : CommandFence)
  | reportTransfer (evidence : TransferEvidence) (fence : CommandFence)
  | reportVerification (evidence : VerificationEvidence)
      (fence : CommandFence)
  | reportAmbiguous (session : SessionId) (attempt : TransferAttemptId)
      (sequence : AttemptSequence) (cause : Text) (fence : CommandFence)
  | recordDurabilityAssertion (session : SessionId)
      (assertion : DurabilityAssertion) (fence : CommandFence)
  | pollDeadlines
  | beginShutdown

/-- What an operation returns. -/
inductive Response where
  | status (result : Result Unit)
  | decision (result : Result AdmissionDecision)
  | wave (result : Result WaveOutcome)

namespace Engine

/-- `begin_shutdown`. -/
def beginShutdown (engine : Engine) : Result Unit × Engine :=
  engine.guarded
    (refuseWhen (engine.shuttingDown)
      (.error .shuttingDown "fabric is already shutting down"))
    (fun _ => (.ok (), { engine with shuttingDown := true }))

/-- Run one command at a clock reading. -/
def execute (engine : Engine) (now : Nanos) : Command → Response × Engine
  | .applyPolicy policy =>
      (engine.applyPolicy now policy).map .status id
  | .applyTopology topology =>
      (engine.applyTopology now topology).map .status id
  | .upsertContract contract =>
      (engine.upsertContract now contract).map .status id
  | .advanceEpoch epoch =>
      (engine.advanceEpoch now epoch).map .status id
  | .restore snapshot =>
      (engine.restore now snapshot).map .status id
  | .submitSession request fence =>
      (engine.submitSession now request fence).map .decision id
  | .revalidateSession session fence =>
      (engine.revalidateSession now session fence).map .decision id
  | .pauseSession session fence reason =>
      (engine.pauseSession now session fence reason).map .status id
  | .resumeSession session fence =>
      (engine.resumeSession now session fence).map .status id
  | .cancelSession session fence reason detail =>
      (engine.cancelSession now session fence reason detail).map .status id
  | .requestWave session shard fence =>
      (engine.requestWave now session shard fence).map .wave id
  | .reportSourceComplete evidence fence =>
      (engine.reportSourceComplete now evidence fence).map .status id
  | .reportTransfer evidence fence =>
      (engine.reportTransfer now evidence fence).map .status id
  | .reportVerification evidence fence =>
      (engine.reportVerification now evidence fence).map .status id
  | .reportAmbiguous session attempt sequence cause fence =>
      (engine.reportAmbiguous now session attempt sequence cause fence).map
        .status id
  | .recordDurabilityAssertion session assertion fence =>
      (engine.recordDurabilityAssertion now session assertion fence).map
        .status id
  | .pollDeadlines => (.status (.ok ()), engine.enforceDeadlines now)
  | .beginShutdown => engine.beginShutdown.map .status id

end Engine

/-! ## Runs -/

/-- What happens in a run: a command and its response, or a rehash. -/
inductive Event where
  | call (now : Nanos) (command : Command) (response : Response)
  | rehash

/-- One step of an engine. -/
inductive Step : Engine → Event → Engine → Prop
  | call (engine : Engine) (now : Nanos) (command : Command) :
      Step engine (.call now command (engine.execute now command).1)
        (engine.execute now command).2
  | rehash (engine : Engine)
      (sessions : Table SessionId SessionRecord)
      (contracts : Table WorkloadId WorkloadContract)
      (sameSessions : sessions.entries.Perm engine.sessions.entries)
      (sameContracts : contracts.entries.Perm engine.contracts.entries) :
      Step engine .rehash
        { engine with sessions := sessions, contracts := contracts }

/-- A run of an engine from its construction. -/
abbrev EngineRun (config : EngineConfig) (boot : Nanos) :
    List Event → Engine → Prop :=
  Run Step (Engine.construct config boot)

/-- The clock readings of a history. -/
def clockReadings (history : List Event) : List Nanos :=
  history.filterMap fun event =>
    match event with
    | .call now _ _ => some now
    | .rehash => none

/-- The clock never goes back. -/
def MonotoneClock (boot : Nanos) (history : List Event) : Prop :=
  (boot :: clockReadings history).Pairwise (· ≤ ·)

/-- A sequence of calls run from an engine: its events and the final state. -/
def Engine.executeAll :
    Engine → List (Nanos × Command) → List Event × Engine
  | engine, [] => ([], engine)
  | engine, (now, command) :: calls =>
      let result := engine.execute now command
      let later := result.2.executeAll calls
      (.call now command result.1 :: later.1, later.2)

end TrafficFabric
