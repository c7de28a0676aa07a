import TrafficFabric.Engine.Refusals
import TrafficFabric.Engine.Replay
import TrafficFabric.Foundation.Checksums

/-!
# Requests told apart by their fingerprints

`fingerprint_request` mixes the fields of a request into one word.  A step of
the mixing can be undone, in the state as in the word mixed in, so a change of
one field survives all later steps and a remembered command is not taken for
its changed copy.
-/

namespace TrafficFabric

open Foundation

/-! ## Mixing -/

/-- The inverse of the multiplier of `mix64`. -/
def mixInverse : UInt64 := 0xCE965057AFF6957B

theorem mix64_mul_inverse (hash value : UInt64) :
    mix64 hash value * mixInverse = hash ^^^ value := by
  unfold mix64
  rw [UInt64.mul_assoc, show (0x100000001B3 : UInt64) * mixInverse = 1 from
    by decide, UInt64.mul_one]

theorem mix64_eq_iff {left right first second : UInt64} :
    mix64 left first = mix64 right second ↔
      left ^^^ first = right ^^^ second := by
  constructor
  · intro same
    rw [← mix64_mul_inverse, ← mix64_mul_inverse, same]
  · intro same
    unfold mix64
    rw [same]

@[simp]
theorem mix64_left_inj {left right value : UInt64} :
    mix64 left value = mix64 right value ↔ left = right := by
  rw [mix64_eq_iff, UInt64.xor_left_inj]

@[simp]
theorem mix64_right_inj {hash first second : UInt64} :
    mix64 hash first = mix64 hash second ↔ first = second := by
  rw [mix64_eq_iff, UInt64.xor_right_inj]

theorem mix64_reversible : Reversible mix64 where
  register _ _ _ := mix64_left_inj.mp
  letter _ _ _ := mix64_right_inj.mp

/-- The words mixed in later do not bring two states together. -/
@[simp]
theorem foldl_mix64_inj (words : List UInt64) {left right : UInt64} :
    words.foldl mix64 left = words.foldl mix64 right ↔ left = right :=
  (mix64_reversible.foldl_injective words).eq_iff

/-! ## Scalar fields -/

theorem isolationRank_toUInt64_inj {left right : IsolationClass}
    (same :
      (isolationRank left).toUInt64 = (isolationRank right).toUInt64) :
    left = right := by
  cases left <;> cases right <;> first | rfl | cases same

theorem DestinationClass.code_toUInt64_inj {left right : DestinationClass}
    (same : left.code.toUInt64 = right.code.toUInt64) : left = right := by
  cases left <;> cases right <;> first | rfl | cases same

/-- One scalar field of a request is changed, and nothing else. -/
inductive ScalarChange (request : SessionRequest) : SessionRequest → Prop
  | checkpointGeneration (value : CheckpointGeneration)
      (differs : value ≠ request.checkpointGeneration) :
      ScalarChange request { request with checkpointGeneration := value }
  | contractGeneration (value : WorkloadContractGeneration)
      (differs : value ≠ request.contractGeneration) :
      ScalarChange request { request with contractGeneration := value }
  | policyGeneration (value : PolicyGeneration)
      (differs : value ≠ request.policyGeneration) :
      ScalarChange request { request with policyGeneration := value }
  | topologyGeneration (value : TopologyGeneration)
      (differs : value ≠ request.topologyGeneration) :
      ScalarChange request { request with topologyGeneration := value }
  | requestedIsolation (value : IsolationClass)
      (differs : value ≠ request.requestedIsolation) :
      ScalarChange request { request with requestedIsolation := value }
  | destination (value : DestinationClass)
      (differs : value ≠ request.destination) :
      ScalarChange request { request with destination := value }
  | requestedRateBps (value : UInt64)
      (differs : value ≠ request.requestedRateBps) :
      ScalarChange request { request with requestedRateBps := value }
  | deadlineHorizonNs (value : Nanos)
      (differs : value ≠ request.deadlineHorizonNs) :
      ScalarChange request { request with deadlineHorizonNs := value }

namespace ScalarChange

variable {request changed : SessionRequest}

theorem command (change : ScalarChange request changed) :
    changed.command = request.command := by
  cases change <;> rfl

/-- A changed request has another fingerprint. -/
theorem fingerprint (change : ScalarChange request changed) :
    fingerprintRequest changed ≠ fingerprintRequest request := by
  intro same
  simp only [fingerprintRequest, List.foldl_append, List.foldl_cons,
    List.foldl_nil] at same
  cases change with
  | checkpointGeneration _ differs =>
      simp only [mix64_left_inj, foldl_mix64_inj, mix64_right_inj] at same
      exact differs (congrArg Generation.mk same)
  | contractGeneration _ differs =>
      simp only [mix64_left_inj, mix64_right_inj] at same
      exact differs (congrArg Generation.mk same)
  | policyGeneration _ differs =>
      simp only [mix64_left_inj, mix64_right_inj] at same
      exact differs (congrArg Generation.mk same)
  | topologyGeneration _ differs =>
      simp only [mix64_left_inj, mix64_right_inj] at same
      exact differs (congrArg Generation.mk same)
  | requestedIsolation _ differs =>
      simp only [mix64_left_inj, mix64_right_inj] at same
      exact differs (isolationRank_toUInt64_inj same)
  | destination _ differs =>
      simp only [mix64_left_inj, mix64_right_inj] at same
      exact differs (DestinationClass.code_toUInt64_inj same)
  | requestedRateBps _ differs =>
      simp only [mix64_left_inj, mix64_right_inj] at same
      exact differs same
  | deadlineHorizonNs _ differs =>
      simp only [mix64_left_inj, mix64_right_inj] at same
      exact differs (congrArg Int64.ofUInt64 same)

end ScalarChange

/-! ## Reuse of a command -/

namespace Engine

variable {engine : Engine} {request : SessionRequest} {fence : CommandFence}

/-- The checks of `submit_session` before it looks the command up: the fence
against the fabric, then the generations of the request against the fence. -/
def submissionAgrees
    (engine : Engine) (request : SessionRequest) (fence : CommandFence) :
    Result Unit := do
  engine.checkFenceStatus fence
  refuseWhen (request.policyGeneration ≠ fence.policyGeneration)
    (.error .stalePolicyGeneration
      "request policy generation contradicts the command fence")
  refuseWhen (request.topologyGeneration ≠ fence.topologyGeneration)
    (.error .staleTopologyGeneration
      "request topology generation contradicts the command fence")
  refuseWhen (request.contractGeneration ≠ fence.contractGeneration)
    (.error .staleContractGeneration
      "request contract generation contradicts the command fence")

theorem submissionAgrees_ok_iff :
    engine.submissionAgrees request fence = .ok () ↔
      engine.FencesSubmission request fence := by
  simp only [submissionAgrees, bind_eq_ok, refuseWhen_eq_ok, ne_eq, not_not]
  constructor
  · rintro ⟨_, current, _, policy, _, topology, contract⟩
    exact ⟨current, policy, topology, contract⟩
  · rintro ⟨current, policy, topology, contract⟩
    exact ⟨(), current, (), policy, (), topology, contract⟩

/-- The first of the checks that fails answers for the submission. -/
theorem submissionFenced_of_disagrees {status : Status}
    (failed : engine.submissionAgrees request fence = .error status) :
    engine.submissionFenced request fence = .error (.refused status) := by
  simp only [submissionAgrees, bind_eq_error, refuseWhen_eq_error,
    refuseWhen_eq_ok] at failed
  simp only [submissionFenced, bind_eq_error, refuseWhen_eq_error,
    refuseWhen_eq_ok]
  rcases failed with stale | ⟨_, current, ⟨policy, same⟩ |
    ⟨_, policy, ⟨topology, same⟩ | ⟨_, topology, contract, same⟩⟩⟩
  · exact .inl (congrArg refusing stale)
  · exact .inr ⟨(), congrArg refusing current, .inl ⟨policy, same ▸ rfl⟩⟩
  · exact .inr ⟨(), congrArg refusing current, .inr ⟨(), policy,
      .inl ⟨topology, same ▸ rfl⟩⟩⟩
  · exact .inr ⟨(), congrArg refusing current, .inr ⟨(), policy,
      .inr ⟨(), topology, .inl ⟨contract, same ▸ rfl⟩⟩⟩⟩

/-- The checks read nothing that the enforcement of deadlines writes. -/
theorem submissionAgrees_observe (now : Nanos) :
    (engine.observe now).submissionAgrees request fence =
      engine.submissionAgrees request fence := by
  unfold submissionAgrees
  rw [checkFenceStatus_of_authority (engine.observe_authority now)]

theorem submitSession_of_disagrees {status : Status}
    (failed : engine.submissionAgrees request fence = .error status)
    (now : Nanos) :
    engine.submitSession now request fence =
      (.error status, engine.observe now) := by
  have fenced := submissionFenced_of_disagrees
    ((submissionAgrees_observe now).trans failed)
  unfold submitSession
  dsimp only
  rw [admissionPlan_of_fenced fenced]
  rfl

end Engine

/-- Under the command of a remembered request, a copy with one changed scalar
is refused: as a replay when it agrees with the fence and the fence with the
fabric, and with the first disagreement otherwise. -/
theorem changed_request_is_refused
    (engine : Engine) (now : Nanos) {request changed : SessionRequest}
    (change : ScalarChange request changed) (fence : CommandFence)
    {record : CommandRecord}
    (remembered : engine.commandIndex.lookup request.command = some record)
    (recorded : record.fingerprint = fingerprintRequest request) :
    fingerprintRequest changed ≠ fingerprintRequest request ∧
      ∃ status,
        engine.submitSession now changed fence =
            (.error status, engine.observe now) ∧
          (engine.submissionAgrees changed fence = .ok () →
            status.code = .replayDetected) ∧
          ∀ failed,
            engine.submissionAgrees changed fence = .error failed →
              status = failed := by
  have differs := change.fingerprint
  rw [← change.command] at remembered
  have apart : record.fingerprint ≠ fingerprintRequest changed := by
    rw [recorded]
    exact differs.symm
  refine ⟨differs, ?_⟩
  cases agrees : engine.submissionAgrees changed fence with
  | ok _ =>
      have fenced := Engine.submissionAgrees_ok_iff.mp agrees
      rw [fenced.submitSession remembered now, if_neg apart]
      exact ⟨_, rfl, fun _ => rfl, nofun⟩
  | error failed =>
      exact ⟨failed, Engine.submitSession_of_disagrees agrees now, nofun,
        fun _ same => Except.error.inj same⟩

/-- A copy of a remembered request with another rate agrees with its fence. -/
theorem decidedSubmission_remembered :
    decidedSubmission.2.submissionAgrees
          { Sample.request 2 [2] with requestedRateBps := 7 }
          (Sample.fence 1) = .ok () ∧
      ∃ record,
        decidedSubmission.2.commandIndex.lookup
            (Sample.request 2 [2]).command = some record ∧
          record.fingerprint = fingerprintRequest (Sample.request 2 [2]) := by
  have evaluated :
      decidedSubmission.2.submissionAgrees
            { Sample.request 2 [2] with requestedRateBps := 7 }
            (Sample.fence 1) = .ok () ∧
        (decidedSubmission.2.commandIndex.lookup
            (Sample.request 2 [2]).command).map CommandRecord.fingerprint =
          some (fingerprintRequest (Sample.request 2 [2])) := by
    decide +kernel
  exact ⟨evaluated.1, Option.map_eq_some_iff.mp evaluated.2⟩

/-- Its copy with another rate is a replay. -/
theorem changed_request_is_refused_for_rate :
    ∃ status,
      decidedSubmission.2.submitSession 2
            { Sample.request 2 [2] with requestedRateBps := 7 }
            (Sample.fence 1) =
          (.error status, decidedSubmission.2.observe 2) ∧
        status.code = .replayDetected := by
  obtain ⟨agrees, record, remembered, recorded⟩ :=
    decidedSubmission_remembered
  obtain ⟨_, status, refused, replayed, _⟩ :=
    changed_request_is_refused decidedSubmission.2 2
      (.requestedRateBps 7 (by decide)) (Sample.fence 1) remembered recorded
  exact ⟨status, refused, replayed agrees⟩

/-- A copy with another policy generation is refused, but as stale: its fence
is compared with it before the fingerprints are. -/
theorem changed_policy_generation_is_stale :
    ScalarChange (Sample.request 2 [2])
        { Sample.request 2 [2] with policyGeneration := ⟨2⟩ } ∧
      (decidedSubmission.2.commandIndex.lookup
          (Sample.request 2 [2]).command).map CommandRecord.fingerprint =
        some (fingerprintRequest (Sample.request 2 [2])) ∧
      (decidedSubmission.2.execute 2
          (.submitSession
            { Sample.request 2 [2] with policyGeneration := ⟨2⟩ }
            (Sample.fence 1))).1.refusal.map Status.code =
        some .stalePolicyGeneration := by
  refine ⟨.policyGeneration ⟨2⟩ (by decide), ?_⟩
  decide +kernel

end TrafficFabric
