import TrafficFabric.Engine.Planning

/-!
# Admission and revalidation

`submit_session` and `revalidate_session`.
-/

namespace TrafficFabric

open Foundation

/-! ## Submission -/

/-- The record of a declared shard; path class 0 means the default path. -/
def admittedShard
    (path : PathClassId) (shard : ShardDescriptor) : ShardRecord where
  index := shard.index
  declaredBytes := shard.declaredBytes
  declaredDigest := shard.declaredDigest
  pathClass := if shard.pathClass.value = 0 then path else shard.pathClass

/-- The record of a new session, before its first timeline line. -/
def admittedSession
    (engine : Engine) (now : Nanos) (request : SessionRequest)
    (plan : AdmissionPlan) (id : SessionId) : SessionRecord where
  id := id
  request := request
  state := .admitted
  envelopeSequence := 1
  envelope := buildEnvelope request id plan.isolation plan.path plan.rateBps
    (chooseBurst plan.rateBps)
    (chooseWaveWidth plan.contract engine.policy
      request.manifest.shards.length)
    now (now + chooseHorizon request plan.contract) 1
  reservedPath := some plan.path
  reservedRateBps := plan.rateBps
  admittedBytes := request.manifest.totalBytes
  outstandingBytes := request.manifest.totalBytes
  createdAt := now
  updatedAt := now
  lastReason := .admitted
  lastDetail := ascii "admitted"
  shards := request.manifest.shards.map (admittedShard plan.path)

/-- The first timeline line of a session. -/
def admissionLine (session : SessionRecord) : Text :=
  ascii "admitted class=" ++ ascii session.envelope.isolation.name ++
    ascii " rate=" ++ decimal session.envelope.rateBps.toNat ++
    ascii "B/s waves=" ++ decimal session.envelope.waves.length

/-- `apply_supersession`. -/
def Focus.supersede (focus : Focus) (successor : SessionId) (now : Nanos) :
    Engine :=
  let unproven := focus.markUnproven focus.session.outstandingBytes
  let settled := unproven.settleTerminal .superseded
    .supersededByNewerGeneration
    (ascii "superseded by checkpoint generation of session " ++
      successor.toText) now
  (((settled.revise (fun session =>
      { session with supersededBy := some successor })).book
    (fun accounting => { accounting with
      sessionsSuperseded := accounting.sessionsSuperseded + 1 })).appendTimeline
    now (ascii "superseded by=" ++ successor.toText)).commit

namespace Engine

/-- The `deny` continuation of `submit_session`. -/
def denySubmission
    (engine : Engine) (now : Nanos) (request : SessionRequest)
    (reason : ReasonCode) (detail : Text) :
    Result AdmissionDecision × Engine :=
  let counted := engine.book (fun accounting => { accounting with
    sessionsDenied := accounting.sessionsDenied + 1 })
  (.ok (engine.makeDecision .denied reason detail StrongId.nil now),
    counted.rememberCommand request.command
      { session := StrongId.nil, kind := .denied, reason := reason
        fingerprint := fingerprintRequest request })

/-- The `defer` continuation of `submit_session`. -/
def deferSubmission
    (engine : Engine) (now : Nanos) (request : SessionRequest)
    (reason : ReasonCode) (detail : Text) (retryAfter : Nanos) :
    Result AdmissionDecision × Engine :=
  let counted := engine.book (fun accounting => { accounting with
    sessionsDeferred := accounting.sessionsDeferred + 1
    bytesDeferred :=
      accounting.bytesDeferred + request.manifest.totalBytes })
  (.ok { engine.makeDecision .deferred reason detail StrongId.nil now with
      retryAfter := some retryAfter },
    counted.rememberCommand request.command
      { session := StrongId.nil, kind := .deferred, reason := reason
        fingerprint := fingerprintRequest request })

/-- The answer to a submission that creates no session. -/
def reject
    (engine : Engine) (now : Nanos) (request : SessionRequest) :
    Rejection → Result AdmissionDecision × Engine
  | .refused status => (.error status, engine)
  | .replayed record =>
      (.ok { engine.makeDecision record.kind .duplicateCommand
          (ascii "idempotent replay of a decided command")
          record.session now with
        envelope :=
          if record.hasSession then
            (engine.sessions.lookup record.session).map
              (fun session => session.envelope)
          else none }, engine)
  | .denied reason detail =>
      engine.denySubmission now request reason detail
  | .deferred reason detail retryAfter =>
      engine.deferSubmission now request reason detail retryAfter
  | .duplicate existing =>
      (.ok { engine.makeDecision .admitted .duplicateCommand
          (ascii
            "identical checkpoint generation already has an active session")
          existing.id now with
        envelope := some existing.envelope },
        engine.rememberCommand request.command
          { session := existing.id, kind := .admitted, reason := .admitted
            fingerprint := fingerprintRequest request, hasSession := true })

/-- Enter a new session into the ledger, the indexes and the table. -/
def enroll (engine : Engine) (session : SessionRecord) : Engine :=
  let booked := engine.book (fun accounting => { accounting with
    bytesAdmitted :=
      accounting.bytesAdmitted + session.request.manifest.totalBytes
    grantedOutstandingBytes :=
      accounting.grantedOutstandingBytes +
        session.request.manifest.totalBytes
    sessionsAdmitted := accounting.sessionsAdmitted + 1 })
  let active := booked.activate session
  let indexed := { active with
    byWorkload :=
      pushIndex active.byWorkload session.request.workload session.id
    byCheckpoint :=
      pushIndex active.byCheckpoint session.request.checkpoint session.id }
  let scheduled := indexed.indexDeadline session
  { scheduled with
    sessions := scheduled.sessions.emplace session.id session }

theorem enroll_sessions (engine : Engine) (session : SessionRecord) :
    (engine.enroll session).sessions =
      engine.sessions.emplace session.id session := by
  unfold enroll indexDeadline
  dsimp only
  split <;> rfl

/-- The drawn identity and the record built for it. -/
def newSession
    (engine : Engine) (now : Nanos) (request : SessionRequest)
    (plan : AdmissionPlan) : SessionRecord :=
  let session := admittedSession engine now request plan
    ⟨engine.idFactory.next.1⟩
  session.appendTimeline engine.timelineBound now (admissionLine session)

/-- The engine once the identity is drawn. -/
def drawn (engine : Engine) : Engine :=
  { engine with idFactory := engine.idFactory.next.2 }

/-- The engine after the reservation and the supersessions that precede the
enrolment of a new session. -/
def makeRoom
    (engine : Engine) (shaper : RateShaper) (now : Nanos)
    (successor : SessionId) (targets : List SessionId) : Engine :=
  { engine with shaper := shaper }.visit targets
    (fun focus => focus.supersede successor now)

/-- The committing half of `submit_session`. -/
def commitAdmission
    (engine : Engine) (now : Nanos) (request : SessionRequest)
    (plan : AdmissionPlan) : Result AdmissionDecision × Engine :=
  let session := engine.newSession now request plan
  let drawn := engine.drawn
  match drawn.shaper.reservePathRate plan.path plan.rateBps with
  | none =>
      drawn.denySubmission now request .resourceLimit
        (ascii "path class reservation overflow")
  | some shaper =>
      let cleared := drawn.makeRoom shaper now session.id plan.targets
      let enrolled := cleared.enroll session
      (.ok { enrolled.makeDecision .admitted .admitted
          (ascii (if plan.targets = [] then "admitted"
            else "admitted; superseded an older checkpoint generation"))
          session.id now with
        envelope := (enrolled.sessions.lookup session.id).map
          (fun stored => stored.envelope)
        superseded := plan.targets },
        enrolled.rememberCommand request.command
          { session := session.id, kind := .admitted, reason := .admitted
            fingerprint := fingerprintRequest request, hasSession := true })

/-- `submit_session`. -/
def submitSession
    (engine : Engine) (now : Nanos) (request : SessionRequest)
    (fence : CommandFence) : Result AdmissionDecision × Engine :=
  let observed := engine.observe now
  match observed.admissionPlan now request fence with
  | .error rejection => observed.reject now request rejection
  | .ok plan => observed.commitAdmission now request plan

end Engine

/-! ## Revalidation -/

namespace Focus

/-- The failure branches of `revalidate_session` begin by setting the state,
before `settle_terminal` runs. -/
def abandon (focus : Focus) : Focus :=
  focus.revise (fun session =>
    { session with state := .failed, staleReason := [] })

/-- The common end of the failure branches of `revalidate_session`. -/
def failRevalidation
    (focus : Focus) (reason : ReasonCode) (detail : Text) (now : Nanos) :
    Engine :=
  ((focus.settleTerminal .failed reason detail now).book
    (fun accounting => { accounting with
      sessionsFailed := accounting.sessionsFailed + 1 })).commit

/-- Revalidation is put off. -/
def postpone (focus : Focus) (reason : Text) : Focus :=
  focus.revise (fun session => { session with
    state := .deferred
    staleReason := reason })

/-- The deferral branch of `revalidate_session`. -/
def deferRevalidation
    (focus : Focus) (detail : Text) (now : Nanos) : Engine :=
  ((focus.postpone (ascii "revalidation deferred: " ++ detail)).touch
    now).commit

/-- The session with an envelope issued under current authority. -/
def renew
    (focus : Focus) (contract : WorkloadContract) (path : PathClassId)
    (rateBps : UInt64) (now : Nanos) : Focus :=
  focus.revise (fun session => { session with
    reservedPath := some path
    reservedRateBps := rateBps
    envelopeSequence := session.envelopeSequence + 1
    envelope := buildEnvelope session.request session.id
      session.envelope.isolation path rateBps (chooseBurst rateBps)
      (chooseWaveWidth contract focus.engine.policy session.shards.length)
      now (now + chooseHorizon session.request contract)
      (session.envelopeSequence + 1)
    state := .admitted
    paused := false
    staleReason := [] })

/-- The renewed session is scheduled and the renewal recorded. -/
def renewEnvelope
    (focus : Focus) (contract : WorkloadContract) (path : PathClassId)
    (rateBps : UInt64) (now : Nanos) : Focus :=
  let renewed := ((focus.renew contract path rateBps now).touch
    now).settleReason .admitted (ascii "revalidated")
  let scheduled := { renewed with
    engine := renewed.engine.indexDeadline renewed.session }
  scheduled.appendTimeline now
    (ascii "revalidated envelope_sequence=" ++
      decimal renewed.session.envelopeSequence.toNat)

/-- The committing half of `revalidate_session` once a rate is planned. -/
def readmit
    (focus : Focus) (contract : WorkloadContract) (path : PathClassId)
    (rateBps : UInt64) (now : Nanos) :
    Result AdmissionDecision × Engine :=
  let released := focus.releasePathReservation
  match released.engine.shaper.reservePathRate path rateBps with
  | none =>
      (.error (.error .resourceExhausted "path class reservation overflow"),
        released.commit)
  | some shaper =>
      let reserved : Focus :=
        { released with engine := { released.engine with shaper := shaper } }
      let renewed := reserved.renewEnvelope contract path rateBps now
      (.ok { focus.engine.makeDecision .admitted .admitted
          (ascii "revalidated under current authority") focus.key now with
        envelope := some renewed.session.envelope },
        renewed.commit)

/-- `revalidate_session` after its guards. -/
def revalidate (focus : Focus) (now : Nanos) :
    Result AdmissionDecision × Engine :=
  let engine := focus.engine
  match engine.contracts.lookup focus.session.request.workload with
  | none =>
      let detail := ascii "workload contract is no longer configured"
      (.ok (engine.makeDecision .denied .unknownWorkload detail focus.key now),
        focus.abandon.failRevalidation .unknownWorkload detail now)
  | some contract =>
      let pathId := focus.session.envelope.pathClass.getD ⟨0⟩
      match findEnvelope engine.policy focus.session.envelope.isolation,
          findPathClass engine.topology pathId with
      | some envelope, some path =>
          match engine.planRate focus.session.request contract envelope path
              now with
          | .error refusal =>
              if refusal.permanent then
                (.ok (engine.makeDecision .denied refusal.reason refusal.detail
                    focus.key now),
                  (focus.abandon.markUnproven
                    focus.session.outstandingBytes).failRevalidation
                    refusal.reason refusal.detail now)
              else
                (.ok { engine.makeDecision .deferred refusal.reason
                    refusal.detail focus.key now with
                  retryAfter := some (refusal.retryAfter.getD
                    (now + engine.policy.deferHorizonNs)) },
                  focus.deferRevalidation refusal.detail now)
          | .ok rate => focus.readmit contract pathId rate now
      | _, _ =>
          (.ok (engine.makeDecision .deferred .destinationNotPermitted
            (ascii "current topology no longer serves this session's path")
            focus.key now), engine)

end Focus

namespace Engine

/-- The guards of `revalidate_session`. -/
def revalidationTarget
    (engine : Engine) (id : SessionId) (fence : CommandFence) :
    Result Focus := do
  let focus ← requireSome
    (.error .notFound "session is not known to this incarnation")
    (engine.hold id)
  fenceStatus (validateFence fence
    { epoch := engine.epoch
      policyGeneration := engine.policy.generation
      topologyGeneration := engine.topology.generation
      contractGeneration :=
        ((engine.contracts.lookup focus.session.request.workload).map
          (fun contract => contract.generation)).getD ⟨0⟩ })
  validateCheckpointGeneration focus.session fence
  refuseWhen
    (focus.session.state ≠ .revalidationRequired ∧
      focus.session.state ≠ .deferred)
    (.error .invalidStateTransition "session does not require revalidation")
  refuseWhen (engine.shuttingDown)
    (.error .shuttingDown "fabric is shutting down")
  return focus

/-- `revalidate_session`. -/
def revalidateSession
    (engine : Engine) (now : Nanos) (id : SessionId)
    (fence : CommandFence) : Result AdmissionDecision × Engine :=
  let observed := engine.observe now
  observed.guarded (observed.revalidationTarget id fence)
    (fun focus => focus.revalidate now)

end Engine

end TrafficFabric
