import TrafficFabric.Engine.Identities
import TrafficFabric.Engine.Reservations
import TrafficFabric.Engine.Supersession

/-!
# What an issued envelope respects

A submission checks the class, the destination and the size of a checkpoint
against the authority in force.  Revalidation, which runs exactly when that
authority has changed, plans the rate anew but keeps the class and the path
of the old envelope as they are.
-/

namespace TrafficFabric

open Foundation

variable {request : SessionRequest} {envelope : TrafficEnvelope}
  {limits : Limits} {topology : TopologySnapshot}
  {destination : DestinationClass} {id pathId : PathClassId}
  {before after engine : Engine} {now : Nanos} {fence : CommandFence}
  {plan : AdmissionPlan} {focus : Focus} {contract : WorkloadContract}
  {rateBps : UInt64} {shaper : RateShaper} {made : AdmissionDecision}

/-- The envelope respects the contract, policy and topology of the engine. -/
def Engine.Respects
    (engine : Engine) (request : SessionRequest)
    (envelope : TrafficEnvelope) : Prop :=
  (∃ contract ∈ engine.contracts.lookup request.workload,
    isolationRank envelope.isolation ≤ isolationRank contract.isolation ∧
      envelope.rateBps ≤ contract.ceilingBps) ∧
  (∃ config ∈ findEnvelope engine.policy envelope.isolation,
    0 < envelope.rateBps ∧ envelope.rateBps ≤ config.ceilingBps) ∧
  (∃ path ∈ envelope.pathClass.bind (findPathClass engine.topology),
    path.destination = request.destination) ∧
  request.manifest.totalBytes ≤ engine.policy.maxSessionBytes

/-- Class, path and size of a session under the authority in force. -/
def Engine.StillFits (engine : Engine) (session : SessionRecord) : Prop :=
  (∃ contract ∈ engine.contracts.lookup session.request.workload,
    isolationRank session.envelope.isolation ≤
      isolationRank contract.isolation) ∧
  (∃ path ∈ findPathClass engine.topology
      (session.envelope.pathClass.getD ⟨0⟩),
    path.destination = session.request.destination) ∧
  session.request.manifest.totalBytes ≤ engine.policy.maxSessionBytes

section

variable {left right : Engine} (same : left.authority = right.authority)

include same

theorem Engine.respects_congr :
    left.Respects request envelope ↔ right.Respects request envelope := by
  have contracts : left.contracts = right.contracts :=
    congrArg Authority.contracts same
  have policy : left.policy = right.policy :=
    congrArg Authority.policy same
  have topology : left.topology = right.topology :=
    congrArg Authority.topology same
  unfold Engine.Respects
  rw [contracts, policy, topology]

theorem Engine.stillFits_congr {session : SessionRecord} :
    left.StillFits session ↔ right.StillFits session := by
  have contracts : left.contracts = right.contracts :=
    congrArg Authority.contracts same
  have policy : left.policy = right.policy :=
    congrArg Authority.policy same
  have topology : left.topology = right.topology :=
    congrArg Authority.topology same
  unfold Engine.StillFits
  rw [contracts, policy, topology]

end

/-! ## Path classes -/

/-- Every path class in front of a valid rest has an identity of its own. -/
theorem validatePaths_distinct
    {seen : List PathClassId} {paths : List PathClass}
    (valid : validatePaths limits seen paths = .ok ()) :
    (paths.map PathClass.id).Nodup ∧
      ∀ path ∈ paths, path.id ∉ seen := by
  induction paths generalizing seen with
  | nil =>
      exact ⟨List.nodup_nil, nofun⟩
  | cons _ _ hypothesis =>
      simp only [validatePaths, bind_eq_ok, refuseWhen_eq_ok] at valid
      rcases valid with ⟨_, _, _, unseen, _, _, _, _, later⟩
      rcases hypothesis later with ⟨distinct, fresh⟩
      constructor
      · rw [List.map_cons, List.nodup_cons]
        refine ⟨?_, distinct⟩
        intro member
        rcases List.mem_map.mp member with ⟨other, inRest, same⟩
        exact fresh other inRest (same ▸ List.mem_cons_self)
      · intro path member
        rcases List.mem_cons.mp member with rfl | inRest
        · exact unseen
        · exact fun known =>
            fresh path inRest (List.mem_cons_of_mem _ known)

theorem validateTopology_distinct
    (valid : validateTopology topology limits = .ok ()) :
    (topology.pathClasses.map PathClass.id).Nodup := by
  simp only [validateTopology, bind_eq_ok, refuseWhen_eq_ok] at valid
  rcases valid with ⟨_, _, _, _, _, _, paths⟩
  exact (validatePaths_distinct paths).1

/-- The default path class serves the destination. -/
theorem defaultPathClassFor_serves
    (chosen : defaultPathClassFor topology destination = some id) :
    ∃ path ∈ topology.pathClasses,
      path.id = id ∧ path.destination = destination := by
  -- the invariant of the loop is on the best path class so far
  refine List.foldlRecOn
    (motive := fun best => ∀ id, best = some id →
      ∃ path ∈ topology.pathClasses,
        path.id = id ∧ path.destination = destination)
    topology.pathClasses _ ?_ ?_ id chosen
  · intro id absent
    cases absent
  · intro best served first own id kept
    split at kept
    · exact served id kept
    · rename_i serves
      rw [not_not] at serves
      split at kept
      · cases kept
        exact ⟨first, own, rfl, serves⟩
      · split at kept
        · cases kept
          exact ⟨first, own, rfl, serves⟩
        · exact served id kept

theorem findPathClass_of_default
    {path : PathClass}
    (distinct : (topology.pathClasses.map PathClass.id).Nodup)
    (chosen : defaultPathClassFor topology destination = some id)
    (found : findPathClass topology id = some path) :
    path.destination = destination := by
  rcases defaultPathClassFor_serves chosen with
    ⟨server, listed, same, serves⟩
  have equal : path = server :=
    List.inj_on_of_nodup_map distinct (List.mem_of_find?_eq_some found)
      listed ((findPathClass_id found).trans same.symm)
  rw [equal]
  exact serves

/-! ## The topology in force -/

/-- An engine that is not shutting down has a valid topology. -/
def Engine.Routed (engine : Engine) : Prop :=
  engine.shuttingDown = true ∨
    validateTopology engine.topology engine.limits = .ok ()

theorem Engine.Routed.of_same
    (routed : before.Routed)
    (shutdown : before.shuttingDown = true → after.shuttingDown = true)
    (topology : after.topology = before.topology)
    (limits : after.limits = before.limits) : after.Routed := by
  rcases routed with down | valid
  · exact .inl (shutdown down)
  · right
    rw [topology, limits]
    exact valid

theorem Engine.Routed.frame
    (routed : before.Routed)
    (same : Frame before after) : after.Routed :=
  routed.of_same same.shutdown same.topology same.limits

theorem Engine.Routed.authority
    (routed : before.Routed)
    (same : after.authority = before.authority) : after.Routed :=
  routed.of_same
    (fun down => (congrArg Authority.shuttingDown same).trans down)
    (congrArg Authority.topology same) (congrArg Authority.limits same)

theorem Edit.routed
    {permits : Permits}
    (edit : Edit permits before after) (routed : before.Routed) :
    after.Routed := by
  cases edit with
  | housekeeping _ _ same =>
      exact routed.frame same.toFrame
  | adoptTopology _ _ accepted =>
      exact .inr accepted
  | prune =>
      exact routed.authority (Engine.pruneHistory_authority before)
  | enroll =>
      refine routed.authority ?_
      unfold Engine.enroll Engine.indexDeadline
      dsimp only
      split <;> rfl
  | change _ performed =>
      have framed := performed.framed.engine
      exact routed.of_same framed.shutdown framed.topology framed.limits
  | _ =>
      exact routed

theorem Engine.Routed.initial (config : EngineConfig) (boot : Nanos) :
    (Engine.construct config boot).Routed := by
  unfold Engine.construct
  dsimp only
  split
  · exact .inl rfl
  · rename_i valid
    right
    simp only [Engine.validateConfig, bind_eq_ok] at valid
    rcases valid with ⟨_, _, _, topology, _⟩
    exact topology

/-- Every reachable engine. -/
theorem EngineRun.routed
    {config : EngineConfig} {boot : Nanos} {history : List Event}
    (run : EngineRun config boot history engine) :
    engine.Routed := by
  refine EngineRun.invariant (.initial config boot) ?_ ?_ ?_ run
  · intro before after edit routed
    exact edit.routed routed
  · intro engine now snapshot routed
    have same := engine.restore_settings now snapshot
    exact routed.of_same
      (fun down => (congrArg Engine.Settings.shuttingDown same).trans down)
      (congrArg Engine.Settings.topology same)
      (congrArg Engine.Settings.limits same)
  · intro engine sessions contracts _ _ routed
    exact routed

/-! ## Issued envelopes -/

/-- The session and the envelope that a response issues. -/
def Response.issued : Response → Option (SessionId × TrafficEnvelope)
  | .decision (.ok made) =>
      if made.kind = .admitted ∧ made.reason = .admitted then
        made.envelope.map (fun envelope => (made.session, envelope))
      else none
  | _ => none

/-- Submissions draw new identities, and a revalidated session fits the
authority in force. -/
def IssueCondition (engine : Engine) (now : Nanos) : Command → Prop
  | .submitSession _ _ =>
      ⟨(engine.observe now).idFactory.next.1⟩ ∉ (engine.observe now).sessions
  | .revalidateSession id _ =>
      ∀ session ∈ engine.sessions.lookup id, engine.StillFits session
  | _ => True

theorem chooseIsolation_le
    (request : SessionRequest) (contract : WorkloadContract) :
    isolationRank (chooseIsolation request contract) ≤
      isolationRank contract.isolation := by
  unfold chooseIsolation
  split
  · assumption
  · exact UInt8.le_refl _

/-- An admitted submission issues the envelope of its plan. -/
theorem Engine.submission_respects
    (routed : engine.Routed)
    (planned :
      (engine.observe now).admissionPlan now request fence = .ok plan) :
    engine.Respects request (engine.submitted now request plan).envelope := by
  have issuable := Engine.admissionPlan_issuable planned
  rcases issuable.rated with ⟨config, path, configured, found, rated⟩
  have authority := engine.observe_authority now
  have topology : (engine.observe now).topology = engine.topology :=
    congrArg Authority.topology authority
  have policy : (engine.observe now).policy = engine.policy :=
    congrArg Authority.policy authority
  have valid := (routed.authority authority).resolve_left
    (by rw [issuable.running]; exact Bool.false_ne_true)
  have serves := findPathClass_of_default (validateTopology_distinct valid)
    issuable.routed found
  refine ⟨⟨plan.contract, ?_, ?_, rated.withinContract⟩,
    ⟨config, ?_, rated.positive, rated.withinClass⟩, ⟨path, ?_, serves⟩, ?_⟩
  · rw [← engine.observe_contracts now]
    exact issuable.contract
  · change isolationRank plan.isolation ≤ _
    rw [issuable.isolation]
    exact chooseIsolation_le request plan.contract
  · rw [← policy]
    exact configured
  · rw [← topology]
    exact found
  · rw [← policy]
    exact issuable.sized

/-- A renewed envelope respects the authority exactly when class, path and
size of the session still fit. -/
theorem Focus.Renewable.respects_iff
    (renewable : focus.Renewable contract pathId rateBps)
    (isolation : envelope.isolation = focus.session.envelope.isolation)
    (path : envelope.pathClass = some pathId)
    (rate : envelope.rateBps = rateBps) :
    focus.engine.Respects focus.session.request envelope ↔
      focus.engine.StillFits focus.session := by
  rcases renewable.rated with ⟨config, pathClass, configured, found, rated⟩
  unfold Engine.Respects Engine.StillFits
  rw [isolation, path, rate, renewable.contracted, renewable.routed,
    configured, Option.bind_some, found]
  simp only [Option.mem_def, Option.some.injEq, exists_eq_left']
  constructor
  · rintro ⟨⟨laxer, _⟩, _, serves, sized⟩
    exact ⟨laxer, serves, sized⟩
  · rintro ⟨laxer, serves, sized⟩
    exact ⟨⟨laxer, rated.withinContract⟩,
      ⟨rated.positive, rated.withinClass⟩, serves, sized⟩

/-- An admitted submission answers with the envelope stored for it. -/
theorem Engine.submission_envelope
    (admits : engine.Admits now request fence plan shaper)
    (answered : (engine.submitSession now request fence).1 = .ok made) :
    made.session = (engine.submitted now request plan).id ∧
      made.envelope =
        ((engine.submitSession now request fence).2.sessions.lookup
          made.session).map (fun session => session.envelope) := by
  rw [(Engine.submitSession_of_admits admits).2]
  have kept :
      (engine.observe now).drawn.shaper = (engine.observe now).shaper := rfl
  unfold Engine.submitSession at answered
  dsimp only at answered
  rw [admits.planned] at answered
  unfold Engine.commitAdmission at answered
  dsimp only at answered
  rw [kept, admits.reserved] at answered
  cases answered
  exact ⟨rfl, rfl⟩

/-- The session of an admitted submission is stored as it was built when its
identity is new. -/
theorem Engine.submission_stored
    (admits : engine.Admits now request fence plan shaper)
    (fresh :
      ⟨(engine.observe now).idFactory.next.1⟩ ∉
        (engine.observe now).sessions) :
    (engine.submitSession now request fence).2.sessions.lookup
        (engine.submitted now request plan).id =
      some (engine.submitted now request plan) := by
  rw [(Engine.submitSession_of_admits admits).2]
  change ((engine.cleared now request plan shaper).enroll
    (engine.submitted now request plan)).sessions.lookup _ = _
  have absent :
      (engine.submitted now request plan).id ∉
        (engine.cleared now request plan shaper).sessions :=
    Edits.sessions_of_idle
      (Engine.cleared_idle admits.planned admits.reserved) fresh
  rw [Engine.enroll_sessions, Table.emplace_of_not_mem absent,
    AList.lookup_insert]

/-- What a readmission answers and stores. -/
theorem Focus.readmit_issues
    (held : focus.Held)
    (answered : (focus.readmit contract pathId rateBps now).1 = .ok made) :
    ∃ renewed envelope,
      made.session = focus.key ∧ made.envelope = some envelope ∧
        (focus.readmit contract pathId rateBps now).2.sessions.lookup
            focus.key = some renewed ∧
        renewed.request = focus.session.request ∧
        renewed.envelope = envelope ∧
        envelope.isolation = focus.session.envelope.isolation ∧
        envelope.pathClass = some pathId ∧ envelope.rateBps = rateBps := by
  have released :=
    (Change.unreserve focus : Change anyPermits _ _).live held.live
  unfold Focus.readmit at answered ⊢
  dsimp only at answered ⊢
  split at answered
  · cases answered
  · rename_i shaper reserved
    cases answered
    let renewed : Focus := Focus.renewEnvelope
      { focus.releasePathReservation with
        engine := { focus.releasePathReservation.engine with
          shaper := shaper } } contract pathId rateBps now
    have key : renewed.key = focus.key :=
      (Focus.Framed.releasePathReservation focus).key
    have live : renewed.Live := by
      have table :
          renewed.engine.sessions =
            focus.releasePathReservation.engine.sessions := by
        dsimp only [renewed]
        unfold Focus.renewEnvelope Engine.indexDeadline
        dsimp only
        split <;> rfl
      unfold Focus.Live at released ⊢
      rw [table]
      exact released
    have stored := Focus.lookup_commit_self live
    rw [key] at stored
    have session :
        focus.releasePathReservation.session.request =
            focus.session.request ∧
          focus.releasePathReservation.session.envelope =
            focus.session.envelope := by
      rw [Focus.releasePathReservation_session]
      exact ⟨rfl, rfl⟩
    refine ⟨renewed.session, renewed.session.envelope, rfl, rfl, stored,
      session.1, rfl, ?_, rfl, rfl⟩
    change focus.releasePathReservation.session.envelope.isolation = _
    rw [session.2]

theorem Focus.revalidate_issues
    (answered : (focus.revalidate now).1 = .ok made)
    (admitted : made.kind = .admitted) :
    ∃ contract pathId rateBps,
      focus.Renewable contract pathId rateBps ∧
        focus.revalidate now = focus.readmit contract pathId rateBps now := by
  rcases focus.revalidate_cases now with renewed | ⟨other, same, refused⟩
  · exact renewed
  · rw [answered] at same
    cases same
    exact absurd admitted refused

theorem Response.issued_decision
    {result : Result AdmissionDecision} {id : SessionId}
    (issued : (Response.decision result).issued = some (id, envelope)) :
    ∃ made, result = .ok made ∧ made.kind = .admitted ∧
      made.reason = .admitted ∧ made.session = id ∧
      made.envelope = some envelope := by
  cases result with
  | error =>
      cases issued
  | ok made =>
      dsimp only [Response.issued] at issued
      split at issued
      · rename_i decided
        rcases Option.map_eq_some_iff.mp issued with ⟨held, stored, same⟩
        cases same
        exact ⟨made, rfl, decided.1, decided.2, rfl, stored⟩
      · cases issued

/-- A revalidation that passed its guards works on the session as it was
before time was observed. -/
theorem Engine.Holds.unobserved
    {id : SessionId}
    (owned : (engine.observe now).Holds id focus)
    (stale :
      focus.session.state = .revalidationRequired ∨
        focus.session.state = .deferred) :
    engine.sessions.lookup id = some focus.session := by
  have stored := owned.held
  unfold Focus.Held at stored
  rw [owned.engine, owned.key] at stored
  rcases engine.observe_settles now id _ stored with known | failed
  · exact known
  · rw [failed] at stale
    rcases stale with state | state <;> cases state

/-- In every reachable state an envelope issued under the condition respects
the authority in force; one issued by a revalidation does so only under the
condition. -/
theorem issued_envelope_respects_authority
    {config : EngineConfig} {boot : Nanos} {history : List Event}
    {engine : Engine} (run : EngineRun config boot history engine)
    {now : Nanos} {command : Command} {id : SessionId}
    {envelope : TrafficEnvelope}
    (issued :
      (engine.execute now command).1.issued = some (id, envelope)) :
    ∃ session,
      (engine.execute now command).2.sessions.lookup id = some session ∧
        session.envelope = envelope ∧
        (IssueCondition engine now command →
          engine.Respects session.request envelope) ∧
        ((∃ fence, command = .revalidateSession id fence) →
          engine.Respects session.request envelope →
          IssueCondition engine now command) := by
  cases command with
  | submitSession =>
      rcases Response.issued_decision issued with
        ⟨made, answered, kind, reason, rfl, enveloped⟩
      rcases Engine.admits_of_answer answered kind reason with
        ⟨plan, shaper, admits⟩
      rcases Engine.submission_envelope admits answered with ⟨named, same⟩
      rw [enveloped] at same
      rcases Option.map_eq_some_iff.mp same.symm with
        ⟨session, stored, held⟩
      refine ⟨session, stored, held, ?_, nofun⟩
      intro fresh
      have built := Engine.submission_stored admits fresh
      rw [← named] at built
      cases built.symm.trans stored
      rw [← held]
      exact Engine.submission_respects run.routed admits.planned
  | revalidateSession own fence =>
      rcases Response.issued_decision issued with
        ⟨made, answered, kind, reason, rfl, enveloped⟩
      change (engine.revalidateSession now own fence).1 = .ok made at answered
      change ∃ session,
        (engine.revalidateSession now own fence).2.sessions.lookup _ =
          some session ∧ _
      unfold Engine.revalidateSession Engine.guarded at answered ⊢
      dsimp only at answered ⊢
      split at answered
      · cases answered
      · rename_i focus passed
        rcases Engine.revalidationTarget_ok passed with ⟨owned, stale⟩
        rcases Focus.revalidate_issues answered kind with
          ⟨contract, pathId, rateBps, renewable, readmitted⟩
        rw [readmitted] at answered ⊢
        rcases Focus.readmit_issues owned.held answered with
          ⟨renewed, sent, named, given, stored, request, held, isolation,
            path, rate⟩
        rw [given] at enveloped
        cases enveloped
        have authority : focus.engine.authority = engine.authority := by
          rw [owned.engine]
          exact engine.observe_authority now
        have respects := renewable.respects_iff isolation path rate
        rw [Engine.respects_congr authority, Engine.stillFits_congr authority]
          at respects
        have found := owned.unobserved stale
        rw [named]
        refine ⟨renewed, stored, held, ?_, ?_⟩
        · intro fits
          rw [request]
          exact respects.mpr (fits _ found)
        · intro _ respected session known
          rw [request] at respected
          cases found.symm.trans known
          exact respects.mp respected
  | _ =>
      cases issued

instance (engine : Engine) (request : SessionRequest)
    (envelope : TrafficEnvelope) :
    Decidable (engine.Respects request envelope) := by
  unfold Engine.Respects
  infer_instance

instance (engine : Engine) (session : SessionRecord) :
    Decidable (engine.StillFits session) := by
  unfold Engine.StillFits
  infer_instance

instance (engine : Engine) (now : Nanos) :
    ∀ command, Decidable (IssueCondition engine now command) := by
  intro command
  apply @Command.casesOn
      (fun command => Decidable (IssueCondition engine now command)) command <;>
    intros <;> unfold IssueCondition <;> infer_instance

/-- The sample deployment after a session lost its authority to a new
policy. -/
def staleEngine : Engine :=
  ((Engine.construct Sample.config 0).executeAll
    [(1, .submitSession (Sample.request 2 [2]) (Sample.fence 1)),
      (2, .applyPolicy (Sample.policy 2))]).2

/-- The contract of the sample workload asks for a stricter class. -/
def Sample.stricterContract : WorkloadContract :=
  { Sample.contract with
    generation := ⟨2⟩
    isolation := .trainingCritical }

def tightenedScript : List (Nanos × Command) :=
  [(1, .submitSession (Sample.request 2 [2]) (Sample.fence 1)),
    (2, .upsertContract Sample.stricterContract)]

theorem issuanceScripts_evaluated :
    ((staleEngine.execute 3 (.revalidateSession ⟨Sample.drawn 0⟩
         (Sample.fence 2))).1.issued.map Prod.fst =
         some ⟨Sample.drawn 0⟩ ∧
       IssueCondition staleEngine 3
         (.revalidateSession ⟨Sample.drawn 0⟩ (Sample.fence 2))) ∧
      (let run := (Engine.construct Sample.config 0).executeAll tightenedScript
       (∀ event ∈ run.1, event.restores = false) ∧
         (∃ issued ∈ (run.2.execute 3 (.revalidateSession ⟨Sample.drawn 0⟩
             { Sample.fence 1 with contractGeneration := ⟨2⟩ })).1.issued,
           ∃ session ∈ run.2.sessions.lookup ⟨Sample.drawn 0⟩,
             issued.1 = ⟨Sample.drawn 0⟩ ∧
               ¬ run.2.Respects session.request issued.2)) := by
  decide +kernel

/-- A revalidation that meets the condition. -/
theorem issued_envelope_respects_authority_again :
    ∃ session envelope,
      (staleEngine.execute 3
          (.revalidateSession ⟨Sample.drawn 0⟩ (Sample.fence 2))).1.issued =
        some (⟨Sample.drawn 0⟩, envelope) ∧
        staleEngine.Respects session envelope := by
  have evaluated := issuanceScripts_evaluated.1
  rcases Option.map_eq_some_iff.mp evaluated.1 with
    ⟨⟨id, envelope⟩, sent, rfl⟩
  rcases issued_envelope_respects_authority
      (Engine.executeAll_run (Engine.construct Sample.config 0) _) sent with
    ⟨session, _, _, respects, _⟩
  exact ⟨session.request, envelope, sent, respects evaluated.2⟩

/-- Revalidated under the stricter contract, the session gets an envelope of
its old, laxer class. -/
theorem revalidation_keeps_laxer_class :
    ∃ history engine session envelope,
      EngineRun Sample.config 0 history engine ∧
        (∀ event ∈ history, event.restores = false) ∧
        (engine.execute 3 (.revalidateSession ⟨Sample.drawn 0⟩
            { Sample.fence 1 with contractGeneration := ⟨2⟩ })).1.issued =
          some (⟨Sample.drawn 0⟩, envelope) ∧
        engine.sessions.lookup ⟨Sample.drawn 0⟩ = some session ∧
        ¬ engine.Respects session.request envelope := by
  have evaluated := issuanceScripts_evaluated.2
  rcases evaluated with
    ⟨ordinary, ⟨id, envelope⟩, issued, session, found, rfl, laxer⟩
  exact ⟨_, _, session, envelope, Engine.executeAll_run _ tightenedScript,
    ordinary, issued, found, laxer⟩

end TrafficFabric
