import TrafficFabric.Engine.Indexes
import TrafficFabric.Engine.Standing

/-!
# Credit and authority along a run

An envelope is issued by a submission or a revalidation; its authority ends
when the policy, the topology, the epoch or the contract of its workload
advances.  The results below follow the standing of all sessions along a run
that may contain any commands.
-/

namespace TrafficFabric

open Foundation

/-! ## The workload index -/

/-- Every session is listed under its workload. -/
def Engine.Indexed (engine : Engine) : Prop :=
  ∀ id session, engine.sessions.lookup id = some session →
    id ∈ engine.byWorkload.findD session.request.workload []

section

variable {permits : Permits}

theorem Edit.indexed
    {before after : Engine} (edit : Edit permits before after)
    (indexed : before.Indexed) : after.Indexed :=
  @SessionIndex.Lists.edit _ _ workloadIndex _ _ _ edit indexed

/-! ## Loops that reach every session -/

/-- A loop body that rewrites its own slot only, or nothing, and leaves the
session there with a property. -/
structure Sweeps
    (Property : SessionRecord → Prop) (focus : Focus) (after : Engine) :
    Prop where
  others :
    ∀ id, id ≠ focus.key →
      after.sessions.lookup id = focus.engine.sessions.lookup id
  own :
    ∀ session, after.sessions.lookup focus.key = some session →
      Property session

theorem Sweeps.of_skip
    {Property : SessionRecord → Prop} {focus : Focus}
    (held : focus.Held) (property : Property focus.session) :
    Sweeps Property focus focus.engine where
  others := fun _ _ => rfl
  own := by
    intro session found
    rw [held] at found
    cases found
    exact property

theorem Sweeps.of_commit
    {Property : SessionRecord → Prop} {focus after : Focus}
    (live : focus.Live) (key : after.key = focus.key)
    (table : after.engine.sessions = focus.engine.sessions)
    (property : Property after.session) :
    Sweeps Property focus after.commit where
  others := by
    intro id differs
    rw [Focus.lookup_commit_ne (by rw [key]; exact differs), table]
  own := by
    intro session found
    have stays : after.Live := by
      unfold Focus.Live at live ⊢
      rw [key, table]
      exact live
    rw [← key, Focus.lookup_commit_self stays] at found
    cases found
    exact property

/-- After a loop over sessions, each visited one has what its visit
establishes. -/
theorem Engine.visit_sweeps
    {Property : SessionRecord → Prop} {body : Focus → Engine}
    (each :
      ∀ focus : Focus, focus.Held → Sweeps Property focus (body focus))
    (engine : Engine) (ids : List SessionId) :
    ∀ id ∈ ids, ∀ session,
      (engine.visit ids body).sessions.lookup id = some session →
      Property session := by
  -- A visit keeps the property of the sessions visited before.
  have kept :
      ∀ (rest : List SessionId) (reached : Engine) (id : SessionId),
        (∀ session, reached.sessions.lookup id = some session →
          Property session) →
        ∀ session,
          (reached.visit rest body).sessions.lookup id = some session →
          Property session := by
    intro rest reached id holds
    refine @Engine.visit_rule
      (fun engine => ∀ session, engine.sessions.lookup id = some session →
        Property session) body rest ?_ reached holds
    intro focus held _ earlier session found
    by_cases own : id = focus.key
    · subst own
      exact (each focus held).own session found
    · rw [(each focus held).others id own] at found
      exact earlier session found
  induction ids generalizing engine with
  | nil =>
      intro id member
      cases member
  | cons first rest hypothesis =>
      intro id member
      rcases List.mem_cons.mp member with rfl | later
      · refine kept rest _ id ?_
        intro session found
        dsimp only at found
        split at found
        · rename_i missing
          simp only [Engine.hold, Option.map_eq_none_iff] at missing
          rw [missing] at found
          cases found
        · rename_i focus looked
          rcases Engine.hold_eq_some.mp looked with ⟨rfl, rfl, held⟩
          exact (each focus held).own session found
      · exact hypothesis _ id later

/-- A session that is closed or asks for revalidation. -/
def Withdrawn (session : SessionRecord) : Prop :=
  isTerminal session.state = true ∨ session.state = .revalidationRequired

theorem Focus.markStale_sweeps
    {focus : Focus} (held : focus.Held) (now : Nanos)
    (reason line : String) :
    Sweeps Withdrawn focus (focus.markStale now reason line) := by
  unfold Focus.markStale
  split
  · rename_i withdrawn
    exact .of_skip held withdrawn
  · exact .of_commit held.live rfl rfl (.inr rfl)

theorem Focus.restart_sweeps
    {focus : Focus} (held : focus.Held) (now : Nanos) :
    Sweeps Withdrawn focus (focus.restart now) := by
  unfold Focus.restart
  split
  · rename_i terminal
    exact .of_skip held (.inl terminal)
  · exact .of_commit held.live rfl rfl (.inr rfl)

/-- A loop over all keys reaches every session. -/
theorem Engine.visit_keys_sweeps
    {Property : SessionRecord → Prop} {body : Focus → Engine}
    (each :
      ∀ focus : Focus, focus.Held → Sweeps Property focus (body focus))
    (engine : Engine) :
    ∀ id session,
      (engine.visit engine.sessions.keys body).sessions.lookup id =
        some session →
      Property session := by
  intro id session found
  refine Engine.visit_sweeps each engine engine.sessions.keys id ?_ session
    found
  have within :
      ∀ id session,
        (engine.visit engine.sessions.keys body).sessions.lookup id =
          some session →
        id ∈ engine.sessions.keys := by
    refine @Engine.visit_rule
      (fun reached => ∀ id session,
        reached.sessions.lookup id = some session →
        id ∈ engine.sessions.keys) body _ ?_ engine ?_
    · intro focus held listed earlier id session found
      by_cases own : id = focus.key
      · subst own
        exact listed
      · rw [(each focus held).others id own] at found
        exact earlier id session found
    · intro id session found
      exact AList.mem_keys.mpr (Table.mem_of_lookup found)
  exact within id session found

end

end TrafficFabric
