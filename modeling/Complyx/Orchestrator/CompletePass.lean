import Complyx.Orchestrator.Monitor

namespace Complyx

open Transition

/-!
# Silent agents that are marked offline

The list of a pass and the map change independently between the reading of an
entry and its marking.  An agent found stale stays on the list until it is
marked, and its entry stays in the map as long as nothing is heard of the agent
and it is not removed.  What the pass does to the map besides is nothing.
-/

/-- No heartbeat of the agent, and no removal. -/
def MonitorLabel.Spares (agentId : Uuid) (label : MonitorLabel) : Prop :=
  label ≠ .updateHeartbeat agentId ∧ label ≠ .removeAgent agentId

namespace MonitorState

/-- The agent has an entry, which is offline or on the list. -/
def Caught (agentId : Uuid) (state : MonitorState) : Prop :=
  Exists fun entry => state.orchestrator.agents agentId = some entry ∧
    (entry.status = .offline ∨ agentId ∈ state.pass.listed)

/-- A change of another entry. -/
theorem Caught.set_of_ne {agentId id : Uuid} {state : MonitorState}
    (caught : state.Caught agentId) (other : agentId ≠ id)
    (entry : Option AgentState) (now : Instant) {pass : Pass}
    (kept : agentId ∈ state.pass.listed -> agentId ∈ pass.listed) :
    Caught agentId ⟨state.orchestrator.set id entry, now, pass⟩ := by
  rcases caught with ⟨own, present, offline | listed⟩
  · exact ⟨own, (Orchestrator.set_agents_of_ne _ other entry).trans present,
      Or.inl offline⟩
  · exact ⟨own, (Orchestrator.set_agents_of_ne _ other entry).trans present,
      Or.inr (kept listed)⟩

/-- A change of the list that keeps the agent on it. -/
theorem Caught.list {agentId : Uuid} {state : MonitorState}
    (caught : state.Caught agentId) (now : Instant) {pass : Pass}
    (kept : agentId ∈ state.pass.listed -> agentId ∈ pass.listed) :
    Caught agentId ⟨state.orchestrator, now, pass⟩ := by
  rcases caught with ⟨own, present, marked⟩
  exact ⟨own, present, marked.imp_right kept⟩

theorem caught_step {agentId : Uuid} (state : MonitorState) (label : MonitorLabel)
    (caught : state.Caught agentId) (spares : label.Spares agentId) :
    (state.step label).Caught agentId := by
  rcases state with ⟨orchestrator, now, pass⟩
  cases label with
  | tick duration => exact caught.list _ id
  | updateHeartbeat other =>
      have apart : agentId ≠ other :=
        fun same => spares.1 (congrArg MonitorLabel.updateHeartbeat same.symm)
      rw [step, update, Orchestrator.updateHeartbeat_eq]
      exact caught.set_of_ne apart _ now id
  | updatePolicyHash other hash =>
      rw [step, update, Orchestrator.updatePolicyHash_eq]
      by_cases here : agentId = other
      · subst here
        rcases caught with ⟨own, present, marked⟩
        refine ⟨{ own with lastPolicyHash := some hash }, ?_, marked⟩
        dsimp only at present ⊢
        rw [Orchestrator.set_agents_self, present, Option.map_some]
      · exact caught.set_of_ne here _ now id
  | removeAgent other =>
      have apart : agentId ≠ other :=
        fun same => spares.2 (congrArg MonitorLabel.removeAgent same.symm)
      exact caught.set_of_ne apart none now id
  | start =>
      cases pass with
      | idle =>
          exact caught.list now fun impossible =>
            absurd impossible List.not_mem_nil
      | reading stale => exact caught
      | marking left => exact caught
  | read other =>
      cases pass with
      | idle => exact caught
      | marking left => exact caught
      | reading stale =>
          simp only [step]
          split
          · exact caught.list now (List.mem_append_left _)
          · exact caught
  | collected =>
      cases pass with
      | idle => exact caught
      | marking left => exact caught
      | reading stale =>
          apply caught.list now
          rw [Pass.listed_remaining]
          exact id
  | mark =>
      cases pass with
      | idle => exact caught
      | reading stale => exact caught
      | marking left =>
          cases left with
          | nil => exact caught
          | cons marked rest =>
              rw [step_mark rfl, Orchestrator.markOffline_eq]
              by_cases here : agentId = marked
              · subst here
                rcases caught with ⟨own, present, _⟩
                refine ⟨{ own with status := .offline }, ?_, Or.inl rfl⟩
                dsimp only at present ⊢
                rw [Orchestrator.set_agents_self, present, Option.map_some]
              · apply caught.set_of_ne here
                intro listed
                rw [Pass.listed_remaining]
                exact (List.mem_cons.mp listed).resolve_left here

/-- What a pass reads as stale is caught. -/
theorem caught_read {agentId : Uuid} {state : MonitorState} {stale : List Uuid}
    (turn : state.pass = .reading stale)
    (overdue : state.orchestrator.isStale state.now agentId = true) :
    (state.step (.read agentId)).Caught agentId := by
  rcases Orchestrator.isStale_iff.mp overdue with ⟨entry, present, _⟩
  simp only [step, turn, overdue, if_true]
  exact ⟨entry, present,
    Or.inr (List.mem_append_right _ (List.mem_singleton_self agentId))⟩

theorem Caught.offline {agentId : Uuid} {state : MonitorState}
    (caught : state.Caught agentId) (ended : state.pass = .idle) :
    Exists fun entry => state.orchestrator.agents agentId = some entry ∧
      entry.status = .offline := by
  rcases caught with ⟨entry, present, offline | listed⟩
  · exact ⟨entry, present, offline⟩
  · rw [ended] at listed
    cases listed

/-- Whatever happens in between, an agent whose entry a pass reads while the agent
is online and was last seen longer ago than the timeout, and of which nothing is
heard afterwards, is offline when the pass is over. -/
def MissesNobody (start : MonitorState) (labels : List MonitorLabel) : Prop :=
  forall earlier agentId later state stale entry,
    labels = earlier ++ .read agentId :: later ->
    after step start earlier = state -> state.pass = .reading stale ->
    state.orchestrator.agents agentId = some entry -> entry.status = .online ->
    state.orchestrator.offlineTimeout < elapsed state.now entry.lastSeen ->
    (forall label, label ∈ later -> label.Spares agentId) ->
      (after step start labels).pass = .idle ->
    Exists fun last => (after step start labels).orchestrator.agents agentId =
      some last ∧ last.status = .offline

/-- Nothing is changed but the status of agents that go offline. -/
structure OnlyMarks (before later : Orchestrator) : Prop where
  offlineTimeout : later.offlineTimeout = before.offlineTimeout
  lastSeen : forall id, (later.agents id).map AgentState.lastSeen =
    (before.agents id).map AgentState.lastSeen
  lastPolicyHash : forall id,
    (later.agents id).map AgentState.lastPolicyHash =
      (before.agents id).map AgentState.lastPolicyHash
  entries : forall id, (later.agents id).isSome = (before.agents id).isSome
  /-- Who is online was so before. -/
  online : forall id entry, later.agents id = some entry ->
    entry.status = .online -> before.agents id = some entry

theorem onlyMarks_refl (orchestrator : Orchestrator) :
    OnlyMarks orchestrator orchestrator :=
  ⟨rfl, fun _ => rfl, fun _ => rfl, fun _ => rfl, fun _ _ present _ => present⟩

/-- An entry after a marking is marked or as it was. -/
theorem markOffline_agents (orchestrator : Orchestrator) (agentId id : Uuid) :
    (orchestrator.markOffline agentId).agents id =
        (orchestrator.agents id).map
          (fun state => { state with status := .offline }) ∨
      (orchestrator.markOffline agentId).agents id = orchestrator.agents id := by
  rw [Orchestrator.markOffline_eq]
  by_cases here : id = agentId
  · subst here
    exact Or.inl (Orchestrator.set_agents_self _ _ _)
  · exact Or.inr (Orchestrator.set_agents_of_ne _ here _)

theorem onlyMarks_markOffline (orchestrator : Orchestrator) (agentId : Uuid) :
    OnlyMarks orchestrator (orchestrator.markOffline agentId) where
  offlineTimeout := by
    rw [Orchestrator.markOffline_eq]
    rfl
  lastSeen := by
    intro id
    rcases markOffline_agents orchestrator agentId id with marked | same
    · rw [marked, Option.map_map]
      rfl
    · rw [same]
  lastPolicyHash := by
    intro id
    rcases markOffline_agents orchestrator agentId id with marked | same
    · rw [marked, Option.map_map]
      rfl
    · rw [same]
  entries := by
    intro id
    rcases markOffline_agents orchestrator agentId id with marked | same
    · rw [marked, Option.isSome_map]
    · rw [same]
  online := by
    intro id entry present online
    rcases markOffline_agents orchestrator agentId id with marked | same
    · rw [marked] at present
      rcases Option.map_eq_some_iff.mp present with ⟨old, _, rfl⟩
      cases online
    · rwa [same] at present

theorem step_onlyMarks (state : MonitorState) (label : MonitorLabel)
    (check : label.ofCheck = true) :
    OnlyMarks state.orchestrator (state.step label).orchestrator := by
  rcases state.step_check_orchestrator check with
    same | ⟨agentId, rest, _, _, marked⟩
  · rw [same]
    exact onlyMarks_refl state.orchestrator
  · rw [marked]
    exact onlyMarks_markOffline state.orchestrator agentId

end MonitorState

/-- In every interleaving a pass marks all silent agents it reads, and its steps
change nothing else. -/
theorem monitor_pass_complete (start : MonitorState)
    (labels : List MonitorLabel) :
    MonitorState.MissesNobody start labels ∧
      Meets MonitorState.step (fun state label => label.ofCheck = true ->
        MonitorState.OnlyMarks state.orchestrator (state.step label).orchestrator)
          start labels := by
  constructor
  · intro earlier agentId later state stale entry whole reached turn present
      online overdue spared ended
    have read : (state.step (.read agentId)).Caught agentId :=
      MonitorState.caught_read turn
        (Orchestrator.isStale_iff.mpr ⟨entry, present, online, overdue⟩)
    have unheard :
        Meets MonitorState.step (fun _ label => label.Spares agentId)
          (state.step (.read agentId)) later :=
      meets_of_forall (fun label member _ => spared label member) _
    have caught := (always_of_meets MonitorState.caught_step read unheard).last
    rw [whole, after_append, reached, after_cons] at ended ⊢
    exact caught.offline ended
  · exact meets_of_forall
      (fun label _ state => MonitorState.step_onlyMarks state label) start

/-- An agent that is silent beside one that is removed while the pass is marking. -/
def removalBeside : List MonitorLabel :=
  [.updateHeartbeat 7, .updateHeartbeat 8, .tick (301 * 1000000000), .start,
    .read 8, .read 7, .collected, .removeAgent 8, .mark, .mark]

example :
    (after MonitorState.step ⟨Orchestrator.new 300, 0, .idle⟩
      removalBeside).pass = .idle ∧
    ((after MonitorState.step ⟨Orchestrator.new 300, 0, .idle⟩
      removalBeside).orchestrator.agents 7).map
      AgentState.status = some .offline := by
  decide

end Complyx
