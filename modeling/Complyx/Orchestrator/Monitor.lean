import Complyx.Orchestrator.State
import Complyx.Transition.Run

namespace Complyx

open Transition

/-!
# The heartbeat monitor

A pass of `run_check` first reads the entries of the map, one after another, and
then marks the agents whose entries were stale, one after another.  Each reading
and each marking is atomic, and between any two of them the map may change.
-/

inductive Pass where
  | idle
  | reading (stale : List Uuid)
  | marking (left : List Uuid)
  deriving DecidableEq, Repr

structure MonitorState where
  orchestrator : Orchestrator
  now : Instant
  pass : Pass

inductive MonitorLabel where
  | tick (duration : Nat)
  | updateHeartbeat (agentId : Uuid)
  | updatePolicyHash (agentId : Uuid) (hash : String)
  | removeAgent (agentId : Uuid)
  | start
  | read (agentId : Uuid)
  | collected
  | mark

/-- The steps of `run_check`, as opposed to those of its surroundings. -/
def MonitorLabel.ofCheck : MonitorLabel -> Bool
  | .start => true
  | .read _ => true
  | .collected => true
  | .mark => true
  | _ => false

/-- The pass with the given agents to mark, over if there are none. -/
def Pass.remaining : List Uuid -> Pass
  | [] => .idle
  | agentId :: rest => .marking (agentId :: rest)

/-- The agents the pass has found stale and not yet marked. -/
def Pass.listed : Pass -> List Uuid
  | .idle => []
  | .reading stale => stale
  | .marking left => left

@[simp] theorem Pass.listed_remaining (left : List Uuid) :
    (Pass.remaining left).listed = left := by
  cases left <;> rfl

namespace MonitorState

/-- The state with the map changed. -/
def update (state : MonitorState)
    (change : Orchestrator -> Orchestrator) : MonitorState :=
  { state with orchestrator := change state.orchestrator }

def step (state : MonitorState) : MonitorLabel -> MonitorState
  | .tick duration => { state with now := state.now + duration }
  | .updateHeartbeat agentId =>
      state.update (Orchestrator.updateHeartbeat state.now agentId)
  | .updatePolicyHash agentId hash =>
      state.update (Orchestrator.updatePolicyHash agentId hash)
  | .removeAgent agentId => state.update (Orchestrator.removeAgent agentId)
  | .start =>
      match state.pass with
      | .idle => { state with pass := .reading [] }
      | _ => state
  | .read agentId =>
      match state.pass with
      | .reading stale =>
          if state.orchestrator.isStale state.now agentId then
            { state with pass := .reading (stale ++ [agentId]) }
          else state
      | _ => state
  | .collected =>
      match state.pass with
      | .reading stale => { state with pass := Pass.remaining stale }
      | _ => state
  | .mark =>
      match state.pass with
      | .marking (agentId :: rest) =>
          { state with
            orchestrator := state.orchestrator.markOffline agentId,
            pass := Pass.remaining rest }
      | _ => state

theorem step_mark {state : MonitorState} {agentId : Uuid} {rest : List Uuid}
    (turn : state.pass = .marking (agentId :: rest)) :
    state.step .mark =
      { state with orchestrator := state.orchestrator.markOffline agentId, pass :=
        Pass.remaining rest } := by
  simp only [step, turn]

/-- Only a marking changes the map. -/
theorem step_check_orchestrator (state : MonitorState) {label : MonitorLabel}
    (check : label.ofCheck = true) :
    (state.step label).orchestrator = state.orchestrator ∨
      Exists fun agentId => Exists fun rest => label = .mark ∧
        state.pass = .marking (agentId :: rest) ∧
        (state.step label).orchestrator =
          state.orchestrator.markOffline agentId := by
  rcases state with ⟨orchestrator, now, pass⟩
  cases label with
  | tick duration => cases check
  | updateHeartbeat agentId => cases check
  | updatePolicyHash agentId hash => cases check
  | removeAgent agentId => cases check
  | start =>
      left
      cases pass <;> rfl
  | read agentId =>
      left
      cases pass with
      | idle => rfl
      | marking left => rfl
      | reading stale =>
          simp only [step]
          split <;> rfl
  | collected =>
      left
      cases pass <;> rfl
  | mark =>
      cases pass with
      | idle => exact Or.inl rfl
      | reading stale => exact Or.inl rfl
      | marking left =>
          cases left with
          | nil => exact Or.inl rfl
          | cons agentId rest => exact Or.inr ⟨agentId, rest, rfl, rfl, rfl⟩

/-! ## A pass on its own -/

theorem after_reads (orchestrator : Orchestrator) (now : Instant)
    (entries stale : List Uuid) :
    after step ⟨orchestrator, now, .reading stale⟩ (entries.map .read) =
      ⟨orchestrator, now,
        .reading (stale ++ entries.filter (orchestrator.isStale now))⟩ := by
  induction entries generalizing stale with
  | nil => rw [List.map_nil, after_nil, List.filter_nil, List.append_nil]
  | cons agentId rest ih =>
      rw [List.map_cons, after_cons, List.filter_cons, step]
      dsimp only
      split
      · rw [ih, List.append_assoc, List.singleton_append]
      · exact ih stale

theorem after_marks (orchestrator : Orchestrator) (now : Instant)
    (stale : List Uuid) :
    after step ⟨orchestrator, now, Pass.remaining stale⟩
      (List.replicate stale.length .mark) =
      ⟨stale.foldl (fun left agentId => left.markOffline agentId) orchestrator,
        now, .idle⟩ := by
  induction stale generalizing orchestrator with
  | nil => rfl
  | cons agentId rest ih =>
      rw [List.length_cons, List.replicate_succ, after_cons, Pass.remaining,
        step_mark rfl, List.foldl_cons]
      exact ih (orchestrator.markOffline agentId)

/-- The steps of a pass that nothing interrupts make up the check. -/
theorem after_runCheck (orchestrator : Orchestrator) (now : Instant)
    (entries : List Uuid) :
    after step ⟨orchestrator, now, .idle⟩
      ([.start] ++ entries.map .read ++ [.collected] ++
        List.replicate (entries.filter (orchestrator.isStale now)).length .mark) =
      ⟨orchestrator.runCheck now entries, now, .idle⟩ := by
  have started :
      after step ⟨orchestrator, now, .idle⟩ [.start] =
        ⟨orchestrator, now, .reading []⟩ := rfl
  rw [after_append, after_append, after_append, started, after_reads,
    List.nil_append]
  exact after_marks orchestrator now _

/-- Whenever a step of the check turns an agent offline, the agent was last seen
longer ago than the timeout. -/
def MarksStale (state : MonitorState) (label : MonitorLabel) : Prop :=
  label.ofCheck = true -> forall agentId before later,
    state.orchestrator.agents agentId = some before ->
    (state.step label).orchestrator.agents agentId = some later ->
      before.status = .online ->
      later.status = .offline ->
        state.orchestrator.offlineTimeout < elapsed state.now before.lastSeen

end MonitorState

end Complyx
