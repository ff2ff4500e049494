import Complyx.Db.Statement

namespace Complyx

open Transition

/-!
# The agents in memory

The orchestrator keeps for each agent the moment of its last contact, the hash of
the last bundle it was sent and whether it is online.  Each operation on the map
is atomic, and the map is gone when the server stops.
-/

/-- A reading of the monotonic clock, and a difference of two. -/
abbrev Instant := Nat

/-- `elapsed`, which is zero for an instant in the future. -/
def elapsed (now lastSeen : Instant) : Nat := now - lastSeen

inductive AgentStatus where
  | online
  | offline
  deriving DecidableEq, Repr

structure AgentState where
  lastSeen : Instant
  lastPolicyHash : Option String
  status : AgentStatus
  deriving DecidableEq, Repr

def AgentState.newOnline (now : Instant) : AgentState where
  lastSeen := now
  lastPolicyHash := none
  status := .online

structure Orchestrator where
  agents : Uuid -> Option AgentState
  offlineTimeout : Nat

namespace Orchestrator

def new (offlineTimeoutSecs : UInt64) : Orchestrator where
  agents := fun _ => none
  offlineTimeout := offlineTimeoutSecs.toNat * nanosPerSec.toNat

/-- The map with another entry for one agent. -/
def set (orchestrator : Orchestrator) (agentId : Uuid)
    (entry : Option AgentState) : Orchestrator :=
  { orchestrator with
    agents := fun id => if id = agentId then entry else orchestrator.agents id }

/-- `update_heartbeat`. -/
def updateHeartbeat (now : Instant) (agentId : Uuid)
    (orchestrator : Orchestrator) : Orchestrator :=
  match orchestrator.agents agentId with
  | some state =>
      orchestrator.set agentId
        (some { state with lastSeen := now, status := .online })
  | none => orchestrator.set agentId (some (AgentState.newOnline now))

/-- `update_policy_hash`. -/
def updatePolicyHash (agentId : Uuid) (hash : String)
    (orchestrator : Orchestrator) : Orchestrator :=
  match orchestrator.agents agentId with
  | some state =>
      orchestrator.set agentId (some { state with lastPolicyHash := some hash })
  | none => orchestrator

/-- `mark_offline`, which does not look at the last contact. -/
def markOffline (agentId : Uuid) (orchestrator : Orchestrator) : Orchestrator :=
  match orchestrator.agents agentId with
  | some state =>
      if state.status ≠ .offline then
        orchestrator.set agentId (some { state with status := .offline })
      else orchestrator
  | none => orchestrator

/-- `remove_agent`. -/
def removeAgent (agentId : Uuid) (orchestrator : Orchestrator) : Orchestrator :=
  orchestrator.set agentId none

/-- `get_policy_hash`. -/
def getPolicyHash (orchestrator : Orchestrator) (agentId : Uuid) : String :=
  ((orchestrator.agents agentId).bind AgentState.lastPolicyHash).getD ""

/-- The filter of `stale_agents` on one entry. -/
def isStale (now : Instant) (orchestrator : Orchestrator)
    (agentId : Uuid) : Bool :=
  match orchestrator.agents agentId with
  | some state =>
      decide (state.status = .online) &&
        decide (elapsed now state.lastSeen > orchestrator.offlineTimeout)
  | none => false

@[simp] theorem set_agents_self (orchestrator : Orchestrator) (agentId : Uuid)
    (entry : Option AgentState) :
    (orchestrator.set agentId entry).agents agentId = entry :=
  if_pos rfl

theorem set_agents_of_ne (orchestrator : Orchestrator) {agentId id : Uuid}
    (other : id ≠ agentId) (entry : Option AgentState) :
    (orchestrator.set agentId entry).agents id = orchestrator.agents id :=
  if_neg other

/-! ## One agent at a time -/

/-- The entry of an agent after its heartbeat. -/
def beaten (now : Instant) (entry : Option AgentState) : AgentState where
  lastSeen := now
  lastPolicyHash := entry.bind AgentState.lastPolicyHash
  status := .online

theorem updateHeartbeat_eq (now : Instant) (agentId : Uuid)
    (orchestrator : Orchestrator) :
    orchestrator.updateHeartbeat now agentId =
      orchestrator.set agentId
        (some (beaten now (orchestrator.agents agentId))) := by
  unfold updateHeartbeat
  cases orchestrator.agents agentId <;> rfl

theorem set_same (orchestrator : Orchestrator) (agentId : Uuid) :
    orchestrator.set agentId (orchestrator.agents agentId) = orchestrator := by
  unfold set
  congr 1
  funext id
  by_cases here : id = agentId
  · rw [if_pos here, here]
  · rw [if_neg here]

theorem updatePolicyHash_eq (agentId : Uuid) (hash : String)
    (orchestrator : Orchestrator) :
    orchestrator.updatePolicyHash agentId hash =
      orchestrator.set agentId ((orchestrator.agents agentId).map fun state =>
        { state with lastPolicyHash := some hash }) := by
  have same := orchestrator.set_same agentId
  unfold updatePolicyHash
  cases present : orchestrator.agents agentId with
  | some state => rfl
  | none =>
      rw [present] at same
      exact same.symm

theorem markOffline_eq (agentId : Uuid) (orchestrator : Orchestrator) :
    orchestrator.markOffline agentId =
      orchestrator.set agentId
        ((orchestrator.agents agentId).map fun state =>
          { state with status := .offline }) := by
  have same := orchestrator.set_same agentId
  unfold markOffline
  cases present : orchestrator.agents agentId with
  | none =>
      rw [present] at same
      exact same.symm
  | some state =>
      dsimp only
      split
      · rfl
      · next already =>
        have unchanged : { state with status := .offline } = state := by
          rw [← not_not.mp already]
        rw [present] at same
        rw [Option.map_some, unchanged, same]

theorem isStale_iff {now : Instant} {orchestrator : Orchestrator}
    {agentId : Uuid} :
    orchestrator.isStale now agentId = true <-> Exists fun state =>
      orchestrator.agents agentId = some state ∧
      state.status = .online ∧
        orchestrator.offlineTimeout < elapsed now state.lastSeen := by
  unfold isStale
  cases present : orchestrator.agents agentId with
  | none =>
      constructor
      · intro impossible
        cases impossible
      · rintro ⟨state, impossible, _⟩
        cases impossible
  | some state =>
      simp only [Bool.and_eq_true, decide_eq_true_eq, gt_iff_lt,
        Option.some.injEq, exists_eq_left']

/-! ## The recorded hash -/

theorem getPolicyHash_set_self (orchestrator : Orchestrator) (agentId : Uuid)
    (entry : Option AgentState) :
    (orchestrator.set agentId entry).getPolicyHash agentId =
      (entry.bind AgentState.lastPolicyHash).getD "" := by
  rw [getPolicyHash, set_agents_self]

theorem getPolicyHash_set_of_ne (orchestrator : Orchestrator) {agentId id : Uuid}
    (other : id ≠ agentId) (entry : Option AgentState) :
    (orchestrator.set agentId entry).getPolicyHash id =
      orchestrator.getPolicyHash id := by
  rw [getPolicyHash, set_agents_of_ne _ other, getPolicyHash]

/-- An entry with the same hash. -/
theorem getPolicyHash_set_same (orchestrator : Orchestrator) {agentId : Uuid}
    {entry : Option AgentState}
    (same : entry.bind AgentState.lastPolicyHash =
      (orchestrator.agents agentId).bind AgentState.lastPolicyHash)
    (id : Uuid) :
    (orchestrator.set agentId entry).getPolicyHash id =
      orchestrator.getPolicyHash id := by
  by_cases here : id = agentId
  · rw [here, getPolicyHash_set_self, same, getPolicyHash]
  · exact getPolicyHash_set_of_ne _ here entry

/-- A heartbeat keeps the hash, and an agent met for the first time has none. -/
theorem getPolicyHash_updateHeartbeat (now : Instant) (agentId : Uuid)
    (orchestrator : Orchestrator) (id : Uuid) :
    (orchestrator.updateHeartbeat now agentId).getPolicyHash id =
      orchestrator.getPolicyHash id := by
  rw [updateHeartbeat_eq]
  apply getPolicyHash_set_same
  rfl

theorem getPolicyHash_markOffline (agentId : Uuid) (orchestrator : Orchestrator)
    (id : Uuid) :
    (orchestrator.markOffline agentId).getPolicyHash id =
      orchestrator.getPolicyHash id := by
  rw [markOffline_eq]
  apply getPolicyHash_set_same
  cases orchestrator.agents agentId <;> rfl

theorem getPolicyHash_updatePolicyHash {agentId : Uuid}
    {orchestrator : Orchestrator} {state : AgentState}
    (present : orchestrator.agents agentId = some state) (hash : String)
    (id : Uuid) :
    (orchestrator.updatePolicyHash agentId hash).getPolicyHash id =
      if id = agentId then hash else orchestrator.getPolicyHash id := by
  rw [updatePolicyHash_eq, present]
  by_cases here : id = agentId
  · rw [if_pos here, here, getPolicyHash_set_self]
    rfl
  · rw [if_neg here]
    exact getPolicyHash_set_of_ne _ here _

theorem getPolicyHash_removeAgent (agentId : Uuid) (orchestrator : Orchestrator)
    (id : Uuid) :
    (orchestrator.removeAgent agentId).getPolicyHash id =
      if id = agentId then "" else orchestrator.getPolicyHash id := by
  by_cases here : id = agentId
  · rw [if_pos here, here]
    exact getPolicyHash_set_self _ _ none
  · rw [if_neg here]
    exact getPolicyHash_set_of_ne _ here none

/-! ## A check on its own -/

/-- `run_check` while nothing else happens, with the entries in the order in which
the map is read. -/
def runCheck (now : Instant) (entries : List Uuid)
    (orchestrator : Orchestrator) : Orchestrator :=
  (entries.filter (orchestrator.isStale now)).foldl
    (fun left agentId => left.markOffline agentId) orchestrator

theorem getPolicyHash_runCheck (now : Instant) (entries : List Uuid)
    (orchestrator : Orchestrator) (id : Uuid) :
    (orchestrator.runCheck now entries).getPolicyHash id =
      orchestrator.getPolicyHash id := by
  unfold runCheck
  generalize entries.filter (orchestrator.isStale now) = stale
  induction stale generalizing orchestrator with
  | nil => rfl
  | cons agentId rest ih =>
      rw [List.foldl_cons, ih]
      exact getPolicyHash_markOffline agentId orchestrator id

end Orchestrator

/-! ## Operations of the service -/

/-- What the service does to the map while it answers a request. -/
inductive OrchestratorOp where
  | updateHeartbeat (agentId : Uuid)
  | updatePolicyHash (agentId : Uuid) (hash : String)

abbrev OrchestratorOp.Res : OrchestratorOp -> Type := fun _ => Unit

def OrchestratorOp.apply (now : Instant) :
    OrchestratorOp -> Orchestrator -> Orchestrator
  | .updateHeartbeat agentId, orchestrator =>
      orchestrator.updateHeartbeat now agentId
  | .updatePolicyHash agentId hash, orchestrator =>
      orchestrator.updatePolicyHash agentId hash

/-- The agent whose entry an operation changes. -/
def OrchestratorOp.agentId : OrchestratorOp -> Uuid
  | .updateHeartbeat agentId => agentId
  | .updatePolicyHash agentId _ => agentId

theorem OrchestratorOp.apply_eq (now : Instant) (op : OrchestratorOp)
    (orchestrator : Orchestrator) :
    Exists fun entry =>
      op.apply now orchestrator = orchestrator.set op.agentId entry := by
  cases op with
  | updateHeartbeat agentId =>
      exact ⟨_, Orchestrator.updateHeartbeat_eq now agentId orchestrator⟩
  | updatePolicyHash agentId hash =>
      exact ⟨_, Orchestrator.updatePolicyHash_eq agentId hash orchestrator⟩

/-- An operation on the map cannot fail. -/
def OrchestratorOp.exec {δ : Type} (now : Instant) (op : OrchestratorOp)
    (orchestrator : Orchestrator) : Except δ (op.Res × Orchestrator) :=
  .ok ((), op.apply now orchestrator)

end Complyx
