import Complyx.Grpc.AgentRpc
import Complyx.Grpc.PolicySync

namespace Complyx

open Transition

/-!
# The hash recorded for an agent

The map holds a hash for an agent once a poll has sent it a bundle.  A poll that
finds nothing changed records none, so an agent that kept its bundle while the
map lost its entry has no hash on record, however often it polls.  The record is
right along a run exactly if no poll finds nothing changed while another hash is
recorded, and no restart empties a map with answered polls.
-/

/-- The server, and for each agent the hash of the bundle that its last poll
resolved, if that poll was answered and the agent was not removed since. -/
structure PolledState where
  server : Server
  polled : Uuid -> Option String

/-- What happens to the server.  The statements of a poll meet a database that is
edited in between. -/
inductive ServerLabel where
  | edit (change : Db -> Db)
  | poll (agentId : AgentId) (request : PollRequest)
      (envs : Nat -> (Env × (Db -> Db)) × Instant)
  | heartbeat (agentId : AgentId) (request : HeartbeatRequest) (now : DateTime)
      (envs : Nat -> (Env × (Db -> Db)) × Instant)
  | check (now : Instant) (entries : List Uuid)
  | removeAgent (agentId : Uuid)
  | restart

/-- A restart keeps the database and the configuration. -/
def Orchestrator.restarted (orchestrator : Orchestrator) : Orchestrator :=
  { orchestrator with agents := fun _ => none }

namespace PolledState

/-- At first no poll was answered. -/
def start (server : Server) : PolledState := ⟨server, fun _ => none⟩

variable (service : ComplyxAgent)

/-- The answer to a poll and the server it leaves. -/
def answer (state : PolledState) (agentId : AgentId) (request : PollRequest)
    (envs : Nat -> (Env × (Db -> Db)) × Instant) :
    Except Status PollResponse × Server :=
  Program.run (Program.execBoth execEdited OrchestratorOp.exec)
    (service.pollPolicies (some agentId) request) envs
    state.server

/-- The bundle the poll resolves. -/
def resolution (state : PolledState) (agentId : AgentId)
    (envs : Nat -> (Env × (Db -> Db)) × Instant) :
    Except Status PolicyBundle :=
  (Program.run execEdited (service.resolvePolicies agentId.id)
    (fun n => (envs (n + 1)).1) state.server.1).1

/-- The record of polls with another entry for one agent. -/
def note (state : PolledState) (agentId : Uuid) (hash : Option String)
    (id : Uuid) : Option String :=
  if id = agentId then hash else state.polled id

def step (state : PolledState) : ServerLabel -> PolledState
  | .edit change =>
      { state with server := (change state.server.1, state.server.2) }
  | .poll agentId request envs =>
      match state.answer service agentId request envs with
      | (.ok _, server) =>
          ⟨server,
            state.note agentId.id
            ((state.resolution service agentId envs).toOption.map
              PolicyBundle.bundleHash)⟩
      | (.error _, server) => ⟨server, state.note agentId.id none⟩
  | .heartbeat agentId request now envs =>
      { state with
        server := (Program.run (Program.execBoth execEdited OrchestratorOp.exec)
          (ComplyxAgent.heartbeat (some agentId) request now) envs
            state.server).2 }
  | .check now entries =>
      { state with
        server := (state.server.1, state.server.2.runCheck now entries) }
  | .removeAgent agentId =>
      ⟨(state.server.1, state.server.2.removeAgent agentId),
        state.note agentId none⟩
  | .restart =>
      { state with server := (state.server.1, state.server.2.restarted) }

/-- The hash on record is that of the bundle last resolved. -/
def Agrees (state : PolledState) : Prop :=
  forall id hash, state.polled id = some hash ->
    state.server.2.getPolicyHash id = hash

/-- A poll that finds nothing changed finds the hash on record, and a restart
finds no answered poll. -/
def OnRecord (state : PolledState) : ServerLabel -> Prop
  | .poll agentId request envs =>
      forall bundle, state.resolution service agentId envs = .ok bundle ->
      bundle.bundleHash = request.policyBundleHash ->
        state.server.2.getPolicyHash agentId.id = bundle.bundleHash
  | .restart => forall id, state.polled id = none
  | _ => True

/-- No poll resolves a bundle without a hash. -/
def Hashed (state : PolledState) : Prop :=
  forall id, state.polled id ≠ some ""

/-! ## One step -/

section Step

variable {service : ComplyxAgent} {state : PolledState}

theorem resolution_hash {agentId : AgentId}
    {envs : Nat -> (Env × (Db -> Db)) × Instant} {bundle : PolicyBundle}
    (resolved : state.resolution service agentId envs = .ok bundle) :
    bundle.bundleHash ≠ "" := by
  have alone :
      (SyncState.start state.server.1).resolution
        service.toAgentServiceImpl agentId
      (fun n => (envs (n + 1)).1) = .ok bundle := resolved
  rw [resolution_seals alone]
  exact sealed_hash_ne_empty _ _

/-- The server a poll leaves notes the contact, and the hash if it sends the
bundle. -/
theorem step_poll (service : ComplyxAgent) (state : PolledState)
    (agentId : AgentId) (request : PollRequest)
    (envs : Nat -> (Env × (Db -> Db)) × Instant) :
    Exists fun db => state.step service (.poll agentId request envs) =
      let met := state.server.2.updateHeartbeat (envs 0).2 agentId.id
      match state.resolution service agentId envs with
      | .ok bundle =>
          ⟨(db, met.recordPoll agentId.id request bundle),
            state.note agentId.id (some bundle.bundleHash)⟩
      | .error _ => ⟨(db, met), state.note agentId.id none⟩ := by
  refine ⟨(Program.run execEdited (service.resolvePolicies agentId.id)
    (fun n => (envs (n + 1)).1)
    state.server.1).2, ?_⟩
  rw [step, answer, ComplyxAgent.run_pollPolicies]
  dsimp only
  cases resolved : state.resolution service agentId envs with
  | ok bundle =>
      rw [resolution] at resolved
      rw [resolved]
      rfl
  | error status =>
      rw [resolution] at resolved
      rw [resolved]

theorem note_self (state : PolledState) (agentId : Uuid) (hash : Option String) :
    state.note agentId hash agentId = hash :=
  if_pos rfl

theorem note_of_ne (state : PolledState) {agentId id : Uuid}
    (other : id ≠ agentId) (hash : Option String) :
    state.note agentId hash id = state.polled id :=
  if_neg other

/-- A poll that is answered leaves the hash of its bundle on record, if it sends
the bundle, and the hash that was on record before, if it does not. -/
theorem getPolicyHash_recordPoll (now : Instant) (agentId : Uuid)
    (request : PollRequest) (bundle : PolicyBundle) (orchestrator : Orchestrator)
    (id : Uuid) :
    ((orchestrator.updateHeartbeat now agentId).recordPoll agentId request
      bundle).getPolicyHash id =
      if id = agentId ∧ bundle.bundleHash ≠ request.policyBundleHash then
        bundle.bundleHash
      else orchestrator.getPolicyHash id := by
  unfold Orchestrator.recordPoll
  by_cases same : bundle.bundleHash = request.policyBundleHash
  · rw [if_pos same, if_neg (fun both => both.2 same)]
    exact Orchestrator.getPolicyHash_updateHeartbeat now agentId orchestrator id
  · have present : (orchestrator.updateHeartbeat now agentId).agents agentId =
        some (Orchestrator.beaten now (orchestrator.agents agentId)) := by
      rw [Orchestrator.updateHeartbeat_eq, Orchestrator.set_agents_self]
    rw [if_neg same, Orchestrator.getPolicyHash_updatePolicyHash present,
      Orchestrator.getPolicyHash_updateHeartbeat]
    by_cases here : id = agentId
    · rw [if_pos here, if_pos ⟨here, same⟩]
    · rw [if_neg here, if_neg (fun both => here both.1)]

theorem hashed_start (server : Server) : (start server).Hashed :=
  fun _ => (Option.some_ne_none "").symm

theorem hashed_note {agentId : Uuid} {hash : Option String}
    (hashed : state.Hashed) (nonempty : hash ≠ some "") (server : Server) :
    Hashed ⟨server, state.note agentId hash⟩ := by
  intro id
  dsimp only
  by_cases here : id = agentId
  · rw [here, note_self]
    exact nonempty
  · rw [note_of_ne state here]
    exact hashed id

theorem hashed_step (state : PolledState) (label : ServerLabel)
    (hashed : state.Hashed) :
    (state.step service label).Hashed := by
  cases label with
  | edit change => exact hashed
  | heartbeat agentId request now envs => exact hashed
  | check now entries => exact hashed
  | removeAgent agentId =>
      exact hashed_note hashed (Option.some_ne_none "").symm _
  | restart => exact hashed
  | poll agentId request envs =>
      rcases step_poll service state agentId request envs with ⟨db, stepped⟩
      rw [stepped]
      dsimp only
      split
      · next bundle resolved =>
          exact hashed_note hashed
            (fun same => resolution_hash resolved (Option.some.inj same)) _
      · exact hashed_note hashed (Option.some_ne_none "").symm _

/-- Where the entries and the record change for one agent only. -/
theorem agrees_note (agrees : state.Agrees) {agentId : Uuid}
    {hash : Option String} {server : Server}
    (others : forall id, id ≠ agentId ->
      server.2.getPolicyHash id = state.server.2.getPolicyHash id) :
    Agrees ⟨server, state.note agentId hash⟩ <->
      forall noted, hash = some noted ->
        server.2.getPolicyHash agentId = noted := by
  constructor
  · intro recorded noted same
    exact recorded agentId noted ((note_self state agentId hash).trans same)
  · intro own id noted same
    by_cases here : id = agentId
    · subst here
      exact own noted ((note_self state id hash).symm.trans same)
    · rw [others id here]
      exact agrees id noted ((note_of_ne state here hash).symm.trans same)

/-- A step leaves the right hashes on record exactly if it finds them there. -/
theorem agrees_step (state : PolledState) (label : ServerLabel)
    (hashed : state.Hashed) (agrees : state.Agrees) :
    (state.step service label).Agrees <-> state.OnRecord service label := by
  cases label with
  | edit change => exact iff_of_true agrees trivial
  | heartbeat agentId request now envs =>
      refine iff_of_true ?_ trivial
      intro id hash polled
      rw [step, ComplyxAgent.run_heartbeat_orchestrator,
        Orchestrator.getPolicyHash_updateHeartbeat]
      exact agrees id hash polled
  | check now entries =>
      refine iff_of_true ?_ trivial
      intro id hash polled
      exact (Orchestrator.getPolicyHash_runCheck now entries state.server.2
        id).trans (agrees id hash polled)
  | removeAgent agentId =>
      refine iff_of_true ?_ trivial
      refine (agrees_note agrees ?_).mpr fun noted impossible =>
        nomatch impossible
      intro id other
      exact (Orchestrator.getPolicyHash_removeAgent agentId state.server.2
        id).trans (if_neg other)
  | restart =>
      constructor
      · intro recorded id
        cases polled : state.polled id with
        | none => rfl
        | some hash =>
            -- An empty map has no hash but the empty one.
            have empty : "" = hash := recorded id hash polled
            rw [← empty] at polled
            exact absurd polled (hashed id)
      · intro unpolled id hash polled
        exact absurd ((unpolled id).symm.trans polled)
          (fun impossible => nomatch impossible)
  | poll agentId request envs =>
      rcases step_poll service state agentId request envs with ⟨db, stepped⟩
      rw [stepped]
      dsimp only
      split
      · next bundle resolved =>
        rw [agrees_note agrees]
        swap
        · intro id other
          rw [getPolicyHash_recordPoll, if_neg (fun both => other both.1)]
        constructor
        · intro own bundle' resolved' same
          rw [resolved] at resolved'
          cases resolved'
          have recorded := own bundle.bundleHash rfl
          rw [getPolicyHash_recordPoll,
            if_neg (fun both => both.2 same)] at recorded
          exact recorded
        · intro onRecord noted own
          rw [← Option.some.inj own, getPolicyHash_recordPoll]
          by_cases same : bundle.bundleHash = request.policyBundleHash
          · rw [if_neg (fun both => both.2 same)]
            exact onRecord bundle resolved same
          · rw [if_pos ⟨rfl, same⟩]
      · next status resolved =>
        refine iff_of_true ?_ ?_
        · refine (agrees_note agrees ?_).mpr fun noted impossible =>
            nomatch impossible
          intro id other
          exact Orchestrator.getPolicyHash_updateHeartbeat _ _ _ id
        · intro bundle resolved'
          rw [resolved] at resolved'
          cases resolved'

end Step

end PolledState

/-- Along a run the hash of the bundle last resolved for an agent is always on
record exactly if every poll that finds nothing changed finds it there and every
restart finds no answered poll. -/
theorem recorded_hash_iff (service : ComplyxAgent) (server : Server)
    (labels : List ServerLabel) :
    Always (PolledState.step service) PolledState.Agrees
      (PolledState.start server) labels <->
      Meets (PolledState.step service) (PolledState.OnRecord service)
        (PolledState.start server) labels := by
  have agrees : (PolledState.start server).Agrees := by
    intro id hash impossible
    cases impossible
  exact always_iff_meets (fun state label => PolledState.hashed_step state label)
    (fun state label => PolledState.agrees_step state label)
      (PolledState.hashed_start server) agrees labels

/-- The office's bundle. -/
def officeBundle : PolicyBundle := sealed officeDistributor.sha256
    [sshPolicy, auditPolicy]

/-- A server that was just started, and the poll of an agent that has the bundle. -/
def officeServer : Server := (officeDb, Orchestrator.new 300)

def returningPoll : ServerLabel :=
  .poll ⟨9⟩ ⟨"00000000-0000-0000-0000-000000000009", officeBundle.bundleHash⟩
    fun n => ((quietly 0 n, id), 0)

theorem returningPoll_not_recorded :
    ¬ Always (PolledState.step nightService) PolledState.Agrees
      (PolledState.start officeServer) [returningPoll] := by
  intro always
  have resolved : (PolledState.start officeServer).resolution nightService ⟨9⟩
      (fun n => ((quietly 0 n, id), 0)) = .ok officeBundle := rfl
  have kept := (always_cons.mp always).2.first
  have onRecord :=
    (PolledState.agrees_step _ returningPoll
      (PolledState.hashed_start officeServer)
        always.first).mp kept
  have recorded :=
    onRecord officeBundle resolved (Eq.refl officeBundle.bundleHash)
  -- The map of the server has no entry.
  exact sealed_hash_ne_empty _ _ recorded.symm

end Complyx
