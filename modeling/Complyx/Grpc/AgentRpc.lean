import Complyx.Grpc.SubmitResults
import Complyx.Orchestrator.State
import Complyx.Transition.Beside

namespace Complyx

open Transition

/-!
# The calls of an agent

The agent service answers three calls, with the database on one side and the
agents in memory on the other.  Every poll and every heartbeat notes the contact
in both.  The hash of a bundle is noted only where the bundle is sent.
-/

/-- The database and the agents in memory. -/
abbrev Server := Db × Orchestrator

/-- Code that uses both. -/
abbrev ServerCode (ε α : Type)
    := Program (Sum.elim Stmt.Res OrchestratorOp.Res) DbError ε α

abbrev execServer (env : Env × Instant) (op : Stmt ⊕ OrchestratorOp)
    (server : Server) :
    Except DbError (Sum.elim Stmt.Res OrchestratorOp.Res op × Server) :=
  Program.execBoth exec OrchestratorOp.exec env op server

structure HeartbeatRequest where
  agentId : String
  timestamp : Int

structure HeartbeatResponse where
  serverTimestamp : Int
  deriving DecidableEq

/-- `poll_policies`. -/
def ComplyxAgent.pollPolicies (service : ComplyxAgent)
    (extension : Option AgentId) (request : PollRequest) :
    ServerCode Status PollResponse := do
  let agentId <- Program.lift (extractAgentId extension)
  .call (.inr (.updateHeartbeat agentId)) fun _ => do
    let bundle <- (service.resolvePolicies agentId).beside
    if bundle.bundleHash = request.policyBundleHash then
      return { policiesChanged := false, bundle := none }
    else
      .call (.inr (.updatePolicyHash agentId bundle.bundleHash)) fun _ =>
        return { policiesChanged := true, bundle := some bundle }

/-- `heartbeat`.  The request is not looked at. -/
def ComplyxAgent.heartbeat (extension : Option AgentId) (_ : HeartbeatRequest)
    (now : DateTime) :
    ServerCode Status HeartbeatResponse := do
  let agentId <- Program.lift (extractAgentId extension)
  .call (.inr (.updateHeartbeat agentId)) fun _ =>
    -- A connection that could not be noted is only logged.
    .call (.inl (.updateLatestConnection agentId)) fun _ =>
      return { serverTimestamp := now.secs }

/-- A call, with the reading of the clock where the call takes one. -/
inductive AgentCall where
  | pollPolicies (request : PollRequest)
  | submitResults (request : SubmitResultsRequest) (now : DateTime)
  | heartbeat (request : HeartbeatRequest) (now : DateTime)

inductive AgentReply where
  | pollPolicies (response : PollResponse)
  | submitResults (response : SubmitResultsResponse)
  | heartbeat (response : HeartbeatResponse)

/-- The service, whichever of its calls it is. -/
def ComplyxAgent.serve (service : ComplyxAgent) (extension : Option AgentId) :
    AgentCall -> ServerCode (Fault Status) AgentReply
  | .pollPolicies request =>
      AgentReply.pollPolicies <$>
        (service.pollPolicies extension request).mapError Fault.error
  | .submitResults request now =>
      AgentReply.submitResults <$>
        (service.submitResults extension request now).beside
  | .heartbeat request now =>
      AgentReply.heartbeat <$>
        (heartbeat extension request now).mapError Fault.error

/-! ## What a poll does -/

/-- What becomes of the map once the bundle of a poll is resolved. -/
def Orchestrator.recordPoll (agentId : Uuid) (request : PollRequest)
    (bundle : PolicyBundle) (orchestrator : Orchestrator) : Orchestrator :=
  if bundle.bundleHash = request.policyBundleHash then orchestrator
  else orchestrator.updatePolicyHash agentId bundle.bundleHash

section Run

-- The database may be executed in another way, for instance with edits between
-- the statements.
variable {ρ σ : Type}
  {execDb : ρ -> (stmt : Stmt) -> σ -> Except DbError (stmt.Res × σ)}

/-- A poll notes the contact, resolves the policies, and notes the hash if it
sends the bundle. -/
theorem ComplyxAgent.run_pollPolicies (service : ComplyxAgent) (agentId : AgentId)
    (request : PollRequest) (envs : Nat -> ρ × Instant)
    (server : σ × Orchestrator) :
    Program.run (Program.execBoth execDb OrchestratorOp.exec)
      (service.pollPolicies (some agentId) request)
      envs server =
      let resolved :=
        Program.run execDb (service.resolvePolicies agentId.id)
          (fun n => (envs (n + 1)).1) server.1
      let met := server.2.updateHeartbeat (envs 0).2 agentId.id
      match resolved.1 with
      | .ok bundle =>
          (.ok (pollAnswer request bundle), resolved.2,
            met.recordPoll agentId.id request bundle)
      | .error status => (.error status, resolved.2, met) := by
  rw [pollPolicies, extractAgentId, Program.lift_ok, Program.done_bind,
    Program.run_call, Program.perform_inr, Program.run_bind, Program.run_beside]
  dsimp only
  cases (Program.run execDb (service.resolvePolicies agentId.id)
      (fun n => (envs (n + 1)).1) server.1).1 with
  | error status => rfl
  | ok bundle =>
      dsimp only
      unfold pollAnswer Orchestrator.recordPoll
      split
      · rfl
      · rw [Program.run_call, Program.perform_inr]
        rfl

/-- The answer and the database are those of the service without the map. -/
theorem ComplyxAgent.run_pollPolicies_database (service : ComplyxAgent)
    (agentId : AgentId) (request : PollRequest) (envs : Nat -> ρ × Instant)
    (server : σ × Orchestrator) :
    let polled := Program.run (Program.execBoth execDb OrchestratorOp.exec)
      (service.pollPolicies (some agentId) request) envs server
    (polled.1, polled.2.1) =
      Program.run execDb
      (service.toAgentServiceImpl.pollPolicies (some agentId) request)
      (fun n => (envs (n + 1)).1) server.1 := by
  rw [ComplyxAgent.run_pollPolicies, Complyx.run_pollPolicies]
  dsimp only
  cases (Program.run execDb (service.resolvePolicies agentId.id)
    (fun n => (envs (n + 1)).1) server.1).1 <;> rfl

/-- A heartbeat notes the contact and nothing else in the map. -/
theorem ComplyxAgent.run_heartbeat_orchestrator (agentId : AgentId)
    (request : HeartbeatRequest) (now : DateTime) (envs : Nat -> ρ × Instant)
    (server : σ × Orchestrator) :
    (Program.run (Program.execBoth execDb OrchestratorOp.exec)
      (heartbeat (some agentId) request now) envs server).2.2 =
      server.2.updateHeartbeat (envs 0).2 agentId.id := by
  rw [heartbeat, extractAgentId, Program.lift_ok, Program.done_bind,
    Program.run_call, Program.perform_inr, Program.run_call, Program.perform_inl]
  rfl

end Run

end Complyx
