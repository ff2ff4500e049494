import Complyx.Distribution.Resolver
import Complyx.Grpc.Interceptor

namespace Complyx

open Transition

/-!
# Polling for policies

A poll brings the hash of the bundle the agent has.  The service notes the
connection, whether or not that succeeds, resolves the policies and answers with
the bundle or, where its hash is the one the agent has, with nothing.
-/

structure PollRequest where
  agentId : String
  policyBundleHash : String
  deriving DecidableEq

structure PollResponse where
  policiesChanged : Bool
  bundle : Option PolicyBundle
  deriving DecidableEq

structure AgentServiceImpl where
  distributor : PolicyDistributor

/-- `extract_agent_id`. -/
def extractAgentId (extension : Option AgentId) : Except Status Uuid :=
  match extension with
  | some agentId => .ok agentId.id
  | none => .error (.internal "error de autenticación interno")

/-- What a poll does before it compares the hashes. -/
def AgentServiceImpl.resolvePolicies (service : AgentServiceImpl)
    (agentId : Uuid) : Code Status PolicyBundle :=
  -- A connection that could not be noted is only logged.
  .call (.updateLatestConnection agentId) fun _ =>
    (service.distributor.resolveForAgent agentId).mapError fun _ =>
      .internal "error resolviendo políticas"

/-- The answer to a poll, given the bundle it resolved. -/
def pollAnswer (request : PollRequest) (bundle : PolicyBundle) : PollResponse :=
  if bundle.bundleHash = request.policyBundleHash then
    { policiesChanged := false, bundle := none }
  else { policiesChanged := true, bundle := some bundle }

/-- `poll_policies`. -/
def AgentServiceImpl.pollPolicies (service : AgentServiceImpl)
    (extension : Option AgentId) (request : PollRequest) :
    Code Status PollResponse := do
  let agentId <- Program.lift (extractAgentId extension)
  let bundle <- service.resolvePolicies agentId
  return pollAnswer request bundle

section Run

variable {Env σ : Type}
  {exec : Env -> (stmt : Stmt) -> σ -> Except DbError (stmt.Res × σ)}
  (service : AgentServiceImpl)

theorem run_resolvePolicies (agentId : Uuid) (envs : Nat -> Env) (store : σ) :
    Program.run exec (service.resolvePolicies agentId) envs store =
      let noted :=
        (Program.perform exec (envs 0) (.updateLatestConnection agentId) store).2
      let resolved :=
        Program.run exec (service.distributor.resolveForAgent agentId)
          (fun n => envs (n + 1)) noted
      (resolved.1.mapError fun _ => .internal "error resolviendo políticas",
        resolved.2) := by
  rw [AgentServiceImpl.resolvePolicies, Program.run_call, Program.run_mapError]

/-- A poll answers with what it resolved. -/
theorem run_pollPolicies (agentId : AgentId) (request : PollRequest)
    (envs : Nat -> Env) (store : σ) :
    Program.run exec (service.pollPolicies (some agentId) request) envs store =
      let resolved :=
        Program.run exec (service.resolvePolicies agentId.id) envs store
      (resolved.1.map (pollAnswer request), resolved.2) := by
  rw [AgentServiceImpl.pollPolicies, extractAgentId, Program.lift_ok,
    Program.done_bind, Program.run_bind]
  cases Program.run exec (service.resolvePolicies agentId.id) envs store with
  | mk answer left =>
      cases answer with
      | ok bundle => rfl
      | error status => rfl

end Run

end Complyx
