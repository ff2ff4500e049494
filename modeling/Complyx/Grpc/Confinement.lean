import Complyx.Grpc.AgentRpc
import Complyx.Ingest.OwnRows

namespace Complyx

open Transition

/-!
# What an agent cannot reach

The identity an agent acts under is that of its certificate.  Whatever it puts
into a request, the call changes no row and no entry of another agent, however
it ends.
-/

/-- Nothing changes but the rows and the entry of the agent. -/
structure Confined (agentId : Uuid) (server server' : Server) : Prop where
  rows : OthersKept agentId server.1 server'.1
  entries : forall id, id ≠ agentId -> server'.2.agents id = server.2.agents id
  offlineTimeout : server'.2.offlineTimeout = server.2.offlineTimeout

theorem Confined.rfl {agentId : Uuid} {server : Server} :
    Confined agentId server server :=
  ⟨OthersKept.rfl, fun _ _ => Eq.refl _, Eq.refl _⟩

theorem Confined.trans {agentId : Uuid} {first second third : Server}
    (early : Confined agentId first second)
    (late : Confined agentId second third) : Confined agentId first third where
  rows := early.rows.trans late.rows
  entries :=
    fun id other => (late.entries id other).trans (early.entries id other)
  offlineTimeout := late.offlineTimeout.trans early.offlineTimeout

instance (agentId : Uuid) : Std.Refl (Confined agentId) := ⟨fun _ => Confined.rfl⟩

instance (agentId : Uuid) : IsTrans Server (Confined agentId) :=
      ⟨fun _ _ _ => Confined.trans⟩

section Parts

variable {agentId : Uuid}

/-- Code that keeps the rows of others and does not use the map. -/
theorem keeps_confined_beside {ε α : Type} {code : Code ε α}
    (kept : code.Keeps exec (OthersKept agentId)) :
    (code.beside : ServerCode ε α).Keeps execServer (Confined agentId) := by
  refine Program.Keeps.mono (Program.keeps_beside kept) ?_
  rintro server server' ⟨rows, sameMap⟩
  refine ⟨rows, ?_, ?_⟩
  · intro id _
    rw [sameMap]
  · rw [sameMap]

/-- An operation on the agent's entry. -/
theorem perform_confined (env : Env × Instant) (op : OrchestratorOp)
    (server : Server) :
    Confined op.agentId server
      (Program.perform execServer env (.inr op) server).2 := by
  rcases op.apply_eq env.2 server.2 with ⟨entry, applied⟩
  have performed : Program.perform OrchestratorOp.exec env.2 op server.2 =
      ((.ok () : Except DbError op.Res), server.2.set op.agentId entry) := by
    rw [← applied]
    exact Program.perform_ok rfl
  rw [Program.perform_inr, performed]
  exact ⟨OthersKept.rfl, fun id other =>
    Orchestrator.set_agents_of_ne _ other _, rfl⟩

theorem perform_updateLatestConnection_others (env : Env) (db : Db) :
    OthersKept agentId db
      (Program.perform exec env (.updateLatestConnection agentId) db).2 := by
  refine perform_keeps ?_ env db
  intro env db value db' noted
  cases noted
  exact updateLatestConnection_others env agentId db

theorem resolvePolicies_others (service : AgentServiceImpl) (agentId : Uuid) :
    (service.resolvePolicies agentId).Keeps exec (OthersKept agentId) := by
  refine Program.keeps_call
    (fun env db => perform_updateLatestConnection_others env db) fun answer => ?_
  apply Program.keeps_mapError
  refine Program.keeps_of_issues ?_
    (resolveForAgent_issues service.distributor agentId)
  intro env stmt db read
  rw [read.same env db]
  exact OthersKept.rfl

theorem pollPolicies_confined (service : ComplyxAgent) (agentId : AgentId)
    (request : PollRequest) :
    (service.pollPolicies (some agentId) request).Keeps execServer
      (Confined agentId.id) := by
  have met :=
    fun env server => perform_confined env (.updateHeartbeat agentId.id) server
  refine Program.keeps_call met fun answer => ?_
  refine Program.keeps_bind
    (keeps_confined_beside (resolvePolicies_others _ agentId.id)) fun bundle => ?_
  split
  · exact Program.keeps_done _
  · have noted := fun env server =>
      perform_confined env (.updatePolicyHash agentId.id bundle.bundleHash) server
    exact Program.keeps_call noted fun answer => Program.keeps_done _

theorem submitResults_others (service : ComplyxAgent) (agentId : AgentId)
    (request : SubmitResultsRequest) (now : DateTime) :
    (service.submitResults (some agentId) request now).Keeps exec
      (OthersKept agentId.id) := by
  rw [ComplyxAgent.submitResults, extractAgentId, Except.mapError,
    Program.lift_ok, Program.done_bind]
  refine Program.keeps_bind (Program.keeps_lift _) fun matching => ?_
  refine Program.keeps_bind ?_ fun summary => Program.keeps_done _
  exact Program.keeps_mapError _
    (ingest_others service.ingester (request.call agentId.id now))

theorem heartbeat_confined (agentId : AgentId) (request : HeartbeatRequest)
    (now : DateTime) :
    (ComplyxAgent.heartbeat (some agentId) request now).Keeps execServer
      (Confined agentId.id) := by
  have met :=
    fun env server => perform_confined env (.updateHeartbeat agentId.id) server
  refine Program.keeps_call met fun answer => ?_
  refine Program.keeps_call (fun env server => ?_) fun answer =>
    Program.keeps_done _
  rw [Program.perform_inl]
  exact ⟨perform_updateLatestConnection_others env.1 server.1,
    fun _ _ => rfl, rfl⟩

end Parts

/-- Every call of an agent, whatever the request says, changes only rows and the
entry of this agent. -/
theorem serve_confined (service : ComplyxAgent) (agentId : AgentId)
    (call : AgentCall) (envs : Nat -> Env × Instant) (server : Server) :
    Confined agentId.id server
      (Program.run execServer (service.serve (some agentId) call) envs
        server).2 := by
  have kept :
      (service.serve (some agentId) call).Keeps execServer
        (Confined agentId.id) := by
    cases call with
    | pollPolicies request =>
        refine Program.keeps_bind ?_ fun response => Program.keeps_done _
        exact Program.keeps_mapError _
          (pollPolicies_confined service agentId request)
    | submitResults request now =>
        refine Program.keeps_bind ?_ fun response => Program.keeps_done _
        exact keeps_confined_beside
          (submitResults_others service agentId request now)
    | heartbeat request now =>
        refine Program.keeps_bind ?_ fun response => Program.keeps_done _
        exact Program.keeps_mapError _ (heartbeat_confined agentId request now)
  exact kept envs server

end Complyx
