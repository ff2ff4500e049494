import Complyx.Grpc.Confinement
import Complyx.Grpc.Mediation
import Complyx.Transition.Log

namespace Complyx

open Relational Transition

/-!
# Whoever changed it

Requests of any agents run at once.  Between them they change nothing of what
decides who may do what: no certificate, no token, no assignment, and of an agent
only when it was last connected.  And if anything an agent owns has changed by the
end of a run, some request was admitted as this agent in its turns on the way.
-/

/-- The agent but for its last connection. -/
def AgentRow.unconnected (row : AgentRow) : AgentRow :=
  { row with latestConnection := 0 }

/-- Nothing changes but results, scores, risks and the last connections of
agents. -/
structure Unprivileged (db db' : Db) : Prop where
  frame : db' = { db with
    agents := db'.agents, risks := db'.risks, checkResults := db'.checkResults
    complianceScores := db'.complianceScores }
  agents :
    db'.agents.rows.map AgentRow.unconnected =
      db.agents.rows.map AgentRow.unconnected

theorem Unprivileged.rfl {db : Db} : Unprivileged db db := ⟨Eq.refl _, Eq.refl _⟩

theorem Unprivileged.trans {first second third : Db}
    (early : Unprivileged first second) (late : Unprivileged second third) :
    Unprivileged first third where
  frame := by
    rw [late.frame, early.frame]
  agents := late.agents.trans early.agents

theorem Unprivileged.symm {db db' : Db} (kept : Unprivileged db db') :
    Unprivileged db' db where
  frame := by
    rw [kept.frame]
  agents := kept.agents.symm

/-- An operation of some request. -/
def RequestOp (op : Stmt ⊕ OrchestratorOp) : Prop :=
  InterceptorRead op ∨ Exists fun memory => ServesOwn memory op

theorem request_issues (service : ComplyxAgent) (library : CertLibrary)
    (peerCerts : Option (List Der)) (call : AgentCall) :
    (service.request library peerCerts call).Issues RequestOp := by
  cases peer : peerCertificate library peerCerts with
  | error status =>
      rw [ComplyxAgent.request, authInterceptor, peer]
      trivial
  | ok named =>
      refine (Program.issues_of_earns
        (request_earns library named.1 service call peer)).mono ?_
      rintro op ⟨admission, rfl | ⟨rfl, _⟩ | ⟨memory, _, own⟩⟩
      · exact Or.inl (InterceptorRead.isRevoked _)
      · exact Or.inl (InterceptorRead.getAgentByHostname _)
      · exact Or.inr ⟨memory, own⟩

/-! ## One operation -/

section Operation

variable {op : Stmt ⊕ OrchestratorOp}

/-- The interceptor only reads. -/
theorem InterceptorRead.same (read : InterceptorRead op) (env : Env × Instant)
    (server : Server) :
    (Program.perform execServer env op server).2 = server := by
  have reads : forall stmt, op = .inl stmt ->
    (forall value db, stmt.effect env.1 server.1 = .ok (value, db) ->
      db = server.1) ->
      (Program.perform execServer env op server).2 = server := by
    rintro stmt rfl same
    rw [Program.perform_inl]
    rcases perform_cases env.1 stmt server.1 with
      ⟨failure, performed⟩ | ⟨value, db, _, effect, performed⟩
    · rw [performed]
    · rw [performed, same value db effect]
  cases read with
  | isRevoked serial =>
      exact reads _ rfl fun _ _ effect => (reading_same effect).1
  | getAgentByHostname hostname =>
      exact reads _ rfl fun _ _ effect => (reading_same effect).1

theorem updateLatestConnection_unprivileged (env : Env)
    (agentId : Uuid) (db : Db) :
    Unprivileged db (updateLatestConnection env agentId db) := by
  refine ⟨rfl, ?_⟩
  rw [updateLatestConnection, Table.map_rows, List.map_map]
  apply List.map_congr_left
  intro row _
  rw [Function.comp_apply]
  split <;> rfl

/-- Statements that write neither agents nor what decides about them. -/
theorem Frame.unprivileged {stmt : Stmt} {db db' : Db} (frame : Frame stmt db db')
    (tokens : stmt.writesEnrollTokens = false)
    (agents : stmt.writesAgents = false) (certs : stmt.writesAgentCerts = false)
    (assignments : stmt.writesAssignments = false) : Unprivileged db db' := by
  have sameAgents := frame.agents agents
  refine ⟨?_,
    congrArg (fun table : Table AgentRow AgentRow.Clash =>
      table.rows.map AgentRow.unconnected) sameAgents⟩
  have same :=
    And.intro frame.collate
      (And.intro frame.threats
        (And.intro frame.policies (And.intro frame.policyElements
            (And.intro frame.policyChecks
              (And.intro frame.policyRemediations
                (And.intro frame.checkRegulationSections
              (And.intro frame.groupPolicies
                (And.intro (frame.enrollTokens tokens)
                  (And.intro (frame.agentCerts certs)
                (And.intro (frame.agentPolicies assignments)
                  (frame.agentGroupMembership assignments)))))))))))
  cases db
  cases db'
  simp only [Db.mk.injEq] at same ⊢
  simp only [same, and_self]

theorem OwnCall.unprivileged {memory : Memory} {stmt : Stmt}
    (call : OwnCall memory stmt) (env : Env) (db : Db) :
    Unprivileged db (Program.perform exec env stmt db).2 := by
  have frame := perform_frame env stmt db
  cases call with
  | connection =>
      rcases perform_total
          (show (Stmt.updateLatestConnection memory.agentId).effect env db =
            .ok ((), _) from rfl) with
        same | noted
      · rw [same]
        exact Unprivileged.rfl
      · rw [noted]
        exact updateLatestConnection_unprivileged env memory.agentId db
  | read stmt reads =>
      rw [reads.same env db]
      exact Unprivileged.rfl
  | _ => exact frame.unprivileged rfl rfl rfl rfl

theorem RequestOp.unprivileged (issued : RequestOp op) (env : Env × Instant)
    (server : Server) :
    Unprivileged server.1 (Program.perform execServer env op server).2.1 := by
  rcases issued with read | ⟨memory, own⟩
  · rw [read.same]
    exact Unprivileged.rfl
  · cases op with
    | inl stmt =>
        rw [Program.perform_inl]
        exact OwnCall.unprivileged own env.1 server.1
    | inr op =>
        rw [Program.perform_inr]
        exact Unprivileged.rfl

theorem RequestOp.ids_kept (issued : RequestOp op) (env : Env × Instant)
    (server : Server) :
    IdsKept server.1 (Program.perform execServer env op server).2.1 := by
  rcases issued with read | ⟨memory, own⟩
  · rw [read.same]
    exact IdsKept.of_same rfl rfl
  · cases op with
    | inl stmt =>
        rw [Program.perform_inl]
        exact OwnCall.ids_kept own env.1 server.1
    | inr op =>
        rw [Program.perform_inr]
        exact IdsKept.of_same rfl rfl

end Operation

/-! ## Runs -/

theorem IdsKept.trans {first second third : Db} (early : IdsKept first second)
    (late : IdsKept second third) : IdsKept first third where
  risks := by
    intro row member
    rcases early.risks row member with ⟨middle, present, sameId, sameAgent⟩
    rcases late.risks middle present with ⟨later, member', sameId', sameAgent'⟩
    exact ⟨later, member', sameId'.trans sameId, sameAgent'.trans sameAgent⟩
  checkResults :=
    fun row member => late.checkResults row (early.checkResults row member)

/-- Nothing the agent owns differs. -/
structure OwnSame (agentId : Uuid) (server server' : Server) : Prop where
  rows : SameRows agentId server'.1 server.1
  entry : server'.2.agents agentId = server.2.agents agentId

theorem OwnSame.rfl {agentId : Uuid} {server : Server} :
    OwnSame agentId server server := ⟨SameRows.rfl, Eq.refl _⟩

theorem OwnSame.trans {agentId : Uuid} {first second third : Server}
    (early : OwnSame agentId first second) (late : OwnSame agentId second third) :
    OwnSame agentId first third where
  rows := {
    frame := by
      rw [late.rows.frame, early.rows.frame]
    agents := late.rows.agents.trans early.rows.agents
    risks := late.rows.risks.trans early.rows.risks
    checkResults := late.rows.checkResults.trans early.rows.checkResults
    complianceScores :=
      late.rows.complianceScores.trans early.rows.complianceScores }
  entry := late.entry.trans early.entry

/-- What leaves everything of others alone leaves the agent's alone. -/
theorem Confined.own {agentId other : Uuid} {server server' : Server}
    (confined : Confined other server server') (apart : other ≠ agentId) :
    OwnSame agentId server server' where
  rows := {
    frame := confined.rows.frame
    agents := filter_own_of_others apart confined.rows.agents
    risks := filter_own_of_others apart confined.rows.risks
    checkResults := filter_own_of_others apart confined.rows.checkResults
    complianceScores :=
      filter_own_of_others apart confined.rows.complianceScores }
  entry := confined.entries agentId (Ne.symm apart)

/-- An operation on behalf of an agent that knows its risks. -/
theorem ServesOwn.confined {memory : Memory} {op : Stmt ⊕ OrchestratorOp}
    (own : ServesOwn memory op) (env : Env × Instant) {server : Server}
    (knows : memory.Knows server.1) :
    Confined memory.agentId server
      (Program.perform execServer env op server).2 := by
  cases op with
  | inl stmt =>
      rw [Program.perform_inl]
      exact ⟨OwnCall.others own env.1 knows, fun _ _ => rfl, rfl⟩
  | inr op =>
      have same : op.agentId = memory.agentId := own
      rw [← same]
      exact perform_confined env op server

section Runs

variable {service : ComplyxAgent} {library : CertLibrary}
  {calls : List (Option (List Der) × AgentCall)}
  {server : Server}

theorem arriving_issues :
    (service.arriving library calls server).Issues RequestOp := by
  intro program member
  rcases List.mem_map.mp member with ⟨call, _, rfl⟩
  exact request_issues service library call.1 call.2

/-- What the operations of requests keep of the database. -/
structure RequestsKeep (first second : Server) : Prop where
  unprivileged : Unprivileged first.1 second.1
  ids : IdsKept first.1 second.1

theorem requests_keep {pool : ServerPool} (issues : pool.Issues RequestOp)
    (labels : List (Nat × (Env × Instant))) :
    RequestsKeep pool.store (after (Pool.step execServer) pool labels).store := by
  have reflexive : forall server, RequestsKeep server server :=
    fun _ => ⟨Unprivileged.rfl, IdsKept.of_same rfl rfl⟩
  have transitive : forall first second third, RequestsKeep first second ->
    RequestsKeep second third ->
      RequestsKeep first third :=
    fun _ _ _ early late =>
      ⟨early.unprivileged.trans late.unprivileged, early.ids.trans late.ids⟩
  have kept : forall (env : Env × Instant) op server, RequestOp op ->
      RequestsKeep server (Program.perform execServer env op server).2 :=
    fun env _ server issued =>
      ⟨issued.unprivileged env server, issued.ids_kept env server⟩
  exact Pool.run_related reflexive transitive kept issues labels

/-- A risk that was found in the run is there still. -/
theorem knows_of_found {labels : List (Nat × (Env × Instant))} {index : Nat}
    {memory : Memory}
    (found :
      FoundIn ((service.arriving library calls server).turns execServer labels)
        index memory) :
    memory.Knows
      (after (Pool.step execServer) (service.arriving library calls server)
        labels).store.1 := by
  intro riskId last
  rcases found riskId last with ⟨turn, taken, _, row, member, sameId, own, _⟩
  rcases Pool.mem_turns taken with ⟨before, ⟨rest, split⟩, same⟩
  have issues :
      (after (Pool.step execServer) (service.arriving library calls server)
        before).Issues RequestOp :=
    Pool.issues_after arriving_issues before
  have kept := (requests_keep issues rest).ids
  rw [← after_append, split, ← same] at kept
  rcases kept.risks row member with ⟨later, present, sameId', sameAgent⟩
  exact ⟨later, present, sameId'.trans sameId, sameAgent.trans own⟩

/-- The turn of a label belongs to a request that is there. -/
theorem arriving_inside {labels : List (Nat × (Env × Instant))} {index : Nat}
    {program : ServerCode (Fault Status) AgentReply}
    (turn :
      (after (Pool.step execServer) (service.arriving library calls server)
        labels).threads[index]? =
        some program) : index < calls.length := by
  have present := (List.getElem?_eq_some_iff.mp turn).1
  rw [Pool.after_length] at present
  exact List.length_map _ ▸ present

/-- As long as no request is admitted as the agent, nothing it owns changes. -/
theorem own_same_run (agentId : Uuid) (labels : List (Nat × (Env × Instant)))
    (nobody : forall index call, calls[index]? = some call ->
      ¬ AdmittedIn
        ((service.arriving library calls server).turns execServer labels) library
        call.1 index agentId) :
    OwnSame agentId server
      (after (Pool.step execServer) (service.arriving library calls server)
        labels).store := by
  induction labels using List.reverseRecOn with
  | nil => exact OwnSame.rfl
  | append_singleton before label ih =>
      have grows := (@Pool.turns_prefix _ _ _ _ _ _ _ execServer
        (service.arriving library calls server) _ _
          (List.prefix_append before [label])).sublist
      have same := ih fun index call called admitted =>
        nobody index call called (admitted.mono grows)
      rw [after_append]
      refine same.trans ?_
      rcases Pool.step_cases execServer
        (after (Pool.step execServer) (service.arriving library calls server)
          before) label
        with ⟨_, idle⟩ | ⟨op, next, turn, stepped⟩
      · rw [after_cons, after_nil, idle]
        exact OwnSame.rfl
      · rw [after_cons, after_nil, stepped]
        have inside := arriving_inside turn
        have arrived :=
          @ComplyxAgent.arriving_get service library calls server label.1 inside
        rcases (credited_run service _ arrived before).turn turn with read | ⟨other, ⟨memory, rfl, own, found⟩, admission⟩
        · rw [read.same]
          exact OwnSame.rfl
        · have apart : memory.agentId ≠ agentId := by
            rintro rfl
            exact nobody label.1 _ (List.getElem?_eq_getElem inside)
              (admission.mono grows)
          exact (own.confined label.2 (knows_of_found found)).own apart

end Runs

/-- In every run of requests nothing that decides about rights changes, and
nothing of an agent unless some request was admitted as this agent in its own
turns. -/
theorem changes_attributed (service : ComplyxAgent) (library : CertLibrary)
    (calls : List (Option (List Der) × AgentCall)) (server : Server)
    (labels : List (Nat × (Env × Instant))) :
    let pool := service.arriving library calls server
    let last := (after (Pool.step execServer) pool labels).store
    let turns := pool.turns execServer labels
    Unprivileged server.1 last.1 ∧ forall agentId, OwnSame agentId server last ∨
      Exists fun index => Exists fun call => calls[index]? = some call ∧
        AdmittedIn turns library call.1 index agentId := by
  intro pool last turns
  refine ⟨(requests_keep arriving_issues labels).unprivileged, ?_⟩
  intro agentId
  by_cases somebody : Exists fun index => Exists fun call =>
    calls[index]? = some call ∧
      AdmittedIn turns library call.1 index agentId
  · exact Or.inr somebody
  · left
    apply own_same_run agentId labels
    intro index call called admitted
    exact somebody ⟨index, call, called, admitted⟩

end Complyx
