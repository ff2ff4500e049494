import Complyx.Grpc.Progress
import Complyx.Transition.Undisturbed

namespace Complyx

open Relational Transition

/-!
# Polls that others do not disturb

A poll and a heartbeat use of the database what no request changes: certificates,
assignments, policies, and of an agent its identifier and whether it is enabled.  So
they end beside any other requests, also those of the same agent, as they end when
nobody else has a turn.
-/

/-- Anything but a submission. -/
def AgentCall.isRead : AgentCall -> Bool
  | .submitResults _ _ => false
  | _ => true

/-- An operation of a request that submits nothing. -/
def ReadOp (op : Stmt ⊕ OrchestratorOp) : Prop :=
  InterceptorRead op ∨ ServiceRead op

/-- The same answer, up to the last connection of the agent that was looked up. -/
def SimilarStmt : (stmt : Stmt) -> Except DbError stmt.Res ->
      Except DbError stmt.Res -> Prop
  | .getAgentByHostname _, .ok row, .ok other =>
      row.map AgentRow.unconnected = other.map AgentRow.unconnected
  | _, answer, other => answer = other

def SimilarAnswer : (op : Stmt ⊕ OrchestratorOp) -> Except DbError
    (Sum.elim Stmt.Res OrchestratorOp.Res op) ->
    Except DbError (Sum.elim Stmt.Res OrchestratorOp.Res op) -> Prop
  | .inl stmt, answer, other => SimilarStmt stmt answer other
  | .inr _, answer, other => answer = other

theorem SimilarAnswer.rfl {op : Stmt ⊕ OrchestratorOp}
    {answer : Except DbError (Sum.elim Stmt.Res OrchestratorOp.Res op)} :
    SimilarAnswer op answer answer := by
  cases op with
  | inr op => exact Eq.refl _
  | inl stmt => cases stmt <;> cases answer <;> exact Eq.refl _

/-! ## What a request makes of an answer -/

theorem ServiceRead.whole {op : Stmt ⊕ OrchestratorOp} (read : ServiceRead op)
    {answer other : Except DbError (Sum.elim Stmt.Res OrchestratorOp.Res op)}
    (similar : SimilarAnswer op answer other) :
    answer = other := by
  cases read with
  | policies stmt read => cases read <;> exact similar
  | connection agentId => exact similar
  | noted op => exact similar

/-- A row admits its agent whenever the agent was last connected. -/
theorem admitAgent_unconnected {row other : Option AgentRow}
    (same : row.map AgentRow.unconnected = other.map AgentRow.unconnected) :
    admitAgent row = admitAgent other := by
  have seen : forall row : Option AgentRow,
      admitAgent row = admitAgent (row.map AgentRow.unconnected) := by
    intro row
    cases row <;> rfl
  rw [seen row, seen other, same]

theorem authInterceptor_heedless (library : CertLibrary)
    (peerCerts : Option (List Der)) :
    (authInterceptor library peerCerts).Heedless SimilarStmt := by
  refine Program.heedless_bind (Program.heedless_lift _) fun peer => ?_
  dsimp only
  have asked : (isCertRevoked peer.2.serialText).Heedless SimilarStmt :=
    Program.heedless_of_issues
      (fun _ _ _ asked similar => by cases asked; exact similar)
      (Program.issues_attempt _ (Eq.refl (Stmt.isRevoked peer.2.serialText)))
  refine Program.heedless_bind (Program.heedless_mapError _ asked)
    fun isRevoked => ?_
  split
  · trivial
  · intro answer other similar
    cases answer with
    | error failure =>
        cases other with
        | error failure' =>
            cases similar
            exact ⟨rfl, trivial⟩
        | ok row => cases similar
    | ok row =>
        cases other with
        | error failure => cases similar
        | ok row' =>
            exact ⟨congrArg Program.lift (admitAgent_unconnected similar),
              Program.heedless_lift _⟩

theorem serve_issues_reads (service : ComplyxAgent) (agentId : AgentId)
    {call : AgentCall} (reads : call.isRead = true) :
    (service.serve (some agentId) call).Issues ServiceRead := by
  cases call with
  | pollPolicies request =>
      have issues := pollPolicies_issues service agentId request
      exact Program.issues_bind (Program.issues_mapError _ issues)
        fun _ => trivial
  | submitResults request now => cases reads
  | heartbeat request now =>
      have issues := heartbeat_issues agentId request now
      exact Program.issues_bind (Program.issues_mapError _ issues)
        fun _ => trivial

section Request

variable (service : ComplyxAgent) (library : CertLibrary)
  (peerCerts : Option (List Der)) {call : AgentCall}

theorem request_issues_reads (reads : call.isRead = true) :
    (service.request library peerCerts call).Issues ReadOp := by
  have asking :=
    Program.issues_mapError (Fault.error : Status -> Fault Status)
      (authInterceptor_issues library peerCerts)
  refine Program.issues_bind (Program.issues_beside (asking.mono fun _ => Or.inl))
    fun agentId => ?_
  exact (serve_issues_reads service agentId reads).mono fun _ => Or.inr

theorem request_heedless (reads : call.isRead = true) :
    (service.request library peerCerts call).Heedless SimilarAnswer := by
  have asking :=
    Program.heedless_mapError (Fault.error : Status -> Fault Status)
      (authInterceptor_heedless library peerCerts)
  refine Program.heedless_bind (Program.heedless_beside asking) fun agentId => ?_
  exact Program.heedless_of_issues (fun _ _ _ read => read.whole)
    (serve_issues_reads service agentId reads)

end Request

/-! ## What the others leave as it is -/

section Alike

variable {whole alone : Db}

theorem limitOne_map {ρ τ : Type} (view : ρ -> τ) (pick : Nat) (rows : List ρ) :
    (limitOne pick rows).map view = limitOne pick (rows.map view) := by
  rw [limitOne, limitOne, List.length_map, List.getElem?_map]

/-- The agents of a name are the same but for their last connections. -/
theorem getAgentByHostname_similar (alike : Unprivileged whole alone) (env : Env)
    (hostname : String) :
    SimilarStmt (.getAgentByHostname hostname)
      (getAgentByHostname env hostname whole)
      (getAgentByHostname env hostname alone) := by
  have named :
      forall db : Db,
        (db.agents.rows.filter fun row => row.hostname = some hostname).map
        AgentRow.unconnected =
      (db.agents.rows.map AgentRow.unconnected).filter fun row =>
        row.hostname = some hostname := by
    intro db
    rw [List.filter_map]
    rfl
  unfold getAgentByHostname
  cases accepted : textParam hostname with
  | error failure => exact Eq.refl _
  | ok text =>
      have same := (textParam_ok accepted).1
      subst same
      show (limitOne env.pick _).map _ = (limitOne env.pick _).map _
      rw [limitOne_map, limitOne_map, named, named, alike.agents]

theorem lookup_similar (alike : Unprivileged whole alone) (env : Env)
    (hostname : String) :
    SimilarStmt (.getAgentByHostname hostname)
      (Program.perform exec env (.getAgentByHostname hostname) whole).1
      (Program.perform exec env (.getAgentByHostname hostname) alone).1 := by
  have similar := getAgentByHostname_similar alike env hostname
  cases struck : env.fault with
  | some cause =>
      rw [Program.perform_error (exec_fault struck _ whole),
        Program.perform_error (exec_fault struck _ alone)]
      exact Eq.refl _
  | none =>
      have answered :
          forall db : Db,
            (Program.perform exec env (.getAgentByHostname hostname) db).1 =
          getAgentByHostname env hostname db := by
        intro db
        have reached := exec_clear struck (.getAgentByHostname hostname) db
        cases found : getAgentByHostname env hostname db with
        | error failure =>
            rw [Program.perform_error
              (reached.trans (congrArg (reading · db) found))]
        | ok row =>
            rw [Program.perform_ok
              (reached.trans (congrArg (reading · db) found))]
      rw [answered, answered]
      exact similar

theorem ServiceRead.same_outcome {stmt : Stmt} (read : ServiceRead (.inl stmt))
    (alike : Unprivileged whole alone) (env : Env) :
    SameOutcome (SameAnswer Unprivileged) (exec env stmt whole)
      (exec env stmt alone) := by
  unfold exec
  split
  · exact SameOutcome.failed _
  have frame := alike.frame
  cases read with
  | connection agentId =>
      have noted := fun db => updateLatestConnection_unprivileged env agentId db
      exact SameOutcome.ok
        ⟨rfl, ((noted whole).symm.trans alike).trans (noted alone)⟩
  | policies stmt read =>
      cases read <;>
        · apply reading_alike alike
          rw [frame]
          rfl

theorem isRevoked_same_outcome (alike : Unprivileged whole alone) (env : Env)
    (serial : String) :
    SameOutcome (SameAnswer Unprivileged) (exec env (.isRevoked serial) whole)
      (exec env (.isRevoked serial) alone) := by
  unfold exec
  split
  · exact SameOutcome.failed _
  have frame := alike.frame
  apply reading_alike alike
  rw [frame]
  rfl

theorem readOp_same (env : Env × Instant) {op : Stmt ⊕ OrchestratorOp}
    (read : ReadOp op) {whole alone : Server}
    (alike : Unprivileged whole.1 alone.1) :
    SimilarAnswer op (Program.perform execServer env op whole).1
      (Program.perform execServer env op alone).1 ∧
      Unprivileged (Program.perform execServer env op whole).2.1
        (Program.perform execServer env op alone).2.1 := by
  have answers : forall stmt, op = .inl stmt ->
      SameOutcome (SameAnswer Unprivileged) (exec env.1 stmt whole.1)
        (exec env.1 stmt alone.1) ->
      SimilarAnswer op (Program.perform execServer env op whole).1
        (Program.perform execServer env op alone).1 ∧
        Unprivileged (Program.perform execServer env op whole).2.1
          (Program.perform execServer env op alone).2.1 := by
    rintro stmt rfl outcome
    have same := outcome.perform alike
    rw [Program.perform_inl, Program.perform_inl]
    dsimp only
    rw [same.1]
    exact ⟨SimilarAnswer.rfl, same.2⟩
  rcases read with asked | read
  · rw [asked.same env whole, asked.same env alone]
    cases asked with
    | isRevoked serial =>
        exact ⟨(answers _ rfl (isRevoked_same_outcome alike env.1 serial)).1,
          alike⟩
    | getAgentByHostname hostname =>
        rw [Program.perform_inl, Program.perform_inl]
        exact ⟨lookup_similar alike env.1 hostname, alike⟩
  · cases read with
    | connection agentId =>
        exact answers _ rfl
          (ServiceRead.same_outcome (ServiceRead.connection agentId) alike env.1)
    | policies stmt read =>
        exact answers _ rfl
          (ServiceRead.same_outcome (ServiceRead.policies stmt read) alike env.1)
    | noted op =>
        rw [Program.perform_inr, Program.perform_inr]
        exact ⟨rfl, alike⟩

end Alike

theorem requests_unheard : Pool.Unheard execServer ReadOp RequestOp SimilarAnswer
    fun whole alone : Server => Unprivileged whole.1 alone.1 where
  same env _ _ _ read alike := readOp_same env read alike
  unheard env _ whole _ issued alike :=
    (issued.unprivileged env whole).symm.trans alike

/-- A poll or a heartbeat that had the same turns ends the same, whether or not
other requests had turns between them. -/
theorem reads_undisturbed (service : ComplyxAgent) (library : CertLibrary)
    (calls : List (Option (List Der) × AgentCall)) (server : Server)
    (labels : List (Nat × (Env × Instant))) (index : Nat)
    (inside : index < calls.length) (reads : calls[index].2.isRead = true) :
    (after (Pool.step execServer) (service.arriving library calls server)
      labels).threads[index]? =
      (after (Pool.step execServer) (service.arriving library calls server)
        (labels.filter fun label => label.1 = index)).threads[index]? := by
  have here :=
    @ComplyxAgent.arriving_get service library calls server index inside
  refine Pool.twins_run requests_unheard
    ⟨⟨_, here, here, ?_, ?_⟩, arriving_issues, Unprivileged.rfl⟩ labels
  · exact request_issues_reads service library calls[index].1 reads
  · exact request_heedless service library calls[index].1 reads

theorem mixed_poll_undisturbed :
    (after (Pool.step execServer)
      (nightService.arriving recordedContext.library mixedCalls
      (sharedDb, Orchestrator.new 90)) mixedTurns).threads[1]? =
    (after (Pool.step execServer)
      (nightService.arriving recordedContext.library mixedCalls
      (sharedDb, Orchestrator.new 90))
        (mixedTurns.filter fun label => label.1 = 1)).threads[1]? := by
  exact reads_undisturbed nightService recordedContext.library mixedCalls
    (sharedDb, Orchestrator.new 90) mixedTurns 1
    (by decide) rfl

end Complyx
