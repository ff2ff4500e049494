import Complyx.Grpc.Attribution
import Complyx.Transition.Bounded

namespace Complyx

open Relational Transition

/-!
# No request waits for another

A request ends after a number of its own turns that the database it starts from
bounds, whatever the other requests do between them.  A heartbeat takes four
turns, a poll five for each policy assigned, and a submission one for each threat
and result:  the threats and the assignments are among what requests never change.
-/

/-- How much the database gives a request to go through. -/
structure Workload where
  threats : Nat
  direct : Nat
  grouped : Nat

def Db.workload (db : Db) : Workload where
  threats := db.threats.rows.length
  direct := db.agentPolicies.rows.length
  grouped := db.groupPolicies.rows.length

namespace Workload

variable (load : Workload)

/-- The answer gives no more than this to go through. -/
def Expects : (op : Stmt ⊕ OrchestratorOp) -> Except DbError
    (Sum.elim Stmt.Res OrchestratorOp.Res op) -> Prop
  | .inl .listThreats, .ok threats => threats.length ≤ load.threats
  | .inl (.getDirectPoliciesForAgent _), .ok ids => ids.length ≤ load.direct
  | .inl (.getPoliciesForGroups _), .ok ids => ids.length ≤ load.grouped
  | _, _ => True

/-- The most operations of a service that has let the request through. -/
def served : AgentCall -> Nat
  | .pollPolicies _ => 1 + (1 + (3 + 5 * (load.direct + load.grouped)) + 1)
  | .submitResults request _ => 3 + request.results.length * (3 + load.threats)
  | .heartbeat _ _ => 2

/-- The most operations of a request. -/
def bound (call : AgentCall) : Nat := 2 + load.served call

/-- The answers to statements. -/
abbrev ExpectsStmt (stmt : Stmt) (answer : Except DbError stmt.Res) : Prop :=
  load.Expects (.inl stmt) answer

end Workload

/-! ## Programs -/

section Within

variable {load : Workload}

/-- The program ends within the bound. -/
abbrev Takes {ε α : Type} (load : Workload) (code : Code ε α)
    (bound : Nat) : Prop :=
  code.Within load.ExpectsStmt (fun _ => True) bound

theorem takes_maybeCreateRisk (agentId : Uuid) (severity : String) :
    Takes load (maybeCreateRisk agentId severity) 3 := by
  refine Program.within_attempt_bind _ fun threats _ => ?_
  split
  · trivial
  · refine Program.within_attempt_bind _ fun existing _ => ?_
    split
    · trivial
    · exact Program.within_attempt_bind _ fun _ _ => trivial

theorem takes_closeFirstOpen (agentId : Uuid) (threats : List ThreatRow) :
    Takes load (closeFirstOpen agentId threats) (threats.length + 1) := by
  induction threats with
  | nil => trivial
  | cons threat rest ih =>
      unfold closeFirstOpen
      split
      · exact ih.mono (Nat.le_succ _)
      · refine Program.within_attempt_bind _ fun found _ => ?_
        cases found with
        | none => exact ih
        | some riskId => exact Program.within_attempt_bind _ fun _ _ => trivial

theorem takes_handleResult (agentId : Uuid) (severities : CheckSeverities)
    (result : CheckResult) :
    Takes load (handleResult agentId severities result) (3 + load.threats) := by
  unfold handleResult
  dsimp only
  split
  · exact Program.within_map
      ((takes_maybeCreateRisk agentId _).mono (Nat.le_add_right 3 _))
      fun _ _ => trivial
  · split
    · have closing :
          Takes load (maybeCloseRisk agentId) (load.threats + 1 + 1) := by
        refine Program.within_attempt_bind _
          fun threats (few : threats.length ≤ load.threats) => ?_
        exact (takes_closeFirstOpen agentId threats).mono (Nat.succ_le_succ few)
      exact Program.within_map (closing.mono (by omega)) fun _ _ => trivial
    · trivial

theorem takes_evaluateFrom (agentId : Uuid) (severities : CheckSeverities)
    (summary : RiskTriggerSummary) (results : List CheckResult) :
    Takes load (evaluateFrom agentId severities summary results)
      (results.length * (3 + load.threats)) := by
  induction results generalizing summary with
  | nil => trivial
  | cons result rest ih =>
      rw [List.length_cons, Nat.succ_mul, Nat.add_comm]
      exact Program.within_bind (takes_handleResult agentId severities result)
        fun change _ => ih _

theorem takes_validate (ingester : ResultIngester) (call : IngestCall) :
    (ingester.validate call).Within load.ExpectsStmt
      (fun report => report.valid.length ≤ call.results.length) 1 := by
  have once : Takes load (ingester.validate call) 1 := by
    unfold ResultIngester.validate validateBatch
    split
    · trivial
    · refine Program.within_lift_bind fun sorted _ => ?_
      split
      · trivial
      · exact Program.within_attempt_bind _ fun invalidIds _ => trivial
  refine once.yielding (validateBatch_divided _ _ _ _ _) ?_
  rintro report ⟨keep, ⟨refused, divides⟩, _⟩
  rw [divides.valid]
  exact List.length_filter_le keep call.results

theorem takes_ingest (ingester : ResultIngester) (call : IngestCall) :
    Takes load (ingester.ingest call)
      (3 + call.results.length * (3 + load.threats)) := by
  unfold ResultIngester.ingest
  split
  · trivial
  rw [Nat.add_assoc 1 2]
  refine Program.within_bind (takes_validate ingester call) fun report fewer => ?_
  dsimp only
  split
  · trivial
  refine Program.within_lift_bind fun rows _ => ?_
  have evaluated :=
    @takes_evaluateFrom load call.agentId call.checkSeverities {} report.valid
  have shorter := Nat.mul_le_mul_right (3 + load.threats) fewer
  rw [Nat.add_comm]
  refine Program.within_attempt_bind _ fun inserted _ => ?_
  rw [recalculate, bind_assoc]
  refine Program.within_attempt_bind _ fun scores _ => ?_
  exact Program.within_map (evaluated.mono shorter) fun _ _ => trivial

theorem takes_submitResults (service : ComplyxAgent) (agentId : AgentId)
    (request : SubmitResultsRequest) (now : DateTime) :
    Takes load (service.submitResults (some agentId) request now)
      (3 + request.results.length * (3 + load.threats)) := by
  rw [ComplyxAgent.submitResults, extractAgentId, Except.mapError,
    Program.lift_ok, Program.done_bind]
  refine Program.within_lift_bind fun matching _ => ?_
  exact Program.within_map
    (Program.within_mapError _ (takes_ingest _ (request.call agentId.id now)))
    fun _ _ => trivial

/-! ## Polls -/

theorem takes_getPolicyBundle (policyId : Uuid) :
    Takes load (getPolicyBundle policyId) 5 := by
  refine Program.within_attempt_bind _ fun found _ => ?_
  cases found with
  | none => trivial
  | some policy =>
      refine Program.within_attempt_bind _ fun elements _ => ?_
      refine Program.within_attempt_bind _ fun checks _ => ?_
      refine Program.within_attempt_bind _ fun remediations _ => ?_
      exact Program.within_attempt_bind _ fun sections _ => trivial

theorem takes_loadBundles (ids : List Uuid) :
    Takes load (loadBundles ids) (5 * ids.length) := by
  induction ids with
  | nil => trivial
  | cons policyId rest ih =>
      rw [List.length_cons, Nat.mul_succ, Nat.add_comm]
      refine Program.within_bind (takes_getPolicyBundle policyId)
        fun bundle _ => ?_
      exact Program.within_map ih fun others _ => trivial

/-- The identifiers of the groups' policies are no more than the rows. -/
theorem takes_groupPolicyIds (groupIds : List Uuid) :
    (groupPolicyIds groupIds).Within load.ExpectsStmt
      (fun ids => ids.length ≤ load.grouped) 1 := by
  unfold groupPolicyIds
  split
  · exact Nat.zero_le load.grouped
  · exact Program.within_attempt _ fun ids (few : ids.length ≤ load.grouped) =>
      few

theorem takes_resolveForAgent (distributor : PolicyDistributor) (agentId : Uuid) :
    Takes load (distributor.resolveForAgent agentId)
      (3 + 5 * (load.direct + load.grouped)) := by
  rw [Nat.add_comm]
  refine Program.within_attempt_bind _
    fun directIds (direct : directIds.length ≤ load.direct) => ?_
  refine Program.within_attempt_bind _ fun groupIds _ => ?_
  rw [Nat.add_comm]
  refine Program.within_bind (takes_groupPolicyIds groupIds)
    fun groupPolicyIds grouped => ?_
  dsimp only
  split
  · trivial
  · have kept :
        (distinctOn id (directIds ++ groupPolicyIds)).Subperm
          (directIds ++ groupPolicyIds) :=
      List.subperm_of_subset (nodup_distinctOn_id _) fun policyId member =>
        mem_distinctOn_id.mp member
    have fewer := kept.length_le
    rw [List.length_append] at fewer
    refine Program.within_map ((takes_loadBundles _).mono ?_) fun _ _ => trivial
    exact Nat.mul_le_mul_left 5 (fewer.trans (Nat.add_le_add direct grouped))

end Within

/-! ## Requests -/

section Serve

variable {load : Workload}

/-- The program ends within the bound. -/
abbrev Ends {ε α : Type} (load : Workload) (program : ServerCode ε α)
    (bound : Nat) : Prop :=
  program.Within load.Expects (fun _ => True) bound

theorem ends_pollPolicies (service : ComplyxAgent) (agentId : AgentId)
    (request : PollRequest) :
    Ends load (service.pollPolicies (some agentId) request)
      (1 + (1 + (3 + 5 * (load.direct + load.grouped)) + 1)) := by
  have resolved :
      Takes load (service.resolvePolicies agentId.id)
        (1 + (3 + 5 * (load.direct + load.grouped))) := by
    rw [Nat.add_comm]
    exact fun _ _ =>
      Program.within_mapError _ (takes_resolveForAgent _ agentId.id)
  rw [Nat.add_comm]
  refine fun _ _ => Program.within_bind (Program.within_beside resolved)
    fun bundle _ => ?_
  split
  · trivial
  · exact fun _ _ => trivial

theorem ends_serve (service : ComplyxAgent) (agentId : AgentId)
    (call : AgentCall) :
    Ends load (service.serve (some agentId) call) (load.served call) := by
  cases call with
  | pollPolicies request =>
      exact Program.within_map
        (Program.within_mapError _ (ends_pollPolicies service agentId request))
        fun _ _ => trivial
  | submitResults request now =>
      have takes := @takes_submitResults load service agentId request now
      exact Program.within_map (Program.within_beside takes) fun _ _ => trivial
  | heartbeat request now =>
      have ends :
          Ends load (ComplyxAgent.heartbeat (some agentId) request now) 2 :=
            fun _ _ _ _ => trivial
      exact Program.within_map (Program.within_mapError _ ends) fun _ _ => trivial

theorem takes_authInterceptor (library : CertLibrary)
    (peerCerts : Option (List Der)) :
    Takes load (authInterceptor library peerCerts) 2 := by
  refine Program.within_lift_bind fun peer _ => ?_
  dsimp only
  have asked :
      Takes load ((isCertRevoked peer.2.serialText).mapError fun _ =>
        Status.internal
        "error verificando el certificado") 1 :=
    Program.within_mapError _ (Program.within_attempt _ fun _ _ => trivial)
  show Program.Within _ _ _ (1 + 1)
  refine Program.within_bind asked fun isRevoked _ => ?_
  split
  · trivial
  · exact Program.within_attempt_bind _ fun agent _ =>
      Program.within_lift _ fun _ _ => trivial

theorem ends_request (service : ComplyxAgent) (library : CertLibrary)
    (peerCerts : Option (List Der)) (call : AgentCall) :
    Ends load (service.request library peerCerts call) (load.bound call) := by
  have asked := @takes_authInterceptor load library peerCerts
  exact Program.within_bind
      (Program.within_beside (Program.within_mapError _ asked)) fun agentId _ =>
    ends_serve service agentId call

end Serve

/-! ## Runs -/

theorem length_listThreats (db : Db) :
    (listThreats db).length = db.workload.threats :=
  List.length_insertionSort _ _

theorem length_getDirectPoliciesForAgent (env : Env) (agentId : Uuid) (db : Db) :
    (getDirectPoliciesForAgent env agentId db).length ≤ db.workload.direct := by
  rw [getDirectPoliciesForAgent, (arrange_perm _ _).length_eq, directPolicies,
    List.length_map]
  exact List.length_filter_le _ _

theorem length_getPoliciesForGroups (env : Env) (groupIds : List Uuid) (db : Db) :
    (getPoliciesForGroups env groupIds db).length ≤ db.workload.grouped := by
  have kept := List.subperm_of_subset (nodup_distinctOn_id
    ((db.groupPolicies.rows.filter fun gp => groupIds.contains gp.groupId).map
      GroupPolicyRow.policyId))
    fun policyId member => mem_distinctOn_id.mp member
  rw [getPoliciesForGroups, (arrange_perm _ _).length_eq]
  refine kept.length_le.trans ?_
  rw [List.length_map]
  exact List.length_filter_le _ _

/-- Whatever the environment, an answer gives no more to go through than the
database has. -/
theorem workload_expects (env : Env × Instant) (op : Stmt ⊕ OrchestratorOp)
    (server : Server) :
    server.1.workload.Expects op
      (Program.perform execServer env op server).1 := by
  cases op with
  | inr op => trivial
  | inl stmt =>
      rw [Program.perform_inl]
      rcases perform_cases env.1 stmt server.1 with
        ⟨failure, performed⟩ | ⟨value, db, _, effect, performed⟩
      · rw [performed]
        cases stmt <;> trivial
      · rw [performed]
        cases stmt with
        | listThreats =>
            rw [← Except.ok.inj (reading_same effect).2]
            exact Nat.le_of_eq (length_listThreats server.1)
        | getDirectPoliciesForAgent agentId =>
            rw [← Except.ok.inj (reading_same effect).2]
            exact length_getDirectPoliciesForAgent env.1 agentId server.1
        | getPoliciesForGroups groupIds =>
            rw [← Except.ok.inj (reading_same effect).2]
            exact length_getPoliciesForGroups env.1 groupIds server.1
        | _ => trivial

theorem Unprivileged.workload {db db' : Db} (kept : Unprivileged db db') :
    db'.workload = db.workload := by
  rw [kept.frame]
  rfl

section Runs

variable {service : ComplyxAgent} {library : CertLibrary}
  {calls : List (Option (List Der) × AgentCall)}
  {server : Server}

theorem arriving_expects (labels : List (Nat × (Env × Instant))) :
    Always (Pool.step execServer)
      (fun pool : ServerPool => forall env op,
        server.1.workload.Expects op
          (Program.perform execServer env op pool.store).1)
      (service.arriving library calls server) labels := by
  intro before _ env op
  have kept :
      RequestsKeep server
        (after (Pool.step execServer) (service.arriving library calls server)
          before).store :=
    requests_keep arriving_issues before
  rw [← kept.unprivileged.workload]
  exact workload_expects env op _

end Runs

/-- A request that had as many turns as the database it started from can make it
take has returned or failed, whatever the other requests did between them. -/
theorem requests_wait_free (service : ComplyxAgent) (library : CertLibrary)
    (calls : List (Option (List Der) × AgentCall)) (server : Server)
    (labels : List (Nat × (Env × Instant))) (index : Nat)
    (inside : index < calls.length)
    (turned : server.1.workload.bound calls[index].2 ≤ turnsOf index labels) :
    (after (Pool.step execServer) (service.arriving library calls server)
      labels).Ended index := by
  have started :
      (service.arriving library calls server).Left server.1.workload.Expects
        (fun _ => True) index
      (server.1.workload.bound calls[index].2) :=
    ⟨_, ComplyxAgent.arriving_get inside,
      ends_request service library calls[index].1 calls[index].2⟩
  have left := Pool.left_run started (arriving_expects labels)
  rw [Nat.sub_eq_zero_of_le turned] at left
  exact left.ended

/-- `web-01` submits a result and polls, while it also sends a heartbeat. -/
def mixedCalls : List (Option (List Der) × AgentCall) :=
  [.submitResults
    (nightRequest [midnightResult "1B4E28BA-2FA1-11D2-883F-0016D3CCA427"])
    newYear, .pollPolicies ⟨"", ""⟩, .heartbeat ⟨"", 0⟩ newYear].map fun call =>
      (some [webRecord.der], call)

/-- The three in turn. -/
def mixedTurns : List (Nat × (Env × Instant)) :=
    (List.range 60).map fun n => (n % 3, quietly (51 + n) n, n)

theorem mixed_calls_end : (after (Pool.step execServer)
    (nightService.arriving recordedContext.library mixedCalls
      (sharedDb, Orchestrator.new 90)) mixedTurns).Ended 1 := by
  exact requests_wait_free nightService recordedContext.library mixedCalls
    (sharedDb, Orchestrator.new 90) mixedTurns 1
    (by decide) (by decide +kernel)

end Complyx
