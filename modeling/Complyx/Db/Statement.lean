import Complyx.Db.Certs
import Complyx.Db.Policies
import Complyx.Db.Scores
import Complyx.Db.Risks
import Complyx.Transition.Pool

namespace Complyx

open Transition

/-!
# Statements

The operations a program of the server issues against the database.  Each one
is atomic: `insert_check_results` is a single transaction, every other query a
single statement.  The environment may make any of them fail, in which case
the database stays as it was.
-/

inductive Stmt where
  | getAgentByHostname (hostname : String)
  | upsertAgent (data : UpsertAgentData)
  | setEnabled (agentId : Uuid) (enabled : Bool)
  | deleteAgent (agentId : Uuid)
  | storeCert (agentId : Uuid) (certPem serial : String)
  | getCert (agentId : Uuid)
  | isRevoked (serial : String)
  | revokeCert (agentId : Uuid)
  | findEnrollToken (tokenHash : String)
  | consumeEnrollToken (tokenId : Uuid)
  | validateCheckIdsForAgent (agentId : Uuid) (checkIds : List Uuid)
  | insertCheckResults (results : List InsertCheckResult)
  | upsertComplianceScores (agentId : Uuid)
  | listThreats
  | findOpenRisk (agentId threatId : Uuid)
  | insertRisk (data : InsertRiskData)
  | setRiskStatus (riskId : Uuid) (status : RiskStatus)
  | updateLatestConnection (agentId : Uuid)
  | getDirectPoliciesForAgent (agentId : Uuid)
  | getAgentGroupIds (agentId : Uuid)
  | getPoliciesForGroups (groupIds : List Uuid)
  | getPolicy (id : Uuid)
  | getElementsForPolicy (policyId : Uuid)
  | getChecksForPolicy (policyId : Uuid)
  | getRemediationsForPolicy (policyId : Uuid)
  | getRegulationSectionsForPolicy (policyId : Uuid)

/-- What a statement answers. -/
abbrev Stmt.Res : Stmt -> Type
  | .getAgentByHostname _ => Option AgentRow
  | .upsertAgent _ => Uuid
  | .setEnabled _ _ => Unit
  | .deleteAgent _ => Unit
  | .storeCert _ _ _ => Unit
  | .getCert _ => Option AgentCertRow
  | .isRevoked _ => Bool
  | .revokeCert _ => Unit
  | .findEnrollToken _ => Option EnrollTokenRow
  | .consumeEnrollToken _ => Unit
  | .validateCheckIdsForAgent _ _ => List Uuid
  | .insertCheckResults _ => Nat
  | .upsertComplianceScores _ => List ComplianceScoreRow
  | .listThreats => List ThreatRow
  | .findOpenRisk _ _ => Option Uuid
  | .insertRisk _ => Uuid
  | .setRiskStatus _ _ => Unit
  | .updateLatestConnection _ => Unit
  | .getDirectPoliciesForAgent _ => List Uuid
  | .getAgentGroupIds _ => List Uuid
  | .getPoliciesForGroups _ => List Uuid
  | .getPolicy _ => Option PolicyRow
  | .getElementsForPolicy _ => List PolicyElementRow
  | .getChecksForPolicy _ => List PolicyCheckRow
  | .getRemediationsForPolicy _ => List PolicyRemediationRow
  | .getRegulationSectionsForPolicy _ => List CheckRegulationSectionRow

/-- A query that only reads. -/
def reading {α : Type} (answer : Except DbError α) (db : Db) :
    Except DbError (α × Db) :=
  answer.map fun value => (value, db)

theorem reading_same {α : Type} {answer : Except DbError α} {db db' : Db}
    {value : α} (read : reading answer db = .ok (value, db')) :
    db' = db ∧ answer = .ok value := by
  cases answer with
  | error failure => cases read
  | ok inner =>
      have parts := Except.ok.inj read
      exact ⟨(congrArg Prod.snd parts).symm,
        congrArg Except.ok (congrArg Prod.fst parts)⟩

/-- The effect of a statement that reaches the database. -/
def Stmt.effect (env : Env) :
    (stmt : Stmt) -> Db -> Except DbError (stmt.Res × Db)
  | .getAgentByHostname hostname, db =>
      reading (Complyx.getAgentByHostname env hostname db) db
  | .upsertAgent data, db => Complyx.upsertAgent env data db
  | .setEnabled agentId enabled, db =>
      .ok ((), Complyx.setEnabled agentId enabled db)
  | .deleteAgent agentId, db => .ok ((), Complyx.deleteAgent agentId db)
  | .storeCert agentId certPem serial, db =>
      Complyx.storeCert env agentId certPem serial db
  | .getCert agentId, db => reading (.ok (Complyx.getCert agentId db)) db
  | .isRevoked serial, db => reading (Complyx.isRevoked serial db) db
  | .revokeCert agentId, db => .ok ((), Complyx.revokeCert env agentId db)
  | .findEnrollToken tokenHash, db =>
      reading (Complyx.findEnrollToken tokenHash db) db
  | .consumeEnrollToken tokenId, db =>
      .ok ((), Complyx.consumeEnrollToken env tokenId db)
  | .validateCheckIdsForAgent agentId checkIds, db =>
      reading (.ok (Complyx.validateCheckIdsForAgent agentId checkIds db)) db
  | .insertCheckResults results, db => Complyx.insertCheckResults env results db
  | .upsertComplianceScores agentId, db =>
      Complyx.upsertComplianceScores env agentId db
  | .listThreats, db => reading (.ok (Complyx.listThreats db)) db
  | .findOpenRisk agentId threatId, db =>
      reading (.ok (Complyx.findOpenRisk env agentId threatId db)) db
  | .insertRisk data, db => Complyx.insertRisk env data db
  | .setRiskStatus riskId status, db =>
      .ok ((), Complyx.setRiskStatus env riskId status db)
  | .updateLatestConnection agentId, db =>
      .ok ((), Complyx.updateLatestConnection env agentId db)
  | .getDirectPoliciesForAgent agentId, db =>
      reading (.ok (Complyx.getDirectPoliciesForAgent env agentId db)) db
  | .getAgentGroupIds agentId, db =>
      reading (.ok (Complyx.getAgentGroupIds env agentId db)) db
  | .getPoliciesForGroups groupIds, db =>
      reading (.ok (Complyx.getPoliciesForGroups env groupIds db)) db
  | .getPolicy id, db => reading (.ok (Complyx.getPolicy id db)) db
  | .getElementsForPolicy policyId, db =>
      reading (.ok (Complyx.getElementsForPolicy policyId db)) db
  | .getChecksForPolicy policyId, db =>
      reading (.ok (Complyx.getChecksForPolicy policyId db)) db
  | .getRemediationsForPolicy policyId, db =>
      reading (.ok (Complyx.getRemediationsForPolicy policyId db)) db
  | .getRegulationSectionsForPolicy policyId, db =>
      reading (.ok (Complyx.getRegulationSectionsForPolicy env policyId db)) db

def exec (env : Env) (stmt : Stmt) (db : Db) : Except DbError (stmt.Res × Db) :=
  match env.fault with
  | some cause => .error (.query cause)
  | none => stmt.effect env db

theorem exec_clear {env : Env} (clear : env.fault = none)
    (stmt : Stmt) (db : Db) :
    exec env stmt db = stmt.effect env db := by
  simp only [exec, clear]

theorem exec_fault {env : Env} {cause : SqlError} (fault : env.fault = some cause)
    (stmt : Stmt) (db : Db) :
    exec env stmt db = .error (.query cause) := by
  simp only [exec, fault]

/-- A statement that answered was not struck by a fault. -/
theorem exec_ok {env : Env} {stmt : Stmt} {db db' : Db} {value : stmt.Res}
    (success : exec env stmt db = .ok (value, db')) :
    env.fault = none ∧ stmt.effect env db = .ok (value, db') := by
  unfold exec at success
  split at success
  · cases success
  · next clear => exact ⟨clear, success⟩

/-- A statement fails and changes nothing, or has its effect. -/
theorem perform_cases (env : Env) (stmt : Stmt) (db : Db) :
    (Exists fun failure => Program.perform exec env stmt db =
      (.error failure, db)) ∨
    Exists fun value => Exists fun db' => env.fault = none ∧
      stmt.effect env db = .ok (value, db') ∧
      Program.perform exec env stmt db = (.ok value, db') := by
  cases outcome : exec env stmt db with
  | error failure => exact Or.inl ⟨failure, Program.perform_error outcome⟩
  | ok pair =>
      rcases pair with ⟨value, db'⟩
      have reached := exec_ok outcome
      exact Or.inr ⟨value, db', reached.1, reached.2, Program.perform_ok outcome⟩

/-- A statement that only a fault can stop changes nothing or has its effect. -/
theorem perform_total {env : Env} {stmt : Stmt} {db db' : Db} {value : stmt.Res}
    (total : stmt.effect env db = .ok (value, db')) :
    (Program.perform exec env stmt db).2 = db ∨
      (Program.perform exec env stmt db).2 = db' := by
  rcases perform_cases env stmt db with
    ⟨failure, performed⟩ | ⟨value', other, _, effect, performed⟩
  · left
    rw [performed]
  · right
    have same := Except.ok.inj (effect.symm.trans total)
    rw [performed, (Prod.mk.inj same).2]

/-- Code of the server: a program over statements. -/
abbrev Code (ε α : Type) := Program Stmt.Res DbError ε α

/-! ## What a statement leaves alone -/

/-- The statements that write `enroll_tokens`. -/
def Stmt.writesEnrollTokens : Stmt -> Bool
  | .consumeEnrollToken _ => true
  | _ => false

/-- The statements that write `agents`. -/
def Stmt.writesAgents : Stmt -> Bool
  | .upsertAgent _ => true
  | .setEnabled _ _ => true
  | .deleteAgent _ => true
  | .updateLatestConnection _ => true
  | _ => false

/-- The statements that write `agent_certs`. -/
def Stmt.writesAgentCerts : Stmt -> Bool
  | .deleteAgent _ => true
  | .storeCert _ _ _ => true
  | .revokeCert _ => true
  | _ => false

/-- The statements that write `risks`. -/
def Stmt.writesRisks : Stmt -> Bool
  | .deleteAgent _ => true
  | .insertRisk _ => true
  | .setRiskStatus _ _ => true
  | _ => false

/-- The statements that write `check_results`. -/
def Stmt.writesCheckResults : Stmt -> Bool
  | .deleteAgent _ => true
  | .insertCheckResults _ => true
  | _ => false

/-- The statements that write `compliance_scores`. -/
def Stmt.writesComplianceScores : Stmt -> Bool
  | .deleteAgent _ => true
  | .upsertComplianceScores _ => true
  | _ => false

/-- The statements that write `agent_policies` and `agent_group_membership`. -/
def Stmt.writesAssignments : Stmt -> Bool
  | .deleteAgent _ => true
  | _ => false

/-- Everything a statement does to tables it is not declared to write. -/
structure Frame (stmt : Stmt) (db db' : Db) : Prop where
  collate : db'.collate = db.collate
  threats : db'.threats = db.threats
  policies : db'.policies = db.policies
  policyElements : db'.policyElements = db.policyElements
  policyChecks : db'.policyChecks = db.policyChecks
  policyRemediations : db'.policyRemediations = db.policyRemediations
  checkRegulationSections :
    db'.checkRegulationSections = db.checkRegulationSections
  groupPolicies : db'.groupPolicies = db.groupPolicies
  enrollTokens : stmt.writesEnrollTokens = false ->
    db'.enrollTokens = db.enrollTokens
  agents : stmt.writesAgents = false -> db'.agents = db.agents
  agentCerts : stmt.writesAgentCerts = false -> db'.agentCerts = db.agentCerts
  risks : stmt.writesRisks = false -> db'.risks = db.risks
  checkResults : stmt.writesCheckResults = false ->
    db'.checkResults = db.checkResults
  complianceScores : stmt.writesComplianceScores = false ->
    db'.complianceScores = db.complianceScores
  agentPolicies : stmt.writesAssignments = false ->
    db'.agentPolicies = db.agentPolicies
  agentGroupMembership : stmt.writesAssignments = false ->
    db'.agentGroupMembership = db.agentGroupMembership

theorem Frame.refl (stmt : Stmt) (db : Db) : Frame stmt db db where
  collate := rfl
  threats := rfl
  policies := rfl
  policyElements := rfl
  policyChecks := rfl
  policyRemediations := rfl
  checkRegulationSections := rfl
  groupPolicies := rfl
  enrollTokens _ := rfl
  agents _ := rfl
  agentCerts _ := rfl
  risks _ := rfl
  checkResults _ := rfl
  complianceScores _ := rfl
  agentPolicies _ := rfl
  agentGroupMembership _ := rfl

theorem Stmt.effect_frame {env : Env} {stmt : Stmt} {db db' : Db}
    {value : stmt.Res} (success : stmt.effect env db = .ok (value, db')) :
    Frame stmt db db' := by
  cases stmt with
  | getAgentByHostname hostname =>
      rw [(reading_same success).1]
      exact Frame.refl _ _
  | upsertAgent data =>
      have frame := (upsertAgent_registered success).1
      rw [frame]
      constructor <;> first | rfl | exact fun _ => rfl | exact fun impossible =>
        nomatch impossible
  | setEnabled agentId enabled =>
      cases success
      constructor <;> first | rfl | exact fun _ => rfl | exact fun impossible =>
        nomatch impossible
  | deleteAgent agentId =>
      cases success
      constructor <;> first | rfl | exact fun _ => rfl | exact fun impossible =>
        nomatch impossible
  | storeCert agentId certPem serial =>
      have frame := (storeCert_stored success).1
      rw [frame]
      constructor <;> first | rfl | exact fun _ => rfl | exact fun impossible =>
        nomatch impossible
  | getCert agentId =>
      rw [(reading_same success).1]
      exact Frame.refl _ _
  | isRevoked serial =>
      rw [(reading_same success).1]
      exact Frame.refl _ _
  | revokeCert agentId =>
      cases success
      constructor <;> first | rfl | exact fun _ => rfl | exact fun impossible =>
        nomatch impossible
  | findEnrollToken tokenHash =>
      rw [(reading_same success).1]
      exact Frame.refl _ _
  | consumeEnrollToken tokenId =>
      cases success
      constructor <;> first | rfl | exact fun _ => rfl | exact fun impossible =>
        nomatch impossible
  | validateCheckIdsForAgent agentId checkIds =>
      rw [(reading_same success).1]
      exact Frame.refl _ _
  | insertCheckResults results =>
      have frame := (insertCheckResultsFrom_added success).frame
      rw [frame]
      constructor <;> first | rfl | exact fun _ => rfl | exact fun impossible =>
        nomatch impossible
  | upsertComplianceScores agentId =>
      have frame := upsertComplianceScores_frame success
      rw [frame]
      constructor <;> first | rfl | exact fun _ => rfl | exact fun impossible =>
        nomatch impossible
  | listThreats =>
      rw [(reading_same success).1]
      exact Frame.refl _ _
  | findOpenRisk agentId threatId =>
      rw [(reading_same success).1]
      exact Frame.refl _ _
  | insertRisk data =>
      have frame := (insertRisk_inserted success).frame
      rw [frame]
      constructor <;> first | rfl | exact fun _ => rfl | exact fun impossible =>
        nomatch impossible
  | setRiskStatus riskId status =>
      cases success
      constructor <;> first | rfl | exact fun _ => rfl | exact fun impossible =>
        nomatch impossible
  | updateLatestConnection agentId =>
      cases success
      constructor <;> first | rfl | exact fun _ => rfl | exact fun impossible =>
        nomatch impossible
  | getDirectPoliciesForAgent agentId =>
      rw [(reading_same success).1]
      exact Frame.refl _ _
  | getAgentGroupIds agentId =>
      rw [(reading_same success).1]
      exact Frame.refl _ _
  | getPoliciesForGroups groupIds =>
      rw [(reading_same success).1]
      exact Frame.refl _ _
  | getPolicy id =>
      rw [(reading_same success).1]
      exact Frame.refl _ _
  | getElementsForPolicy policyId =>
      rw [(reading_same success).1]
      exact Frame.refl _ _
  | getChecksForPolicy policyId =>
      rw [(reading_same success).1]
      exact Frame.refl _ _
  | getRemediationsForPolicy policyId =>
      rw [(reading_same success).1]
      exact Frame.refl _ _
  | getRegulationSectionsForPolicy policyId =>
      rw [(reading_same success).1]
      exact Frame.refl _ _

/-- Whatever a statement answers, it writes only its own tables. -/
theorem perform_frame (env : Env) (stmt : Stmt) (db : Db) :
    Frame stmt db (Program.perform exec env stmt db).2 := by
  cases outcome : exec env stmt db with
  | ok pair =>
      rcases pair with ⟨value, db'⟩
      rw [Program.perform_ok outcome]
      exact Stmt.effect_frame (exec_ok outcome).2
  | error failure =>
      rw [Program.perform_error outcome]
      exact Frame.refl _ _

end Complyx
