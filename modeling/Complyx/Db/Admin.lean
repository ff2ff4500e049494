import Complyx.Db.Statement

namespace Complyx

open Relational Transition

/-!
# The queries of the administrator

What is left of the database crate: the queries by which tokens are issued,
policies assigned, groups filled and the state of the system looked at.  Two tables
are used by these queries alone.  A conflict with a row that is there already is no
error of an assignment, which then writes nothing.
-/

structure AgentGroupRow where
  id : Uuid
  name : String
  description : Option String
  createdDate : Timestamp
  deriving DecidableEq

abbrev AgentGroupRow.Clash (first second : AgentGroupRow) : Prop :=
  first.id = second.id ∨ first.name = second.name

structure RiskPolicyRow where
  riskId : Uuid
  policyId : Uuid
  deriving DecidableEq

abbrev RiskPolicyRow.Clash (first second : RiskPolicyRow) : Prop :=
  first.riskId = second.riskId ∧ first.policyId = second.policyId

/-- All tables. -/
structure Database extends Db where
  agentGroups : Table AgentGroupRow AgentGroupRow.Clash := .empty
  riskPolicies : Table RiskPolicyRow RiskPolicyRow.Clash := .empty

/-! ## Tokens and certificates -/

/-- `save_enroll_token`. -/
def saveEnrollToken (env : Env) (tokenHash : String)
    (hostnameHint : Option String) (expiresAt : Timestamp) (database : Database) :
    Except DbError (Uuid × Database) := do
  let tokenHash <- varchar 64 tokenHash
  let hostnameHint <- varcharOpt (some 255) hostnameHint
  let expiresAt <- timestampParam (inMicros expiresAt)
  let enrollTokens <- constrained "enroll_tokens" (database.enrollTokens.insert?
    { id := env.fresh 0, tokenHash := tokenHash, hostnameHint := hostnameHint
      createdAt := env.now, expiresAt := expiresAt, usedAt := none })
  return (env.fresh 0, { database with enrollTokens := enrollTokens })

/-- `ORDER BY revoked_at DESC`, where every row has the column. -/
abbrev AgentCertRow.RevokedAfter (first second : AgentCertRow) : Prop :=
  second.revokedAt.getD 0 ≤ first.revokedAt.getD 0

/-- `list_revoked_certs`. -/
def listRevokedCerts (env : Env) (db : Db) : List AgentCertRow :=
  (arrange env.pick
    (db.agentCerts.rows.filter fun row => row.revokedAt.isSome)).insertionSort
    AgentCertRow.RevokedAfter

/-! ## Agents and groups -/

/-- `get_agent`. -/
def getAgent (id : Uuid) (db : Db) : Option AgentRow :=
  db.agents.find AgentRow.id id

/-- `ORDER BY hostname, id`, where rows without a hostname come last. -/
def AgentRow.listedBefore (collate : String -> String -> Bool)
    (first second : AgentRow) : Bool :=
  match first.hostname, second.hostname with
  | some hostname, some other =>
      if hostname = other then first.id ≤ second.id else collate hostname other
  | some _, none => true
  | none, some _ => false
  | none, none => first.id ≤ second.id

/-- `list_agents`. -/
def listAgents (db : Db) : List AgentRow :=
  db.agents.rows.insertionSort fun first second =>
    first.listedBefore db.collate second = true

/-- `get_group`. -/
def getGroup (id : Uuid) (database : Database) : Option AgentGroupRow :=
  database.agentGroups.find AgentGroupRow.id id

/-- `list_groups`. -/
def listGroups (database : Database) : List AgentGroupRow :=
  database.agentGroups.rows.insertionSort fun first second =>
    database.collate first.name second.name = true

/-- `get_agent_groups`. -/
def getAgentGroups (agentId : Uuid) (database : Database) : List AgentGroupRow :=
  (((innerJoin (fun ag agm => ag.id = agm.groupId) database.agentGroups.rows
    database.agentGroupMembership.rows).filter fun row =>
      row.2.agentId = agentId).map Prod.fst).insertionSort
      fun first second => database.collate first.name second.name = true

/-- `INSERT … ON CONFLICT DO NOTHING` of a row whose references are checked. -/
def insertOrIgnore {ρ : Type} {Clash : ρ -> ρ -> Prop} [DecidableRel Clash]
    (name : String) (table : Table ρ Clash) (row : ρ) (present : List Bool) :
    Except DbError (Table ρ Clash) :=
  match table.insert? row with
  | none => .ok table
  | some inserted => (references name (present.all id)).map fun _ => inserted

/-- `add_agent_to_group`. -/
def addAgentToGroup (agentId groupId : Uuid) (database : Database) :
    Except DbError (Unit × Database) := do
  let memberships <- insertOrIgnore "agent_group_membership"
    database.agentGroupMembership ⟨agentId, groupId⟩
    [database.hasAgent agentId, (getGroup groupId database).isSome]
  return ((), { database with agentGroupMembership := memberships })

/-- `remove_agent_from_group`. -/
def removeAgentFromGroup (agentId groupId : Uuid)
    (database : Database) : Database :=
  { database with
    agentGroupMembership := database.agentGroupMembership.filter fun row =>
      !(row.agentId = agentId && row.groupId = groupId) }

/-! ## Policies -/

/-- `list_policies`. -/
def listPolicies (db : Db) : List PolicyRow :=
  db.policies.rows.insertionSort fun first second =>
    db.collate first.name second.name = true

/-- `assign_policy_to_agent`. -/
def assignPolicyToAgent (agentId policyId : Uuid) (database : Database) :
    Except DbError (Unit × Database) := do
  let agentPolicies <- insertOrIgnore "agent_policies" database.agentPolicies
    ⟨agentId, policyId⟩
    [database.hasAgent agentId, (getPolicy policyId database.toDb).isSome]
  return ((), { database with agentPolicies := agentPolicies })

/-- `assign_policy_to_group`. -/
def assignPolicyToGroup (groupId policyId : Uuid) (database : Database) :
    Except DbError (Unit × Database) := do
  let groupPolicies <- insertOrIgnore "group_policies" database.groupPolicies
    ⟨groupId, policyId⟩
    [(getGroup groupId database).isSome,
      (getPolicy policyId database.toDb).isSome]
  return ((), { database with groupPolicies := groupPolicies })

/-- `unassign_policy_from_agent`. -/
def unassignPolicyFromAgent (agentId policyId : Uuid)
    (database : Database) : Database :=
  { database with
    agentPolicies := database.agentPolicies.filter fun row =>
      !(row.agentId = agentId && row.policyId = policyId) }

/-! ## Results and risks -/

/-- `get_threat`. -/
def getThreat (id : Uuid) (db : Db) : Option ThreatRow :=
  db.threats.find ThreatRow.id id

/-- `get_risk`. -/
def getRisk (id : Uuid) (db : Db) : Option RiskRow :=
  db.risks.find RiskRow.id id

/-- `list_open_risks_for_agent`, the latest first. -/
def listOpenRisksForAgent (env : Env) (agentId : Uuid) (db : Db) : List RiskRow :=
  (arrange env.pick
    (db.risks.rows.filter fun row => row.agentId = agentId &&
      row.status = .«open»)).insertionSort
    fun first second => second.createdDate ≤ first.createdDate

/-- `link_policy_to_risk`. -/
def linkPolicyToRisk (riskId policyId : Uuid) (database : Database) :
    Except DbError (Unit × Database) := do
  let riskPolicies <- insertOrIgnore "risk_policies" database.riskPolicies
    ⟨riskId, policyId⟩
    [(getRisk riskId database.toDb).isSome,
      (getPolicy policyId database.toDb).isSome]
  return ((), { database with riskPolicies := riskPolicies })

/-! ## All statements -/

inductive AdminStmt where
  | saveEnrollToken (tokenHash : String) (hostnameHint : Option String)
      (expiresAt : Timestamp)
  | listRevokedCerts
  | getAgent (id : Uuid)
  | listAgents
  | getAgentGroups (agentId : Uuid)
  | addAgentToGroup (agentId groupId : Uuid)
  | removeAgentFromGroup (agentId groupId : Uuid)
  | getGroup (id : Uuid)
  | listGroups
  | listPolicies
  | assignPolicyToAgent (agentId policyId : Uuid)
  | assignPolicyToGroup (groupId policyId : Uuid)
  | unassignPolicyFromAgent (agentId policyId : Uuid)
  | getLatestResultsForAgent (agentId : Uuid)
  | getThreat (id : Uuid)
  | getRisk (id : Uuid)
  | listOpenRisksForAgent (agentId : Uuid)
  | linkPolicyToRisk (riskId policyId : Uuid)

abbrev AdminStmt.Res : AdminStmt -> Type
  | .saveEnrollToken _ _ _ => Uuid
  | .listRevokedCerts => List AgentCertRow
  | .getAgent _ => Option AgentRow
  | .listAgents => List AgentRow
  | .getAgentGroups _ => List AgentGroupRow
  | .addAgentToGroup _ _ => Unit
  | .removeAgentFromGroup _ _ => Unit
  | .getGroup _ => Option AgentGroupRow
  | .listGroups => List AgentGroupRow
  | .listPolicies => List PolicyRow
  | .assignPolicyToAgent _ _ => Unit
  | .assignPolicyToGroup _ _ => Unit
  | .unassignPolicyFromAgent _ _ => Unit
  | .getLatestResultsForAgent _ => List CheckResultRow
  | .getThreat _ => Option ThreatRow
  | .getRisk _ => Option RiskRow
  | .listOpenRisksForAgent _ => List RiskRow
  | .linkPolicyToRisk _ _ => Unit

/-- The effect of a statement that reaches the database. -/
def AdminStmt.effect (env : Env) :
    (stmt : AdminStmt) -> Database -> Except DbError (stmt.Res × Database)
  | .saveEnrollToken tokenHash hostnameHint expiresAt, database =>
      Complyx.saveEnrollToken env tokenHash hostnameHint expiresAt database
  | .listRevokedCerts, database =>
      .ok (Complyx.listRevokedCerts env database.toDb, database)
  | .getAgent id, database => .ok (Complyx.getAgent id database.toDb, database)
  | .listAgents, database => .ok (Complyx.listAgents database.toDb, database)
  | .getAgentGroups agentId, database =>
      .ok (Complyx.getAgentGroups agentId database, database)
  | .addAgentToGroup agentId groupId, database =>
      Complyx.addAgentToGroup agentId groupId database
  | .removeAgentFromGroup agentId groupId, database =>
      .ok ((), Complyx.removeAgentFromGroup agentId groupId database)
  | .getGroup id, database => .ok (Complyx.getGroup id database, database)
  | .listGroups, database => .ok (Complyx.listGroups database, database)
  | .listPolicies, database => .ok (Complyx.listPolicies database.toDb, database)
  | .assignPolicyToAgent agentId policyId, database =>
      Complyx.assignPolicyToAgent agentId policyId database
  | .assignPolicyToGroup groupId policyId, database =>
      Complyx.assignPolicyToGroup groupId policyId database
  | .unassignPolicyFromAgent agentId policyId, database =>
      .ok ((), Complyx.unassignPolicyFromAgent agentId policyId database)
  | .getLatestResultsForAgent agentId, database =>
      .ok (latestResults agentId database.toDb, database)
  | .getThreat id, database => .ok (Complyx.getThreat id database.toDb, database)
  | .getRisk id, database => .ok (Complyx.getRisk id database.toDb, database)
  | .listOpenRisksForAgent agentId, database =>
      .ok (Complyx.listOpenRisksForAgent env agentId database.toDb, database)
  | .linkPolicyToRisk riskId policyId, database =>
      Complyx.linkPolicyToRisk riskId policyId database

/-- What a statement of the server leaves.  The rows that link policies to the risks
of an agent go with the agent. -/
def Database.afterStmt (database : Database) (db : Db) : Stmt -> Database
  | .deleteAgent agentId =>
      { toDb := db, agentGroups := database.agentGroups
        riskPolicies := database.riskPolicies.filter fun link =>
          !(database.risks.rows.any fun risk => risk.id = link.riskId &&
            risk.agentId = agentId) }
  | _ => { database with toDb := db }

/-- Any statement, on all tables. -/
def execAll (env : Env) :
    (op : Stmt ⊕ AdminStmt) -> Database -> Except DbError
    (Sum.elim Stmt.Res AdminStmt.Res op × Database)
  | .inl stmt, database =>
      match exec env stmt database.toDb with
      | .error failure => .error failure
      | .ok (value, db) => .ok (value, database.afterStmt db stmt)
  | .inr stmt, database =>
      match env.fault with
      | some cause => .error (.query cause)
      | none => stmt.effect env database

/-- Programs that issue both kinds of statements, at once. -/
abbrev DatabasePool (ε α : Type)
    := Pool (Sum.elim Stmt.Res AdminStmt.Res) DbError ε α Database

/-! ## What a statement does -/

theorem Database.afterStmt_toDb (database : Database) (db : Db) (stmt : Stmt) :
    (database.afterStmt db stmt).toDb = db := by
  cases stmt <;> rfl

section Exec

variable {env : Env} {database database' : Database}

/-- A statement of the server does to its tables what it does alone. -/
theorem execAll_inl {stmt : Stmt} {value : stmt.Res}
    (success : execAll env (.inl stmt) database = .ok (value, database')) :
    exec env stmt database.toDb = .ok (value, database'.toDb) ∧
      database' = database.afterStmt database'.toDb stmt := by
  dsimp only [execAll] at success
  split at success
  · cases success
  · next answer db outcome =>
    cases success
    rw [Database.afterStmt_toDb]
    exact ⟨outcome, rfl⟩

theorem execAll_inr {stmt : AdminStmt} {value : stmt.Res}
    (success : execAll env (.inr stmt) database = .ok (value, database')) :
    env.fault = none ∧ stmt.effect env database = .ok (value, database') := by
  dsimp only [execAll] at success
  split at success
  · cases success
  · next clear => exact ⟨clear, success⟩

/-- An issued token is a new row that is not used. -/
theorem saveEnrollToken_ok {tokenHash : String} {hostnameHint : Option String}
    {expiresAt : Timestamp} {id : Uuid}
    (accepted : saveEnrollToken env tokenHash hostnameHint expiresAt database =
      .ok (id, database')) :
    Exists fun row => database.enrollTokens.insert? row =
      some database'.enrollTokens ∧
      database' = { database with enrollTokens := database'.enrollTokens } ∧
        row.id = id ∧
      varchar 64 tokenHash = .ok row.tokenHash ∧
        row.expiresAt = inMicros expiresAt ∧ row.usedAt = none := by
  unfold saveEnrollToken at accepted
  rcases bind_eq_ok.mp accepted with ⟨storedHash, hashOk, accepted⟩
  rcases bind_eq_ok.mp accepted with ⟨storedHint, _, accepted⟩
  rcases bind_eq_ok.mp accepted with ⟨storedExpiry, expiryOk, accepted⟩
  rcases bind_eq_ok.mp accepted with ⟨enrollTokens, inserted, accepted⟩
  cases accepted
  exact ⟨_, constrained_ok inserted, rfl, rfl, hashOk,
    (timestampParam_eq_ok.mp expiryOk).1, rfl⟩

/-- The row was there already, or is inserted with its references. -/
theorem insertOrIgnore_ok {ρ : Type} {Clash : ρ -> ρ -> Prop} [DecidableRel Clash]
    {name : String} {table table' : Table ρ Clash} {row : ρ} {present : List Bool}
    (accepted : insertOrIgnore name table row present = .ok table') :
    (table' = table ∧ Exists fun old => old ∈ table.rows ∧ Clash old row) ∨
      table'.rows = table.rows ++ [row] ∧ forall found, found ∈ present ->
        found = true := by
  unfold insertOrIgnore at accepted
  split at accepted
  · next refused =>
    left
    refine ⟨(Except.ok.inj accepted).symm, ?_⟩
    by_contra apart
    have insertable : (table.insert? row).isSome := by
      apply Table.insert?_isSome_iff.mpr
      intro old member clash
      exact apart ⟨old, member, clash⟩
    rw [refused] at insertable
    cases insertable
  · next inserted insertedOk =>
    right
    cases checked : references name (present.all id) with
    | error failure =>
        rw [checked] at accepted
        cases accepted
    | ok nothing =>
        rw [checked] at accepted
        cases accepted
        refine ⟨Table.insert?_rows insertedOk, ?_⟩
        intro found member
        exact List.all_eq_true.mp (references_ok checked) found member

/-! ## What a statement leaves alone -/

/-- What a statement of the administrator never changes, and what only some
change. -/
structure AdminFrame (stmt : AdminStmt)
    (database database' : Database) : Prop where
  collate : database'.collate = database.collate
  agents : database'.agents = database.agents
  agentCerts : database'.agentCerts = database.agentCerts
  policies : database'.policies = database.policies
  risks : database'.risks = database.risks
  checkResults : database'.checkResults = database.checkResults
  complianceScores : database'.complianceScores = database.complianceScores
  agentGroups : database'.agentGroups = database.agentGroups
  enrollTokens : database'.enrollTokens = database.enrollTokens ∨
    Exists fun tokenHash => Exists fun hostnameHint => Exists fun expiresAt =>
      stmt = .saveEnrollToken tokenHash hostnameHint expiresAt
  agentGroupMembership :
    database'.agentGroupMembership = database.agentGroupMembership ∨
    Exists fun agentId => Exists fun groupId =>
      stmt = .addAgentToGroup agentId groupId ∨
        stmt = .removeAgentFromGroup agentId groupId
  agentPolicies : database'.agentPolicies = database.agentPolicies ∨
    Exists fun agentId => Exists fun policyId =>
      stmt = .assignPolicyToAgent agentId policyId ∨
        stmt = .unassignPolicyFromAgent agentId policyId
  groupPolicies : database'.groupPolicies = database.groupPolicies ∨
    Exists fun groupId => Exists fun policyId =>
      stmt = .assignPolicyToGroup groupId policyId

theorem AdminStmt.effect_frame {stmt : AdminStmt} {value : stmt.Res}
    (effect : stmt.effect env database = .ok (value, database')) :
    AdminFrame stmt database database' := by
  cases stmt with
  | saveEnrollToken tokenHash hostnameHint expiresAt =>
      rcases saveEnrollToken_ok effect with ⟨_, _, same, _⟩
      rw [same]
      exact ⟨rfl, rfl, rfl, rfl, rfl, rfl, rfl, rfl, .inr ⟨_, _, _, rfl⟩,
        .inl rfl, .inl rfl, .inl rfl⟩
  | addAgentToGroup agentId groupId =>
      rcases bind_eq_ok.mp effect with ⟨_, _, effect⟩
      cases effect
      exact ⟨rfl, rfl, rfl, rfl, rfl, rfl, rfl, rfl, .inl rfl,
        .inr ⟨_, _, .inl rfl⟩, .inl rfl, .inl rfl⟩
  | removeAgentFromGroup agentId groupId =>
      cases effect
      exact ⟨rfl, rfl, rfl, rfl, rfl, rfl, rfl, rfl, .inl rfl,
        .inr ⟨_, _, .inr rfl⟩, .inl rfl, .inl rfl⟩
  | assignPolicyToAgent agentId policyId =>
      rcases bind_eq_ok.mp effect with ⟨_, _, effect⟩
      cases effect
      exact ⟨rfl, rfl, rfl, rfl, rfl, rfl, rfl, rfl, .inl rfl, .inl rfl,
        .inr ⟨_, _, .inl rfl⟩, .inl rfl⟩
  | unassignPolicyFromAgent agentId policyId =>
      cases effect
      exact ⟨rfl, rfl, rfl, rfl, rfl, rfl, rfl, rfl, .inl rfl, .inl rfl,
        .inr ⟨_, _, .inr rfl⟩, .inl rfl⟩
  | assignPolicyToGroup groupId policyId =>
      rcases bind_eq_ok.mp effect with ⟨_, _, effect⟩
      cases effect
      exact ⟨rfl, rfl, rfl, rfl, rfl, rfl, rfl, rfl, .inl rfl, .inl rfl, .inl rfl,
        .inr ⟨_, _, rfl⟩⟩
  | linkPolicyToRisk riskId policyId =>
      rcases bind_eq_ok.mp effect with ⟨_, _, effect⟩
      cases effect
      exact ⟨rfl, rfl, rfl, rfl, rfl, rfl, rfl, rfl, .inl rfl, .inl rfl,
        .inl rfl, .inl rfl⟩
  | _ =>
      cases effect
      exact ⟨rfl, rfl, rfl, rfl, rfl, rfl, rfl, rfl, .inl rfl, .inl rfl,
        .inl rfl, .inl rfl⟩

end Exec

end Complyx
