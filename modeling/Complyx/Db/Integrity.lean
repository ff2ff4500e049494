import Complyx.Db.Admin
import Complyx.Relational.ForeignKey
import Complyx.Transition.Log

namespace Complyx

open Relational Transition

/-!
# The database stays intact

No statement spans two tables on its own account, yet every row names rows of other
tables, and every program may stop, or wait, between two statements.  What the
schema asks for holds in every state all the same: a row that is written is written
with its references, and only the deletion of an agent takes rows away that others
name.
-/

/-- The foreign keys of the schema. -/
structure Intact (database : Database) : Prop where
  agentCerts :
    Refers AgentCertRow.agentId AgentRow.id database.agentCerts.rows
      database.agents.rows
  members :
    Refers AgentGroupMembershipRow.agentId AgentRow.id
      database.agentGroupMembership.rows database.agents.rows
  memberships :
    Refers AgentGroupMembershipRow.groupId AgentGroupRow.id
      database.agentGroupMembership.rows
    database.agentGroups.rows
  policyElements :
    Refers PolicyElementRow.policyId PolicyRow.id database.policyElements.rows
      database.policies.rows
  policyChecks :
    Refers PolicyCheckRow.policyElementId PolicyElementRow.id
      database.policyChecks.rows
    database.policyElements.rows
  policyRemediations :
    Refers PolicyRemediationRow.policyCheckId PolicyCheckRow.id
      database.policyRemediations.rows
    database.policyChecks.rows
  checkSections :
    Refers CheckRegulationSectionRow.checkId PolicyCheckRow.id
      database.checkRegulationSections.rows
    database.policyChecks.rows
  assignees :
    Refers AgentPolicyRow.agentId AgentRow.id database.agentPolicies.rows
      database.agents.rows
  assigned :
    Refers AgentPolicyRow.policyId PolicyRow.id database.agentPolicies.rows
      database.policies.rows
  groupAssignees :
    Refers GroupPolicyRow.groupId AgentGroupRow.id database.groupPolicies.rows
      database.agentGroups.rows
  groupAssigned :
    Refers GroupPolicyRow.policyId PolicyRow.id database.groupPolicies.rows
      database.policies.rows
  riskThreats :
    Refers RiskRow.threatId ThreatRow.id database.risks.rows database.threats.rows
  riskAgents :
    Refers RiskRow.agentId AgentRow.id database.risks.rows database.agents.rows
  resultAgents :
    Refers CheckResultRow.agentId AgentRow.id database.checkResults.rows
      database.agents.rows
  resultChecks :
    Refers CheckResultRow.checkId PolicyCheckRow.id database.checkResults.rows
      database.policyChecks.rows
  scoreAgents :
    Refers ComplianceScoreRow.agentId AgentRow.id database.complianceScores.rows
      database.agents.rows
  scoreElements :
    Refers ComplianceScoreRow.policyElementId PolicyElementRow.id
      database.complianceScores.rows
    database.policyElements.rows
  scorePolicies :
    Refers ComplianceScoreRow.policyId PolicyRow.id database.complianceScores.rows
      database.policies.rows
  linkedRisks :
    Refers RiskPolicyRow.riskId RiskRow.id database.riskPolicies.rows
      database.risks.rows
  linkedPolicies :
    Refers RiskPolicyRow.policyId PolicyRow.id database.riskPolicies.rows
      database.policies.rows

/-- Between zero and ten, where there is a value. -/
def RiskFigure (value : Option Rat) : Prop :=
  forall number, value = some number -> 0 ≤ number ∧ number ≤ 10

/-- The numbers are in the range of their columns, and what is accepted was accepted
at some time. -/
structure RiskRow.Valid (row : RiskRow) : Prop where
  impact : RiskFigure row.impact
  probability : RiskFigure row.probability
  acceptance : row.status = .accepted -> row.acceptanceDate.isSome = true

/-- The score is the share of the checks that passed. -/
structure ComplianceScoreRow.Valid (row : ComplianceScoreRow) : Prop where
  some_check : 0 < row.totalChecks
  passed : row.passedChecks ≤ row.totalChecks
  share : row.score = (row.passedChecks : Rat) / row.totalChecks * 100

/-- The foreign keys hold, and so does what the columns of risks and scores mean. -/
structure Sound (database : Database) : Prop where
  intact : Intact database
  risks : forall row, row ∈ database.risks.rows -> row.Valid
  scores : forall row, row ∈ database.complianceScores.rows -> row.Valid

/-! ## The statements that write rows with references -/

section Writes

variable {env : Env} {db db' : Db}

theorem mem_of_hasAgent {agentId : Uuid} (present : db.hasAgent agentId = true) :
    Exists fun row => row ∈ db.agents.rows ∧ row.id = agentId :=
  Db.hasAgent_iff.mp present

theorem mem_of_find_isSome {ρ κ : Type} {Clash : ρ -> ρ -> Prop} [DecidableEq κ]
    {table : Table ρ Clash} {key : ρ -> κ} {value : κ}
    (present : (table.find key value).isSome = true) :
    Exists fun row => row ∈ table.rows ∧ key row = value := by
  rcases Option.isSome_iff_exists.mp present with ⟨row, found⟩
  exact ⟨row, Table.find_some found⟩

theorem numeric31Opt_inRange {table : String} {value stored : Option Rat}
    (accepted : numeric31Opt table value = .ok stored) : RiskFigure stored := by
  intro number same
  subst same
  cases value with
  | none => cases accepted
  | some given =>
      dsimp only [numeric31Opt] at accepted
      cases rounded : numeric31 table given with
      | error failure =>
          rw [rounded] at accepted
          cases accepted
      | ok result =>
          rw [rounded] at accepted
          cases accepted
          unfold numeric31 at rounded
          dsimp only at rounded
          split at rounded
          · cases rounded
          · split at rounded
            · next inside =>
              cases rounded
              exact inside
            · cases rounded

/-- An inserted risk has its references and a valid row. -/
theorem insertRisk_valid {data : InsertRiskData} {riskId : Uuid}
    (accepted : insertRisk env data db = .ok (riskId, db')) :
    Exists fun row => db'.risks.rows = db.risks.rows ++ [row] ∧ row.Valid ∧
      (Exists fun threat => threat ∈ db.threats.rows ∧ threat.id = row.threatId) ∧
      Exists fun agent => agent ∈ db.agents.rows ∧ agent.id = row.agentId := by
  unfold insertRisk at accepted
  rcases bind_eq_ok.mp accepted with ⟨impact, impactOk, accepted⟩
  rcases bind_eq_ok.mp accepted with ⟨probability, probabilityOk, accepted⟩
  rcases bind_eq_ok.mp accepted with ⟨risks, inserted, accepted⟩
  rcases bind_eq_ok.mp accepted with ⟨_, threatFound, accepted⟩
  rcases bind_eq_ok.mp accepted with ⟨_, agentFound, accepted⟩
  cases accepted
  refine ⟨_, Table.insert?_rows (constrained_ok inserted), ?_,
    mem_of_find_isSome (references_ok threatFound),
      mem_of_hasAgent (references_ok agentFound)⟩
  refine ⟨numeric31Opt_inRange impactOk, numeric31Opt_inRange probabilityOk, ?_⟩
  intro impossible
  cases impossible

/-- Every result of a batch that is new has its agent and its check. -/
theorem insertCheckResultsFrom_references {index added : Nat}
    {results : List InsertCheckResult}
    (accepted : insertCheckResultsFrom env index results db = .ok (added, db'))
    {row : CheckResultRow} (member : row ∈ db'.checkResults.rows) :
    row ∈ db.checkResults.rows ∨
      (Exists fun agent => agent ∈ db.agents.rows ∧ agent.id = row.agentId) ∧
      Exists fun check => check ∈ db.policyChecks.rows ∧
        check.id = row.checkId := by
  induction results generalizing index added db with
  | nil =>
      cases accepted
      exact Or.inl member
  | cons result rest ih =>
      rcases insertCheckResultsFrom_cons accepted with
        ⟨one, middle, more, inserted, insertedRest, _⟩
      cases (insertCheckResult_ok inserted).2 with
      | kept present => exact ih insertedRest
      | added checkResults insertedRow absent agent check =>
          rcases ih insertedRest with before | found
          · dsimp only at before
            rw [Table.insert?_rows insertedRow] at before
            rcases List.mem_append.mp before with old | new
            · exact Or.inl old
            · rw [List.mem_singleton.mp new]
              exact Or.inr ⟨mem_of_hasAgent agent, mem_of_find_isSome check⟩
          · exact Or.inr found

/-- A score row after an upsert has the keys of a row that was there, or is new. -/
theorem upsertScore_origin
    {scores scores' : Table ComplianceScoreRow ComplianceScoreRow.Clash}
    {score : ComplianceScoreRow}
    (upserted : upsertScore scores score = .ok scores') {row : ComplianceScoreRow}
    (member : row ∈ scores'.rows) :
    (Exists fun old => old ∈ scores.rows ∧ row.scoreKey = old.scoreKey ∧
      row.policyId = old.policyId) ∨ row = score := by
  unfold upsertScore at upserted
  split at upserted
  · cases upserted
    rcases List.mem_map.mp member with ⟨old, oldMember, rfl⟩
    refine Or.inl ⟨old, oldMember, ?_⟩
    split <;> exact ⟨rfl, rfl⟩
  · rw [Table.insert?_rows (constrained_ok upserted)] at member
    rcases List.mem_append.mp member with before | new
    · exact Or.inl ⟨row, before, rfl, rfl⟩
    · exact Or.inr (List.mem_singleton.mp new)

theorem upsertScores_origin {rows : List ComplianceScoreRow}
    {scores scores' : Table ComplianceScoreRow ComplianceScoreRow.Clash}
    (upserted : rows.foldlM upsertScore scores = .ok scores')
    {row : ComplianceScoreRow} (member : row ∈ scores'.rows) :
    (Exists fun old => old ∈ scores.rows ∧ row.scoreKey = old.scoreKey ∧
      row.policyId = old.policyId) ∨
      Exists fun new => new ∈ rows ∧ row.scoreKey = new.scoreKey ∧
        row.policyId = new.policyId := by
  induction rows generalizing scores with
  | nil =>
      cases upserted
      exact Or.inl ⟨row, member, rfl, rfl⟩
  | cons score rest ih =>
      rw [List.foldlM_cons] at upserted
      rcases bind_eq_ok.mp upserted with ⟨middle, first, upserted⟩
      rcases ih upserted with
        ⟨old, oldMember, sameKey, samePolicy⟩ | ⟨new, newMember, same⟩
      · rcases upsertScore_origin first oldMember with
          ⟨before, beforeMember, sameKey', samePolicy'⟩ | rfl
        · exact Or.inl
            ⟨before, beforeMember, sameKey.trans sameKey',
              samePolicy.trans samePolicy'⟩
        · exact Or.inr ⟨old, List.mem_cons_self, sameKey, samePolicy⟩
      · exact Or.inr ⟨new, List.mem_cons_of_mem _ newMember, same⟩

theorem upsertScore_valid
    {scores scores' : Table ComplianceScoreRow ComplianceScoreRow.Clash}
    {score : ComplianceScoreRow}
    (upserted : upsertScore scores score = .ok scores')
    (before : forall row, row ∈ scores.rows -> row.Valid) (valid : score.Valid) :
    forall row, row ∈ scores'.rows -> row.Valid := by
  intro row member
  unfold upsertScore at upserted
  split at upserted
  · cases upserted
    rcases List.mem_map.mp member with ⟨old, oldMember, rfl⟩
    split
    · exact ⟨valid.some_check, valid.passed, valid.share⟩
    · exact before old oldMember
  · rw [Table.insert?_rows (constrained_ok upserted)] at member
    rcases List.mem_append.mp member with old | new
    · exact before row old
    · rw [List.mem_singleton.mp new]
      exact valid

theorem upsertScores_valid {rows : List ComplianceScoreRow}
    {scores scores' : Table ComplianceScoreRow ComplianceScoreRow.Clash}
    (upserted : rows.foldlM upsertScore scores = .ok scores')
    (before : forall row, row ∈ scores.rows -> row.Valid)
    (valid : forall row, row ∈ rows -> row.Valid) :
    forall row, row ∈ scores'.rows -> row.Valid := by
  induction rows generalizing scores with
  | nil =>
      cases upserted
      exact before
  | cons score rest ih =>
      rw [List.foldlM_cons] at upserted
      rcases bind_eq_ok.mp upserted with ⟨middle, first, upserted⟩
      have parts := List.forall_mem_cons.mp valid
      exact ih upserted (upsertScore_valid first before parts.1) parts.2

/-- A row the score query computes has its element, and valid numbers. -/
theorem elementScores_valid {now : Timestamp} {agentId : Uuid}
    {score : ComplianceScoreRow} (member : score ∈ elementScores now agentId db) :
    score.Valid ∧ score.agentId = agentId ∧ Exists fun element =>
      element ∈ db.policyElements.rows ∧
      element.id = score.policyElementId ∧ element.policyId = score.policyId := by
  rcases mem_elementScores.mp member with ⟨element, elementMember, scored⟩
  rcases elementScore_eq_some scored with ⟨nonempty, rfl⟩
  have positive : 0 < (db.checksOf element.id).length :=
    List.length_pos_iff.mpr nonempty
  refine ⟨⟨?_, ?_, ?_⟩, rfl, element, elementMember, rfl, rfl⟩
  · dsimp only [groupScore]
    rw [List.length_map]
    exact positive
  · exact List.countP_le_length
  · dsimp only [groupScore]
    rw [List.length_map, if_pos positive]

/-- Scores are written for an agent that exists. -/
theorem upsertComplianceScores_agent {agentId : Uuid}
    {stored : List ComplianceScoreRow}
    (accepted : upsertComplianceScores env agentId db = .ok (stored, db'))
    {score : ComplianceScoreRow}
    (member : score ∈ elementScores env.now agentId db) :
    db.hasAgent agentId = true := by
  unfold upsertComplianceScores at accepted
  rcases bind_eq_ok.mp accepted with ⟨complianceScores, upserted, accepted⟩
  rcases bind_eq_ok.mp accepted with ⟨_, referenced, _⟩
  rcases Bool.or_eq_true_iff.mp (references_ok referenced) with empty | present
  · rw [List.isEmpty_iff.mp empty] at member
    cases member
  · exact present

end Writes

/-! ## One statement of the server -/

section Statement

variable {env : Env} {stmt : Stmt} {db db' : Db} {value : stmt.Res}

/-- Only a deletion loses an agent. -/
theorem agents_kept (effect : stmt.effect env db = .ok (value, db'))
    (kept : stmt.writesAssignments = false) :
    KeysKept AgentRow.id db.agents.rows db'.agents.rows := by
  have frame := Stmt.effect_frame effect
  cases stmt with
  | deleteAgent agentId => cases kept
  | setEnabled agentId enabled =>
      cases effect
      apply keysKept_map
      intro row
      split <;> rfl
  | updateLatestConnection agentId =>
      cases effect
      apply keysKept_map
      intro row
      split <;> rfl
  | upsertAgent data =>
      intro row member
      rcases upsertAgent_registered effect with
        ⟨_, ⟨registered, sameId, sameIp, _, rows⟩, keeps⟩
      by_cases here : row.ip = data.ip
      · exact ⟨registered, (rows registered).mpr (Or.inr rfl),
          sameId.trans (keeps row member here).symm⟩
      · exact ⟨row, (rows row).mpr (Or.inl ⟨member, here⟩), rfl⟩
  | _ =>
      rw [frame.agents rfl]
      exact KeysKept.refl _

/-- Only a deletion loses a risk. -/
theorem risks_kept (effect : stmt.effect env db = .ok (value, db'))
    (kept : stmt.writesAssignments = false) :
    KeysKept RiskRow.id db.risks.rows db'.risks.rows := by
  have frame := Stmt.effect_frame effect
  cases stmt with
  | deleteAgent agentId => cases kept
  | insertRisk data =>
      rcases insertRisk_valid effect with ⟨row, rows, _⟩
      rw [rows]
      exact keysKept_append _ _
  | setRiskStatus riskId status =>
      cases effect
      apply keysKept_map
      intro row
      split <;> rfl
  | _ =>
      rw [frame.risks rfl]
      exact KeysKept.refl _

theorem certs_origin (effect : stmt.effect env db = .ok (value, db'))
    (kept : stmt.writesAssignments = false) {row : AgentCertRow}
    (member : row ∈ db'.agentCerts.rows) :
    (Exists fun old => old ∈ db.agentCerts.rows ∧ row.agentId = old.agentId) ∨
      Exists fun agent => agent ∈ db.agents.rows ∧ agent.id = row.agentId := by
  have frame := Stmt.effect_frame effect
  cases stmt with
  | deleteAgent agentId => cases kept
  | storeCert agentId certPem serial =>
      rcases (storeCert_ok effect).2 with ⟨stored, _, stepped⟩
      cases stepped with
      | replaced old agentCerts present updated =>
          dsimp only at member
          rw [updated] at member
          rcases List.mem_map.mp member with ⟨before, beforeMember, rfl⟩
          refine Or.inl ⟨before, beforeMember, ?_⟩
          split <;> rfl
      | added agentCerts absent inserted agent =>
          dsimp only at member
          rw [inserted] at member
          rcases List.mem_append.mp member with before | new
          · exact Or.inl ⟨row, before, rfl⟩
          · rw [List.mem_singleton.mp new]
            exact Or.inr (mem_of_hasAgent agent)
  | revokeCert agentId =>
      cases effect
      rcases mem_revokeCert.mp member with ⟨before, _⟩ | ⟨old, oldMember, _, rfl⟩
      · exact Or.inl ⟨row, before, rfl⟩
      · exact Or.inl ⟨old, oldMember, rfl⟩
  | _ =>
      rw [frame.agentCerts rfl] at member
      exact Or.inl ⟨row, member, rfl⟩

theorem risks_origin (effect : stmt.effect env db = .ok (value, db'))
    (kept : stmt.writesAssignments = false) {row : RiskRow}
    (member : row ∈ db'.risks.rows) :
    (Exists fun old => old ∈ db.risks.rows ∧ row.agentId = old.agentId ∧
      row.threatId = old.threatId) ∨
      (Exists fun agent => agent ∈ db.agents.rows ∧ agent.id = row.agentId) ∧
        Exists fun threat => threat ∈ db.threats.rows ∧
          threat.id = row.threatId := by
  have frame := Stmt.effect_frame effect
  cases stmt with
  | deleteAgent agentId => cases kept
  | insertRisk data =>
      rcases insertRisk_valid effect with ⟨new, rows, _, threat, agent⟩
      rw [rows] at member
      rcases List.mem_append.mp member with before | here
      · exact Or.inl ⟨row, before, rfl, rfl⟩
      · rw [List.mem_singleton.mp here]
        exact Or.inr ⟨agent, threat⟩
  | setRiskStatus riskId status =>
      cases effect
      rcases List.mem_map.mp member with ⟨old, oldMember, rfl⟩
      refine Or.inl ⟨old, oldMember, ?_⟩
      split <;> exact ⟨rfl, rfl⟩
  | _ =>
      rw [frame.risks rfl] at member
      exact Or.inl ⟨row, member, rfl, rfl⟩

theorem results_origin (effect : stmt.effect env db = .ok (value, db'))
    (kept : stmt.writesAssignments = false) {row : CheckResultRow}
    (member : row ∈ db'.checkResults.rows) :
    row ∈ db.checkResults.rows ∨
      (Exists fun agent => agent ∈ db.agents.rows ∧ agent.id = row.agentId) ∧
      Exists fun check => check ∈ db.policyChecks.rows ∧
        check.id = row.checkId := by
  have frame := Stmt.effect_frame effect
  cases stmt with
  | deleteAgent agentId => cases kept
  | insertCheckResults results =>
      exact insertCheckResultsFrom_references effect member
  | _ =>
      rw [frame.checkResults rfl] at member
      exact Or.inl member

theorem scores_origin (effect : stmt.effect env db = .ok (value, db'))
    (kept : stmt.writesAssignments = false) {row : ComplianceScoreRow}
    (member : row ∈ db'.complianceScores.rows) :
    (Exists fun old => old ∈ db.complianceScores.rows ∧
      row.scoreKey = old.scoreKey ∧ row.policyId = old.policyId) ∨
      (Exists fun agent => agent ∈ db.agents.rows ∧ agent.id = row.agentId) ∧
        Exists fun element => element ∈ db.policyElements.rows ∧
          element.id = row.policyElementId ∧
          element.policyId = row.policyId := by
  have frame := Stmt.effect_frame effect
  cases stmt with
  | deleteAgent agentId => cases kept
  | upsertComplianceScores agentId =>
      rcases upsertScores_origin (upsertComplianceScores_ok effect).2.1
        member with before | ⟨new, newMember, sameKey, same⟩
      · exact Or.inl before
      · rcases elementScores_valid newMember with
          ⟨_, sameAgent, element, elementMember, sameId, samePolicy⟩
        rcases Prod.mk.inj sameKey with ⟨agentOf, elementOf⟩
        refine Or.inr ⟨?_, element, elementMember, sameId.trans elementOf.symm,
          samePolicy.trans same.symm⟩
        rw [agentOf, sameAgent]
        exact mem_of_hasAgent (upsertComplianceScores_agent effect newMember)
  | _ =>
      rw [frame.complianceScores rfl] at member
      exact Or.inl ⟨row, member, rfl, rfl⟩

theorem risks_valid (effect : stmt.effect env db = .ok (value, db'))
    (valid : forall row, row ∈ db.risks.rows -> row.Valid) :
    forall row, row ∈ db'.risks.rows -> row.Valid := by
  have frame := Stmt.effect_frame effect
  intro row member
  cases stmt with
  | deleteAgent agentId =>
      cases effect
      exact valid row (List.mem_filter.mp member).1
  | insertRisk data =>
      rcases insertRisk_valid effect with ⟨new, rows, newValid, _⟩
      rw [rows] at member
      rcases List.mem_append.mp member with before | here
      · exact valid row before
      · rw [List.mem_singleton.mp here]
        exact newValid
  | setRiskStatus riskId status =>
      cases effect
      rcases List.mem_map.mp member with ⟨old, oldMember, rfl⟩
      have before := valid old oldMember
      split
      · refine ⟨before.impact, before.probability, ?_⟩
        intro accepted
        dsimp only at accepted ⊢
        rw [if_pos accepted]
        rfl
      · exact before
  | _ =>
      rw [frame.risks rfl] at member
      exact valid row member

theorem scores_valid (effect : stmt.effect env db = .ok (value, db'))
    (valid : forall row, row ∈ db.complianceScores.rows -> row.Valid) :
    forall row, row ∈ db'.complianceScores.rows -> row.Valid := by
  have frame := Stmt.effect_frame effect
  intro row member
  cases stmt with
  | deleteAgent agentId =>
      cases effect
      exact valid row (List.mem_filter.mp member).1
  | upsertComplianceScores agentId =>
      have scored := (upsertComplianceScores_ok effect).2.1
      exact upsertScores_valid scored valid
        (fun new newMember => (elementScores_valid newMember).1) row member
  | _ =>
      rw [frame.complianceScores rfl] at member
      exact valid row member

end Statement

/-! ## All statements -/

section Step

variable {env : Env} {database database' : Database}

/-- A deletion takes along every row that names the agent, or one of its risks. -/
theorem deleteAgent_intact (agentId : Uuid) (intact : Intact database) :
    Intact
      (database.afterStmt (deleteAgent agentId database.toDb)
        (.deleteAgent agentId)) := by
  have own : forall {γ : Type} {column : γ -> Uuid} {children : List γ},
      Refers column AgentRow.id children database.agents.rows ->
        Refers column AgentRow.id
          (children.filter fun child => decide (column child ≠ agentId))
          (database.agents.rows.filter fun row => decide (row.id ≠ agentId)) := by
    intro γ column children refers
    apply refers.cascade
    intro child parent stays keyed
    rw [keyed]
    exact stays
  constructor
  · exact own intact.agentCerts
  · exact own intact.members
  · exact intact.memberships.filter _
  · exact intact.policyElements
  · exact intact.policyChecks
  · exact intact.policyRemediations
  · exact intact.checkSections
  · exact own intact.assignees
  · exact intact.assigned.filter _
  · exact intact.groupAssignees
  · exact intact.groupAssigned
  · exact intact.riskThreats.filter _
  · exact own intact.riskAgents
  · exact own intact.resultAgents
  · exact intact.resultChecks.filter _
  · exact own intact.scoreAgents
  · exact intact.scoreElements.filter _
  · exact intact.scorePolicies.filter _
  · intro link member
    rcases List.mem_filter.mp member with ⟨before, stays⟩
    rcases intact.linkedRisks link before with ⟨risk, riskMember, sameId⟩
    refine ⟨risk, List.mem_filter.mpr ⟨riskMember, decide_eq_true ?_⟩, sameId⟩
    intro here
    rw [Bool.not_eq_true'] at stays
    apply List.any_eq_false.mp stays risk riskMember
    rw [decide_eq_true sameId, decide_eq_true here]
    rfl
  · exact intact.linkedPolicies.filter _

/-- Every other statement of the server writes rows with their references. -/
theorem stmt_intact {stmt : Stmt} {value : stmt.Res} {db : Db}
    (effect : stmt.effect env database.toDb = .ok (value, db))
    (kept : stmt.writesAssignments = false) (intact : Intact database) :
    Intact { database with toDb := db } := by
  have frame := Stmt.effect_frame effect
  have agents := agents_kept effect kept
  have found : forall {value : Uuid},
    (Exists fun agent => agent ∈ database.agents.rows ∧ agent.id = value) ->
      Exists fun agent => agent ∈ db.agents.rows ∧ agent.id = value := by
    rintro value ⟨agent, member, rfl⟩
    exact agents agent member
  constructor <;> dsimp only
  · apply intact.agentCerts.of_origin agents
    intro row member
    exact (certs_origin effect kept member).imp_right found
  · rw [frame.agentGroupMembership kept]
    exact intact.members.kept agents
  · rw [frame.agentGroupMembership kept]
    exact intact.memberships
  · rw [frame.policyElements, frame.policies]
    exact intact.policyElements
  · rw [frame.policyChecks, frame.policyElements]
    exact intact.policyChecks
  · rw [frame.policyRemediations, frame.policyChecks]
    exact intact.policyRemediations
  · rw [frame.checkRegulationSections, frame.policyChecks]
    exact intact.checkSections
  · rw [frame.agentPolicies kept]
    exact intact.assignees.kept agents
  · rw [frame.agentPolicies kept, frame.policies]
    exact intact.assigned
  · rw [frame.groupPolicies]
    exact intact.groupAssignees
  · rw [frame.groupPolicies, frame.policies]
    exact intact.groupAssigned
  · rw [frame.threats]
    apply intact.riskThreats.of_origin (KeysKept.refl _)
    intro row member
    exact (risks_origin effect kept member).imp
      (fun ⟨old, oldMember, _, same⟩ => ⟨old, oldMember, same⟩) And.right
  · apply intact.riskAgents.of_origin agents
    intro row member
    exact (risks_origin effect kept member).imp
      (fun ⟨old, oldMember, same, _⟩ => ⟨old, oldMember, same⟩)
      fun both => found both.1
  · apply intact.resultAgents.of_origin agents
    intro row member
    exact (results_origin effect kept member).imp
      (fun before => ⟨row, before, rfl⟩) fun both => found both.1
  · rw [frame.policyChecks]
    apply intact.resultChecks.of_origin (KeysKept.refl _)
    intro row member
    exact (results_origin effect kept member).imp
      (fun before => ⟨row, before, rfl⟩) And.right
  · apply intact.scoreAgents.of_origin agents
    intro row member
    rcases scores_origin effect kept member with
      ⟨old, oldMember, sameKey, _⟩ | ⟨agent, _⟩
    · exact Or.inl ⟨old, oldMember, (Prod.mk.inj sameKey).1⟩
    · exact Or.inr (found agent)
  · rw [frame.policyElements]
    apply intact.scoreElements.of_origin (KeysKept.refl _)
    intro row member
    rcases scores_origin effect kept member with
      ⟨old, oldMember, sameKey, _⟩ | ⟨_, element, elementMember, sameId, _⟩
    · exact Or.inl ⟨old, oldMember, (Prod.mk.inj sameKey).2⟩
    · exact Or.inr ⟨element, elementMember, sameId⟩
  · rw [frame.policies]
    apply intact.scorePolicies.of_origin (KeysKept.refl _)
    intro row member
    rcases scores_origin effect kept member with
      ⟨old, oldMember, _, same⟩ | ⟨_, element, elementMember, _, same⟩
    · exact Or.inl ⟨old, oldMember, same⟩
    · rcases intact.policyElements element elementMember with
        ⟨policy, policyMember, sameId⟩
      exact Or.inr ⟨policy, policyMember, sameId.trans same⟩
  · exact intact.linkedRisks.kept (risks_kept effect kept)
  · rw [frame.policies]
    exact intact.linkedPolicies

theorem afterStmt_of_kept {stmt : Stmt} (kept : stmt.writesAssignments = false)
    (db : Db) :
    database.afterStmt db stmt = { database with toDb := db } := by
  cases stmt with
  | deleteAgent agentId => cases kept
  | _ => rfl

theorem stmt_sound {stmt : Stmt} {value : stmt.Res}
    (success : execAll env (.inl stmt) database = .ok (value, database'))
    (sound : Sound database) : Sound database' := by
  rcases execAll_inl success with ⟨executed, same⟩
  have effect := (exec_ok executed).2
  generalize database'.toDb = db at executed effect same
  subst database'
  refine ⟨?_, ?_, ?_⟩
  · cases kept : stmt.writesAssignments with
    | false =>
        rw [afterStmt_of_kept kept]
        exact stmt_intact effect kept sound.intact
    | true =>
        cases stmt with
        | deleteAgent agentId =>
            cases effect
            exact deleteAgent_intact agentId sound.intact
        | _ => cases kept
  · rw [Database.afterStmt_toDb]
    exact risks_valid effect sound.risks
  · rw [Database.afterStmt_toDb]
    exact scores_valid effect sound.scores

/-- A row that two references are checked for. -/
theorem insertOrIgnore_refers {ρ γ δ : Type} {Clash : ρ -> ρ -> Prop}
    [DecidableRel Clash] {name : String} {table table' : Table ρ Clash} {row : ρ}
    {first second : Bool}
    (accepted : insertOrIgnore name table row [first, second] = .ok table')
    {column : ρ -> Uuid} {key : γ -> Uuid} {parents : List γ} {other : ρ -> Uuid}
    {otherKey : δ -> Uuid} {others : List δ}
    (found : first = true -> Exists fun parent => parent ∈ parents ∧
      key parent = column row)
    (foundOther : second = true -> Exists fun parent => parent ∈ others ∧
      otherKey parent = other row)
    (refers : Refers column key table.rows parents)
    (refersOther : Refers other otherKey table.rows others) :
    Refers column key table'.rows parents ∧
      Refers other otherKey table'.rows others := by
  rcases insertOrIgnore_ok accepted with ⟨rfl, _⟩ | ⟨rows, checked⟩
  · exact ⟨refers, refersOther⟩
  · rw [rows]
    have both := List.forall_mem_cons.mp checked
    exact ⟨refers.append (found both.1),
      refersOther.append (foundOther (both.2 second List.mem_cons_self))⟩

theorem group_found {groupId : Uuid}
    (present : (getGroup groupId database).isSome = true) :
    Exists fun row => row ∈ database.agentGroups.rows ∧ row.id = groupId :=
  mem_of_find_isSome present

theorem policy_found {policyId : Uuid}
    (present : (getPolicy policyId database.toDb).isSome = true) :
    Exists fun row => row ∈ database.policies.rows ∧ row.id = policyId :=
  mem_of_find_isSome present

theorem risk_found {riskId : Uuid}
    (present : (getRisk riskId database.toDb).isSome = true) :
    Exists fun row => row ∈ database.risks.rows ∧ row.id = riskId :=
  mem_of_find_isSome present

theorem adminStmt_intact {stmt : AdminStmt} {value : stmt.Res}
    (effect : stmt.effect env database = .ok (value, database'))
    (intact : Intact database) : Intact database' := by
  cases stmt with
  | saveEnrollToken tokenHash hostnameHint expiresAt =>
      rcases saveEnrollToken_ok effect with ⟨_, _, same, _⟩
      rw [same]
      exact { intact with }
  | addAgentToGroup agentId groupId =>
      rcases bind_eq_ok.mp effect with ⟨memberships, inserted, effect⟩
      cases effect
      have refers :=
        insertOrIgnore_refers inserted mem_of_hasAgent group_found intact.members
          intact.memberships
      exact { intact with members := refers.1, memberships := refers.2 }
  | removeAgentFromGroup agentId groupId =>
      cases effect
      exact { intact with
        members := intact.members.filter _,
        memberships := intact.memberships.filter _ }
  | assignPolicyToAgent agentId policyId =>
      rcases bind_eq_ok.mp effect with ⟨agentPolicies, inserted, effect⟩
      cases effect
      have refers :=
        insertOrIgnore_refers inserted mem_of_hasAgent policy_found
          intact.assignees intact.assigned
      exact { intact with assignees := refers.1, assigned := refers.2 }
  | assignPolicyToGroup groupId policyId =>
      rcases bind_eq_ok.mp effect with ⟨groupPolicies, inserted, effect⟩
      cases effect
      have refers :=
        insertOrIgnore_refers inserted group_found policy_found
          intact.groupAssignees
          intact.groupAssigned
      exact { intact with groupAssignees := refers.1, groupAssigned := refers.2 }
  | unassignPolicyFromAgent agentId policyId =>
      cases effect
      exact { intact with
        assignees := intact.assignees.filter _,
        assigned := intact.assigned.filter _ }
  | linkPolicyToRisk riskId policyId =>
      rcases bind_eq_ok.mp effect with ⟨riskPolicies, inserted, effect⟩
      cases effect
      have refers :=
        insertOrIgnore_refers inserted risk_found policy_found intact.linkedRisks
          intact.linkedPolicies
      exact { intact with linkedRisks := refers.1, linkedPolicies := refers.2 }
  | _ =>
      cases effect
      exact intact

theorem execAll_sound {op : Stmt ⊕ AdminStmt}
    {value : Sum.elim Stmt.Res AdminStmt.Res op}
    (success : execAll env op database = .ok (value, database'))
    (sound : Sound database) : Sound database' := by
  cases op with
  | inl stmt => exact stmt_sound success sound
  | inr stmt =>
      have effect := (execAll_inr success).2
      have frame := AdminStmt.effect_frame effect
      refine ⟨adminStmt_intact effect sound.intact, ?_, ?_⟩
      · rw [frame.risks]
        exact sound.risks
      · rw [frame.complianceScores]
        exact sound.scores

end Step

/-- Whatever programs run, however their statements interleave and wherever they
fail, every state is sound. -/
theorem database_stays_sound {ε α : Type} (pool : DatabasePool ε α)
    (sound : Sound pool.store) (labels : List (Nat × Env)) :
    Always (Pool.step execAll) (fun pool => Sound pool.store) pool labels := by
  have step : forall (pool : DatabasePool ε α) label, Sound pool.store ->
      Sound (pool.step execAll label).store := by
    intro pool label sound
    rcases Pool.entry_cases execAll pool label with
      ⟨_, same⟩ | ⟨op, value, database, _, outcome, store⟩
    · rw [same]
      exact sound
    · rw [store]
      exact execAll_sound outcome sound
  exact always_of_preserved step sound labels

/-- One agent with an assigned policy, and a risk the policy is linked to. -/
def linkedDatabase : Database where
  agents :=
    ⟨[⟨61, .host 0x0a000061, some "desk-61", some "Linux", some "6.8", 0, 0,
      true⟩], by decide⟩
  policies := ⟨[⟨62, "SSH", "1.0", none, some "high"⟩], by decide⟩
  policyElements := ⟨[⟨63, 62, some "sshd"⟩], by decide⟩
  policyChecks := ⟨[⟨64, 63, "root login", none, "\x7b\x7d"⟩], by decide⟩
  agentPolicies := ⟨[⟨61, 62⟩], by decide⟩
  threats := ⟨[⟨65, "weak login", none, some "compliance", some 8, 0⟩], by decide⟩
  risks :=
    ⟨[⟨66, 65, 61, some 8, some 5, some .high, .«open», 0, none, none⟩], by
      decide⟩
  riskPolicies := ⟨[⟨66, 62⟩], by decide⟩

/-- A risk is raised, its agent deleted, and a policy linked to the risk. -/
def linkingPool : DatabasePool DbError Unit where
  threads := [
    .call (.inl (.insertRisk ⟨65, 61, some 7, none, some .high⟩))
      fun _ => .done (),
    .call (.inl (.deleteAgent 61)) fun _ => .done (),
    .call (.inr (.linkPolicyToRisk 67 62)) fun _ => .done ()]
  store := linkedDatabase

theorem linking_stays_sound : Sound linkedDatabase ∧
    Always (Pool.step execAll) (fun pool => Sound pool.store) linkingPool
      ([0, 2, 1].map fun index =>
        (index, { now := 1, fresh := fun _ => 67 })) := by
  have sound : Sound linkedDatabase := by
    refine ⟨?_, ?_, ?_⟩
    · constructor <;> unfold Refers <;> decide
    · intro row member
      rw [List.mem_singleton.mp member]
      refine ⟨?_, ?_, ?_⟩
      · rintro number same
        rw [← Option.some.inj same]
        decide
      · rintro number same
        rw [← Option.some.inj same]
        decide
      · intro impossible
        cases impossible
    · intro row member
      cases member
  exact ⟨sound, database_stays_sound linkingPool sound _⟩

end Complyx
