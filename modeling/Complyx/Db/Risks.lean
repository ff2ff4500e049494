import Complyx.Db.Agents
import Mathlib.Data.List.Sort

namespace Complyx

open Relational

/-!
# Queries on threats and risks

A risk row names an agent and a threat and nothing else: no check, and no
constraint on how many open rows one pair may have.  The query for an open risk
and the insertion of one are two statements.
-/

/-- `list_threats`, ordered by name. -/
def listThreats (db : Db) : List ThreatRow :=
  db.threats.rows.insertionSort fun first second =>
    db.collate first.name second.name = true

theorem mem_listThreats {db : Db} {threat : ThreatRow} :
    threat ∈ listThreats db <-> threat ∈ db.threats.rows :=
  (List.perm_insertionSort _ _).mem_iff

/-- The risk is one of the pair's open ones. -/
def RiskRow.isOpenFor (agentId threatId : Uuid) (row : RiskRow) : Bool :=
  row.agentId = agentId && row.threatId = threatId && row.status = .«open»

theorem RiskRow.isOpenFor_iff {agentId threatId : Uuid} {row : RiskRow} :
    row.isOpenFor agentId threatId = true <->
      row.agentId = agentId ∧ row.threatId = threatId ∧ row.status = .«open» := by
  simp only [isOpenFor, Bool.and_eq_true, decide_eq_true_eq, and_assoc]

/-- `find_open_risk`. -/
def findOpenRisk (env : Env) (agentId threatId : Uuid) (db : Db) : Option Uuid :=
  (limitOne env.pick
    (db.risks.rows.filter (RiskRow.isOpenFor agentId threatId))).map RiskRow.id

theorem findOpenRisk_some {env : Env} {agentId threatId riskId : Uuid} {db : Db}
    (found : findOpenRisk env agentId threatId db = some riskId) :
    Exists fun row => row ∈ db.risks.rows ∧
      row.isOpenFor agentId threatId = true ∧ row.id = riskId := by
  unfold findOpenRisk at found
  rcases Option.map_eq_some_iff.mp found with ⟨row, chosen, same⟩
  have member := List.mem_filter.mp (limitOne_mem chosen)
  exact ⟨row, member.1, member.2, same⟩

theorem findOpenRisk_none_iff {env : Env} {agentId threatId : Uuid} {db : Db} :
    findOpenRisk env agentId threatId db = none <->
      forall row, row ∈ db.risks.rows ->
        row.isOpenFor agentId threatId ≠ true := by
  rw [findOpenRisk, Option.map_eq_none_iff, limitOne_none_iff,
    List.filter_eq_nil_iff]

structure InsertRiskData where
  threatId : Uuid
  agentId : Uuid
  impact : Option Rat
  probability : Option Rat
  riskLevel : Option RiskLevel
  deriving DecidableEq

/-- A nullable NUMERIC(3,1) parameter. -/
def numeric31Opt (table : String) : Option Rat -> Except DbError (Option Rat)
  | none => .ok none
  | some value => some <$> numeric31 table value

/-- `insert_risk`. -/
def insertRisk (env : Env) (data : InsertRiskData) (db : Db) :
    Except DbError (Uuid × Db) := do
  let impact <- numeric31Opt "risks" data.impact
  let probability <- numeric31Opt "risks" data.probability
  let risks <- constrained "risks" (db.risks.insert?
    { id := env.fresh 0, threatId := data.threatId, agentId := data.agentId
      impact := impact, probability := probability
      riskLevel := data.riskLevel, status := .«open»
      createdDate := env.now, reviewDate := none, acceptanceDate := none })
  references "risks" (db.threats.find ThreatRow.id data.threatId).isSome
  references "risks" (db.hasAgent data.agentId)
  return (env.fresh 0, { db with risks := risks })

/-- The effect of an insertion: one new open risk of the pair, under an
identifier no other risk has. -/
structure RiskInserted (db db' : Db) (agentId threatId riskId : Uuid) : Prop where
  frame : db' = { db with risks := db'.risks }
  rows : Exists fun row => row.id = riskId ∧
    row.isOpenFor agentId threatId = true ∧
    db'.risks.rows = db.risks.rows ++ [row]
  fresh : forall old, old ∈ db.risks.rows -> old.id ≠ riskId

/-- The row of an accepted insertion. -/
theorem insertRisk_ok {env : Env} {data : InsertRiskData} {db db' : Db}
    {riskId : Uuid} (accepted : insertRisk env data db = .ok (riskId, db')) :
    Exists fun row => db.risks.insert? row = some db'.risks ∧
      db' = { db with risks := db'.risks } ∧ row.id = riskId ∧
      row.isOpenFor data.agentId data.threatId = true ∧
        row.riskLevel = data.riskLevel := by
  unfold insertRisk at accepted
  rcases bind_eq_ok.mp accepted with ⟨impact, _, accepted⟩
  rcases bind_eq_ok.mp accepted with ⟨probability, _, accepted⟩
  rcases bind_eq_ok.mp accepted with ⟨risks, inserted, accepted⟩
  rcases bind_eq_ok.mp accepted with ⟨_, threatFound, accepted⟩
  rcases bind_eq_ok.mp accepted with ⟨_, agentFound, accepted⟩
  cases accepted
  refine ⟨_, constrained_ok inserted, rfl, rfl, ?_, rfl⟩
  rw [RiskRow.isOpenFor_iff]
  exact ⟨rfl, rfl, rfl⟩

theorem insertRisk_inserted {env : Env} {data : InsertRiskData} {db db' : Db}
    {riskId : Uuid} (accepted : insertRisk env data db = .ok (riskId, db')) :
    RiskInserted db db' data.agentId data.threatId riskId := by
  rcases insertRisk_ok accepted with ⟨row, inserted, frame, sameId, isOpen, _⟩
  refine ⟨frame, ⟨row, sameId, isOpen, Table.insert?_rows inserted⟩, ?_⟩
  intro old member same
  exact Table.insert?_apart inserted member (same.trans sameId.symm)

/-- `set_risk_status`. -/
def setRiskStatus (env : Env) (riskId : Uuid) (status : RiskStatus)
    (db : Db) : Db :=
  let acceptanceDate := if status = .accepted then some env.clock else none
  { db with
    risks := db.risks.map
      (fun row =>
        if row.id = riskId then
          { row with
            status := status,
            acceptanceDate := acceptanceDate.or row.acceptanceDate }
        else row)
      (by
        intro first second clash
        split at clash <;> split at clash <;> exact clash) }

theorem setRiskStatus_rows (env : Env) (riskId : Uuid) (status : RiskStatus)
    (db : Db) :
    (setRiskStatus env riskId status db).risks.rows = db.risks.rows.map fun row =>
      if row.id = riskId then
        { row with status := status
                   acceptanceDate :=
                     (if status = .accepted then some env.clock else none).or
                       row.acceptanceDate }
      else row := rfl

end Complyx
