import Complyx.Ingest.Ingester

namespace Complyx

open Relational Transition

/-!
# The rows of other agents

The statements of an ingestion name the agent they act for, all but one: a risk
is closed by its identifier alone.  The trigger found it under the agent before,
and identifiers are unique, so it is the agent's own.
-/

/-- Nothing changes but rows of the agent, its latest connection, its results,
its scores and its risks. -/
structure OthersKept (agentId : Uuid) (db db' : Db) : Prop where
  frame : db' = { db with
    agents := db'.agents, risks := db'.risks, checkResults := db'.checkResults
    complianceScores := db'.complianceScores }
  agents : (db'.agents.rows.filter fun row => row.id ≠ agentId) =
    db.agents.rows.filter fun row => row.id ≠ agentId
  risks : (db'.risks.rows.filter fun row => row.agentId ≠ agentId) =
    db.risks.rows.filter fun row => row.agentId ≠ agentId
  checkResults : (db'.checkResults.rows.filter fun row => row.agentId ≠ agentId) =
    db.checkResults.rows.filter fun row => row.agentId ≠ agentId
  complianceScores :
    (db'.complianceScores.rows.filter fun row => row.agentId ≠ agentId) =
    db.complianceScores.rows.filter fun row => row.agentId ≠ agentId

theorem OthersKept.rfl {agentId : Uuid} {db : Db} : OthersKept agentId db db := by
  constructor <;> exact Eq.refl _

theorem OthersKept.trans {agentId : Uuid} {first second third : Db}
    (early : OthersKept agentId first second)
    (late : OthersKept agentId second third) :
    OthersKept agentId first third where
  frame := by
    rw [late.frame, early.frame]
  agents := late.agents.trans early.agents
  risks := late.risks.trans early.risks
  checkResults := late.checkResults.trans early.checkResults
  complianceScores := late.complianceScores.trans early.complianceScores

instance (agentId : Uuid) : Std.Refl (OthersKept agentId) :=
      ⟨fun _ => OthersKept.rfl⟩

instance (agentId : Uuid) : IsTrans Db (OthersKept agentId) :=
      ⟨fun _ _ _ => OthersKept.trans⟩

/-! ## One statement -/

section Statement

variable {agentId : Uuid} {db db' : Db}

theorem updateLatestConnection_others (env : Env) (agentId : Uuid) (db : Db) :
    OthersKept agentId db (updateLatestConnection env agentId db) where
  frame := rfl
  agents := by
    apply Table.filter_map_fixed
    · intro row _
      split <;> rfl
    · intro row _ other
      exact if_neg (of_decide_eq_true other)
  risks := rfl
  checkResults := rfl
  complianceScores := rfl

theorem insertCheckResult_others {env : Env} {index added : Nat}
    {result : InsertCheckResult}
    (accepted : insertCheckResult env index result db = .ok (added, db'))
    (own : result.agentId = agentId) :
    OthersKept agentId db db' := by
  cases (insertCheckResult_ok accepted).2 with
  | kept present => exact OthersKept.rfl
  | added checkResults inserted absent agent check =>
      refine ⟨rfl, rfl, rfl, ?_, rfl⟩
      rw [Table.insert?_rows inserted]
      apply Table.filter_append_dropped
      exact decide_eq_false (not_not.mpr own)

theorem insertCheckResultsFrom_others {env : Env} {index added : Nat}
    {results : List InsertCheckResult}
    (accepted : insertCheckResultsFrom env index results db = .ok (added, db'))
    (own : forall result, result ∈ results -> result.agentId = agentId) :
    OthersKept agentId db db' := by
  induction results generalizing index added db with
  | nil =>
      cases accepted
      exact OthersKept.rfl
  | cons result rest ih =>
      rcases insertCheckResultsFrom_cons accepted with
        ⟨one, middle, more, inserted, insertedRest, _⟩
      have parts := List.forall_mem_cons.mp own
      exact (insertCheckResult_others inserted parts.1).trans
        (ih insertedRest parts.2)

theorem upsertScore_others
    {scores scores' : Table ComplianceScoreRow ComplianceScoreRow.Clash}
    {score : ComplianceScoreRow}
    (upserted : upsertScore scores score = .ok scores')
    (own : score.agentId = agentId) :
    (scores'.rows.filter fun row => row.agentId ≠ agentId) = scores.rows.filter
      fun row => row.agentId ≠ agentId := by
  unfold upsertScore at upserted
  split at upserted
  · cases upserted
    apply Table.filter_map_fixed
    · intro row _
      split <;> rfl
    · intro row _ other
      apply if_neg
      rintro ⟨sameAgent, _⟩
      exact of_decide_eq_true other (sameAgent.trans own)
  · rw [Table.insert?_rows (constrained_ok upserted)]
    apply Table.filter_append_dropped
    exact decide_eq_false (not_not.mpr own)

theorem upsertScores_others {rows : List ComplianceScoreRow}
    {scores scores' : Table ComplianceScoreRow ComplianceScoreRow.Clash}
    (upserted : rows.foldlM upsertScore scores = .ok scores')
    (own : forall row, row ∈ rows -> row.agentId = agentId) :
    (scores'.rows.filter fun row => row.agentId ≠ agentId) = scores.rows.filter
      fun row => row.agentId ≠ agentId := by
  induction rows generalizing scores with
  | nil =>
      cases upserted
      rfl
  | cons row rest ih =>
      rw [List.foldlM_cons] at upserted
      rcases bind_eq_ok.mp upserted with ⟨middle, first, upserted⟩
      have parts := List.forall_mem_cons.mp own
      exact (ih upserted parts.2).trans (upsertScore_others first parts.1)

theorem upsertComplianceScores_others {env : Env}
    {stored : List ComplianceScoreRow}
    (accepted : upsertComplianceScores env agentId db = .ok (stored, db')) :
    OthersKept agentId db db' := by
  rcases upsertComplianceScores_ok accepted with ⟨frame, upserted, _⟩
  have own : forall row, row ∈ elementScores env.now agentId db ->
      row.agentId = agentId := by
    intro row member
    rcases mem_elementScores.mp member with ⟨element, _, scored⟩
    exact congrArg Prod.fst (elementScore_key scored)
  have others := upsertScores_others upserted own
  rw [frame]
  exact ⟨rfl, rfl, rfl, rfl, others⟩

theorem RiskInserted.others {threatId riskId : Uuid}
    (effect : RiskInserted db db' agentId threatId riskId) :
    OthersKept agentId db db' := by
  rcases effect.rows with ⟨row, _, isOpen, rows⟩
  have others : (db'.risks.rows.filter fun row => row.agentId ≠ agentId) =
      db.risks.rows.filter fun row => row.agentId ≠ agentId := by
    rw [rows]
    apply Table.filter_append_dropped
    exact decide_eq_false (not_not.mpr (RiskRow.isOpenFor_iff.mp isOpen).1)
  rw [effect.frame]
  exact ⟨rfl, rfl, others, rfl, rfl⟩

/-- No risk of another agent has the identifier of the agent's risk. -/
theorem setRiskStatus_others (env : Env) (status : RiskStatus) {row : RiskRow}
    (member : row ∈ db.risks.rows) (own : row.agentId = agentId) :
    OthersKept agentId db (setRiskStatus env row.id status db) where
  frame := rfl
  agents := rfl
  risks := by
    rw [setRiskStatus_rows]
    apply Table.filter_map_fixed
    · intro other _
      split <;> rfl
    · intro other otherMember foreign
      apply if_neg
      intro sameId
      have same : other = row :=
        Table.eq_of_key (fun _ _ same => same) db.risks otherMember member sameId
      rw [same] at foreign
      exact of_decide_eq_true foreign own
  checkResults := rfl
  complianceScores := rfl

end Statement

/-! ## The ingestion -/

theorem handleResult_others (agentId : Uuid) (severities : CheckSeverities)
    (result : CheckResult) :
    (handleResult agentId severities result).Keeps exec (OthersKept agentId) := by
  unfold handleResult
  dsimp only
  split
  · refine Program.keeps_bind ?_ fun made => Program.keeps_done _
    intro envs db
    have raising :=
      run_maybeCreateRisk_raising agentId
        (severityOf severities result.checkId) envs db
    generalize Program.run exec (maybeCreateRisk agentId _) envs db =
      outcome at raising ⊢
    cases raising with
    | failed failure => exact OthersKept.rfl
    | noThreat absent => exact OthersKept.rfl
    | present threat chosen raised => exact OthersKept.rfl
    | inserted threat chosen unraised riskId db' effect => exact effect.others
  split
  · refine Program.keeps_bind ?_ fun did => Program.keeps_done _
    intro envs db
    have settling := run_maybeCloseRisk_settling agentId envs db
    generalize Program.run exec (maybeCloseRisk agentId) envs db =
      outcome at settling ⊢
    cases settling with
    | failed failure => exact OthersKept.rfl
    | nothing absent => exact OthersKept.rfl
    | closed env threat row first member isOpen =>
        exact setRiskStatus_others env .closed member
          (RiskRow.isOpenFor_iff.mp isOpen).1
  · exact Program.keeps_done _

/-- Each turn of the loop keeps the rows of others, so does the loop. -/
theorem evaluateFrom_others (agentId : Uuid) (severities : CheckSeverities)
    (summary : RiskTriggerSummary) (results : List CheckResult) :
    (evaluateFrom agentId severities summary results).Keeps exec
    (OthersKept agentId) := by
  induction results generalizing summary with
  | nil => exact Program.keeps_done summary
  | cons result rest ih =>
      exact Program.keeps_bind (handleResult_others agentId severities result)
        fun change => ih _

/-- An accepted statement's effect decides what the statement keeps. -/
theorem perform_keeps {relation : Db -> Db -> Prop} [Std.Refl relation]
    {stmt : Stmt}
    (kept : forall env db value db', stmt.effect env db = .ok (value, db') ->
      relation db db')
    (env : Env) (db : Db) :
    relation db (Program.perform exec env stmt db).2 := by
  rcases perform_cases env stmt db with
    ⟨failure, performed⟩ | ⟨value, db', _, effect, performed⟩
  · rw [performed]
    exact Std.Refl.refl db
  · rw [performed]
    exact kept env db value db' effect

/-- Whatever is submitted and however the ingestion ends, the rows of other agents
stay as they are. -/
theorem ingest_others (ingester : ResultIngester) (call : IngestCall) :
    (ingester.ingest call).Keeps exec (OthersKept call.agentId) := by
  unfold ResultIngester.ingest
  split
  · exact Program.keeps_done _
  refine Program.keeps_bind ?_ fun report => ?_
  · have looksUp : (ingester.validate call).Issues fun stmt =>
        Exists fun agentId => Exists fun checkIds =>
        stmt = .validateCheckIdsForAgent agentId checkIds :=
      validateBatch_issues
        (fun agentId checkIds => ⟨agentId, checkIds, Eq.refl _⟩) _ _ _ _ _
    refine Program.keeps_of_issues ?_ looksUp
    rintro env _ db ⟨agentId, checkIds, rfl⟩
    apply perform_keeps
    intro env db value db' looked
    rw [(reading_same looked).1]
    exact OthersKept.rfl
  dsimp only
  split
  · exact Program.keeps_done _
  cases built : report.valid.mapM (toInsert ingester.text call.agentId) with
  | error failure => exact fun _ db => OthersKept.rfl
  | ok rows =>
      rw [Program.lift_ok, Program.done_bind]
      refine Program.keeps_bind ?_ fun inserted => ?_
      · apply Program.keeps_attempt
        refine perform_keeps ?_
        intro env db value db' stored
        exact insertCheckResultsFrom_others stored (mapM_toInsert_own built)
      refine Program.keeps_bind ?_ fun scoresUpdated => ?_
      · refine Program.keeps_bind ?_ fun scores => Program.keeps_done _
        apply Program.keeps_attempt
        apply perform_keeps
        intro env db value db' rescored
        exact upsertComplianceScores_others rescored
      · exact Program.keeps_bind
          (evaluateFrom_others call.agentId call.checkSeverities {} report.valid)
          fun riskSummary => Program.keeps_done _

end Complyx
