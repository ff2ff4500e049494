import Complyx.Ingest.RiskTrigger

namespace Complyx

open Transition

/-!
# Ingestion of a batch of results

Validate, insert what is valid, recompute the scores, evaluate the risks.  The
summary counts what was inserted and gives a reason for each refused check.
-/

structure IngestSummary where
  accepted : Nat := 0
  rejected : Nat := 0
  /-- The last reason for each refused identifier. -/
  rejectionReasons : String -> Option String := fun _ => none
  scoresUpdated : Nat := 0
  risksCreated : Nat := 0
  risksClosed : Nat := 0

/-- The tolerated window and the spelling of identifiers. -/
structure ResultIngester where
  text : UuidText
  timestampBounds : TimestampBounds := TimestampBounds.default

/-- One call, with its clock reading. -/
structure IngestCall where
  agentId : Uuid
  results : List CheckResult
  checkSeverities : CheckSeverities
  now : DateTime

/-- The reasons of a report, later ones replacing earlier ones. -/
def rejectionReasons (rejected : List RejectedResult) : String -> Option String :=
  rejected.foldl
    (fun reasons result checkId =>
      if checkId = result.checkId then some result.reason else reasons checkId)
    fun _ => none

/-- The row to insert for a valid result.  Its identifier is parsed again, and
failing to do so would be a panic. -/
def toInsert (text : UuidText) (agentId : Uuid) (result : CheckResult) :
    Except (Fault IngesterError) InsertCheckResult :=
  match text.parse result.checkId with
  | none => .error (.panic "called `Result::unwrap()` on an `Err` value")
  | some checkId => .ok {
      agentId := agentId, checkId := checkId, passed := result.passed,
      detail := result.detail
      actualValue := result.actualValue, expectedValue := result.expectedValue
      executedAtUnix := result.executedAt }

/-- `ComplianceScorer::recalculate`: how many elements were updated. -/
def recalculate (agentId : Uuid) : Code (Fault IngesterError) Nat := do
  let scores <- Program.attempt ingesterFault
    (Stmt.upsertComplianceScores agentId)
  return scores.length

def ResultIngester.validate (ingester : ResultIngester) (call : IngestCall) :
    Code (Fault IngesterError) ValidationReport :=
  validateBatch ingester.text call.now ingester.timestampBounds call.agentId
    call.results

/-- `ResultIngester::ingest`. -/
def ResultIngester.ingest (ingester : ResultIngester) (call : IngestCall) :
    Code (Fault IngesterError) IngestSummary :=
  if call.results.isEmpty then return {}
  else do
    let report <- ingester.validate call
    let summary : IngestSummary :=
      { rejected := report.rejected.length, rejectionReasons :=
        rejectionReasons report.rejected }
    if report.valid.isEmpty then return summary
    else
      let rows <- Program.lift
        (report.valid.mapM (toInsert ingester.text call.agentId))
      let inserted <- Program.attempt ingesterFault (Stmt.insertCheckResults rows)
      let scoresUpdated <- recalculate call.agentId
      let riskSummary <- evaluate call.agentId report.valid call.checkSeverities
      return { summary with
        accepted := inserted, scoresUpdated := scoresUpdated
        risksCreated := riskSummary.created, risksClosed := riskSummary.closed }

/-! ## Which statements an ingestion issues -/

/-- An ingestion looks up, stores and rescores for its own agent, and the trigger
does the rest. -/
inductive OwnStmt (agentId : Uuid) : Stmt -> Prop where
  | lookup (checkIds : List Uuid) :
      OwnStmt agentId (.validateCheckIdsForAgent agentId checkIds)
  | insert (rows : List InsertCheckResult)
      (own : forall row, row ∈ rows -> row.agentId = agentId) :
      OwnStmt agentId (.insertCheckResults rows)
  | rescore : OwnStmt agentId (.upsertComplianceScores agentId)
  | trigger (stmt : Stmt) (issued : TriggerStmt stmt) : OwnStmt agentId stmt

theorem mapM_toInsert_own {text : UuidText} {agentId : Uuid}
    {valid : List CheckResult} {rows : List InsertCheckResult}
    (built : valid.mapM (toInsert text agentId) = .ok rows) :
    forall row, row ∈ rows -> row.agentId = agentId := by
  induction valid generalizing rows with
  | nil =>
      cases built
      intro row impossible
      cases impossible
  | cons result rest ih =>
      simp only [List.mapM_cons, bind, Except.bind] at built
      split at built
      · cases built
      next head first =>
      split at built
      · cases built
      next tail others =>
      cases built
      rw [List.forall_mem_cons]
      refine ⟨?_, ih others⟩
      unfold toInsert at first
      split at first
      · cases first
      · rw [← Except.ok.inj first]

theorem validate_issues_own (ingester : ResultIngester) (call : IngestCall) :
    (ingester.validate call).Issues (OwnStmt call.agentId) := by
  unfold ResultIngester.validate validateBatch
  split
  · trivial
  · refine Program.issues_bind (Program.issues_lift _) fun sorted => ?_
    split
    · trivial
    · exact Program.issues_bind (Program.issues_attempt _ (OwnStmt.lookup _))
        fun invalidIds => trivial

theorem ingest_issues_own (ingester : ResultIngester) (call : IngestCall) :
    (ingester.ingest call).Issues (OwnStmt call.agentId) := by
  unfold ResultIngester.ingest
  split
  · trivial
  refine Program.issues_bind (validate_issues_own ingester call) fun report => ?_
  dsimp only
  split
  · trivial
  cases built : report.valid.mapM (toInsert ingester.text call.agentId) with
  | error failure => trivial
  | ok rows =>
      rw [Program.lift_ok, Program.done_bind]
      refine Program.issues_bind
        (Program.issues_attempt _ (OwnStmt.insert rows (mapM_toInsert_own built)))
        ?_
      intro inserted
      refine Program.issues_bind ?_ fun scoresUpdated => ?_
      · exact Program.issues_bind (Program.issues_attempt _ OwnStmt.rescore)
          fun scores => trivial
      · refine Program.issues_bind ?_ fun riskSummary => trivial
        exact (evaluateFrom_issues call.agentId call.checkSeverities {}
          report.valid).mono OwnStmt.trigger

/-! ## The parts of an ingestion -/

/-- What an ingestion does before the trigger. -/
def ResultIngester.store (ingester : ResultIngester) (call : IngestCall) :
    Code (Fault IngesterError) Nat := do
  let report <- ingester.validate call
  let rows <- Program.lift
    (report.valid.mapM (toInsert ingester.text call.agentId))
  let _ <- Program.attempt ingesterFault (Stmt.insertCheckResults rows)
  recalculate call.agentId

/-- The ingestion as far as the trigger has handled the given results. -/
def ResultIngester.ingestThrough (ingester : ResultIngester) (call : IngestCall)
    (handled : List CheckResult) :
    Code (Fault IngesterError) RiskTriggerSummary := do
  let _ <- ingester.store call
  evaluate call.agentId handled call.checkSeverities

/-- What an ingestion that succeeds has done. -/
inductive IngestParts (ingester : ResultIngester) (call : IngestCall)
    (envs : Nat -> Env) (db : Db) (report : ValidationReport)
    (db' : Db) : Prop where
  | nothing (none : report.valid = []) (same : db' = db)
  | stored (rows : List InsertCheckResult) (inserted : Nat)
      (scores : List ComplianceScoreRow) (middle stored : Db)
      (insertEnv scoreEnv : Env) (riskSummary : RiskTriggerSummary)
      (built : report.valid.mapM (toInsert ingester.text call.agentId) = .ok rows)
      (accepted : insertCheckResults insertEnv rows db = .ok (inserted, middle))
      (rescored : upsertComplianceScores scoreEnv call.agentId middle =
        .ok (scores, stored))
      (storing : Program.run exec (ingester.store call) envs db =
        (.ok scores.length, stored))
      (through : Program.run exec (ingester.ingestThrough call report.valid) envs
        db = (.ok riskSummary, db'))

theorem run_ingest_ok {ingester : ResultIngester} {call : IngestCall}
    {envs : Nat -> Env} {db db' : Db} {summary : IngestSummary}
    (ingested : Program.run exec (ingester.ingest call) envs db =
      (.ok summary, db')) :
    Exists fun report => Program.run exec (ingester.validate call) envs db =
      (.ok report, db) ∧
      IngestParts ingester call envs db report db' := by
  unfold ResultIngester.ingest at ingested
  split at ingested
  · next empty =>
    refine ⟨⟨[], []⟩, ?_,
      IngestParts.nothing rfl (congrArg Prod.snd ingested).symm⟩
    rw [ResultIngester.validate, validateBatch, if_pos empty]
    rfl
  rcases Program.run_bind_eq_ok ingested with ⟨report, left, validated, rest⟩
  have sameDb : left = db := (validateBatch_ok validated).1
  subst left
  refine ⟨report, validated, ?_⟩
  simp only at rest
  split at rest
  · next none =>
      exact IngestParts.nothing (List.isEmpty_iff.mp none)
        (congrArg Prod.snd rest).symm
  rw [Program.run_lift_bind] at rest
  split at rest
  swap
  · cases congrArg Prod.fst rest
  next rows built =>
  rw [Program.run_attempt_bind] at rest
  split at rest
  swap
  · cases congrArg Prod.fst rest
  next inserted middle accepted =>
  rw [recalculate, bind_assoc, Program.run_attempt_bind] at rest
  split at rest
  swap
  · cases congrArg Prod.fst rest
  next scores stored rescored =>
  rw [pure_bind] at rest
  rcases Program.run_bind_eq_ok rest with ⟨riskSummary, left, evaluated, ended⟩
  have sameDb : left = db' := congrArg Prod.snd ended
  subst left
  have storing :
      Program.run exec (ingester.store call) envs db =
        (.ok scores.length, stored) := by
    rw [ResultIngester.store, Program.run_bind_ok validated, built,
      Program.lift_ok, Program.done_bind, Program.run_attempt_bind, accepted,
        recalculate]
    simp only
    rw [Program.run_attempt_bind, rescored]
    rfl
  have through :
      Program.run exec (ingester.ingestThrough call report.valid) envs db =
        (.ok riskSummary, db') := by
    rw [ResultIngester.ingestThrough, ResultIngester.store, bind_assoc,
      Program.run_bind_ok validated, built, Program.lift_ok, Program.done_bind,
        bind_assoc, Program.run_attempt_bind, accepted, recalculate]
    simp only
    rw [bind_assoc, Program.run_attempt_bind, rescored]
    exact evaluated
  exact IngestParts.stored rows inserted scores middle stored _ _ riskSummary
    built (exec_ok accepted).2
    (exec_ok rescored).2 storing through

end Complyx
