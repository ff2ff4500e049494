import Complyx.Ingest.Delivery
import Complyx.Transition.Outcomes

namespace Complyx

open Transition Relational

/-!
# The recomputation of scores in steps

A statement reads what was committed when it started, and the rows it writes
take effect later.  `splitUpsert` is the upsert with its reading and each of its
writes as steps of their own, every other statement as one step.  With nothing
in between, the steps do what the statement does.

A failure halfway leaves the earlier writes here, where the database would undo
them.  That makes a difference to ingestions that fail only.
-/

/-! ## The upsert in steps -/

inductive RowOp where
  | whole (stmt : Stmt)
  | snapshot (agentId : Uuid)
  | writeScore (score : ComplianceScoreRow)

abbrev RowOp.Res : RowOp -> Type
  | .whole stmt => stmt.Res
  | .snapshot _ => List ComplianceScoreRow
  | .writeScore _ => ComplianceScoreRow

/-- Insert or update one score and return the stored row. -/
def writeScore (score : ComplianceScoreRow) (db : Db) :
    Except DbError (ComplianceScoreRow × Db) := do
  let complianceScores <- upsertScore db.complianceScores score
  references "compliance_scores" (db.hasAgent score.agentId)
  let stored := complianceScores.find ComplianceScoreRow.scoreKey score.scoreKey
  return (stored.getD score, { db with complianceScores := complianceScores })

def execRow (env : Env) : (op : RowOp) -> Db -> Except DbError (op.Res × Db)
  | .whole stmt, db => exec env stmt db
  | .snapshot agentId, db =>
      match env.fault with
      | some cause => .error (.query cause)
      | none => .ok (elementScores env.now agentId db, db)
  | .writeScore score, db =>
      match env.fault with
      | some cause => .error (.query cause)
      | none => writeScore score db

/-- Write the scores one after the other. -/
def writeScores (written : List ComplianceScoreRow) :
    List ComplianceScoreRow ->
      Program RowOp.Res DbError DbError (List ComplianceScoreRow)
  | [] => return written
  | score :: rest => do
      let stored <- Program.attempt id (RowOp.writeScore score)
      writeScores (written ++ [stored]) rest

/-- The upsert of the scores as a reading and its writes, every other statement
as one step. -/
def splitUpsert : (stmt : Stmt) -> Program RowOp.Res DbError DbError stmt.Res
  | .upsertComplianceScores agentId => do
      let scores <- Program.attempt id (RowOp.snapshot agentId)
      writeScores [] scores
  | stmt => Program.attempt id (RowOp.whole stmt)

theorem writeScore_ok {score : ComplianceScoreRow} {db : Db}
    (registered : db.hasAgent score.agentId = true) :
    Exists fun complianceScores => upsertScore db.complianceScores score =
      .ok complianceScores ∧
      writeScore score db =
        .ok
          (score.over
            (db.complianceScores.find ComplianceScoreRow.scoreKey score.scoreKey),
        { db with complianceScores := complianceScores }) := by
  rcases upsertScore_find db.complianceScores score with
    ⟨complianceScores, upserted, rows⟩
  refine ⟨complianceScores, upserted, ?_⟩
  unfold writeScore
  rw [upserted, registered]
  simp only [bind, Except.bind, references, rows]
  rfl

/-! ## Alone, the steps are the statement -/

theorem upsertScores_find_other {rows : List ComplianceScoreRow}
    {scores scores' : Table ComplianceScoreRow ComplianceScoreRow.Clash}
    {key : ScoreKey} (upserted : rows.foldlM upsertScore scores = .ok scores')
    (others : forall row, row ∈ rows -> key ≠ row.scoreKey) :
    scores'.find ComplianceScoreRow.scoreKey key =
      scores.find ComplianceScoreRow.scoreKey key := by
  induction rows generalizing scores with
  | nil => rw [Except.ok.inj upserted]
  | cons row rest ih =>
      rcases upsertScore_find scores row with ⟨middle, first, effect⟩
      rw [List.foldlM_cons, first] at upserted
      rw [ih upserted fun other member =>
        others other (List.mem_cons_of_mem _ member), effect,
          if_neg (others row List.mem_cons_self)]

theorem upsertScores_total (rows : List ComplianceScoreRow)
    (scores : Table ComplianceScoreRow ComplianceScoreRow.Clash) :
    Exists fun scores' => rows.foldlM upsertScore scores = .ok scores' := by
  induction rows generalizing scores with
  | nil => exact ⟨scores, rfl⟩
  | cons row rest ih =>
      rcases upsertScore_find scores row with ⟨middle, first, _⟩
      rw [List.foldlM_cons, first]
      exact ih middle

theorem find?_clash (scores : Table ComplianceScoreRow ComplianceScoreRow.Clash)
    (score : ComplianceScoreRow) :
    (scores.rows.find? fun row => decide (row.Clash score)) =
      scores.find ComplianceScoreRow.scoreKey score.scoreKey := by
  unfold Table.find
  congr 1
  funext row
  rw [Bool.eq_iff_iff, decide_eq_true_eq, decide_eq_true_eq,
    ComplianceScoreRow.clash_iff]

/-- Undisturbed writes of a registered agent's scores do what the upsert does. -/
theorem run_writeScores {rows : List ComplianceScoreRow} {db : Db}
    (registered : forall row, row ∈ rows -> db.hasAgent row.agentId = true)
    (distinct : rows.Pairwise fun first second =>
      first.scoreKey ≠ second.scoreKey)
    (written : List ComplianceScoreRow) {env : Env} (clear : env.fault = none) :
    Exists fun complianceScores => rows.foldlM upsertScore db.complianceScores =
      .ok complianceScores ∧
      Program.run execRow (writeScores written rows) (fun _ => env) db =
        (.ok
          (written ++ rows.filterMap fun score =>
            complianceScores.rows.find? fun row => decide (row.Clash score)),
          { db with complianceScores := complianceScores }) := by
  induction rows generalizing db written with
  | nil =>
      refine ⟨db.complianceScores, rfl, ?_⟩
      rw [List.filterMap_nil, List.append_nil]
      rfl
  | cons score rest ih =>
      have parts := List.pairwise_cons.mp distinct
      rcases writeScore_ok (registered score List.mem_cons_self) with
        ⟨middle, first, stepped⟩
      rcases upsertScore_find db.complianceScores score with
        ⟨middle', first', effect⟩
      rw [← Except.ok.inj (first.symm.trans first')] at effect
      generalize score.over
        (db.complianceScores.find ComplianceScoreRow.scoreKey score.scoreKey) =
        stored
        at stepped effect
      have later : forall row, row ∈ rest ->
          ({ db with complianceScores := middle } : Db).hasAgent row.agentId =
          true :=
        fun row member => registered row (List.mem_cons_of_mem _ member)
      rcases ih later parts.2 (written ++ [stored]) with
        ⟨complianceScores, upserted, ran⟩
      have executed :
          execRow env (.writeScore score) db =
            .ok (stored, { db with complianceScores := middle }) := by
        rw [execRow, clear]
        exact stepped
      have kept := upsertScores_find_other upserted parts.1
      rw [effect, if_pos rfl] at kept
      refine ⟨complianceScores, ?_, ?_⟩
      · rw [List.foldlM_cons, first]
        exact upserted
      · rw [writeScores, Program.run_attempt_bind, executed]
        simp only
        rw [ran, List.filterMap_cons, find?_clash, kept, List.append_assoc]
        rfl

theorem run_whole (env : Env) (stmt : Stmt) (db : Db) :
    Program.run execRow (Program.attempt id (RowOp.whole stmt))
      (fun _ => env) db =
      Program.perform exec env stmt db := by
  rw [Program.run_attempt]
  cases outcome : exec env stmt db with
  | ok pair => rw [Program.perform_ok outcome, execRow, outcome]
  | error failure =>
      rw [Program.perform_error outcome, execRow, outcome]
      rfl

/-- With nothing in between, the steps do what the statement does. -/
theorem run_splitUpsert (env : Env) (stmt : Stmt) (db : Db) :
    Program.run execRow (splitUpsert stmt) (fun _ => env) db =
      Program.perform exec env stmt db := by
  cases stmt with
  | upsertComplianceScores agentId =>
      rw [splitUpsert, Program.run_attempt_bind]
      cases fault : env.fault with
      | some cause =>
          rw [Program.perform_error (exec_fault fault _ db), execRow, fault]
          rfl
      | none =>
          have snapshot :
              execRow env (.snapshot agentId) db =
                .ok (elementScores env.now agentId db, db) := by
            rw [execRow, fault]
          rw [snapshot]
          simp only
          have ofAgent : forall row, row ∈ elementScores env.now agentId db ->
              row.agentId = agentId := by
            intro row member
            rcases mem_elementScores.mp member with ⟨element, _, scored⟩
            exact congrArg Prod.fst (elementScore_key scored)
          have distinct :
              (elementScores env.now agentId db).Pairwise fun first second =>
              first.scoreKey ≠ second.scoreKey :=
            (elementScores_pairwise env.now agentId db).imp fun apart same =>
              apart (congrArg Prod.snd same)
          rcases upsertScores_total (elementScores env.now agentId db)
              db.complianceScores with
            ⟨complianceScores, upserted⟩
          by_cases registered :
            ((elementScores env.now agentId db).isEmpty || db.hasAgent agentId) =
              true
          · have each : forall row, row ∈ elementScores env.now agentId db ->
                db.hasAgent row.agentId = true := by
              intro row member
              rw [ofAgent row member]
              exact ((Bool.or_eq_true _ _).mp registered).resolve_left fun none =>
                List.not_mem_nil (List.isEmpty_iff.mp none ▸ member)
            rcases run_writeScores each distinct [] fault with
              ⟨complianceScores', upserted', ran⟩
            have same := Except.ok.inj (upserted.symm.trans upserted')
            subst same
            have success :
                exec env (.upsertComplianceScores agentId) db =
                  upsertComplianceScores env agentId db :=
              exec_clear fault _ db
            rw [upsertComplianceScores, upserted, registered] at success
            rw [Program.perform_ok success, ran, List.nil_append]
          · have failed : exec env (.upsertComplianceScores agentId) db =
                .error (.query (.foreignKeyViolation "compliance_scores")) := by
              rw [exec_clear fault, Stmt.effect, upsertComplianceScores, upserted,
                Bool.eq_false_iff.mpr registered]
              rfl
            rw [Program.perform_error failed]
            cases scores : elementScores env.now agentId db with
            | nil =>
                rw [scores] at registered
                exact absurd rfl registered
            | cons score rest =>
                have refused : execRow env (.writeScore score) db =
                    .error
                      (.query (.foreignKeyViolation "compliance_scores")) := by
                  rw [scores, List.isEmpty_cons, Bool.false_or,
                    ← ofAgent score (scores ▸ List.mem_cons_self)] at registered
                  rcases upsertScore_find db.complianceScores score with
                    ⟨first, stepped, _⟩
                  rw [execRow, fault]
                  simp only [writeScore, stepped, bind, Except.bind,
                    Bool.eq_false_iff.mpr registered]
                  rfl
                rw [writeScores, Program.run_attempt_bind, refused]
                rfl
  | _ => exact run_whole env _ db

/-- What an ingestion can do alone, its steps can do alone. -/
theorem run_split_ingest (ingester : ResultIngester) (call : IngestCall)
    (envs : Nat -> Env) (db : Db) :
    Exists fun envs' =>
      Program.run execRow ((ingester.ingest call).expand splitUpsert) envs' db =
      Program.run exec (ingester.ingest call) envs db :=
  Program.exists_run_expand
    (fun env stmt db => ⟨fun _ => env, run_splitUpsert env stmt db⟩)
    (ingester.ingest call) envs db

/-! ## What an ingestion owes -/

/-- An answer of the database whose policies are the given ones, after which
the score of the element is still to be written. -/
def Stmt.Unpaid (start : Db) (agentId : Uuid) :
    (stmt : Stmt) -> Except DbError stmt.Res -> Prop
  | .upsertComplianceScores asked, .ok _ => asked ≠ agentId
  | stmt, answer => LookupAnswer start stmt answer

def RowOp.Unpaid (start : Db) (agentId elementId : Uuid) :
    (op : RowOp) -> Except DbError op.Res -> Prop
  | .whole stmt, answer => stmt.Unpaid start agentId answer
  | .snapshot asked, .ok scores =>
      asked = agentId -> Exists fun score => score ∈ scores ∧
        score.scoreKey = (agentId, elementId)
  | .writeScore score, .ok _ => score.scoreKey ≠ (agentId, elementId)
  | _, .error _ => True

/-- The program does not return before it has written every score. -/
def Owes (start : Db) (agentId : Uuid)
    (program : Code (Fault IngesterError) IngestSummary) : Prop :=
  program.Yields (Stmt.Unpaid start agentId) fun _ => False

abbrev RowThread := Program RowOp.Res DbError (Fault IngesterError) IngestSummary

def OwesScore (start : Db) (agentId elementId : Uuid)
    (thread : RowThread) : Prop :=
  thread.Yields (RowOp.Unpaid start agentId elementId) fun _ => False

/-- Results have been inserted. -/
inductive Stmt.Inserted : (stmt : Stmt) -> Except DbError stmt.Res -> Prop where
  | results (rows : List InsertCheckResult) (added : Nat) :
      Inserted (.insertCheckResults rows) (.ok added)

inductive RowOp.Inserted : (op : RowOp) -> Except DbError op.Res -> Prop where
  | whole {stmt : Stmt} {answer : Except DbError stmt.Res}
      (inserted : stmt.Inserted answer) :
      Inserted (.whole stmt) answer

theorem unpaid_error (start : Db) (agentId : Uuid) (stmt : Stmt)
    (failure : DbError) :
    stmt.Unpaid start agentId (.error failure) := by
  cases stmt <;> trivial

theorem writeScores_unpaid {start : Db} {agentId elementId asked : Uuid}
    {rows : List ComplianceScoreRow}
    (pending : asked = agentId -> Exists fun score => score ∈ rows ∧
      score.scoreKey = (agentId, elementId))
    (written : List ComplianceScoreRow) :
    (writeScores written rows).Yields (RowOp.Unpaid start agentId elementId)
      fun _ => asked ≠ agentId := by
  induction rows generalizing written with
  | nil =>
      intro same
      rcases pending same with ⟨score, impossible, _⟩
      exact List.not_mem_nil impossible
  | cons score rest ih =>
      refine Program.yields_bind
        (Program.yields_attempt _ fun stored unpaid => unpaid)
        fun stored unpaid => ?_
      apply ih
      intro same
      rcases pending same with ⟨due, member, itsKey⟩
      rcases List.mem_cons.mp member with rfl | later
      · exact absurd itsKey unpaid
      · exact ⟨due, later, itsKey⟩

/-- The steps of a statement pay where the statement does. -/
theorem splitUpsert_unpaid (start : Db) (agentId elementId : Uuid) (stmt : Stmt) :
    (splitUpsert stmt).Yields (RowOp.Unpaid start agentId elementId) fun value =>
      stmt.Unpaid start agentId (.ok value) := by
  cases stmt with
  | upsertComplianceScores asked =>
      refine Program.yields_bind
        (Program.yields_attempt _ fun scores pending => pending)
        fun scores pending => ?_
      exact writeScores_unpaid pending []
  | _ => exact Program.yields_attempt _ fun value answered => answered

theorem Owes.expand {start : Db} {agentId : Uuid}
    {program : Code (Fault IngesterError) IngestSummary}
    (owes : Owes start agentId program) (elementId : Uuid) :
    OwesScore start agentId elementId (program.expand splitUpsert) :=
  Program.yields_expand (splitUpsert_unpaid start agentId elementId)
    (unpaid_error start agentId) owes

section Ingest

variable (ingester : ResultIngester) (call : IngestCall) (start : Db)

/-- After the insertion every score is written before the ingestion returns. -/
theorem afterInsertion_owes (valid : List CheckResult)
    (summarize : Nat -> RiskTriggerSummary -> IngestSummary) :
    Owes start call.agentId (recalculate call.agentId >>= fun scoresUpdated =>
      evaluate call.agentId valid call.checkSeverities >>= fun riskSummary =>
        Program.done (summarize scoresUpdated riskSummary)) := by
  have recalculated :
      (recalculate call.agentId).Yields (Stmt.Unpaid start call.agentId)
        fun _ => False := by
    refine Program.yields_bind (Program.yields_attempt _ fun scores unpaid => ?_)
      fun scores impossible => impossible
    exact unpaid rfl
  exact Program.yields_bind recalculated fun scoresUpdated impossible =>
    impossible.elim

theorem ingest_obliges : (ingester.ingest call).Obliges Stmt.Inserted
    (Owes start call.agentId) := by
  have free : forall (stmt : Stmt) answer, stmt.writesCheckResults = false ->
      ¬ stmt.Inserted answer := by
    intro stmt answer readonly inserted
    cases inserted
    cases readonly
  unfold ResultIngester.ingest
  split
  · trivial
  refine Program.obliges_bind (validateBatch_issues (fun _ _ => rfl) _ _ _ _ _)
    free fun report => ?_
  dsimp only
  split
  · trivial
  refine Program.obliges_bind (Program.issues_lift _) free fun rows => ?_
  rw [Program.attempt_bind]
  intro answer
  cases answer with
  | ok inserted =>
      refine ⟨fun _ => afterInsertion_owes call start report.valid _, ?_⟩
      exact Program.obliges_of_issues (afterInsertion_issues _ _ _ _) free
  | error failure => exact ⟨fun impossible => (nomatch impossible), trivial⟩

/-- An ingestion with a result that passes owes every score from its start. -/
theorem ingest_owes {result : CheckResult} {id : Uuid}
    (member : result ∈ call.results)
    (passes : Passes ingester.text call.now ingester.timestampBounds start
      call.agentId result id) :
    Owes start call.agentId (ingester.ingest call) := by
  have looked : forall {agentId checkIds invalidIds},
      Stmt.Unpaid start call.agentId (.validateCheckIdsForAgent agentId checkIds)
        (.ok invalidIds) ->
      invalidIds = validateCheckIdsForAgent agentId checkIds start :=
        fun answered => answered
  unfold ResultIngester.ingest
  split
  · next empty =>
    rw [List.isEmpty_iff.mp empty] at member
    cases member
  refine Program.yields_bind
    (validateBatch_yields looked call.agentId call.results) fun report valid => ?_
  dsimp only
  split
  · next none =>
    have kept := (valid result).mpr ⟨member, id, passes⟩
    rw [List.isEmpty_iff.mp none] at kept
    cases kept
  refine Program.yields_bind (Program.yields_true _) fun rows _ => ?_
  refine Program.yields_bind (Program.yields_true _) fun inserted _ => ?_
  exact afterInsertion_owes call start report.valid _

/-- A statement that leaves results, scores and assignments alone. -/
structure Stmt.Quiet (stmt : Stmt) : Prop where
  results : stmt.writesCheckResults = false
  scores : stmt.writesComplianceScores = false
  assignments : stmt.writesAssignments = false

/-- The statements of an ingestion of the agent. -/
inductive ScoringStmt (agentId : Uuid) : Stmt -> Prop where
  | quiet {stmt : Stmt} (quiet : stmt.Quiet) : ScoringStmt agentId stmt
  | insert (rows : List InsertCheckResult) :
      ScoringStmt agentId (.insertCheckResults rows)
  | upsert : ScoringStmt agentId (.upsertComplianceScores agentId)

/-- Their steps. -/
inductive ScoringOp (agentId : Uuid) : RowOp -> Prop where
  | quiet {stmt : Stmt} (quiet : stmt.Quiet) : ScoringOp agentId (.whole stmt)
  | insert (rows : List InsertCheckResult) :
      ScoringOp agentId (.whole (.insertCheckResults rows))
  | snapshot : ScoringOp agentId (.snapshot agentId)
  | writeScore (score : ComplianceScoreRow) :
      ScoringOp agentId (.writeScore score)

theorem TriggerStmt.quiet {stmt : Stmt}
    (issued : TriggerStmt stmt) : stmt.Quiet := by
  cases issued <;> exact ⟨rfl, rfl, rfl⟩

theorem ingest_scoring : (ingester.ingest call).Issues
    (ScoringStmt call.agentId) := by
  unfold ResultIngester.ingest
  split
  · trivial
  refine Program.issues_bind
    (validateBatch_issues (fun _ _ => .quiet ⟨rfl, rfl, rfl⟩) _ _ _ _ _)
    fun report => ?_
  dsimp only
  split
  · trivial
  refine Program.issues_bind (Program.issues_lift _) fun rows => ?_
  refine Program.issues_bind (Program.issues_attempt _ (.insert rows))
    fun inserted => ?_
  refine Program.issues_bind
    (Program.issues_bind (Program.issues_attempt _ .upsert) fun scores => trivial)
    fun _ => ?_
  refine Program.issues_bind ?_ fun riskSummary => trivial
  exact (evaluateFrom_issues _ _ _ _).mono fun stmt issued => .quiet issued.quiet

theorem writeScores_issues {allowed : RowOp -> Prop}
    (permitted : forall score, allowed (.writeScore score))
    (written rows : List ComplianceScoreRow) :
    (writeScores written rows).Issues allowed := by
  induction rows generalizing written with
  | nil => trivial
  | cons score rest ih =>
      exact Program.issues_bind (Program.issues_attempt _ (permitted score))
        fun stored => ih _

theorem splitUpsert_scoring {agentId : Uuid} {stmt : Stmt}
    (issued : ScoringStmt agentId stmt) :
    (splitUpsert stmt).Issues (ScoringOp agentId) := by
  cases issued with
  | quiet quiet =>
      cases stmt with
      | upsertComplianceScores asked => cases quiet.scores
      | _ => exact Program.issues_attempt _ (.quiet quiet)
  | insert rows => exact Program.issues_attempt _ (.insert rows)
  | upsert =>
      refine Program.issues_bind (Program.issues_attempt _ .snapshot)
        fun scores => ?_
      exact writeScores_issues .writeScore [] scores

theorem whole_obliges {duty : RowThread -> Prop} (stmt : Stmt)
    (next : Except DbError stmt.Res -> RowThread)
    (obliges : forall answer, (stmt.Inserted answer -> duty (next answer)) ∧
      (next answer).Obliges RowOp.Inserted duty) :
    ((Program.attempt id (RowOp.whole stmt) :
      Program RowOp.Res DbError DbError stmt.Res).capture >>= next).Obliges
      RowOp.Inserted duty := by
  intro answer
  have inserted_of : RowOp.Inserted (.whole stmt) answer ->
      stmt.Inserted answer := by
    rintro ⟨inserted⟩
    exact inserted
  cases answer with
  | ok value =>
      exact ⟨fun inserted => (obliges (.ok value)).1 (inserted_of inserted),
        (obliges (.ok value)).2⟩
  | error failure =>
      exact ⟨fun inserted => (obliges (.error failure)).1 (inserted_of inserted),
        (obliges (.error failure)).2⟩

/-- The steps of a statement insert results only where the statement does. -/
theorem splitUpsert_obliges {duty : RowThread -> Prop} (stmt : Stmt)
    (next : Except DbError stmt.Res -> RowThread)
    (obliges : forall answer, (stmt.Inserted answer -> duty (next answer)) ∧
      (next answer).Obliges RowOp.Inserted duty) :
    ((splitUpsert stmt).capture >>= next).Obliges RowOp.Inserted duty := by
  cases stmt with
  | upsertComplianceScores agentId =>
      have issues :
          (splitUpsert (.upsertComplianceScores agentId)).Issues fun op =>
        forall answer, ¬ op.Inserted answer := by
        refine Program.issues_bind (Program.issues_attempt _ ?_) fun scores =>
          writeScores_issues ?_ [] scores
        · intro answer inserted
          cases inserted
        · intro score answer inserted
          cases inserted
      exact Program.obliges_bind (Program.issues_capture issues)
        (fun op answer free => free answer)
        fun answer => (obliges answer).2
  | _ => exact whole_obliges _ next obliges

end Ingest

end Complyx
