import Complyx.Ingest.ScoreRace
import Complyx.Transition.Recorder

namespace Complyx

open Transition Relational

/-!
# When a score that was read is still due

A recomputation reads the results once and writes the scores later.  What it
writes is due as long as no results that change the score were inserted in
between, by whichever ingestion.
-/

/-- The scores a recomputation has read and writes. -/
def noteScores (owed : List ComplianceScoreRow) :
    (op : RowOp) -> Except DbError op.Res -> List ComplianceScoreRow
  | .snapshot _, .ok scores => scores
  | .writeScore _, _ => owed
  | _, _ => []

def RowOp.readsScores : RowOp -> Bool
  | .snapshot _ => true
  | _ => false

/-- The scores that inserted results have changed. -/
def logChanged (changed : ScoreKey -> Bool) (op : RowOp) (before : Db)
    (outcome : Except DbError op.Res × Db) : ScoreKey -> Bool :=
  match op, outcome.1 with
  | .whole (.insertCheckResults _), .ok _ => fun key =>
      changed key ||
        decide (scoreOf key.1 key.2 outcome.2 ≠ scoreOf key.1 key.2 before)
  | _, _ => changed

/-- What each ingestion has read, and the scores changed by any since. -/
def scoreRecorder :
    Recorder RowOp.Res DbError Db (List ComplianceScoreRow)
      (ScoreKey -> Bool) where
  note := noteScores
  looks := RowOp.readsScores
  fresh := fun _ => false
  log := logChanged

abbrev RecordedScores :=
  Recorded RowOp.Res DbError (Fault IngesterError) IngestSummary Db
    (List ComplianceScoreRow) (ScoreKey -> Bool)

/-- No results that change the score were inserted since it was read. -/
def WritesUnchanged (recorded : RecordedScores) (label : Nat × Env) : Prop :=
  recorded.pool.Guarded
    (fun env op db =>
      match op with
      | .writeScore score => (execRow env (.writeScore score) db).isOk = true ->
          recorded.since label.1 score.scoreKey = false
      | _ => True)
    label

/-- A step of an ingestion of the agent, which writes only what was read. -/
def WritesRead (agentId : Uuid) (owed : List ComplianceScoreRow)
    (op : RowOp) : Prop :=
  ScoringOp agentId op ∧ forall score, op = .writeScore score -> score ∈ owed

/-! ## What an ingestion writes -/

theorem writesRead_whole {agentId : Uuid} {stmt : Stmt}
    (issued : ScoringOp agentId (.whole stmt)) (owed : List ComplianceScoreRow) :
    WritesRead agentId owed (.whole stmt) := by
  refine ⟨issued, ?_⟩
  intro score impossible
  cases impossible

theorem writeScores_writesRead {agentId : Uuid}
    {owed rows : List ComplianceScoreRow} (read : rows ⊆ owed)
    (written : List ComplianceScoreRow) :
    (writeScores written rows).Follows noteScores (WritesRead agentId) owed := by
  induction rows generalizing written with
  | nil => trivial
  | cons score rest ih =>
      apply Program.follows_attempt_bind
      · refine ⟨ScoringOp.writeScore score, ?_⟩
        intro other same
        cases same
        exact read List.mem_cons_self
      · intro stored
        exact ih (fun other member => read (List.mem_cons_of_mem score member)) _

theorem splitUpsert_writesRead {agentId : Uuid} (stmt : Stmt)
    (owed : List ComplianceScoreRow) (issued : ScoringStmt agentId stmt) :
    (splitUpsert stmt).Follows noteScores (WritesRead agentId) owed := by
  cases issued with
  | quiet quiet =>
      cases stmt with
      | upsertComplianceScores asked => cases quiet.scores
      | _ =>
          exact Program.follows_attempt _ (writesRead_whole (.quiet quiet) owed)
  | insert rows =>
      exact Program.follows_attempt _ (writesRead_whole (.insert rows) owed)
  | upsert =>
      apply Program.follows_attempt_bind
      · refine ⟨ScoringOp.snapshot, ?_⟩
        intro score impossible
        cases impossible
      · intro scores
        exact writeScores_writesRead (fun _ member => member) []

/-! ## What is known of the scores that were read -/

/-- A score that was read is due unless it is among the changed ones. -/
def ReadSince (owed : List ComplianceScoreRow) (changed : ScoreKey -> Bool)
    (db : Db) : Prop :=
  forall score, score ∈ owed -> changed score.scoreKey = false ->
    scoreOf score.agentId score.policyElementId db = some score.content

/-- What the query computes is due. -/
theorem scoreOf_of_read {now : Timestamp} {agentId : Uuid} {db : Db}
    {score : ComplianceScoreRow} (read : score ∈ elementScores now agentId db) :
    scoreOf score.agentId score.policyElementId db = some score.content := by
  rcases mem_elementScores.mp read with ⟨element, member, scored⟩
  have itsKey := elementScore_key scored
  have sameAgent : score.agentId = agentId := congrArg Prod.fst itsKey
  have sameElement : score.policyElementId = element.id :=
    congrArg Prod.snd itsKey
  have lookup :=
    (Table.find_eq_some_iff PolicyElementRow.id_separates).mpr ⟨member, rfl⟩
  rw [sameAgent, sameElement, scoreOf, lookup, Option.bind_some,
    ← elementScore_now now, scored]
  rfl

theorem logChanged_grows {changed : ScoreKey -> Bool} {op : RowOp} {before : Db}
    {outcome : Except DbError op.Res × Db} {key : ScoreKey}
    (unlogged : logChanged changed op before outcome key = false) :
    changed key = false := by
  rcases outcome with ⟨answer, db'⟩
  cases op with
  | snapshot asked => exact unlogged
  | writeScore score => exact unlogged
  | whole stmt =>
      cases stmt <;> cases answer <;>
        first
        | exact unlogged
        | exact (Bool.or_eq_false_iff.mp unlogged).1

/-- A step changes no score but those it logs. -/
theorem logChanged_false {agentId : Uuid} {op : RowOp}
    (issued : ScoringOp agentId op) (env : Env) (db : Db)
    {changed : ScoreKey -> Bool} {key : ScoreKey}
    (unlogged : logChanged changed op db (Program.perform execRow env op db) key =
      false) :
    changed key = false ∧
      scoreOf key.1 key.2 (Program.perform execRow env op db).2 =
        scoreOf key.1 key.2 db := by
  have effect := perform_effect issued env db
  generalize Program.perform execRow env op db = outcome at effect unlogged
  rcases outcome with ⟨answer, db'⟩
  cases effect with
  | unchanged policies results _ _ =>
      have sameResults : db'.resultAt = db.resultAt := by
        rw [Db.resultAt, Db.resultAt, results]
      refine ⟨?_, scoreOf_congr policies.toSamePolicies sameResults key.1 key.2⟩
      exact logChanged_grows unlogged
  | inserted policies scores =>
      rcases Bool.or_eq_false_iff.mp unlogged with ⟨before, same⟩
      exact ⟨before, not_not.mp (of_decide_eq_false same)⟩
  | written upserted => exact ⟨unlogged, rfl⟩

theorem readSince_log {agentId : Uuid} {op : RowOp}
    (issued : ScoringOp agentId op) (env : Env) {db : Db}
    {owed : List ComplianceScoreRow} {changed : ScoreKey -> Bool}
    (since : ReadSince owed changed db) :
    ReadSince owed (logChanged changed op db (Program.perform execRow env op db))
      (Program.perform execRow env op db).2 := by
  intro score member unlogged
  rcases logChanged_false issued env db unlogged with ⟨before, same⟩
  exact same.trans (since score member before)

theorem scoreRecorder_sound (agentId : Uuid) :
    scoreRecorder.Sound execRow (WritesRead agentId) ReadSince := by
  constructor
  · intro env op owed changed db permitted since
    cases op with
    | snapshot asked =>
        intro score member _
        rcases fault : env.fault with _ | cause
        · have executed : execRow env (.snapshot asked) db =
              .ok (elementScores env.now asked db, db) := by
            rw [execRow, fault]
          rw [Program.perform_ok executed] at member ⊢
          exact scoreOf_of_read member
        · have executed :
              execRow env (.snapshot asked) db = .error (.query cause) := by
            rw [execRow, fault]
          rw [Program.perform_error executed] at member
          cases member
    | writeScore score => exact readSince_log permitted.1 env since
    | whole stmt =>
        intro score impossible
        cases impossible
  · intro env op mover moved owed changed db permitted _ since
    exact readSince_log permitted.1 env since

/-! ## Every interleaving -/

theorem writesDue_of_unchanged {agentId : Uuid} (recorded : RecordedScores)
    (label : Nat × Env)
    (records : recorded.Records scoreRecorder (WritesRead agentId) ReadSince)
    (unchanged : WritesUnchanged recorded label) :
    recorded.pool.Guarded WritesDue label := by
  intro op next turn
  have guard := unchanged op next turn
  cases op with
  | whole stmt => trivial
  | snapshot asked => trivial
  | writeScore score =>
      intro accepted
      have read := (records.follows.turn turn).2 score rfl
      exact records.sees label.1 score read (guard accepted)

/-- Every score written is due in an interleaving in which no results that change
a score are inserted between its reading and its writing. -/
theorem undisturbed_writes_due (ingester : ResultIngester) (agentId : Uuid)
    (calls : List IngestCall) (db : Db)
    (sameAgent : forall call, call ∈ calls -> call.agentId = agentId)
    (labels : List (Nat × Env))
    (meets : Meets (Recorded.step scoreRecorder execRow) WritesUnchanged
      (Recorded.start scoreRecorder [] (RowPool.start ingester calls db))
        labels) :
    Meets (Pool.step execRow) (Pool.Guarded WritesDue)
      (RowPool.start ingester calls db)
      labels := by
  have records :
      (Recorded.start scoreRecorder [] (RowPool.start ingester calls db)).Records
      scoreRecorder (WritesRead agentId) ReadSince := by
    constructor
    · intro index program present
      rcases List.mem_map.mp (List.mem_of_getElem? present) with
        ⟨call, member, rfl⟩
      rw [← sameAgent call member]
      exact Program.follows_expand splitUpsert_writesRead
        (ingest_scoring ingester call) []
    · intro index score impossible
      cases impossible
  exact Recorded.guarded_of_meets
    (scoreRecorder_sound agentId) writesDue_of_unchanged records
    meets

end Complyx
