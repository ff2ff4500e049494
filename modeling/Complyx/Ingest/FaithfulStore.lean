import Complyx.Ingest.SharedFate

namespace Complyx

open Transition

/-!
# What was sent is refused or stored

A report divides the batch: a result is valid and stands as it was sent, or it
has an entry among the rejected ones.  The identifier of a valid result is
parsed twice more than it need be, and its time is converted twice; neither
conversion can fail where the validator's did not.
-/

/-! ## The report -/

/-- Every result of the batch is in one of the two lists, as often as it was
sent. -/
structure Accounts (results : List CheckResult)
    (report : ValidationReport) : Prop where
  /-- The rejected entries are those of results which with the valid ones make up
  the batch. -/
  whole : Exists fun refused => (report.valid ++ refused).Perm results ∧
    report.rejected.map RejectedResult.checkId = refused.map CheckResult.checkId ∧
    forall result, result ∈ refused -> result ∉ report.valid
  ordered : report.valid.Sublist results
  counted : report.valid.length + report.rejected.length = results.length

theorem Divides.accounts {results refused : List CheckResult}
    {keep : CheckResult -> Bool} {report : ValidationReport}
    (divides : Divides results refused keep report) :
    Accounts results report where
  whole := by
    refine ⟨refused, divides.whole, divides.rejected, ?_⟩
    intro result member valid
    rw [divides.others.mem_iff, List.mem_filter] at member
    rw [divides.valid, List.mem_filter] at valid
    rw [valid.2] at member
    cases member.2
  ordered := by
    rw [divides.valid]
    exact List.filter_sublist
  counted := divides.length

/-- Whatever report a validation returns, it accounts for the batch. -/
theorem validation_accounts (text : UuidText) (now : DateTime)
    (bounds : TimestampBounds) (agentId : Uuid) (results : List CheckResult)
    (envs : Nat -> Env) (db db' : Db) (report : ValidationReport)
    (validated : Program.run exec (validateBatch text now bounds agentId results)
      envs db = (.ok report, db')) :
    Accounts results report := by
  rcases run_validateBatch_divided validated with ⟨keep, ⟨refused, divides⟩, _⟩
  exact divides.accounts

theorem validation_accounts_honest :
    Accounts honestBatch ⟨[midnightResult "1B4E28BA-2FA1-11D2-883F-0016D3CCA427"],
      [unassignedResult
        (midnightResult "9f2c1a7e-3b4d-4c5e-8f60-718293a4b5c6")]⟩ := by
  refine validation_accounts UuidText.crate newYear TimestampBounds.default 7
    honestBatch (quietly 1) policedDb
    policedDb _
    (Prod.ext ?_ rfl)
  decide +kernel

/-! ## The rows -/

/-- The default window around the time lies in chrono's range. -/
def UsualTime (now : DateTime) : Prop :=
  minUtcSecs * nanosPerSec ≤ now.nanos - TimestampBounds.default.maxPastSecs *
    nanosPerSec ∧
    now.nanos + TimestampBounds.default.maxFutureSecs * nanosPerSec <
      (maxUtcSecs + 1) * nanosPerSec

/-- No time makes the comparison panic. -/
theorem validateTimestamp_usual {now : DateTime} (usual : UsualTime now)
    (time : Int) :
    Exists fun answer => validateTimestamp time now TimestampBounds.default =
      .ok answer := by
  rcases usual with ⟨past, future⟩
  have within := now.inRange
  have forward :
      (0 : Int) ≤ TimestampBounds.default.maxFutureSecs * nanosPerSec := by decide
  have backward :
      (0 : Int) ≤ TimestampBounds.default.maxPastSecs * nanosPerSec := by decide
  have ahead : DateTime.durationSeconds TimestampBounds.default.maxFutureSecs =
      (.ok (TimestampBounds.default.maxFutureSecs * nanosPerSec) :
        Except (Fault IngesterError) Int) := rfl
  have back : DateTime.durationSeconds TimestampBounds.default.maxPastSecs =
      (.ok (TimestampBounds.default.maxPastSecs * nanosPerSec) :
        Except (Fault IngesterError) Int) := rfl
  have latest :
      Exists fun sum =>
        now.add (TimestampBounds.default.maxFutureSecs * nanosPerSec) =
      (.ok sum : Except (Fault IngesterError) DateTime) := by
    apply DateTime.add_isOk.mpr
    omega
  have earliest : Exists fun difference =>
    now.sub (TimestampBounds.default.maxPastSecs * nanosPerSec) =
      (.ok difference : Except (Fault IngesterError) DateTime) := by
    apply DateTime.sub_isOk.mpr
    omega
  rcases latest with ⟨maxFuture, added⟩
  rcases earliest with ⟨minFuture, subtracted⟩
  unfold validateTimestamp
  cases DateTime.fromTimestamp time with
  | none => exact ⟨_, rfl⟩
  | some executedAt =>
      simp only [ahead, back, added, subtracted, bind, Except.bind, pure,
        Except.pure]
      split
      · exact ⟨_, rfl⟩
      · split
        · exact ⟨_, rfl⟩
        · exact ⟨_, rfl⟩

theorem isCandidate_candidate {text : UuidText} {now : DateTime}
    {bounds : TimestampBounds} {result : CheckResult}
    (candidate : isCandidate text now bounds result = true) :
    Exists fun id => Candidate text now bounds result id := by
  cases checked : validateTimestamp result.executedAt now bounds with
  | ok answer => exact (isCandidate_iff answer checked).mp candidate
  | error failure =>
      rw [isCandidate, checked] at candidate
      cases candidate

/-- The row says what the result says. -/
structure Faithful (text : UuidText) (agentId : Uuid) (result : CheckResult)
    (row : InsertCheckResult) : Prop where
  agentId : row.agentId = agentId
  checkId : text.parse result.checkId = some row.checkId
  executedAt : row.executedAtUnix = result.executedAt
  content : row.content = result.content
  /-- The column value is not the present time. -/
  dated : (DateTime.fromTimestamp row.executedAtUnix).isSome = true

theorem Faithful.resultKey {text : UuidText} {agentId : Uuid}
    {result : CheckResult} {row : InsertCheckResult}
    (faithful : Faithful text agentId result row) (clock : Timestamp) :
    row.resultKey clock = result.key agentId row.checkId := by
  rcases Option.isSome_iff_exists.mp faithful.dated with ⟨time, read⟩
  rw [InsertCheckResult.resultKey, InsertCheckResult.executedAt, read,
    faithful.agentId, CheckResult.key]
  simp only [DateTime.naiveUtc, DateTime.fromTimestamp_nanos read,
    faithful.executedAt]

/-- The row of a candidate is built, and its time is a date-time. -/
theorem Candidate.toInsert {text : UuidText} {now : DateTime}
    {bounds : TimestampBounds} {result : CheckResult} {id : Uuid}
    (candidate : Candidate text now bounds result id) (agentId : Uuid) :
    Exists fun row => toInsert text agentId result = .ok row ∧
      Faithful text agentId result row := by
  simp only [Complyx.toInsert, candidate.parsed]
  refine ⟨_, rfl, rfl, candidate.parsed, rfl, rfl, ?_⟩
  rcases candidate.inWindow with ⟨time, read, _⟩
  exact Option.isSome_iff_exists.mpr ⟨time, read⟩

/-- What a report keeps has rows. -/
theorem mapM_toInsert_faithful {text : UuidText} {now : DateTime}
    {bounds : TimestampBounds} {valid : List CheckResult}
    (candidates : forall result, result ∈ valid ->
      isCandidate text now bounds result = true)
    (agentId : Uuid) :
    Exists fun rows => valid.mapM (toInsert text agentId) = .ok rows ∧
      List.Forall₂ (Faithful text agentId) valid rows := by
  induction valid with
  | nil => exact ⟨[], rfl, List.Forall₂.nil⟩
  | cons result rest ih =>
      rcases isCandidate_candidate (candidates result List.mem_cons_self) with
        ⟨id, candidate⟩
      rcases candidate.toInsert agentId with ⟨row, built, faithful⟩
      rcases ih fun other member =>
        candidates other (List.mem_cons_of_mem _ member) with
          ⟨rows, others, faithfuls⟩
      refine ⟨row :: rows, ?_, List.Forall₂.cons faithful faithfuls⟩
      rw [List.mapM_cons, built, others]
      rfl

/-! ## The ingestion -/

/-- Results are stored from rows that say what results of the batch say. -/
inductive FaithfulStmt (text : UuidText) (call : IngestCall) : Stmt -> Prop where
  | insert (rows : List InsertCheckResult) (faithful : forall row, row ∈ rows ->
      Exists fun result => result ∈ call.results ∧
        Faithful text call.agentId result row) :
      FaithfulStmt text call (.insertCheckResults rows)
  | other (stmt : Stmt) (readonly : stmt.writesCheckResults = false) :
      FaithfulStmt text call stmt

section Ingestion

variable {text : UuidText} {call : IngestCall} {bounds : TimestampBounds}

/-- The rows of a report are built, each from a result of the batch. -/
theorem Divides.rows {refused : List CheckResult} {keep : CheckResult -> Bool}
    {report : ValidationReport}
    (divides : Divides call.results refused keep report)
    (candidates : forall result, keep result = true ->
      isCandidate text call.now bounds result = true) :
    Exists fun rows => report.valid.mapM (toInsert text call.agentId) = .ok rows ∧
      forall row, row ∈ rows ->
        Exists fun result => result ∈ call.results ∧
          Faithful text call.agentId result row := by
  have kept : forall result, result ∈ report.valid -> result ∈ call.results ∧
      keep result = true := by
    intro result member
    rwa [divides.valid, List.mem_filter] at member
  rcases mapM_toInsert_faithful
      (fun result member => candidates result (kept result member).2)
      call.agentId with
    ⟨rows, built, faithfuls⟩
  refine ⟨rows, built, ?_⟩
  intro row member
  rcases List.forall₂_iff_get.mp faithfuls with ⟨sameLength, faithful⟩
  rcases List.get_of_mem member with ⟨index, here⟩
  have inside : index.val < report.valid.length := by
    rw [sameLength]
    exact index.isLt
  refine ⟨_, (kept _ (List.get_mem report.valid ⟨index, inside⟩)).1, ?_⟩
  rw [← here]
  exact faithful index.val inside index.isLt

theorem ingest_issues_faithful (text : UuidText) (bounds : TimestampBounds)
    (call : IngestCall) :
    ((⟨text, bounds⟩ : ResultIngester).ingest call).Issues
      (FaithfulStmt text call) := by
  unfold ResultIngester.ingest
  split
  · trivial
  refine Program.issues_bind_yielded ?_
    (validateBatch_divided text call.now bounds call.agentId call.results) ?_
  · exact validateBatch_issues
      (fun agentId checkIds => FaithfulStmt.other _ rfl) _ _ _ _ _
  rintro report ⟨keep, ⟨refused, divides⟩, candidates⟩
  dsimp only
  split
  · trivial
  rcases divides.rows candidates with ⟨rows, built, faithful⟩
  rw [built, Program.lift_ok, Program.done_bind]
  refine Program.issues_bind
    (Program.issues_attempt _ (FaithfulStmt.insert rows faithful))
    fun inserted => ?_
  exact (afterInsertion_issues _ _ _ _).mono FaithfulStmt.other

/-! ## No panic -/

/-- An error of the database. -/
def Reported (fault : Fault IngesterError) : Prop :=
  Exists fun cause => fault = ingesterFault cause

theorem attempt_reported (stmt : Stmt) :
    (Program.attempt ingesterFault stmt :
      Code (Fault IngesterError) stmt.Res).FailsWith Reported :=
  Program.failsWith_attempt _ stmt fun cause => ⟨cause, rfl⟩

theorem maybeCreateRisk_reported (agentId : Uuid) (severity : String) :
    (maybeCreateRisk agentId severity).FailsWith Reported := by
  refine Program.failsWith_seq (attempt_reported _) fun threats => ?_
  split
  · trivial
  refine Program.failsWith_seq (attempt_reported _) fun existing => ?_
  split
  · trivial
  · exact Program.failsWith_seq (attempt_reported _) fun riskId => trivial

theorem closeFirstOpen_reported (agentId : Uuid) (threats : List ThreatRow) :
    (closeFirstOpen agentId threats).FailsWith Reported := by
  induction threats with
  | nil => trivial
  | cons threat rest ih =>
      unfold closeFirstOpen
      split
      · exact ih
      refine Program.failsWith_seq (attempt_reported _) fun found => ?_
      cases found with
      | none => exact ih
      | some riskId =>
          exact Program.failsWith_seq (attempt_reported _) fun nothing => trivial

theorem handleResult_reported (agentId : Uuid) (severities : CheckSeverities)
    (result : CheckResult) :
    (handleResult agentId severities result).FailsWith Reported := by
  unfold handleResult
  dsimp only
  split
  · exact Program.failsWith_seq (maybeCreateRisk_reported agentId _)
      fun made => trivial
  split
  · refine Program.failsWith_seq ?_ fun did => trivial
    exact Program.failsWith_seq (attempt_reported _)
      (closeFirstOpen_reported agentId)
  · trivial

theorem evaluateFrom_reported (agentId : Uuid) (severities : CheckSeverities)
    (summary : RiskTriggerSummary) (results : List CheckResult) :
    (evaluateFrom agentId severities summary results).FailsWith Reported := by
  induction results generalizing summary with
  | nil => trivial
  | cons result rest ih =>
      exact Program.failsWith_seq
        (handleResult_reported agentId severities result) fun change => ih _

theorem validateBatch_reported {now : DateTime} (usual : UsualTime now)
    (agentId : Uuid) (results : List CheckResult) :
    (validateBatch text now TimestampBounds.default agentId results).FailsWith
      Reported := by
  unfold validateBatch
  split
  · trivial
  have ended : Exists fun sorted =>
      results.foldlM (sortResult text now TimestampBounds.default) {} =
        .ok sorted :=
    sorted_isOk
      (fun result _ => validateTimestamp_usual usual result.executedAt) {}
  rcases ended with ⟨sorted, turned⟩
  rw [turned, Program.lift_ok, Program.done_bind]
  split
  · trivial
  · exact Program.failsWith_seq (attempt_reported _) fun invalidIds => trivial

theorem ingest_reported (text : UuidText) (call : IngestCall)
    (usual : UsualTime call.now) :
    ((⟨text, TimestampBounds.default⟩ : ResultIngester).ingest call).FailsWith
      Reported := by
  unfold ResultIngester.ingest
  split
  · trivial
  refine Program.failsWith_bind (validateBatch_reported usual _ _)
    (validateBatch_divided text call.now TimestampBounds.default call.agentId
      call.results) ?_
  rintro report ⟨keep, ⟨refused, divides⟩, candidates⟩
  dsimp only
  split
  · trivial
  rcases divides.rows candidates with ⟨rows, built, _⟩
  rw [built, Program.lift_ok, Program.done_bind]
  refine Program.failsWith_seq (attempt_reported _) fun inserted => ?_
  refine Program.failsWith_seq ?_ fun scoresUpdated => ?_
  · exact Program.failsWith_seq (attempt_reported _) fun scores => trivial
  · exact Program.failsWith_seq (evaluateFrom_reported _ _ _ _)
      fun riskSummary => trivial

end Ingestion

/-! ## The stored rows -/

/-- The row stored is that of a result of the batch. -/
def StoredFrom (text : UuidText) (call : IngestCall)
    (row : CheckResultRow) : Prop :=
  Exists fun result => Exists fun id => result ∈ call.results ∧
    text.parse result.checkId = some id ∧
    row.resultKey = result.key call.agentId id ∧ row.content = result.content

/-- New rows are those of results of the batch. -/
def OnlyStored (text : UuidText) (call : IngestCall) (db db' : Db) : Prop :=
  forall row, row ∈ db'.checkResults.rows -> row ∈ db.checkResults.rows ∨
    StoredFrom text call row

instance (text : UuidText) (call : IngestCall) :
    Std.Refl (OnlyStored text call) := ⟨fun _ _ => Or.inl⟩

instance (text : UuidText) (call : IngestCall) :
    IsTrans Db (OnlyStored text call) where
  trans := by
    intro first second third early late row member
    rcases late row member with before | new
    · exact early row before
    · exact Or.inr new

theorem perform_onlyStored {text : UuidText} {call : IngestCall} (env : Env)
    (stmt : Stmt) (db : Db) (issued : FaithfulStmt text call stmt) :
    OnlyStored text call db (Program.perform exec env stmt db).2 := by
  cases issued with
  | other stmt readonly =>
      intro row member
      rw [(perform_frame env stmt db).checkResults readonly] at member
      exact Or.inl member
  | insert rows faithful =>
      rcases perform_cases env (.insertCheckResults rows) db with
        ⟨failure, performed⟩ | ⟨added, db', _, effect, performed⟩
      · rw [performed]
        exact fun row => Or.inl
      · rw [performed]
        intro row member
        rcases insertCheckResultsFrom_rows effect member with
          before | ⟨inserted, drawn, insertedMember, rfl⟩
        · exact Or.inl before
        · right
          rcases faithful inserted insertedMember with
            ⟨result, resultMember, same⟩
          exact ⟨result, inserted.checkId, resultMember, same.checkId,
            same.resultKey env.clock, same.content⟩

/-- An ingestion that does not panic and stores what was sent. -/
structure StoresFaithfully (ingester : ResultIngester) (call : IngestCall)
    (envs : Nat -> Env) (db : Db) : Prop where
  unpanicked :
    forall message,
      (Program.run exec (ingester.ingest call) envs db).1 ≠ .error
      (.panic message)
  /-- Whatever is inserted has the parsed identifier and a time that is a
  date-time, so that the present time does not stand in for it. -/
  inserted : (ingester.ingest call).Issues (FaithfulStmt ingester.text call)
  stored :
    OnlyStored ingester.text call db
      (Program.run exec (ingester.ingest call) envs db).2
  /-- Once the ingestion succeeds every valid result is there. -/
  kept : forall report summary db' db'',
    Program.run exec (ingester.validate call) envs db = (.ok report, db') ->
    Program.run exec (ingester.ingest call) envs db = (.ok summary, db'') ->
    forall result, result ∈ report.valid -> Exists fun id =>
      ingester.text.parse result.checkId = some id ∧
      result.key call.agentId id ∈ db''.resultKeys

/-- With the default window no batch makes an ingestion panic, and what it stores
is what was sent. -/
theorem ingest_stores_faithfully (text : UuidText) (call : IngestCall)
    (envs : Nat -> Env) (db : Db) (usual : UsualTime call.now) :
    StoresFaithfully ⟨text, TimestampBounds.default⟩ call envs db where
  unpanicked := by
    intro message panicked
    rcases Program.run_failsWith (ingest_reported text call usual)
      (Prod.ext panicked rfl) with ⟨cause, impossible⟩
    cases impossible
  inserted := ingest_issues_faithful text TimestampBounds.default call
  stored :=
    Program.keeps_of_issues (fun env stmt db => perform_onlyStored env stmt db)
      (ingest_issues_faithful text TimestampBounds.default call) envs db
  kept := by
    intro report summary db' db'' validated ingested result member
    rcases ((validateBatch_ok validated).2 result).mp member with
      ⟨sent, id, passes⟩
    refine ⟨id, passes.parsed, ?_⟩
    rw [ingest_ok validated ingested]
    exact Or.inr ⟨result, id, sent, passes, rfl⟩

/-- A batch with a respelled identifier, an unassigned one and the two extreme
seconds. -/
def extremeBatch : List CheckResult :=
  honestBatch ++ [{ midnightResult "" with executedAt := -9223372036854775808 },
    { midnightResult "" with executedAt := 9223372036854775807 }]

theorem ingest_stores_faithfully_extreme :
    StoresFaithfully crateIngester (midnightCall extremeBatch)
      (quietly 1) policedDb :=
  ingest_stores_faithfully UuidText.crate (midnightCall extremeBatch)
    (quietly 1) policedDb
    ⟨by decide, by decide⟩

end Complyx
