import Complyx.Ingest.Ingester

namespace Complyx

open Transition

/-!
# Whose results are stored?

A result ought to be stored exactly if its time is within the window and its
check is one assigned to the agent.  The validator looks the text of the
identifier up in a set of written identifiers, so it refuses an unassigned
check only where the agent spells it the way the server writes it.
-/

/-- The result is within the window and for a check assigned to the agent. -/
structure Authorized (text : UuidText) (now : DateTime) (bounds : TimestampBounds)
    (db : Db) (agentId : Uuid) (result : CheckResult) (id : Uuid) :
    Prop extends Candidate text now bounds result id where
  assigned : Assigned db agentId id

/-- The key under which a result in the window is stored. -/
def CheckResult.key (agentId id : Uuid) (result : CheckResult) : ResultKey :=
  (agentId, id, result.executedAt * nanosPerSec)

def ResultIngester.Authorized (ingester : ResultIngester) (call : IngestCall)
    (db : Db) (result : CheckResult) (id : Uuid) : Prop :=
  Complyx.Authorized ingester.text call.now ingester.timestampBounds db
    call.agentId result id

/-- The valid results of the batch are the authorized ones, and an ingestion
that succeeds stores these and no others. -/
structure AuthorizesBatch (ingester : ResultIngester) (call : IngestCall)
    (envs : Nat -> Env) (db : Db) (report : ValidationReport) : Prop where
  valid : forall result, result ∈ report.valid <->
    result ∈ call.results ∧ Exists fun id => ingester.Authorized call db result id
  written : forall summary db', Program.run exec (ingester.ingest call) envs db =
    (.ok summary, db') ->
    forall key, key ∈ db'.resultKeys <-> key ∈ db.resultKeys ∨
      Exists fun result => Exists fun id => result ∈ call.results ∧
        ingester.Authorized call db result id ∧
        key = result.key call.agentId id

/-- Every candidate for an unassigned check spells it the way the server
writes it. -/
def SpellsUnassigned (ingester : ResultIngester) (call : IngestCall)
    (db : Db) : Prop :=
  forall result, result ∈ call.results -> forall id,
    Candidate ingester.text call.now ingester.timestampBounds result id ->
    ¬ Assigned db call.agentId id -> result.checkId = ingester.text.toText id

/-! ## What an ingestion stores -/

theorem mem_mapM_ok {α β ε : Type} {convert : α -> Except ε β} {values : List α}
    {converted : List β} (success : values.mapM convert = .ok converted)
    (image : β) :
    image ∈ converted <-> Exists fun value => value ∈ values ∧
      convert value = .ok image := by
  induction values generalizing converted with
  | nil =>
      have empty := Except.ok.inj success
      subst converted
      constructor
      · intro impossible
        cases impossible
      · rintro ⟨value, impossible, _⟩
        cases impossible
  | cons value rest ih =>
      simp only [List.mapM_cons, bind, Except.bind] at success
      split at success
      · cases success
      next head first =>
      split at success
      · cases success
      next tail others =>
      have same := Except.ok.inj success
      subst converted
      rw [List.mem_cons, ih others]
      constructor
      · rintro (here | ⟨other, member, found⟩)
        · exact ⟨value, List.mem_cons_self, here ▸ first⟩
        · exact ⟨other, List.mem_cons_of_mem _ member, found⟩
      · rintro ⟨other, member, found⟩
        rcases List.mem_cons.mp member with here | later
        · rw [here, first] at found
          exact Or.inl (Except.ok.inj found).symm
        · exact Or.inr ⟨other, later, found⟩

/-- A program that does not write results keeps them. -/
theorem run_resultKeys {ε α : Type} {program : Code ε α} {envs : Nat -> Env}
    {db db' : Db} {answer : Except ε α}
    (ran : Program.run exec program envs db = (answer, db'))
    (issues : program.Issues fun stmt => stmt.writesCheckResults = false) :
    db'.resultKeys = db.resultKeys := by
  have kept :
      (Program.run exec program envs db).2.resultKeys = db.resultKeys := by
    apply Program.run_kept Db.resultKeys _ issues
    intro env stmt db readonly
    rw [Db.resultKeys, Db.resultKeys,
      (perform_frame env stmt db).checkResults readonly]
  rwa [ran] at kept

theorem TriggerStmt.readonly {stmt : Stmt} (issued : TriggerStmt stmt) :
    stmt.writesCheckResults = false := by
  cases issued <;> rfl

/-- The keys of the rows built from the valid results. -/
theorem mem_insertedKeys {ingester : ResultIngester} {call : IngestCall} {db : Db}
    {valid : List CheckResult}
    {rows : List InsertCheckResult}
    (built : valid.mapM (toInsert ingester.text call.agentId) = .ok rows)
    (passing : forall result, result ∈ valid <-> result ∈ call.results ∧
      Exists fun id =>
      Passes ingester.text call.now ingester.timestampBounds db
        call.agentId result id)
    (clock : Timestamp) (key : ResultKey) :
    key ∈ rows.map (InsertCheckResult.resultKey clock) <->
      Exists fun result => Exists fun id => result ∈ call.results ∧
        Passes ingester.text call.now ingester.timestampBounds db
          call.agentId result id ∧
        key = result.key call.agentId id := by
  have keyOf : forall {result row id},
    toInsert ingester.text call.agentId result = .ok row ->
      Passes ingester.text call.now ingester.timestampBounds db call.agentId
        result id ->
      row.resultKey clock = result.key call.agentId id := by
    intro result row id inserted passes
    rcases passes.inWindow with ⟨time, read, _⟩
    simp only [toInsert, passes.parsed, Except.ok.injEq] at inserted
    simp only [← inserted, InsertCheckResult.resultKey,
      InsertCheckResult.executedAt, read, CheckResult.key, DateTime.naiveUtc,
        DateTime.fromTimestamp_nanos read]
  rw [List.mem_map]
  constructor
  · rintro ⟨row, member, same⟩
    rcases (mem_mapM_ok built row).mp member with ⟨result, resultMember, inserted⟩
    rcases (passing result).mp resultMember with ⟨inBatch, id, passes⟩
    exact ⟨result, id, inBatch, passes, same.symm.trans (keyOf inserted passes)⟩
  · rintro ⟨result, id, inBatch, passes, same⟩
    have inserted : Exists fun row => toInsert ingester.text call.agentId result =
        .ok row := by
      simp only [toInsert, passes.parsed]
      exact ⟨_, rfl⟩
    rcases inserted with ⟨row, inserted⟩
    have resultMember := (passing result).mpr ⟨inBatch, id, passes⟩
    exact ⟨row, (mem_mapM_ok built row).mpr ⟨result, resultMember, inserted⟩,
      (keyOf inserted passes).trans same.symm⟩

/-- The statements after the insertion leave the results alone. -/
theorem afterInsertion_issues (agentId : Uuid) (valid : List CheckResult)
    (severities : CheckSeverities)
    (summarize : Nat -> RiskTriggerSummary -> IngestSummary) :
    (recalculate agentId >>= fun scoresUpdated =>
      evaluate agentId valid severities >>= fun riskSummary =>
      Program.done (summarize scoresUpdated riskSummary) :
        Code (Fault IngesterError) IngestSummary).Issues
        fun stmt => stmt.writesCheckResults = false := by
  refine Program.issues_bind ?_ fun scoresUpdated => ?_
  · exact Program.issues_bind (Program.issues_attempt _ rfl) fun scores => trivial
  · refine Program.issues_bind ?_ fun riskSummary => trivial
    exact (evaluateFrom_issues agentId severities {} valid).mono fun _ =>
      TriggerStmt.readonly

/-- An ingestion that succeeds stores the results that pass. -/
theorem ingest_ok {ingester : ResultIngester} {call : IngestCall}
    {envs : Nat -> Env} {db db' db'' : Db} {report : ValidationReport}
    {summary : IngestSummary}
    (validated : Program.run exec (ingester.validate call) envs db =
      (.ok report, db'))
    (ingested : Program.run exec (ingester.ingest call) envs db =
      (.ok summary, db''))
    (key : ResultKey) :
    key ∈ db''.resultKeys <-> key ∈ db.resultKeys ∨ Exists fun result =>
      Exists fun id => result ∈ call.results ∧
      Passes ingester.text call.now ingester.timestampBounds db
        call.agentId result id ∧
      key = result.key call.agentId id := by
  rcases validateBatch_ok validated with ⟨sameDb, passing⟩
  subst db'
  rcases run_ingest_ok ingested with ⟨report', validated', parts⟩
  cases validated.symm.trans validated'
  cases parts with
  | nothing none same =>
      rw [same]
      refine ⟨Or.inl, ?_⟩
      rintro (old | ⟨result, id, member, passes, _⟩)
      · exact old
      · have valid := (passing result).mpr ⟨member, id, passes⟩
        rw [none] at valid
        cases valid
  | stored rows inserted scores middle stored insertEnv scoreEnv riskSummary built
      accepted rescored storing through =>
      have added := insertCheckResultsFrom_added accepted
      have scored : stored.resultKeys = middle.resultKeys := by
        rw [upsertComplianceScores_frame rescored, Db.resultKeys, Db.resultKeys]
      rw [ResultIngester.ingestThrough, Program.run_bind_ok storing] at through
      have evaluation :=
        evaluateFrom_issues call.agentId call.checkSeverities {} report.valid
      have kept : db''.resultKeys = stored.resultKeys :=
        run_resultKeys through (evaluation.mono fun _ => TriggerStmt.readonly)
      rw [kept, scored, added.keys key, mem_insertedKeys built passing]

/-- Given what the validator answers, the valid and the stored results are the
authorized ones exactly if every candidate for an unassigned check is spelled
the way the server writes identifiers. -/
theorem authorizes_batch_iff (ingester : ResultIngester) (call : IngestCall)
    (envs : Nat -> Env) (db db' : Db) (report : ValidationReport)
    (validated : Program.run exec (ingester.validate call) envs db =
      (.ok report, db')) :
    AuthorizesBatch ingester call envs db report <->
      SpellsUnassigned ingester call db := by
  have passing := (validateBatch_ok validated).2
  constructor
  · intro authorizes result member id candidate unassigned
    by_contra respelled
    have valid := (passing result).mpr ⟨member, id, candidate, Or.inr respelled⟩
    rcases ((authorizes.valid result).mp valid).2 with ⟨other, authorized⟩
    have sameId := Option.some.inj (authorized.parsed.symm.trans candidate.parsed)
    exact unassigned (sameId ▸ authorized.assigned)
  · intro spells
    have authorized_iff : forall {result id}, result ∈ call.results ->
        (Passes ingester.text call.now ingester.timestampBounds db call.agentId
          result id <->
          ingester.Authorized call db result id) := by
      intro result id member
      constructor
      · intro passes
        refine ⟨passes.toCandidate, ?_⟩
        by_contra unassigned
        rcases passes.survives with assigned | respelled
        · exact unassigned assigned
        · exact respelled (spells result member id passes.toCandidate unassigned)
      · intro authorized
        exact ⟨authorized.toCandidate, Or.inl authorized.assigned⟩
    constructor
    · intro result
      rw [passing result, and_congr_right_iff]
      intro member
      exact exists_congr fun id => authorized_iff member
    · intro summary db'' ingested key
      rw [ingest_ok validated ingested key]
      apply or_congr_right
      refine exists_congr fun result => exists_congr fun id =>
        and_congr_right fun member => ?_
      rw [authorized_iff member]

/-! ## Two checks, one of them assigned -/

def assignedCheck : Uuid := 0x1b4e28ba2fa111d2883f0016d3cca427

def foreignCheck : Uuid := 0x9f2c1a7e3b4d4c5e8f60718293a4b5c6

/-- Agent 7 is assigned the policy of the first check alone. -/
def policedDb : Db where
  agents :=
    ⟨[⟨7, .host 0x0a000001, some "web-01", some "Linux", some "6.8",
        newYear.nanos, newYear.nanos, true⟩], by decide⟩
  policyElements := ⟨[⟨11, 21, none⟩, ⟨12, 22, none⟩], by decide⟩
  policyChecks := ⟨[⟨assignedCheck, 11, "sshd", none, "\x7b\x7d"⟩,
    ⟨foreignCheck, 12, "auditd", none, "\x7b\x7d"⟩], by decide⟩
  agentPolicies := ⟨[⟨7, 21⟩], by decide⟩

/-- A passed result at midnight. -/
def midnightResult (checkId : String) : CheckResult where
  checkId := checkId
  passed := true
  detail := ""
  executedAt := 1767225600
  actualValue := "no"
  expectedValue := "no"

def crateIngester : ResultIngester := ⟨UuidText.crate, TimestampBounds.default⟩

def midnightCall (results : List CheckResult) : IngestCall where
  agentId := 7
  results := results
  checkSeverities := fun _ => none
  now := newYear

/-- The assigned check in upper case, the other one as the server writes it. -/
def honestBatch : List CheckResult :=
  [midnightResult "1B4E28BA-2FA1-11D2-883F-0016D3CCA427",
    midnightResult "9f2c1a7e-3b4d-4c5e-8f60-718293a4b5c6"]

theorem authorizes_batch_iff_honest :
    AuthorizesBatch crateIngester (midnightCall honestBatch) (quietly 1) policedDb
      ⟨[midnightResult "1B4E28BA-2FA1-11D2-883F-0016D3CCA427"],
        [unassignedResult
          (midnightResult "9f2c1a7e-3b4d-4c5e-8f60-718293a4b5c6")]⟩ := by
  refine (authorizes_batch_iff _ _ _ _ policedDb _ ?_).mpr ?_
  · refine Prod.ext ?_ rfl
    decide +kernel
  · intro result member id candidate unassigned
    rcases List.mem_cons.mp member with upper | rest
    · have read :
          crateIngester.text.parse result.checkId = some assignedCheck := by
        rw [upper]
        decide +kernel
      have same := Option.some.inj (candidate.parsed.symm.trans read)
      subst id
      exact absurd (by decide +kernel) unassigned
    · rw [List.mem_singleton.mp rest] at candidate ⊢
      have read :
          crateIngester.text.parse "9f2c1a7e-3b4d-4c5e-8f60-718293a4b5c6" =
            some foreignCheck := by
        decide +kernel
      have same := Option.some.inj (candidate.parsed.symm.trans read)
      subst id
      decide +kernel

/-- The unassigned check in upper case. -/
def respelledResult : CheckResult :=
      midnightResult "9F2C1A7E-3B4D-4C5E-8F60-718293A4B5C6"

/-- It passes the validator. -/
theorem respelled_check_passes :
    (Program.run exec (crateIngester.validate (midnightCall [respelledResult]))
      (quietly 1) policedDb).1 =
      .ok ⟨[respelledResult], []⟩ ∧
    ¬ AuthorizesBatch crateIngester (midnightCall [respelledResult])
      (quietly 1) policedDb
      ⟨[respelledResult], []⟩ := by
  refine ⟨by decide +kernel, ?_⟩
  intro authorizes
  rcases ((authorizes.valid respelledResult).mp
    (List.mem_singleton_self _)).2 with ⟨id, authorized⟩
  have read :
      crateIngester.text.parse respelledResult.checkId = some foreignCheck := by
    decide +kernel
  have same := Option.some.inj (authorized.parsed.symm.trans read)
  subst id
  exact absurd authorized.assigned (by decide +kernel)

end Complyx
