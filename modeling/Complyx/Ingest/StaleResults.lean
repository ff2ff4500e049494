import Complyx.Ingest.OpenRisks
import Complyx.Ingest.RiskLedger

namespace Complyx

open Transition Relational

/-!
# Do stale results touch risks?

The scores are computed from the latest result of each check, whatever order
the results arrive in.  The trigger handles every valid result of the batch in
the order of the message, without asking whether the database had it or knows
a later one.  So a stale result is harmless exactly if the trigger finds
nothing to do for it.
-/

section Stale

variable (text : UuidText) (db : Db) (agentId : Uuid) (valid : List CheckResult)

/-- The result of the check is no news: a row or an earlier valid result of the
batch has its key, or a row or a valid result of the batch is later. -/
def OldFor (id : Uuid) (before : List CheckResult)
    (result : CheckResult) : Prop :=
  result.key agentId id ∈ db.resultKeys ∨
  (Exists fun earlier => earlier ∈ before ∧ earlier ∈ valid ∧
    text.parse earlier.checkId = some id ∧
    earlier.executedAt = result.executedAt) ∨
  (Exists fun row => row ∈ db.checkResults.rows ∧ row.agentId = agentId ∧
    row.checkId = id ∧
    result.executedAt * nanosPerSec < row.executedAt) ∨
  (Exists fun later => later ∈ valid ∧ text.parse later.checkId = some id ∧
    result.executedAt < later.executedAt)

instance (id : Uuid) (before : List CheckResult) (result : CheckResult) :
    Decidable (OldFor text db agentId valid id before result) :=
  inferInstanceAs (Decidable (_ ∨ _ ∨ _ ∨ _))

/-- A valid result that is no news about its check. -/
def Stale (before : List CheckResult) (result : CheckResult) : Prop :=
  result ∈ valid ∧
    match text.parse result.checkId with
    | some id => OldFor text db agentId valid id before result
    | none => False

instance (before : List CheckResult) (result : CheckResult) :
    Decidable (Stale text db agentId valid before result) := by
  unfold Stale
  split <;> infer_instance

/-- The batch without its stale results, each judged after those before it. -/
def withoutStale : List CheckResult -> List CheckResult -> List CheckResult
  | _, [] => []
  | before, result :: rest =>
      if Stale text db agentId valid before result then
        withoutStale (before ++ [result]) rest
      else result :: withoutStale (before ++ [result]) rest

end Stale

/-- The ledger after the given results. -/
def ledgerThrough (call : IngestCall) (db : Db)
    (handled : List CheckResult) : Ledger :=
  handled.foldl (Ledger.handle (listThreats db) call.checkSeverities)
    (db.ledger call.agentId)

/-- The batch of the call without its stale results. -/
def ResultIngester.withoutStale (ingester : ResultIngester) (call : IngestCall)
    (db : Db) (report : ValidationReport) : IngestCall :=
  { call with
    results :=
      Complyx.withoutStale ingester.text db call.agentId report.valid []
        call.results }

/-- No stale result changes the risks when its turn comes, and without the
stale results as many risks are open and closed for each agent and threat. -/
structure StaleHarmless (ingester : ResultIngester) (call : IngestCall)
    (envs : Nat -> Env) (db : Db) (report : ValidationReport) : Prop where
  untouched : forall before result rest,
    report.valid = before ++ result :: rest ->
    Stale ingester.text db call.agentId report.valid before result ->
    (Program.run exec (ingester.ingestThrough call (before ++ [result])) envs
      db).2.risks =
      (Program.run exec (ingester.ingestThrough call before) envs db).2.risks
  removable : forall summary db' envs' summary' db'',
    Program.run exec (ingester.ingest call) envs db = (.ok summary, db') ->
    Program.run exec (ingester.ingest (ingester.withoutStale call db report))
      envs' db = (.ok summary', db'') ->
    forall agentId, db''.ledger agentId = db'.ledger agentId

/-- Where the trigger comes to a stale result, it has nothing to do. -/
def StaleIdle (ingester : ResultIngester) (call : IngestCall) (db : Db)
    (report : ValidationReport) : Prop :=
  forall before result rest, report.valid = before ++ result :: rest ->
    Stale ingester.text db call.agentId report.valid before result ->
    (ledgerThrough call db before).Idle
      (listThreats db) call.checkSeverities result

/-! ## The ledger of an ingestion -/

/-- What comes before the trigger does not write risks. -/
theorem store_issues (ingester : ResultIngester) (call : IngestCall) :
    (ingester.store call).Issues fun stmt => stmt.writesRisks = false := by
  apply Program.issues_bind (validateBatch_issues (fun _ _ => rfl) _ _ _ _ _)
  intro report
  apply Program.issues_bind (Program.issues_lift _)
  intro rows
  refine Program.issues_bind (Program.issues_attempt _ rfl) fun inserted => ?_
  exact Program.issues_bind (Program.issues_attempt _ rfl) fun scores => trivial

/-- The tables the trigger decides on. -/
def Db.riskView (db : Db) : Table RiskRow RiskRow.Clash × List ThreatRow :=
  (db.risks, listThreats db)

theorem ledger_of_risks {db db' : Db} (same : db'.risks = db.risks) :
    db'.ledger = db.ledger := by
  funext agentId threatId status
  rw [Db.ledger, Db.ledger, same]

theorem run_store_kept {ingester : ResultIngester} {call : IngestCall}
    {envs : Nat -> Env} {db stored : Db}
    {answer : Except (Fault IngesterError) Nat}
    (storing : Program.run exec (ingester.store call) envs db =
      (answer, stored)) :
    stored.ledger = db.ledger ∧ listThreats stored = listThreats db := by
  have kept : (Program.run exec (ingester.store call) envs db).2.riskView =
      db.riskView := by
    apply Program.run_kept Db.riskView _ (store_issues ingester call)
    intro env stmt db readonly
    have frame := perform_frame env stmt db
    rw [Db.riskView, Db.riskView, listThreats, listThreats, frame.risks readonly,
      frame.threats, frame.collate]
  rw [storing] at kept
  exact ⟨ledger_of_risks (congrArg Prod.fst kept), congrArg Prod.snd kept⟩

/-- The ledger after the turns of the given results. -/
theorem run_ingestThrough_ledger {ingester : ResultIngester} {call : IngestCall}
    {envs : Nat -> Env} {db db' : Db} {handled : List CheckResult}
    {summary : RiskTriggerSummary}
    (through : Program.run exec (ingester.ingestThrough call handled) envs db =
      (.ok summary, db')) :
    db'.ledger call.agentId = ledgerThrough call db handled ∧
      listThreats db' = listThreats db ∧
      forall other, other ≠ call.agentId ->
        db'.ledger other = db.ledger other := by
  rcases Program.run_bind_eq_ok through with ⟨updated, stored, storing, evaluated⟩
  have effect := run_evaluateFrom_effect evaluated
  have kept := run_store_kept storing
  refine ⟨?_, ?_, ?_⟩
  · rw [effect.own, kept.1, kept.2, ledgerThrough]
  · rw [effect.frame, ← kept.2]
    rfl
  · intro other different
    rw [effect.others other different, kept.1]

theorem ingestThrough_append (ingester : ResultIngester) (call : IngestCall)
    (before after : List CheckResult) :
    ingester.ingestThrough call (before ++ after) =
      ingester.ingestThrough call before >>= fun summary =>
      evaluateFrom call.agentId call.checkSeverities summary after := by
  rw [ResultIngester.ingestThrough, ResultIngester.ingestThrough, bind_assoc]
  congr 1
  funext updated
  exact evaluateFrom_append call.agentId call.checkSeverities {} before after

/-- An idle turn leaves the risks alone, whatever becomes of the ingestion. -/
theorem run_ingestThrough_idle {ingester : ResultIngester} {call : IngestCall}
    {envs : Nat -> Env} {db : Db} {before : List CheckResult}
    {result : CheckResult}
    (idle : (ledgerThrough call db before).Idle
      (listThreats db) call.checkSeverities result) :
    (Program.run exec (ingester.ingestThrough call (before ++ [result]))
      envs db).2 =
      (Program.run exec (ingester.ingestThrough call before) envs db).2 := by
  rw [ingestThrough_append, Program.run_bind]
  cases through :
      Program.run exec (ingester.ingestThrough call before) envs db with
  | mk answer middle =>
  cases answer with
  | error failure => rfl
  | ok summary =>
  have reached := run_ingestThrough_ledger through
  simp only [evaluateFrom]
  rw [Program.run_bind]
  generalize
    (fun n =>
      envs
        (n + Program.calls exec (ingester.ingestThrough call before) envs db)) =
        envs'
  cases handled :
      Program.run exec (handleResult call.agentId call.checkSeverities result)
        envs' middle with
  | mk answer last =>
  cases answer with
  | error failure => exact run_handleResult_error handled
  | ok change =>
      apply (run_handleResult_effect handled).idle
      rw [reached.1, reached.2.1]
      exact idle

/-- A turn that returns and leaves the risks alone is idle. -/
theorem idle_of_untouched {ingester : ResultIngester} {call : IngestCall}
    {envs : Nat -> Env} {db db' : Db} {before : List CheckResult}
    {result : CheckResult} {summary : RiskTriggerSummary}
    (through : Program.run exec (ingester.ingestThrough call (before ++ [result]))
      envs db = (.ok summary, db'))
    (untouched : db'.risks =
      (Program.run exec (ingester.ingestThrough call before) envs db).2.risks) :
    (ledgerThrough call db before).Idle (listThreats db) call.checkSeverities
      result := by
  have whole := run_ingestThrough_ledger through
  rw [ingestThrough_append] at through
  rcases Program.run_bind_eq_ok through with ⟨summary', middle, earlier, _⟩
  rw [earlier] at untouched
  have part := run_ingestThrough_ledger earlier
  have same := congrFun (ledger_of_risks untouched) call.agentId
  rw [whole.1, part.1] at same
  rw [← Ledger.handle_eq_iff]
  calc
    (ledgerThrough call db before).handle
      (listThreats db) call.checkSeverities result =
        ledgerThrough call db (before ++ [result]) := by
          rw [ledgerThrough, ledgerThrough, List.foldl_concat]
    _ = ledgerThrough call db before := same

/-- The ledger an ingestion leaves. -/
theorem ledger_of_parts {ingester : ResultIngester} {call : IngestCall}
    {envs : Nat -> Env} {db db' : Db} {report : ValidationReport}
    (parts : IngestParts ingester call envs db report db') :
    db'.ledger call.agentId = ledgerThrough call db report.valid ∧
      forall other, other ≠ call.agentId ->
        db'.ledger other = db.ledger other := by
  cases parts with
  | nothing none same =>
      rw [same, none]
      exact ⟨rfl, fun _ _ => rfl⟩
  | stored rows inserted scores middle stored insertEnv scoreEnv riskSummary built
      accepted rescored storing through =>
      have reached := run_ingestThrough_ledger through
      exact ⟨reached.1, reached.2.2⟩

/-! ## Batches without stale results -/

section Batch

variable {text : UuidText} {db : Db} {agentId : Uuid} {valid : List CheckResult}

theorem withoutStale_subset {before results : List CheckResult}
    {result : CheckResult}
    (member : result ∈ withoutStale text db agentId valid before results) :
    result ∈ results := by
  induction results generalizing before with
  | nil => exact member
  | cons first rest ih =>
      rw [withoutStale] at member
      split at member
      · exact List.mem_cons_of_mem _ (ih member)
      · rcases List.mem_cons.mp member with here | later
        · rw [here]
          exact List.mem_cons_self
        · exact List.mem_cons_of_mem _ (ih later)

/-- Only the valid ones among the earlier results count. -/
theorem stale_filter {before : List CheckResult} {result : CheckResult} :
    Stale text db agentId valid
      (before.filter fun earlier => earlier ∈ valid) result <->
      Stale text db agentId valid before result := by
  unfold Stale
  apply and_congr_right
  intro member
  cases text.parse result.checkId with
  | none => exact Iff.rfl
  | some id =>
      apply or_congr_right
      apply or_congr_left
      apply exists_congr
      intro earlier
      rw [List.mem_filter, decide_eq_true_eq, and_assoc, and_self_left]

end Batch

/-- Where stale results are idle, leaving them out leads to the same ledger. -/
theorem ledgerThrough_withoutStale {ingester : ResultIngester} {call : IngestCall}
    {db : Db} {report : ValidationReport}
    (idle : StaleIdle ingester call db report)
    (valid : report.valid = call.results.filter fun result =>
      result ∈ report.valid)
    {before rest : List CheckResult} (split : call.results = before ++ rest) :
    ((Complyx.withoutStale ingester.text db call.agentId report.valid before
      rest).filter fun result =>
        result ∈ report.valid).foldl
          (Ledger.handle (listThreats db) call.checkSeverities)
          (ledgerThrough call db
            (before.filter fun result => result ∈ report.valid)) =
      ledgerThrough call db
        (call.results.filter fun result => result ∈ report.valid) := by
  induction rest generalizing before with
  | nil =>
      rw [split, List.append_nil]
      rfl
  | cons result rest ih =>
      have further : call.results = before ++ [result] ++ rest := by
        rw [List.append_assoc]
        exact split
      have later := ih further
      rw [List.filter_append, List.filter_singleton] at later
      rw [Complyx.withoutStale]
      by_cases member : result ∈ report.valid
      · rw [decide_eq_true member, cond_true, ledgerThrough, List.foldl_concat,
          ← ledgerThrough] at later
        have kept : forall {others : List CheckResult},
            (result :: others).filter (fun result => result ∈ report.valid) =
              result :: others.filter fun result => result ∈ report.valid :=
          List.filter_cons_of_pos (decide_eq_true member)
        by_cases stale :
          Stale ingester.text db call.agentId report.valid before result
        · have parts :
              report.valid =
                before.filter (fun result => result ∈ report.valid) ++
              result :: rest.filter fun result => result ∈ report.valid := by
            rw [← kept, ← List.filter_append, ← split]
            exact valid
          have same :=
            Ledger.handle_eq_iff.mpr (idle _ _ _ parts (stale_filter.mpr stale))
          rw [same] at later
          rw [if_pos stale]
          exact later
        · rw [if_neg stale, kept, List.foldl_cons]
          exact later
      · have fresh :
            ¬ Stale ingester.text db call.agentId report.valid before result :=
              fun stale => member stale.1
        rw [decide_eq_false member, cond_false, List.append_nil] at later
        have dropped : forall {others : List CheckResult},
            (result :: others).filter (fun result => result ∈ report.valid) =
              others.filter fun result => result ∈ report.valid :=
          List.filter_cons_of_neg fun impossible =>
            member (of_decide_eq_true impossible)
        rw [if_neg fresh, dropped]
        exact later

/-- Stale results are harmless where the trigger finds nothing to do for them,
however the ingestion ends.  Where it succeeds they are harmless nowhere else. -/
theorem stale_harmless_iff (ingester : ResultIngester) (call : IngestCall)
    (envs : Nat -> Env) (db db' : Db) (report : ValidationReport)
    (validated : Program.run exec (ingester.validate call) envs db =
      (.ok report, db')) :
    (StaleIdle ingester call db report ->
      StaleHarmless ingester call envs db report) ∧
    ((Program.run exec (ingester.ingest call) envs db).1.isOk = true ->
      StaleHarmless ingester call envs db report ->
        StaleIdle ingester call db report) := by
  have sameReport : forall {report' : ValidationReport},
      Program.run exec (ingester.validate call) envs db = (.ok report', db) ->
        report' = report := by
    intro report' validated'
    exact Except.ok.inj (congrArg Prod.fst (validated'.symm.trans validated))
  constructor
  · intro idle
    refine ⟨?_, ?_⟩
    · intro before result rest parts stale
      rw [run_ingestThrough_idle (idle before result rest parts stale)]
    · intro summary last envs' summary' last' ingested ingested' agentId
      rcases run_ingest_ok ingested with ⟨report₁, validated₁, done⟩
      rcases run_ingest_ok ingested' with ⟨report', validated', done'⟩
      rw [sameReport validated₁] at done
      have left := ledger_of_parts done
      have left' := ledger_of_parts done'
      have valid : report.valid = call.results.filter fun result =>
          result ∈ report.valid :=
        validateBatch_part validated validated fun _ member => member
      have valid' :
          report'.valid = (ingester.withoutStale call db report).results.filter
            fun result =>
          result ∈ report.valid :=
        validateBatch_part validated validated' fun _ member =>
          withoutStale_subset member
      by_cases own : agentId = call.agentId
      · subst agentId
        calc
          last'.ledger call.agentId = ledgerThrough call db report'.valid :=
            left'.1
          _ = ledgerThrough call db
              (call.results.filter fun result => result ∈ report.valid) := by
            rw [valid']
            exact ledgerThrough_withoutStale idle valid (List.nil_append _).symm
          _ = last.ledger call.agentId := by rw [← valid, left.1]
      · exact (left'.2 agentId own).trans (left.2 agentId own).symm
  · intro succeeded harmless before result rest parts stale
    cases ingested : Program.run exec (ingester.ingest call) envs db with
    | mk answer last =>
    rw [ingested] at succeeded
    cases answer with
    | error failure => cases succeeded
    | ok summary =>
    rcases run_ingest_ok ingested with ⟨report₁, validated₁, done⟩
    rw [sameReport validated₁] at done
    cases done with
    | nothing none =>
        rw [none] at parts
        cases before <;> cases parts
    | stored rows inserted scores middle stored insertEnv scoreEnv riskSummary
        built accepted rescored storing
      through =>
        rw [parts, List.append_cons, ingestThrough_append] at through
        rcases Program.run_bind_eq_ok through with ⟨summary', reached, turned, _⟩
        apply idle_of_untouched turned
        rw [← harmless.untouched before result rest parts stale, turned]

/-! ## A pass that arrives after a later failure -/

/-- A pass of the critical check at midnight. -/
def latePass : IngestCall :=
  { failedCall with
    results := [midnightResult "1b4e28ba-2fa1-11d2-883f-0016d3cca427"] }

/-- The check was executed again a minute after midnight. -/
def laterResultDb (passed : Bool) : Db :=
  { threatenedDb with
    checkResults :=
      ⟨[⟨51, 7, assignedCheck, passed, "", none, none,
          newYear.nanos + 60 * nanosPerSec, newYear.nanos⟩],
            List.pairwise_singleton _ _⟩ }

/-- It failed then, and there is a risk. -/
def driftedDb : Db :=
  { laterResultDb false with
    risks :=
      ⟨[⟨61, 31, 7, some 9, some 8, some .critical, .«open», newYear.nanos,
          none, none⟩], List.pairwise_singleton _ _⟩ }

/-- It passed then, and there is none. -/
theorem stale_harmless_iff_idle :
    StaleHarmless crateIngester latePass (quietly 71) (laterResultDb true)
      ⟨latePass.results, []⟩ := by
  refine (stale_harmless_iff crateIngester latePass (quietly 71)
    (laterResultDb true) (laterResultDb true) _ ?_).1 ?_
  · exact Prod.ext (by decide +kernel) rfl
  · intro before result rest parts _
    have single :
        before = [] ∧
          result = midnightResult "1b4e28ba-2fa1-11d2-883f-0016d3cca427" := by
      cases before with
      | nil => exact ⟨rfl, (List.cons.inj parts).1.symm⟩
      | cons head tail =>
          have impossible := (List.cons.inj parts).2
          cases tail <;> cases impossible
    rw [single.1, single.2]
    decide +kernel

/-- The stale pass closes the risk of the failing check. -/
theorem stale_pass_closes_risk :
    Program.run exec (crateIngester.validate latePass) (quietly 71) driftedDb =
      (.ok ⟨latePass.results, []⟩, driftedDb) ∧
    ¬ StaleHarmless crateIngester latePass (quietly 71) driftedDb
      ⟨latePass.results, []⟩ := by
  refine ⟨Prod.ext (by decide +kernel) rfl, ?_⟩
  intro harmless
  have stale : Stale crateIngester.text driftedDb 7 latePass.results []
      (midnightResult "1b4e28ba-2fa1-11d2-883f-0016d3cca427") := by
    decide +kernel
  have same :=
    congrArg Relational.Table.rows (harmless.untouched [] _ [] rfl stale)
  revert same
  decide +kernel

end Complyx
