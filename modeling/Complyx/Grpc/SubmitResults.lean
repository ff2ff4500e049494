import Complyx.Ingest.Delivery
import Complyx.Distribution.Accepted
import Complyx.Grpc.AgentService

namespace Complyx

open Transition

/-!
# Submitting results

The service hands the results to the ingester and answers with two counts and a
flag.  The first count is that of the rows inserted, so a result that is stored
already is in neither count, and an agent that sends a batch again is answered
something else than the first time.
-/

structure SubmitResultsRequest where
  agentId : String
  results : List CheckResult

structure SubmitResultsResponse where
  accepted : Bool
  acceptedCount : UInt32
  rejectedCount : UInt32
  deriving DecidableEq

/-- The service with the ingester its other calls use. -/
structure ComplyxAgent extends AgentServiceImpl where
  ingester : ResultIngester

/-- The comparison of the identifier in the request with that of the
certificate.  An identifier that cannot be read is not compared. -/
def matchingAgentId (text : UuidText) (agentId : Uuid)
    (request : SubmitResultsRequest) : Except (Fault Status) Unit :=
  match text.parse request.agentId with
  | some reqAgentId =>
      if reqAgentId ≠ agentId then
        .error
          (.error
            (.permissionDenied
              "agent_id no coincide con el certificado de cliente"))
      else .ok ()
  | none => .ok ()

/-- The answer to a submission.  The counts are truncated to 32 bits. -/
def submitAnswer (summary : IngestSummary) : SubmitResultsResponse where
  accepted := decide (summary.accepted > 0) || decide (summary.rejected = 0)
  acceptedCount := UInt32.ofNat summary.accepted
  rejectedCount := UInt32.ofNat summary.rejected

/-- The ingestion of a request, under a map of severities that is empty. -/
def SubmitResultsRequest.call (request : SubmitResultsRequest) (agentId : Uuid)
    (now : DateTime) : IngestCall where
  agentId := agentId
  results := request.results
  checkSeverities := fun _ => none
  now := now

/-- `submit_results`. -/
def ComplyxAgent.submitResults (service : ComplyxAgent)
    (extension : Option AgentId) (request : SubmitResultsRequest)
    (now : DateTime) :
    Code (Fault Status) SubmitResultsResponse := do
  let agentId <- Program.lift ((extractAgentId extension).mapError Fault.error)
  let _ <- Program.lift (matchingAgentId service.ingester.text agentId request)
  let summary <- (service.ingester.ingest (request.call agentId now)).mapError
    (Fault.map fun _ => .internal "error procesando resultados")
  return submitAnswer summary

/-- A submission that is answered was ingested. -/
theorem run_submitResults_ok {service : ComplyxAgent} {agentId : Uuid}
    {request : SubmitResultsRequest} {now : DateTime} {envs : Nat -> Env}
    {db db' : Db} {response : SubmitResultsResponse}
    (answered :
      Program.run exec (service.submitResults (some ⟨agentId⟩) request now) envs
        db = (.ok response, db')) :
    Exists fun summary => response = submitAnswer summary ∧
      Program.run exec (service.ingester.ingest (request.call agentId now)) envs
        db = (.ok summary, db') := by
  rw [ComplyxAgent.submitResults, extractAgentId, Except.mapError,
    Program.lift_ok, Program.done_bind, Program.run_lift_bind] at answered
  split at answered
  swap
  · cases congrArg Prod.fst answered
  rcases Program.run_bind_eq_ok answered with ⟨summary, left, ingested, ended⟩
  cases ended
  rw [Program.run_mapError] at ingested
  refine ⟨summary, rfl, ?_⟩
  cases ran :
      Program.run exec (service.ingester.ingest (request.call agentId now))
        envs db with
  | mk answer left =>
      rw [ran] at ingested
      cases answer with
      | ok summary' =>
          cases ingested
          rfl
      | error failure => cases congrArg Prod.fst ingested

/-! ## What is counted -/

/-- Where the summary of an ingestion comes from. -/
inductive Counted (text : UuidText) (agentId : Uuid) (report : ValidationReport)
    (db : Db) (accepted : Nat) : Prop where
  | nothing (none : report.valid = []) (zero : accepted = 0)
  | inserted (rows : List InsertCheckResult) (env : Env) (left : Db)
      (built : report.valid.mapM (toInsert text agentId) = .ok rows)
      (stored : insertCheckResults env rows db = .ok (accepted, left))

theorem run_ingest_counted {ingester : ResultIngester} {call : IngestCall}
    {envs : Nat -> Env} {db left db' : Db} {report : ValidationReport}
    {summary : IngestSummary}
    (validated : Program.run exec (ingester.validate call) envs db =
      (.ok report, left))
    (ingested : Program.run exec (ingester.ingest call) envs db =
      (.ok summary, db')) :
    summary.rejected = report.rejected.length ∧
      Counted ingester.text call.agentId report db summary.accepted := by
  have sameDb : left = db := (validateBatch_ok validated).1
  subst left
  unfold ResultIngester.ingest at ingested
  split at ingested
  · next empty =>
    rw [ResultIngester.validate, validateBatch, if_pos empty] at validated
    cases validated
    cases ingested
    exact ⟨rfl, .nothing rfl rfl⟩
  rw [Program.run_bind_ok validated] at ingested
  simp only at ingested
  split at ingested
  · next none =>
    cases ingested
    exact ⟨rfl, .nothing (List.isEmpty_iff.mp none) rfl⟩
  rw [Program.run_lift_bind] at ingested
  split at ingested
  swap
  · cases congrArg Prod.fst ingested
  next rows built =>
  rw [Program.run_attempt_bind] at ingested
  split at ingested
  swap
  · cases congrArg Prod.fst ingested
  next inserted middle accepted =>
  rcases Program.run_bind_eq_ok ingested with ⟨scoresUpdated, stored, _, rest⟩
  rcases Program.run_bind_eq_ok rest with ⟨riskSummary, last, _, ended⟩
  cases ended
  exact ⟨rfl, .inserted rows _ middle built (exec_ok accepted).2⟩

/-- A result that is stored already adds no row. -/
theorem insertCheckResult_again {env : Env} {index added : Nat}
    {result : InsertCheckResult} {db db' : Db}
    (accepted : insertCheckResult env index result db = .ok (added, db'))
    (present : result.resultKey env.clock ∈ db.resultKeys) :
    added = 0 ∧ db' = db := by
  cases (insertCheckResult_ok accepted).2 with
  | kept present => exact ⟨rfl, rfl⟩
  | added checkResults inserted absent agent check => exact absurd present absent

/-- Rows that are stored already are not counted. -/
theorem insertCheckResultsFrom_again {env : Env} {index added : Nat}
    {results : List InsertCheckResult} {db db' : Db}
    (accepted : insertCheckResultsFrom env index results db = .ok (added, db'))
    (present : forall key,
      key ∈ results.map (InsertCheckResult.resultKey env.clock) ->
        key ∈ db.resultKeys) :
    added = 0 := by
  induction results generalizing index added db with
  | nil =>
      cases accepted
      rfl
  | cons result rest ih =>
      rcases insertCheckResultsFrom_cons accepted with
        ⟨one, middle, more, inserted, insertedRest, counted⟩
      rw [List.map_cons] at present
      rcases insertCheckResult_again inserted (present _ List.mem_cons_self) with
        ⟨none, same⟩
      rw [counted, none, Nat.zero_add]
      rw [same] at insertedRest
      exact ih insertedRest fun key member =>
        present key (List.mem_cons_of_mem _ member)

/-! ## Sending a batch again -/

/-- The two answers to a batch are the same as far as the agent is concerned,
they account for every result, and a batch with valid results, which are stored
once it is answered, is accepted. -/
structure AnsweredAlike (batch : List CheckResult) (report : ValidationReport)
    (first second : SubmitResultsResponse) : Prop where
  flag : second.accepted = first.accepted
  firstCounts : first.acceptedCount.toNat + first.rejectedCount.toNat =
    batch.length
  secondCounts : second.acceptedCount.toNat + second.rejectedCount.toNat =
    batch.length
  stored : report.valid ≠ [] -> first.accepted ≠ false ∧ second.accepted ≠ false

/-- No result of the batch passes the validation. -/
def PassesNone (ingester : ResultIngester) (call : IngestCall) (db : Db) : Prop :=
  forall result, result ∈ call.results -> forall id,
    ¬ Passes ingester.text call.now ingester.timestampBounds db
      call.agentId result id

theorem passesNone_iff {ingester : ResultIngester} {call : IngestCall}
    {envs : Nat -> Env} {db db' : Db} {report : ValidationReport}
    (validated : Program.run exec (ingester.validate call) envs db =
      (.ok report, db')) :
    report.valid = [] <-> PassesNone ingester call db := by
  have passing := (validateBatch_ok validated).2
  rw [List.eq_nil_iff_forall_not_mem]
  constructor
  · intro none result member id passes
    exact none result ((passing result).mpr ⟨member, id, passes⟩)
  · intro none result valid
    rcases (passing result).mp valid with ⟨member, id, passes⟩
    exact none result member id passes

/-- A batch whose results were stored is ingested again without a new row. -/
theorem run_ingest_again {ingester : ResultIngester} {call again : IngestCall}
    {envs envs' : Nat -> Env} {db middle db' left left' right : Db}
    {report : ValidationReport} {summary summary' : IngestSummary}
    (sameAgent : again.agentId = call.agentId)
    (validated : Program.run exec (ingester.validate call) envs db =
      (.ok report, left))
    (ingested : Program.run exec (ingester.ingest call) envs db =
      (.ok summary, middle))
    (kept : forall key, key ∈ middle.resultKeys -> key ∈ db'.resultKeys)
    (validated' : Program.run exec (ingester.validate again) envs' db' =
      (.ok report, left'))
    (ingested' : Program.run exec (ingester.ingest again) envs' db' =
      (.ok summary', right)) :
    summary'.accepted = 0 := by
  cases (run_ingest_counted validated' ingested').2 with
  | nothing none zero => exact zero
  | inserted rows env stored built inserted =>
      have passing := (validateBatch_ok validated').2
      apply insertCheckResultsFrom_again inserted
      intro key member
      rcases (mem_insertedKeys built passing env.clock key).mp member with
        ⟨result, id, inBatch, passes, rfl⟩
      apply kept
      have valid := (passing result).mpr ⟨inBatch, id, passes⟩
      rcases ((validateBatch_ok validated).2 result).mp valid with
        ⟨before, id', passes'⟩
      have sameId := Option.some.inj (passes'.parsed.symm.trans passes.parsed)
      subst sameId
      rw [sameAgent]
      exact (ingest_ok validated ingested _).mpr
        (Or.inr ⟨result, id', before, passes', rfl⟩)

/-- Two answers to a batch, the second from a database that still has the results
of the first, are alike exactly if no result of the batch passes and their number
fits into 32 bits. -/
theorem answered_alike_iff (service : ComplyxAgent) (agentId : Uuid)
    (request : SubmitResultsRequest) (now again : DateTime)
    (envs envs' : Nat -> Env) (db middle db' left left' right : Db)
    (report : ValidationReport) (first second : SubmitResultsResponse)
    (validated :
      Program.run exec (service.ingester.validate (request.call agentId now)) envs
        db = (.ok report, left))
    (answered :
      Program.run exec (service.submitResults (some ⟨agentId⟩) request now) envs
        db = (.ok first, middle))
    (kept : forall key, key ∈ middle.resultKeys -> key ∈ db'.resultKeys)
    (validated' :
      Program.run exec
        (service.ingester.validate (request.call agentId again)) envs' db' =
      (.ok report, left'))
    (answered' :
      Program.run exec
        (service.submitResults (some ⟨agentId⟩) request again) envs' db' =
      (.ok second, right)) :
    AnsweredAlike request.results report first second <->
      PassesNone service.ingester (request.call agentId now) db ∧
        request.results.length < 2 ^ 32 := by
  rcases run_submitResults_ok answered with ⟨summary, rfl, ingested⟩
  rcases run_submitResults_ok answered' with ⟨summary', rfl, ingested'⟩
  have sameAgent :
      (request.call agentId again).agentId = (request.call agentId now).agentId :=
        rfl
  have none_added : summary'.accepted = 0 :=
    run_ingest_again sameAgent validated ingested kept validated' ingested'
  have rejected := (run_ingest_counted validated ingested).1
  have rejected' := (run_ingest_counted validated' ingested').1
  have accounts :
      report.valid.length + report.rejected.length = request.results.length :=
    validateBatch_length validated
  have short : report.rejected.length % 2 ^ 32 ≤ report.rejected.length :=
    Nat.mod_le _ _
  rw [← passesNone_iff validated]
  constructor
  · intro alike
    have counts := alike.secondCounts
    simp only [submitAnswer, none_added, rejected', UInt32.toNat_ofNat',
      Nat.zero_mod, Nat.zero_add] at counts
    refine ⟨List.eq_nil_of_length_eq_zero ?_, ?_⟩
    · omega
    · rw [← counts]
      exact Nat.mod_lt _ (by decide)
  · rintro ⟨none, fits⟩
    have added : summary.accepted = 0 := by
      cases (run_ingest_counted validated ingested).2 with
      | nothing none zero => exact zero
      | inserted rows env stored built inserted =>
          rw [none] at built
          cases built
          exact (congrArg Prod.fst (Except.ok.inj inserted)).symm
    have sameAnswer : submitAnswer summary' = submitAnswer summary := by
      simp only [submitAnswer, none_added, added, rejected, rejected']
    have counts :
        (submitAnswer summary).acceptedCount.toNat +
          (submitAnswer summary).rejectedCount.toNat =
        request.results.length := by
      rw [none, List.length_nil, Nat.zero_add] at accounts
      simp only [submitAnswer, added, rejected, UInt32.toNat_ofNat', Nat.zero_mod,
        Nat.zero_add, accounts]
      exact Nat.mod_eq_of_lt fits
    rw [sameAnswer]
    exact ⟨rfl, counts, counts, fun some_valid => absurd none some_valid⟩

def nightService : ComplyxAgent where
  distributor := officeDistributor
  ingester := crateIngester

/-- Agent 7 submits the results. -/
def nightRequest (results : List CheckResult) : SubmitResultsRequest where
  agentId := "00000000-0000-0000-0000-000000000007"
  results := results

def nightSubmission (results : List CheckResult) (first : Uuid) (db : Db) :
    Except (Fault Status) SubmitResultsResponse × Db :=
  Program.run exec
    (nightService.submitResults (some ⟨7⟩) (nightRequest results) newYear)
    (numbering first) db

/-- A batch with nothing but an unassigned check is refused both times. -/
theorem unassigned_batch_answered_alike :
    AnsweredAlike [midnightResult "9f2c1a7e-3b4d-4c5e-8f60-718293a4b5c6"]
      ⟨[],
        [unassignedResult
          (midnightResult "9f2c1a7e-3b4d-4c5e-8f60-718293a4b5c6")]⟩ ⟨false, 0, 1⟩
            ⟨false, 0, 1⟩ := by
  have validated : Program.run exec (crateIngester.validate
      ((nightRequest [midnightResult "9f2c1a7e-3b4d-4c5e-8f60-718293a4b5c6"]).call
        7 newYear)) (numbering 51)
        policedDb =
        (.ok
            ⟨[],
              [unassignedResult
                (midnightResult "9f2c1a7e-3b4d-4c5e-8f60-718293a4b5c6")]⟩,
                policedDb) :=
    Prod.ext (by decide +kernel) rfl
  refine (answered_alike_iff nightService 7
    (nightRequest [midnightResult "9f2c1a7e-3b4d-4c5e-8f60-718293a4b5c6"])
    newYear newYear (numbering 51) (numbering 51) policedDb policedDb policedDb
      policedDb policedDb policedDb _ _ _
    validated ?_ ?_ validated ?_).mpr ?_
  · exact Prod.ext (by decide +kernel) rfl
  · exact fun key member => member
  · exact Prod.ext (by decide +kernel) rfl
  · exact ⟨(passesNone_iff validated).mp rfl, by decide⟩

def honestReport : ValidationReport where
  valid := [midnightResult "1B4E28BA-2FA1-11D2-883F-0016D3CCA427"]
  rejected :=
    [unassignedResult (midnightResult "9f2c1a7e-3b4d-4c5e-8f60-718293a4b5c6")]

def nightValidation (results : List CheckResult) (first : Uuid) (db : Db) :
    Except (Fault IngesterError) ValidationReport :=
  (Program.run exec
    (crateIngester.validate ((nightRequest results).call 7 newYear))
    (numbering first) db).1

/-- A batch with one valid and one unassigned check is accepted, and refused when
it is sent again, though it validates the same way. -/
theorem honest_batch_refused_again :
    nightValidation honestBatch 51 policedDb = .ok honestReport ∧
    (nightSubmission honestBatch 51 policedDb).1 = .ok ⟨true, 1, 1⟩ ∧
    nightValidation honestBatch 61 (nightSubmission honestBatch 51 policedDb).2 =
      .ok honestReport ∧
    (nightSubmission honestBatch 61
      (nightSubmission honestBatch 51 policedDb).2).1 = .ok ⟨false, 0, 1⟩ ∧
    ¬ AnsweredAlike honestBatch honestReport ⟨true, 1, 1⟩ ⟨false, 0, 1⟩ := by
  refine ⟨by decide +kernel, by decide +kernel, by decide +kernel, by
    decide +kernel, ?_⟩
  intro alike
  cases alike.flag

end Complyx
