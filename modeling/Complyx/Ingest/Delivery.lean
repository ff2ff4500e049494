import Complyx.Ingest.ScoreRows

namespace Complyx

open Transition Relational

/-!
# Do order and repetition of deliveries matter?

An ingestion merges the valid results of its batch into those that are stored,
in favour of the stored ones, and recomputes the scores from the result of the
merge.  Merging is associative and adds nothing the second time, and a
recomputation depends on the results stored and on the policies alone.  So the
stored content depends on which results were delivered and not on how, and a
delivery that was cut short is made good by a complete one.
-/

/-! ## Scores are a function of the results by key -/

/-- The tables scores are computed from besides the results. -/
structure SamePolicies (db db' : Db) : Prop where
  elements : db'.policyElements = db.policyElements
  checks : db'.policyChecks = db.policyChecks

theorem SamePolicies.refl (db : Db) : SamePolicies db db := ⟨rfl, rfl⟩

theorem SamePolicies.trans {first second third : Db}
    (earlier : SamePolicies first second) (later : SamePolicies second third) :
    SamePolicies first third :=
  ⟨later.elements.trans earlier.elements, later.checks.trans earlier.checks⟩

theorem Db.resultAt_some {db : Db} {key : ResultKey} {stored : ResultContent} :
    db.resultAt key = some stored <->
      Exists fun row => row ∈ db.checkResults.rows ∧ row.resultKey = key ∧
        row.content = stored := by
  apply keyed_of_copies
  intro first firstMember second secondMember sameKey
  rw [Table.eq_of_key CheckResultRow.resultKey_separates db.checkResults
    firstMember secondMember sameKey]

/-- The latest result of a check, read off the keys. -/
theorem passesLatest_iff_resultAt {db : Db} {agentId checkId : Uuid} :
    PassesLatest db agentId checkId <-> Exists fun time => Exists fun stored =>
      db.resultAt (agentId, checkId, time) = some stored ∧ stored.passed = true ∧
      forall time', (db.resultAt (agentId, checkId, time')).isSome = true ->
        time' ≤ time := by
  constructor
  · rintro ⟨row, latest, pass⟩
    refine ⟨row.executedAt, row.content,
      Db.resultAt_some.mpr ⟨row, latest.member, ?_, rfl⟩, pass, ?_⟩
    · rw [CheckResultRow.resultKey, latest.agent, latest.check]
    · intro time' present
      rcases List.mem_map.mp (Db.resultAt_isSome.mp present) with
        ⟨other, member, itsKey⟩
      rw [CheckResultRow.resultKey, Prod.mk.injEq, Prod.mk.injEq] at itsKey
      rw [← itsKey.2.2]
      exact latest.latest other member itsKey.1 itsKey.2.1
  · rintro ⟨time, stored, found, pass, greatest⟩
    rcases Db.resultAt_some.mp found with ⟨row, member, itsKey, rfl⟩
    rw [CheckResultRow.resultKey, Prod.mk.injEq, Prod.mk.injEq] at itsKey
    refine ⟨row, ⟨member, itsKey.1, itsKey.2.1, ?_⟩, pass⟩
    intro other otherMember sameAgent sameCheck
    rw [itsKey.2.2]
    apply greatest
    rw [Db.resultAt_isSome, Db.resultKeys, List.mem_map]
    exact ⟨other, otherMember, by
      rw [CheckResultRow.resultKey, sameAgent, sameCheck]⟩

/-- Databases with the same policies and the same results by key have the same
scores. -/
theorem scoreOf_congr {db db' : Db} (policies : SamePolicies db db')
    (results : db'.resultAt = db.resultAt) (agentId elementId : Uuid) :
    scoreOf agentId elementId db' = scoreOf agentId elementId db := by
  have passing :
      forall checkId,
        (latestResult agentId checkId db').any CheckResultRow.passed =
      (latestResult agentId checkId db).any CheckResultRow.passed := by
    intro checkId
    rw [Bool.eq_iff_iff, passesLatest_iff, passesLatest_iff,
      passesLatest_iff_resultAt, passesLatest_iff_resultAt, results]
  have scores :
      forall element, elementScore 0 agentId element db' =
        elementScore 0 agentId element db := by
    intro element
    have sameChecks : db'.checksOf element.id = db.checksOf element.id := by
      rw [Db.checksOf, Db.checksOf, policies.checks]
    unfold elementScore
    rw [sameChecks]
    simp only [passing]
  rw [scoreOf, scoreOf, policies.elements]
  congr 1
  funext element
  rw [scores]

/-- The contents of scores recomputed for the agent over older ones. -/
def rescoredOver (agentId : Uuid) (db : Db)
    (old : ScoreKey -> Option ScoreContent) (key : ScoreKey) :
    Option ScoreContent :=
  match if key.1 = agentId then scoreOf agentId key.2 db else none with
  | some score => some (score.over (old key))
  | none => old key

theorem rescoredOver_congr {agentId : Uuid} {db db' : Db}
    (policies : SamePolicies db db') (results : db'.resultAt = db.resultAt)
    (old : ScoreKey -> Option ScoreContent) :
    rescoredOver agentId db' old = rescoredOver agentId db old := by
  funext key
  rw [rescoredOver, rescoredOver, scoreOf_congr policies results]

/-- The policy of a score is that of its element. -/
theorem scoreOf_policy {agentId elementId : Uuid} {db db' : Db}
    (policies : SamePolicies db db') {score score' : ScoreContent}
    (scored : scoreOf agentId elementId db = some score)
    (scored' : scoreOf agentId elementId db' = some score') :
    score'.policyId = score.policyId := by
  have policy : forall {db : Db} {score : ScoreContent},
    scoreOf agentId elementId db = some score ->
      (db.policyElements.find PolicyElementRow.id elementId).map
        PolicyElementRow.policyId = some score.policyId := by
    intro db score scored
    rcases Option.bind_eq_some_iff.mp scored with ⟨element, lookup, computed⟩
    rcases Option.map_eq_some_iff.mp computed with ⟨row, scoredRow, rfl⟩
    rw [lookup, (elementScore_eq_some scoredRow).2]
    rfl
  have before := policy scored
  have later := policy scored'
  rw [policies.elements, before] at later
  exact (Option.some.inj later).symm

/-- Of two recomputations under the same policies only the later one counts. -/
theorem rescoredOver_again {agentId : Uuid} {db db' : Db}
    (policies : SamePolicies db db') (old : ScoreKey -> Option ScoreContent) :
    rescoredOver agentId db' (rescoredOver agentId db old) =
      rescoredOver agentId db' old := by
  funext key
  rw [rescoredOver, rescoredOver, rescoredOver]
  by_cases own : key.1 = agentId
  · rw [if_pos own, if_pos own]
    have checked :
        (scoreOf agentId key.2 db').isSome =
          (scoreOf agentId key.2 db).isSome := by
      rw [Bool.eq_iff_iff, scoreOf_isSome, scoreOf_isSome, Db.Checked, Db.Checked,
        Db.checksOf, Db.checksOf, policies.elements, policies.checks]
    cases scored' : scoreOf agentId key.2 db' with
    | none =>
        cases scored : scoreOf agentId key.2 db with
        | none => rfl
        | some score =>
            rw [scored, scored'] at checked
            cases checked
    | some score' =>
        cases scored : scoreOf agentId key.2 db with
        | none => rfl
        | some score =>
            have samePolicy := scoreOf_policy policies scored scored'
            cases old key with
            | none =>
                simp only [ScoreContent.over, Option.map_some, Option.map_none,
                  Option.getD_some, Option.getD_none, samePolicy]
            | some stored => rfl
  · rw [if_neg own, if_neg own]

/-! ## How far an ingestion comes -/

/-- The key of a result whose identifier can be read. -/
def resultKeyOf (text : UuidText) (agentId : Uuid)
    (result : CheckResult) : Option ResultKey :=
  (text.parse result.checkId).map fun id => result.key agentId id

def CheckResult.content (result : CheckResult) : ResultContent :=
  ⟨result.passed, result.detail, some result.actualValue,
    some result.expectedValue⟩

/-- The results of a batch under their keys, the first of each. -/
def batchAt (text : UuidText) (agentId : Uuid) (results : List CheckResult) :
    ResultKey -> Option ResultContent :=
  fun key =>
    keyed (resultKeyOf text agentId) CheckResult.content results (some key)

theorem batchAt_append (text : UuidText) (agentId : Uuid)
    (first second : List CheckResult) :
    batchAt text agentId (first ++ second) = keepOld (batchAt text agentId first)
      (batchAt text agentId second) := by
  funext key
  rw [batchAt, keyed_append]
  rfl

/-- The rows built from dated results stand under the keys of the results. -/
theorem keyed_rows {text : UuidText} {agentId : Uuid} {valid : List CheckResult}
    {rows : List InsertCheckResult}
    (built : valid.mapM (toInsert text agentId) = .ok rows)
    (dated : forall result, result ∈ valid ->
      (DateTime.fromTimestamp result.executedAt).isSome = true)
    (clock : Timestamp) :
    keyed (InsertCheckResult.resultKey clock) InsertCheckResult.content rows =
      batchAt text agentId valid := by
  induction valid generalizing rows with
  | nil =>
      rw [← Except.ok.inj built]
      rfl
  | cons result rest ih =>
      simp only [List.mapM_cons, bind, Except.bind] at built
      split at built
      · cases built
      next row first =>
      split at built
      · cases built
      next others converted =>
      have split : batchAt text agentId (result :: rest) =
          keepOld (batchAt text agentId [result]) (batchAt text agentId rest) :=
        batchAt_append text agentId [result] rest
      rw [← Except.ok.inj built, ← List.singleton_append, keyed_append, split,
        ih converted fun other member =>
          dated other (List.mem_cons_of_mem _ member)]
      congr 1
      rcases Option.isSome_iff_exists.mp (dated result List.mem_cons_self) with
        ⟨time, read⟩
      unfold toInsert at first
      split at first
      · cases first
      next id parsed =>
      have sameKey :
          resultKeyOf text agentId result = some (row.resultKey clock) := by
        rw [resultKeyOf, parsed, ← Except.ok.inj first]
        simp only [InsertCheckResult.resultKey, InsertCheckResult.executedAt,
          read, CheckResult.key, DateTime.naiveUtc,
            DateTime.fromTimestamp_nanos read, Option.map_some]
      have sameContent : row.content = result.content := by
        rw [← Except.ok.inj first]
        rfl
      funext key
      rw [batchAt, keyed_singleton, keyed_singleton, sameKey, sameContent]
      simp only [Option.some.injEq]

/-- What a trigger run leaves alone. -/
structure ScoresKept (db db' : Db) : Prop where
  policies : SamePolicies db db'
  results : db'.resultAt = db.resultAt
  scores : db'.scoreAt = db.scoreAt

theorem run_evaluate_kept {agentId : Uuid} {results : List CheckResult}
    {severities : CheckSeverities} {envs : Nat -> Env} {db db' : Db}
    {answer : Except (Fault IngesterError) RiskTriggerSummary}
    (evaluated : Program.run exec (evaluate agentId results severities) envs db =
      (answer, db')) :
    ScoresKept db db' := by
  have kept : forall {β : Type} (view : Db -> β),
      (forall {stmt : Stmt} {db db' : Db}, TriggerStmt stmt ->
        Frame stmt db db' -> view db' = view db) ->
      view db' = view db := by
    intro β view framed
    have same :
        view (Program.run exec (evaluate agentId results severities) envs db).2 =
          view db := by
      apply Program.run_kept view _
        (evaluateFrom_issues agentId severities {} results)
      intro env stmt db issued
      exact framed issued (perform_frame env stmt db)
    rwa [evaluated] at same
  have readonly : forall {stmt : Stmt}, TriggerStmt stmt ->
      stmt.writesComplianceScores = false := by
    intro stmt issued
    cases issued <;> rfl
  refine ⟨⟨kept Db.policyElements fun _ frame => frame.policyElements,
    kept Db.policyChecks fun _ frame => frame.policyChecks⟩, ?_, ?_⟩
  · apply kept Db.resultAt
    intro stmt db db' issued frame
    rw [Db.resultAt, Db.resultAt, frame.checkResults issued.readonly]
  · apply kept Db.scoreAt
    intro stmt db db' issued frame
    funext key
    rw [Db.scoreAt, Db.scoreAt, frame.complianceScores (readonly issued)]

/-- How far an ingestion of valid results came, and whether it returned. -/
inductive Stage (text : UuidText) (agentId : Uuid) (valid : List CheckResult)
    (db db' : Db) : Bool -> Prop where
  | nothing (none : valid = []) (results : db'.resultAt = db.resultAt)
      (scores : db'.scoreAt = db.scoreAt) :
      Stage text agentId valid db db' true
  | untouched (results : db'.resultAt = db.resultAt)
      (scores : db'.scoreAt = db.scoreAt) :
      Stage text agentId valid db db' false
  | inserted (some : valid ≠ [])
      (results : db'.resultAt = keepOld db.resultAt (batchAt text agentId valid))
      (scores : db'.scoreAt = db.scoreAt) : Stage text agentId valid db db' false
  | rescored (returned : Bool) (some : valid ≠ [])
      (results : db'.resultAt = keepOld db.resultAt (batchAt text agentId valid))
      (scores : db'.scoreAt = rescoredOver agentId db' db.scoreAt) :
      Stage text agentId valid db db' returned

theorem run_ingest_stage {ingester : ResultIngester} {call : IngestCall}
    {envs : Nat -> Env} {db db' : Db} {report : ValidationReport}
    {answer : Except (Fault IngesterError) IngestSummary}
    (validated : Program.run exec (ingester.validate call) envs db =
      (.ok report, db))
    (ingested : Program.run exec (ingester.ingest call) envs db = (answer, db')) :
    SamePolicies db db' ∧
      Stage ingester.text call.agentId report.valid db db' answer.isOk := by
  unfold ResultIngester.ingest at ingested
  split at ingested
  · next empty =>
    rw [ResultIngester.validate, validateBatch, if_pos empty] at validated
    have none : report.valid = [] := by
      rw [← Except.ok.inj (congrArg Prod.fst validated)]
    cases ingested
    exact ⟨SamePolicies.refl db, Stage.nothing none rfl rfl⟩
  rw [Program.run_bind_ok validated] at ingested
  simp only at ingested
  split at ingested
  · next none =>
    cases ingested
    exact ⟨SamePolicies.refl db, Stage.nothing (List.isEmpty_iff.mp none) rfl rfl⟩
  next some_valid =>
  have some : report.valid ≠ [] :=
    fun none => some_valid (List.isEmpty_iff.mpr none)
  rw [Program.run_lift_bind] at ingested
  split at ingested
  swap
  · cases ingested
    exact ⟨SamePolicies.refl db, Stage.untouched rfl rfl⟩
  next rows built =>
  rw [Program.run_attempt_bind] at ingested
  split at ingested
  swap
  · cases ingested
    exact ⟨SamePolicies.refl db, Stage.untouched rfl rfl⟩
  next inserted middle accepted =>
  have added := insertCheckResultsFrom_resultAt (exec_ok accepted).2
  have insertFrame := (insertCheckResultsFrom_added (exec_ok accepted).2).frame
  have dated : forall result, result ∈ report.valid ->
      (DateTime.fromTimestamp result.executedAt).isSome = true := by
    intro result member
    rcases (((validateBatch_ok validated).2 result).mp member).2 with ⟨id, passes⟩
    rcases passes.inWindow with ⟨time, read, _⟩
    rw [read]
    rfl
  rw [keyed_rows built dated] at added
  have middlePolicies : SamePolicies db middle := by
    rw [insertFrame]
    exact ⟨rfl, rfl⟩
  have middleScores : middle.scoreAt = db.scoreAt := by
    rw [insertFrame]
    rfl
  rw [recalculate, bind_assoc, Program.run_attempt_bind] at ingested
  split at ingested
  swap
  · cases ingested
    exact ⟨middlePolicies, Stage.inserted some added middleScores⟩
  next scores stored upserted =>
  have rescoredAt := upsertComplianceScores_scoreAt (exec_ok upserted).2
  have upsertFrame := upsertComplianceScores_frame (exec_ok upserted).2
  have storedPolicies : SamePolicies middle stored := by
    rw [upsertFrame]
    exact ⟨rfl, rfl⟩
  have storedResults : stored.resultAt = middle.resultAt := by
    rw [upsertFrame]
    rfl
  rw [pure_bind, Program.run_bind] at ingested
  generalize
    (fun n =>
      envs (n + 1 + 1 + Program.calls exec (ingester.validate call) envs db)) =
        envs' at ingested
  cases evaluated :
      Program.run exec (evaluate call.agentId report.valid call.checkSeverities)
        envs' stored with
  | mk answer' last =>
  have kept := run_evaluate_kept evaluated
  have sameDb : last = db' := by
    rw [evaluated] at ingested
    cases answer' <;> exact congrArg Prod.snd ingested
  subst sameDb
  have policies := (middlePolicies.trans storedPolicies).trans kept.policies
  refine ⟨policies, Stage.rescored _ some ?_ ?_⟩
  · rw [kept.results, storedResults, added]
  · rw [kept.scores, rescoredAt, ← middleScores,
      rescoredOver_congr (storedPolicies.trans kept.policies)
      (kept.results.trans storedResults)]
    rfl

/-! ## Deliveries in any order -/

/-- A call and the environments of its statements. -/
abbrev Delivery := IngestCall × (Nat -> Env)

def deliver (ingester : ResultIngester) (db : Db) (delivery : Delivery) : Db :=
  (Program.run exec (ingester.ingest delivery.1) delivery.2 db).2

/-- The agent's batch is valid as a whole and its ingestion returns. -/
def Delivers (ingester : ResultIngester) (agentId : Uuid) (db : Db)
    (delivery : Delivery) : Prop :=
  delivery.1.agentId = agentId ∧
  (Program.run exec (ingester.validate delivery.1) delivery.2 db).1 =
    .ok ⟨delivery.1.results, []⟩ ∧
  (Program.run exec (ingester.ingest delivery.1) delivery.2 db).1.isOk = true

instance (ingester : ResultIngester) (agentId : Uuid) (db : Db)
    (delivery : Delivery) :
    Decidable (Delivers ingester agentId db delivery) :=
  inferInstanceAs (Decidable (_ ∧ _ ∧ _))

/-- The results of all batches. -/
def delivered (deliveries : List Delivery) : List CheckResult :=
  deliveries.flatMap fun delivery => delivery.1.results

/-- What deliveries leave: the results merged in, and the scores recomputed if
there was a result at all. -/
structure Merged (text : UuidText) (agentId : Uuid) (batch : List CheckResult)
    (db db' : Db) : Prop where
  policies : SamePolicies db db'
  results : db'.resultAt = keepOld db.resultAt (batchAt text agentId batch)
  scores : db'.scoreAt = if batch.isEmpty then db.scoreAt
    else rescoredOver agentId db' db.scoreAt

theorem Merged.refl (text : UuidText) (agentId : Uuid) (db : Db) :
    Merged text agentId [] db db :=
  ⟨SamePolicies.refl db, (keepOld_none _).symm, rfl⟩

theorem Merged.trans {text : UuidText} {agentId : Uuid}
    {earlier later : List CheckResult} {first second third : Db}
    (before : Merged text agentId earlier first second)
    (after : Merged text agentId later second third) :
    Merged text agentId (earlier ++ later) first third := by
  refine ⟨before.policies.trans after.policies, ?_, ?_⟩
  · rw [after.results, before.results, keepOld_assoc, batchAt_append]
  · rw [after.scores, before.scores]
    cases later with
    | nil =>
        have sameResults : third.resultAt = second.resultAt :=
          after.results.trans (keepOld_none _)
        rw [List.append_nil, List.isEmpty_nil, if_pos rfl,
          rescoredOver_congr after.policies sameResults]
    | cons result rest =>
        rw [List.isEmpty_cons, if_neg Bool.false_ne_true]
        cases earlier with
        | nil => rfl
        | cons result' rest' =>
            rw [List.isEmpty_cons, if_neg Bool.false_ne_true,
              rescoredOver_again after.policies]
            rfl

theorem merged_delivery {ingester : ResultIngester} {agentId : Uuid} {db : Db}
    {delivery : Delivery} (delivers : Delivers ingester agentId db delivery) :
    Merged ingester.text agentId delivery.1.results db
      (deliver ingester db delivery) := by
  rcases delivers with ⟨rfl, valid, returned⟩
  have validated : Program.run exec (ingester.validate delivery.1) delivery.2 db =
    (.ok ⟨delivery.1.results, []⟩, db) := by
    cases ran : Program.run exec (ingester.validate delivery.1) delivery.2 db with
    | mk answer left =>
        rw [ran] at valid
        simp only at valid
        subst valid
        rw [(validateBatch_ok ran).1]
  unfold deliver
  cases ingested :
      Program.run exec (ingester.ingest delivery.1) delivery.2 db with
  | mk answer left =>
  rw [ingested] at returned
  have reached : SamePolicies db left ∧
      Stage ingester.text delivery.1.agentId delivery.1.results db left
          answer.isOk :=
    run_ingest_stage validated ingested
  rcases reached with ⟨policies, stage⟩
  have completed : answer.isOk = true := returned
  rw [completed] at stage
  cases stage with
  | nothing none results scores =>
      rw [none]
      exact ⟨policies, results.trans (keepOld_none _).symm, scores⟩
  | rescored _ some results scores =>
      refine ⟨policies, results, ?_⟩
      rw [if_neg fun empty => some (List.isEmpty_iff.mp empty)]
      exact scores

theorem merged_deliveries {ingester : ResultIngester} {agentId : Uuid} {db : Db}
    {deliveries : List Delivery}
    (meets : Meets (deliver ingester) (Delivers ingester agentId) db deliveries) :
    Merged ingester.text agentId (delivered deliveries) db
      (after (deliver ingester) db deliveries) := by
  induction deliveries generalizing db with
  | nil => exact Merged.refl ingester.text agentId db
  | cons delivery rest ih =>
      rw [after_cons, delivered, List.flatMap_cons]
      exact (merged_delivery meets.1).trans (ih meets.2)

/-- What deliveries of the same contents leave. -/
theorem Merged.same {text : UuidText} {agentId : Uuid}
    {batch batch' : List CheckResult} {db first second : Db}
    (left : Merged text agentId batch db first)
    (right : Merged text agentId batch' db second)
    (contents : batchAt text agentId batch = batchAt text agentId batch')
    (empty : batch.isEmpty = batch'.isEmpty) :
    first.resultAt = second.resultAt ∧ first.scoreAt = second.scoreAt := by
  have results : first.resultAt = second.resultAt := by
    rw [left.results, right.results, contents]
  have policies : SamePolicies second first :=
    ⟨left.policies.elements.trans right.policies.elements.symm,
      left.policies.checks.trans right.policies.checks.symm⟩
  refine ⟨results, ?_⟩
  rw [left.scores, right.scores, empty, rescoredOver_congr policies results]

/-- Results of the agent, copies of one another where they are for the same
check and second, leave the same results and scores however they are cut into
batches, ordered and repeated. -/
theorem delivery_order_irrelevant (ingester : ResultIngester) (agentId : Uuid)
    (db : Db) (first second : List Delivery)
    (firstMeets : Meets (deliver ingester) (Delivers ingester agentId) db first)
    (secondMeets : Meets (deliver ingester) (Delivers ingester agentId) db second)
    (same : forall result, result ∈ delivered first <-> result ∈ delivered second)
    (copies : Copies (resultKeyOf ingester.text agentId) CheckResult.content
      (delivered first)) :
    (after (deliver ingester) db first).resultAt =
      (after (deliver ingester) db second).resultAt ∧
      (after (deliver ingester) db first).scoreAt =
        (after (deliver ingester) db second).scoreAt := by
  have contents : batchAt ingester.text agentId (delivered first) =
    batchAt ingester.text agentId (delivered second) := by
    funext key
    rw [batchAt, batchAt, keyed_eq_of_same copies same]
  have empty : (delivered first).isEmpty = (delivered second).isEmpty := by
    rw [Bool.eq_iff_iff, List.isEmpty_iff, List.isEmpty_iff,
      List.eq_nil_iff_forall_not_mem, List.eq_nil_iff_forall_not_mem]
    exact forall_congr' fun result => not_congr (same result)
  exact (merged_deliveries firstMeets).same (merged_deliveries secondMeets)
    contents empty

/-- A failure at midnight, and a pass half a minute later. -/
def midnightFailure : CheckResult :=
  { midnightResult "1b4e28ba-2fa1-11d2-883f-0016d3cca427" with passed := false }

def laterPass : CheckResult :=
  { midnightResult "1B4E28BA-2FA1-11D2-883F-0016D3CCA427" with
    executedAt := 1767225630 }

/-- Statements without faults that draw consecutive identifiers. -/
def numbering (first : Uuid) : Nat -> Env :=
  fun _ =>
    { now := newYear.nanos, fresh := fun index => first + BitVec.ofNat 128 index }

/-- One result after the other, and both in one batch in the other order. -/
theorem delivery_order_irrelevant_night :
    (after (deliver crateIngester) policedDb
      [(midnightCall [midnightFailure], numbering 51),
        (midnightCall [laterPass], numbering 52)]).scoreAt =
    (after (deliver crateIngester) policedDb
      [(midnightCall [laterPass, midnightFailure, laterPass],
        numbering 61)]).scoreAt := by
  refine (delivery_order_irrelevant crateIngester 7 policedDb _ _ ?_ ?_ ?_ ?_).2
  · decide +kernel
  · decide +kernel
  · intro result
    constructor
    · intro member
      rcases List.mem_cons.mp member with rfl | rest
      · exact List.mem_cons_of_mem _ List.mem_cons_self
      · rw [List.mem_singleton.mp rest]
        exact List.mem_cons_self
    · intro member
      rcases List.mem_cons.mp member with rfl | rest
      · exact List.mem_cons_of_mem _ List.mem_cons_self
      · exact rest
  · unfold Copies
    decide +kernel

/-! ## Deliveries cut short -/

theorem run_validate_same (ingester : ResultIngester) (call : IngestCall)
    (envs : Nat -> Env) (db : Db) :
    (Program.run exec (ingester.validate call) envs db).2 = db := by
  have issues : (ingester.validate call).Issues fun stmt => Exists fun agentId =>
      Exists fun checkIds =>
      stmt = .validateCheckIdsForAgent agentId checkIds :=
    validateBatch_issues
      (fun agentId checkIds => ⟨agentId, checkIds, rfl⟩) _ _ _ _ _
  apply Program.run_kept (fun db => db) _ issues
  rintro env stmt db ⟨agentId, checkIds, rfl⟩
  exact (perform_validateCheckIdsForAgent env agentId checkIds db).1

/-- An attempt at the batch whose validation fails or gives the report. -/
def Attempts (ingester : ResultIngester) (call : IngestCall)
    (report : ValidationReport) (db : Db) (attempt : Delivery) : Prop :=
  attempt.1.agentId = call.agentId ∧ attempt.1.results = call.results ∧
  match (Program.run exec (ingester.validate attempt.1) attempt.2 db).1 with
  | .ok report' => report' = report
  | .error _ => True

instance (ingester : ResultIngester) (call : IngestCall)
    (report : ValidationReport) (db : Db) (attempt : Delivery) :
    Decidable (Attempts ingester call report db attempt) := by
  unfold Attempts
  have :
      Decidable
        (match (Program.run exec
          (ingester.validate attempt.1) attempt.2 db).1 with
          | .ok report' => report' = report
          | .error _ => True) := by
    split <;> infer_instance
  infer_instance

/-- Where attempts may have come: the results are merged or not, and scores are
recomputed only from merged results. -/
structure UnderWay (text : UuidText) (agentId : Uuid) (valid : List CheckResult)
    (db db' : Db) : Prop where
  policies : SamePolicies db db'
  results : db'.resultAt = db.resultAt ∨
    db'.resultAt = keepOld db.resultAt (batchAt text agentId valid)
  scores : db'.scoreAt = db.scoreAt ∨
    valid ≠ [] ∧ db'.resultAt = keepOld db.resultAt (batchAt text agentId valid) ∧
      db'.scoreAt = rescoredOver agentId db' db.scoreAt

section UnderWay

variable {text : UuidText} {agentId : Uuid} {valid : List CheckResult}
  {start db db' : Db}

/-- Merging the batch from anywhere on the way leads to the same results. -/
theorem UnderWay.merge (underWay : UnderWay text agentId valid start db)
    (results : db'.resultAt = keepOld db.resultAt (batchAt text agentId valid)) :
    db'.resultAt = keepOld start.resultAt (batchAt text agentId valid) := by
  rcases underWay.results with unmerged | merged
  · rw [results, unmerged]
  · rw [results, merged, keepOld_again]

/-- Recomputing from anywhere on the way leads to the same scores. -/
theorem UnderWay.rescore (underWay : UnderWay text agentId valid start db)
    (policies : SamePolicies db db')
    (scores : db'.scoreAt = rescoredOver agentId db' db.scoreAt) :
    db'.scoreAt = rescoredOver agentId db' start.scoreAt := by
  rcases underWay.scores with unscored | ⟨_, _, scored⟩
  · rw [scores, unscored]
  · rw [scores, scored, rescoredOver_again policies]

theorem UnderWay.stage (underWay : UnderWay text agentId valid start db)
    (policies : SamePolicies db db') {returned : Bool}
    (stage : Stage text agentId valid db db' returned) :
    UnderWay text agentId valid start db' := by
  have kept : db'.resultAt = db.resultAt -> db'.scoreAt = db.scoreAt ->
      UnderWay text agentId valid start db' := by
    intro results scores
    refine ⟨underWay.policies.trans policies, ?_, ?_⟩
    · rw [results]
      exact underWay.results
    · rw [results, scores, rescoredOver_congr policies results]
      exact underWay.scores
  cases stage with
  | nothing none results scores => exact kept results scores
  | untouched results scores => exact kept results scores
  | inserted some results scores =>
      have merged := underWay.merge results
      refine ⟨underWay.policies.trans policies, Or.inr merged, ?_⟩
      rcases underWay.scores with unscored | ⟨_, before, scored⟩
      · exact Or.inl (scores.trans unscored)
      · right
        refine ⟨some, merged, ?_⟩
        rw [scores, scored,
          rescoredOver_congr policies (merged.trans before.symm)]
  | rescored returned some results scores =>
      have merged := underWay.merge results
      exact ⟨underWay.policies.trans policies, Or.inr merged,
        Or.inr ⟨some, merged, underWay.rescore policies scores⟩⟩

/-- A complete attempt leaves what a single one leaves. -/
theorem UnderWay.complete (underWay : UnderWay text agentId valid start db)
    (policies : SamePolicies db db')
    (stage : Stage text agentId valid db db' true) :
    Merged text agentId valid start db' := by
  refine ⟨underWay.policies.trans policies, ?_, ?_⟩
  · cases stage with
    | nothing none results scores =>
        subst none
        rcases underWay.results with unmerged | merged
        · exact results.trans (unmerged.trans (keepOld_none _).symm)
        · exact results.trans merged
    | rescored _ some results scores => exact underWay.merge results
  · cases stage with
    | nothing none results scores =>
        rw [none, List.isEmpty_nil, if_pos rfl, scores]
        exact underWay.scores.resolve_right fun scored => scored.1 none
    | rescored _ some results scores =>
        rw [if_neg fun empty => some (List.isEmpty_iff.mp empty)]
        exact underWay.rescore policies scores

end UnderWay

/-- How far an attempt comes. -/
theorem attempt_stage {ingester : ResultIngester} {call : IngestCall}
    {report : ValidationReport} {db : Db} {attempt : Delivery}
    (attempts : Attempts ingester call report db attempt) :
    SamePolicies db (deliver ingester db attempt) ∧
      Stage ingester.text call.agentId report.valid db
        (deliver ingester db attempt)
        (Program.run exec (ingester.ingest attempt.1) attempt.2 db).1.isOk := by
  rcases attempts with ⟨sameAgent, sameBatch, sameReport⟩
  have unread := run_validate_same ingester attempt.1 attempt.2 db
  cases validated :
      Program.run exec (ingester.validate attempt.1) attempt.2 db with
  | mk answer left =>
  rw [validated] at unread sameReport
  have sameDb : left = db := unread
  subst sameDb
  cases answer with
  | ok report' =>
      have same : report' = report := sameReport
      subst same
      rw [← sameAgent]
      exact run_ingest_stage validated rfl
  | error failure =>
      have ingested :
          Program.run exec (ingester.ingest attempt.1) attempt.2 left =
            (.error failure, left) := by
        unfold ResultIngester.ingest
        split
        · next empty =>
          rw [ResultIngester.validate, validateBatch, if_pos empty] at validated
          cases congrArg Prod.fst validated
        · exact Program.run_bind_error validated
      rw [deliver, ingested]
      exact ⟨SamePolicies.refl left, Stage.untouched rfl rfl⟩

/-- Any attempts at a batch followed by a complete one leave the results and
scores of a single complete one. -/
theorem retry_converges (ingester : ResultIngester) (call : IngestCall)
    (report : ValidationReport) (db : Db) (attempts : List Delivery)
    (last single : Delivery)
    (earlier :
      Meets (deliver ingester) (Attempts ingester call report) db attempts)
    (again :
      Attempts ingester call report (after (deliver ingester) db attempts) last)
    (completed : (Program.run exec (ingester.ingest last.1) last.2
      (after (deliver ingester) db attempts)).1.isOk = true)
    (once : Attempts ingester call report db single)
    (undisturbed :
      (Program.run exec (ingester.ingest single.1) single.2 db).1.isOk = true) :
    (deliver ingester (after (deliver ingester) db attempts) last).resultAt =
      (deliver ingester db single).resultAt ∧
      (deliver ingester (after (deliver ingester) db attempts) last).scoreAt =
      (deliver ingester db single).scoreAt := by
  have start : UnderWay ingester.text call.agentId report.valid db db :=
    ⟨SamePolicies.refl db, Or.inl rfl, Or.inl rfl⟩
  have underWay :
      UnderWay ingester.text call.agentId report.valid db
        (after (deliver ingester) db attempts) := by
    apply (always_of_meets _ start earlier).last
    intro state attempt underWay attempts
    have reached := attempt_stage attempts
    exact underWay.stage reached.1 reached.2
  have final := attempt_stage again
  have alone := attempt_stage once
  rw [completed] at final
  rw [undisturbed] at alone
  exact (underWay.complete final.1 final.2).same
    (start.complete alone.1 alone.2) rfl rfl

/-- The statement with the given number, counted from zero, loses the
connection. -/
def losingAt (number : Nat) (fresh : Uuid) : Nat -> Env := fun n =>
  { numbering fresh n with
    fault :=
      if n = number then some (.connection "connection reset by peer") else none }

/-- The validation, the insertion and the recomputation fail, then the batch
goes through. -/
theorem retry_converges_night :
    (deliver crateIngester
      (after (deliver crateIngester) policedDb
        [(midnightCall [midnightFailure, laterPass], losingAt 0 51),
          (midnightCall [midnightFailure, laterPass], losingAt 1 52),
          (midnightCall [midnightFailure, laterPass], losingAt 2 53)])
      (midnightCall [midnightFailure, laterPass], numbering 55)).scoreAt =
    (deliver crateIngester policedDb
      (midnightCall [midnightFailure, laterPass], numbering 61)).scoreAt := by
  refine (retry_converges crateIngester
    (midnightCall [midnightFailure, laterPass])
    ⟨[midnightFailure, laterPass], []⟩ policedDb _ _ _ ?_ ?_ ?_ ?_ ?_).2
  · decide +kernel
  · decide +kernel
  · decide +kernel
  · decide +kernel
  · decide +kernel

end Complyx
