import Complyx.Grpc.RecordedHash
import Complyx.Grpc.StableHash
import Complyx.Ingest.FaithfulStore
import Complyx.Ingest.ScoreRace

namespace Complyx

open Transition Relational

/-!
# From the bundle to the scores

An agent polls, runs every check of the bundle it is sent and submits what it has
found.  The bundle is put together by one crate, the results are judged by another
and the scores are computed by a third, each with queries of its own.  They have
to agree on which checks there are: nothing the agent was asked for may be
refused, and each element of the bundle is to be scored by what the agent found of
its checks.

Between the poll and the submission anything may happen on the server that leaves
the policies and their assignments alone.
-/

/-! ## What an agent submits -/

/-- The results of an agent that has run the checks of the bundle and no others. -/
structure Executes (bundle : PolicyBundle) (findings : String -> Bool)
    (results : List CheckResult) : Prop where
  covers : forall checkId, checkId ∈ bundle.checkIds ->
    Exists fun result => result ∈ results ∧ result.checkId = checkId
  listed : forall result, result ∈ results -> result.checkId ∈ bundle.checkIds
  found : forall result, result ∈ results ->
    result.passed = findings result.checkId

/-- The results arrive in time, and are newer than what is stored for their
checks. -/
structure Timely (ingester : ResultIngester) (call : IngestCall)
    (db : Db) : Prop where
  inWindow : forall result, result ∈ call.results ->
    InWindow call.now ingester.timestampBounds result.executedAt
  newer : forall result, result ∈ call.results -> forall row,
    row ∈ db.checkResults.rows ->
    row.agentId = call.agentId ->
      ingester.text.toText row.checkId = result.checkId ->
      row.executedAt < result.executedAt * nanosPerSec

/-- The row scores the element by what the agent has found. -/
structure Reflects (text : UuidText) (agentId : Uuid) (findings : String -> Bool)
    (element : PolicyElement) (row : ComplianceScoreRow) : Prop where
  agent : row.agentId = agentId
  here : text.toText row.policyElementId = element.id
  total : row.totalChecks = element.checks.length
  passed :
    row.passedChecks =
      (element.checks.filter fun check => findings check.id).length
  score : row.score = 100 * row.passedChecks / row.totalChecks

/-! ## What a bundle asks for -/

section Bundle

variable {distributor : PolicyDistributor} {db : Db} {agentId : Uuid}

theorem getChecksForPolicy_nodup (policyId : Uuid) (db : Db) :
    (getChecksForPolicy policyId db).Nodup := by
  rw [getChecksForPolicy]
  have apart := checksWithElements_pairwise db policyId
  have sorted :=
    (List.perm_insertionSort
      (fun first second : PolicyCheckRow × PolicyElementRow =>
          idsLe (first.2.id, first.1.id) (second.2.id, second.1.id))
            (checksWithElements policyId db)).symm
  rw [List.Nodup, List.pairwise_map]
  apply (sorted.pairwise_iff ?_).mp
  · apply apart.imp
    intro first second different same
    exact different (congrArg PolicyCheckRow.id same)
  · intro first second different
    exact different.symm

/-- The message of an element has the checks that its score is computed from. -/
theorem element_checks {policy : PolicyRow} {element : PolicyElementRow}
    (member : element ∈ db.policyElements.rows)
    (inside : element.policyId = policy.id) :
    ((getChecksForPolicy policy.id db).filter fun check =>
      check.policyElementId = element.id).Perm
      (db.checksOf element.id) := by
  have distinct : (db.checksOf element.id).Nodup :=
    (db.policyChecks.nodup fun _ => rfl).filter _
  apply (List.perm_ext_iff_of_nodup
    ((getChecksForPolicy_nodup policy.id db).filter _) distinct).mpr
  intro check
  rw [Db.checksOf, List.mem_filter, List.mem_filter, mem_getChecksForPolicy,
    decide_eq_true_eq]
  constructor
  · rintro ⟨⟨present, _⟩, same⟩
    exact ⟨present, same⟩
  · rintro ⟨present, same⟩
    exact ⟨⟨present, element, member, same, inside⟩, same⟩

/-- The elements of a bundle are those of the database, with their checks. -/
theorem Resolves.element {policies : List Policy}
    (resolves : Resolves distributor db agentId policies) {policy : Policy}
    (member : policy ∈ policies) {element : PolicyElement}
    (inside : element ∈ policy.elements) :
    Exists fun row => row ∈ db.policyElements.rows ∧
      distributor.text.toText row.id = element.id ∧
      (element.checks.map PolicyCheck.id).Perm
        ((db.checksOf row.id).map fun check =>
          distributor.text.toText check.id) := by
  cases resolves with
  | loaded directOrder groupedOrder loads =>
      rcases List.mem_map.mp member with ⟨rows, rowsMember, rfl⟩
      rcases mem_loaded loads rowsMember with ⟨policyId, _, loaded⟩
      cases loaded with
      | @found policyRow sections present order =>
          rcases List.mem_map.mp inside with ⟨row, rowMember, rfl⟩
          have parts := mem_getElementsForPolicy.mp rowMember
          refine ⟨row, parts.1, rfl, ?_⟩
          have checks := (element_checks parts.1 parts.2).map fun check =>
            distributor.text.toText check.id
          rw [PolicyDistributor.protoElement, List.map_map]
          exact checks

/-- A check of the bundle is one of which results are accepted. -/
theorem Resolves.accepted {policies : List Policy}
    (resolves : Resolves distributor db agentId policies) {hash text : String}
    (member : text ∈ (⟨policies, hash⟩ : PolicyBundle).checkIds) :
    Exists fun checkId => text = distributor.text.toText checkId ∧
      Assigned db agentId checkId := by
  rcases (mem_checkIds resolves).mp member with
    ⟨check, element, checkMember, elementMember, same, assigned, _, written⟩
  exact ⟨check.id, written, check, element, checkMember, rfl, elementMember, same,
    Db.policyAssigned_iff.mp assigned⟩

end Bundle

theorem SameAssignments.assigned {db db' : Db} (same : SameAssignments db db')
    {agentId checkId : Uuid} :
    Assigned db' agentId checkId <-> Assigned db agentId checkId := by
  rw [Assigned, Assigned, same.checks, same.elements, same.direct, same.groups,
    same.memberships]

/-- What a poll sends is what the database distributes. -/
theorem run_pollPolicies_sent {service : ComplyxAgent} {agentId : Uuid}
    {request : PollRequest} {envs : Nat -> Env × Instant}
    {server server' : Server} {changed : Bool} {bundle : PolicyBundle}
    (polled :
      Program.run execServer (service.pollPolicies (some ⟨agentId⟩) request)
        envs server =
      (.ok ⟨changed, some bundle⟩, server')) :
    Exists fun policies =>
      Resolves service.distributor server.1 agentId policies ∧
      bundle = sealed service.distributor.sha256 policies := by
  have database :=
    @ComplyxAgent.run_pollPolicies_database _ _ exec service
      ⟨agentId⟩ request envs server
  dsimp only at database
  rw [polled] at database
  rcases (run_pollPolicies_ok database.symm).1 with ⟨policies, resolves, answered⟩
  rw [pollAnswer] at answered
  split at answered
  · cases answered
  · exact ⟨policies, resolves,
      Option.some.inj (congrArg PollResponse.bundle answered)⟩

/-! ## What becomes of a report -/

section Report

variable {ingester : ResultIngester} {call : IngestCall} {db db' : Db}
  {findings : String -> Bool}
  {bundle : PolicyBundle}

/-- The checks of the bundle are read back, and results of them are accepted. -/
def Answerable (ingester : ResultIngester) (db : Db) (agentId : Uuid)
    (bundle : PolicyBundle) : Prop :=
  forall text, text ∈ bundle.checkIds ->
    Exists fun checkId => text = ingester.text.toText checkId ∧
      Assigned db agentId checkId

/-- Nothing of the report is refused. -/
theorem report_valid (accepted : Answerable ingester db call.agentId bundle)
    (executed : Executes bundle findings call.results)
    (timely : Timely ingester call db) {envs : Nat -> Env}
    {report : ValidationReport} {left : Db}
    (validated : Program.run exec (ingester.validate call) envs db =
      (.ok report, left)) :
    report.valid = call.results ∧ report.rejected = [] := by
  rcases run_validateBatch_divided validated with ⟨keep, ⟨refused, divides⟩, _⟩
  have all : forall result, result ∈ call.results -> keep result = true := by
    intro result member
    rcases accepted _ (executed.listed result member) with
      ⟨checkId, written, assigned⟩
    have parsed : ingester.text.parse result.checkId = some checkId := by
      rw [written, ingester.text.parse_toText]
    have passes :
        Passes ingester.text call.now ingester.timestampBounds db call.agentId
          result checkId :=
      ⟨⟨timely.inWindow result member, parsed⟩, Or.inl assigned⟩
    have valid :=
      ((validateBatch_ok validated).2 result).mpr ⟨member, checkId, passes⟩
    rw [divides.valid, List.mem_filter] at valid
    exact valid.2
  have whole : report.valid = call.results := by
    rw [divides.valid, List.filter_eq_self]
    exact all
  refine ⟨whole, ?_⟩
  have counted := divides.length
  rw [whole] at counted
  exact List.eq_nil_of_length_eq_zero (by omega)

/-- What stands under the key of a check of the bundle in the report. -/
theorem batchAt_found (accepted : Answerable ingester db call.agentId bundle)
    (executed : Executes bundle findings call.results) {checkId : Uuid}
    {time : Timestamp} {stored : ResultContent}
    (present : batchAt ingester.text call.agentId call.results
      (call.agentId, checkId, time) = some stored) :
    stored.passed = findings (ingester.text.toText checkId) ∧ Exists fun result =>
      result ∈ call.results ∧
      result.checkId = ingester.text.toText checkId ∧
        time = result.executedAt * nanosPerSec := by
  rcases keyed_some present with ⟨result, member, itsKey, content⟩
  rcases accepted _ (executed.listed result member) with ⟨read, written, _⟩
  rw [resultKeyOf, written, ingester.text.parse_toText, Option.map_some,
    Option.some.injEq, CheckResult.key, Prod.mk.injEq, Prod.mk.injEq] at itsKey
  rcases itsKey with ⟨_, sameCheck, sameTime⟩
  rw [sameCheck] at written
  refine ⟨?_, result, member, written, sameTime.symm⟩
  rw [← content, ← written]
  exact executed.found result member

theorem batchAt_of_mem {result : CheckResult} (member : result ∈ call.results)
    {checkId : Uuid} (written : result.checkId = ingester.text.toText checkId) :
    (batchAt ingester.text call.agentId call.results
      (call.agentId, checkId, result.executedAt * nanosPerSec)).isSome =
        true := by
  apply keyed_isSome.mpr
  refine List.mem_map.mpr ⟨result, member, ?_⟩
  rw [resultKeyOf, written, ingester.text.parse_toText]
  rfl

/-- Among the results of a check there is a latest one. -/
theorem exists_latest {results : List CheckResult} {checkId : String}
    (present : Exists fun result => result ∈ results ∧ result.checkId = checkId) :
    Exists fun result => (result ∈ results ∧ result.checkId = checkId) ∧
      forall other, other ∈ results -> other.checkId = checkId ->
        other.executedAt ≤ result.executedAt := by
  rcases present with ⟨first, member, its⟩
  have some_result :
      ((results.filter fun result =>
        result.checkId = checkId).toFinset).Nonempty :=
    ⟨first,
      List.mem_toFinset.mpr (List.mem_filter.mpr ⟨member, decide_eq_true its⟩)⟩
  rcases Finset.exists_max_image _ CheckResult.executedAt some_result with
    ⟨latest, chosen, greatest⟩
  rw [List.mem_toFinset, List.mem_filter, decide_eq_true_eq] at chosen
  refine ⟨latest, chosen, ?_⟩
  intro other otherMember same
  exact greatest other
    (List.mem_toFinset.mpr
      (List.mem_filter.mpr ⟨otherMember, decide_eq_true same⟩))

/-- Nothing stored is as new as what the report says of a check. -/
theorem Timely.older (timely : Timely ingester call db) {result : CheckResult}
    (member : result ∈ call.results) {checkId : Uuid}
    (written : result.checkId = ingester.text.toText checkId) {time : Timestamp}
    (present : (db.resultAt (call.agentId, checkId, time)).isSome = true) :
    time < result.executedAt * nanosPerSec := by
  rcases List.mem_map.mp (Db.resultAt_isSome.mp present) with
    ⟨row, rowMember, itsKey⟩
  rw [CheckResultRow.resultKey, Prod.mk.injEq, Prod.mk.injEq] at itsKey
  rcases itsKey with ⟨sameAgent, sameCheck, sameTime⟩
  rw [← sameTime]
  refine timely.newer result member row rowMember sameAgent ?_
  rw [sameCheck, written]

/-- After the report the latest result of each check of the bundle is what the agent
has found. -/
theorem passesLatest_found (accepted : Answerable ingester db call.agentId bundle)
    (executed : Executes bundle findings call.results)
    (timely : Timely ingester call db)
    (merged : db'.resultAt =
      keepOld db.resultAt (batchAt ingester.text call.agentId call.results))
    {checkId : Uuid} (asked : ingester.text.toText checkId ∈ bundle.checkIds) :
    PassesLatest db' call.agentId checkId <->
      findings (ingester.text.toText checkId) = true := by
  rcases exists_latest (executed.covers _ asked) with
    ⟨latest, ⟨member, written⟩, greatest⟩
  have reported := @batchAt_of_mem ingester _ _ member _ written
  have unstored :
      db.resultAt (call.agentId, checkId, latest.executedAt * nanosPerSec) =
        none := by
    rw [← Option.not_isSome_iff_eq_none]
    intro present
    exact absurd (timely.older member written present) (Int.lt_irrefl _)
  rw [passesLatest_iff_resultAt, merged]
  constructor
  · rintro ⟨time, stored, present, passed, last⟩
    have late :=
      last (latest.executedAt * nanosPerSec)
        (by rw [keepOld, unstored, Option.none_or]; exact reported)
    cases old : db.resultAt (call.agentId, checkId, time) with
    | some before =>
        have early := timely.older member written (by rw [old]; rfl)
        exact absurd early (Int.not_lt.mpr late)
    | none =>
        rw [keepOld, old, Option.none_or] at present
        rw [← (batchAt_found accepted executed present).1]
        exact passed
  · intro fine
    rcases Option.isSome_iff_exists.mp reported with ⟨stored, present⟩
    refine ⟨latest.executedAt * nanosPerSec, stored, ?_, ?_, ?_⟩
    · rw [keepOld, unstored, Option.none_or]
      exact present
    · rw [(batchAt_found accepted executed present).1]
      exact fine
    · intro time' stored'
      rw [keepOld] at stored'
      cases old : db.resultAt (call.agentId, checkId, time') with
      | some before =>
          exact Int.le_of_lt (timely.older member written (by rw [old]; rfl))
      | none =>
          rw [old, Option.none_or] at stored'
          rcases Option.isSome_iff_exists.mp stored' with ⟨content, found⟩
          rcases (batchAt_found accepted executed found).2 with
            ⟨other, otherMember, same, rfl⟩
          have earlier := greatest other otherMember same
          exact Int.mul_le_mul_of_nonneg_right earlier (by decide)

/-! ## What a report is answered -/

/-- Results under new keys are added one by one. -/
theorem insertCheckResultsFrom_new {env : Env} {index added : Nat}
    {results : List InsertCheckResult} {db db' : Db}
    (accepted : insertCheckResultsFrom env index results db = .ok (added, db'))
    (distinct : (results.map (InsertCheckResult.resultKey env.clock)).Nodup)
    (absent : forall key,
      key ∈ results.map (InsertCheckResult.resultKey env.clock) ->
        key ∉ db.resultKeys) :
    added = results.length := by
  induction results generalizing index added db with
  | nil =>
      cases accepted
      rfl
  | cons result rest ih =>
      rcases insertCheckResultsFrom_cons accepted with
        ⟨one, middle, more, inserted, insertedRest, counted⟩
      rw [List.map_cons] at distinct absent
      have parts := List.nodup_cons.mp distinct
      have first : one = 1 := by
        cases (insertCheckResult_ok inserted).2 with
        | kept present => exact absurd present (absent _ List.mem_cons_self)
        | added checkResults inserted absent agent check => rfl
      have others := ih insertedRest parts.2 fun key member stored => by
        rw [(insertCheckResult_added inserted).keys key,
          List.mem_singleton] at stored
        rcases stored with before | same
        · exact absent key (List.mem_cons_of_mem _ member) before
        · rw [same] at member
          exact parts.1 member
      rw [counted, first, others, List.length_cons, Nat.add_comm]

/-- The rows of the valid results stand under the keys of the results, in order. -/
theorem resultKeys_built {text : UuidText} {agentId : Uuid}
    {valid : List CheckResult} {rows : List InsertCheckResult}
    (faithfuls : List.Forall₂ (Faithful text agentId) valid rows)
    (clock : Timestamp) :
    (rows.map (InsertCheckResult.resultKey clock)).map some =
      valid.map (resultKeyOf text agentId) := by
  induction faithfuls with
  | nil => rfl
  | cons faithful _ ih =>
      rw [List.map_cons, List.map_cons, List.map_cons, ih, resultKeyOf,
        faithful.checkId, faithful.resultKey]
      rfl

/-- Every result of a report that names no check twice at one second becomes a
row. -/
theorem report_counted (accepted : Answerable ingester db call.agentId bundle)
    (executed : Executes bundle findings call.results)
    (timely : Timely ingester call db)
    (distinct :
      (call.results.map fun result => (result.checkId, result.executedAt)).Nodup)
    {envs : Nat -> Env} {summary : IngestSummary}
    (ingested : Program.run exec (ingester.ingest call) envs db =
      (.ok summary, db')) :
    summary.accepted = call.results.length := by
  rcases run_ingest_ok ingested with ⟨report, validated, _⟩
  have valid := (report_valid accepted executed timely validated).1
  have written : forall result, result ∈ call.results -> Exists fun checkId =>
      result.checkId = ingester.text.toText checkId ∧
      resultKeyOf ingester.text call.agentId result =
        some (result.key call.agentId checkId) := by
    intro result member
    rcases accepted _ (executed.listed result member) with ⟨checkId, same, _⟩
    refine ⟨checkId, same, ?_⟩
    rw [resultKeyOf, same, ingester.text.parse_toText]
    rfl
  cases (run_ingest_counted validated ingested).2 with
  | nothing none zero => rw [zero, ← valid, none, List.length_nil]
  | inserted rows env left built stored =>
      rw [valid] at built
      have candidates : forall result, result ∈ call.results ->
          isCandidate ingester.text call.now ingester.timestampBounds result =
            true := by
        intro result member
        rcases run_validateBatch_divided validated with
          ⟨keep, ⟨refused, divides⟩, candidate⟩
        rw [← valid, divides.valid, List.mem_filter] at member
        exact candidate result member.2
      rcases mapM_toInsert_faithful candidates call.agentId with
        ⟨rows', built', faithfuls⟩
      rw [← Except.ok.inj (built.symm.trans built')] at faithfuls
      have keys := resultKeys_built faithfuls env.clock
      rw [insertCheckResultsFrom_new stored, faithfuls.length_eq]
      · have apart :
            (call.results.map
              (resultKeyOf ingester.text call.agentId)).Nodup := by
          rw [List.nodup_map_iff_inj_on (List.Nodup.of_map _ distinct)]
          intro first firstMember second secondMember same
          rcases written first firstMember with ⟨checkId, firstWritten, firstKey⟩
          rcases written second secondMember with
            ⟨checkId', secondWritten, secondKey⟩
          rw [firstKey, secondKey, Option.some.injEq, CheckResult.key,
            CheckResult.key, Prod.mk.injEq, Prod.mk.injEq] at same
          apply List.inj_on_of_nodup_map distinct firstMember secondMember
          have sameTime := Int.eq_of_mul_eq_mul_right (by decide) same.2.2
          rw [firstWritten, secondWritten, same.2.1, sameTime]
        rw [← keys] at apart
        exact List.Nodup.of_map _ apart
      · intro key member stored
        have named := List.mem_map_of_mem (f := some) member
        rw [keys] at named
        rcases List.mem_map.mp named with ⟨result, inBatch, itsKey⟩
        rcases written result inBatch with ⟨checkId, same, built⟩
        rw [built, Option.some.injEq] at itsKey
        rw [← itsKey] at stored
        exact absurd (timely.older inBatch same (Db.resultAt_isSome.mpr stored))
          (Int.lt_irrefl _)

end Report

/-! ## The cycle -/

/-- Counting by what is found does not depend on the order of the checks. -/
theorem found_length {α β : Type} {first : List α} {second : List β}
    {firstId : α -> String} {secondId : β -> String}
    (perm : (first.map firstId).Perm (second.map secondId))
    (findings : String -> Bool) :
    (first.filter fun check => findings (firstId check)).length =
      (second.filter fun check => findings (secondId check)).length := by
  have counted := (perm.filter findings).length_eq
  rw [List.filter_map, List.filter_map, List.length_map,
    List.length_map] at counted
  exact counted

/-- The scores after a report of the checks of a bundle. -/
theorem report_scored {ingester : ResultIngester} {call : IngestCall}
    {db db' : Db} {findings : String -> Bool} {bundle : PolicyBundle}
    (accepted : Answerable ingester db call.agentId bundle)
    (executed : Executes bundle findings call.results)
    (timely : Timely ingester call db) {envs : Nat -> Env}
    {summary : IngestSummary}
    (ingested : Program.run exec (ingester.ingest call) envs db =
      (.ok summary, db'))
    {row : PolicyElementRow} (member : row ∈ db.policyElements.rows)
    {element : PolicyElement} (named : ingester.text.toText row.id = element.id)
    (checks : (element.checks.map PolicyCheck.id).Perm
      ((db.checksOf row.id).map fun check => ingester.text.toText check.id))
    (asked : forall check, check ∈ element.checks -> check.id ∈ bundle.checkIds)
    (some_check : element.checks ≠ []) :
    Exists fun score => score ∈ db'.complianceScores.rows ∧
      Reflects ingester.text call.agentId findings element score := by
  rcases run_ingest_ok ingested with ⟨report, validated, _⟩
  have valid := (report_valid accepted executed timely validated).1
  have stage := run_ingest_stage validated ingested
  rw [valid] at stage
  rcases stage with ⟨policies, stage⟩
  have sameChecks : db'.checksOf row.id = db.checksOf row.id := by
    rw [Db.checksOf, Db.checksOf, policies.checks]
  have listed : forall check, check ∈ db.checksOf row.id ->
      ingester.text.toText check.id ∈ bundle.checkIds := by
    intro check present
    rcases List.mem_map.mp (checks.mem_iff.mpr (List.mem_map_of_mem present)) with
      ⟨message, inside, same⟩
    rw [← same]
    exact asked message inside
  cases stage with
  | nothing none results scores =>
      rcases List.exists_mem_of_ne_nil _ some_check with ⟨check, inside⟩
      rcases executed.covers _ (asked check inside) with ⟨result, reported, _⟩
      rw [none] at reported
      cases reported
  | rescored returned some results scores =>
      have present : row ∈ db'.policyElements.rows := by
        rw [policies.elements]
        exact member
      have checked : db'.checksOf row.id ≠ [] := by
        rw [sameChecks]
        intro none
        rw [none, List.map_nil, List.perm_nil, List.map_eq_nil_iff] at checks
        exact some_check checks
      have computed := scoreOf_checked call.agentId present checked
      have effect := congrFun scores (call.agentId, row.id)
      rw [rescoredOver, if_pos rfl, computed, Db.scoreAt, scoreIn] at effect
      rcases Option.map_eq_some_iff.mp effect with ⟨score, found, content⟩
      have at_key := Table.find_some found
      have scored := scoresElement_of_content present checked computed content
      have itsKey := at_key.2
      rw [ComplianceScoreRow.scoreKey, Prod.mk.injEq] at itsKey
      refine ⟨score, at_key.1, itsKey.1, ?_, ?_, ?_, scored.score⟩
      · rw [itsKey.2, named]
      · rw [scored.total, sameChecks, ← List.length_map PolicyCheck.id,
          checks.length_eq, List.length_map]
      · rw [scored.passed, found_length checks findings,
          Db.passingChecks, sameChecks]
        congr 1
        apply List.filter_congr
        intro check inside
        rw [Bool.eq_iff_iff, decide_eq_true_eq]
        exact passesLatest_found accepted executed timely results
          (listed check inside)

/-- An agent that polls, runs every check it is sent and submits what it finds has
nothing refused, whatever happens on the server meanwhile as long as policies and
assignments stay.  Each element of its bundle that has checks is then scored by its
findings, whatever the score was before. -/
theorem executed_bundle_scored (service : ComplyxAgent)
    (sameText : service.ingester.text = service.distributor.text) (agentId : Uuid)
    (poll : PollRequest) (pollEnvs : Nat -> Env × Instant)
    (server server' : Server) (changed : Bool) (bundle : PolicyBundle)
    (polled : Program.run execServer (service.pollPolicies (some ⟨agentId⟩) poll)
      pollEnvs server =
      (.ok ⟨changed, some bundle⟩, server')) (db : Db)
    (kept : SameAssignments server.1 db) (findings : String -> Bool)
    (request : SubmitResultsRequest) (now : DateTime)
    (executed : Executes bundle findings request.results)
    (timely : Timely service.ingester (request.call agentId now) db)
    (envs : Nat -> Env) (db' : Db) (response : SubmitResultsResponse)
    (answered :
      Program.run exec (service.submitResults (some ⟨agentId⟩) request now) envs
        db = (.ok response, db')) :
    response.accepted = true ∧ response.rejectedCount = 0 ∧
    ((request.results.map fun result =>
      (result.checkId, result.executedAt)).Nodup ->
      response.acceptedCount = UInt32.ofNat request.results.length) ∧
    forall policy, policy ∈ bundle.policies -> forall element,
      element ∈ policy.elements -> element.checks ≠ [] ->
      Exists fun score => score ∈ db'.complianceScores.rows ∧
        Reflects service.distributor.text agentId findings element score ∧
        forall other, other ∈ db'.complianceScores.rows ->
          other.agentId = agentId ->
          service.distributor.text.toText other.policyElementId = element.id ->
            other = score := by
  rcases run_pollPolicies_sent polled with ⟨policies, resolves, rfl⟩
  rcases run_submitResults_ok answered with ⟨summary, rfl, ingested⟩
  have accepted :
      Answerable service.ingester db agentId
        (sealed service.distributor.sha256 policies) := by
    intro text member
    rcases resolves.accepted member with ⟨checkId, written, assigned⟩
    rw [sameText]
    exact ⟨checkId, written, kept.assigned.mpr assigned⟩
  rcases run_ingest_ok ingested with ⟨report, validated, _⟩
  have none_rejected : summary.rejected = 0 := by
    rw [(run_ingest_counted validated ingested).1,
      (report_valid accepted executed timely validated).2]
    rfl
  refine ⟨?_, ?_, ?_, ?_⟩
  · rw [submitAnswer, none_rejected]
    exact Bool.or_true _
  · rw [submitAnswer, none_rejected]
    rfl
  · intro distinct
    rw [submitAnswer, report_counted accepted executed timely distinct ingested]
    rfl
  · intro policy member element inside some_check
    rcases resolves.element member inside with ⟨row, present, named, checks⟩
    rw [← kept.elements] at present
    rw [← sameText] at named checks ⊢
    have sameChecks : db.checksOf row.id = server.1.checksOf row.id := by
      rw [Db.checksOf, Db.checksOf, kept.checks]
    rw [← sameChecks] at checks
    have asked : forall check, check ∈ element.checks ->
        check.id ∈ (sealed service.distributor.sha256 policies).checkIds := by
      intro check listed
      rw [PolicyBundle.checkIds, List.mem_flatMap]
      exact ⟨policy, member,
        List.mem_flatMap.mpr ⟨element, inside, List.mem_map_of_mem listed⟩⟩
    rcases report_scored accepted executed timely ingested present named checks
        asked some_check with
      ⟨score, scored, reflects⟩
    refine ⟨score, scored, reflects, ?_⟩
    intro other otherMember sameAgent sameElement
    apply Table.eq_of_key ComplianceScoreRow.scoreKey_separates
      db'.complianceScores otherMember scored
    rw [ComplianceScoreRow.scoreKey, ComplianceScoreRow.scoreKey, sameAgent,
      reflects.agent,
        service.ingester.text.toText_injective
        (sameElement.trans reflects.here.symm)]
    rfl

/-- The agent of the office finds that root may not log in. -/
def officeReport : SubmitResultsRequest where
  agentId := "00000000-0000-0000-0000-000000000009"
  results := [midnightResult "00000000-0000-0000-0000-00000000000d"]

def firstPoll : PollRequest := ⟨"00000000-0000-0000-0000-000000000009", ""⟩

/-- The office's database once the policies were resolved. -/
def polledOffice : Db :=
  (Program.run exec (nightService.resolvePolicies 9)
    (fun n => quietly 0 (n + 1)) officeDb).2

/-- Its policy on SSH is met. -/
theorem office_scored : Exists fun server => Exists fun db =>
    Program.run execServer (nightService.pollPolicies (some ⟨9⟩) firstPoll)
      (fun n => (quietly 0 n, 0)) officeServer =
      (.ok ⟨true, some officeBundle⟩, server) ∧
    Program.run exec (nightService.submitResults (some ⟨9⟩) officeReport newYear)
      (numbering 61) polledOffice =
      (.ok ⟨true, 1, 0⟩, db) ∧
    Exists fun score => score ∈ db.complianceScores.rows ∧ score.agentId = 9 ∧
      score.score = 100 := by
  have resolved :
      (Program.run exec (nightService.resolvePolicies 9)
        (fun n => quietly 0 (n + 1)) officeDb).1 =
      .ok officeBundle := rfl
  have sent : pollAnswer firstPoll officeBundle = ⟨true, some officeBundle⟩ :=
    if_neg (sealed_hash_ne_empty _ _)
  have polled :=
    @ComplyxAgent.run_pollPolicies _ _ exec nightService ⟨9⟩ firstPoll
      (fun n => (quietly 0 n, 0))
      officeServer
  have unchanged : officeServer.1 = officeDb := rfl
  dsimp only at polled
  rw [unchanged, resolved] at polled
  dsimp only at polled
  rw [sent] at polled
  have executed : Executes officeBundle (fun _ => true) officeReport.results := by
    refine ⟨?_, ?_, ?_⟩
    · intro checkId listed
      exact ⟨_, List.mem_singleton_self _, (List.mem_singleton.mp listed).symm⟩
    · intro result reported
      rw [List.mem_singleton.mp reported]
      exact List.mem_singleton_self _
    · intro result reported
      rw [List.mem_singleton.mp reported]
      rfl
  have timely :
      Timely nightService.ingester
        (officeReport.call 9 newYear) polledOffice := by
    refine ⟨?_, ?_⟩
    · intro result reported
      rw [List.mem_singleton.mp reported]
      exact ⟨newYear, rfl, by decide, by decide⟩
    · intro result _ row impossible
      cases impossible
  have answered :
      Program.run exec
        (nightService.submitResults (some ⟨9⟩) officeReport newYear)
        (numbering 61)
      polledOffice = (.ok ⟨true, 1, 0⟩, _) := Prod.ext (by decide +kernel) rfl
  have cycle :=
    executed_bundle_scored nightService rfl 9 firstPoll _ officeServer _ true
      officeBundle polled
      polledOffice ⟨⟨rfl, rfl⟩, rfl, rfl, rfl⟩
        (fun _ => true) officeReport newYear executed timely (numbering 61) _ _
      answered
  rcases cycle.2.2.2 sshPolicy List.mem_cons_self _ List.mem_cons_self
      (List.cons_ne_nil _ _) with
    ⟨score, stored, reflects, _⟩
  refine ⟨_, _, polled, answered, score, stored, reflects.agent, ?_⟩
  rw [reflects.score, reflects.passed, reflects.total]
  norm_num [sshPolicy]

end Complyx
