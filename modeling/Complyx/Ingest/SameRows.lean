import Complyx.Ingest.AdminDecision
import Complyx.Ingest.OwnRows
import Complyx.Distribution.Resolver
import Complyx.Transition.Isolation

namespace Complyx

open Relational Transition

/-!
# What an agent's statements see of the others

Two databases are the same for an agent when they have the same policies and
threats and the same rows of this agent.  The statements issued on behalf of the
agent are answered the same in both, with one exception: an identifier that is
drawn for a row must not be that of a row of another agent, since identifiers are
unique over all agents.
-/

/-- The agent a program acts for and the risk its last statement found. -/
structure Memory where
  agentId : Uuid
  found : Option Uuid

def Memory.note (memory : Memory) (stmt : Stmt)
    (answer : Except DbError stmt.Res) : Memory :=
  { memory with found := noteRisk memory.found stmt answer }

/-- A statement on behalf of the agent that closes nothing but the risk found
last. -/
inductive OwnCall (memory : Memory) : Stmt -> Prop where
  | connection : OwnCall memory (.updateLatestConnection memory.agentId)
  | read (stmt : Stmt) (reads : PolicyRead stmt) : OwnCall memory stmt
  | lookup (checkIds : List Uuid) :
      OwnCall memory (.validateCheckIdsForAgent memory.agentId checkIds)
  | store (rows : List InsertCheckResult)
      (own : forall row, row ∈ rows -> row.agentId = memory.agentId) :
      OwnCall memory (.insertCheckResults rows)
  | rescore : OwnCall memory (.upsertComplianceScores memory.agentId)
  | threats : OwnCall memory .listThreats
  | look (threatId : Uuid) :
      OwnCall memory (.findOpenRisk memory.agentId threatId)
  | raise (data : InsertRiskData) (own : data.agentId = memory.agentId) :
      OwnCall memory (.insertRisk data)
  | close (riskId : Uuid) (last : memory.found = some riskId) :
      OwnCall memory (.setRiskStatus riskId .closed)

/-- The risk found last is one of the agent. -/
def Memory.Knows (memory : Memory) (db : Db) : Prop :=
  forall riskId, memory.found = some riskId -> Exists fun row =>
    row ∈ db.risks.rows ∧ row.id = riskId ∧ row.agentId = memory.agentId

/-! ## Programs that act for one agent -/

section Follows

variable {agentId : Uuid}

abbrev ActsFor {α ε : Type} (program : Code ε α) (memory : Memory) : Prop :=
  program.Follows Memory.note OwnCall memory

theorem maybeCreateRisk_acts (severity : String) (memory : Memory) :
    ActsFor (maybeCreateRisk memory.agentId severity) memory := by
  apply Program.follows_attempt_bind _ OwnCall.threats
  intro threats
  split
  · trivial
  · next threat _ =>
    apply Program.follows_attempt_bind _ (OwnCall.look threat.id)
    intro existing
    split
    · trivial
    · apply Program.follows_attempt_bind _ (OwnCall.raise _ rfl)
      intro riskId
      trivial

theorem closeFirstOpen_acts (threats : List ThreatRow) (memory : Memory) :
    ActsFor (closeFirstOpen memory.agentId threats) memory := by
  induction threats generalizing memory with
  | nil => trivial
  | cons threat rest ih =>
      unfold closeFirstOpen
      split
      · exact ih memory
      · apply Program.follows_attempt_bind _ (OwnCall.look threat.id)
        intro existing
        cases existing with
        | none => exact ih { memory with found := none }
        | some riskId =>
            apply Program.follows_attempt_bind _ (OwnCall.close riskId rfl)
            intro nothing
            trivial

theorem note_agentId (memory other : Memory) (stmt : Stmt)
    (answer : Except DbError stmt.Res) (same : other.agentId = memory.agentId) :
    (other.note stmt answer).agentId = memory.agentId := same

/-- The second program acts for the same agent, whatever was found. -/
theorem follows_bind_acts {α β ε : Type} {program : Code ε α}
    {next : α -> Code ε β} {memory : Memory} (first : ActsFor program memory)
    (rest : forall value (other : Memory), other.agentId = memory.agentId ->
      ActsFor (next value) other) : ActsFor (program >>= next) memory :=
  Program.follows_bind_kept (note_agentId memory) rfl first rest

theorem handleResult_acts (severities : CheckSeverities) (result : CheckResult)
    (memory : Memory) :
    ActsFor (handleResult memory.agentId severities result) memory := by
  unfold handleResult
  dsimp only
  split
  · exact follows_bind_acts (maybeCreateRisk_acts _ memory)
      fun made other _ => trivial
  · split
    · refine follows_bind_acts ?_ fun did other _ => trivial
      apply Program.follows_attempt_bind _ OwnCall.threats
      intro threats
      exact closeFirstOpen_acts threats { memory with found := none }
    · trivial

theorem evaluateFrom_acts (severities : CheckSeverities)
    (results : List CheckResult) (summary : RiskTriggerSummary)
    (memory : Memory) :
    ActsFor (evaluateFrom memory.agentId severities summary results) memory := by
  induction results generalizing summary memory with
  | nil => trivial
  | cons result rest ih =>
      refine follows_bind_acts (handleResult_acts severities result memory)
        fun change other same => ?_
      rw [← same]
      exact ih _ other

/-- Statements that need no memory. -/
theorem acts_of_issues {α ε : Type} {issued : Stmt -> Prop} {program : Code ε α}
    {memory : Memory}
    (permitted : forall (other : Memory) stmt, other.agentId = memory.agentId ->
      issued stmt -> OwnCall other stmt)
    (issues : program.Issues issued) : ActsFor program memory :=
  Program.follows_of_issues (note_agentId memory) permitted rfl issues

theorem validate_acts (ingester : ResultIngester) (call : IngestCall)
    (memory : Memory) (own : call.agentId = memory.agentId) :
    ActsFor (ingester.validate call) memory := by
  unfold ResultIngester.validate validateBatch
  split
  · trivial
  · refine follows_bind_acts (Program.follows_lift _ memory)
      fun sorted other same => ?_
    split
    · trivial
    · rw [own, ← same]
      exact Program.follows_attempt_bind _ (OwnCall.lookup _)
        fun invalidIds => trivial

/-- An ingestion acts for the agent of its call. -/
theorem ingest_acts (ingester : ResultIngester) (call : IngestCall)
    (memory : Memory) (own : call.agentId = memory.agentId) :
    ActsFor (ingester.ingest call) memory := by
  unfold ResultIngester.ingest
  split
  · trivial
  refine follows_bind_acts (validate_acts ingester call memory own)
    fun report afterwards same => ?_
  have own' : call.agentId = afterwards.agentId := own.trans same.symm
  dsimp only
  split
  · trivial
  cases built : report.valid.mapM (toInsert ingester.text call.agentId) with
  | error failure => trivial
  | ok rows =>
      rw [Program.lift_ok, Program.done_bind]
      have ownRows : forall row, row ∈ rows ->
          row.agentId = afterwards.agentId := by
        intro row member
        exact (mapM_toInsert_own built row member).trans own'
      apply Program.follows_attempt_bind _ (OwnCall.store rows ownRows)
      intro inserted
      rw [own']
      refine follows_bind_acts ?_ fun scoresUpdated other same' => ?_
      · exact Program.follows_attempt_bind _ OwnCall.rescore fun scores => trivial
      · have sameAgent : afterwards.agentId = other.agentId := same'.symm
        rw [sameAgent]
        exact follows_bind_acts
          (evaluateFrom_acts call.checkSeverities report.valid {} other)
          fun riskSummary last _ => trivial

end Follows

/-! ## Two databases that are the same for an agent -/

/-- The databases differ in nothing but rows of other agents. -/
structure SameRows (agentId : Uuid) (whole alone : Db) : Prop where
  frame : whole = { alone with
    agents := whole.agents, risks := whole.risks,
    checkResults := whole.checkResults
    complianceScores := whole.complianceScores }
  agents : (whole.agents.rows.filter fun row => row.id = agentId) =
    alone.agents.rows.filter fun row => row.id = agentId
  risks : (whole.risks.rows.filter fun row => row.agentId = agentId) =
    alone.risks.rows.filter fun row => row.agentId = agentId
  checkResults :
    (whole.checkResults.rows.filter fun row => row.agentId = agentId) =
    alone.checkResults.rows.filter fun row => row.agentId = agentId
  complianceScores :
    (whole.complianceScores.rows.filter fun row => row.agentId = agentId) =
    alone.complianceScores.rows.filter fun row => row.agentId = agentId

/-- No identifier drawn is that of a result or a risk of another agent. -/
structure UnusedByOthers (agentId : Uuid) (env : Env) (db : Db) : Prop where
  risks : forall row, row ∈ db.risks.rows -> row.agentId ≠ agentId ->
    row.id ≠ env.fresh 0
  checkResults : forall row, row ∈ db.checkResults.rows ->
    row.agentId ≠ agentId -> forall n, row.id ≠ env.fresh n

/-- The results and risks of other agents in the one have their identifiers in the
other as well. -/
structure IdsOfOthers (agentId : Uuid) (whole alone : Db) : Prop where
  risks : forall row, row ∈ alone.risks.rows -> row.agentId ≠ agentId ->
      Exists fun other =>
    other ∈ whole.risks.rows ∧ other.agentId ≠ agentId ∧ other.id = row.id
  checkResults : forall row, row ∈ alone.checkResults.rows ->
      row.agentId ≠ agentId -> Exists fun other =>
    other ∈ whole.checkResults.rows ∧ other.agentId ≠ agentId ∧ other.id = row.id

theorem SameRows.rfl {agentId : Uuid} {db : Db} : SameRows agentId db db := by
  constructor <;> exact Eq.refl _

theorem IdsOfOthers.rfl {agentId : Uuid} {db : Db} :
    IdsOfOthers agentId db db where
  risks := fun row member other => ⟨row, member, other, Eq.refl _⟩
  checkResults := fun row member other => ⟨row, member, other, Eq.refl _⟩

theorem UnusedByOthers.alone {agentId : Uuid} {env : Env} {whole alone : Db}
    (unused : UnusedByOthers agentId env whole)
    (ids : IdsOfOthers agentId whole alone) :
    UnusedByOthers agentId env alone where
  risks := by
    intro row member other
    rcases ids.risks row member other with ⟨row', member', other', sameId⟩
    rw [← sameId]
    exact unused.risks row' member' other'
  checkResults := by
    intro row member other
    rcases ids.checkResults row member other with ⟨row', member', other', sameId⟩
    rw [← sameId]
    exact unused.checkResults row' member' other'

/-- Where the rows of the others stay, the identifiers stay unused. -/
theorem OthersKept.unused {agentId : Uuid} {env : Env} {db db' : Db}
    (kept : OthersKept agentId db db') (unused : UnusedByOthers agentId env db) :
    UnusedByOthers agentId env db' where
  risks := by
    intro row member other
    have before : row ∈ db.risks.rows.filter fun row =>
        row.agentId ≠ agentId := by
      rw [← kept.risks, List.mem_filter]
      exact ⟨member, decide_eq_true other⟩
    exact unused.risks row (List.mem_filter.mp before).1 other
  checkResults := by
    intro row member other
    have before : row ∈ db.checkResults.rows.filter fun row =>
        row.agentId ≠ agentId := by
      rw [← kept.checkResults, List.mem_filter]
      exact ⟨member, decide_eq_true other⟩
    exact unused.checkResults row (List.mem_filter.mp before).1 other

section Same

variable {agentId : Uuid} {env : Env} {whole alone : Db}

theorem SameRows.mem_risks (same : SameRows agentId whole alone) {row : RiskRow}
    (own : row.agentId = agentId) :
    row ∈ whole.risks.rows <-> row ∈ alone.risks.rows := by
  have filtered :
      row ∈ (whole.risks.rows.filter fun row => row.agentId = agentId) <->
      row ∈ alone.risks.rows.filter fun row => row.agentId = agentId := by
    rw [same.risks]
  simpa only [List.mem_filter, own, decide_true, and_true] using filtered

theorem SameRows.mem_agents (same : SameRows agentId whole alone) {row : AgentRow}
    (own : row.id = agentId) :
    row ∈ whole.agents.rows <-> row ∈ alone.agents.rows := by
  have filtered : row ∈ (whole.agents.rows.filter fun row => row.id = agentId) <->
      row ∈ alone.agents.rows.filter fun row => row.id = agentId := by
    rw [same.agents]
  simpa only [List.mem_filter, own, decide_true, and_true] using filtered

theorem SameRows.mem_checkResults (same : SameRows agentId whole alone)
    {row : CheckResultRow} (own : row.agentId = agentId) :
    row ∈ whole.checkResults.rows <-> row ∈ alone.checkResults.rows := by
  have filtered :
      row ∈ (whole.checkResults.rows.filter fun row => row.agentId = agentId) <->
      row ∈ alone.checkResults.rows.filter fun row => row.agentId = agentId := by
    rw [same.checkResults]
  simpa only [List.mem_filter, own, decide_true, and_true] using filtered

theorem SameRows.hasAgent (same : SameRows agentId whole alone) :
    whole.hasAgent agentId = alone.hasAgent agentId := by
  rw [Bool.eq_iff_iff, Db.hasAgent_iff, Db.hasAgent_iff]
  apply exists_congr
  intro row
  constructor
  · rintro ⟨member, own⟩
    exact ⟨(same.mem_agents own).mp member, own⟩
  · rintro ⟨member, own⟩
    exact ⟨(same.mem_agents own).mpr member, own⟩

theorem SameRows.mem_resultKeys (same : SameRows agentId whole alone)
    {key : ResultKey} (own : key.1 = agentId) :
    key ∈ whole.resultKeys <-> key ∈ alone.resultKeys := by
  have ownRow : forall row : CheckResultRow, row.resultKey = key ->
      row.agentId = agentId := by
    intro row sameKey
    rw [← own, ← sameKey, CheckResultRow.resultKey]
  rw [Db.resultKeys, Db.resultKeys, List.mem_map, List.mem_map]
  apply exists_congr
  intro row
  constructor
  · rintro ⟨member, sameKey⟩
    exact ⟨(same.mem_checkResults (ownRow row sameKey)).mp member, sameKey⟩
  · rintro ⟨member, sameKey⟩
    exact ⟨(same.mem_checkResults (ownRow row sameKey)).mpr member, sameKey⟩

/-! ## Statements that are answered the same -/

/-- A constraint that is met or violated on both sides. -/
theorem constrained_same {α β : Type} {related : α -> β -> Prop} (table : String)
    {first : Option α} {second : Option β}
    (same : Option.Rel related first second) :
    SameOutcome related (constrained table first) (constrained table second) := by
  cases same with
  | none => exact SameOutcome.failed _
  | some same => exact SameOutcome.ok same

/-- A query whose answer is the same. -/
theorem reading_alike {α : Type} {alike : Db -> Db -> Prop}
    {first second : Except DbError α} (same : alike whole alone)
    (equal : first = second) :
    SameOutcome (SameAnswer alike) (reading first whole)
      (reading second alone) := by
  rw [equal]
  cases second with
  | error failure => exact SameOutcome.failed failure
  | ok value => exact SameOutcome.ok ⟨rfl, same⟩

theorem insertRisk_same (same : SameRows agentId whole alone)
    (unused : UnusedByOthers agentId env whole)
    (unused' : UnusedByOthers agentId env alone) {data : InsertRiskData}
    (own : data.agentId = agentId) :
    SameOutcome (SameAnswer (SameRows agentId)) (insertRisk env data whole)
      (insertRisk env data alone) := by
  unfold insertRisk
  refine SameOutcome.bind_same fun impact => ?_
  refine SameOutcome.bind_same fun probability => ?_
  refine SameOutcome.bind
    (constrained_same _ (Table.insert?_selected same.risks ?_ ?_)) ?_
  · intro old member foreign
    exact unused.risks old member (of_decide_eq_false foreign)
  · intro old member foreign
    exact unused'.risks old member (of_decide_eq_false foreign)
  intro risks risks' sameRisks
  have sameThreats : whole.threats = alone.threats := by
    rw [same.frame]
  rw [sameThreats, own, same.hasAgent]
  refine SameOutcome.bind_same fun _ => ?_
  refine SameOutcome.bind_same fun _ => ?_
  refine SameOutcome.ok ⟨rfl, ?_, same.agents, sameRisks, same.checkResults,
    same.complianceScores⟩
  rw [same.frame]

theorem findOpenRisk_same (same : SameRows agentId whole alone)
    (threatId : Uuid) :
    findOpenRisk env agentId threatId whole =
      findOpenRisk env agentId threatId alone := by
  have ownOnly : forall rows : List RiskRow,
    rows.filter (RiskRow.isOpenFor agentId threatId) =
      (rows.filter fun row => row.agentId = agentId).filter
        (RiskRow.isOpenFor agentId threatId) := by
    intro rows
    rw [List.filter_filter]
    apply List.filter_congr
    intro row _
    rw [RiskRow.isOpenFor]
    by_cases own : row.agentId = agentId
    · rw [decide_eq_true own, Bool.and_true]
    · rw [decide_eq_false own, Bool.false_and, Bool.false_and, Bool.and_false]
  rw [findOpenRisk, findOpenRisk, ownOnly, same.risks, ← ownOnly]

theorem setRiskStatus_same (same : SameRows agentId whole alone) (riskId : Uuid)
    (status : RiskStatus) :
    SameRows agentId (setRiskStatus env riskId status whole)
      (setRiskStatus env riskId status alone) where
  frame := by
    rw [setRiskStatus, setRiskStatus, same.frame]
  agents := same.agents
  risks := by
    rw [setRiskStatus_rows, setRiskStatus_rows, Table.filter_map_selected,
      Table.filter_map_selected, same.risks]
    · intro row
      split <;> rfl
    · intro row
      split <;> rfl
  checkResults := same.checkResults
  complianceScores := same.complianceScores

theorem updateLatestConnection_same (same : SameRows agentId whole alone) :
    SameRows agentId (updateLatestConnection env agentId whole)
      (updateLatestConnection env agentId alone) where
  frame := by
    rw [updateLatestConnection, updateLatestConnection, same.frame]
  agents := by
    rw [updateLatestConnection, updateLatestConnection, Table.map_rows,
      Table.map_rows, Table.filter_map_selected, Table.filter_map_selected,
        same.agents]
    · intro row
      split <;> rfl
    · intro row
      split <;> rfl
  risks := same.risks
  checkResults := same.checkResults
  complianceScores := same.complianceScores

/-- Same rows, and the identifiers drawn are those of no row of another agent. -/
structure SameUnused (agentId : Uuid) (env : Env) (whole alone : Db) : Prop where
  same : SameRows agentId whole alone
  whole : UnusedByOthers agentId env whole
  alone : UnusedByOthers agentId env alone

theorem insertCheckResult_same (same : SameUnused agentId env whole alone)
    (index : Nat) {result : InsertCheckResult} (own : result.agentId = agentId) :
    SameOutcome (SameAnswer (SameUnused agentId env))
      (insertCheckResult env index result whole)
        (insertCheckResult env index result alone) := by
  have outcome :
      SameOutcome (SameAnswer (SameRows agentId))
        (insertCheckResult env index result whole)
      (insertCheckResult env index result alone) := by
    unfold insertCheckResult
    refine SameOutcome.bind_same fun detail => ?_
    refine SameOutcome.bind_same fun actualValue => ?_
    refine SameOutcome.bind_same fun expectedValue => ?_
    refine SameOutcome.bind_same fun executedAt => ?_
    have stored : result.resultKey env.clock ∈ whole.resultKeys <->
        result.resultKey env.clock ∈ alone.resultKeys :=
      same.same.mem_resultKeys own
    by_cases present : result.resultKey env.clock ∈ whole.resultKeys
    · rw [if_pos present, if_pos (stored.mp present)]
      exact SameOutcome.ok ⟨rfl, same.same⟩
    · rw [if_neg present, if_neg (fun there => present (stored.mpr there))]
      refine SameOutcome.bind
        (constrained_same _ (Table.insert?_selected same.same.checkResults ?_ ?_))
        ?_
      · intro old member foreign clash
        rcases clash with sameId | sameResult
        · exact same.whole.checkResults old member
            (of_decide_eq_false foreign) index sameId
        · exact of_decide_eq_false foreign (sameResult.1.trans own)
      · intro old member foreign clash
        rcases clash with sameId | sameResult
        · exact same.alone.checkResults old member
            (of_decide_eq_false foreign) index sameId
        · exact of_decide_eq_false foreign (sameResult.1.trans own)
      intro checkResults checkResults' sameResults
      have sameChecks : whole.policyChecks = alone.policyChecks := by
        rw [same.same.frame]
      rw [own, same.same.hasAgent, sameChecks]
      refine SameOutcome.bind_same fun _ => ?_
      refine SameOutcome.bind_same fun _ => ?_
      refine SameOutcome.ok
        ⟨rfl, ?_, same.same.agents, same.same.risks, sameResults,
          same.same.complianceScores⟩
      rw [same.same.frame]
  apply outcome.mono
  intro answer answer' inserted inserted' answers
  refine ⟨answers.1, answers.2, ?_, ?_⟩
  · exact (insertCheckResult_others inserted own).unused same.whole
  · exact (insertCheckResult_others inserted' own).unused same.alone

/-- One statement of the transaction after the other. -/
theorem insertCheckResultsFrom_same (same : SameUnused agentId env whole alone)
    (index : Nat) {results : List InsertCheckResult}
    (own : forall result, result ∈ results -> result.agentId = agentId) :
    SameOutcome (SameAnswer (SameUnused agentId env))
      (insertCheckResultsFrom env index results whole)
      (insertCheckResultsFrom env index results alone) := by
  induction results generalizing index whole alone with
  | nil => exact SameOutcome.ok ⟨rfl, same⟩
  | cons result rest ih =>
      have parts := List.forall_mem_cons.mp own
      unfold insertCheckResultsFrom
      apply SameOutcome.bind (insertCheckResult_same same index parts.1)
      rintro ⟨added, db⟩ ⟨added', db'⟩ ⟨sameAdded, sameDb⟩
      apply SameOutcome.bind (ih sameDb (index + 1) parts.2)
      rintro ⟨more, last⟩ ⟨more', last'⟩ ⟨sameMore, sameLast⟩
      refine SameOutcome.ok ⟨?_, sameLast⟩
      exact congrArg₂ (· + ·) sameAdded sameMore

/-- A score of the agent clashes with rows of the agent alone. -/
theorem find?_clash_same
    {first second : Table ComplianceScoreRow ComplianceScoreRow.Clash}
    (same : (first.rows.filter fun row => row.agentId = agentId) =
      second.rows.filter fun row => row.agentId = agentId)
    {score : ComplianceScoreRow} (own : score.agentId = agentId) :
    (first.rows.find? fun row => decide (row.Clash score)) = second.rows.find?
      fun row => decide (row.Clash score) := by
  have ownOnly : forall rows : List ComplianceScoreRow,
    (rows.find? fun row => decide (row.Clash score)) =
      (rows.filter fun row => row.agentId = agentId).find? fun row =>
        decide (row.Clash score) := by
    intro rows
    rw [List.find?_filter]
    congr 1
    funext row
    rw [Bool.eq_iff_iff]
    simp only [decide_eq_true_eq]
    exact (and_iff_right_of_imp fun clash => clash.1.trans own).symm
  rw [ownOnly, same, ← ownOnly]

theorem upsertScore_same
    {first second : Table ComplianceScoreRow ComplianceScoreRow.Clash}
    (same : (first.rows.filter fun row => row.agentId = agentId) =
      second.rows.filter fun row => row.agentId = agentId)
    {score : ComplianceScoreRow} (own : score.agentId = agentId) :
    SameOutcome
      (fun first second => (first.rows.filter fun row => row.agentId = agentId) =
        second.rows.filter fun row =>
          row.agentId =
            agentId) (upsertScore first score) (upsertScore second score) := by
  have present : (first.rows.any fun row => decide (row.Clash score)) =
      second.rows.any fun row => decide (row.Clash score) := by
    rw [Bool.eq_iff_iff, List.any_eq_true, List.any_eq_true, ← List.find?_isSome,
      ← List.find?_isSome, find?_clash_same same own]
  unfold upsertScore
  rw [present]
  split
  · apply SameOutcome.ok
    rw [Table.map_rows, Table.map_rows, Table.filter_map_selected,
      Table.filter_map_selected, same]
    · intro row
      split <;> rfl
    · intro row
      split <;> rfl
  · apply constrained_same
    apply Table.insert?_selected same
    · intro old member foreign clash
      exact of_decide_eq_false foreign (clash.1.trans own)
    · intro old member foreign clash
      exact of_decide_eq_false foreign (clash.1.trans own)

theorem upsertScores_same {scores : List ComplianceScoreRow}
    {first second : Table ComplianceScoreRow ComplianceScoreRow.Clash}
    (same : (first.rows.filter fun row => row.agentId = agentId) =
      second.rows.filter fun row => row.agentId = agentId)
    (own : forall score, score ∈ scores -> score.agentId = agentId) :
    SameOutcome
      (fun first second => (first.rows.filter fun row => row.agentId = agentId) =
        second.rows.filter fun row =>
          row.agentId = agentId) (scores.foldlM upsertScore first)
      (scores.foldlM upsertScore second) := by
  induction scores generalizing first second with
  | nil => exact SameOutcome.ok same
  | cons score rest ih =>
      have parts := List.forall_mem_cons.mp own
      rw [List.foldlM_cons, List.foldlM_cons]
      apply SameOutcome.bind (upsertScore_same same parts.1)
      intro middle middle' same'
      exact ih same' parts.2

theorem elementScores_same (same : SameRows agentId whole alone)
    (now : Timestamp) :
    elementScores now agentId whole = elementScores now agentId alone := by
  have sameLatest :
      latestResults agentId whole = latestResults agentId alone := by
    rw [latestResults, same.checkResults, latestResults]
  have sameElements : whole.policyElements = alone.policyElements := by
    rw [same.frame]
  have sameChecks : whole.policyChecks = alone.policyChecks := by
    rw [same.frame]
  rw [elementScores, scoredChecks, sameLatest, sameElements, sameChecks,
    elementScores, scoredChecks]

theorem upsertComplianceScores_same (same : SameRows agentId whole alone) :
    SameOutcome (SameAnswer (SameRows agentId))
      (upsertComplianceScores env agentId whole)
      (upsertComplianceScores env agentId alone) := by
  have own : forall score, score ∈ elementScores env.now agentId alone ->
      score.agentId = agentId := by
    intro score member
    rcases mem_elementScores.mp member with ⟨element, _, scored⟩
    exact congrArg Prod.fst (elementScore_key scored)
  unfold upsertComplianceScores
  rw [elementScores_same same]
  apply SameOutcome.bind (upsertScores_same same.complianceScores own)
  intro scores scores' sameScores
  rw [same.hasAgent]
  refine SameOutcome.bind_same fun _ => ?_
  have stored : ((elementScores env.now agentId alone).filterMap fun score =>
        scores.rows.find? fun row => decide (row.Clash score)) =
      (elementScores env.now agentId alone).filterMap fun score =>
        scores'.rows.find? fun row => decide (row.Clash score) := by
    apply List.filterMap_congr
    intro score member
    exact find?_clash_same sameScores (own score member)
  refine SameOutcome.ok
    ⟨stored, ?_, same.agents, same.risks, same.checkResults, sameScores⟩
  rw [same.frame]

/-- What a resolution reads is the same. -/
theorem PolicyRead.same_outcome {stmt : Stmt} (read : PolicyRead stmt)
    (same : SameRows agentId whole alone) :
    SameOutcome (SameAnswer (SameRows agentId)) (stmt.effect env whole)
      (stmt.effect env alone) := by
  have frame := same.frame
  cases read <;>
    · apply reading_alike same
      rw [frame]
      rfl

/-- Whatever is issued on behalf of the agent is answered the same. -/
theorem OwnCall.same_outcome {memory : Memory} {stmt : Stmt}
    (call : OwnCall memory stmt)
    (same : SameUnused memory.agentId env whole alone) :
    SameOutcome (SameAnswer (SameRows memory.agentId)) (exec env stmt whole)
      (exec env stmt alone) := by
  unfold exec
  split
  · exact SameOutcome.failed _
  have frame := same.same.frame
  cases call with
  | connection =>
      exact SameOutcome.ok ⟨rfl, updateLatestConnection_same same.same⟩
  | read stmt reads => exact reads.same_outcome same.same
  | lookup checkIds =>
      apply reading_alike same.same
      rw [frame]
      rfl
  | store rows own =>
      apply (insertCheckResultsFrom_same same 0 own).mono
      intro answer answer' _ _ answers
      exact ⟨answers.1, answers.2.same⟩
  | rescore => exact upsertComplianceScores_same same.same
  | threats =>
      apply reading_alike same.same
      rw [frame]
      rfl
  | look threatId =>
      apply reading_alike same.same
      rw [findOpenRisk_same same.same]
  | raise data own => exact insertRisk_same same.same same.whole same.alone own
  | close riskId last =>
      exact SameOutcome.ok ⟨rfl, setRiskStatus_same same.same riskId .closed⟩

end Same

/-! ## What a statement leaves to the others -/

/-- Results and risks stay with their identifiers and agents. -/
structure IdsKept (db db' : Db) : Prop where
  risks : forall row, row ∈ db.risks.rows -> Exists fun later =>
    later ∈ db'.risks.rows ∧ later.id = row.id ∧ later.agentId = row.agentId
  checkResults : forall row, row ∈ db.checkResults.rows ->
    row ∈ db'.checkResults.rows

theorem IdsKept.of_same {db db' : Db} (risks : db'.risks = db.risks)
    (checkResults : db'.checkResults = db.checkResults) : IdsKept db db' where
  risks := by
    intro row member
    exact ⟨row, risks ▸ member, rfl, rfl⟩
  checkResults := by
    intro row member
    exact checkResults ▸ member

section Kept

variable {memory : Memory} {env : Env} {stmt : Stmt} {db db' : Db}

theorem insertCheckResultsFrom_kept {index added : Nat}
    {results : List InsertCheckResult}
    (accepted : insertCheckResultsFrom env index results db = .ok (added, db'))
    {row : CheckResultRow} (member : row ∈ db.checkResults.rows) :
    row ∈ db'.checkResults.rows := by
  induction results generalizing index added db with
  | nil =>
      cases accepted
      exact member
  | cons result rest ih =>
      rcases insertCheckResultsFrom_cons accepted with
        ⟨one, middle, more, inserted, insertedRest, _⟩
      apply ih insertedRest
      cases (insertCheckResult_ok inserted).2 with
      | kept present => exact member
      | added checkResults added absent agent check =>
          rw [Table.insert?_rows added]
          exact List.mem_append_left _ member

/-- A statement on behalf of an agent keeps every identifier in place. -/
theorem OwnCall.ids_kept (call : OwnCall memory stmt) (env : Env) (db : Db) :
    IdsKept db (Program.perform exec env stmt db).2 := by
  have frame := perform_frame env stmt db
  cases call with
  | connection => exact IdsKept.of_same (frame.risks rfl) (frame.checkResults rfl)
  | read stmt reads =>
      rw [reads.same env db]
      exact IdsKept.of_same rfl rfl
  | lookup checkIds =>
      exact IdsKept.of_same (frame.risks rfl) (frame.checkResults rfl)
  | store rows own =>
      have sameRisks := frame.risks rfl
      refine ⟨fun row member => ⟨row, sameRisks ▸ member, rfl, rfl⟩, ?_⟩
      rcases perform_cases env (.insertCheckResults rows) db with
        ⟨_, performed⟩ | ⟨value, db', _, effect, performed⟩
      · rw [performed]
        exact fun row member => member
      · rw [performed]
        exact fun row member => insertCheckResultsFrom_kept effect member
  | rescore => exact IdsKept.of_same (frame.risks rfl) (frame.checkResults rfl)
  | threats => exact IdsKept.of_same (frame.risks rfl) (frame.checkResults rfl)
  | look threatId =>
      exact IdsKept.of_same (frame.risks rfl) (frame.checkResults rfl)
  | raise data own =>
      have sameResults := frame.checkResults rfl
      refine ⟨?_, fun row member => sameResults ▸ member⟩
      rcases perform_cases env (.insertRisk data) db with
        ⟨_, performed⟩ | ⟨value, db', _, effect, performed⟩
      · rw [performed]
        exact fun row member => ⟨row, member, rfl, rfl⟩
      · rw [performed]
        rcases (insertRisk_inserted effect).rows with ⟨new, _, _, rows⟩
        intro row member
        refine ⟨row, ?_, rfl, rfl⟩
        rw [rows]
        exact List.mem_append_left _ member
  | close riskId last =>
      have sameResults := frame.checkResults rfl
      refine ⟨?_, fun row member => sameResults ▸ member⟩
      rw [perform_setRiskStatus]
      split
      · intro row member
        refine ⟨_, mem_setRiskStatus.mpr ⟨row, member, rfl⟩, ?_, ?_⟩
        · split <;> rfl
        · split <;> rfl
      · exact fun row member => ⟨row, member, rfl, rfl⟩

/-- A statement on behalf of an agent keeps the rows of the others, since the risk
it closes is the agent's. -/
theorem OwnCall.others (call : OwnCall memory stmt) (env : Env)
    (knows : memory.Knows db) :
    OthersKept memory.agentId db (Program.perform exec env stmt db).2 := by
  rcases perform_cases env stmt db with
    ⟨_, performed⟩ | ⟨value, db', _, effect, performed⟩
  · rw [performed]
    exact OthersKept.rfl
  rw [performed]
  cases call with
  | connection =>
      cases effect
      exact updateLatestConnection_others env memory.agentId db
  | read stmt reads =>
      have same := reads.same env db
      rw [performed] at same
      dsimp only at same
      rw [same]
      exact OthersKept.rfl
  | lookup checkIds =>
      rw [(reading_same effect).1]
      exact OthersKept.rfl
  | store rows own => exact insertCheckResultsFrom_others effect own
  | rescore => exact upsertComplianceScores_others effect
  | threats =>
      rw [(reading_same effect).1]
      exact OthersKept.rfl
  | look threatId =>
      rw [(reading_same effect).1]
      exact OthersKept.rfl
  | raise data own =>
      rw [← own]
      exact (insertRisk_inserted effect).others
  | close riskId last =>
      cases effect
      rcases knows riskId last with ⟨row, member, rfl, own⟩
      exact setRiskStatus_others env .closed member own

theorem Memory.Knows.kept (knows : memory.Knows db)
    (kept : IdsKept db db') : memory.Knows db' := by
  intro riskId found
  rcases knows riskId found with ⟨row, member, sameId, own⟩
  rcases kept.risks row member with ⟨later, member', sameId', sameAgent⟩
  exact ⟨later, member', sameId'.trans sameId, sameAgent.trans own⟩

/-- The risk an agent's statement found is an open one of its own. -/
theorem OwnCall.found_open (call : OwnCall memory stmt) (env : Env) (db : Db)
    (riskId : Uuid)
    (found : (memory.note stmt (Program.perform exec env stmt db).1).found =
      some riskId) :
    Exists fun row => row ∈ db.risks.rows ∧ row.id = riskId ∧
      row.agentId = memory.agentId ∧ row.status = .«open» := by
  rcases perform_cases env stmt db with
    ⟨failure, performed⟩ | ⟨value, db', _, effect, performed⟩
  · rw [performed] at found
    cases stmt <;> cases found
  rw [performed] at found
  cases call with
  | look threatId =>
      have read := (reading_same effect).2
      have same : value = some riskId := found
      rw [same] at read
      rcases findOpenRisk_some (Except.ok.inj read) with
        ⟨row, member, isOpen, sameId⟩
      have parts := RiskRow.isOpenFor_iff.mp isOpen
      exact ⟨row, member, sameId, parts.1, parts.2.2⟩
  | read stmt reads => cases reads <;> cases found
  | connection => cases found
  | lookup checkIds => cases found
  | store rows own => cases found
  | rescore => cases found
  | threats => cases found
  | raise data own => cases found
  | close riskId last => cases found

theorem OwnCall.found_own (call : OwnCall memory stmt) (env : Env) (db : Db) :
    (memory.note stmt (Program.perform exec env stmt db).1).Knows db := by
  intro riskId found
  rcases call.found_open env db riskId found with ⟨row, member, sameId, own, _⟩
  exact ⟨row, member, sameId, own⟩

theorem OwnCall.learns (call : OwnCall memory stmt) (env : Env) (db : Db) :
    (memory.note stmt (Program.perform exec env stmt db).1).Knows
      (Program.perform exec env stmt db).2 :=
  (call.found_own env db).kept (call.ids_kept env db)

end Kept

/-! ## Alike for an agent -/

/-- The same rows of the agent, where whoever else has rows in the one has them in
the other. -/
structure AlikeFor (agentId : Uuid) (whole alone : Db) : Prop where
  same : SameRows agentId whole alone
  ids : IdsOfOthers agentId whole alone

theorem AlikeFor.rfl {agentId : Uuid} {db : Db} : AlikeFor agentId db db :=
  ⟨SameRows.rfl, IdsOfOthers.rfl⟩

section Alike

variable {agentId : Uuid} {env : Env} {memory : Memory} {stmt : Stmt}
  {whole alone : Db}

theorem AlikeFor.knows (alike : AlikeFor memory.agentId whole alone)
    (knows : memory.Knows whole) :
    memory.Knows alone := by
  intro riskId found
  rcases knows riskId found with ⟨row, member, sameId, own⟩
  exact ⟨row, (alike.same.mem_risks own).mp member, sameId, own⟩

/-- A statement on behalf of the agent. -/
theorem AlikeFor.own (alike : AlikeFor memory.agentId whole alone)
    (call : OwnCall memory stmt) (knows : memory.Knows whole)
    (unused : UnusedByOthers memory.agentId env whole) :
    SameAnswer (AlikeFor memory.agentId) (Program.perform exec env stmt whole)
      (Program.perform exec env stmt alone) := by
  have outcome := call.same_outcome ⟨alike.same, unused, unused.alone alike.ids⟩
  have answers := outcome.perform alike.same
  have wholeKept := call.ids_kept env whole
  have aloneOthers := call.others env (alike.knows knows)
  refine ⟨answers.1, answers.2, ?_, ?_⟩
  · intro row member other
    have before : row ∈ alone.risks.rows.filter fun row =>
        row.agentId ≠ memory.agentId := by
      rw [← aloneOthers.risks, List.mem_filter]
      exact ⟨member, decide_eq_true other⟩
    rcases alike.ids.risks row (List.mem_filter.mp before).1 other with
      ⟨row', member', other', sameId⟩
    rcases wholeKept.risks row' member' with
      ⟨later, laterMember, laterId, laterAgent⟩
    exact ⟨later, laterMember, fun own => other' (laterAgent.symm.trans own),
      laterId.trans sameId⟩
  · intro row member other
    have before : row ∈ alone.checkResults.rows.filter fun row =>
        row.agentId ≠ memory.agentId := by
      rw [← aloneOthers.checkResults, List.mem_filter]
      exact ⟨member, decide_eq_true other⟩
    rcases alike.ids.checkResults row (List.mem_filter.mp before).1 other with
      ⟨row', member', other', sameId⟩
    exact ⟨row', wholeKept.checkResults row' member', other', sameId⟩

/-- What others keep of everyone else they keep of the agent. -/
theorem filter_own_of_others {ρ : Type} {agentOf : ρ -> Uuid} {other : Uuid}
    (apart : other ≠ agentId) {before later : List ρ}
    (kept : (later.filter fun row => agentOf row ≠ other) =
      before.filter fun row => agentOf row ≠ other) :
    (later.filter fun row => agentOf row = agentId) = before.filter fun row =>
      agentOf row = agentId := by
  have within : forall rows : List ρ,
    (rows.filter fun row => agentOf row = agentId) =
      (rows.filter fun row => agentOf row ≠ other).filter fun row =>
        agentOf row = agentId := by
    intro rows
    rw [List.filter_filter]
    apply List.filter_congr
    intro row _
    rw [Bool.eq_iff_iff]
    simp only [Bool.and_eq_true, decide_eq_true_eq]
    exact (and_iff_left_of_imp fun own same => apart (same.symm.trans own)).symm
  rw [within, kept, ← within]

/-- A statement on behalf of another agent. -/
theorem AlikeFor.other (alike : AlikeFor agentId whole alone)
    (apart : memory.agentId ≠ agentId) (call : OwnCall memory stmt) (env : Env)
    (knows : memory.Knows whole) :
    AlikeFor agentId (Program.perform exec env stmt whole).2 alone := by
  have others := call.others env knows
  have kept := call.ids_kept env whole
  generalize (Program.perform exec env stmt whole).2 = later at others kept ⊢
  refine ⟨⟨?_, ?_, ?_, ?_, ?_⟩, ?_, ?_⟩
  · rw [others.frame, alike.same.frame]
  · exact (filter_own_of_others apart others.agents).trans alike.same.agents
  · exact (filter_own_of_others apart others.risks).trans alike.same.risks
  · exact (filter_own_of_others apart others.checkResults).trans
      alike.same.checkResults
  · exact (filter_own_of_others apart others.complianceScores).trans
      alike.same.complianceScores
  · intro row member other
    rcases alike.ids.risks row member other with ⟨row', member', other', sameId⟩
    rcases kept.risks row' member' with ⟨later, laterMember, laterId, laterAgent⟩
    exact ⟨later, laterMember, fun own => other' (laterAgent.symm.trans own),
      laterId.trans sameId⟩
  · intro row member other
    rcases alike.ids.checkResults row member other with
      ⟨row', member', other', sameId⟩
    exact ⟨row', kept.checkResults row' member', other', sameId⟩

end Alike

end Complyx
