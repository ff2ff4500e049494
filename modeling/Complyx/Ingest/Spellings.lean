import Complyx.Ingest.RiskLevels
import Complyx.Ingest.RiskLedger

namespace Complyx

open Transition Relational

/-!
# Does spelling decide over risks?

The policies table admits every severity in capitals too, and the validator
accepts every spelling of an identifier.  The trigger looks the severity up under
the text the agent sent and compares it with words in lower case.  So whether a
failure counts as critical is a matter of spelling, and the outcome is the same
under all spellings only where it would make no difference: where no failure
finds anything to open.
-/

/-! ## Spellings -/

/-- The texts that the CHECK constraint on `policies.severity` admits. -/
def admittedSeverities : List String :=
    ["critical", "high", "medium", "low", "CRITICAL", "HIGH", "MEDIUM", "LOW"]

/-- The same letters, in either case. -/
def SameLetters (first second : String) : Prop :=
  first.toList.map Char.toLower = second.toList.map Char.toLower

instance (first second : String) : Decidable (SameLetters first second) :=
  inferInstanceAs (Decidable (_ = _))

/-- Every severity of the map is one the policies table admits. -/
def Admitted (severities : CheckSeverities) : Prop :=
  forall checkId severity, severities checkId = some severity ->
    severity ∈ admittedSeverities

/-- The maps have severities for the same texts, which differ in case only. -/
def Recased (severities severities' : CheckSeverities) : Prop :=
  forall checkId,
    Option.Rel SameLetters (severities checkId) (severities' checkId)

/-- The results differ in the spelling of their check at most. -/
def Respelled (text : UuidText) (result result' : CheckResult) : Prop :=
  text.parse result'.checkId = text.parse result.checkId ∧
    result' = { result with checkId := result'.checkId }

/-- Two batches and two maps that differ in spelling only. -/
structure SpelledAlike (text : UuidText) (results results' : List CheckResult)
    (severities severities' : CheckSeverities) :
    Prop where
  results : List.Forall₂ (Respelled text) results results'
  severities : Recased severities severities'
  admitted : Admitted severities'

/-- However the batch and the map are spelled, an evaluation that returns creates
and closes as many risks and leaves as many of each agent for each threat and
status. -/
def SpellingIrrelevant (text : UuidText) (agentId : Uuid)
    (results : List CheckResult) (severities : CheckSeverities)
    (db : Db) : Prop :=
  forall results' severities',
    SpelledAlike text results results' severities severities' ->
    forall {envs envs' : Nat -> Env} {summary summary' : RiskTriggerSummary}
      {left left' : Db},
      Program.run exec (evaluate agentId results severities) envs db =
        (.ok summary, left) ->
      Program.run exec (evaluate agentId results' severities') envs' db =
        (.ok summary', left') ->
      summary' = summary ∧ left'.ledger = left.ledger

/-- The severity may count for the result: in some case it is critical or high and
the map has it for a spelling of its check. -/
def CouldCount (text : UuidText) (severities : CheckSeverities)
    (result : CheckResult) (severity : String) : Prop :=
  severity ∈ criticalSeverities ∧ Exists fun checkId =>
    text.parse checkId = text.parse result.checkId ∧
    Exists fun entry => severities checkId = some entry ∧
      SameLetters entry severity

/-- No failure, under any severity that may count for it, finds its threat without
an open risk, once the passes before it in the batch have closed theirs. -/
def Ledger.NothingToOpen (text : UuidText) (threats : List ThreatRow)
    (severities : CheckSeverities) (results : List CheckResult)
    (ledger : Ledger) : Prop :=
  forall before result after, results = before ++ result :: after ->
    result.passed = false ->
    forall severity, CouldCount text severities result severity ->
      forall threat, findComplianceThreat threats severity = some threat ->
        0 < before.foldl (Ledger.handle threats fun _ => none) ledger
          threat.id .«open»

/-! ## The outcome as a function -/

/-- The ledger and the summary after a result. -/
def Ledger.turn (threats : List ThreatRow) (severities : CheckSeverities)
    (state : Ledger × RiskTriggerSummary) (result : CheckResult) :
    Ledger × RiskTriggerSummary :=
  (state.1.handle threats severities result,
    state.2.record (state.1.change threats severities result))

/-- The ledger and the summary after a batch. -/
def Ledger.outcome (threats : List ThreatRow) (severities : CheckSeverities)
    (results : List CheckResult) (state : Ledger × RiskTriggerSummary) :
    Ledger × RiskTriggerSummary :=
  results.foldl (Ledger.turn threats severities) state

theorem Ledger.outcome_fst (threats : List ThreatRow)
    (severities : CheckSeverities) (results : List CheckResult)
    (state : Ledger × RiskTriggerSummary) :
    (Ledger.outcome threats severities results state).1 =
      results.foldl (Ledger.handle threats severities) state.1 := by
  induction results generalizing state with
  | nil => rfl
  | cons result rest ih => exact ih _

theorem run_evaluateFrom_outcome {agentId : Uuid} {severities : CheckSeverities}
    {results : List CheckResult} {summary summary' : RiskTriggerSummary}
    {envs : Nat -> Env} {db db' : Db}
    (evaluated :
      Program.run exec (evaluateFrom agentId severities summary results) envs db =
        (.ok summary', db')) :
    (db'.ledger agentId, summary') =
      Ledger.outcome (listThreats db) severities results
    (db.ledger agentId, summary) := by
  induction results generalizing summary envs db with
  | nil =>
      cases evaluated
      rfl
  | cons result rest ih =>
      rcases Program.run_bind_eq_ok evaluated with
        ⟨change, middle, handled, others⟩
      have effect := run_handleResult_effect handled
      have sameThreats : listThreats middle = listThreats db := by
        rw [effect.frame]
        rfl
      rw [ih others, effect.own, sameThreats, run_handleResult_change handled]
      rfl

/-! ## One result in several spellings -/

namespace Ledger

variable {threats : List ThreatRow} {severities severities' : CheckSeverities}
  {result result' : CheckResult}
  {state : Ledger × RiskTriggerSummary}

/-- What a pass does has nothing to do with severities. -/
theorem turn_passed (pass : result.passed = true)
    (pass' : result'.passed = true) :
    turn threats severities' state result' =
      turn threats severities state result := by
  simp only [turn, handle, change, pass, pass', Bool.not_true, Bool.false_and,
    Bool.false_eq_true, if_false, if_true]

/-- A failure that does not count, or whose threat has an open risk, changes
nothing. -/
theorem turn_failed (failed : result.passed = false)
    (raised : isCritical (severityOf severities result.checkId) = true ->
      forall threat,
        findComplianceThreat threats (severityOf severities result.checkId) =
          some threat ->
        0 < state.1 threat.id .«open») :
    turn threats severities state result = state := by
  have idle : state.1.Idle threats severities result := by
    unfold Idle
    rw [failed, Bool.not_false, Bool.true_and]
    split
    · next critical => exact fun threat chosen => raised critical threat chosen
    · trivial
  have unreported : state.1.change threats severities result = .none := by
    unfold change
    rw [failed, Bool.not_false, Bool.true_and]
    split
    · next critical =>
      cases found :
          findComplianceThreat threats (severityOf severities result.checkId) with
      | none => rfl
      | some threat =>
          exact if_neg (Nat.pos_iff_ne_zero.mp (raised critical threat found))
    · rfl
  rw [turn, handle_eq_iff.mpr idle, unreported]
  rfl

theorem turn_unlisted (failed : result.passed = false) :
    turn threats (fun _ => none) state result = state :=
  turn_failed failed fun critical =>
    absurd critical (by decide : ¬ isCritical "low" = true)

/-- Only severities that may count do count. -/
theorem couldCount_of_critical {text : UuidText}
    (recased : Recased severities severities')
    (sameCheck : text.parse result'.checkId = text.parse result.checkId)
    (critical : isCritical (severityOf severities' result'.checkId) = true) :
    CouldCount text severities result
      (severityOf severities' result'.checkId) := by
  refine ⟨of_decide_eq_true critical, result'.checkId, sameCheck, ?_⟩
  have related := recased result'.checkId
  unfold severityOf at critical ⊢
  cases listed : severities' result'.checkId with
  | none =>
      rw [listed] at critical
      exact absurd critical (by decide)
  | some severity =>
      rw [listed] at related
      cases entry : severities result'.checkId with
      | none =>
          rw [entry] at related
          cases related
      | some original =>
          rw [entry] at related
          cases related with
          | some same => exact ⟨original, rfl, same⟩

theorem NothingToOpen.tail {text : UuidText} {rest : List CheckResult}
    {ledger : Ledger}
    (nothing : ledger.NothingToOpen text threats severities (result :: rest)) :
    (ledger.handle threats (fun _ => none) result).NothingToOpen text threats
      severities rest := by
  intro before failing after split failed severity could threat chosen
  exact nothing (result :: before) failing after
    (by rw [split]; rfl) failed severity could threat chosen

/-- Where failures find nothing to open, only passes act, in every spelling. -/
theorem outcome_respelled {text : UuidText} {results results' : List CheckResult}
    {ledger : Ledger} (respelled : List.Forall₂ (Respelled text) results results')
    (recased : Recased severities severities')
    (nothing : ledger.NothingToOpen text threats severities results)
    (summary : RiskTriggerSummary) :
    outcome threats severities' results' (ledger, summary) =
      outcome threats (fun _ => none) results (ledger, summary) := by
  induction respelled generalizing ledger summary with
  | nil => rfl
  | @cons result result' rest rest' head tail ih =>
      have samePass : result'.passed = result.passed := by rw [head.2]
      have same : turn threats severities' (ledger, summary) result' =
          turn threats (fun _ => none) (ledger, summary) result := by
        cases pass : result.passed with
        | true => exact turn_passed pass (samePass.trans pass)
        | false =>
            rw [turn_unlisted pass]
            apply turn_failed (samePass.trans pass)
            intro critical threat chosen
            exact nothing [] result rest rfl pass _
              (couldCount_of_critical recased head.1 critical) threat chosen
      rw [outcome, List.foldl_cons, same]
      exact ih nothing.tail _

end Ledger

theorem Recased.refl (severities : CheckSeverities) :
    Recased severities severities := by
  intro checkId
  cases severities checkId with
  | none => exact .none
  | some severity => exact .some rfl

theorem Respelled.refl (text : UuidText) (result : CheckResult) :
    Respelled text result result := ⟨rfl, rfl⟩

theorem respelled_refl (text : UuidText) (results : List CheckResult) :
    List.Forall₂ (Respelled text) results results :=
  List.forall₂_same.mpr fun result _ => Respelled.refl text result

/-- Where failures find nothing to open, spelling is irrelevant. -/
theorem irrelevant_of_nothingToOpen {text : UuidText} {agentId : Uuid}
    {results : List CheckResult} {severities : CheckSeverities} {db : Db}
    (nothing : (db.ledger agentId).NothingToOpen text
      (listThreats db) severities results) :
    SpellingIrrelevant text agentId results severities db := by
  intro results' severities' alike envs envs' summary summary' left left'
    evaluated evaluated'
  have here := run_evaluateFrom_outcome evaluated
  have there := run_evaluateFrom_outcome evaluated'
  rw [Ledger.outcome_respelled (respelled_refl text results)
    (Recased.refl severities) nothing] at here
  rw [Ledger.outcome_respelled alike.results alike.severities nothing,
    ← here] at there
  refine ⟨congrArg Prod.snd there, ?_⟩
  funext other
  by_cases own : other = agentId
  · rw [own]
    exact congrArg Prod.fst there
  · rw [(run_evaluateFrom_effect evaluated').others other own,
      (run_evaluateFrom_effect evaluated).others other own]

/-! ## Evaluations that return -/

/-- As many different identifiers that no risk has. -/
def Db.SpareRiskIds (db : Db) (count : Nat) : Prop :=
  Exists fun ids : List Uuid => ids.Nodup ∧ ids.length = count ∧
    forall id, id ∈ ids -> forall row, row ∈ db.risks.rows -> row.id ≠ id

/-- The risks have the identifiers of before, and one more at most. -/
structure OneMoreRisk (id : Uuid) (db db' : Db) : Prop where
  agents : db'.agents = db.agents
  ids : forall row, row ∈ db'.risks.rows -> row.id = id ∨ Exists fun old =>
    old ∈ db.risks.rows ∧ old.id = row.id

theorem OneMoreRisk.refl (id : Uuid) (db : Db) : OneMoreRisk id db db :=
  ⟨rfl, fun row member => Or.inr ⟨row, member, rfl⟩⟩

theorem riskParams_accepted (severity : String) :
    (Exists fun impact =>
      numeric31Opt "risks" (some (severityToRiskParams severity).1) =
        .ok impact) ∧
    Exists fun probability =>
      numeric31Opt "risks" (some (severityToRiskParams severity).2.1) =
        .ok probability := by
  unfold severityToRiskParams
  split
  · exact ⟨⟨some 9, by decide +kernel⟩, ⟨some 8, by decide +kernel⟩⟩
  · exact ⟨⟨some 7, by decide +kernel⟩, ⟨some 7, by decide +kernel⟩⟩
  · exact ⟨⟨some 5, by decide +kernel⟩, ⟨some 5, by decide +kernel⟩⟩

/-- A risk of an existing agent for an existing threat is accepted under a new
identifier. -/
theorem insertRisk_isOk (severity : String) {agentId id : Uuid}
    {threat : ThreatRow} {db : Db} (agent : db.hasAgent agentId = true)
    (listed : threat ∈ db.threats.rows)
    (unused : forall row, row ∈ db.risks.rows -> row.id ≠ id) :
    Exists fun riskId => Exists fun db' =>
      insertRisk (quietly id 0) (riskData agentId threat severity) db =
        .ok (riskId, db') ∧ OneMoreRisk id db db' := by
  rcases riskParams_accepted severity with
    ⟨⟨impact, impactRead⟩, ⟨probability, probabilityRead⟩⟩
  have threatRow : (db.threats.find ThreatRow.id threat.id).isSome = true := by
    rw [(Table.find_eq_some_iff fun _ _ same => Or.inl same).mpr ⟨listed, rfl⟩]
    rfl
  have apart : forall old, old ∈ db.risks.rows -> ¬ RiskRow.Clash old
      { id := id, threatId := threat.id, agentId := agentId
        impact := impact, probability := probability
        riskLevel := some (severityToRiskParams severity).2.2
        status := .«open», createdDate := newYear.nanos, reviewDate := none
        acceptanceDate := none } := unused
  rcases Option.isSome_iff_exists.mp (Table.insert?_isSome_iff.mpr apart) with
    ⟨risks, inserted⟩
  refine ⟨id, { db with risks := risks }, ?_, rfl, ?_⟩
  · simp only [insertRisk, riskData, impactRead, probabilityRead, bind,
      Except.bind, quietly, inserted, constrained, references, threatRow,
        agent, if_true]
    rfl
  · intro row member
    rw [Table.insert?_rows inserted, List.mem_append,
      List.mem_singleton] at member
    rcases member with old | rfl
    · exact Or.inr ⟨row, old, rfl⟩
    · exact Or.inl rfl

theorem may_maybeCreateRisk {agentId id : Uuid} {severity : String} {db : Db}
    (agent : db.hasAgent agentId = true)
    (unused : forall row, row ∈ db.risks.rows -> row.id ≠ id) :
    (maybeCreateRisk agentId severity).May exec
      (fun _ db' => OneMoreRisk id db db') db := by
  have listing : exec (quietly id 0) .listThreats db = .ok (listThreats db, db) :=
    rfl
  refine Program.may_bind (Program.may_attempt _ _ listing ⟨rfl, rfl⟩ :
    (Program.attempt ingesterFault Stmt.listThreats).May exec
      (fun threats db' => threats = listThreats db ∧ db = db') db) ?_
  rintro _ _ ⟨rfl, rfl⟩
  cases chosen : findComplianceThreat (listThreats db) severity with
  | none => exact OneMoreRisk.refl id db
  | some threat =>
      have looking : exec (quietly id 0) (.findOpenRisk agentId threat.id) db =
          .ok (findOpenRisk (quietly id 0) agentId threat.id db, db) := rfl
      refine Program.may_bind (Program.may_attempt _ _ looking rfl :
        (Program.attempt ingesterFault (Stmt.findOpenRisk agentId threat.id)).May
          exec (fun _ db' => db = db') db) ?_
      rintro existing _ rfl
      split
      · exact OneMoreRisk.refl id db
      · have listed := mem_listThreats.mp (findComplianceThreat_some chosen).1
        rcases insertRisk_isOk severity agent listed unused with
          ⟨riskId, db', inserted, effect⟩
        have inserting :
            exec (quietly id 0)
              (.insertRisk (riskData agentId threat severity)) db =
            .ok (riskId, db') := inserted
        exact Program.may_bind (Program.may_attempt _ _ inserting effect)
          fun _ _ more => more

theorem oneMoreRisk_closed (env : Env) (id riskId : Uuid) (db : Db) :
    OneMoreRisk id db (setRiskStatus env riskId .closed db) := by
  refine ⟨rfl, ?_⟩
  intro row member
  rw [setRiskStatus_rows, List.mem_map] at member
  rcases member with ⟨old, oldMember, rfl⟩
  refine Or.inr ⟨old, oldMember, ?_⟩
  split <;> rfl

theorem may_closeFirstOpen (agentId id : Uuid) (threats : List ThreatRow)
    (db : Db) :
    (closeFirstOpen agentId threats).May exec
      (fun _ db' => OneMoreRisk id db db') db := by
  induction threats with
  | nil => exact OneMoreRisk.refl id db
  | cons threat rest ih =>
      unfold closeFirstOpen
      split
      · exact ih
      · have looking : exec (quietly id 0) (.findOpenRisk agentId threat.id) db =
            .ok (findOpenRisk (quietly id 0) agentId threat.id db, db) := rfl
        refine Program.may_bind (Program.may_attempt _ _ looking rfl :
          (Program.attempt ingesterFault
            (Stmt.findOpenRisk agentId threat.id)).May exec
            (fun _ db' => db = db') db) ?_
        rintro found _ rfl
        cases found with
        | none => exact ih
        | some riskId =>
            have marking :
                exec (quietly id 0) (.setRiskStatus riskId .closed) db =
                .ok ((), setRiskStatus (quietly id 0) riskId .closed db) := rfl
            have closed := oneMoreRisk_closed (quietly id 0) id riskId db
            exact Program.may_bind (Program.may_attempt _ _ marking closed)
              fun _ _ more => more

theorem may_handleResult {agentId id : Uuid} (severities : CheckSeverities)
    (result : CheckResult) {db : Db} (agent : db.hasAgent agentId = true)
    (unused : forall row, row ∈ db.risks.rows -> row.id ≠ id) :
    (handleResult agentId severities result).May exec
      (fun _ db' => OneMoreRisk id db db') db := by
  unfold handleResult
  dsimp only
  split
  · exact Program.may_bind (may_maybeCreateRisk agent unused) fun _ _ more => more
  · split
    · refine Program.may_bind ?_ fun _ _ more => more
      have listing :
          exec (quietly id 0) .listThreats db = .ok (listThreats db, db) := rfl
      refine Program.may_bind (Program.may_attempt _ _ listing rfl :
        (Program.attempt ingesterFault Stmt.listThreats).May exec
          (fun _ db' => db = db') db) ?_
      rintro threats _ rfl
      exact may_closeFirstOpen agentId id threats db
    · exact OneMoreRisk.refl id db

/-- With enough identifiers to draw, an evaluation for an existing agent may
return. -/
theorem may_evaluateFrom {agentId : Uuid} (severities : CheckSeverities)
    {results : List CheckResult} {db : Db} (agent : db.hasAgent agentId = true)
    (spare : db.SpareRiskIds results.length) (summary : RiskTriggerSummary) :
    (evaluateFrom agentId severities summary results).May exec
      (fun _ _ => True) db := by
  induction results generalizing summary db with
  | nil => trivial
  | cons result rest ih =>
      rcases spare with ⟨ids, distinct, length, unused⟩
      cases ids with
      | nil => cases length
      | cons id ids =>
          rw [List.forall_mem_cons] at unused
          rw [List.nodup_cons] at distinct
          refine Program.may_bind
            (may_handleResult severities result agent unused.1)
            fun change db' more => ?_
          apply ih
          · rw [Db.hasAgent, more.agents]
            exact agent
          · refine ⟨ids, distinct.2, Nat.succ.inj length, ?_⟩
            intro other member row rowMember same
            rcases more.ids row rowMember with drawn | ⟨old, oldMember, sameId⟩
            · exact distinct.1 (drawn ▸ same ▸ member)
            · exact unused.2 other member old oldMember (sameId.trans same)

theorem exists_run_evaluate {agentId : Uuid} (severities : CheckSeverities)
    {results : List CheckResult} {db : Db} (agent : db.hasAgent agentId = true)
    (spare : db.SpareRiskIds results.length) :
    Exists fun envs => Exists fun summary => Exists fun left =>
      Program.run exec (evaluate agentId results severities) envs db =
        (.ok summary, left) := by
  rcases Program.exists_run_may (quietly 0)
      (may_evaluateFrom severities agent spare {}) with
    ⟨envs, summary, left, ran, _⟩
  exact ⟨envs, summary, left, ran⟩

/-! ## A spelling that opens a risk -/

/-- The severity in capitals. -/
def capitals (severity : String) : String :=
  match severity with
  | "critical" => "CRITICAL"
  | "high" => "HIGH"
  | "medium" => "MEDIUM"
  | "low" => "LOW"
  | other => other

theorem capitals_spec : forall severity, severity ∈ admittedSeverities ->
    capitals severity ∈ admittedSeverities ∧
      SameLetters severity (capitals severity) ∧
      isCritical (capitals severity) = false := by
  decide

theorem critical_admitted : forall severity, severity ∈ criticalSeverities ->
      severity ∈ admittedSeverities := by
  decide

/-- The map with every severity in capitals. -/
def inCapitals (severities : CheckSeverities) : CheckSeverities :=
  fun checkId => (severities checkId).map capitals

/-- The map with every severity in capitals but one. -/
def inCapitalsBut (severities : CheckSeverities)
    (checkId severity : String) : CheckSeverities :=
  fun other => if other = checkId then some severity
    else inCapitals severities other

section Capitals

variable {severities : CheckSeverities}

theorem inCapitals_recased (admitted : Admitted severities) :
    Recased severities (inCapitals severities) ∧
      Admitted (inCapitals severities) := by
  constructor
  · intro checkId
    unfold inCapitals
    cases listed : severities checkId with
    | none => exact .none
    | some severity =>
        exact .some
          (capitals_spec severity (admitted checkId severity listed)).2.1
  · intro checkId severity listed
    rcases Option.map_eq_some_iff.mp listed with ⟨original, entry, rfl⟩
    exact (capitals_spec original (admitted checkId original entry)).1

theorem inCapitals_uncritical (admitted : Admitted severities)
    (checkId : String) :
    isCritical (severityOf (inCapitals severities) checkId) = false := by
  unfold severityOf inCapitals
  cases listed : severities checkId with
  | none => decide
  | some severity =>
      exact (capitals_spec severity (admitted checkId severity listed)).2.2

theorem inCapitalsBut_recased (admitted : Admitted severities)
    {checkId severity entry : String} (critical : severity ∈ criticalSeverities)
    (listed : severities checkId = some entry)
    (sameLetters : SameLetters entry severity) :
    Recased severities (inCapitalsBut severities checkId severity) ∧
      Admitted (inCapitalsBut severities checkId severity) := by
  constructor
  · intro other
    unfold inCapitalsBut
    split
    · next same =>
      rw [same, listed]
      exact .some sameLetters
    · exact (inCapitals_recased admitted).1 other
  · intro other spelled spelledListed
    unfold inCapitalsBut at spelledListed
    split at spelledListed
    · rw [← Option.some.inj spelledListed]
      exact critical_admitted severity critical
    · exact (inCapitals_recased admitted).2 other spelled spelledListed

end Capitals

namespace Ledger

variable {threats : List ThreatRow} {severities : CheckSeverities}

/-- A batch without counting failures creates nothing. -/
theorem outcome_uncritical
    (uncritical : forall checkId,
      isCritical (severityOf severities checkId) = false)
    (results : List CheckResult) (state : Ledger × RiskTriggerSummary) :
    (outcome threats severities results state).2.created = state.2.created := by
  induction results generalizing state with
  | nil => rfl
  | cons result rest ih =>
      have kept :
          (turn threats severities state result).2.created = state.2.created := by
        simp only [turn, change, uncritical, Bool.and_false,
          Bool.false_eq_true, if_false]
        split
        · split <;> rfl
        · rfl
      exact (ih _).trans kept

/-- The number of created risks only grows. -/
theorem created_mono (results : List CheckResult)
    (state : Ledger × RiskTriggerSummary) :
    state.2.created ≤ (outcome threats severities results state).2.created := by
  induction results generalizing state with
  | nil => exact Nat.le_refl _
  | cons result rest ih =>
      have grown :
          state.2.created ≤ (turn threats severities state result).2.created := by
        rw [turn]
        cases state.1.change threats severities result with
        | created => exact Nat.le_succ _
        | closed => exact Nat.le_refl _
        | none => exact Nat.le_refl _
      exact grown.trans (ih _)

/-- A counting failure that finds its threat without an open risk creates one. -/
theorem turn_created {state : Ledger × RiskTriggerSummary} {result : CheckResult}
    {threat : ThreatRow} (failed : result.passed = false)
    (critical : isCritical (severityOf severities result.checkId) = true)
    (chosen :
      findComplianceThreat threats (severityOf severities result.checkId) =
        some threat)
    (unraised : state.1 threat.id .«open» = 0) :
    0 < (turn threats severities state result).2.created := by
  simp only [turn, change, failed, critical, chosen, unraised, Bool.not_false,
    Bool.true_and, if_true]
  exact Nat.succ_pos _

end Ledger

/-- Where spelling is irrelevant, failures find nothing to open: the first one
that does would open a risk in a spelling in which it alone counts, and none in
capitals. -/
theorem nothingToOpen_of_irrelevant {text : UuidText} {agentId : Uuid}
    {results : List CheckResult} {severities : CheckSeverities} {db : Db}
    (admitted : Admitted severities) (agent : db.hasAgent agentId = true)
    (spare : db.SpareRiskIds results.length)
    (irrelevant : SpellingIrrelevant text agentId results severities db) :
    (db.ledger agentId).NothingToOpen text
      (listThreats db) severities results := by
  intro before
  induction hlen :
      before.length using Nat.strong_induction_on generalizing before with
  | _ length shorter =>
  rintro result after rfl failed severity
    ⟨critical, checkId, sameCheck, entry, listed, sameLetters⟩ threat chosen
  by_contra closed
  have unraised := Nat.eq_zero_of_not_pos closed
  -- In this spelling the check of the result alone counts.
  have spelled := inCapitalsBut_recased admitted critical listed sameLetters
  have spelledAlike : SpelledAlike text (before ++ result :: after)
    (before ++ { result with checkId := checkId } :: after)
      severities (inCapitalsBut severities checkId severity) := by
    refine ⟨?_, spelled.1, spelled.2⟩
    exact List.rel_append (respelled_refl text before)
      (.cons ⟨sameCheck, rfl⟩ (respelled_refl text after))
  have capitalsAlike :
      SpelledAlike text (before ++ result :: after)
        (before ++ result :: after) severities
      (inCapitals severities) :=
    ⟨respelled_refl text _, (inCapitals_recased admitted).1,
      (inCapitals_recased admitted).2⟩
  have sameLength :
      (before ++ { result with checkId := checkId } :: after).length =
    (before ++ result :: after).length := by
    rw [List.length_append, List.length_append, List.length_cons,
      List.length_cons]
  rcases exists_run_evaluate severities agent spare with
    ⟨envs, summary, left, evaluated⟩
  rcases exists_run_evaluate (inCapitals severities) agent spare with
    ⟨envs₁, summary₁, left₁, evaluated₁⟩
  rcases exists_run_evaluate (inCapitalsBut severities checkId severity) agent
      (sameLength ▸ spare) with
    ⟨envs₂, summary₂, left₂, evaluated₂⟩
  have same₁ := (irrelevant _ _ capitalsAlike evaluated evaluated₁).1
  have same₂ := (irrelevant _ _ spelledAlike evaluated evaluated₂).1
  have none_created : summary₁.created = 0 := by
    have outcome : summary₁ = _ :=
      congrArg Prod.snd (run_evaluateFrom_outcome evaluated₁)
    rw [outcome]
    exact Ledger.outcome_uncritical (inCapitals_uncritical admitted) _ _
  have quiet :
      (db.ledger agentId).NothingToOpen text
        (listThreats db) severities before := by
    intro earlier failing later split
    subst split
    refine shorter earlier.length ?_ earlier rfl failing
      (later ++ result :: after) ?_
    · rw [← hlen, List.length_append, List.length_cons]
      omega
    · rw [List.append_assoc, List.cons_append]
  have one_created : 0 < summary₂.created := by
    have outcome : summary₂ = _ :=
      congrArg Prod.snd (run_evaluateFrom_outcome evaluated₂)
    have counts : severityOf (inCapitalsBut severities checkId severity) checkId =
        severity := by
      rw [severityOf, inCapitalsBut, if_pos rfl]
      rfl
    have reached :
        (Ledger.outcome (listThreats db)
          (inCapitalsBut severities checkId severity) before
          (db.ledger agentId, {})).1 =
            before.foldl (Ledger.handle (listThreats db) fun _ => none)
          (db.ledger agentId) := by
      rw [Ledger.outcome_respelled (respelled_refl text before) spelled.1 quiet,
        Ledger.outcome_fst]
    rw [outcome, Ledger.outcome, List.foldl_append, List.foldl_cons]
    refine Nat.lt_of_lt_of_le ?_ (Ledger.created_mono after _)
    have spelledFailed :
        ({ result with checkId := checkId } : CheckResult).passed = false :=
          failed
    apply Ledger.turn_created spelledFailed
    · rw [counts]
      exact decide_eq_true critical
    · rw [counts]
      exact chosen
    · exact (congrFun (congrFun reached threat.id) .«open»).trans unraised
  rw [same₂, ← same₁, none_created] at one_created
  exact Nat.lt_irrefl 0 one_created

/-- For an existing agent, with identifiers left to draw, spelling is irrelevant
exactly if no failure, under a severity that may count for it, finds its threat
without an open risk after the passes before it. -/
theorem spelling_irrelevant_iff (text : UuidText) (agentId : Uuid)
    (results : List CheckResult) (severities : CheckSeverities) (db : Db)
    (admitted : Admitted severities) (agent : db.hasAgent agentId = true)
    (spare : db.SpareRiskIds results.length) :
    SpellingIrrelevant text agentId results severities db <->
      (db.ledger agentId).NothingToOpen text
        (listThreats db) severities results :=
  ⟨nothingToOpen_of_irrelevant admitted agent spare, irrelevant_of_nothingToOpen⟩

/-! ## One failure, spelled twice -/

theorem twoSeverities_admitted : Admitted twoSeverities := by
  intro checkId severity listed
  unfold twoSeverities at listed
  split at listed
  · rw [← Option.some.inj listed]
    decide
  · split at listed
    · rw [← Option.some.inj listed]
      decide
    · cases listed

/-- The agent has an open risk for the threat already. -/
def coveredDb : Db :=
  { threatenedDb with
    risks :=
      ⟨[⟨41, 31, 7, some 5, some 5, some .medium, .«open», newYear.nanos, none,
        none⟩], by decide⟩ }

/-- There the spelling of a failure makes no difference. -/
theorem covered_failure_irrelevant : SpellingIrrelevant UuidText.crate 7
    [failedCritical] twoSeverities coveredDb := by
  have spare : coveredDb.SpareRiskIds 1 := by
    refine ⟨[51], List.nodup_singleton 51, rfl, ?_⟩
    intro id drawn
    rw [List.mem_singleton.mp drawn]
    decide
  refine (spelling_irrelevant_iff UuidText.crate 7 [failedCritical] twoSeverities
    coveredDb twoSeverities_admitted
    (by decide) spare).mpr ?_
  intro before result after split failed severity could threat chosen
  cases before with
  | cons head rest =>
      cases rest <;> cases split
  | nil =>
      have only : findComplianceThreat (listThreats coveredDb) severity =
          some ⟨31, "Configuration drift", none, some "Compliance", some (19 / 2),
            newYear.nanos⟩ := by
        rcases List.mem_cons.mp could.1 with rfl | high
        · decide +kernel
        · rw [List.mem_singleton.mp high]
          decide +kernel
      cases chosen.symm.trans only
      decide

/-- The same failure, its check in upper case. -/
def failedRespelled : CheckResult :=
    { failedCritical with checkId := "1B4E28BA-2FA1-11D2-883F-0016D3CCA427" }

/-- Spelled so it opens no risk. -/
theorem upper_case_hides_failure :
    SpelledAlike UuidText.crate [failedCritical] [failedRespelled] twoSeverities
      twoSeverities ∧
    (Program.run exec (evaluate 7 [failedCritical] twoSeverities) countingEnvs
      threatenedDb).1 = .ok ⟨1, 0⟩ ∧
    (Program.run exec (evaluate 7 [failedRespelled] twoSeverities) countingEnvs
      threatenedDb).1 = .ok ⟨0, 0⟩ ∧
    ¬ SpellingIrrelevant UuidText.crate 7 [failedCritical] twoSeverities
      threatenedDb := by
  have alike :
      SpelledAlike UuidText.crate [failedCritical] [failedRespelled] twoSeverities
        twoSeverities := by
    refine ⟨.cons ⟨?_, rfl⟩ .nil, Recased.refl twoSeverities,
      twoSeverities_admitted⟩
    decide +kernel
  have counted :
      (Program.run exec (evaluate 7 [failedCritical] twoSeverities) countingEnvs
        threatenedDb).1 =
      .ok ⟨1, 0⟩ := by
    decide +kernel
  have hidden :
      (Program.run exec (evaluate 7 [failedRespelled] twoSeverities) countingEnvs
        threatenedDb).1 =
      .ok ⟨0, 0⟩ := by
    decide +kernel
  refine ⟨alike, counted, hidden, ?_⟩
  intro irrelevant
  have same :=
    (irrelevant _ _ alike (Prod.ext counted rfl) (Prod.ext hidden rfl)).1
  cases congrArg RiskTriggerSummary.created same

end Complyx
