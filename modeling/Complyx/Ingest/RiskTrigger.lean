import Complyx.Ingest.Validator

namespace Complyx

open Transition

/-!
# The risk trigger

A failed result of a critical check opens a risk, unless the agent has an open
one for the same threat; a passed result of any check closes one.  The risk
records the threat and not the check, and looking for an open risk and
inserting one are two statements.
-/

/-! ## Severities and threats -/

def criticalSeverities : List String := ["critical", "high"]

/-- `is_critical`. -/
def isCritical (severity : String) : Bool := severity ∈ criticalSeverities

/-- `is_compliance_threat`.  Lower-casing the ASCII letters alone decides the
search: no other character has the letters of the word as its lower case. -/
def isComplianceThreat (threat : ThreatRow) : Bool :=
  (threat.category.map fun category =>
    decide ("compliance".toList <:+: category.toList.map Char.toLower)).getD false

/-- `severity_score_matches`. -/
def severityScoreMatches (score : Rat) (severity : String) : Bool :=
  match severity with
  | "critical" => score ≥ 9
  | "high" => score ≥ 7 && score < 9
  | "medium" => score ≥ 4 && score < 7
  | _ => score < 4

/-- `find_compliance_threat`: a compliance threat of the severity, or else the
first compliance threat. -/
def findComplianceThreat (threats : List ThreatRow)
    (severity : String) : Option ThreatRow :=
  ((threats.filter isComplianceThreat).find? fun threat =>
    (threat.severityScore.map fun score =>
      severityScoreMatches score severity).getD false).or
      (threats.find? isComplianceThreat)

theorem findComplianceThreat_some {threats : List ThreatRow} {severity : String}
    {threat : ThreatRow}
    (found : findComplianceThreat threats severity = some threat) :
    threat ∈ threats ∧ isComplianceThreat threat = true := by
  rcases Option.or_eq_some_iff.mp found with preferred | ⟨_, first⟩
  · exact List.mem_filter.mp (List.mem_of_find?_eq_some preferred)
  · exact ⟨List.mem_of_find?_eq_some first, List.find?_some first⟩

/-- Some compliance threat is found wherever there is one. -/
theorem findComplianceThreat_isSome {threats : List ThreatRow} (severity : String)
    {threat : ThreatRow} (member : threat ∈ threats)
    (compliance : isComplianceThreat threat = true) :
    Exists fun found => findComplianceThreat threats severity = some found := by
  rw [← Option.isSome_iff_exists, findComplianceThreat, Option.isSome_or,
    Bool.or_eq_true]
  right
  rw [List.find?_isSome]
  exact ⟨threat, member, compliance⟩

/-- `severity_to_risk_params`: impact, probability and level. -/
def severityToRiskParams (severity : String) : Rat × Rat × RiskLevel :=
  match severity with
  | "critical" => (9, 8, .critical)
  | "high" => (7, 7, .high)
  | _ => (5, 5, .medium)

/-! ## Opening and closing -/

/-- The row of a risk opened for a severity. -/
def riskData (agentId : Uuid) (threat : ThreatRow)
    (severity : String) : InsertRiskData where
  threatId := threat.id
  agentId := agentId
  impact := some (severityToRiskParams severity).1
  probability := some (severityToRiskParams severity).2.1
  riskLevel := some (severityToRiskParams severity).2.2

/-- `maybe_create_risk`. -/
def maybeCreateRisk (agentId : Uuid) (severity : String) :
    Code (Fault IngesterError) Bool := do
  let threats <- Program.attempt ingesterFault Stmt.listThreats
  match findComplianceThreat threats severity with
  | none => return false
  | some threat =>
      let existing <- Program.attempt ingesterFault
        (Stmt.findOpenRisk agentId threat.id)
      if existing.isSome then return false
      else
        let _ <- Program.attempt ingesterFault
          (Stmt.insertRisk (riskData agentId threat severity))
        return true

/-- The loop of `maybe_close_risk` over the threats. -/
def closeFirstOpen (agentId : Uuid) :
    List ThreatRow -> Code (Fault IngesterError) Bool
  | [] => return false
  | threat :: rest =>
      if !isComplianceThreat threat then closeFirstOpen agentId rest
      else do
        let found <- Program.attempt ingesterFault
          (Stmt.findOpenRisk agentId threat.id)
        match found with
        | none => closeFirstOpen agentId rest
        | some riskId =>
            let _ <- Program.attempt ingesterFault
              (Stmt.setRiskStatus riskId .closed)
            return true

/-- `maybe_close_risk`. -/
def maybeCloseRisk (agentId : Uuid) : Code (Fault IngesterError) Bool := do
  let threats <- Program.attempt ingesterFault Stmt.listThreats
  closeFirstOpen agentId threats

structure RiskTriggerSummary where
  created : Nat := 0
  closed : Nat := 0
  deriving DecidableEq

/-- A map from check identifiers to severities. -/
abbrev CheckSeverities := String -> Option String

def severityOf (severities : CheckSeverities) (checkId : String) : String :=
  (severities checkId).getD "low"

/-- What one result changed. -/
inductive RiskChange where
  | created
  | closed
  | none
  deriving DecidableEq

def RiskTriggerSummary.record (summary : RiskTriggerSummary) :
    RiskChange -> RiskTriggerSummary
  | .created => { summary with created := summary.created + 1 }
  | .closed => { summary with closed := summary.closed + 1 }
  | .none => summary

/-- One turn of the loop of `evaluate`. -/
def handleResult (agentId : Uuid) (severities : CheckSeverities)
    (result : CheckResult) : Code (Fault IngesterError) RiskChange :=
  let severity := severityOf severities result.checkId
  if !result.passed && isCritical severity then do
    let made <- maybeCreateRisk agentId severity
    return if made then .created else .none
  else if result.passed then do
    let did <- maybeCloseRisk agentId
    return if did then .closed else .none
  else return .none

/-- The loop of `evaluate`. -/
def evaluateFrom (agentId : Uuid) (severities : CheckSeverities) :
    RiskTriggerSummary -> List CheckResult ->
      Code (Fault IngesterError) RiskTriggerSummary
  | summary, [] => return summary
  | summary, result :: rest => do
      let change <- handleResult agentId severities result
      evaluateFrom agentId severities (summary.record change) rest

/-- `RiskTrigger::evaluate`. -/
def evaluate (agentId : Uuid) (results : List CheckResult)
    (severities : CheckSeverities) :
    Code (Fault IngesterError) RiskTriggerSummary :=
  evaluateFrom agentId severities {} results

/-! ## Which statements the trigger issues -/

/-- The trigger reads threats and open risks, inserts risks and closes them. -/
inductive TriggerStmt : Stmt -> Prop where
  | listThreats : TriggerStmt .listThreats
  | findOpenRisk (agentId threatId : Uuid) :
      TriggerStmt (.findOpenRisk agentId threatId)
  | insertRisk (data : InsertRiskData) : TriggerStmt (.insertRisk data)
  | close (riskId : Uuid) : TriggerStmt (.setRiskStatus riskId .closed)

theorem maybeCreateRisk_issues (agentId : Uuid) (severity : String) :
    (maybeCreateRisk agentId severity).Issues TriggerStmt := by
  apply Program.issues_bind (Program.issues_attempt _ TriggerStmt.listThreats)
  intro threats
  split
  · trivial
  · next threat _ =>
    apply Program.issues_bind
      (Program.issues_attempt _ (TriggerStmt.findOpenRisk agentId threat.id))
    intro existing
    split
    · trivial
    · apply Program.issues_bind
        (Program.issues_attempt _ (TriggerStmt.insertRisk _))
      intro riskId
      trivial

theorem closeFirstOpen_issues (agentId : Uuid) (threats : List ThreatRow) :
    (closeFirstOpen agentId threats).Issues TriggerStmt := by
  induction threats with
  | nil => trivial
  | cons threat rest ih =>
      unfold closeFirstOpen
      split
      · exact ih
      · apply Program.issues_bind
          (Program.issues_attempt _ (TriggerStmt.findOpenRisk agentId threat.id))
        intro found
        cases found with
        | none => exact ih
        | some riskId =>
            apply Program.issues_bind
              (Program.issues_attempt _ (TriggerStmt.close riskId))
            intro nothing
            trivial

theorem handleResult_issues (agentId : Uuid) (severities : CheckSeverities)
    (result : CheckResult) :
    (handleResult agentId severities result).Issues TriggerStmt := by
  unfold handleResult
  dsimp only
  split
  · exact Program.issues_bind (maybeCreateRisk_issues agentId _)
      fun made => trivial
  · split
    · refine Program.issues_bind ?_ fun did => trivial
      apply Program.issues_bind (Program.issues_attempt _ TriggerStmt.listThreats)
      exact closeFirstOpen_issues agentId
    · trivial

theorem evaluateFrom_issues (agentId : Uuid) (severities : CheckSeverities)
    (summary : RiskTriggerSummary) (results : List CheckResult) :
    (evaluateFrom agentId severities summary results).Issues TriggerStmt := by
  induction results generalizing summary with
  | nil => trivial
  | cons result rest ih =>
      exact Program.issues_bind (handleResult_issues agentId severities result)
        fun change => ih _

/-! ## What the trigger does alone -/

/-- The threat is one that risks of the trigger can be for. -/
def ComplianceThreat (db : Db) (threat : ThreatRow) : Prop :=
  threat ∈ db.threats.rows ∧ isComplianceThreat threat = true

/-- The agent has an open risk for the threat. -/
def Db.hasOpenRisk (db : Db) (agentId threatId : Uuid) : Bool :=
  db.risks.rows.any (RiskRow.isOpenFor agentId threatId)

theorem Db.hasOpenRisk_iff {db : Db} {agentId threatId : Uuid} :
    db.hasOpenRisk agentId threatId = true <->
      Exists fun row => row ∈ db.risks.rows ∧
        row.isOpenFor agentId threatId = true :=
  List.any_eq_true

theorem Db.hasOpenRisk_false_iff {db : Db} {agentId threatId : Uuid} :
    db.hasOpenRisk agentId threatId = false <->
      forall row, row ∈ db.risks.rows ->
        row.isOpenFor agentId threatId ≠ true := by
  simp only [hasOpenRisk, List.any_eq_false]

/-- How an attempt to open a risk ends, and on which threat. -/
inductive Raising (agentId : Uuid) (severity : String) (db : Db) :
    Except (Fault IngesterError) Bool × Db -> Prop where
  | failed (failure : Fault IngesterError) :
      Raising agentId severity db (.error failure, db)
  | noThreat (absent : findComplianceThreat (listThreats db) severity = none) :
      Raising agentId severity db (.ok false, db)
  | present (threat : ThreatRow)
      (chosen : findComplianceThreat (listThreats db) severity = some threat)
      (raised : db.hasOpenRisk agentId threat.id = true) :
      Raising agentId severity db (.ok false, db)
  | inserted (threat : ThreatRow)
      (chosen : findComplianceThreat (listThreats db) severity = some threat)
      (unraised : db.hasOpenRisk agentId threat.id = false)
      (riskId : Uuid) (db' : Db)
      (effect : RiskInserted db db' agentId threat.id riskId) :
      Raising agentId severity db (.ok true, db')

theorem run_maybeCreateRisk_raising (agentId : Uuid) (severity : String)
    (envs : Nat -> Env) (db : Db) :
    Raising agentId severity db
      (Program.run exec (maybeCreateRisk agentId severity) envs db) := by
  rw [maybeCreateRisk, Program.run_attempt_bind]
  cases listed : exec (envs 0) .listThreats db with
  | error failure => exact Raising.failed _
  | ok pair =>
  rcases pair with ⟨threats, db'⟩
  rcases reading_same (exec_ok listed).2 with ⟨sameDb, answered⟩
  have sameThreats := Except.ok.inj answered
  subst db' threats
  simp only
  cases found : findComplianceThreat (listThreats db) severity with
  | none => exact Raising.noThreat found
  | some threat =>
  simp only [Program.run_attempt_bind]
  cases looked : exec (envs (0 + 1)) (.findOpenRisk agentId threat.id) db with
  | error failure => exact Raising.failed _
  | ok pair =>
  rcases pair with ⟨existing, db'⟩
  rcases reading_same (exec_ok looked).2 with ⟨sameDb, answered⟩
  have sameExisting := Except.ok.inj answered
  subst db' existing
  simp only
  split
  · next isSome =>
    rcases Option.isSome_iff_exists.mp isSome with ⟨riskId, present⟩
    rcases findOpenRisk_some present with ⟨row, member, isOpen, _⟩
    exact Raising.present threat found
      (Db.hasOpenRisk_iff.mpr ⟨row, member, isOpen⟩)
  · next isNone =>
    rw [Option.not_isSome_iff_eq_none, findOpenRisk_none_iff] at isNone
    rw [Program.run_attempt_bind]
    cases inserted :
        exec (envs (0 + 1 + 1))
          (.insertRisk (riskData agentId threat severity)) db with
    | error failure => exact Raising.failed _
    | ok pair =>
        rcases pair with ⟨riskId, db'⟩
        exact Raising.inserted threat found
          (Db.hasOpenRisk_false_iff.mpr isNone) riskId db'
          (insertRisk_inserted (exec_ok inserted).2)

/-- How an attempt to open a risk ends. -/
inductive Opening (agentId : Uuid) (severity : String) (db : Db) :
    Except (Fault IngesterError) Bool × Db -> Prop where
  | failed (failure : Fault IngesterError) :
      Opening agentId severity db (.error failure, db)
  | noThreat (absent : findComplianceThreat (listThreats db) severity = none) :
      Opening agentId severity db (.ok false, db)
  | present (threat : ThreatRow) (row : RiskRow)
      (compliance : ComplianceThreat db threat)
      (member : row ∈ db.risks.rows)
      (isOpen : row.isOpenFor agentId threat.id = true) :
      Opening agentId severity db (.ok false, db)
  | inserted (threat : ThreatRow) (riskId : Uuid) (db' : Db)
      (compliance : ComplianceThreat db threat)
      (effect : RiskInserted db db' agentId threat.id riskId) :
      Opening agentId severity db (.ok true, db')

theorem run_maybeCreateRisk (agentId : Uuid) (severity : String)
    (envs : Nat -> Env) (db : Db) :
    Opening agentId severity db
      (Program.run exec (maybeCreateRisk agentId severity) envs db) := by
  have raising := run_maybeCreateRisk_raising agentId severity envs db
  generalize Program.run exec (maybeCreateRisk agentId severity) envs db =
    outcome at raising ⊢
  have compliant :
      forall {threat}, findComplianceThreat (listThreats db) severity =
        some threat ->
      ComplianceThreat db threat := by
    intro threat chosen
    exact ⟨mem_listThreats.mp (findComplianceThreat_some chosen).1,
      (findComplianceThreat_some chosen).2⟩
  cases raising with
  | failed failure => exact Opening.failed failure
  | noThreat absent => exact Opening.noThreat absent
  | present threat chosen raised =>
      rcases Db.hasOpenRisk_iff.mp raised with ⟨row, member, isOpen⟩
      exact Opening.present threat row (compliant chosen) member isOpen
  | inserted threat chosen unraised riskId db' effect =>
      exact Opening.inserted threat riskId db' (compliant chosen) effect

/-- A threat the trigger would close a risk of. -/
def closable (agentId : Uuid) (db : Db) (threat : ThreatRow) : Bool :=
  isComplianceThreat threat && db.hasOpenRisk agentId threat.id

/-- How an attempt to close a risk of the given threats ends, and on which of
them. -/
inductive Settling (agentId : Uuid) (threats : List ThreatRow) (db : Db) :
    Except (Fault IngesterError) Bool × Db -> Prop where
  | failed (failure : Fault IngesterError) :
      Settling agentId threats db (.error failure, db)
  | nothing (absent : threats.find? (closable agentId db) = none) :
      Settling agentId threats db (.ok false, db)
  | closed (env : Env) (threat : ThreatRow) (row : RiskRow)
      (first : threats.find? (closable agentId db) = some threat)
      (member : row ∈ db.risks.rows)
      (isOpen : row.isOpenFor agentId threat.id = true) :
      Settling agentId threats db (.ok true, setRiskStatus env row.id .closed db)

theorem Settling.skip {agentId : Uuid} {threat : ThreatRow}
    {threats : List ThreatRow} {db : Db}
    {outcome : Except (Fault IngesterError) Bool × Db}
    (ended : Settling agentId threats db outcome)
    (skipped : closable agentId db threat = false) :
    Settling agentId (threat :: threats) db outcome := by
  have sameSearch :
      (threat :: threats).find? (closable agentId db) =
        threats.find? (closable agentId db) := by
    rw [List.find?_cons, skipped]
  cases ended with
  | failed failure => exact Settling.failed failure
  | nothing absent => exact Settling.nothing (sameSearch.trans absent)
  | closed env other row first member isOpen =>
      exact Settling.closed env other row (sameSearch.trans first) member isOpen

theorem run_closeFirstOpen_settling (agentId : Uuid) (threats : List ThreatRow)
    (envs : Nat -> Env) (db : Db) :
    Settling agentId threats db
      (Program.run exec (closeFirstOpen agentId threats) envs db) := by
  induction threats generalizing envs with
  | nil => exact Settling.nothing rfl
  | cons threat rest ih =>
      unfold closeFirstOpen
      split
      · next other =>
        apply (ih envs).skip
        rw [Bool.not_eq_true'] at other
        rw [closable, other, Bool.false_and]
      · next kind =>
        have compliance : isComplianceThreat threat = true := by
          rw [Bool.not_eq_true', Bool.not_eq_false] at kind
          exact kind
        rw [Program.run_attempt_bind]
        cases looked : exec (envs 0) (.findOpenRisk agentId threat.id) db with
        | error failure => exact Settling.failed _
        | ok pair =>
        rcases pair with ⟨found, db'⟩
        rcases reading_same (exec_ok looked).2 with ⟨sameDb, answered⟩
        have sameFound := Except.ok.inj answered
        subst db'
        cases found with
        | none =>
            apply (ih _).skip
            rw [closable,
              Db.hasOpenRisk_false_iff.mpr (findOpenRisk_none_iff.mp sameFound),
              Bool.and_false]
        | some riskId =>
        rcases findOpenRisk_some sameFound with ⟨row, member, isOpen, sameId⟩
        have first :
            (threat :: rest).find? (closable agentId db) = some threat := by
          rw [List.find?_cons, closable, compliance,
            Db.hasOpenRisk_iff.mpr ⟨row, member, isOpen⟩]
          rfl
        simp only [Program.run_attempt_bind]
        cases marked : exec (envs (0 + 1)) (.setRiskStatus riskId .closed) db with
        | error failure => exact Settling.failed _
        | ok pair =>
        rcases pair with ⟨nothing, db'⟩
        have sameDb := congrArg Prod.snd (Except.ok.inj (exec_ok marked).2)
        simp only at sameDb
        rw [← sameDb, ← sameId]
        exact Settling.closed (envs (0 + 1)) threat row first member isOpen

theorem run_maybeCloseRisk_settling (agentId : Uuid)
    (envs : Nat -> Env) (db : Db) :
    Settling agentId (listThreats db) db
      (Program.run exec (maybeCloseRisk agentId) envs db) := by
  rw [maybeCloseRisk, Program.run_attempt_bind]
  cases listed : exec (envs 0) .listThreats db with
  | error failure => exact Settling.failed _
  | ok pair =>
      rcases pair with ⟨threats, db'⟩
      rcases reading_same (exec_ok listed).2 with ⟨sameDb, answered⟩
      have sameThreats := Except.ok.inj answered
      subst db' threats
      exact run_closeFirstOpen_settling agentId _ _ db

/-- How an attempt to close a risk of the given threats ends. -/
inductive Closing (agentId : Uuid) (threats : List ThreatRow) (db : Db) :
    Except (Fault IngesterError) Bool × Db -> Prop where
  | failed (failure : Fault IngesterError) :
      Closing agentId threats db (.error failure, db)
  | nothing (none : forall threat, threat ∈ threats ->
      isComplianceThreat threat = true ->
      forall row, row ∈ db.risks.rows -> row.isOpenFor agentId threat.id ≠ true) :
      Closing agentId threats db (.ok false, db)
  | closed (env : Env) (threat : ThreatRow) (row : RiskRow)
      (listed : threat ∈ threats)
      (compliance : isComplianceThreat threat = true)
      (member : row ∈ db.risks.rows)
      (isOpen : row.isOpenFor agentId threat.id = true) :
      Closing agentId threats db (.ok true, setRiskStatus env row.id .closed db)

theorem run_maybeCloseRisk (agentId : Uuid) (envs : Nat -> Env) (db : Db) :
    Closing agentId (listThreats db) db
      (Program.run exec (maybeCloseRisk agentId) envs db) := by
  have settling := run_maybeCloseRisk_settling agentId envs db
  generalize Program.run exec (maybeCloseRisk agentId) envs db =
    outcome at settling ⊢
  cases settling with
  | failed failure => exact Closing.failed failure
  | nothing absent =>
      refine Closing.nothing ?_
      intro threat listed compliance
      have other := List.find?_eq_none.mp absent threat listed
      rw [closable, compliance, Bool.true_and, Bool.not_eq_true] at other
      exact Db.hasOpenRisk_false_iff.mp other
  | closed env threat row first member isOpen =>
      have kind := List.find?_some first
      rw [closable, Bool.and_eq_true] at kind
      exact Closing.closed env threat row (List.mem_of_find?_eq_some first) kind.1
        member isOpen

end Complyx
