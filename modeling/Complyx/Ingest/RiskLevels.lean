import Complyx.Ingest.LingeringRisk

namespace Complyx

open Transition Relational

/-!
# Is a failure recorded at its level?

A failed critical check is meant to leave an open risk of its level.  Its threat
is chosen by severity and may be the choice of other severities too, and an open
risk on it, of whatever level, keeps the trigger from opening another.  So only
the first failure that chooses a threat without an open risk decides the level,
and every later one relies on what is there.
-/

/-- Low below medium below high below critical. -/
def RiskLevel.rank : RiskLevel -> Nat
  | .low => 0
  | .medium => 1
  | .high => 2
  | .critical => 3

/-- The risk is at least of the level. -/
def RiskRow.reaches (level : RiskLevel) (row : RiskRow) : Bool :=
  row.riskLevel.any fun itsLevel => decide (level.rank ≤ itsLevel.rank)

/-- The agent has an open risk of at least the level on a compliance threat. -/
def Db.HasRiskOf (db : Db) (agentId : Uuid) (level : RiskLevel) : Prop :=
  Exists fun threat => ComplianceThreat db threat ∧ Exists fun row =>
    row ∈ db.risks.rows ∧
    row.isOpenFor agentId threat.id = true ∧ row.reaches level = true

/-- The levels of the severities that are recorded. -/
def recordedLevels : List (String × RiskLevel) :=
    [("critical", .critical), ("high", .high)]

/-- Every severity that failed in the batch is recorded at its level. -/
def RecordsFailures (agentId : Uuid) (severities : CheckSeverities)
    (results : List CheckResult) (db' : Db) : Prop :=
  forall severity level, (severity, level) ∈ recordedLevels ->
    (Exists fun result => result ∈ results ∧
      severityOf severities result.checkId = severity) ->
      db'.HasRiskOf agentId level

/-- The result is a failed critical check, and the threat is the one it is for. -/
structure Chooses (threats : List ThreatRow) (severities : CheckSeverities)
    (result : CheckResult) (threat : ThreatRow) : Prop where
  failed : result.passed = false
  critical : isCritical (severityOf severities result.checkId) = true
  threat :
    findComplianceThreat threats (severityOf severities result.checkId) =
      some threat

/-- Some result of the batch that has at least the level is the first to choose
its threat, which has no open risk of the agent. -/
def OpensRiskOf (agentId : Uuid) (severities : CheckSeverities)
    (results : List CheckResult) (db : Db) (level : RiskLevel) : Prop :=
  Exists fun before => Exists fun result => Exists fun after =>
    Exists fun threat =>
    results = before ++ result :: after ∧
      Chooses (listThreats db) severities result threat ∧
    db.hasOpenRisk agentId threat.id = false ∧
    (forall earlier, earlier ∈ before -> forall other,
      Chooses (listThreats db) severities earlier other ->
      other.id ≠ threat.id) ∧
    level.rank ≤
      (severityToRiskParams (severityOf severities result.checkId)).2.2.rank

/-! ## One failure -/

theorem insertRisk_level {env : Env} {data : InsertRiskData} {db db' : Db}
    {riskId : Uuid} (accepted : insertRisk env data db = .ok (riskId, db')) :
    Exists fun row => db'.risks.rows = db.risks.rows ++ [row] ∧
      row.riskLevel = data.riskLevel := by
  rcases insertRisk_ok accepted with ⟨row, inserted, _, _, _, level⟩
  exact ⟨row, Table.insert?_rows inserted, level⟩

/-- What a failure that is handled does. -/
inductive FailureEffect (agentId : Uuid) (severities : CheckSeverities)
    (result : CheckResult) (db : Db) : Db -> Prop where
  | idle
      (raised : forall threat,
        Chooses (listThreats db) severities result threat ->
        db.hasOpenRisk agentId threat.id = true) :
          FailureEffect agentId severities result db db
  | opened (threat : ThreatRow) (row : RiskRow) (db' : Db)
      (chosen : Chooses (listThreats db) severities result threat)
      (unraised : db.hasOpenRisk agentId threat.id = false)
      (frame : db' = { db with risks := db'.risks })
      (rows : db'.risks.rows = db.risks.rows ++ [row])
      (isOpen : row.isOpenFor agentId threat.id = true)
      (level : row.riskLevel =
        some (severityToRiskParams (severityOf severities result.checkId)).2.2) :
      FailureEffect agentId severities result db db'

/-- A risk that was made was inserted for the chosen threat. -/
theorem run_maybeCreateRisk_made {agentId : Uuid} {severity : String}
    {envs : Nat -> Env} {db db' : Db}
    (made : Program.run exec (maybeCreateRisk agentId severity) envs db =
      (.ok true, db')) :
    Exists fun env => Exists fun threat => Exists fun riskId =>
      findComplianceThreat (listThreats db) severity = some threat ∧
      insertRisk env (riskData agentId threat severity) db =
        .ok (riskId, db') := by
  rw [maybeCreateRisk, Program.run_attempt_bind] at made
  split at made
  swap
  · cases congrArg Prod.fst made
  next threats left listed =>
  rcases reading_same (exec_ok listed).2 with ⟨rfl, answered⟩
  cases answered
  split at made
  · cases congrArg Prod.fst made
  next threat chosen =>
  rw [Program.run_attempt_bind] at made
  split at made
  swap
  · cases congrArg Prod.fst made
  next existing left looked =>
  rcases reading_same (exec_ok looked).2 with ⟨rfl, answered⟩
  split at made
  · cases congrArg Prod.fst made
  rw [Program.run_attempt_bind] at made
  split at made
  swap
  · cases congrArg Prod.fst made
  next riskId left inserted =>
  have sameDb : left = db' := congrArg Prod.snd made
  subst sameDb
  exact ⟨_, threat, riskId, chosen, (exec_ok inserted).2⟩

theorem run_failure_effect {agentId : Uuid} {severities : CheckSeverities}
    {result : CheckResult} {envs : Nat -> Env} {db db' : Db} {change : RiskChange}
    (failed : result.passed = false)
    (handled : Program.run exec (handleResult agentId severities result) envs db =
      (.ok change, db')) :
    FailureEffect agentId severities result db db' := by
  unfold handleResult at handled
  dsimp only at handled
  rw [failed, Bool.not_false, Bool.true_and] at handled
  split at handled
  · next critical =>
    rcases Program.run_bind_eq_ok handled with ⟨made, middle, attempted, ended⟩
    have sameDb : middle = db' := congrArg Prod.snd ended
    subst middle
    have raising :=
      run_maybeCreateRisk_raising agentId
        (severityOf severities result.checkId) envs db
    rw [attempted] at raising
    cases raising with
    | noThreat absent =>
        refine .idle fun threat chosen => ?_
        rw [chosen.threat] at absent
        cases absent
    | present threat found raised =>
        refine .idle fun other chosen => ?_
        rw [chosen.threat] at found
        cases found
        exact raised
    | inserted threat found unraised riskId _ effect =>
        rcases run_maybeCreateRisk_made attempted with
          ⟨env, threat', _, found', inserted⟩
        rw [found] at found'
        cases found'
        rcases effect.rows with ⟨row, _, isOpen, rows⟩
        rcases insertRisk_level inserted with ⟨row', rows', level⟩
        rw [rows, List.append_cancel_left_eq, List.cons.injEq] at rows'
        rw [← rows'.1] at level
        exact .opened threat row db' ⟨failed, critical, found⟩ unraised
          effect.frame rows isOpen level
  · next uncritical =>
    have sameDb : db = db' := congrArg Prod.snd handled
    subst sameDb
    exact .idle fun threat chosen => absurd chosen.critical uncritical

/-! ## One batch -/

section Batch

variable {agentId : Uuid} {severities : CheckSeverities} {result : CheckResult}
  {db db' : Db}

/-- The first result opens the risk, or a later one that chooses another threat
than the first. -/
theorem opensRiskOf_cons {rest : List CheckResult} {level : RiskLevel} :
    OpensRiskOf agentId severities (result :: rest) db level <->
      (Exists fun threat => Chooses (listThreats db) severities result threat ∧
        db.hasOpenRisk agentId threat.id = false ∧
        level.rank ≤
          (severityToRiskParams
            (severityOf severities result.checkId)).2.2.rank) ∨
      Exists fun before => Exists fun later => Exists fun after =>
        Exists fun threat =>
        rest = before ++ later :: after ∧
          Chooses (listThreats db) severities later threat ∧
        db.hasOpenRisk agentId threat.id = false ∧
        (forall other, Chooses (listThreats db) severities result other ->
          other.id ≠ threat.id) ∧
        (forall earlier, earlier ∈ before -> forall other,
          Chooses (listThreats db) severities earlier other ->
          other.id ≠ threat.id) ∧
        level.rank ≤
            (severityToRiskParams
              (severityOf severities later.checkId)).2.2.rank := by
  constructor
  · rintro ⟨before, opening, after, threat, split, chosen, unraised,
      first, enough⟩
    cases before with
    | nil =>
        cases split
        exact Or.inl ⟨threat, chosen, unraised, enough⟩
    | cons head before =>
        cases split
        rw [List.forall_mem_cons] at first
        exact Or.inr ⟨before, opening, after, threat, rfl, chosen, unraised,
          first.1, first.2, enough⟩
  · rintro (⟨threat, chosen, unraised, enough⟩ |
      ⟨before, opening, after, threat, rfl, chosen, unraised, head,
        first, enough⟩)
    · exact ⟨[], result, rest, threat, rfl, chosen, unraised, fun _ impossible =>
        absurd impossible List.not_mem_nil, enough⟩
    · have none := List.forall_mem_cons.mpr ⟨head, first⟩
      exact ⟨result :: before, opening, after, threat, rfl, chosen, unraised,
        none, enough⟩

/-- A new open risk adds its own level. -/
theorem hasRiskOf_opened {threat : ThreatRow} {row : RiskRow}
    {itsLevel level : RiskLevel} (compliance : ComplianceThreat db threat)
    (frame : db' = { db with risks := db'.risks })
    (rows : db'.risks.rows = db.risks.rows ++ [row])
    (isOpen : row.isOpenFor agentId threat.id = true)
    (recorded : row.riskLevel = some itsLevel) :
    db'.HasRiskOf agentId level <-> db.HasRiskOf agentId level ∨
      level.rank ≤ itsLevel.rank := by
  have sameThreats : db'.threats = db.threats := by rw [frame]
  have reaches : row.reaches level = true <-> level.rank ≤ itsLevel.rank := by
    rw [RiskRow.reaches, recorded, Option.any_some, decide_eq_true_eq]
  constructor
  · rintro ⟨other, itsCompliance, found, member, openFor, enough⟩
    rw [rows, List.mem_append, List.mem_singleton] at member
    rcases member with old | rfl
    · left
      refine ⟨other, ⟨?_, itsCompliance.2⟩, found, old, openFor, enough⟩
      rw [← sameThreats]
      exact itsCompliance.1
    · exact Or.inr (reaches.mp enough)
  · rintro (⟨other, itsCompliance, found, member, openFor, enough⟩ | enough)
    · refine ⟨other, ⟨?_, itsCompliance.2⟩, found, ?_, openFor, enough⟩
      · rw [sameThreats]
        exact itsCompliance.1
      · rw [rows]
        exact List.mem_append_left _ member
    · refine ⟨threat, ⟨?_, compliance.2⟩, row, ?_, isOpen, reaches.mpr enough⟩
      · rw [sameThreats]
        exact compliance.1
      · rw [rows]
        exact List.mem_append_right _ (List.mem_singleton_self row)

/-- A new open risk is open for its own threat alone. -/
theorem hasOpenRisk_opened {threat : ThreatRow} {row : RiskRow}
    (rows : db'.risks.rows = db.risks.rows ++ [row])
    (isOpen : row.isOpenFor agentId threat.id = true) (threatId : Uuid) :
    db'.hasOpenRisk agentId threatId = false <->
      db.hasOpenRisk agentId threatId = false ∧ threat.id ≠ threatId := by
  rcases RiskRow.isOpenFor_iff.mp isOpen with ⟨sameAgent, sameThreat, status⟩
  have own : row.isOpenFor agentId threatId = decide (threat.id = threatId) := by
    simp only [RiskRow.isOpenFor, sameAgent, sameThreat, status, decide_true,
      Bool.true_and, Bool.and_true]
  rw [Db.hasOpenRisk, Db.hasOpenRisk, rows, List.any_append, List.any_cons,
    List.any_nil, Bool.or_false, own, Bool.or_eq_false_iff,
      decide_eq_false_iff_not]

/-- What the rest of a batch can add after its first result was handled. -/
theorem FailureEffect.cons {middle : Db} {rest : List CheckResult}
    {level : RiskLevel}
    (effect : FailureEffect agentId severities result db middle) :
    middle.HasRiskOf agentId level ∨
      OpensRiskOf agentId severities rest middle level <->
      db.HasRiskOf agentId level ∨
        OpensRiskOf agentId severities (result :: rest) db level := by
  rw [opensRiskOf_cons]
  cases effect with
  | idle raised =>
      apply or_congr_right
      constructor
      · rintro ⟨before, opening, after, threat, split, chosen, unraised,
          first, enough⟩
        refine Or.inr ⟨before, opening, after, threat, split, chosen, unraised,
          ?_, first, enough⟩
        intro other itsChoice same
        rw [← same, raised other itsChoice] at unraised
        cases unraised
      · rintro (⟨threat, chosen, unraised, _⟩ | ⟨before, opening, after, threat,
          split, chosen, unraised, _, first, enough⟩)
        · rw [raised threat chosen] at unraised
          cases unraised
        · exact ⟨before, opening, after, threat, split, chosen, unraised,
            first, enough⟩
  | opened threat row _ chosen unraised frame rows isOpen itsLevel =>
      have sameThreats : listThreats middle = listThreats db := by
        rw [frame]
        rfl
      have compliance : ComplianceThreat db threat :=
        ⟨mem_listThreats.mp (findComplianceThreat_some chosen.threat).1,
          (findComplianceThreat_some chosen.threat).2⟩
      have onlyChoice :
          forall other, Chooses (listThreats db) severities result other ->
            threat = other := by
        intro other itsChoice
        exact Option.some.inj (chosen.threat.symm.trans itsChoice.threat)
      rw [hasRiskOf_opened compliance frame rows isOpen itsLevel, or_assoc]
      apply or_congr_right
      apply or_congr
      · constructor
        · intro enough
          exact ⟨threat, chosen, unraised, enough⟩
        · rintro ⟨other, itsChoice, _, enough⟩
          exact enough
      · unfold OpensRiskOf
        simp only [sameThreats, hasOpenRisk_opened rows isOpen]
        constructor
        · rintro ⟨before, opening, after, other, split, itsChoice,
            ⟨unopened, different⟩, first, enough⟩
          refine ⟨before, opening, after, other, split, itsChoice, unopened, ?_,
            first, enough⟩
          intro another firstChoice
          rw [← onlyChoice another firstChoice]
          exact different
        · rintro ⟨before, opening, after, other, split, itsChoice, unopened,
            different, first, enough⟩
          exact ⟨before, opening, after, other, split, itsChoice,
            ⟨unopened, different threat chosen⟩, first, enough⟩

end Batch

/-- After a batch without passes the agent has a risk of the level exactly if it
had one or some result opens one. -/
theorem run_failures_hasRiskOf {agentId : Uuid} {severities : CheckSeverities}
    {results : List CheckResult} {summary summary' : RiskTriggerSummary}
    {envs : Nat -> Env} {db db' : Db}
    (failed : forall result, result ∈ results -> result.passed = false)
    (evaluated :
      Program.run exec (evaluateFrom agentId severities summary results) envs db =
        (.ok summary', db'))
    (level : RiskLevel) :
    db'.HasRiskOf agentId level <-> db.HasRiskOf agentId level ∨
      OpensRiskOf agentId severities results db level := by
  induction results generalizing summary envs db with
  | nil =>
      have sameDb : db = db' := congrArg Prod.snd evaluated
      rw [sameDb]
      refine (or_iff_left ?_).symm
      rintro ⟨before, opening, after, threat, split, _⟩
      exact absurd split.symm
        (List.append_ne_nil_of_right_ne_nil before
          (List.cons_ne_nil opening after))
  | cons result rest ih =>
      rcases Program.run_bind_eq_ok evaluated with
        ⟨change, middle, handled, others⟩
      rw [List.forall_mem_cons] at failed
      rw [ih failed.2 others]
      exact (run_failure_effect failed.1 handled).cons

/-- After a batch without passes every severity that failed is recorded at its
level exactly if, for each of them, the agent had such a risk before or the first
failure to choose some threat without an open risk has the level. -/
theorem records_failures_iff (agentId : Uuid) (severities : CheckSeverities)
    (results : List CheckResult) (envs : Nat -> Env) (db db' : Db)
    (summary : RiskTriggerSummary)
    (failed : forall result, result ∈ results -> result.passed = false)
    (evaluated : Program.run exec (evaluate agentId results severities) envs db =
      (.ok summary, db')) :
    RecordsFailures agentId severities results db' <->
      forall severity level, (severity, level) ∈ recordedLevels ->
        (Exists fun result => result ∈ results ∧
          severityOf severities result.checkId = severity) ->
        db.HasRiskOf agentId level ∨
          OpensRiskOf agentId severities results db level := by
  unfold RecordsFailures
  simp only [run_failures_hasRiskOf failed evaluated]

/-! ## A high and a critical failure -/

def failedHigh : CheckResult :=
    { midnightResult "9f2c1a7e-3b4d-4c5e-8f60-718293a4b5c6" with passed := false }

def failedCritical : CheckResult :=
    { midnightResult "1b4e28ba-2fa1-11d2-883f-0016d3cca427" with passed := false }

/-- Statements without faults, each of which draws an identifier of its own. -/
def countingEnvs : Nat -> Env := fun n => quietly (51 + BitVec.ofNat 128 n) n

/-- Agent 7 fails both checks, the high one first. -/
def evaluateFailures (db : Db) :
    Except (Fault IngesterError) RiskTriggerSummary × Db :=
  Program.run exec (evaluate 7 [failedHigh, failedCritical] twoSeverities)
    countingEnvs db

/-- With a threat for each severity both are recorded. -/
theorem failures_recorded : RecordsFailures 7 twoSeverities
    [failedHigh, failedCritical]
    (evaluateFailures twoThreatsDb).2 := by
  refine (records_failures_iff 7 twoSeverities [failedHigh, failedCritical]
    countingEnvs twoThreatsDb _ ⟨2, 0⟩
    ?_ ?_).mpr ?_
  · decide
  · exact Prod.ext (by decide +kernel) rfl
  intro severity level recorded _
  right
  rcases List.mem_cons.mp recorded with critical | rest
  · cases critical
    refine ⟨[failedHigh], failedCritical, [],
      ⟨31, "Configuration drift", none, some "Compliance", some (19 / 2),
        newYear.nanos⟩,
      rfl, ⟨rfl, by decide, by decide +kernel⟩, by decide +kernel, ?_, by decide⟩
    intro earlier member other chosen
    rw [List.mem_singleton.mp member] at chosen
    have weak :
        findComplianceThreat (listThreats twoThreatsDb)
          (severityOf twoSeverities failedHigh.checkId) =
        some ⟨32, "Weak baseline", none, some "Compliance", some (15 / 2),
          newYear.nanos⟩ := by
      decide +kernel
    cases chosen.threat.symm.trans weak
    decide
  · cases List.mem_singleton.mp rest
    refine ⟨[], failedHigh, [failedCritical],
      ⟨32, "Weak baseline", none, some "Compliance", some (15 / 2),
        newYear.nanos⟩,
      rfl, ⟨rfl, by decide, by decide +kernel⟩, by decide +kernel, ?_, by decide⟩
    exact fun earlier impossible => absurd impossible List.not_mem_nil

/-- With one threat the high failure takes it, and the critical one leaves no
trace. -/
theorem high_failure_hides_critical :
    (evaluateFailures threatenedDb).1 = .ok ⟨1, 0⟩ ∧
    (Exists fun threat => ComplianceThreat threatenedDb threat) ∧
    (forall result, result ∈ [failedHigh, failedCritical] ->
      result.passed = false) ∧
    ¬ RecordsFailures 7 twoSeverities [failedHigh, failedCritical]
      (evaluateFailures threatenedDb).2 := by
  refine ⟨by decide +kernel,
    ⟨_, List.mem_cons_self, by decide +kernel⟩, by decide, ?_⟩
  intro records
  rcases records "critical" .critical List.mem_cons_self
      ⟨failedCritical, by decide, by decide⟩ with
    ⟨threat, _, row, member, _, reaches⟩
  have below : forall row, row ∈ (evaluateFailures threatenedDb).2.risks.rows ->
      row.reaches .critical = false := by
    decide +kernel
  rw [below row member] at reaches
  cases reaches

end Complyx
