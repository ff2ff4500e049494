import Complyx.Ingest.RiskTrigger
import Mathlib.Logic.Function.Basic

namespace Complyx

open Transition Relational

/-!
# The ledger of an agent's risks

Which row a failure opens and which one a pass closes depends on identifiers
and on the order the database finds rows in.  How many risks the agent has for
each threat and status does not: it is a function of the results handled, in
their order.  That function is the ledger, and a turn of the trigger that
returns refines one step of it.
-/

/-- The number of risks for each threat and status. -/
abbrev Ledger := Uuid -> RiskStatus -> Nat

namespace Ledger

/-- One more open risk for the threat. -/
def opened (ledger : Ledger) (threatId : Uuid) : Ledger :=
  Function.update ledger threatId
    (Function.update (ledger threatId) .«open» (ledger threatId .«open» + 1))

/-- One open risk for the threat becomes a closed one. -/
def closed (ledger : Ledger) (threatId : Uuid) : Ledger :=
  Function.update ledger threatId (Function.update
    (Function.update (ledger threatId) .«open» (ledger threatId .«open» - 1))
      .closed (ledger threatId .closed + 1))

/-- A failure of the severity opens a risk for its threat unless one is open. -/
def raise (threats : List ThreatRow) (severity : String)
    (ledger : Ledger) : Ledger :=
  match findComplianceThreat threats severity with
  | none => ledger
  | some threat =>
      if ledger threat.id .«open» = 0 then ledger.opened threat.id else ledger

/-- A pass closes a risk for the first compliance threat that has an open one. -/
def settle (threats : List ThreatRow) (ledger : Ledger) : Ledger :=
  match threats.find? fun threat => isComplianceThreat threat &&
      decide (0 < ledger threat.id .«open») with
  | none => ledger
  | some threat => ledger.closed threat.id

/-- What a result does to the ledger. -/
def handle (threats : List ThreatRow) (severities : CheckSeverities)
    (ledger : Ledger) (result : CheckResult) : Ledger :=
  if !result.passed && isCritical (severityOf severities result.checkId) then
    ledger.raise threats (severityOf severities result.checkId)
  else if result.passed then ledger.settle threats
  else ledger

/-- What the trigger reports of the result. -/
def change (threats : List ThreatRow) (severities : CheckSeverities)
    (ledger : Ledger) (result : CheckResult) : RiskChange :=
  if !result.passed && isCritical (severityOf severities result.checkId) then
    match findComplianceThreat threats (severityOf severities result.checkId) with
    | none => .none
    | some threat => if ledger threat.id .«open» = 0 then .created else .none
  else if result.passed then
    match threats.find? fun threat => isComplianceThreat threat &&
        decide (0 < ledger threat.id .«open») with
    | none => .none
    | some _ => .closed
  else .none

/-- The result finds nothing to do: a failed critical check has no threat or a
risk is open for it already, and where a check passed no risk is open. -/
def Idle (threats : List ThreatRow) (severities : CheckSeverities)
    (ledger : Ledger) (result : CheckResult) : Prop :=
  if !result.passed && isCritical (severityOf severities result.checkId) then
    forall threat,
      threat ∈ findComplianceThreat threats
      (severityOf severities result.checkId) ->
      0 < ledger threat.id .«open»
  else if result.passed then
    forall threat, threat ∈ threats -> isComplianceThreat threat = true ->
      ledger threat.id .«open» = 0
  else True

instance (threats : List ThreatRow) (severities : CheckSeverities)
    (ledger : Ledger) (result : CheckResult) :
    Decidable (ledger.Idle threats severities result) := by
  unfold Idle
  infer_instance

theorem opened_ne (ledger : Ledger) (threatId : Uuid) :
    ledger.opened threatId ≠ ledger := by
  intro same
  have count := congrFun (congrFun same threatId) .«open»
  rw [opened, Function.update_self, Function.update_self] at count
  omega

theorem closed_ne (ledger : Ledger) (threatId : Uuid) :
    ledger.closed threatId ≠ ledger := by
  intro same
  have count := congrFun (congrFun same threatId) .closed
  rw [closed, Function.update_self, Function.update_self] at count
  omega

/-- A result leaves the ledger alone exactly if it is idle. -/
theorem handle_eq_iff {threats : List ThreatRow} {severities : CheckSeverities}
    {ledger : Ledger} {result : CheckResult} :
    ledger.handle threats severities result = ledger <->
      ledger.Idle threats severities result := by
  unfold handle Idle
  split
  · rw [raise]
    cases findComplianceThreat threats (severityOf severities result.checkId) with
    | none => exact iff_of_true rfl fun threat impossible => nomatch impossible
    | some threat =>
        simp only [Option.mem_some_iff, forall_eq']
        by_cases unraised : ledger threat.id .«open» = 0
        · rw [if_pos unraised, unraised]
          exact iff_of_false (opened_ne ledger threat.id) (Nat.lt_irrefl 0)
        · rw [if_neg unraised]
          exact iff_of_true rfl (Nat.pos_of_ne_zero unraised)
  · split
    · rw [settle]
      cases found : threats.find? fun threat => isComplianceThreat threat &&
          decide (0 < ledger threat.id .«open») with
      | none =>
          refine iff_of_true rfl ?_
          intro threat member compliance
          have other := List.find?_eq_none.mp found threat member
          rw [compliance, Bool.true_and, decide_eq_true_eq] at other
          exact Nat.eq_zero_of_not_pos other
      | some threat =>
          refine iff_of_false (closed_ne ledger threat.id) ?_
          intro none
          have kind := List.find?_some found
          rw [Bool.and_eq_true, decide_eq_true_eq] at kind
          exact absurd (none threat (List.mem_of_find?_eq_some found) kind.1)
            (Nat.pos_iff_ne_zero.mp kind.2)
    · exact iff_of_true rfl trivial

end Ledger

/-! ## The ledger of the database -/

/-- The risk is the agent's, for the threat, with the status. -/
def RiskRow.isFor (agentId threatId : Uuid) (status : RiskStatus)
    (row : RiskRow) : Bool :=
  row.agentId = agentId && row.threatId = threatId && row.status = status

def Db.ledger (db : Db) (agentId : Uuid) : Ledger := fun threatId status =>
  db.risks.rows.countP (RiskRow.isFor agentId threatId status)

theorem RiskRow.isFor_iff {agentId threatId : Uuid} {status : RiskStatus}
    {row : RiskRow} :
    row.isFor agentId threatId status = true <->
      row.agentId = agentId ∧ row.threatId = threatId ∧ row.status = status := by
  simp only [isFor, Bool.and_eq_true, decide_eq_true_eq, and_assoc]

theorem Db.hasOpenRisk_eq (db : Db) (agentId threatId : Uuid) :
    db.hasOpenRisk agentId threatId =
      decide (0 < db.ledger agentId threatId .«open») := by
  rw [Bool.eq_iff_iff, decide_eq_true_eq, Db.ledger, List.countP_pos_iff,
    hasOpenRisk_iff]
  rfl

/-- Inserting an open risk adds it to the agent's ledger and to no other. -/
theorem ledger_inserted {db db' : Db} {agentId threatId riskId : Uuid}
    (inserted : RiskInserted db db' agentId threatId riskId) (other : Uuid) :
    db'.ledger other = if other = agentId then (db.ledger agentId).opened threatId
      else db.ledger other := by
  rcases inserted.rows with ⟨new, _, isOpen, rows⟩
  rcases RiskRow.isOpenFor_iff.mp isOpen with ⟨sameAgent, sameThreat, status⟩
  have counted : forall threat status,
    db'.ledger other threat status = db.ledger other threat status +
      if new.isFor other threat status then 1 else 0 := by
    intro threat status
    rw [Db.ledger, Db.ledger, rows, List.countP_append, List.countP_singleton]
  funext threat status'
  rw [counted]
  by_cases here : other = agentId
  · subst here
    rw [if_pos rfl, Ledger.opened]
    by_cases sameT : threat = threatId
    · subst sameT
      rw [Function.update_self]
      by_cases sameS : status' = .«open»
      · subst sameS
        rw [Function.update_self,
          if_pos (RiskRow.isFor_iff.mpr ⟨sameAgent, sameThreat, status⟩)]
      · rw [Function.update_of_ne sameS, if_neg fun isFor =>
          sameS ((RiskRow.isFor_iff.mp isFor).2.2.symm.trans status),
            Nat.add_zero]
    · rw [Function.update_of_ne sameT, if_neg fun isFor =>
        sameT ((RiskRow.isFor_iff.mp isFor).2.1.symm.trans sameThreat),
          Nat.add_zero]
  · rw [if_neg here, if_neg fun isFor =>
      here ((RiskRow.isFor_iff.mp isFor).1.symm.trans sameAgent), Nat.add_zero]

/-- Closing an open risk moves it in the agent's ledger and in no other. -/
theorem ledger_closed {db : Db} (env : Env) {agentId threatId : Uuid}
    {row : RiskRow} (member : row ∈ db.risks.rows)
    (isOpen : row.isOpenFor agentId threatId = true) (other : Uuid) :
    (setRiskStatus env row.id .closed db).ledger other =
      if other = agentId then (db.ledger agentId).closed threatId
      else db.ledger other := by
  rcases RiskRow.isOpenFor_iff.mp isOpen with ⟨sameAgent, sameThreat, status⟩
  have counted : forall threat status',
    (setRiskStatus env row.id .closed db).ledger other threat status' +
      (row.isFor other threat status').toNat =
        db.ledger other threat
            status' +
            (RiskRow.isFor other threat status'
              { row with status := .closed }).toNat := by
    intro threat status'
    rw [Db.ledger, Db.ledger, setRiskStatus_rows]
    refine (Table.countP_map_at (db.risks.nodup fun _ => rfl) member ?_).trans ?_
    · intro row' member' different
      rw [if_neg fun same =>
        different
          (Table.eq_of_key (fun _ _ same => same) db.risks member' member same)]
    · rw [if_pos rfl]
      rfl
  funext threat status'
  have count := counted threat status'
  simp only [RiskRow.isFor, sameAgent, sameThreat, status] at count
  by_cases here : other = agentId
  · subst here
    rw [if_pos rfl, Ledger.closed]
    by_cases sameT : threat = threatId
    · subst sameT
      rw [Function.update_self]
      cases status' <;>
        simp only [decide_true, Bool.true_and, reduceCtorEq, decide_false,
          Bool.toNat_true, Bool.toNat_false, Nat.add_zero] at count <;>
        simp only [ne_eq, reduceCtorEq, not_false_eq_true, Function.update_of_ne,
          Function.update_self] <;>
        omega
    · rw [Function.update_of_ne sameT]
      simp only [decide_eq_false (Ne.symm sameT), Bool.and_false,
        Bool.false_and] at count
      exact Nat.add_right_cancel count
  · rw [if_neg here]
    simp only [decide_eq_false (Ne.symm here), Bool.false_and] at count
    exact Nat.add_right_cancel count

/-! ## One turn and one batch -/

/-- What a turn that returns does. -/
structure TurnEffect (agentId : Uuid) (severities : CheckSeverities)
    (result : CheckResult) (db db' : Db) : Prop where
  frame : db' = { db with risks := db'.risks }
  own :
    db'.ledger agentId =
      (db.ledger agentId).handle (listThreats db) severities result
  others : forall other, other ≠ agentId -> db'.ledger other = db.ledger other
  idle : (db.ledger agentId).Idle (listThreats db) severities result -> db' = db

theorem closable_eq (agentId : Uuid) (db : Db) :
    closable agentId db = fun threat =>
      isComplianceThreat threat &&
        decide (0 < db.ledger agentId threat.id .«open») := by
  funext threat
  rw [closable, Db.hasOpenRisk_eq]

theorem Db.hasOpenRisk_false_iff_ledger {db : Db} {agentId threatId : Uuid} :
    db.hasOpenRisk agentId threatId = false <->
      db.ledger agentId threatId .«open» = 0 := by
  rw [Db.hasOpenRisk_eq, decide_eq_false_iff_not, Nat.not_lt, Nat.le_zero]

/-- A turn that returns refines the step of the ledger. -/
theorem run_handleResult_effect {agentId : Uuid} {severities : CheckSeverities}
    {result : CheckResult} {envs : Nat -> Env} {db db' : Db} {change : RiskChange}
    (handled : Program.run exec (handleResult agentId severities result) envs db =
      (.ok change, db')) :
    TurnEffect agentId severities result db db' := by
  have unchanged : db' = db ->
      (db.ledger agentId).handle (listThreats db) severities result =
        db.ledger agentId ->
      TurnEffect agentId severities result db db' := by
    rintro rfl same
    exact ⟨rfl, same.symm, fun _ _ => rfl, fun _ => rfl⟩
  have changed : forall {ledger : Ledger}, db' = { db with risks := db'.risks } ->
      (db.ledger agentId).handle (listThreats db) severities result = ledger ->
        ledger ≠ db.ledger agentId ->
      (forall other, db'.ledger other = if other = agentId then ledger
        else db.ledger other) ->
      TurnEffect agentId severities result db db' := by
    intro ledger frame stepped moved counted
    refine ⟨frame, ?_, ?_, ?_⟩
    · rw [counted, if_pos rfl, stepped]
    · intro other different
      rw [counted, if_neg different]
    · intro idle
      exact absurd (stepped.symm.trans (Ledger.handle_eq_iff.mpr idle)) moved
  unfold handleResult at handled
  dsimp only at handled
  split at handled
  · next critical =>
    have step : (db.ledger agentId).handle (listThreats db) severities result =
        (db.ledger agentId).raise (listThreats db)
          (severityOf severities result.checkId) := if_pos critical
    rw [Ledger.raise] at step
    have raising :=
      run_maybeCreateRisk_raising agentId
        (severityOf severities result.checkId) envs db
    rw [Program.run_bind] at handled
    generalize Program.run exec
      (maybeCreateRisk agentId (severityOf severities result.checkId)) envs db =
      outcome
      at raising handled
    cases raising with
    | failed failure => cases congrArg Prod.fst handled
    | noThreat absent =>
        rw [absent] at step
        exact unchanged (congrArg Prod.snd handled).symm step
    | present threat chosen raised =>
        rw [Db.hasOpenRisk_eq, decide_eq_true_eq] at raised
        rw [chosen] at step
        exact unchanged (congrArg Prod.snd handled).symm
          (step.trans (if_neg (Nat.pos_iff_ne_zero.mp raised)))
    | inserted threat chosen unraised riskId left effect =>
        have sameDb : left = db' := congrArg Prod.snd handled
        subst left
        rw [chosen] at step
        exact changed effect.frame
          (step.trans (if_pos (Db.hasOpenRisk_false_iff_ledger.mp unraised)))
          (Ledger.opened_ne _ _) (ledger_inserted effect)
  · next uncritical =>
    split at handled
    · next pass =>
      have step : (db.ledger agentId).handle (listThreats db) severities result =
          (db.ledger agentId).settle (listThreats db) :=
            (if_neg uncritical).trans (if_pos pass)
      rw [Ledger.settle, ← closable_eq] at step
      have settling := run_maybeCloseRisk_settling agentId envs db
      rw [Program.run_bind] at handled
      generalize Program.run exec (maybeCloseRisk agentId) envs db =
        outcome at settling handled
      cases settling with
      | failed failure => cases congrArg Prod.fst handled
      | nothing absent =>
          rw [absent] at step
          exact unchanged (congrArg Prod.snd handled).symm step
      | closed env threat row first member isOpen =>
          have sameDb : setRiskStatus env row.id .closed db = db' :=
            congrArg Prod.snd handled
          subst sameDb
          rw [first] at step
          exact changed rfl step (Ledger.closed_ne _ _)
            (ledger_closed env member isOpen)
    · next failure =>
      have step : (db.ledger agentId).handle (listThreats db) severities result =
          db.ledger agentId :=
        (if_neg uncritical).trans (if_neg failure)
      exact unchanged (congrArg Prod.snd handled).symm step

/-- A turn that returns reports what its step of the ledger changes. -/
theorem run_handleResult_change {agentId : Uuid} {severities : CheckSeverities}
    {result : CheckResult} {envs : Nat -> Env} {db db' : Db} {change : RiskChange}
    (handled : Program.run exec (handleResult agentId severities result) envs db =
      (.ok change, db')) :
    change = (db.ledger agentId).change (listThreats db) severities result := by
  unfold handleResult at handled
  dsimp only at handled
  unfold Ledger.change
  split at handled
  · next critical =>
    rw [if_pos critical]
    rcases Program.run_bind_eq_ok handled with ⟨made, middle, attempted, ended⟩
    have reported := Except.ok.inj (congrArg Prod.fst ended)
    subst reported
    have raising :=
      run_maybeCreateRisk_raising agentId
        (severityOf severities result.checkId) envs db
    rw [attempted] at raising
    cases raising with
    | noThreat absent =>
        rw [absent]
        rfl
    | present threat chosen raised =>
        rw [Db.hasOpenRisk_eq, decide_eq_true_eq] at raised
        simp only [chosen, if_neg (Nat.pos_iff_ne_zero.mp raised)]
        rfl
    | inserted threat chosen unraised riskId left effect =>
        simp only [chosen, if_pos (Db.hasOpenRisk_false_iff_ledger.mp unraised)]
        rfl
  · next uncritical =>
    rw [if_neg uncritical]
    split at handled
    · next pass =>
      rw [if_pos pass, ← closable_eq]
      rcases Program.run_bind_eq_ok handled with ⟨did, middle, attempted, ended⟩
      have reported := Except.ok.inj (congrArg Prod.fst ended)
      subst reported
      have settling := run_maybeCloseRisk_settling agentId envs db
      rw [attempted] at settling
      cases settling with
      | nothing absent =>
          rw [absent]
          rfl
      | closed env threat row first member isOpen =>
          rw [first]
          rfl
    · next failure =>
      rw [if_neg failure]
      exact (Except.ok.inj (congrArg Prod.fst handled)).symm

/-- A turn that fails changes nothing. -/
theorem run_handleResult_error {agentId : Uuid} {severities : CheckSeverities}
    {result : CheckResult} {envs : Nat -> Env} {db db' : Db}
    {failure : Fault IngesterError}
    (handled : Program.run exec (handleResult agentId severities result) envs db =
      (.error failure, db')) :
    db' = db := by
  unfold handleResult at handled
  dsimp only at handled
  split at handled
  · have raising :=
      run_maybeCreateRisk_raising agentId (severityOf severities result.checkId)
        envs db
    rw [Program.run_bind] at handled
    generalize
      Program.run exec
        (maybeCreateRisk agentId (severityOf severities result.checkId)) envs db =
          outcome at raising handled
    cases raising with
    | failed failure => exact (congrArg Prod.snd handled).symm
    | noThreat absent => cases congrArg Prod.fst handled
    | present threat chosen raised => cases congrArg Prod.fst handled
    | inserted threat chosen unraised riskId left effect =>
        cases congrArg Prod.fst handled
  · split at handled
    · have settling := run_maybeCloseRisk_settling agentId envs db
      rw [Program.run_bind] at handled
      generalize Program.run exec (maybeCloseRisk agentId) envs db =
        outcome at settling handled
      cases settling with
      | failed failure => exact (congrArg Prod.snd handled).symm
      | nothing absent => cases congrArg Prod.fst handled
      | closed env threat row first member isOpen =>
          cases congrArg Prod.fst handled
    · cases congrArg Prod.fst handled

/-- What handling results one after the other does. -/
structure BatchEffect (agentId : Uuid) (severities : CheckSeverities)
    (results : List CheckResult) (db db' : Db) : Prop where
  frame : db' = { db with risks := db'.risks }
  own :
    db'.ledger agentId = results.foldl (Ledger.handle (listThreats db) severities)
      (db.ledger agentId)
  others : forall other, other ≠ agentId -> db'.ledger other = db.ledger other

theorem BatchEffect.nil (agentId : Uuid)
    (severities : CheckSeverities) (db : Db) :
    BatchEffect agentId severities [] db db :=
  ⟨rfl, rfl, fun _ _ => rfl⟩

theorem BatchEffect.cons {agentId : Uuid} {severities : CheckSeverities}
    {result : CheckResult} {rest : List CheckResult} {db middle db' : Db}
    (first : TurnEffect agentId severities result db middle)
    (later : BatchEffect agentId severities rest middle db') :
    BatchEffect agentId severities (result :: rest) db db' := by
  have sameThreats : listThreats middle = listThreats db := by
    rw [first.frame]
    rfl
  refine ⟨?_, ?_, ?_⟩
  · rw [later.frame, first.frame]
  · rw [later.own, first.own, sameThreats, List.foldl_cons]
  · intro other different
    rw [later.others other different, first.others other different]

/-- A batch that returns refines the steps of the ledger. -/
theorem run_evaluateFrom_effect {agentId : Uuid} {severities : CheckSeverities}
    {results : List CheckResult} {summary summary' : RiskTriggerSummary}
    {envs : Nat -> Env} {db db' : Db}
    (evaluated :
      Program.run exec (evaluateFrom agentId severities summary results) envs db =
        (.ok summary', db')) :
    BatchEffect agentId severities results db db' := by
  induction results generalizing summary envs db with
  | nil =>
      have sameDb : db = db' := congrArg Prod.snd evaluated
      rw [← sameDb]
      exact BatchEffect.nil agentId severities db
  | cons result rest ih =>
      rcases Program.run_bind_eq_ok evaluated with
        ⟨change, middle, handled, others⟩
      exact BatchEffect.cons (run_handleResult_effect handled) (ih others)

theorem evaluateFrom_append (agentId : Uuid) (severities : CheckSeverities)
    (summary : RiskTriggerSummary) (before after : List CheckResult) :
    evaluateFrom agentId severities summary (before ++ after) =
      evaluateFrom agentId severities summary before >>= fun middle =>
        evaluateFrom agentId severities middle after := by
  induction before generalizing summary with
  | nil => rfl
  | cons result rest ih =>
      rw [List.cons_append, evaluateFrom, evaluateFrom, bind_assoc]
      congr 1
      funext change
      exact ih _

end Complyx
