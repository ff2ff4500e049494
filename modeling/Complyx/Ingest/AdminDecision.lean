import Complyx.Ingest.OpenRisks
import Complyx.Transition.Knowledge

namespace Complyx

open Transition Relational

/-!
# Decisions of the administrator beside the trigger

Looking for an open risk and closing it are two statements, and the update that
closes asks for nothing but the identifier.  A decision that is stored between
the two is overwritten.  In any interleaving no decided risk is ever closed
exactly if no evaluation closes a risk that was decided since it looked.
-/

abbrev TriggerPool :=
      Pool Stmt.Res DbError (Fault IngesterError) RiskTriggerSummary Db

/-- The arguments of one call of `evaluate`. -/
structure Evaluation where
  agentId : Uuid
  results : List CheckResult
  severities : CheckSeverities

/-- What an administrator does with a risk other than closing it. -/
inductive Decision where
  | accepted
  | transferred
  deriving DecidableEq

def Decision.status : Decision -> RiskStatus
  | .accepted => .accepted
  | .transferred => .transferred

/-! ## What the trigger closes -/

/-- The risk an answer names, if the statement looks for one. -/
def Stmt.foundRisk : (stmt : Stmt) -> Except DbError stmt.Res -> Option Uuid
  | .findOpenRisk _ _, .ok found => found
  | _, _ => none

def noteRisk (_ : Option Uuid) (stmt : Stmt)
    (answer : Except DbError stmt.Res) : Option Uuid :=
  stmt.foundRisk answer

/-- A statement of the trigger that closes nothing but the risk found last. -/
def ClosesFound (found : Option Uuid) (stmt : Stmt) : Prop :=
  TriggerStmt stmt ∧ forall riskId, stmt.closedRisk = some riskId ->
    found = some riskId

/-- Of the last lookup only the risk it found matters for closing. -/
theorem evaluate_attentive (agentId : Uuid) (results : List CheckResult)
    (severities : CheckSeverities) :
    (evaluate agentId results severities).Follows noteRisk ClosesFound none := by
  have attends := evaluateFrom_attends agentId severities {} results none
  apply attends.through (fun last => last.bind RiskLookup.found)
  · intro last stmt answer
    cases stmt <;> cases answer <;> rfl
  · intro last stmt acts
    refine ⟨acts.trigger, ?_⟩
    intro riskId closes
    rcases acts.closes riskId closes with ⟨lookup, rfl, found⟩
    exact found

/-! ## Evaluations and decisions -/

/-- The evaluations, the risks the administrator took away from open, for each
evaluation the risk its last statement found, and the risks that were decided
since it last looked for an open one. -/
structure Desk where
  pool : TriggerPool
  decided : Uuid -> Bool
  found : Nat -> Option Uuid
  overlooked : Nat -> Uuid -> Bool

inductive DeskLabel where
  | move (index : Nat) (env : Env)
  | decide (env : Env) (riskId : Uuid) (decision : Decision)

namespace Desk

/-- The evaluations, none of them started, and nothing decided. -/
def start (calls : List Evaluation) (db : Db) : Desk where
  pool :=
    ⟨calls.map fun call => evaluate call.agentId call.results call.severities, db⟩
  decided _ := false
  found _ := none
  overlooked _ _ := false

/-- The evaluation is about to look for an open risk. -/
def looking (desk : Desk) (index : Nat) : Bool :=
  match desk.pool.threads[index]? with
  | some (.call stmt _) => stmt.looksForRisk
  | _ => false

/-- The risk is open and the update that decides it reaches the database. -/
def takes (desk : Desk) (env : Env) (riskId : Uuid) : Bool :=
  env.fault.isNone && desk.pool.store.risks.rows.any fun row => row.id = riskId &&
    row.status = .«open»

def step (desk : Desk) : DeskLabel -> Desk
  | .move index env =>
      { pool := desk.pool.step exec (index, env)
        decided := desk.decided
        found := desk.pool.learn noteRisk exec (index, env) desk.found
        overlooked :=
          fun other riskId => !(other = index && desk.looking index) &&
            desk.overlooked other riskId }
  | .decide env riskId decision =>
      let answer :=
        Program.perform exec env (.setRiskStatus riskId decision.status)
          desk.pool.store
      { pool := { desk.pool with store := answer.2 }
        decided :=
          fun id => desk.decided id || (id = riskId && desk.takes env riskId)
        found := desk.found
        overlooked := fun index id => desk.overlooked index id ||
          (id = riskId && desk.takes env riskId) }

/-- No risk that the administrator took away from open is closed. -/
def Upholds (desk : Desk) : Prop :=
  forall row, row ∈ desk.pool.store.risks.rows -> desk.decided row.id = true ->
    row.status ≠ .closed

instance (desk : Desk) : Decidable desk.Upholds :=
  inferInstanceAs (Decidable (forall row, row ∈ desk.pool.store.risks.rows -> _))

/-- An evaluation closes no risk that was decided since it looked. -/
def ClosesUndecided (desk : Desk) : DeskLabel -> Prop
  | .move index env => desk.pool.Guarded (fun env stmt _ => env.fault = none ->
      forall riskId, stmt.closedRisk = some riskId ->
        desk.overlooked index riskId = false) (index, env)
  | .decide _ _ _ => True

/-- What is recorded of the risks and of the evaluations. -/
structure Records (desk : Desk) : Prop where
  attentive : desk.pool.Follows noteRisk ClosesFound desk.found
  settled : forall riskId, desk.decided riskId = true -> Exists fun row =>
    row ∈ desk.pool.store.risks.rows ∧ row.id = riskId ∧ row.status ≠ .«open»
  overlooked : forall index riskId, desk.overlooked index riskId = true ->
    desk.decided riskId = true
  looked : forall index riskId, desk.found index = some riskId ->
    desk.decided riskId = true ->
    desk.overlooked index riskId = true

theorem start_records (calls : List Evaluation) (db : Db) :
    (start calls db).Records := by
  constructor
  · intro index program present
    rcases List.mem_map.mp (List.mem_of_getElem? present) with ⟨call, _, rfl⟩
    exact evaluate_attentive call.agentId call.results call.severities
  · intro riskId impossible
    cases impossible
  · intro index riskId impossible
    cases impossible
  · intro index riskId impossible
    cases impossible

end Desk

/-! ## What happens to rows that are not open -/

/-- A row that is not open stays, and stays so. -/
def NotReopened (db db' : Db) : Prop :=
  forall row, row ∈ db.risks.rows -> row.status ≠ .«open» -> Exists fun later =>
    later ∈ db'.risks.rows ∧ later.id = row.id ∧ later.status ≠ .«open»

theorem NotReopened.of_same {db db' : Db} (same : db'.risks = db.risks) :
    NotReopened db db' := by
  intro row member status
  exact ⟨row, same ▸ member, rfl, status⟩

theorem mem_setRiskStatus {env : Env} {riskId : Uuid} {status : RiskStatus}
    {db : Db} {row : RiskRow} :
    row ∈ (setRiskStatus env riskId status db).risks.rows <-> Exists fun old =>
      old ∈ db.risks.rows ∧
      (if old.id = riskId then
        { old with status := status
                   acceptanceDate :=
                     (if status = .accepted then some env.clock else none).or
                       old.acceptanceDate }
      else old) = row := by
  rw [setRiskStatus_rows, List.mem_map]

theorem notReopened_setRiskStatus (env : Env) (riskId : Uuid)
    {status : RiskStatus} (closing : status ≠ .«open») (db : Db) :
    NotReopened db (setRiskStatus env riskId status db) := by
  intro row member notOpen
  refine ⟨_, mem_setRiskStatus.mpr ⟨row, member, rfl⟩, ?_, ?_⟩
  · split <;> rfl
  · split
    · exact closing
    · exact notOpen

/-- The row that an update of the status finds. -/
theorem setRiskStatus_self (env : Env) (status : RiskStatus) {db : Db}
    {row : RiskRow} (member : row ∈ db.risks.rows) :
    Exists fun later => later ∈ (setRiskStatus env row.id status db).risks.rows ∧
      later.id = row.id ∧
      later.status = status := by
  refine ⟨_, mem_setRiskStatus.mpr ⟨row, member, rfl⟩, ?_⟩
  rw [if_pos rfl]
  exact ⟨rfl, rfl⟩

/-- How an attempt to set a status ends. -/
theorem perform_setRiskStatus (env : Env) (riskId : Uuid) (status : RiskStatus)
    (db : Db) :
    (Program.perform exec env (.setRiskStatus riskId status) db).2 =
      if env.fault = none then setRiskStatus env riskId status db else db := by
  rcases fault : env.fault with _ | cause
  · rw [if_pos rfl, Program.perform_ok (exec_clear fault _ _)]
  · rw [if_neg (fun impossible => nomatch impossible),
      Program.perform_error (exec_fault fault _ _)]

/-! ## One step -/

/-- What a statement of the trigger leaves of the rows that are not open. -/
theorem notReopened_perform (env : Env) {stmt : Stmt} (db : Db)
    (trigger : TriggerStmt stmt) :
    NotReopened db (Program.perform exec env stmt db).2 := by
  cases trigger with
  | listThreats => exact NotReopened.of_same ((perform_frame env _ db).risks rfl)
  | findOpenRisk agentId threatId =>
      exact NotReopened.of_same ((perform_frame env _ db).risks rfl)
  | insertRisk data =>
      rcases perform_cases env (.insertRisk data) db with
        ⟨failure, performed⟩ | ⟨riskId, db', _, effect, performed⟩
      · rw [performed]
        exact NotReopened.of_same rfl
      · rw [performed]
        rcases (insertRisk_inserted effect).rows with ⟨new, _, _, rows⟩
        intro row member notOpen
        refine ⟨row, ?_, rfl, notOpen⟩
        rw [rows]
        exact List.mem_append_left _ member
  | close riskId =>
      rw [perform_setRiskStatus]
      split
      · exact notReopened_setRiskStatus env riskId RiskStatus.noConfusion db
      · exact NotReopened.of_same rfl

namespace Desk

variable {desk : Desk}

/-- The decided risks are settled after any step that reopens none of them. -/
theorem Records.stay_settled (records : desk.Records) {db' : Db}
    (kept : NotReopened desk.pool.store db') {riskId : Uuid}
    (decided : desk.decided riskId = true) :
    Exists fun row => row ∈ db'.risks.rows ∧ row.id = riskId ∧
      row.status ≠ .«open» := by
  rcases records.settled riskId decided with ⟨row, member, sameId, notOpen⟩
  rcases kept row member notOpen with ⟨later, member', sameId', notOpen'⟩
  exact ⟨later, member', sameId'.trans sameId, notOpen'⟩

/-- An open risk is not decided. -/
theorem Records.open_undecided (records : desk.Records) {row : RiskRow}
    (member : row ∈ desk.pool.store.risks.rows) (isOpen : row.status = .«open») :
    desk.decided row.id = false := by
  rw [Bool.eq_false_iff]
  intro decided
  rcases records.settled row.id decided with ⟨other, member', sameId, notOpen⟩
  rw [Table.eq_of_key (fun _ _ same => same) desk.pool.store.risks member' member
    sameId] at notOpen
  exact notOpen isOpen

theorem takes_iff {env : Env} {riskId : Uuid} :
    desk.takes env riskId = true <-> env.fault = none ∧
      Exists fun row => row ∈ desk.pool.store.risks.rows ∧ row.id = riskId ∧
        row.status = .«open» := by
  simp only [takes, Bool.and_eq_true, Option.isNone_iff_eq_none, List.any_eq_true,
    decide_eq_true_eq]

theorem records_move (index : Nat) (env : Env) (records : desk.Records) :
    (desk.step (.move index env)).Records := by
  constructor
  · exact Pool.follows_step desk.pool (index, env) records.attentive
  · intro riskId decided
    rcases Pool.step_cases exec desk.pool (index, env) with
      ⟨_, same⟩ | ⟨stmt, next, turn, stepped⟩
    · rw [step, same]
      exact records.settled riskId decided
    · rw [step, stepped]
      have trigger := (records.attentive.turn turn).1
      exact records.stay_settled
        (notReopened_perform env desk.pool.store trigger) decided
  · intro other riskId overlooked
    exact records.overlooked other riskId (Bool.and_eq_true_iff.mp overlooked).2
  · intro other riskId found decided
    rw [step] at found decided ⊢
    dsimp only at found decided ⊢
    rcases Pool.step_cases exec desk.pool (index, env) with
      ⟨idle, _⟩ | ⟨stmt, next, turn, _⟩
    · have still : desk.looking index = false := by
        unfold looking
        split
        · next stmt next turn => exact absurd turn (idle stmt next)
        · rfl
      rw [Pool.learn_idle idle] at found
      rw [still, Bool.and_false, Bool.not_false, Bool.true_and]
      exact records.looked other riskId found decided
    · rw [Pool.learn_call turn] at found
      by_cases here : other = index
      swap
      · rw [Function.update_of_ne here] at found
        rw [decide_eq_false here, Bool.false_and, Bool.not_false, Bool.true_and]
        exact records.looked other riskId found decided
      -- The statement that found the risk found it open, hence undecided.
      rw [here, Function.update_self] at found
      cases (records.attentive.turn turn).1 with
      | listThreats => cases found
      | insertRisk data => cases found
      | close riskId => cases found
      | findOpenRisk agentId threatId =>
          rcases perform_cases env (.findOpenRisk agentId threatId)
              desk.pool.store with
            ⟨failure, performed⟩ | ⟨answer, db', _, effect, performed⟩
          · rw [performed] at found
            cases found
          · rw [performed] at found
            have answered := Except.ok.inj (reading_same effect).2
            rcases findOpenRisk_some (answered.trans found) with
              ⟨row, member, isOpen, sameId⟩
            have undecided :=
              records.open_undecided member (RiskRow.isOpenFor_iff.mp isOpen).2.2
            rw [sameId, decided] at undecided
            cases undecided

theorem records_decide (env : Env) (riskId : Uuid) (decision : Decision)
    (records : desk.Records) :
    (desk.step (.decide env riskId decision)).Records := by
  have closing : decision.status ≠ .«open» := by
    cases decision <;> exact fun impossible => nomatch impossible
  constructor
  · exact records.attentive.store _
  · intro id decided
    rw [step, perform_setRiskStatus] at *
    dsimp only at decided ⊢
    rcases Bool.or_eq_true_iff.mp decided with before | now
    · apply records.stay_settled _ before
      split
      · exact notReopened_setRiskStatus env riskId closing desk.pool.store
      · exact NotReopened.of_same rfl
    · rcases Bool.and_eq_true_iff.mp now with ⟨sameId, taken⟩
      rcases takes_iff.mp taken with ⟨clear, row, member, sameRow, _⟩
      rcases setRiskStatus_self env decision.status member with
        ⟨later, member', sameLater, status⟩
      rw [sameRow] at member' sameLater
      rw [if_pos clear, of_decide_eq_true sameId]
      exact ⟨later, member', sameLater, status ▸ closing⟩
  · intro index id overlooked
    rcases Bool.or_eq_true_iff.mp overlooked with before | now
    · exact Bool.or_eq_true_iff.mpr (Or.inl (records.overlooked index id before))
    · exact Bool.or_eq_true_iff.mpr (Or.inr now)
  · intro index id found decided
    rcases Bool.or_eq_true_iff.mp decided with before | now
    · exact Bool.or_eq_true_iff.mpr
        (Or.inl (records.looked index id found before))
    · exact Bool.or_eq_true_iff.mpr (Or.inr now)

theorem records_step (desk : Desk) (label : DeskLabel) (records : desk.Records) :
    (desk.step label).Records := by
  cases label with
  | move index env => exact records_move index env records
  | decide env riskId decision => exact records_decide env riskId decision records

/-- What no statement but a closing one leaves: a closed row that was not closed
before. -/
theorem closed_before (env : Env) {stmt : Stmt} (db : Db)
    (trigger : TriggerStmt stmt) (others : stmt.closedRisk = none) {row : RiskRow}
    (member : row ∈ (Program.perform exec env stmt db).2.risks.rows)
    (closed : row.status = .closed) :
    row ∈ db.risks.rows := by
  cases trigger with
  | listThreats =>
      rw [(perform_frame env _ db).risks rfl] at member
      exact member
  | findOpenRisk agentId threatId =>
      rw [(perform_frame env _ db).risks rfl] at member
      exact member
  | insertRisk data =>
      rcases perform_cases env (.insertRisk data) db with
        ⟨failure, performed⟩ | ⟨riskId, db', _, effect, performed⟩
      · rw [performed] at member
        exact member
      · rw [performed] at member
        rcases (insertRisk_inserted effect).rows with ⟨new, _, isOpen, rows⟩
        rw [rows, List.mem_append, List.mem_singleton] at member
        rcases member with old | rfl
        · exact old
        · rw [(RiskRow.isOpenFor_iff.mp isOpen).2.2] at closed
          cases closed
  | close riskId => cases others

/-- A closing update leaves the decisions alone exactly if its risk is undecided. -/
theorem upholds_close {decided : Uuid -> Bool} {db : Db} (env : Env)
    {riskId : Uuid}
    (settled : decided riskId = true -> Exists fun row => row ∈ db.risks.rows ∧
      row.id = riskId ∧ row.status ≠ .«open»)
    (upholds : forall row, row ∈ db.risks.rows -> decided row.id = true ->
      row.status ≠ .closed) :
    (forall row, row ∈ (setRiskStatus env riskId .closed db).risks.rows ->
      decided row.id = true -> row.status ≠ .closed) <->
      decided riskId = false := by
  constructor
  · intro upholds'
    rw [Bool.eq_false_iff]
    intro taken
    rcases settled taken with ⟨row, member, rfl, _⟩
    rcases setRiskStatus_self env .closed member with
      ⟨later, member', sameId, closed⟩
    exact upholds' later member' (sameId ▸ taken) closed
  · intro undecided row member taken closed
    rcases mem_setRiskStatus.mp member with ⟨old, member', rfl⟩
    by_cases here : old.id = riskId
    · rw [if_pos here] at taken
      dsimp only at taken
      rw [here, undecided] at taken
      cases taken
    · rw [if_neg here] at taken closed
      exact upholds old member' taken closed

theorem upholds_move_iff (index : Nat) (env : Env) (records : desk.Records)
    (upholds : desk.Upholds) :
    (desk.step (.move index env)).Upholds <->
      desk.ClosesUndecided (.move index env) := by
  rw [ClosesUndecided, Upholds, step]
  dsimp only
  rcases Pool.step_cases exec desk.pool (index, env) with
    ⟨idle, same⟩ | ⟨stmt, next, turn, stepped⟩
  · rw [same]
    refine iff_of_true upholds ?_
    intro stmt next turn
    exact absurd turn (idle stmt next)
  rw [stepped]
  have guarded (holds : Prop)
    (guard : holds <->
      (env.fault = none -> forall riskId, stmt.closedRisk = some riskId ->
        desk.overlooked index riskId = false)) :
      holds <->
        desk.pool.Guarded (fun env stmt _ => env.fault = none -> forall riskId,
          stmt.closedRisk = some riskId ->
          desk.overlooked index riskId = false) (index, env) := by
    rw [guard, Pool.guarded_iff, turn]
  apply guarded
  have allowed := records.attentive.turn turn
  cases closes : stmt.closedRisk with
  | none =>
      refine iff_of_true ?_ ?_
      · intro row member decided closed
        exact upholds row
          (closed_before env desk.pool.store allowed.1 closes member closed)
          decided closed
      · intro _ riskId impossible
        cases impossible
  | some riskId =>
      have found := allowed.2 riskId closes
      have trigger := allowed.1
      cases trigger with
      | listThreats => cases closes
      | findOpenRisk agentId threatId => cases closes
      | insertRisk data => cases closes
      | close target =>
          cases closes
          dsimp only
          rw [perform_setRiskStatus]
          by_cases clear : env.fault = none
          swap
          · rw [if_neg clear]
            exact iff_of_true upholds fun reached => absurd reached clear
          rw [if_pos clear, upholds_close env (records.settled riskId) upholds]
          constructor
          · intro undecided _ other same
            rw [← Option.some.inj same, Bool.eq_false_iff]
            intro overlooked
            rw [records.overlooked index riskId overlooked] at undecided
            cases undecided
          · intro seen
            have kept := seen clear riskId rfl
            rw [Bool.eq_false_iff]
            intro decided
            rw [records.looked index riskId found decided] at kept
            cases kept

theorem upholds_decide (env : Env) (riskId : Uuid) (decision : Decision)
    (upholds : desk.Upholds) :
    (desk.step (.decide env riskId decision)).Upholds := by
  intro row member decided
  rw [step, perform_setRiskStatus] at member
  dsimp only at member
  have notClosed : forall old, old ∈ desk.pool.store.risks.rows ->
    old.status = .closed ->
      desk.decided old.id = true ∨
        (old.id = riskId ∧ desk.takes env riskId = true) -> False := by
    intro old member closed taken
    rcases taken with before | ⟨sameId, now⟩
    · exact upholds old member before closed
    · rcases (takes_iff.mp now).2 with ⟨other, member', sameOther, isOpen⟩
      rw [Table.eq_of_key (fun _ _ same => same) desk.pool.store.risks member'
        member (sameOther.trans sameId.symm), closed] at isOpen
      cases isOpen
  have taken : desk.decided row.id = true ∨
      (row.id = riskId ∧ desk.takes env riskId = true) := by
    rcases Bool.or_eq_true_iff.mp decided with before | now
    · exact Or.inl before
    · have parts := Bool.and_eq_true_iff.mp now
      exact Or.inr ⟨of_decide_eq_true parts.1, parts.2⟩
  intro closed
  split at member
  · rcases mem_setRiskStatus.mp member with ⟨old, member', rfl⟩
    by_cases here : old.id = riskId
    · rw [if_pos here] at closed
      cases decision <;> cases closed
    · rw [if_neg here] at closed taken
      exact notClosed old member' closed taken
  · exact notClosed row member closed taken

end Desk

/-! ## Every interleaving -/

/-- In any interleaving of evaluations with decisions, no risk that was taken
away from open is ever closed exactly if no evaluation closes a risk that was
decided since the evaluation looked for an open one. -/
theorem decisions_upheld_iff (calls : List Evaluation) (db : Db)
    (labels : List DeskLabel) :
    Always Desk.step Desk.Upholds (Desk.start calls db) labels <->
      Meets Desk.step Desk.ClosesUndecided (Desk.start calls db) labels := by
  apply always_iff_meets Desk.records_step _ (Desk.start_records calls db)
  · intro row _ impossible
    cases impossible
  · intro desk label records upholds
    cases label with
    | move index env => exact Desk.upholds_move_iff index env records upholds
    | decide env riskId decision =>
        exact iff_of_true
          (Desk.upholds_decide env riskId decision upholds) trivial

/-! ## A decision between the two statements -/

/-- An open risk of the agent. -/
def openRiskDb : Db :=
  { threatenedDb with
    risks :=
      ⟨[⟨41, 31, 7, some 9, some 8, some .critical, .«open», newYear.nanos, none,
        none⟩], by decide⟩ }

def passedCheck : Evaluation where
  agentId := 7
  results := [midnightResult "1b4e28ba-2fa1-11d2-883f-0016d3cca427"]
  severities _ := none

/-- The check passes, and the risk is accepted after it was found open. -/
def acceptedLate : List DeskLabel :=
  [.move 0 (quietly 51 0), .move 0 (quietly 51 0),
    .decide (quietly 52 0) 41 .accepted, .move 0 (quietly 51 0)]

theorem accepted_risk_closed : ¬ Always Desk.step Desk.Upholds
    (Desk.start [passedCheck] openRiskDb) acceptedLate := by
  intro always
  exact absurd always.last (by decide +kernel)

end Complyx
