import Complyx.Ingest.OpenRisks

namespace Complyx

open Transition Relational

/-!
# Accounts of a batch

The summary of a batch is reported to operators.  It accounts for the whole
table: the rows that were there stay in their places, some open ones of the
agent closed and nothing else about them changed, and as many rows follow as
were reported created.
-/

/-- A risk the trigger can have opened: one of the agent on a compliance threat. -/
def RiskRow.OfTrigger (agentId : Uuid) (threats : List ThreatRow)
    (row : RiskRow) : Prop :=
  row.agentId = agentId ∧
    Exists fun threat => threat ∈ threats ∧ isComplianceThreat threat = true ∧
      threat.id = row.threatId

/-- What a batch leaves of a row. -/
inductive RiskRow.Settles (agentId : Uuid) (threats : List ThreatRow) :
    RiskRow -> RiskRow -> Prop where
  | kept (row : RiskRow) : Settles agentId threats row row
  | closed (row : RiskRow) (ofTrigger : row.OfTrigger agentId threats)
      (isOpen : row.status = .«open») :
      Settles agentId threats row { row with status := .closed }

/-- The number of open risks of an agent. -/
def Db.openRisks (db : Db) (agentId : Uuid) : Nat :=
  db.risks.rows.countP fun row => row.agentId = agentId && row.status = .«open»

/-- The batch of the agent created and closed the given numbers of risks, and
did nothing else. -/
structure RiskAccount (agentId : Uuid) (created closed : Nat)
    (db db' : Db) : Prop where
  frame : db' = { db with risks := db'.risks }
  balance : db'.openRisks agentId + closed = db.openRisks agentId + created
  rows : Exists fun (change : RiskRow -> RiskRow) =>
    Exists fun news : List RiskRow =>
    db'.risks.rows = db.risks.rows.map change ++ news ∧
    (forall row : RiskRow, row.Settles agentId db.threats.rows (change row)) ∧
    news.length = created ∧
    forall new : RiskRow, new ∈ news -> new.OfTrigger agentId db.threats.rows ∧
      forall old, old ∈ db.risks.rows -> old.id ≠ new.id

section Settles

variable {agentId : Uuid} {threats : List ThreatRow}

theorem RiskRow.Settles.ofTrigger {row later : RiskRow}
    (settles : row.Settles agentId threats later)
    (ofTrigger : row.OfTrigger agentId threats) :
    later.OfTrigger agentId threats := by
  cases settles with
  | kept => exact ofTrigger
  | closed _ _ => exact ofTrigger

theorem RiskRow.Settles.id {row later : RiskRow}
    (settles : row.Settles agentId threats later) : later.id = row.id := by
  cases settles <;> rfl

theorem RiskRow.Settles.trans {row middle later : RiskRow}
    (first : row.Settles agentId threats middle)
    (second : middle.Settles agentId threats later) :
    row.Settles agentId threats later := by
  cases second with
  | kept => exact first
  | closed ofTrigger isOpen =>
      cases first with
      | kept => exact RiskRow.Settles.closed row ofTrigger isOpen
      | closed _ _ => cases isOpen

/-- Only an open risk of the agent on a compliance threat is touched. -/
theorem RiskRow.Settles.untouched {row later : RiskRow}
    (settles : row.Settles agentId threats later)
    (other : row.status ≠ .«open» ∨ ¬ row.OfTrigger agentId threats) :
    later = row := by
  cases settles with
  | kept => rfl
  | closed ofTrigger isOpen =>
      rcases other with status | ofNone
      · exact absurd isOpen status
      · exact absurd ofTrigger ofNone

end Settles

/-! ## One account after the other -/

theorem RiskAccount.none (agentId : Uuid) (db : Db) :
    RiskAccount agentId 0 0 db db := by
  refine ⟨rfl, rfl, id, [], ?_, ?_, rfl, ?_⟩
  · rw [List.map_id, List.append_nil]
  · exact RiskRow.Settles.kept
  · intro new impossible
    cases impossible

theorem RiskAccount.trans {agentId : Uuid} {created closed created' closed' : Nat}
    {db middle db' : Db} (first : RiskAccount agentId created closed db middle)
    (second : RiskAccount agentId created' closed' middle db') :
    RiskAccount agentId (created + created') (closed + closed') db db' := by
  rcases first.rows with ⟨change, news, rows, settles, length, ofTrigger⟩
  rcases second.rows with ⟨change', news', rows', settles', length', ofTrigger'⟩
  have sameThreats : middle.threats = db.threats := by rw [first.frame]
  rw [sameThreats] at settles' ofTrigger'
  refine ⟨?_, ?_, change' ∘ change, news.map change' ++ news', ?_, ?_, ?_, ?_⟩
  · rw [second.frame, first.frame]
  · have balance := first.balance
    have balance' := second.balance
    omega
  · rw [rows', rows, List.map_append, List.map_map, List.append_assoc]
  · intro row
    exact (settles row).trans (settles' (change row))
  · rw [List.length_append, List.length_map, length, length']
  · intro new member
    rcases List.mem_append.mp member with changed | added
    · rcases List.mem_map.mp changed with ⟨row, member', rfl⟩
      refine ⟨(settles' row).ofTrigger (ofTrigger row member').1, ?_⟩
      rw [(settles' row).id]
      exact (ofTrigger row member').2
    · refine ⟨(ofTrigger' new added).1, ?_⟩
      intro old oldMember
      have there : change old ∈ middle.risks.rows := by
        rw [rows]
        exact List.mem_append_left _ (List.mem_map_of_mem oldMember)
      rw [← (settles old).id]
      exact (ofTrigger' new added).2 (change old) there

/-! ## One result -/

/-- A risk opened by the trigger. -/
theorem riskAccount_inserted {db db' : Db} {agentId riskId : Uuid}
    {threat : ThreatRow} (compliance : ComplianceThreat db threat)
    (inserted : RiskInserted db db' agentId threat.id riskId) :
    RiskAccount agentId 1 0 db db' := by
  rcases inserted.rows with ⟨new, sameId, isOpen, rows⟩
  rcases RiskRow.isOpenFor_iff.mp isOpen with ⟨sameAgent, sameThreat, status⟩
  refine ⟨inserted.frame, ?_, id, [new], ?_, RiskRow.Settles.kept, rfl, ?_⟩
  · rw [Db.openRisks, Db.openRisks, rows, List.countP_append,
      List.countP_singleton, sameAgent, status]
    simp only [decide_true, Bool.and_self, if_true, Nat.add_zero]
  · rw [List.map_id, rows]
  · intro row member
    rw [List.mem_singleton.mp member]
    refine ⟨⟨sameAgent, threat, compliance.1, compliance.2, sameThreat.symm⟩, ?_⟩
    intro old oldMember same
    exact inserted.fresh old oldMember (same.trans sameId)

/-- A risk closed by the trigger. -/
theorem riskAccount_closed {db : Db} (env : Env) {agentId : Uuid}
    {threat : ThreatRow} {row : RiskRow} (compliance : ComplianceThreat db threat)
    (member : row ∈ db.risks.rows)
    (isOpen : row.isOpenFor agentId threat.id = true) :
    RiskAccount agentId 0 1 db (setRiskStatus env row.id .closed db) := by
  rcases RiskRow.isOpenFor_iff.mp isOpen with ⟨sameAgent, sameThreat, status⟩
  have alone : forall other, other ∈ db.risks.rows -> other.id = row.id ->
      other = row := fun other member' same =>
    Table.eq_of_key (fun _ _ same => same) db.risks member' member same
  let change :=
    fun other : RiskRow =>
      if other = row then { other with status := RiskStatus.closed } else other
  have rows :
      (setRiskStatus env row.id .closed db).risks.rows =
        db.risks.rows.map change := by
    rw [setRiskStatus_rows]
    apply List.map_congr_left
    intro other member'
    by_cases here : other = row
    · rw [if_pos (congrArg RiskRow.id here),
        if_neg (fun impossible => nomatch impossible), Option.none_or]
      exact (if_pos here).symm
    · rw [if_neg fun same => here (alone other member' same)]
      exact (if_neg here).symm
  refine ⟨rfl, ?_, change, [], ?_, ?_, rfl, fun _ impossible =>
    nomatch impossible⟩
  · rw [Db.openRisks, Db.openRisks, rows]
    apply Table.countP_map_one (db.risks.nodup fun _ => rfl) member
    · simp only [sameAgent, status, decide_true, Bool.and_self]
    · simp only [change, if_true, reduceCtorEq, decide_false, Bool.and_false]
    · intro other _ different
      simp only [change, if_neg different]
  · rw [List.append_nil, rows]
  · intro other
    by_cases here : other = row
    · have changed : change other = { other with status := .closed } := if_pos here
      rw [changed, here]
      exact RiskRow.Settles.closed row
        ⟨sameAgent, threat, compliance.1, compliance.2, sameThreat.symm⟩ status
    · have changed : change other = other := if_neg here
      rw [changed]
      exact RiskRow.Settles.kept other

/-- What a change reported of one result adds to the account. -/
def RiskChange.creations : RiskChange -> Nat
  | .created => 1
  | _ => 0

def RiskChange.closings : RiskChange -> Nat
  | .closed => 1
  | _ => 0

theorem RiskTriggerSummary.record_eq (summary : RiskTriggerSummary)
    (change : RiskChange) :
    summary.record change =
      ⟨summary.created + change.creations, summary.closed + change.closings⟩ := by
  cases change <;> rfl

theorem run_handleResult_account {agentId : Uuid} {severities : CheckSeverities}
    {result : CheckResult} {envs : Nat -> Env} {db db' : Db} {change : RiskChange}
    (handled : Program.run exec (handleResult agentId severities result) envs db =
      (.ok change, db')) :
    RiskAccount agentId change.creations change.closings db db' := by
  unfold handleResult at handled
  dsimp only at handled
  split at handled
  · rcases Program.run_bind_eq_ok handled with ⟨made, middle, attempted, ended⟩
    have reported := Except.ok.inj (congrArg Prod.fst ended)
    have sameDb : middle = db' := congrArg Prod.snd ended
    subst reported middle
    have raising :=
      run_maybeCreateRisk_raising agentId
        (severityOf severities result.checkId) envs db
    rw [attempted] at raising
    cases raising with
    | noThreat absent => exact RiskAccount.none agentId db
    | present threat chosen raised => exact RiskAccount.none agentId db
    | inserted threat chosen unraised riskId left effect =>
        have compliance := findComplianceThreat_some chosen
        exact riskAccount_inserted
          ⟨mem_listThreats.mp compliance.1, compliance.2⟩ effect
  · split at handled
    · rcases Program.run_bind_eq_ok handled with ⟨did, middle, attempted, ended⟩
      have reported := Except.ok.inj (congrArg Prod.fst ended)
      have sameDb : middle = db' := congrArg Prod.snd ended
      subst reported middle
      have closing := run_maybeCloseRisk agentId envs db
      rw [attempted] at closing
      cases closing with
      | nothing absent => exact RiskAccount.none agentId db
      | closed env threat row listed compliance member isOpen =>
          exact riskAccount_closed env ⟨mem_listThreats.mp listed, compliance⟩
            member isOpen
    · have reported := Except.ok.inj (congrArg Prod.fst handled)
      have sameDb : db = db' := congrArg Prod.snd handled
      subst reported db'
      exact RiskAccount.none agentId db

/-! ## One batch -/

theorem run_evaluateFrom_account {agentId : Uuid} {severities : CheckSeverities}
    {results : List CheckResult} {summary summary' : RiskTriggerSummary}
    {envs : Nat -> Env} {db db' : Db}
    (evaluated :
      Program.run exec (evaluateFrom agentId severities summary results) envs db =
        (.ok summary', db')) :
    Exists fun created => Exists fun closed =>
      summary' = ⟨summary.created + created, summary.closed + closed⟩ ∧
      RiskAccount agentId created closed db db' := by
  induction results generalizing summary envs db with
  | nil =>
      have sameDb : db = db' := congrArg Prod.snd evaluated
      have sameSummary := Except.ok.inj (congrArg Prod.fst evaluated)
      subst sameDb sameSummary
      exact ⟨0, 0, rfl, RiskAccount.none agentId db⟩
  | cons result rest ih =>
      rcases Program.run_bind_eq_ok evaluated with
        ⟨change, middle, handled, others⟩
      have first := run_handleResult_account handled
      rcases ih others with ⟨created, closed, same, second⟩
      refine ⟨change.creations + created, change.closings + closed, ?_,
        first.trans second⟩
      rw [same, RiskTriggerSummary.record_eq, Nat.add_assoc, Nat.add_assoc]

/-- A risk that is not open, of another agent or on another threat is left as it
is. -/
theorem RiskAccount.untouched {agentId : Uuid} {created closed : Nat}
    {db db' : Db} (account : RiskAccount agentId created closed db db')
    {row : RiskRow} (member : row ∈ db.risks.rows)
    (other : row.status ≠ .«open» ∨ ¬ row.OfTrigger agentId db.threats.rows) :
    row ∈ db'.risks.rows := by
  rcases account.rows with ⟨change, news, rows, settles, _⟩
  rw [rows, ← (settles row).untouched other]
  exact List.mem_append_left _ (List.mem_map_of_mem member)

/-- Whatever the database, the agent, the batch and the severities, an evaluation
that returns accounts for everything that happened to the table of risks. -/
theorem evaluate_accounts {agentId : Uuid} {results : List CheckResult}
    {severities : CheckSeverities} {envs : Nat -> Env} {db db' : Db}
    {summary : RiskTriggerSummary}
    (evaluated : Program.run exec (evaluate agentId results severities) envs db =
      (.ok summary, db')) :
    RiskAccount agentId summary.created summary.closed db db' ∧
    forall row, row ∈ db.risks.rows -> row.status ≠ .«open» ∨
      ¬ row.OfTrigger agentId db.threats.rows ->
      row ∈ db'.risks.rows := by
  rcases run_evaluateFrom_account evaluated with ⟨created, closed, same, account⟩
  rw [Nat.zero_add, Nat.zero_add] at same
  rw [same]
  exact ⟨account, fun row member other => account.untouched member other⟩

/-- The check fails, is repaired, and fails again in one batch. -/
def relapsed : List CheckResult :=
  [false, true, false].map fun passed =>
    { midnightResult "1b4e28ba-2fa1-11d2-883f-0016d3cca427" with
      passed := passed }

/-- Every statement draws an identifier of its own. -/
def drawing (first : Nat) : Nat -> Env :=
  fun n => quietly (BitVec.ofNat 128 (first + n)) 0

theorem evaluate_accounts_relapsed :
    RiskAccount 7 2 1 threatenedDb
      (Program.run exec (evaluate 7 relapsed failedCall.checkSeverities)
        (drawing 71) threatenedDb).2 := by
  refine (@evaluate_accounts 7 relapsed failedCall.checkSeverities
    (drawing 71) threatenedDb _ ⟨2, 1⟩
    (Prod.ext ?_ rfl)).1
  decide +kernel

end Complyx
