import Complyx.Ingest.OpenRisks

namespace Complyx

open Transition Relational

/-!
# Does an open risk cover every failing check?

A failed result of a critical check leaves an open risk on a compliance
threat, and a passed result of any check takes one away.  So only the number
of open risks matters: a pass uncovers the agent exactly if it takes the last
one while another critical check is failing.

The state of a run is the database together with the results processed so
far, the latter only to speak about.  A batch is a sequence of turns, one for
each result, up to the first one that fails.
-/

structure Watched where
  db : Db
  processed : List CheckResult := []

section Agent

variable (agentId : Uuid) (severities : CheckSeverities)

/-- One result and the environments it is handled in. -/
abbrev Turn := CheckResult × (Nat -> Env)

/-- The execution of a turn. -/
def Watched.handle (state : Watched) (turn : Turn) :
    Except (Fault IngesterError) RiskChange × Db :=
  Program.run exec (handleResult agentId severities turn.1) turn.2 state.db

/-- A result counts as processed when it was handled without an error. -/
def Watched.turn (state : Watched) (turn : Turn) : Watched where
  db := (state.handle agentId severities turn).2
  processed :=
    if (state.handle agentId severities turn).1.isOk then
      state.processed ++ [turn.1] else state.processed

/-- The turns of a batch, up to the first that fails. -/
def turns : List CheckResult -> (Nat -> Env) -> Db -> List Turn
  | [], _, _ => []
  | result :: rest, envs, db =>
      (result, envs) ::
        match Program.run exec (handleResult agentId severities result)
            envs db with
        | (.ok _, db') =>
            turns rest
              (fun n =>
                envs
                  (n + Program.calls exec (handleResult agentId severities result)
                    envs db)) db'
        | (.error _, _) => []

/-- The results of a batch that were handled without an error. -/
def handled (results : List CheckResult) (envs : Nat -> Env)
    (state : Watched) : List CheckResult :=
  (after (Watched.turn agentId severities) { state with processed := [] }
    (turns agentId severities results envs state.db)).processed

/-- A call of `evaluate`, the batch and the environments of its statements. -/
abbrev EvaluateCall := List CheckResult × (Nat -> Env)

def Watched.evaluate (state : Watched) (call : EvaluateCall) : Watched where
  db :=
    (Program.run exec (Complyx.evaluate agentId call.1 severities)
      call.2 state.db).2
  processed := state.processed ++ handled agentId severities call.1 call.2 state

/-! ## Failing checks and open risks -/

/-- The result of the check that was processed last. -/
def lastProcessed (processed : List CheckResult)
    (checkId : String) : Option CheckResult :=
  processed.reverse.find? fun result => result.checkId = checkId

/-- The check is critical and its last result is a failure. -/
def stillFailing (processed : List CheckResult) (checkId : String) : Bool :=
  isCritical (severityOf severities checkId) &&
    (lastProcessed processed checkId).any fun result => !result.passed

/-- The risk is an open one of the agent on a compliance threat. -/
def RiskRow.covers (threats : List ThreatRow) (row : RiskRow) : Bool :=
  row.agentId = agentId && row.status = .«open» &&
    threats.any fun threat => isComplianceThreat threat &&
      threat.id = row.threatId

/-- A failing critical check is covered by an open risk. -/
def Covered (state : Watched) : Prop :=
  (Exists fun checkId =>
    stillFailing severities state.processed checkId = true) ->
    Exists fun row => row ∈ state.db.risks.rows ∧
      row.covers agentId state.db.threats.rows = true

/-- The number of open risks of the agent on compliance threats. -/
def coverage (db : Db) : Nat :=
  db.risks.rows.countP fun row => row.covers agentId db.threats.rows

/-- A result that passes is processed only when no other check is failing or
two risks are open. -/
def ClosesSafely (state : Watched) (turn : Turn) : Prop :=
  turn.1.passed = true -> (state.handle agentId severities turn).1.isOk = true ->
    (forall other, other ∈ state.processed -> other.checkId ≠ turn.1.checkId ->
      stillFailing severities state.processed other.checkId = false) ∨
    2 ≤ coverage agentId state.db

instance (state : Watched) (turn : Turn) :
    Decidable (ClosesSafely agentId severities state turn) :=
  inferInstanceAs (Decidable (_ -> _))

/-- Every turn of the batch closes safely. -/
def SafeBatch (state : Watched) (call : EvaluateCall) : Prop :=
  Meets (Watched.turn agentId severities) (ClosesSafely agentId severities) state
    (turns agentId severities call.1 call.2 state.db)

instance (state : Watched) (call : EvaluateCall) :
    Decidable (SafeBatch agentId severities state call) :=
  inferInstanceAs (Decidable (Meets _ _ _ _))

end Agent

variable {agentId : Uuid} {severities : CheckSeverities}

/-! ## A batch is a sequence of turns -/

theorem after_turns_db (results : List CheckResult) (summary : RiskTriggerSummary)
    (envs : Nat -> Env) (state : Watched) :
    (after (Watched.turn agentId severities) state
      (turns agentId severities results envs state.db)).db =
      (Program.run exec (evaluateFrom agentId severities summary results) envs
        state.db).2 := by
  induction results generalizing summary envs state with
  | nil => rfl
  | cons result rest ih =>
      rw [turns, after_cons, evaluateFrom]
      have stepped : (Watched.turn agentId severities state (result, envs)).db =
          (Program.run exec (handleResult agentId severities result) envs
            state.db).2 := rfl
      cases outcome :
          Program.run exec (handleResult agentId severities result) envs
            state.db with
      | mk answer db' =>
          rw [outcome] at stepped
          cases answer with
          | error failure =>
              rw [Program.run_bind_error outcome]
              exact stepped
          | ok change =>
              rw [Program.run_bind_ok outcome]
              simp only
              have later := ih (summary.record change)
                (fun n =>
                  envs
                    (n + Program.calls exec
                      (handleResult agentId severities result) envs state.db))
                (Watched.turn agentId severities state (result, envs))
              rw [stepped] at later
              exact later

theorem after_turns_processed (labels : List Turn) (state : Watched) :
    (after (Watched.turn agentId severities) state labels).processed =
      state.processed ++ (after (Watched.turn agentId severities)
        { state with processed := [] } labels).processed := by
  induction labels generalizing state with
  | nil => exact (List.append_nil state.processed).symm
  | cons label rest ih =>
      rw [after_cons, after_cons, ih,
        ih (Watched.turn agentId severities { state with processed := [] } label)]
      rw [← List.append_assoc]
      congr 1
      have sameHandling :
          Watched.handle agentId severities { state with processed := [] } label =
          Watched.handle agentId severities state label := rfl
      simp only [Watched.turn, sameHandling]
      split
      · rfl
      · exact (List.append_nil state.processed).symm

/-- A batch leads to the state its turns lead to. -/
theorem evaluate_eq_after (state : Watched) (call : EvaluateCall) :
    state.evaluate agentId severities call =
      after (Watched.turn agentId severities) state
        (turns agentId severities call.1 call.2 state.db) := by
  have sameDb := @after_turns_db agentId severities call.1 {} call.2 state
  have sameProcessed := @after_turns_processed agentId severities
    (turns agentId severities call.1 call.2 state.db) state
  exact congr (congrArg Watched.mk sameDb.symm) sameProcessed.symm

/-! ## Counting open risks -/

theorem RiskRow.covers_iff {threats : List ThreatRow} {row : RiskRow} :
    row.covers agentId threats = true <->
      Exists fun threat => threat ∈ threats ∧ isComplianceThreat threat = true ∧
        row.isOpenFor agentId threat.id = true := by
  simp only [covers, Bool.and_eq_true, decide_eq_true_eq, List.any_eq_true,
    isOpenFor_iff]
  constructor
  · rintro ⟨⟨agent, status⟩, threat, member, compliance, same⟩
    exact ⟨threat, member, compliance, agent, same.symm, status⟩
  · rintro ⟨threat, member, compliance, agent, same, status⟩
    exact ⟨⟨agent, status⟩, threat, member, compliance, same.symm⟩

theorem coverage_pos_iff {db : Db} :
    0 < coverage agentId db <->
      Exists fun row => row ∈ db.risks.rows ∧
        row.covers agentId db.threats.rows = true :=
  List.countP_pos_iff

theorem coverage_inserted {db db' : Db} {threat : ThreatRow} {riskId : Uuid}
    (compliance : ComplianceThreat db threat)
    (inserted : RiskInserted db db' agentId threat.id riskId) :
    0 < coverage agentId db' := by
  rcases inserted.rows with ⟨row, _, isOpen, rows⟩
  have sameThreats : db'.threats = db.threats := by rw [inserted.frame]
  refine coverage_pos_iff.mpr
    ⟨row, ?_, RiskRow.covers_iff.mpr ⟨threat, ?_, compliance.2, isOpen⟩⟩
  · rw [rows]
    exact List.mem_append_right _ (List.mem_singleton_self row)
  · rw [sameThreats]
    exact compliance.1

theorem coverage_closed {db : Db} (env : Env) {row : RiskRow}
    (member : row ∈ db.risks.rows)
    (covers : row.covers agentId db.threats.rows = true) :
    coverage agentId (setRiskStatus env row.id .closed db) + 1 =
      coverage agentId db := by
  unfold coverage
  rw [setRiskStatus_rows]
  apply Table.countP_map_one (db.risks.nodup fun _ => rfl) member covers
  · rw [if_pos rfl, RiskRow.covers]
    simp only [reduceCtorEq, decide_false, Bool.and_false, Bool.false_and]
  · intro other otherMember different
    have differentId : other.id ≠ row.id := fun same =>
      different
        (Table.eq_of_key (fun _ _ same => same) db.risks otherMember member same)
    rw [if_neg differentId]

/-! ## One turn -/

/-- How the handling of one result ends, as far as coverage goes. -/
inductive Handling (agentId : Uuid) (severities : CheckSeverities) (db : Db)
    (result : CheckResult) :
    Except (Fault IngesterError) RiskChange × Db -> Prop where
  | failed (failure : Fault IngesterError) :
      Handling agentId severities db result (.error failure, db)
  | ignored (failure : result.passed = false)
      (harmless : isCritical (severityOf severities result.checkId) = false) :
      Handling agentId severities db result (.ok .none, db)
  | opened (change : RiskChange) (db' : Db) (failure : result.passed = false)
      (threats : db'.threats = db.threats) (covered : 0 < coverage agentId db') :
      Handling agentId severities db result (.ok change, db')
  | closed (change : RiskChange) (db' : Db) (pass : result.passed = true)
      (threats : db'.threats = db.threats)
      (dropped : coverage agentId db' = coverage agentId db - 1) :
      Handling agentId severities db result (.ok change, db')

private theorem handling_failure {db : Db} {result : CheckResult}
    {threat : ThreatRow} (compliance : ComplianceThreat db threat)
    (failure : result.passed = false) (severity : String) (envs : Nat -> Env) :
    Handling agentId severities db result
      (Program.run exec (maybeCreateRisk agentId severity >>= fun made =>
        return if made then .created else .none) envs db) := by
  have opening := run_maybeCreateRisk agentId severity envs db
  rw [Program.run_bind]
  generalize Program.run exec (maybeCreateRisk agentId severity) envs db =
    outcome at opening ⊢
  cases opening with
  | failed reason => exact Handling.failed reason
  | noThreat absent =>
      rcases findComplianceThreat_isSome severity
        (mem_listThreats.mpr compliance.1) compliance.2 with ⟨found, present⟩
      rw [present] at absent
      cases absent
  | present other row otherCompliance member isOpen =>
      refine Handling.opened _ db failure rfl
        (coverage_pos_iff.mpr ⟨row, member, ?_⟩)
      exact RiskRow.covers_iff.mpr
        ⟨other, otherCompliance.1, otherCompliance.2, isOpen⟩
  | inserted other riskId db' otherCompliance effect =>
      refine Handling.opened _ db' failure ?_
        (coverage_inserted otherCompliance effect)
      rw [effect.frame]

theorem handling_pass {db : Db} {result : CheckResult}
    (pass : result.passed = true) (envs : Nat -> Env) :
    Handling agentId severities db result
      (Program.run exec (maybeCloseRisk agentId >>= fun did =>
        return if did then .closed else .none) envs db) := by
  have closing := run_maybeCloseRisk agentId envs db
  rw [Program.run_bind]
  generalize Program.run exec (maybeCloseRisk agentId) envs db =
    outcome at closing ⊢
  cases closing with
  | failed reason => exact Handling.failed reason
  | nothing none =>
      refine Handling.closed _ db pass rfl ?_
      have uncovered : coverage agentId db = 0 := by
        by_contra positive
        rcases coverage_pos_iff.mp (Nat.pos_of_ne_zero positive) with
          ⟨row, member, covers⟩
        rcases RiskRow.covers_iff.mp covers with
          ⟨threat, threatMember, compliance, isOpen⟩
        exact none threat (mem_listThreats.mpr threatMember) compliance row
          member isOpen
      rw [uncovered]
  | closed env threat row listed compliance member isOpen =>
      refine Handling.closed _ _ pass rfl ?_
      have covers : row.covers agentId db.threats.rows = true :=
        RiskRow.covers_iff.mpr
          ⟨threat, mem_listThreats.mp listed, compliance, isOpen⟩
      exact Nat.eq_sub_of_add_eq (coverage_closed env member covers)

theorem run_handleResult {db : Db} {threat : ThreatRow}
    (compliance : ComplianceThreat db threat) (result : CheckResult)
    (envs : Nat -> Env) :
    Handling agentId severities db result
      (Program.run exec (handleResult agentId severities result) envs db) := by
  unfold handleResult
  dsimp only
  split
  · next critical =>
    rw [Bool.and_eq_true, Bool.not_eq_true'] at critical
    exact handling_failure compliance critical.1 _ envs
  · next harmless =>
    split
    · next pass => exact handling_pass pass envs
    · next failure =>
      rw [Bool.not_eq_true] at failure
      refine Handling.ignored failure ?_
      rw [failure, Bool.not_false, Bool.true_and, Bool.not_eq_true] at harmless
      exact harmless

/-! ## Which checks are failing -/

theorem lastProcessed_concat (processed : List CheckResult) (result : CheckResult)
    (checkId : String) :
    lastProcessed (processed ++ [result]) checkId =
      if result.checkId = checkId then some result
      else lastProcessed processed checkId := by
  rw [lastProcessed, List.reverse_append, List.reverse_singleton,
    List.singleton_append, List.find?_cons]
  by_cases same : result.checkId = checkId
  · simp only [same, decide_true, if_true]
  · simp only [same, decide_false, if_false]
    rfl

theorem stillFailing_concat_self (processed : List CheckResult)
    (result : CheckResult) :
    stillFailing severities (processed ++ [result]) result.checkId =
      (isCritical (severityOf severities result.checkId) && !result.passed) := by
  rw [stillFailing, lastProcessed_concat, if_pos rfl]
  rfl

theorem stillFailing_concat_other {processed : List CheckResult}
    {result : CheckResult} {checkId : String} (other : result.checkId ≠ checkId) :
    stillFailing severities (processed ++ [result]) checkId =
      stillFailing severities processed checkId := by
  rw [stillFailing, lastProcessed_concat, if_neg other, stillFailing]

theorem stillFailing_mem {processed : List CheckResult} {checkId : String}
    (failing : stillFailing severities processed checkId = true) :
    Exists fun result => result ∈ processed ∧ result.checkId = checkId := by
  rw [stillFailing, Bool.and_eq_true] at failing
  rcases (Option.any_eq_true _ _).mp failing.2 with ⟨result, last, _⟩
  have found := List.find?_some last
  exact ⟨result, List.mem_reverse.mp (List.mem_of_find?_eq_some last),
    of_decide_eq_true found⟩

/-- A turn leaves the agent covered exactly if it closes safely. -/
theorem covered_turn_iff {state : Watched} {threat : ThreatRow}
    (compliance : ComplianceThreat state.db threat)
    (covered : Covered agentId severities state) (turn : Turn) :
    Covered agentId severities (state.turn agentId severities turn) <->
      ClosesSafely agentId severities state turn := by
  have handling :
      Handling agentId severities state.db turn.1
        (state.handle agentId severities turn) :=
    run_handleResult compliance turn.1 turn.2
  unfold Watched.turn ClosesSafely
  generalize state.handle agentId severities turn = outcome at handling ⊢
  cases handling with
  | failed failure =>
      refine iff_of_true covered ?_
      intro _ impossible
      cases impossible
  | ignored failure harmless =>
      refine iff_of_true ?_ ?_
      · rintro ⟨checkId, failing⟩
        by_cases here : turn.1.checkId = checkId
        · rw [← here] at failing
          have critical :=
            (stillFailing_concat_self state.processed turn.1).symm.trans failing
          rw [harmless] at critical
          cases critical
        · exact covered
            ⟨checkId, (stillFailing_concat_other here).symm.trans failing⟩
      · intro pass
        rw [failure] at pass
        cases pass
  | opened change db' failure threats positive =>
      refine iff_of_true ?_ ?_
      · intro _
        exact coverage_pos_iff.mp positive
      · intro pass
        rw [failure] at pass
        cases pass
  | closed change db' pass threats dropped =>
      constructor
      · intro stillCovered _ _
        by_cases two : 2 ≤ coverage agentId state.db
        · exact Or.inr two
        · left
          intro other member different
          rw [Bool.eq_false_iff]
          intro failing
          have positive := coverage_pos_iff.mpr (stillCovered
            ⟨other.checkId,
              (stillFailing_concat_other (Ne.symm different)).trans failing⟩)
          simp only at positive
          omega
      · rintro safe ⟨checkId, failing⟩
        have other : turn.1.checkId ≠ checkId := by
          intro here
          rw [← here] at failing
          have impossible :=
            (stillFailing_concat_self state.processed turn.1).symm.trans failing
          rw [pass, Bool.not_true, Bool.and_false] at impossible
          cases impossible
        have before := (stillFailing_concat_other other).symm.trans failing
        rcases safe pass rfl with alone | two
        · rcases stillFailing_mem before with ⟨result, member, same⟩
          have cleared := alone result member (same ▸ Ne.symm other)
          rw [same, before] at cleared
          cases cleared
        · exact coverage_pos_iff.mp (by simp only; omega)

/-! ## Runs -/

private theorem turn_threats {state : Watched} {threat : ThreatRow}
    (compliance : ComplianceThreat state.db threat) (turn : Turn) :
    ComplianceThreat (state.turn agentId severities turn).db threat := by
  have handling :
      Handling agentId severities state.db turn.1
        (state.handle agentId severities turn) :=
    run_handleResult compliance turn.1 turn.2
  unfold Watched.turn
  generalize state.handle agentId severities turn = outcome at handling ⊢
  cases handling with
  | failed failure => exact compliance
  | ignored failure harmless => exact compliance
  | opened change db' failure threats positive =>
      exact ⟨threats ▸ compliance.1, compliance.2⟩
  | closed change db' pass threats dropped =>
      exact ⟨threats ▸ compliance.1, compliance.2⟩

/-- The agent is covered, and there is a threat to open risks for. -/
structure CoverageInvariant (agentId : Uuid) (severities : CheckSeverities)
    (threat : ThreatRow) (state : Watched) : Prop where
  compliance : ComplianceThreat state.db threat
  covered : Covered agentId severities state

/-- Where a property is kept by a turn exactly if the turn is allowed, a run of
evaluations keeps it whenever all turns of its batches are allowed, and only
then where the batches have one result each. -/
theorem evaluations_of_turns {allowed : Watched -> Turn -> Prop}
    {invariant property : Watched -> Prop}
    (implies : forall state, invariant state -> property state)
    (preserved : forall state turn, invariant state -> allowed state turn ->
      invariant (state.turn agentId severities turn))
    (necessary : forall state turn, invariant state ->
      property (state.turn agentId severities turn) ->
      allowed state turn) {start : Watched} (inside : invariant start)
    (calls : List EvaluateCall) :
    let batch := fun (state : Watched) (call : EvaluateCall) =>
      Meets (Watched.turn agentId severities) allowed state
        (turns agentId severities call.1 call.2 state.db)
    (Meets (Watched.evaluate agentId severities) batch start calls ->
      Always (Watched.evaluate agentId severities) property start calls) ∧
    ((forall call, call ∈ calls -> call.1.length ≤ 1) ->
      Always (Watched.evaluate agentId severities) property start calls ->
      Meets (Watched.evaluate agentId severities) batch start calls) := by
  intro batch
  have evaluated : forall state call, invariant state -> batch state call ->
      invariant (state.evaluate agentId severities call) := by
    intro state call inside permitted
    rw [evaluate_eq_after]
    exact (always_of_meets preserved inside permitted).last
  have single : forall state call, invariant state -> call.1.length ≤ 1 ->
      property (state.evaluate agentId severities call) -> batch state call := by
    rintro state ⟨results, envs⟩ inside short kept
    rw [evaluate_eq_after] at kept
    cases results with
    | nil => trivial
    | cons result rest =>
        have none : rest = [] :=
          List.eq_nil_of_length_eq_zero
            (Nat.le_zero.mp (Nat.le_of_succ_le_succ short))
        subst rest
        have alone :
            turns agentId severities [result] envs state.db =
              [(result, envs)] := by
          rw [turns]
          split <;> rfl
        simp only [alone, after_cons, after_nil] at kept
        simp only [batch, alone, Meets, and_true]
        exact necessary state (result, envs) inside kept
  constructor
  · intro meets
    exact (always_of_meets evaluated inside meets).mono implies
  · intro short always
    induction calls generalizing start with
    | nil => trivial
    | cons call rest ih =>
        have next := (always_cons.mp always).2
        have permitted :=
          single start call inside (short call List.mem_cons_self) next.first
        refine ⟨permitted, ih (evaluated start call inside permitted) ?_ next⟩
        intro other member
        exact short other (List.mem_cons_of_mem _ member)

/-- Where the database has a compliance threat, every run of evaluations whose
batches close safely keeps the agent covered.  Where the batches have one
result each, no other run does. -/
theorem safe_batches_keep_covered (agentId : Uuid) (severities : CheckSeverities)
    (db : Db) (threat : ThreatRow) (compliance : ComplianceThreat db threat)
    (calls : List EvaluateCall) :
    (Meets (Watched.evaluate agentId severities) (SafeBatch agentId severities)
      ⟨db, []⟩ calls ->
      Always (Watched.evaluate agentId severities) (Covered agentId severities)
        ⟨db, []⟩ calls) ∧
    ((forall call, call ∈ calls -> call.1.length ≤ 1) ->
      Always (Watched.evaluate agentId severities) (Covered agentId severities)
        ⟨db, []⟩ calls ->
      Meets (Watched.evaluate agentId severities) (SafeBatch agentId severities)
        ⟨db, []⟩ calls) := by
  have start : CoverageInvariant agentId severities threat ⟨db, []⟩ := by
    refine ⟨compliance, ?_⟩
    rintro ⟨checkId, failing⟩
    rcases stillFailing_mem failing with ⟨result, impossible, _⟩
    cases impossible
  refine evaluations_of_turns (fun state invariant => invariant.covered) ?_
    ?_ start calls
  · intro state turn invariant safe
    exact ⟨turn_threats invariant.compliance turn,
      (covered_turn_iff invariant.compliance invariant.covered turn).mpr safe⟩
  · intro state turn invariant covered
    exact (covered_turn_iff invariant.compliance invariant.covered turn).mp
      covered

/-- A check fails and then passes. -/
def repairedCheck : List EvaluateCall :=
  [(failedCall.results, quietly 41),
    ([midnightResult "1b4e28ba-2fa1-11d2-883f-0016d3cca427"], quietly 42)]

theorem safe_batches_keep_covered_repaired :
    Always (Watched.evaluate 7 failedCall.checkSeverities)
      (Covered 7 failedCall.checkSeverities) ⟨threatenedDb, []⟩
      repairedCheck := by
  refine (safe_batches_keep_covered 7 failedCall.checkSeverities threatenedDb
    ⟨31, "Configuration drift", none, some "Compliance", some (19 / 2),
      newYear.nanos⟩ ?_ repairedCheck).1 ?_
  · exact ⟨List.mem_singleton_self _, by decide +kernel⟩
  · decide +kernel

/-- Both checks are critical and fail, and then one of them passes. -/
def halfRepaired : List EvaluateCall :=
  [([{ midnightResult "1b4e28ba-2fa1-11d2-883f-0016d3cca427" with
    passed := false },
      { midnightResult "9f2c1a7e-3b4d-4c5e-8f60-718293a4b5c6" with
        passed := false }], quietly 41),
    ([midnightResult "9f2c1a7e-3b4d-4c5e-8f60-718293a4b5c6"], quietly 42)]

/-- The pass closes the only risk. -/
theorem pass_uncovers_other_check :
    ¬ Always (Watched.evaluate 7 fun _ => some "critical")
      (Covered 7 fun _ => some "critical") ⟨threatenedDb, []⟩
      halfRepaired := by
  intro always
  have failing : stillFailing (fun _ => some "critical")
      (after (Watched.evaluate 7 fun _ => some "critical")
        ⟨threatenedDb, []⟩ halfRepaired).processed
      "1b4e28ba-2fa1-11d2-883f-0016d3cca427" = true := by
    decide +kernel
  exact absurd (always.last ⟨_, failing⟩) (by decide +kernel)

end Complyx
