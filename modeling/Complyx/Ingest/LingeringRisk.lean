import Complyx.Ingest.RiskCoverage
import Complyx.Ingest.RiskLedger

namespace Complyx

open Transition

/-!
# Does an open risk outlive the failures?

Failures of two severities open risks for two threats, and a pass closes one
of them only, the first by the name of its threat.  So a risk lingers exactly
if the last pass finds two of them open.
-/

section Agent

variable (agentId : Uuid) (severities : CheckSeverities)

/-- Where no critical check is failing, no risk is open. -/
def Cleared (state : Watched) : Prop :=
  (forall checkId, stillFailing severities state.processed checkId = false) ->
    forall row, row ∈ state.db.risks.rows ->
      row.covers agentId state.db.threats.rows = false

/-- A result that passes is processed only while another check is failing or
at most one risk is open. -/
def ClosesFully (state : Watched) (turn : Turn) : Prop :=
  turn.1.passed = true -> (state.handle agentId severities turn).1.isOk = true ->
    (Exists fun other => other ∈ state.processed ∧
      other.checkId ≠ turn.1.checkId ∧
      stillFailing severities state.processed other.checkId = true) ∨
    coverage agentId state.db ≤ 1

instance (state : Watched) (turn : Turn) :
    Decidable (ClosesFully agentId severities state turn) :=
  inferInstanceAs (Decidable (_ -> _))

/-- Every turn of the batch closes fully. -/
def FullBatch (state : Watched) (call : EvaluateCall) : Prop :=
  Meets (Watched.turn agentId severities) (ClosesFully agentId severities) state
    (turns agentId severities call.1 call.2 state.db)

instance (state : Watched) (call : EvaluateCall) :
    Decidable (FullBatch agentId severities state call) :=
  inferInstanceAs (Decidable (Meets _ _ _ _))

end Agent

variable {agentId : Uuid} {severities : CheckSeverities}

theorem coverage_zero_iff {db : Db} :
    coverage agentId db = 0 <-> forall row, row ∈ db.risks.rows ->
      row.covers agentId db.threats.rows = false := by
  rw [coverage, List.countP_eq_zero]
  simp only [Bool.not_eq_true]

/-- A pass of the check makes no check failing and another one no longer. -/
theorem stillFailing_after_pass {processed : List CheckResult}
    {result : CheckResult} (pass : result.passed = true)
    (none : forall other, other ∈ processed -> other.checkId ≠ result.checkId ->
      stillFailing severities processed other.checkId =
        false) (checkId : String) :
    stillFailing severities (processed ++ [result]) checkId = false := by
  by_cases here : result.checkId = checkId
  · rw [← here, stillFailing_concat_self, pass, Bool.not_true, Bool.and_false]
  · rw [stillFailing_concat_other here, Bool.eq_false_iff]
    intro failing
    rcases stillFailing_mem failing with ⟨other, member, same⟩
    have harmless := none other member (same ▸ Ne.symm here)
    rw [same, failing] at harmless
    cases harmless

theorem cleared_after_failure {state : Watched}
    (cleared : Cleared agentId severities state) {result : CheckResult}
    {envs : Nat -> Env} {change : RiskChange} {db' : Db}
    (failure : result.passed = false)
    (handled : Program.run exec (handleResult agentId severities result) envs
      state.db = (.ok change, db')) :
    Cleared agentId severities ⟨db', state.processed ++ [result]⟩ := by
  intro none
  cases critical : isCritical (severityOf severities result.checkId) with
  | true =>
      have failing := none result.checkId
      rw [stillFailing_concat_self, critical, failure] at failing
      cases failing
  | false =>
      have idle :
          (state.db.ledger agentId).Idle (listThreats state.db) severities
            result := by
        rw [Ledger.Idle, failure, critical]
        trivial
      rw [(run_handleResult_effect handled).idle idle]
      apply cleared
      intro checkId
      by_cases here : result.checkId = checkId
      · rw [← here, stillFailing, critical, Bool.false_and]
      · rw [← stillFailing_concat_other here]
        exact none checkId

/-- A turn leaves the agent cleared exactly if it closes fully. -/
theorem cleared_turn_iff {state : Watched}
    (cleared : Cleared agentId severities state) (turn : Turn) :
    Cleared agentId severities (state.turn agentId severities turn) <->
      ClosesFully agentId severities state turn := by
  unfold Watched.turn ClosesFully
  cases handled : state.handle agentId severities turn with
  | mk answer db' =>
  cases answer with
  | error failure =>
      have sameDb : db' = state.db := run_handleResult_error handled
      subst sameDb
      refine iff_of_true cleared ?_
      intro _ impossible
      cases impossible
  | ok change =>
  cases pass : turn.1.passed with
  | false =>
      refine iff_of_true (cleared_after_failure cleared pass handled) ?_
      intro impossible
      cases impossible
  | true =>
      have handling :
          Handling agentId severities state.db turn.1
            (state.handle agentId severities turn) := by
        rw [Watched.handle, handleResult, pass]
        exact handling_pass pass turn.2
      rw [handled] at handling
      cases handling with
      | ignored failure harmless =>
          rw [pass] at failure
          cases failure
      | opened change db' failure threats covered =>
          rw [pass] at failure
          cases failure
      | closed change db' _ threats dropped =>
          constructor
          · intro cleared' _ _
            by_cases few : coverage agentId state.db ≤ 1
            · exact Or.inr few
            · left
              by_contra alone
              have none : forall other, other ∈ state.processed ->
                other.checkId ≠ turn.1.checkId ->
                  stillFailing severities state.processed other.checkId =
                    false := by
                intro other member different
                rw [Bool.eq_false_iff]
                exact fun failing => alone ⟨other, member, different, failing⟩
              have empty :=
                coverage_zero_iff.mpr (cleared' (stillFailing_after_pass pass none))
              simp only at empty
              omega
          · intro full none
            rcases full rfl rfl with ⟨other, _, different, failing⟩ | few
            · have cleared' :=
                (stillFailing_concat_other (Ne.symm different)).symm.trans
                  (none other.checkId)
              rw [failing] at cleared'
              cases cleared'
            · apply coverage_zero_iff.mp
              simp only
              omega

/-- From a database where the agent has no open risk, every run of evaluations
whose batches close fully leaves none open where no check is failing.  Where the
batches have one result each, no other run does. -/
theorem full_batches_leave_cleared (agentId : Uuid) (severities : CheckSeverities)
    (db : Db)
    (clear : forall row, row ∈ db.risks.rows ->
      row.covers agentId db.threats.rows = false)
    (calls : List EvaluateCall) :
    (Meets (Watched.evaluate agentId severities) (FullBatch agentId severities)
      ⟨db, []⟩ calls ->
      Always (Watched.evaluate agentId severities) (Cleared agentId severities)
        ⟨db, []⟩ calls) ∧
    ((forall call, call ∈ calls -> call.1.length ≤ 1) ->
      Always (Watched.evaluate agentId severities) (Cleared agentId severities)
        ⟨db, []⟩ calls ->
      Meets (Watched.evaluate agentId severities) (FullBatch agentId severities)
        ⟨db, []⟩ calls) := by
  have start : Cleared agentId severities ⟨db, []⟩ := fun _ => clear
  refine evaluations_of_turns (fun _ cleared => cleared) ?_ ?_ start calls
  · intro state turn cleared full
    exact (cleared_turn_iff cleared turn).mpr full
  · intro state turn cleared cleared'
    exact (cleared_turn_iff cleared turn).mp cleared'

theorem full_batches_leave_cleared_repaired :
    Always (Watched.evaluate 7 failedCall.checkSeverities)
      (Cleared 7 failedCall.checkSeverities) ⟨threatenedDb, []⟩
      repairedCheck := by
  refine (full_batches_leave_cleared 7 failedCall.checkSeverities threatenedDb ?_
    repairedCheck).1 ?_
  · decide
  · decide +kernel

/-! ## Two severities, two threats -/

def twoThreatsDb : Db :=
  { policedDb with
    threats :=
      ⟨[⟨31, "Configuration drift", none, some "Compliance", some (19 / 2),
          newYear.nanos⟩,
            ⟨32, "Weak baseline", none, some "Compliance", some (15 / 2),
              newYear.nanos⟩], by decide⟩ }

/-- The first check is critical, the second one high. -/
def twoSeverities : CheckSeverities := fun checkId =>
  if checkId = "1b4e28ba-2fa1-11d2-883f-0016d3cca427" then some "critical"
  else if checkId = "9f2c1a7e-3b4d-4c5e-8f60-718293a4b5c6" then some "high"
  else none

def reported (checkId : String) (passed : Bool) (fresh : Uuid) : EvaluateCall :=
  ([{ midnightResult checkId with passed := passed }], quietly fresh)

/-- Both checks fail, the second is repaired, the first fails once more and is
repaired. -/
def repairedInTurn : List EvaluateCall :=
  [reported "1b4e28ba-2fa1-11d2-883f-0016d3cca427" false 41,
    reported "9f2c1a7e-3b4d-4c5e-8f60-718293a4b5c6" false 42,
      reported "9f2c1a7e-3b4d-4c5e-8f60-718293a4b5c6" true 43,
      reported "1b4e28ba-2fa1-11d2-883f-0016d3cca427" false 44,
    reported "1b4e28ba-2fa1-11d2-883f-0016d3cca427" true 45]

/-- Each repair closes a risk for the first threat, and the one for the second
threat stays. -/
theorem risk_outlives_failures :
    twoThreatsDb.risks.rows = [] ∧
    ¬ Always (Watched.evaluate 7 twoSeverities) (Cleared 7 twoSeverities)
      ⟨twoThreatsDb, []⟩ repairedInTurn := by
  refine ⟨rfl, ?_⟩
  intro always
  have repaired : forall result,
      result ∈ (after (Watched.evaluate 7 twoSeverities)
        ⟨twoThreatsDb, []⟩ repairedInTurn).processed ->
      stillFailing twoSeverities
        (after (Watched.evaluate 7 twoSeverities)
          ⟨twoThreatsDb, []⟩ repairedInTurn).processed
        result.checkId = false := by
    decide +kernel
  have lingering : Exists fun row =>
      row ∈ (after (Watched.evaluate 7 twoSeverities)
        ⟨twoThreatsDb, []⟩ repairedInTurn).db.risks.rows ∧
      row.covers 7 (after (Watched.evaluate 7 twoSeverities) ⟨twoThreatsDb, []⟩
        repairedInTurn).db.threats.rows = true := by
    decide +kernel
  rcases lingering with ⟨row, member, covers⟩
  have closed := always.last (by
    intro checkId
    rw [Bool.eq_false_iff]
    intro failing
    rcases stillFailing_mem failing with ⟨result, processed, same⟩
    have passing := repaired result processed
    rw [same, failing] at passing
    cases passing) row member
  rw [covers] at closed
  cases closed

end Complyx
