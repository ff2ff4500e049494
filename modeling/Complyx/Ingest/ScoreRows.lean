import Complyx.Ingest.Authorization
import Mathlib.Algebra.Order.Field.Rat
import Mathlib.Tactic.FieldSimp
import Mathlib.Tactic.Linarith

namespace Complyx

open Transition Relational

/-!
# What the score rows say

The row of an element counts its checks and those whose latest result is a
pass, whatever the row said before.  Which rows an agent has is another matter:
the query looks at every element with checks, assigned to the agent or not, and
nothing deletes a row.
-/

/-! ## Their content -/

/-- The agent's latest result of the check is a pass. -/
def PassesLatest (db : Db) (agentId checkId : Uuid) : Prop :=
  Exists fun row => Latest db agentId checkId row ∧ row.passed = true

theorem passesLatest_iff {db : Db} {agentId checkId : Uuid} :
    (latestResult agentId checkId db).any CheckResultRow.passed = true <->
      PassesLatest db agentId checkId := by
  rw [Option.any_eq_true, PassesLatest]
  exact exists_congr fun row => and_congr_left' latestResult_some_iff

instance (db : Db) (agentId checkId : Uuid) :
    Decidable (PassesLatest db agentId checkId) :=
  decidable_of_iff _ passesLatest_iff

/-- The checks of the element whose latest result is a pass. -/
def Db.passingChecks (db : Db) (agentId elementId : Uuid) : List PolicyCheckRow :=
  (db.checksOf elementId).filter fun check => PassesLatest db agentId check.id

/-- The row says how many checks the element has and how many of them pass. -/
structure ScoresElement (db : Db) (agentId elementId : Uuid)
    (row : ComplianceScoreRow) : Prop where
  total : row.totalChecks = (db.checksOf elementId).length
  passed : row.passedChecks = (db.passingChecks agentId elementId).length
  bounded : row.passedChecks ≤ row.totalChecks
  score : row.score = 100 * row.passedChecks / row.totalChecks
  nonnegative : 0 ≤ row.score
  atMost : row.score ≤ 100
  full : row.score = 100 <-> forall check, check ∈ db.checksOf elementId ->
    PassesLatest db agentId check.id

/-- A percentage of a part of a nonempty whole. -/
theorem percentage_bounds {part whole : Nat} (nonempty : 0 < whole)
    (bounded : part ≤ whole) :
    0 ≤ (100 * part / whole : Rat) ∧ (100 * part / whole : Rat) ≤ 100 ∧
      ((100 * part / whole : Rat) = 100 <-> part = whole) := by
  have positive : (0 : Rat) < whole := Nat.cast_pos.mpr nonempty
  have atMost : (part : Rat) ≤ whole := Nat.cast_le.mpr bounded
  refine ⟨?_, ?_, ?_⟩
  · exact div_nonneg (mul_nonneg (by norm_num) (Nat.cast_nonneg part)) positive.le
  · rw [div_le_iff₀ positive]
    linarith
  · rw [div_eq_iff positive.ne', mul_right_inj' (by norm_num), Nat.cast_inj]

theorem passingChecks_eq (db : Db) (agentId elementId : Uuid) :
    db.passingChecks agentId elementId = (db.checksOf elementId).filter
      fun check =>
      (latestResult agentId check.id db).any CheckResultRow.passed := by
  unfold Db.passingChecks
  apply List.filter_congr
  intro check _
  rw [Bool.eq_iff_iff, decide_eq_true_eq, passesLatest_iff]

/-- What the query computes for an element that has checks. -/
theorem scoreOf_checked {db : Db} (agentId : Uuid) {element : PolicyElementRow}
    (member : element ∈ db.policyElements.rows)
    (checked : db.checksOf element.id ≠ []) :
    scoreOf agentId element.id db = some {
      policyId := element.policyId
      totalChecks := (db.checksOf element.id).length
      passedChecks := (db.passingChecks agentId element.id).length
      score := ((db.passingChecks agentId element.id).length : Rat) /
      (db.checksOf element.id).length * 100 } := by
  have lookup :=
    (Table.find_eq_some_iff PolicyElementRow.id_separates).mpr ⟨member, rfl⟩
  rw [scoreOf, lookup, Option.bind_some, elementScore,
    if_neg (fun empty => checked (List.isEmpty_iff.mp empty)), ← passingChecks_eq]
  rfl

/-- A row with the content the query computes scores its element. -/
theorem scoresElement_of_content {db : Db} {agentId : Uuid}
    {element : PolicyElementRow} {row : ComplianceScoreRow} {score : ScoreContent}
    {old : Option ScoreContent} (member : element ∈ db.policyElements.rows)
    (checked : db.checksOf element.id ≠ [])
    (scored : scoreOf agentId element.id db = some score)
    (content : row.content = score.over old) :
    ScoresElement db agentId element.id row := by
  rw [scoreOf_checked agentId member checked] at scored
  have same := Option.some.inj scored
  subst score
  have total : row.totalChecks = (db.checksOf element.id).length :=
    congrArg ScoreContent.totalChecks content
  have passed : row.passedChecks = (db.passingChecks agentId element.id).length :=
    congrArg ScoreContent.passedChecks content
  have bounded : row.passedChecks ≤ row.totalChecks := by
    rw [passed, total]
    exact List.length_filter_le _ _
  have score : row.score = 100 * row.passedChecks / row.totalChecks := by
    rw [passed, total]
    calc
      row.score = ((db.passingChecks agentId element.id).length : Rat) /
          (db.checksOf element.id).length * 100 :=
        congrArg ScoreContent.score content
      _ = 100 * (db.passingChecks agentId element.id).length /
        (db.checksOf element.id).length := by ring
  have bounds :=
    percentage_bounds (total ▸ List.length_pos_iff.mpr checked) bounded
  rw [← score] at bounds
  refine ⟨total, passed, bounded, score, bounds.1, bounds.2.1,
    bounds.2.2.trans ?_⟩
  rw [passed, total, Db.passingChecks, List.length_filter_eq_length_iff]
  simp only [decide_eq_true_eq]

/-- After a successful upsert the agent has exactly one row for each element
with checks, and it says what the latest results say. -/
theorem scores_every_element (env : Env) (agentId : Uuid) (db db' : Db)
    (stored : List ComplianceScoreRow)
    (success : exec env (.upsertComplianceScores agentId) db = .ok (stored, db'))
    (element : PolicyElementRow) (member : element ∈ db.policyElements.rows)
    (checked : db.checksOf element.id ≠ []) :
    Exists fun row => row ∈ db'.complianceScores.rows ∧
      row.scoreKey = (agentId, element.id) ∧
      ScoresElement db agentId element.id row ∧
      forall other, other ∈ db'.complianceScores.rows ->
        other.scoreKey = (agentId, element.id) -> other = row := by
  have effect :=
    congrFun (upsertComplianceScores_scoreAt (exec_ok success).2)
      (agentId, element.id)
  have scored := scoreOf_checked agentId member checked
  rw [rescored, if_pos rfl, scored, Db.scoreAt, scoreIn] at effect
  rcases Option.map_eq_some_iff.mp effect with ⟨row, found, content⟩
  have present := Table.find_some found
  refine ⟨row, present.1, present.2,
    scoresElement_of_content member checked scored content, ?_⟩
  intro other otherMember itsKey
  exact Table.eq_of_key ComplianceScoreRow.scoreKey_separates db'.complianceScores
    otherMember present.1
    (itsKey.trans present.2.symm)

/-- The assigned check failed and passed a minute later. -/
def repairedDb : Db :=
  { policedDb with
    checkResults :=
      ⟨[⟨51, 7, assignedCheck, false, "", none, none, newYear.nanos,
          newYear.nanos⟩,
            ⟨52, 7, assignedCheck, true, "", none, none,
              newYear.nanos + 60 * nanosPerSec, newYear.nanos⟩], by decide⟩
    complianceScores := ⟨[⟨7, 11, 21, 3, 0, 0, newYear.nanos⟩], by decide⟩ }

theorem scores_every_element_repaired :
    Exists fun stored => Exists fun db' => Exists fun row =>
      exec (quietly 1 0) (.upsertComplianceScores 7) repairedDb =
        .ok (stored, db') ∧
      row ∈ db'.complianceScores.rows ∧ row.scoreKey = (7, 11) ∧
        ScoresElement repairedDb 7 11 row := by
  cases outcome : exec (quietly 1 0) (.upsertComplianceScores 7) repairedDb with
  | error failure =>
      have succeeds :
          (exec (quietly 1 0) (.upsertComplianceScores 7) repairedDb).isOk =
            true := by decide +kernel
      rw [outcome] at succeeds
      cases succeeds
  | ok pair =>
      rcases scores_every_element (quietly 1 0) 7 repairedDb pair.2 pair.1 outcome
        ⟨11, 21, none⟩
        List.mem_cons_self (by decide +kernel) with
          ⟨row, member, itsKey, scores, _⟩
      exact ⟨pair.1, pair.2, row, rfl, member, itsKey, scores⟩

/-! ## Their domain -/

/-- The element has checks. -/
def Db.Checked (db : Db) (elementId : Uuid) : Prop :=
  Exists fun element => element ∈ db.policyElements.rows ∧
    element.id = elementId ∧ db.checksOf elementId ≠ []

/-- The element has checks and belongs to a policy assigned to the agent. -/
def Db.Scorable (db : Db) (agentId elementId : Uuid) : Prop :=
  Exists fun element => element ∈ db.policyElements.rows ∧
    element.id = elementId ∧ db.checksOf elementId ≠ [] ∧
    db.policyAssigned agentId element.policyId = true

/-- The agent has a score row for the element. -/
def Db.HasScore (db : Db) (agentId elementId : Uuid) : Prop :=
  Exists fun row => row ∈ db.complianceScores.rows ∧
    row.scoreKey = (agentId, elementId)

/-- The rows `recalculate` gets back. -/
def returnedScores (agentId : Uuid) (envs : Nat -> Env) (db : Db) :
    List ComplianceScoreRow :=
  match exec (envs 0) (.upsertComplianceScores agentId) db with
  | .ok (stored, _) => stored
  | .error _ => []

/-- `global_score`, the mean over the rows returned. -/
def globalScore (scores : List ComplianceScoreRow) : Rat :=
  (scores.map ComplianceScoreRow.score).sum / scores.length

/-- The agent's rows, stored and returned, are those of the scorable elements. -/
structure ScoreDomain (db : Db) (agentId : Uuid)
    (returned : List ComplianceScoreRow) : Prop where
  stored : forall elementId, db.HasScore agentId elementId <->
    db.Scorable agentId elementId
  returned : forall elementId,
    (Exists fun row => row ∈ returned ∧ row.policyElementId = elementId) <->
      db.Scorable agentId elementId

/-- Every element with checks is of an assigned policy, and every row of the
agent is for an element that still has checks. -/
structure NothingForeign (db : Db) (agentId : Uuid) : Prop where
  assigned : forall element, element ∈ db.policyElements.rows ->
    db.checksOf element.id ≠ [] ->
    db.policyAssigned agentId element.policyId = true
  checked : forall elementId, db.HasScore agentId elementId ->
    db.Checked elementId

theorem scoreOf_isSome {db : Db} (agentId : Uuid) {elementId : Uuid} :
    (scoreOf agentId elementId db).isSome = true <-> db.Checked elementId := by
  rw [scoreOf]
  constructor
  · intro scored
    rcases Option.isSome_iff_exists.mp scored with ⟨score, computed⟩
    rcases Option.bind_eq_some_iff.mp computed with ⟨element, lookup, content⟩
    have present := Table.find_some lookup
    have some : (elementScore 0 agentId element db).isSome = true := by
      rw [← Option.isSome_map (f := ComplianceScoreRow.content), content]
      rfl
    exact ⟨element, present.1, present.2, present.2 ▸ elementScore_isSome.mp some⟩
  · rintro ⟨element, member, sameId, checked⟩
    have lookup :=
      (Table.find_eq_some_iff PolicyElementRow.id_separates).mpr ⟨member, sameId⟩
    rw [lookup, Option.bind_some, Option.isSome_map, elementScore_isSome, sameId]
    exact checked

theorem scoreAt_isSome {db : Db} {agentId elementId : Uuid} :
    (db.scoreAt (agentId, elementId)).isSome = true <->
      db.HasScore agentId elementId := by
  rw [Db.scoreAt, scoreIn, Option.isSome_map, Option.isSome_iff_exists,
    Db.HasScore]
  exact exists_congr fun row =>
    Table.find_eq_some_iff ComplianceScoreRow.scoreKey_separates

/-- The rows an upsert leaves: those for elements with checks, and those that
were there. -/
theorem hasScore_after {env : Env} {agentId elementId : Uuid} {db db' : Db}
    {stored : List ComplianceScoreRow}
    (accepted : upsertComplianceScores env agentId db = .ok (stored, db')) :
    db'.HasScore agentId elementId <-> db.Checked elementId ∨
      db.HasScore agentId elementId := by
  rw [← scoreAt_isSome, upsertComplianceScores_scoreAt accepted, rescored,
    if_pos rfl, ← scoreAt_isSome, ← scoreOf_isSome agentId]
  cases scoreOf agentId elementId db with
  | none =>
      rw [Option.isSome_none]
      rw [Bool.false_eq_true, false_or]
  | some score => exact iff_of_true rfl (Or.inl rfl)

/-- The rows an upsert returns are those for elements with checks. -/
theorem returned_after {env : Env} {agentId elementId : Uuid} {db db' : Db}
    {stored : List ComplianceScoreRow}
    (accepted : upsertComplianceScores env agentId db = .ok (stored, db')) :
    (Exists fun row => row ∈ stored ∧ row.policyElementId = elementId) <->
      db.Checked elementId := by
  constructor
  · rintro ⟨row, member, rfl⟩
    exact (scoreOf_isSome agentId).mp ((mem_stored accepted).mp member).2.2
  · intro checked
    rcases (hasScore_after accepted).mpr (Or.inl checked) with
      ⟨row, member, itsKey⟩
    have sameAgent : row.agentId = agentId := congrArg Prod.fst itsKey
    have sameElement : row.policyElementId = elementId := congrArg Prod.snd itsKey
    refine ⟨row, (mem_stored accepted).mpr ⟨member, sameAgent, ?_⟩, sameElement⟩
    rw [sameElement]
    exact (scoreOf_isSome agentId).mpr checked

theorem run_recalculate {agentId : Uuid} {envs : Nat -> Env} {db db' : Db}
    {updated : Nat}
    (recalculated : Program.run exec (recalculate agentId) envs db =
      (.ok updated, db')) :
    upsertComplianceScores (envs 0) agentId db =
      .ok (returnedScores agentId envs db, db') := by
  rw [recalculate, Program.run_attempt_bind] at recalculated
  rw [returnedScores]
  cases outcome : exec (envs 0) (.upsertComplianceScores agentId) db with
  | error failure =>
      rw [outcome] at recalculated
      cases congrArg Prod.fst recalculated
  | ok pair =>
      rcases pair with ⟨stored, left⟩
      rw [outcome] at recalculated
      have sameDb : left = db' := congrArg Prod.snd recalculated
      rw [← sameDb]
      exact (exec_ok outcome).2

/-- After a successful recalculation the agent's rows, stored and returned, are
those of its assigned elements with checks exactly if every element with checks
was assigned to it and none of its rows had lost its checks. -/
theorem score_domain_iff (agentId : Uuid) (envs : Nat -> Env) (db db' : Db)
    (updated : Nat)
    (recalculated : Program.run exec (recalculate agentId) envs db =
      (.ok updated, db')) :
    ScoreDomain db' agentId (returnedScores agentId envs db) <->
      NothingForeign db agentId := by
  have accepted := run_recalculate recalculated
  have samePolicies : forall {elementId}, db'.Scorable agentId elementId <->
      db.Scorable agentId elementId := by
    intro elementId
    rw [upsertComplianceScores_frame accepted]
    rfl
  have checked_of_scorable : forall {elementId}, db.Scorable agentId elementId ->
      db.Checked elementId := by
    rintro elementId ⟨element, member, sameId, checked, _⟩
    exact ⟨element, member, sameId, checked⟩
  constructor
  · intro domain
    refine ⟨?_, ?_⟩
    · intro element member checked
      have scored := (returned_after accepted).mpr ⟨element, member, rfl, checked⟩
      rcases samePolicies.mp ((domain.returned element.id).mp scored) with
        ⟨other, otherMember, sameId, _, assigned⟩
      rw [Table.eq_of_key PolicyElementRow.id_separates db.policyElements
        otherMember member sameId] at assigned
      exact assigned
    · intro elementId had
      have has := (hasScore_after accepted).mpr (Or.inr had)
      exact checked_of_scorable
        (samePolicies.mp ((domain.stored elementId).mp has))
  · intro nothing
    have scorable_of_checked : forall {elementId}, db.Checked elementId ->
        db.Scorable agentId elementId := by
      rintro elementId ⟨element, member, rfl, checked⟩
      exact ⟨element, member, rfl, checked,
        nothing.assigned element member checked⟩
    refine ⟨?_, ?_⟩
    · intro elementId
      rw [samePolicies, hasScore_after accepted]
      constructor
      · rintro (checked | had)
        · exact scorable_of_checked checked
        · exact scorable_of_checked (nothing.checked elementId had)
      · exact fun scorable => Or.inl (checked_of_scorable scorable)
    · intro elementId
      rw [samePolicies, returned_after accepted]
      exact ⟨scorable_of_checked, checked_of_scorable⟩

/-- The repaired check is the only one there is. -/
def singlePolicyDb : Db :=
  { repairedDb with
    policyElements := ⟨[⟨11, 21, none⟩], by decide⟩
    policyChecks := ⟨[⟨assignedCheck, 11, "sshd", none, "\x7b\x7d"⟩], by decide⟩ }

theorem score_domain_iff_single :
    ScoreDomain (Program.run exec (recalculate 7) (quietly 1) singlePolicyDb).2 7
      (returnedScores 7 (quietly 1) singlePolicyDb) := by
  refine (score_domain_iff 7 (quietly 1) singlePolicyDb _ 1 ?_).mpr ⟨?_, ?_⟩
  · exact Prod.ext (by decide +kernel) rfl
  · decide +kernel
  · rintro elementId ⟨row, member, itsKey⟩
    rw [List.mem_singleton.mp member] at itsKey
    have sameElement : 11 = elementId := congrArg Prod.snd itsKey
    subst sameElement
    exact ⟨⟨11, 21, none⟩, List.mem_singleton_self _, rfl, by decide +kernel⟩

/-- The repaired check's database after a recalculation. -/
def recalculatedDb : Db :=
    (Program.run exec (recalculate 7) (quietly 1) repairedDb).2

/-- An element of a policy the agent is not assigned halves its global score. -/
theorem foreign_element_scored :
    Program.run exec (recalculate 7) (quietly 1) repairedDb =
      (.ok 2, recalculatedDb) ∧
    globalScore (returnedScores 7 (quietly 1) repairedDb) = 50 ∧
    ¬ ScoreDomain recalculatedDb 7 (returnedScores 7 (quietly 1) repairedDb) := by
  refine ⟨Prod.ext (by decide +kernel) rfl, by decide +kernel, ?_⟩
  intro domain
  have scored : Exists fun row => row ∈ returnedScores 7 (quietly 1) repairedDb ∧
      row.policyElementId = 12 := by
    decide +kernel
  rcases (domain.returned 12).mp scored with
    ⟨element, member, sameId, _, assigned⟩
  have unassigned :
      forall element, element ∈ recalculatedDb.policyElements.rows ->
        element.id = 12 ->
      recalculatedDb.policyAssigned 7 element.policyId = false := by
    decide +kernel
  rw [unassigned element member sameId] at assigned
  cases assigned

end Complyx
