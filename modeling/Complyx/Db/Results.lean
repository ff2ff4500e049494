import Complyx.Db.Agents
import Complyx.Relational.Keyed

namespace Complyx

open Relational

/-!
# Queries on check results

Results are identified by agent, check and second of execution.  A row that is
already there is kept and the new one dropped, so inserting a batch adds the
keys of the batch and removes none.
-/

/-! ## Authorization of check identifiers -/

/-- The policy is assigned to the agent, directly or through one of its groups. -/
def Db.policyAssigned (db : Db) (agentId policyId : Uuid) : Bool :=
  (db.agentPolicies.rows.any fun ap => ap.agentId = agentId &&
    ap.policyId = policyId) ||
  (db.groupPolicies.rows.any fun gp => gp.policyId = policyId &&
    db.agentGroupMembership.rows.any fun agm => gp.groupId = agm.groupId &&
      agm.agentId = agentId)

/-- The rows of the query in `validate_check_ids_for_agent`. -/
def assignedChecks (agentId : Uuid) (checkIds : List Uuid)
    (db : Db) : List Uuid :=
  ((db.policyChecks.rows.filter fun pc => pc.id ∈ checkIds ∧
    db.policyElements.rows.any fun pe => pc.policyElementId = pe.id &&
      db.policyAssigned agentId pe.policyId).map
      PolicyCheckRow.id).dedup

/-- `validate_check_ids_for_agent`: the identifiers that are not valid. -/
def validateCheckIdsForAgent (agentId : Uuid) (checkIds : List Uuid)
    (db : Db) : List Uuid :=
  let validIds := assignedChecks agentId checkIds db
  checkIds.filter fun id => id ∉ validIds

/-- What the query is for: the check belongs to a policy assigned to the agent. -/
def Assigned (db : Db) (agentId checkId : Uuid) : Prop :=
  Exists fun check => Exists fun element =>
    check ∈ db.policyChecks.rows ∧ check.id = checkId ∧
    element ∈ db.policyElements.rows ∧ element.id = check.policyElementId ∧
    ((Exists fun direct => direct ∈ db.agentPolicies.rows ∧
      direct.agentId = agentId ∧
        direct.policyId = element.policyId) ∨
      (Exists fun grouped => Exists fun membership =>
        grouped ∈ db.groupPolicies.rows ∧ grouped.policyId = element.policyId ∧
        membership ∈ db.agentGroupMembership.rows ∧
          membership.groupId = grouped.groupId ∧
        membership.agentId = agentId))

theorem Db.policyAssigned_iff {db : Db} {agentId policyId : Uuid} :
    db.policyAssigned agentId policyId = true <->
      (Exists fun direct => direct ∈ db.agentPolicies.rows ∧
        direct.agentId = agentId ∧
        direct.policyId = policyId) ∨
      (Exists fun grouped => Exists fun membership =>
        grouped ∈ db.groupPolicies.rows ∧ grouped.policyId = policyId ∧
        membership ∈ db.agentGroupMembership.rows ∧
          membership.groupId = grouped.groupId ∧
        membership.agentId = agentId) := by
  simp only [policyAssigned, Bool.or_eq_true, List.any_eq_true, Bool.and_eq_true,
    decide_eq_true_eq]
  constructor
  · rintro (direct | ⟨grouped, groupedMember, policy, membership, member,
      same, agent⟩)
    · exact Or.inl direct
    · exact Or.inr ⟨grouped, membership, groupedMember, policy, member,
        same.symm, agent⟩
  · rintro (direct | ⟨grouped, membership, groupedMember, policy, member,
      same, agent⟩)
    · exact Or.inl direct
    · exact Or.inr ⟨grouped, groupedMember, policy, membership, member,
        same.symm, agent⟩

theorem mem_assignedChecks {agentId checkId : Uuid} {checkIds : List Uuid}
    {db : Db} :
    checkId ∈ assignedChecks agentId checkIds db <-> checkId ∈ checkIds ∧
      Assigned db agentId checkId := by
  simp only [assignedChecks, List.mem_dedup, List.mem_map, List.mem_filter,
    decide_eq_true_eq, List.any_eq_true, Bool.and_eq_true, Db.policyAssigned_iff]
  constructor
  · rintro ⟨check,
      ⟨checkMember, requested, element, elementMember, belongs, assigned⟩, rfl⟩
    exact ⟨requested, check, element, checkMember, rfl, elementMember,
      belongs.symm, assigned⟩
  · rintro ⟨requested, check, element, checkMember, same, elementMember,
      belongs, assigned⟩
    refine ⟨check,
      ⟨checkMember, ?_, element, elementMember, belongs.symm, assigned⟩, same⟩
    rw [same]
    exact requested

instance (db : Db) (agentId checkId : Uuid) :
    Decidable (Assigned db agentId checkId) :=
  decidable_of_iff (checkId ∈ assignedChecks agentId [checkId] db)
    (mem_assignedChecks.trans (and_iff_right (List.mem_singleton_self checkId)))

/-- The query reports exactly the requested identifiers that are not assigned. -/
theorem mem_validateCheckIdsForAgent {agentId checkId : Uuid}
    {checkIds : List Uuid} {db : Db} :
    checkId ∈ validateCheckIdsForAgent agentId checkIds db <->
      checkId ∈ checkIds ∧ ¬ Assigned db agentId checkId := by
  simp only [validateCheckIdsForAgent, List.mem_filter, decide_eq_true_eq,
    mem_assignedChecks]
  constructor
  · rintro ⟨requested, reported⟩
    exact ⟨requested, fun assigned => reported ⟨requested, assigned⟩⟩
  · rintro ⟨requested, unassigned⟩
    exact ⟨requested, fun reported => unassigned reported.2⟩

/-! ## Inserting results -/

structure InsertCheckResult where
  agentId : Uuid
  checkId : Uuid
  passed : Bool
  detail : String
  actualValue : String
  expectedValue : String
  executedAtUnix : Int
  deriving DecidableEq

/-- The column value of a Unix timestamp, the present time where it has none. -/
def InsertCheckResult.executedAt (clock : Timestamp)
    (result : InsertCheckResult) : Timestamp :=
  match DateTime.fromTimestamp result.executedAtUnix with
  | some time => time.naiveUtc
  | none => clock

/-- What identifies a stored result. -/
abbrev ResultKey := Uuid × Uuid × Timestamp

def CheckResultRow.resultKey (row : CheckResultRow) : ResultKey :=
  (row.agentId, row.checkId, row.executedAt)

def InsertCheckResult.resultKey (clock : Timestamp)
    (result : InsertCheckResult) : ResultKey :=
  (result.agentId, result.checkId, result.executedAt clock)

def Db.resultKeys (db : Db) : List ResultKey :=
  db.checkResults.rows.map CheckResultRow.resultKey

/-- One statement of the transaction.  It answers how many rows it added. -/
def insertCheckResult (env : Env) (index : Nat) (result : InsertCheckResult)
    (db : Db) :
    Except DbError (Nat × Db) := do
  let detail <- textParam result.detail
  let actualValue <- textParam result.actualValue
  let expectedValue <- textParam result.expectedValue
  let executedAt <- timestampParam (result.executedAt env.clock)
  if result.resultKey env.clock ∈ db.resultKeys then return (0, db)
  else
    let checkResults <- constrained "check_results" (db.checkResults.insert?
      { id := env.fresh index, agentId := result.agentId
        checkId := result.checkId, passed := result.passed, detail := detail
        actualValue := some actualValue, expectedValue := some expectedValue
        executedAt := executedAt, receivedAt := env.now })
    references "check_results" (db.hasAgent result.agentId)
    references "check_results"
      (db.policyChecks.find PolicyCheckRow.id result.checkId).isSome
    return (1, { db with checkResults := checkResults })

/-- The statements of the transaction from the given index on. -/
def insertCheckResultsFrom (env : Env) :
    Nat -> List InsertCheckResult -> Db -> Except DbError (Nat × Db)
  | _, [], db => .ok (0, db)
  | index, result :: rest, db => do
      let (added, db) <- insertCheckResult env index result db
      let (more, db) <- insertCheckResultsFrom env (index + 1) rest db
      return (added + more, db)

/-- `insert_check_results`: either every statement succeeds or none has an
effect. -/
def insertCheckResults (env : Env) (results : List InsertCheckResult) (db : Db) :
    Except DbError (Nat × Db) :=
  insertCheckResultsFrom env 0 results db

/-- The effect of inserting results with the given keys. -/
structure ResultsAdded (db db' : Db) (keys : List ResultKey) : Prop where
  frame : db' = { db with checkResults := db'.checkResults }
  keys : forall key, key ∈ db'.resultKeys <-> key ∈ db.resultKeys ∨ key ∈ keys

theorem timestampParam_eq_ok {time time' : Timestamp} :
    timestampParam time = .ok time' <-> time' = time ∧
      minTimestampSecs * nanosPerSec ≤ time := by
  unfold timestampParam
  split
  · next early =>
    exact iff_of_false (fun impossible => nomatch impossible) fun both =>
      absurd early (Int.not_lt.mpr both.2)
  · next late =>
    rw [Except.ok.injEq]
    exact ⟨fun same => ⟨same.symm, Int.not_lt.mp late⟩, fun both => both.1.symm⟩

/-- The row a result becomes. -/
def InsertCheckResult.row (env : Env) (index : Nat)
    (result : InsertCheckResult) : CheckResultRow where
  id := env.fresh index
  agentId := result.agentId
  checkId := result.checkId
  passed := result.passed
  detail := result.detail
  actualValue := some result.actualValue
  expectedValue := some result.expectedValue
  executedAt := result.executedAt env.clock
  receivedAt := env.now

/-- One statement keeps a result that is there already, or adds the row of a new
one whose references exist. -/
inductive ResultStep (env : Env) (index : Nat) (result : InsertCheckResult)
    (db : Db) : Nat -> Db -> Prop where
  | kept (present : result.resultKey env.clock ∈ db.resultKeys) :
      ResultStep env index result db 0 db
  | added (checkResults : Table CheckResultRow CheckResultRow.Clash)
      (inserted : db.checkResults.insert? (result.row env index) =
        some checkResults)
      (absent : result.resultKey env.clock ∉ db.resultKeys)
      (agent : db.hasAgent result.agentId = true)
      (check : (db.policyChecks.find PolicyCheckRow.id result.checkId).isSome =
        true) :
      ResultStep env index result db 1 { db with checkResults := checkResults }

/-- The database takes the texts and the time. -/
structure InsertCheckResult.Valid (env : Env)
    (result : InsertCheckResult) : Prop where
  detail : hasNul result.detail = false
  actualValue : hasNul result.actualValue = false
  expectedValue : hasNul result.expectedValue = false
  executedAt : minTimestampSecs * nanosPerSec ≤ result.executedAt env.clock

theorem insertCheckResult_ok {env : Env} {index added : Nat}
    {result : InsertCheckResult} {db db' : Db}
    (accepted : insertCheckResult env index result db = .ok (added, db')) :
    result.Valid env ∧ ResultStep env index result db added db' := by
  unfold insertCheckResult at accepted
  rcases bind_eq_ok.mp accepted with ⟨detail, detailRead, accepted⟩
  rcases bind_eq_ok.mp accepted with ⟨actualValue, actualRead, accepted⟩
  rcases bind_eq_ok.mp accepted with ⟨expectedValue, expectedRead, accepted⟩
  rcases bind_eq_ok.mp accepted with ⟨executedAt, checked, accepted⟩
  rcases timestampParam_eq_ok.mp checked with ⟨rfl, late⟩
  rw [(textParam_ok detailRead).1, (textParam_ok actualRead).1,
    (textParam_ok expectedRead).1] at accepted
  refine ⟨⟨(textParam_ok detailRead).2, (textParam_ok actualRead).2,
    (textParam_ok expectedRead).2, late⟩, ?_⟩
  split at accepted
  · next present =>
    cases accepted
    exact ResultStep.kept present
  next absent =>
  rcases bind_eq_ok.mp accepted with ⟨checkResults, inserted, accepted⟩
  rcases bind_eq_ok.mp accepted with ⟨_, agentFound, accepted⟩
  rcases bind_eq_ok.mp accepted with ⟨_, checkFound, accepted⟩
  cases accepted
  exact ResultStep.added checkResults (constrained_ok inserted) absent
    (references_ok agentFound)
    (references_ok checkFound)

/-- A batch that is accepted is accepted statement by statement. -/
theorem insertCheckResultsFrom_cons {env : Env} {index added : Nat}
    {result : InsertCheckResult} {rest : List InsertCheckResult} {db db' : Db}
    (accepted : insertCheckResultsFrom env index (result :: rest) db =
      .ok (added, db')) :
    Exists fun one => Exists fun middle => Exists fun more =>
      insertCheckResult env index result db = .ok (one, middle) ∧
      insertCheckResultsFrom env (index + 1) rest middle = .ok (more, db') ∧
        added = one + more := by
  rw [insertCheckResultsFrom] at accepted
  rcases bind_eq_ok.mp accepted with ⟨⟨one, middle⟩, inserted, accepted⟩
  rcases bind_eq_ok.mp accepted with ⟨⟨more, last⟩, insertedRest, accepted⟩
  cases accepted
  exact ⟨one, middle, more, inserted, insertedRest, rfl⟩

theorem insertCheckResult_added {env : Env} {index added : Nat}
    {result : InsertCheckResult} {db db' : Db}
    (accepted : insertCheckResult env index result db = .ok (added, db')) :
    ResultsAdded db db' [result.resultKey env.clock] := by
  cases (insertCheckResult_ok accepted).2 with
  | kept present =>
      refine ⟨rfl, ?_⟩
      intro key
      rw [List.mem_singleton]
      constructor
      · exact Or.inl
      · rintro (before | rfl)
        · exact before
        · exact present
  | added checkResults inserted absent agent check =>
      refine ⟨rfl, ?_⟩
      intro key
      rw [Db.resultKeys, Table.insert?_rows inserted, List.map_append,
        List.mem_append]
      rfl

theorem insertCheckResultsFrom_added {env : Env} {index added : Nat}
    {results : List InsertCheckResult} {db db' : Db}
    (accepted : insertCheckResultsFrom env index results db = .ok (added, db')) :
    ResultsAdded db db'
      (results.map (InsertCheckResult.resultKey env.clock)) := by
  induction results generalizing index added db with
  | nil =>
      cases accepted
      refine ⟨rfl, ?_⟩
      intro key
      simp only [List.map_nil, List.not_mem_nil, or_false]
  | cons result rest ih =>
      rcases insertCheckResultsFrom_cons accepted with
        ⟨one, middle, more, inserted, insertedRest, _⟩
      have head := insertCheckResult_added inserted
      have others := ih insertedRest
      refine ⟨?_, ?_⟩
      · rw [others.frame, head.frame]
      · intro key
        rw [others.keys key, head.keys key, List.mem_singleton, List.map_cons,
          List.mem_cons, or_assoc]

/-- The rows after an insertion were there before or are rows of its results. -/
theorem insertCheckResultsFrom_rows {env : Env} {index added : Nat}
    {results : List InsertCheckResult} {db db' : Db}
    (accepted : insertCheckResultsFrom env index results db = .ok (added, db'))
    {row : CheckResultRow} (member : row ∈ db'.checkResults.rows) :
    row ∈ db.checkResults.rows ∨
      Exists fun result => Exists fun drawn => result ∈ results ∧
        row = result.row env drawn := by
  induction results generalizing index added db with
  | nil =>
      cases accepted
      exact Or.inl member
  | cons result rest ih =>
      rcases insertCheckResultsFrom_cons accepted with
        ⟨one, middle, more, inserted, insertedRest, _⟩
      rcases ih insertedRest with before | ⟨other, drawn, otherMember, same⟩
      · cases (insertCheckResult_ok inserted).2 with
        | kept present => exact Or.inl before
        | added checkResults added absent agent check =>
            have rows := Table.insert?_rows added
            simp only at before
            rw [rows, List.mem_append, List.mem_singleton] at before
            rcases before with old | new
            · exact Or.inl old
            · exact Or.inr ⟨result, index, List.mem_cons_self, new⟩
      · exact Or.inr ⟨other, drawn, List.mem_cons_of_mem _ otherMember, same⟩

/-! ## Results by key -/

/-- What a stored result says, its identifier and the time it was received
aside. -/
structure ResultContent where
  passed : Bool
  detail : String
  actualValue : Option String
  expectedValue : Option String
  deriving DecidableEq

def CheckResultRow.content (row : CheckResultRow) : ResultContent :=
  ⟨row.passed, row.detail, row.actualValue, row.expectedValue⟩

def InsertCheckResult.content (result : InsertCheckResult) : ResultContent :=
  ⟨result.passed, result.detail, some result.actualValue,
    some result.expectedValue⟩

/-- The stored results under their keys. -/
def Db.resultAt (db : Db) : ResultKey -> Option ResultContent :=
  keyed CheckResultRow.resultKey CheckResultRow.content db.checkResults.rows

theorem Db.resultAt_isSome {db : Db} {key : ResultKey} :
    (db.resultAt key).isSome = true <-> key ∈ db.resultKeys :=
  keyed_isSome

theorem insertCheckResult_resultAt {env : Env} {index added : Nat}
    {result : InsertCheckResult} {db db' : Db}
    (accepted : insertCheckResult env index result db = .ok (added, db')) :
    db'.resultAt =
      keepOld db.resultAt
        (keyed (InsertCheckResult.resultKey env.clock) InsertCheckResult.content
          [result]) := by
  cases (insertCheckResult_ok accepted).2 with
  | kept present =>
      funext key
      rw [keepOld]
      by_cases here : result.resultKey env.clock = key
      · rw [here, ← Db.resultAt_isSome] at present
        rw [Option.or_of_isSome present]
      · have elsewhere :
            keyed (InsertCheckResult.resultKey env.clock)
              InsertCheckResult.content [result] key =
            none := by
          rw [← Option.not_isSome_iff_eq_none, keyed_isSome, List.map_singleton,
            List.mem_singleton]
          exact Ne.symm here
        rw [elsewhere, Option.or_none]
  | added checkResults inserted absent agent check =>
      rw [Db.resultAt, Table.insert?_rows inserted, keyed_append, keyed_singleton,
        keyed_singleton]
      rfl

theorem insertCheckResultsFrom_resultAt {env : Env} {index added : Nat}
    {results : List InsertCheckResult} {db db' : Db}
    (accepted : insertCheckResultsFrom env index results db = .ok (added, db')) :
    db'.resultAt =
      keepOld db.resultAt
        (keyed (InsertCheckResult.resultKey env.clock) InsertCheckResult.content
          results) := by
  induction results generalizing index added db with
  | nil =>
      cases accepted
      exact (keepOld_none _).symm
  | cons result rest ih =>
      rcases insertCheckResultsFrom_cons accepted with
        ⟨one, middle, more, inserted, insertedRest, _⟩
      rw [ih insertedRest, insertCheckResult_resultAt inserted, keepOld_assoc,
        ← keyed_append, List.singleton_append]

end Complyx
