import Complyx.Db.Results
import Complyx.Relational.Query

namespace Complyx

open Relational

/-!
# The score query

`upsert_compliance_scores` is one statement.  Its first clause keeps the latest
result of each check, the second joins elements, checks and latest results and
counts by element, and the insertion overwrites the counts of rows that are
there already.

`elementScore` says what the two clauses are for, one element at a time.  The
upsert is described by what it does to the row of an agent and an element.
-/

/-! ## The latest result of each check -/

/-- `ORDER BY check_id, executed_at DESC`. -/
abbrev CheckResultRow.Precedes (first second : CheckResultRow) : Prop :=
  first.checkId < second.checkId ∨ first.checkId = second.checkId ∧
    second.executedAt ≤ first.executedAt

/-- `latest_results`. -/
def latestResults (agentId : Uuid) (db : Db) : List CheckResultRow :=
  distinctOn CheckResultRow.checkId
    ((db.checkResults.rows.filter fun row => row.agentId = agentId).insertionSort
      CheckResultRow.Precedes)

/-- The agent's result of the check with the greatest time of execution. -/
def latestResult (agentId checkId : Uuid) (db : Db) : Option CheckResultRow :=
  let results := db.checkResults.rows.filter fun row => row.agentId = agentId &&
    row.checkId = checkId
  results.find? fun row => results.all fun other =>
    decide (other.executedAt ≤ row.executedAt)

theorem CheckResultRow.resultKey_separates (first second : CheckResultRow)
    (same : first.resultKey = second.resultKey) :
    first.Clash second := by
  rw [resultKey, resultKey, Prod.mk.injEq, Prod.mk.injEq] at same
  exact Or.inr same

/-- The row is the agent's latest result of the check. -/
structure Latest (db : Db) (agentId checkId : Uuid)
    (row : CheckResultRow) : Prop where
  member : row ∈ db.checkResults.rows
  agent : row.agentId = agentId
  check : row.checkId = checkId
  latest : forall other, other ∈ db.checkResults.rows ->
    other.agentId = agentId -> other.checkId = checkId ->
    other.executedAt ≤ row.executedAt

theorem Latest.unique {db : Db} {agentId checkId : Uuid}
    {first second : CheckResultRow}
    (firstLatest : Latest db agentId checkId first)
    (secondLatest : Latest db agentId checkId second) :
    first = second := by
  have sameTime : first.executedAt = second.executedAt :=
    Int.le_antisymm
      (secondLatest.latest first firstLatest.member firstLatest.agent
        firstLatest.check)
      (firstLatest.latest second secondLatest.member secondLatest.agent
        secondLatest.check)
  apply Table.eq_of_key CheckResultRow.resultKey_separates db.checkResults
    firstLatest.member secondLatest.member
  rw [CheckResultRow.resultKey, CheckResultRow.resultKey, firstLatest.agent,
    secondLatest.agent, firstLatest.check, secondLatest.check, sameTime]

theorem latestResult_some_iff {db : Db} {agentId checkId : Uuid}
    {row : CheckResultRow} :
    latestResult agentId checkId db = some row <->
      Latest db agentId checkId row := by
  have sound : forall {row}, latestResult agentId checkId db = some row ->
      Latest db agentId checkId row := by
    intro row found
    have chosen := List.mem_filter.mp (List.mem_of_find?_eq_some found)
    have greatest := List.find?_some found
    simp only [Bool.and_eq_true, decide_eq_true_eq, List.all_eq_true,
      List.mem_filter] at chosen greatest
    refine ⟨chosen.1, chosen.2.1, chosen.2.2, ?_⟩
    intro other member sameAgent sameCheck
    exact greatest other ⟨member, sameAgent, sameCheck⟩
  refine ⟨sound, ?_⟩
  intro latest
  cases found : latestResult agentId checkId db with
  | some other => rw [(sound found).unique latest]
  | none =>
      have refused := List.find?_eq_none.mp found row
      simp only [List.mem_filter, Bool.and_eq_true, decide_eq_true_eq,
        List.all_eq_true, not_forall] at refused
      rcases refused ⟨latest.member, latest.agent, latest.check⟩ with
        ⟨other, ⟨member, sameAgent, sameCheck⟩, later⟩
      exact absurd (latest.latest other member sameAgent sameCheck) later

private instance : Std.Total CheckResultRow.Precedes where
  total first second := by
    have compared : first.checkId < second.checkId ∨
      first.checkId = second.checkId ∨
        second.checkId < first.checkId := by bv_omega
    rcases compared with before | same | after
    · exact Or.inl (Or.inl before)
    · rcases Int.le_total second.executedAt first.executedAt with later | earlier
      · exact Or.inl (Or.inr ⟨same, later⟩)
      · exact Or.inr (Or.inr ⟨same.symm, earlier⟩)
    · exact Or.inr (Or.inl after)

private instance : IsTrans CheckResultRow CheckResultRow.Precedes where
  trans first second third := by
    rintro (before | ⟨same, later⟩) (before' | ⟨same', later'⟩)
    · exact Or.inl (BitVec.lt_trans before before')
    · exact Or.inl (same' ▸ before)
    · exact Or.inl (same ▸ before')
    · exact Or.inr ⟨same.trans same', Int.le_trans later' later⟩

/-- The query keeps the latest result of each check. -/
theorem find?_latestResults (agentId checkId : Uuid) (db : Db) :
    ((latestResults agentId db).find? fun row => row.checkId = checkId) =
      latestResult agentId checkId db := by
  rw [latestResults, find?_distinctOn]
  have sound :
      forall {row},
        (((db.checkResults.rows.filter fun row =>
          row.agentId = agentId).insertionSort
          CheckResultRow.Precedes).find? fun row =>
            row.checkId = checkId) = some row ->
              Latest db agentId checkId row := by
    intro row found
    rcases List.find?_eq_some_iff_append.mp found with
      ⟨here, before, later, split, others⟩
    have sorted := List.pairwise_insertionSort CheckResultRow.Precedes
      (db.checkResults.rows.filter fun row => row.agentId = agentId)
    have members : forall {other}, other ∈ before ++ row :: later <->
        other ∈ db.checkResults.rows ∧ other.agentId = agentId := by
      intro other
      rw [← split, List.mem_insertionSort, List.mem_filter, decide_eq_true_eq]
    rw [split] at sorted
    have chosen := members.mp (List.mem_append_right before List.mem_cons_self)
    refine ⟨chosen.1, chosen.2, of_decide_eq_true here, ?_⟩
    intro other member sameAgent sameCheck
    rcases List.mem_append.mp (members.mpr ⟨member, sameAgent⟩) with
      earlier | rest
    · have apart := others other earlier
      simp only [sameCheck, decide_true, Bool.not_true] at apart
      cases apart
    · rcases List.mem_cons.mp rest with same | after
      · rw [same]
      · have ordered :=
          (List.pairwise_cons.mp (List.pairwise_append.mp sorted).2.1).1 other after
        rcases ordered with smaller | ⟨_, older⟩
        · rw [sameCheck, of_decide_eq_true here] at smaller
          exact absurd smaller (BitVec.lt_irrefl checkId)
        · exact older
  cases found :
      ((db.checkResults.rows.filter fun row =>
        row.agentId = agentId).insertionSort
        CheckResultRow.Precedes).find? fun row => row.checkId = checkId with
  | some row => exact (latestResult_some_iff.mpr (sound found)).symm
  | none =>
      cases latest : latestResult agentId checkId db with
      | none => rfl
      | some row =>
          have chosen := latestResult_some_iff.mp latest
          have inSorted :
              row ∈ (db.checkResults.rows.filter fun row =>
                row.agentId = agentId).insertionSort
              CheckResultRow.Precedes := by
            rw [List.mem_insertionSort, List.mem_filter]
            exact ⟨chosen.member, decide_eq_true chosen.agent⟩
          exact absurd (decide_eq_true chosen.check)
            (List.find?_eq_none.mp found row inSorted)

/-! ## The score of an element -/

/-- `FROM policy_elements INNER JOIN policy_checks LEFT JOIN latest_results`. -/
def scoredChecks (agentId : Uuid) (db : Db) :
    List ((PolicyElementRow × PolicyCheckRow) × Option CheckResultRow) :=
  leftJoin (fun pair lr => lr.checkId = pair.2.id)
    (innerJoin (fun pe pc => pc.policyElementId = pe.id) db.policyElements.rows
      db.policyChecks.rows)
    (latestResults agentId db)

/-- The row to insert for one group of `element_scores`. -/
def groupScore (now : Timestamp) (agentId : Uuid) (key : Uuid × Uuid)
    (rows : List ((PolicyElementRow × PolicyCheckRow) × Option CheckResultRow)) :
    ComplianceScoreRow :=
  let totalChecks := rows.length
  let passedChecks := rows.countP fun row => row.2.any CheckResultRow.passed
  { agentId := agentId, policyElementId := key.1, policyId := key.2
    totalChecks := totalChecks, passedChecks := passedChecks
    score := if totalChecks > 0 then (passedChecks : Rat) / totalChecks * 100
    else 0, lastUpdated := now }

/-- `element_scores`, grouped by element. -/
def elementScores (now : Timestamp) (agentId : Uuid) (db : Db) :
    List ComplianceScoreRow :=
  (groupBy (fun row => (row.1.1.id, row.1.1.policyId))
      (scoredChecks agentId db)).map fun group =>
    groupScore now agentId group.1 group.2

/-- The checks of an element. -/
def Db.checksOf (db : Db) (elementId : Uuid) : List PolicyCheckRow :=
  db.policyChecks.rows.filter fun check => check.policyElementId = elementId

/-- `element_scores` for one element, absent where it has no checks. -/
def elementScore (now : Timestamp) (agentId : Uuid) (element : PolicyElementRow)
    (db : Db) : Option ComplianceScoreRow :=
  let checks := db.checksOf element.id
  let passed := checks.filter fun check =>
    (latestResult agentId check.id db).any CheckResultRow.passed
  if checks.isEmpty then none
  else some {
    agentId := agentId, policyElementId := element.id,
    policyId := element.policyId
    totalChecks := checks.length, passedChecks := passed.length
    score := (passed.length : Rat) / checks.length * 100, lastUpdated := now }

theorem PolicyElementRow.id_separates (first second : PolicyElementRow)
    (same : first.id = second.id) : first.Clash second :=
  same

theorem PolicyCheckRow.id_separates (first second : PolicyCheckRow)
    (same : first.id = second.id) : first.Clash second :=
  same

/-- Each check of an element is joined once, with its latest result. -/
theorem scoredChecks_eq (agentId : Uuid) (db : Db) :
    scoredChecks agentId db =
      (innerJoin (fun pe pc => pc.policyElementId = pe.id) db.policyElements.rows
        db.policyChecks.rows).map fun pair =>
        (pair, latestResult agentId pair.2.id db) := by
  rw [scoredChecks, leftJoin_eq_map]
  · congr 1
    funext pair
    rw [← find?_latestResults]
  · intro pair
    exact length_filter_key_le_one (distinctOn_pairwise _) pair.2.id

/-- The group of an element has each of its checks once. -/
theorem group_scoredChecks {agentId : Uuid} {db : Db} {element : PolicyElementRow}
    (member : element ∈ db.policyElements.rows) :
    ((scoredChecks agentId db).filter fun row =>
      (row.1.1.id, row.1.1.policyId) = (element.id, element.policyId)) =
      (db.checksOf element.id).map fun check =>
        ((element, check), latestResult agentId check.id db) := by
  have chosen : forall other, other ∈ db.policyElements.rows ->
      (decide ((other.id, other.policyId) = (element.id, element.policyId)) =
        true <-> other = element) := by
    intro other otherMember
    rw [decide_eq_true_eq, Prod.mk.injEq]
    constructor
    · rintro ⟨sameId, _⟩
      exact Table.eq_of_key PolicyElementRow.id_separates db.policyElements
        otherMember member sameId
    · rintro rfl
      exact ⟨rfl, rfl⟩
  have joined :
      ((innerJoin (fun pe pc => decide (pc.policyElementId = pe.id))
        db.policyElements.rows
        db.policyChecks.rows).filter fun pair =>
          decide
            ((pair.1.id, pair.1.policyId) = (element.id, element.policyId))) =
      (db.checksOf element.id).map fun check => (element, check) :=
    filter_innerJoin (db.policyElements.nodup fun _ => rfl) member chosen
  rw [scoredChecks_eq, List.filter_map]
  have swapped :
      ((fun row : (PolicyElementRow × PolicyCheckRow) × Option CheckResultRow =>
        decide
          ((row.1.1.id, row.1.1.policyId) = (element.id, element.policyId))) ∘
          fun pair =>
          (pair, latestResult agentId pair.2.id db)) =
      fun pair =>
        decide ((pair.1.id, pair.1.policyId) = (element.id, element.policyId)) :=
          rfl
  rw [swapped, joined, List.map_map]
  rfl

theorem elementScore_eq_some {now : Timestamp} {agentId : Uuid}
    {element : PolicyElementRow} {db : Db} {score : ComplianceScoreRow}
    (scored : elementScore now agentId element db = some score) :
    db.checksOf element.id ≠ [] ∧
      score = groupScore now agentId (element.id, element.policyId)
        ((db.checksOf element.id).map fun check =>
          ((element, check), latestResult agentId check.id db)) := by
  unfold elementScore at scored
  simp only at scored
  split at scored
  · cases scored
  next some_check =>
  have nonempty : db.checksOf element.id ≠ [] :=
    fun none => some_check (List.isEmpty_iff.mpr none)
  refine ⟨nonempty, ?_⟩
  rw [← Option.some.inj scored, groupScore, List.length_map,
    if_pos (List.length_pos_iff.mpr nonempty), List.countP_map,
      List.countP_eq_length_filter]
  rfl

theorem elementScore_isSome {now : Timestamp} {agentId : Uuid}
    {element : PolicyElementRow} {db : Db} :
    (elementScore now agentId element db).isSome = true <->
      db.checksOf element.id ≠ [] := by
  unfold elementScore
  simp only
  by_cases none : db.checksOf element.id = []
  · rw [none]
    simp
  · rw [if_neg (fun empty => none (List.isEmpty_iff.mp empty))]
    exact iff_of_true rfl none

/-- The query scores every element that has checks, and nothing else. -/
theorem mem_elementScores {now : Timestamp} {agentId : Uuid} {db : Db}
    {score : ComplianceScoreRow} :
    score ∈ elementScores now agentId db <->
      Exists fun element => element ∈ db.policyElements.rows ∧
        elementScore now agentId element db = some score := by
  have keyed : forall {element : PolicyElementRow},
    element ∈ db.policyElements.rows ->
      ((element.id, element.policyId) ∈ (scoredChecks agentId db).map
        (fun row => (row.1.1.id, row.1.1.policyId)) <->
        db.checksOf element.id ≠ []) := by
    intro element member
    have empty : db.checksOf element.id = [] <->
      ((scoredChecks agentId db).filter fun row =>
        (row.1.1.id, row.1.1.policyId) =
          (element.id, element.policyId)) = [] := by
      rw [group_scoredChecks member, List.map_eq_nil_iff]
    rw [ne_eq, empty, List.filter_eq_nil_iff, List.mem_map]
    simp only [decide_eq_true_eq, not_forall, not_not, exists_prop]
  constructor
  · intro member
    rcases List.mem_map.mp member with ⟨⟨key, rows⟩, inGroups, rfl⟩
    rcases mem_groupBy.mp inGroups with ⟨present, sameRows⟩
    rcases List.mem_map.mp present with ⟨⟨⟨element, check⟩, lr⟩, scored, rfl⟩
    rw [scoredChecks_eq, List.mem_map] at scored
    rcases scored with ⟨⟨element', check'⟩, joined, same⟩
    rw [Prod.mk.injEq, Prod.mk.injEq] at same
    rcases same with ⟨⟨rfl, rfl⟩, _⟩
    have elementMember := (mem_innerJoin.mp joined).1
    refine ⟨element', elementMember, ?_⟩
    rw [group_scoredChecks elementMember] at sameRows
    rcases Option.isSome_iff_exists.mp
      (elementScore_isSome.mpr ((keyed elementMember).mp present)) with
      ⟨score, scored⟩
    rw [scored, (elementScore_eq_some scored).2, sameRows]
  · rintro ⟨element, member, scored⟩
    rcases elementScore_eq_some scored with ⟨nonempty, rfl⟩
    refine List.mem_map.mpr ⟨((element.id, element.policyId), _),
      mem_groupBy.mpr ⟨(keyed member).mpr nonempty, rfl⟩, ?_⟩
    rw [group_scoredChecks member]

/-- One row for each element. -/
theorem elementScores_pairwise (now : Timestamp) (agentId : Uuid) (db : Db) :
    (elementScores now agentId db).Pairwise fun first second =>
      first.policyElementId ≠ second.policyElementId := by
  rw [elementScores, List.pairwise_map]
  have distinct :
      (groupBy (fun row => (row.1.1.id, row.1.1.policyId))
        (scoredChecks agentId db)).Pairwise
      fun first second => first.1 ≠ second.1 := by
    rw [← List.pairwise_map, groupBy_keys]
    exact nodup_distinctOn_id _
  have element_of :
      forall {group},
        group ∈ groupBy (fun row => (row.1.1.id, row.1.1.policyId))
        (scoredChecks agentId db) ->
      Exists fun element => element ∈ db.policyElements.rows ∧
        group.1 = (element.id, element.policyId) := by
    rintro ⟨key, rows⟩ member
    rcases List.mem_map.mp (mem_groupBy.mp member).1 with
      ⟨⟨⟨element, check⟩, lr⟩, scored, rfl⟩
    rw [scoredChecks_eq, List.mem_map] at scored
    rcases scored with ⟨⟨element', check'⟩, joined, same⟩
    rw [Prod.mk.injEq, Prod.mk.injEq] at same
    rcases same with ⟨⟨rfl, rfl⟩, _⟩
    exact ⟨element', (mem_innerJoin.mp joined).1, rfl⟩
  refine distinct.imp_of_mem ?_
  intro first second firstMember secondMember apart same
  rcases element_of firstMember with ⟨firstElement, firstIn, firstKey⟩
  rcases element_of secondMember with ⟨secondElement, secondIn, secondKey⟩
  have sameId : firstElement.id = secondElement.id := by
    simp only [groupScore, firstKey, secondKey] at same
    exact same
  have sameElement :=
    Table.eq_of_key PolicyElementRow.id_separates db.policyElements firstIn
      secondIn sameId
  rw [firstKey, secondKey, sameElement] at apart
  exact apart rfl

/-! ## The upsert -/

/-- Insert one score or update the row of its element. -/
def upsertScore (scores : Table ComplianceScoreRow ComplianceScoreRow.Clash)
    (score : ComplianceScoreRow) :
    Except DbError (Table ComplianceScoreRow ComplianceScoreRow.Clash) :=
  if scores.rows.any fun row => decide (row.Clash score) then
    .ok (scores.map
      (fun row =>
        if row.Clash score then
          { row with totalChecks := score.totalChecks
                     passedChecks := score.passedChecks
                     score := score.score, lastUpdated := score.lastUpdated }
        else row)
      (by
        intro first second clash
        split at clash <;> split at clash <;> exact clash))
  else constrained "compliance_scores" (scores.insert? score)

/-- `upsert_compliance_scores`, one statement over all elements. -/
def upsertComplianceScores (env : Env) (agentId : Uuid) (db : Db) :
    Except DbError (List ComplianceScoreRow × Db) := do
  let scores := elementScores env.now agentId db
  let complianceScores <- scores.foldlM upsertScore db.complianceScores
  references "compliance_scores" (scores.isEmpty || db.hasAgent agentId)
  -- RETURNING reads the stored rows, whose policy an update leaves as it was.
  let stored :=
    scores.filterMap fun score => complianceScores.rows.find? fun row =>
      decide (row.Clash score)
  return (stored, { db with complianceScores := complianceScores })

theorem upsertComplianceScores_ok {env : Env} {agentId : Uuid} {db db' : Db}
    {stored : List ComplianceScoreRow}
    (accepted : upsertComplianceScores env agentId db = .ok (stored, db')) :
    db' = { db with complianceScores := db'.complianceScores } ∧
      (elementScores env.now agentId db).foldlM upsertScore db.complianceScores =
        .ok db'.complianceScores ∧
      stored = (elementScores env.now agentId db).filterMap fun score =>
        db'.complianceScores.rows.find? fun row => decide (row.Clash score) := by
  unfold upsertComplianceScores at accepted
  rcases bind_eq_ok.mp accepted with ⟨complianceScores, upserted, accepted⟩
  rcases bind_eq_ok.mp accepted with ⟨_, referenced, accepted⟩
  cases accepted
  exact ⟨rfl, upserted, rfl⟩

theorem upsertComplianceScores_frame {env : Env} {agentId : Uuid} {db db' : Db}
    {scores : List ComplianceScoreRow}
    (accepted : upsertComplianceScores env agentId db = .ok (scores, db')) :
    db' = { db with complianceScores := db'.complianceScores } :=
  (upsertComplianceScores_ok accepted).1

/-- The agent and the element of a score. -/
abbrev ScoreKey := Uuid × Uuid

def ComplianceScoreRow.scoreKey (row : ComplianceScoreRow) : ScoreKey :=
  (row.agentId, row.policyElementId)

/-- What a score row says, the time it was written aside. -/
structure ScoreContent where
  policyId : Uuid
  totalChecks : Nat
  passedChecks : Nat
  score : Rat
  deriving DecidableEq

def ComplianceScoreRow.content (row : ComplianceScoreRow) : ScoreContent :=
  ⟨row.policyId, row.totalChecks, row.passedChecks, row.score⟩

/-- What an upsert leaves where the row had the given content. -/
def ScoreContent.over (score : ScoreContent)
    (old : Option ScoreContent) : ScoreContent :=
  { score with policyId := (old.map ScoreContent.policyId).getD score.policyId }

theorem ComplianceScoreRow.clash_iff {first second : ComplianceScoreRow} :
    first.Clash second <-> first.scoreKey = second.scoreKey := by
  rw [scoreKey, scoreKey, Prod.mk.injEq]

theorem ComplianceScoreRow.scoreKey_separates (first second : ComplianceScoreRow)
    (same : first.scoreKey = second.scoreKey) : first.Clash second :=
  clash_iff.mpr same

/-- The content of a table of scores under a key. -/
def scoreIn (scores : Table ComplianceScoreRow ComplianceScoreRow.Clash)
    (key : ScoreKey) : Option ScoreContent :=
  (scores.find ComplianceScoreRow.scoreKey key).map ComplianceScoreRow.content

def Db.scoreAt (db : Db) (key : ScoreKey) : Option ScoreContent :=
  scoreIn db.complianceScores key

/-- The row an upsert leaves where there was the given one. -/
def ComplianceScoreRow.over (score : ComplianceScoreRow) :
    Option ComplianceScoreRow -> ComplianceScoreRow
  | some row => { row with totalChecks := score.totalChecks
                           passedChecks := score.passedChecks
                           score := score.score, lastUpdated := score.lastUpdated }
  | none => score

theorem ComplianceScoreRow.content_over (score : ComplianceScoreRow)
    (old : Option ComplianceScoreRow) :
    (score.over old).content = score.content.over (old.map content) := by
  cases old <;> rfl

/-- An upsert of a score never fails, and changes the row under its key. -/
theorem upsertScore_find
    (scores : Table ComplianceScoreRow ComplianceScoreRow.Clash)
    (score : ComplianceScoreRow) :
    Exists fun scores' => upsertScore scores score = .ok scores' ∧ forall key,
      scores'.find ComplianceScoreRow.scoreKey key =
        if key = score.scoreKey then
          some (score.over (scores.find ComplianceScoreRow.scoreKey score.scoreKey))
        else scores.find ComplianceScoreRow.scoreKey key := by
  unfold upsertScore
  split
  · next conflict =>
    refine ⟨_, rfl, ?_⟩
    intro key
    rw [Table.find_map]
    swap
    · intro row
      split <;> rfl
    by_cases here : key = score.scoreKey
    · subst here
      rw [if_pos rfl]
      cases found : scores.find ComplianceScoreRow.scoreKey score.scoreKey with
      | none =>
          rcases List.any_eq_true.mp conflict with ⟨row, member, clash⟩
          have sameKey :=
            ComplianceScoreRow.clash_iff.mp (of_decide_eq_true clash)
          exact absurd sameKey (Table.find_none_iff.mp found row member)
      | some row =>
          have clash := ComplianceScoreRow.clash_iff.mpr (Table.find_some found).2
          rw [Option.map_some, if_pos clash]
          rfl
    · rw [if_neg here]
      cases found : scores.find ComplianceScoreRow.scoreKey key with
      | none => rfl
      | some row =>
          have apart : ¬ row.Clash score := fun clash =>
            here
              ((Table.find_some found).2.symm.trans
                (ComplianceScoreRow.clash_iff.mp clash))
          rw [Option.map_some, if_neg apart]
  · next clear =>
    have absent : forall row, row ∈ scores.rows -> ¬ row.Clash score := by
      intro row member clash
      exact clear (List.any_eq_true.mpr ⟨row, member, decide_eq_true clash⟩)
    rcases Option.isSome_iff_exists.mp (Table.insert?_isSome_iff.mpr absent) with
      ⟨scores', inserted⟩
    refine ⟨scores', by rw [inserted]; rfl, ?_⟩
    intro key
    rw [Table.find_insert? inserted]
    by_cases here : key = score.scoreKey
    · have none :
          scores.find ComplianceScoreRow.scoreKey score.scoreKey = none := by
        rw [Table.find_none_iff]
        exact fun row member same =>
          absent row member (ComplianceScoreRow.clash_iff.mpr same)
      rw [here, none, if_pos rfl, if_pos rfl]
      rfl
    · rw [if_neg here, if_neg (Ne.symm here), Option.or_none]

theorem upsertScore_scoreIn
    {scores scores' : Table ComplianceScoreRow ComplianceScoreRow.Clash}
    {score : ComplianceScoreRow}
    (upserted : upsertScore scores score = .ok scores') (key : ScoreKey) :
    scoreIn scores' key =
      if key = score.scoreKey then some (score.content.over (scoreIn scores key))
      else scoreIn scores key := by
  rcases upsertScore_find scores score with ⟨found, upserted', rows⟩
  rw [Except.ok.inj (upserted.symm.trans upserted'), scoreIn, rows, scoreIn]
  by_cases here : key = score.scoreKey
  · rw [if_pos here, if_pos here, Option.map_some,
      ComplianceScoreRow.content_over, here]
  · rw [if_neg here, if_neg here]

theorem upsertScores_scoreIn {rows : List ComplianceScoreRow}
    (distinct : rows.Pairwise fun first second =>
      first.scoreKey ≠ second.scoreKey)
    {scores scores' : Table ComplianceScoreRow ComplianceScoreRow.Clash}
    (upserted : rows.foldlM upsertScore scores = .ok scores') (key : ScoreKey) :
    scoreIn scores' key =
      match rows.find? fun row => row.scoreKey = key with
      | some row => some (row.content.over (scoreIn scores key))
      | none => scoreIn scores key := by
  induction rows generalizing scores with
  | nil => rw [← Except.ok.inj upserted]; rfl
  | cons row rest ih =>
      rw [List.foldlM_cons] at upserted
      rcases bind_eq_ok.mp upserted with ⟨middle, first, upserted⟩
      have parts := List.pairwise_cons.mp distinct
      rw [ih parts.2 upserted, List.find?_cons, upsertScore_scoreIn first key]
      by_cases here : row.scoreKey = key
      · have none : (rest.find? fun other => other.scoreKey = key) = none := by
          rw [List.find?_eq_none]
          intro other member same
          exact parts.1 other member (here.trans (of_decide_eq_true same).symm)
        rw [none, decide_eq_true here, if_pos here.symm]
      · rw [decide_eq_false here, if_neg (Ne.symm here)]

/-- What the query computes for an agent and an element. -/
def scoreOf (agentId elementId : Uuid) (db : Db) : Option ScoreContent :=
  (db.policyElements.find PolicyElementRow.id elementId).bind fun element =>
    (elementScore 0 agentId element db).map ComplianceScoreRow.content

/-- The contents of the scores after an upsert for the agent. -/
def rescored (agentId : Uuid) (db : Db) (key : ScoreKey) : Option ScoreContent :=
  match if key.1 = agentId then scoreOf agentId key.2 db else none with
  | some score => some (score.over (db.scoreAt key))
  | none => db.scoreAt key

theorem elementScore_now (now : Timestamp) (agentId : Uuid)
    (element : PolicyElementRow) (db : Db) :
    (elementScore now agentId element db).map ComplianceScoreRow.content =
      (elementScore 0 agentId element db).map ComplianceScoreRow.content := by
  unfold elementScore
  simp only
  split <;> rfl

theorem elementScore_key {now : Timestamp} {agentId : Uuid}
    {element : PolicyElementRow} {db : Db} {score : ComplianceScoreRow}
    (scored : elementScore now agentId element db = some score) :
    score.scoreKey = (agentId, element.id) := by
  rw [(elementScore_eq_some scored).2]
  rfl

/-- The row of the query for a key. -/
theorem find?_elementScores (now : Timestamp) (agentId : Uuid) (db : Db)
    (key : ScoreKey) :
    ((elementScores now agentId db).find? fun row => row.scoreKey = key).map
      ComplianceScoreRow.content =
      if key.1 = agentId then scoreOf agentId key.2 db else none := by
  cases found : (elementScores now agentId db).find? fun row =>
      row.scoreKey = key with
  | none =>
      split
      · next same =>
        cases lookup : db.policyElements.find PolicyElementRow.id key.2 with
        | none => rw [scoreOf, lookup]; rfl
        | some element =>
            have present := Table.find_some lookup
            rw [scoreOf, lookup, Option.bind_some, ← elementScore_now now]
            cases scored : elementScore now agentId element db with
            | none => rfl
            | some score =>
                have sameKey : score.scoreKey = key := by
                  rw [elementScore_key scored, present.2, ← same]
                have member := mem_elementScores.mpr ⟨element, present.1, scored⟩
                exact absurd (decide_eq_true sameKey)
                  (List.find?_eq_none.mp found score member)
      · rfl
  | some score =>
      have matched := List.find?_some found
      have sameKey := of_decide_eq_true matched
      rcases mem_elementScores.mp (List.mem_of_find?_eq_some found) with
        ⟨element, member, scored⟩
      have itsKey := (elementScore_key scored).symm.trans sameKey
      have lookup :=
        (Table.find_eq_some_iff PolicyElementRow.id_separates).mpr ⟨member, rfl⟩
      rw [← itsKey, if_pos rfl, scoreOf, lookup, Option.bind_some,
        ← elementScore_now now, scored]

/-- The effect of the statement on the scores. -/
theorem upsertComplianceScores_scoreAt {env : Env} {agentId : Uuid} {db db' : Db}
    {stored : List ComplianceScoreRow}
    (accepted : upsertComplianceScores env agentId db = .ok (stored, db')) :
    db'.scoreAt = rescored agentId db := by
  funext key
  have ofAgent : forall row, row ∈ elementScores env.now agentId db ->
      row.agentId = agentId := by
    intro row member
    rcases mem_elementScores.mp member with ⟨element, _, scored⟩
    exact congrArg Prod.fst (elementScore_key scored)
  have distinct : (elementScores env.now agentId db).Pairwise fun first second =>
      first.scoreKey ≠ second.scoreKey :=
    (elementScores_pairwise env.now agentId db).imp fun apart same =>
      apart (congrArg Prod.snd same)
  have effect :=
    upsertScores_scoreIn distinct (upsertComplianceScores_ok accepted).2.1 key
  rw [Db.scoreAt, effect, rescored, ← find?_elementScores env.now]
  cases (elementScores env.now agentId db).find? fun row =>
    row.scoreKey = key <;> rfl

/-- The rows the statement returns: those of the agent for the scored elements. -/
theorem mem_stored {env : Env} {agentId : Uuid} {db db' : Db}
    {stored : List ComplianceScoreRow}
    (accepted : upsertComplianceScores env agentId db = .ok (stored, db'))
    {row : ComplianceScoreRow} :
    row ∈ stored <-> row ∈ db'.complianceScores.rows ∧ row.agentId = agentId ∧
      (scoreOf agentId row.policyElementId db).isSome = true := by
  have scored_iff : forall {elementId},
    (scoreOf agentId elementId db).isSome = true <->
      Exists fun score => score ∈ elementScores env.now agentId db ∧
        score.scoreKey = (agentId, elementId) := by
    intro elementId
    have query := find?_elementScores env.now agentId db (agentId, elementId)
    rw [if_pos rfl] at query
    rw [← query, Option.isSome_map, List.find?_isSome]
    simp only [decide_eq_true_eq]
  rw [(upsertComplianceScores_ok accepted).2.2, List.mem_filterMap, scored_iff]
  constructor
  · rintro ⟨score, member, found⟩
    have matched := List.find?_some found
    have clash := ComplianceScoreRow.clash_iff.mp (of_decide_eq_true matched)
    rcases mem_elementScores.mp member with ⟨element, _, scored⟩
    have itsKey := clash.trans (elementScore_key scored)
    have sameAgent : row.agentId = agentId := congrArg Prod.fst itsKey
    refine ⟨List.mem_of_find?_eq_some found, sameAgent, score, member, ?_⟩
    rw [← clash, ComplianceScoreRow.scoreKey, sameAgent]
  · rintro ⟨member, sameAgent, score, scoreMember, itsKey⟩
    refine ⟨score, scoreMember, ?_⟩
    have clash : row.Clash score := by
      rw [ComplianceScoreRow.clash_iff, itsKey,
        ComplianceScoreRow.scoreKey, sameAgent]
    cases found : db'.complianceScores.rows.find? fun row =>
        decide (row.Clash score) with
    | none =>
        exact absurd (decide_eq_true clash)
          (List.find?_eq_none.mp found row member)
    | some other =>
        have matched := List.find?_some found
        have otherClash :=
          ComplianceScoreRow.clash_iff.mp (of_decide_eq_true matched)
        rw [Table.eq_of_key ComplianceScoreRow.scoreKey_separates
          db'.complianceScores
          (List.mem_of_find?_eq_some found) member
            (otherClash.trans (ComplianceScoreRow.clash_iff.mp clash).symm)]

end Complyx
