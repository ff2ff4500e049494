import Complyx.Ingest.ScoreSteps

namespace Complyx

open Transition Relational

/-!
# Ingestions racing for the scores

Between the reading and a write of one recomputation another ingestion may
insert results and write its own scores, which the late write then overwrites.
Where every score written is the one due at the time, no update is lost: an
ingestion that has inserted results owes every score, and until it has paid, a
score may be out of date.
-/

/-! ## What one step changes -/

/-- The tables scores and authorizations are computed from besides the results. -/
structure SameAssignments (db db' : Db) : Prop extends SamePolicies db db' where
  direct : db'.agentPolicies = db.agentPolicies
  groups : db'.groupPolicies = db.groupPolicies
  memberships : db'.agentGroupMembership = db.agentGroupMembership

theorem SameAssignments.refl (db : Db) : SameAssignments db db :=
  ⟨SamePolicies.refl db, rfl, rfl, rfl⟩

theorem SameAssignments.trans {first second third : Db}
    (earlier : SameAssignments first second)
    (later : SameAssignments second third) : SameAssignments first third :=
  ⟨earlier.toSamePolicies.trans later.toSamePolicies,
    later.direct.trans earlier.direct, later.groups.trans earlier.groups,
      later.memberships.trans earlier.memberships⟩

theorem SameAssignments.lookup {db db' : Db} (same : SameAssignments db db')
    (agentId : Uuid) (checkIds : List Uuid) :
    validateCheckIdsForAgent agentId checkIds db' =
      validateCheckIdsForAgent agentId checkIds db := by
  have assigned : forall checkId, Assigned db' agentId checkId <->
      Assigned db agentId checkId := by
    intro checkId
    rw [Assigned, Assigned, same.checks, same.elements, same.direct, same.groups,
      same.memberships]
  unfold validateCheckIdsForAgent
  apply List.filter_congr
  intro id _
  rw [Bool.eq_iff_iff, decide_eq_true_eq, decide_eq_true_eq, mem_assignedChecks,
    mem_assignedChecks, assigned]

/-- What a step of an ingestion leaves, given what it is answered. -/
inductive StepEffect (agentId : Uuid) (db : Db) :
    (op : RowOp) -> Except DbError op.Res -> Db -> Prop where
  | unchanged {op : RowOp} {answer : Except DbError op.Res} {db' : Db}
      (policies : SameAssignments db db')
      (results : db'.checkResults = db.checkResults)
      (scores : db'.complianceScores = db.complianceScores)
      (unpaid : forall start elementId, SameAssignments start db ->
        (scoreOf agentId elementId db).isSome = true ->
        op.Unpaid start agentId elementId answer) :
          StepEffect agentId db op answer db'
  | inserted {rows : List InsertCheckResult} {added : Nat} {db' : Db}
      (policies : SameAssignments db db')
      (scores : db'.complianceScores = db.complianceScores) :
      StepEffect agentId db (.whole (.insertCheckResults rows)) (.ok added) db'
  | written {score stored : ComplianceScoreRow}
      {complianceScores : Table ComplianceScoreRow ComplianceScoreRow.Clash}
      (upserted : upsertScore db.complianceScores score = .ok complianceScores) :
      StepEffect agentId db (.writeScore score)
        (.ok stored) { db with complianceScores := complianceScores }

theorem sameAssignments_of_frame {stmt : Stmt} {db db' : Db}
    (frame : Frame stmt db db') (assignments : stmt.writesAssignments = false) :
    SameAssignments db db' :=
  ⟨⟨frame.policyElements, frame.policyChecks⟩, frame.agentPolicies assignments,
    frame.groupPolicies, frame.agentGroupMembership assignments⟩

theorem execRow_ok {env : Env} {op : RowOp} {db db' : Db} {value : op.Res}
    (success : execRow env op db = .ok (value, db')) : env.fault = none := by
  cases op with
  | whole stmt => exact (exec_ok success).1
  | snapshot asked =>
      rw [execRow] at success
      split at success
      · cases success
      · assumption
  | writeScore score =>
      rw [execRow] at success
      split at success
      · cases success
      · assumption

theorem unpaid_row_error (start : Db) (agentId elementId : Uuid) (op : RowOp)
    (failure : DbError) :
    op.Unpaid start agentId elementId (.error failure) := by
  cases op with
  | whole stmt => exact unpaid_error start agentId stmt failure
  | snapshot asked => trivial
  | writeScore score => trivial

/-- A quiet statement leaves every score to be written, if its lookup is
answered from the policies. -/
theorem unpaid_quiet {stmt : Stmt} (quiet : stmt.Quiet) {env : Env}
    {start db db' : Db} {value : stmt.Res} (same : SameAssignments start db)
    (effect : stmt.effect env db = .ok (value, db')) (agentId : Uuid) :
    stmt.Unpaid start agentId (.ok value) := by
  cases stmt with
  | upsertComplianceScores asked => cases quiet.scores
  | validateCheckIdsForAgent asked checkIds =>
      rcases reading_same effect with ⟨_, answered⟩
      have listed : validateCheckIdsForAgent asked checkIds db = value :=
        Except.ok.inj answered
      exact listed.symm.trans (same.lookup asked checkIds)
  | _ => trivial

theorem perform_effect {agentId : Uuid} {op : RowOp}
    (issued : ScoringOp agentId op) (env : Env) (db : Db) :
    StepEffect agentId db op (Program.perform execRow env op db).1
      (Program.perform execRow env op db).2 := by
  cases outcome : execRow env op db with
  | error failure =>
      rw [Program.perform_error outcome]
      exact .unchanged (SameAssignments.refl db) rfl rfl
          fun start elementId _ _ =>
        unpaid_row_error start agentId elementId op failure
  | ok pair =>
      rcases pair with ⟨value, db'⟩
      have clear := execRow_ok outcome
      rw [Program.perform_ok outcome]
      cases issued with
      | quiet quiet =>
          have effect := (exec_ok outcome).2
          have frame := Stmt.effect_frame effect
          refine .unchanged (sameAssignments_of_frame frame quiet.assignments)
            (frame.checkResults quiet.results)
            (frame.complianceScores quiet.scores) fun start elementId same _ => ?_
          exact unpaid_quiet quiet same effect agentId
      | insert rows =>
          have frame := Stmt.effect_frame (exec_ok outcome).2
          exact .inserted (sameAssignments_of_frame frame rfl)
            (frame.complianceScores rfl)
      | snapshot =>
          rw [execRow, clear] at outcome
          cases outcome
          refine .unchanged (SameAssignments.refl db) rfl rfl
            fun start elementId _ scored _ => ?_
          have query :=
            find?_elementScores env.now agentId db (agentId, elementId)
          rw [if_pos rfl] at query
          rw [← query, Option.isSome_map, List.find?_isSome] at scored
          rcases scored with ⟨score, member, itsKey⟩
          exact ⟨score, member, of_decide_eq_true itsKey⟩
      | writeScore score =>
          rw [execRow, clear] at outcome
          simp only [writeScore, bind, Except.bind] at outcome
          split at outcome
          · cases outcome
          next complianceScores upserted =>
          split at outcome
          · cases outcome
          cases outcome
          exact .written upserted

/-! ## The scores stored and the scores due -/

/-- The agent's rows say what the results stored give. -/
def ScoresCurrent (agentId : Uuid) (db : Db) : Prop :=
  forall elementId, db.scoreAt (agentId, elementId) = scoreOf agentId elementId db

/-- The agent's rows are for elements with checks and name their policies. -/
def ScoresFit (agentId : Uuid) (db : Db) : Prop :=
  forall row, row ∈ db.complianceScores.rows -> row.agentId = agentId ->
    Exists fun element => element ∈ db.policyElements.rows ∧
      element.id = row.policyElementId ∧
      element.policyId = row.policyId ∧ db.checksOf row.policyElementId ≠ []

instance (agentId : Uuid) (db : Db) : Decidable (ScoresFit agentId db) :=
  inferInstanceAs (Decidable (forall row, row ∈ db.complianceScores.rows -> _))

theorem ScoresFit.kept {agentId : Uuid} {db db' : Db} (fit : ScoresFit agentId db)
    (policies : SamePolicies db db')
    (scores : db'.complianceScores = db.complianceScores) :
    ScoresFit agentId db' := by
  unfold ScoresFit Db.checksOf
  rw [policies.elements, policies.checks, scores]
  exact fit

/-- An element without a score to compute has no row. -/
theorem ScoresFit.unscored {agentId elementId : Uuid} {db : Db}
    (fit : ScoresFit agentId db)
    (unscored : scoreOf agentId elementId db = none) :
    db.scoreAt (agentId, elementId) = none := by
  rw [← Option.not_isSome_iff_eq_none, scoreAt_isSome]
  rintro ⟨row, member, itsKey⟩
  have sameElement : row.policyElementId = elementId := congrArg Prod.snd itsKey
  subst sameElement
  rcases fit row member (congrArg Prod.fst itsKey) with
    ⟨element, elementMember, sameId, _, checked⟩
  have scored : (scoreOf agentId row.policyElementId db).isSome = true :=
    (scoreOf_isSome agentId).mpr ⟨element, elementMember, sameId, checked⟩
  rw [unscored] at scored
  cases scored

/-- Writing the score that is due makes it the one stored. -/
theorem ScoresFit.over {agentId elementId : Uuid} {db : Db}
    (fit : ScoresFit agentId db) {score : ScoreContent}
    (scored : scoreOf agentId elementId db = some score) :
    score.over (db.scoreAt (agentId, elementId)) = score := by
  cases found :
      db.complianceScores.find ComplianceScoreRow.scoreKey
        (agentId, elementId) with
  | none =>
      rw [Db.scoreAt, scoreIn, found]
      rfl
  | some row =>
      have present := Table.find_some found
      have sameElement : row.policyElementId = elementId :=
        congrArg Prod.snd present.2
      subst sameElement
      rcases fit row present.1 (congrArg Prod.fst present.2) with
        ⟨element, member, sameId, samePolicy, checked⟩
      rw [← sameId, scoreOf_checked agentId member (sameId ▸ checked)] at scored
      rw [Db.scoreAt, scoreIn, found, ← Option.some.inj scored, samePolicy]
      rfl

/-- A row with the score that is due keeps the rows fitting. -/
theorem ScoresFit.written {agentId : Uuid} {db : Db} (fit : ScoresFit agentId db)
    {score : ComplianceScoreRow}
    (due : scoreOf score.agentId score.policyElementId db = some score.content)
    {complianceScores : Table ComplianceScoreRow ComplianceScoreRow.Clash}
    (upserted : upsertScore db.complianceScores score = .ok complianceScores) :
    ScoresFit agentId { db with complianceScores := complianceScores } := by
  intro row member sameAgent
  rcases upsertScore_find db.complianceScores score with
    ⟨found, upserted', effect⟩
  rw [← Except.ok.inj (upserted.symm.trans upserted')] at effect
  have lookup :=
    (Table.find_eq_some_iff ComplianceScoreRow.scoreKey_separates).mpr
      ⟨member, rfl⟩
  rw [effect] at lookup
  split at lookup
  · cases old :
        db.complianceScores.find ComplianceScoreRow.scoreKey score.scoreKey with
    | some previous =>
        rw [old] at lookup
        rw [← Option.some.inj lookup] at sameAgent ⊢
        exact fit previous (Table.find_some old).1 sameAgent
    | none =>
        rw [old] at lookup
        have same : score = row := Option.some.inj lookup
        subst same
        have scored :
            (scoreOf score.agentId score.policyElementId db).isSome = true := by
          rw [due]
          rfl
        rcases (scoreOf_isSome _).mp scored with
          ⟨element, elementMember, sameId, checked⟩
        rw [← sameId, scoreOf_checked _ elementMember (sameId ▸ checked)] at due
        exact ⟨element, elementMember, sameId,
          congrArg ScoreContent.policyId (Option.some.inj due), checked⟩
  · have present := Table.find_some lookup
    exact fit row present.1 sameAgent

/-- A written score is the one that the results stored at the time give. -/
def WritesDue (env : Env) (op : RowOp) (db : Db) : Prop :=
  match op with
  | .writeScore score =>
      (execRow env (.writeScore score) db).isOk = true ->
        scoreOf score.agentId score.policyElementId db = some score.content
  | _ => True

instance (env : Env) (op : RowOp) (db : Db) :
    Decidable (WritesDue env op db) := by
  unfold WritesDue
  split <;> infer_instance

/-! ## The pool -/

abbrev RowPool := Pool RowOp.Res DbError (Fault IngesterError) IngestSummary Db

/-- The ingestions in steps, none of them started. -/
def RowPool.start (ingester : ResultIngester) (calls : List IngestCall)
    (db : Db) : RowPool where
  threads := calls.map fun call => (ingester.ingest call).expand splitUpsert
  store := db

/-- Once every ingestion has returned, the stored scores are those of the
results stored. -/
def NoScoreLost (agentId : Uuid) (pool : RowPool) : Prop :=
  (forall thread, thread ∈ pool.threads -> thread.returned.isSome = true) ->
    ScoresCurrent agentId pool.store

/-- The score of the element is the one due, or some ingestion owes it. -/
def Settled (start : Db) (agentId elementId : Uuid) (pool : RowPool) : Prop :=
  pool.store.scoreAt (agentId, elementId) = scoreOf agentId elementId pool.store ∨
    Exists fun (index : Nat) => Exists fun thread =>
      pool.threads[index]? = some thread ∧
        OwesScore start agentId elementId thread

/-- What holds of the pool on the way. -/
structure Accounted (start : Db) (agentId : Uuid) (pool : RowPool) : Prop where
  policies : SameAssignments start pool.store
  issues : pool.Issues (ScoringOp agentId)
  obliges : forall {index : Nat} {thread}, pool.threads[index]? = some thread ->
    thread.Obliges RowOp.Inserted fun rest => forall elementId,
      OwesScore start agentId elementId rest
  fit : ScoresFit agentId pool.store
  settled : forall elementId, (scoreOf agentId elementId pool.store).isSome =
    true -> Settled start agentId elementId pool

theorem Accounted.noScoreLost {start : Db} {agentId : Uuid} {pool : RowPool}
    (accounted : Accounted start agentId pool) :
    NoScoreLost agentId pool := by
  intro returned elementId
  cases scored : scoreOf agentId elementId pool.store with
  | none => exact accounted.fit.unscored scored
  | some score =>
      rcases accounted.settled elementId (by rw [scored]; rfl) with
        current | ⟨index, thread, turn, owes⟩
      · rw [current, scored]
      · have ended := returned thread (List.mem_of_getElem? turn)
        cases thread with
        | done summary => exact owes.elim
        | fail error => cases ended
        | call op next => cases ended

section Step

variable {start : Db} {agentId elementId : Uuid} {pool : RowPool}
  {label : Nat × Env} {op : RowOp}
  {next : Except DbError op.Res -> RowThread}

/-- A step that leaves a score and what it is computed from alone, and does not
pay for it. -/
theorem Settled.kept (settled : Settled start agentId elementId pool)
    (turn : pool.threads[label.1]? = some (.call op next))
    {answer : Except DbError op.Res} {db' : Db}
    (performed : Program.perform execRow label.2 op pool.store = (answer, db'))
    (unpaid : op.Unpaid start agentId elementId answer)
    (score : db'.scoreAt (agentId, elementId) =
      pool.store.scoreAt (agentId, elementId))
    (due : scoreOf agentId elementId db' = scoreOf agentId elementId pool.store) :
    Settled start agentId elementId (pool.step execRow label) := by
  rcases settled with current | ⟨index, thread, present, owes⟩
  · left
    rw [Pool.step_call turn, performed]
    exact score.trans (current.trans due.symm)
  · right
    by_cases moved : index = label.1
    · rw [moved, turn, Option.some.injEq] at present
      subst present
      refine ⟨index, next answer, ?_, owes answer unpaid⟩
      rw [Pool.step_get turn, if_pos moved, performed]
    · refine ⟨index, thread, ?_, owes⟩
      rw [Pool.step_get turn, if_neg moved]
      exact present

theorem settled_step (accounted : Accounted start agentId pool)
    (turn : pool.threads[label.1]? = some (.call op next))
    (guard : WritesDue label.2 op pool.store) {answer : Except DbError op.Res}
    {db' : Db}
    (performed : Program.perform execRow label.2 op pool.store = (answer, db'))
    (scored : (scoreOf agentId elementId db').isSome = true) :
    Settled start agentId elementId (pool.step execRow label) := by
  have effect := perform_effect (accounted.issues.turn turn) label.2 pool.store
  rw [performed] at effect
  cases effect with
  | unchanged policies results scores unpaid =>
      have sameResults : db'.resultAt = pool.store.resultAt := by
        rw [Db.resultAt, Db.resultAt, results]
      have due :=
        scoreOf_congr policies.toSamePolicies sameResults agentId elementId
      rw [due] at scored
      refine (accounted.settled elementId scored).kept turn performed
        (unpaid start elementId accounted.policies scored) ?_ due
      rw [Db.scoreAt, Db.scoreAt, scores]
  | inserted policies scores =>
      next rows added =>
      right
      refine ⟨label.1, next (.ok added), ?_,
        (accounted.obliges turn (.ok added)).1
        (.whole (.results rows added)) elementId⟩
      rw [Pool.step_get turn, if_pos rfl, performed]
  | written upserted =>
      next score stored complianceScores =>
      have effect := upsertScore_scoreIn upserted (agentId, elementId)
      by_cases here : (agentId, elementId) = score.scoreKey
      · have executed := Program.perform_eq_ok performed
        have due : scoreOf score.agentId score.policyElementId pool.store =
            some score.content :=
          guard (by rw [executed]; rfl)
        have sameAgent : agentId = score.agentId := congrArg Prod.fst here
        have sameElement : elementId = score.policyElementId :=
          congrArg Prod.snd here
        rw [← sameAgent, ← sameElement] at due
        rw [if_pos here] at effect
        left
        rw [Pool.step_call turn, performed]
        calc
          scoreIn complianceScores (agentId, elementId) =
              some (score.content.over
                (pool.store.scoreAt (agentId, elementId))) := effect
          _ = some score.content := by rw [accounted.fit.over due]
          _ = scoreOf agentId elementId pool.store := due.symm
      · rw [if_neg here] at effect
        exact (accounted.settled elementId scored).kept turn performed
          (fun same => here same.symm) effect rfl

theorem accounted_step (label : Nat × Env)
    (accounted : Accounted start agentId pool)
    (guarded : pool.Guarded WritesDue label) :
    Accounted start agentId (pool.step execRow label) := by
  rcases Pool.step_cases execRow pool label with
    ⟨_, same⟩ | ⟨op, next, turn, stepped⟩
  · rw [same]
    exact accounted
  have guard := guarded op next turn
  have effect := perform_effect (accounted.issues.turn turn) label.2 pool.store
  have store :
      (pool.step execRow label).store =
        (Program.perform execRow label.2 op pool.store).2 := by
    rw [stepped]
  cases performed : Program.perform execRow label.2 op pool.store with
  | mk answer db' =>
  rw [performed] at effect store
  refine ⟨?_, Pool.issues_step pool label accounted.issues, ?_, ?_, ?_⟩
  · rw [store]
    apply accounted.policies.trans
    cases effect with
    | unchanged policies _ _ _ => exact policies
    | inserted policies _ => exact policies
    | written _ => exact ⟨⟨rfl, rfl⟩, rfl, rfl, rfl⟩
  · intro index thread present
    rw [Pool.step_get turn] at present
    split at present
    · rw [← Option.some.inj present]
      exact ((accounted.obliges turn) _).2
    · exact accounted.obliges present
  · rw [store]
    cases effect with
    | unchanged policies _ scores _ =>
        exact accounted.fit.kept policies.toSamePolicies scores
    | inserted policies scores =>
        exact accounted.fit.kept policies.toSamePolicies scores
    | written upserted =>
        have executed := Program.perform_eq_ok performed
        exact accounted.fit.written (guard (by rw [executed]; rfl)) upserted
  · intro elementId scored
    rw [store] at scored
    exact settled_step accounted turn guard performed scored

end Step

variable {ingester : ResultIngester} {calls : List IngestCall} {db : Db}
  {agentId : Uuid}

/-- At the start the scores are those due, or some ingestion stores results. -/
theorem accounted_start
    (sameAgent : forall call, call ∈ calls -> call.agentId = agentId)
    (fit : ScoresFit agentId db)
    (begun : ScoresCurrent agentId db ∨ Exists fun call => Exists fun result =>
      Exists fun id => call ∈ calls ∧
      result ∈ call.results ∧
        Passes ingester.text call.now ingester.timestampBounds db agentId
          result id) :
    Accounted db agentId (RowPool.start ingester calls db) := by
  refine ⟨SameAssignments.refl db, ?_, ?_, fit, ?_⟩
  · intro thread member
    rcases List.mem_map.mp member with ⟨call, callMember, rfl⟩
    rw [← sameAgent call callMember]
    exact Program.issues_expand (fun stmt issued => splitUpsert_scoring issued)
      (ingest_scoring ingester call)
  · intro index thread present
    rcases List.mem_map.mp (List.mem_of_getElem? present) with
      ⟨call, callMember, rfl⟩
    rw [← sameAgent call callMember]
    exact Program.obliges_expand splitUpsert_obliges
      (fun program owes => owes.expand) (ingest_obliges ingester call db)
  · intro elementId scored
    rcases begun with current | ⟨call, result, id, callMember, member, passes⟩
    · exact Or.inl (current elementId)
    · right
      have threadMember :
          (ingester.ingest call).expand
            splitUpsert ∈ (RowPool.start ingester calls db).threads :=
        List.mem_map.mpr ⟨call, callMember, rfl⟩
      rcases List.mem_iff_getElem?.mp threadMember with ⟨index, present⟩
      rw [← sameAgent call callMember] at passes ⊢
      exact ⟨index, _, present,
        (ingest_owes ingester call db member passes).expand elementId⟩

/-- In every interleaving of any number of ingestions of one agent in which
each score written is the one due at the time, no score is lost. -/
theorem due_writes_lose_no_score (ingester : ResultIngester) (agentId : Uuid)
    (calls : List IngestCall) (db : Db)
    (sameAgent : forall call, call ∈ calls -> call.agentId = agentId)
    (fit : ScoresFit agentId db)
    (begun : ScoresCurrent agentId db ∨ Exists fun call => Exists fun result =>
      Exists fun id => call ∈ calls ∧
      result ∈ call.results ∧
        Passes ingester.text call.now ingester.timestampBounds db
          agentId result id)
    (labels : List (Nat × Env))
    (meets : Meets (Pool.step execRow) (Pool.Guarded WritesDue)
      (RowPool.start ingester calls db) labels) :
    Always (Pool.step execRow) (NoScoreLost agentId)
      (RowPool.start ingester calls db) labels := by
  have accounted :=
    always_of_meets
      (fun pool label accounted guarded => accounted_step label accounted guarded)
      (accounted_start sameAgent fit begun) meets
  exact accounted.mono fun pool holds => holds.noScoreLost

/-- A failure at midnight and a later pass, submitted at once. -/
def nightCalls : List IngestCall :=
    [midnightCall [midnightFailure], midnightCall [laterPass]]

/-- The pool after the given calls moved, each drawing its own identifier. -/
def rowsScheduled (order : List Nat) : List (Nat × Env) :=
  order.map fun index => (index, numbering (51 + index) 0)

/-- Both insert before either reads. -/
theorem due_writes_lose_no_score_together :
    Always (Pool.step execRow) (NoScoreLost 7)
      (RowPool.start crateIngester nightCalls policedDb)
      (rowsScheduled [0, 1, 0, 1, 0, 1, 0, 1, 0, 1, 1]) := by
  have validated :
      Program.run exec (crateIngester.validate (midnightCall [midnightFailure]))
        (quietly 1) policedDb =
      (.ok ⟨[midnightFailure], []⟩, policedDb) := Prod.ext (by decide +kernel) rfl
  have passing := (validateBatch_ok validated).2 midnightFailure
  rcases (passing.mp List.mem_cons_self).2 with ⟨id, passes⟩
  refine due_writes_lose_no_score crateIngester 7 nightCalls policedDb (by decide)
    (by decide +kernel) ?_ _ ?_
  · exact Or.inr ⟨_, _, id, List.mem_cons_self, List.mem_cons_self, passes⟩
  · decide +kernel

/-- The failure is read before the pass is inserted and written after its
score. -/
theorem score_of_pass_lost :
    ¬ Always (Pool.step execRow) (NoScoreLost 7)
      (RowPool.start crateIngester nightCalls policedDb)
      (rowsScheduled [0, 0, 0, 1, 1, 1, 1, 1, 1, 0, 0]) := by
  intro always
  have current := always.last (by decide +kernel) 11
  have lost :
      (after (Pool.step execRow)
        (RowPool.start crateIngester nightCalls policedDb)
        (rowsScheduled [0, 0, 0, 1, 1, 1, 1, 1, 1, 0, 0])).store.scoreAt (7, 11) =
          some ⟨21, 1, 0, 0⟩ := by
    decide +kernel
  have due :
      scoreOf 7 11
        (after (Pool.step execRow)
          (RowPool.start crateIngester nightCalls policedDb)
          (rowsScheduled [0, 0, 0, 1, 1, 1, 1, 1, 1, 0, 0])).store =
            some ⟨21, 1, 1, 100⟩ := by
    decide +kernel
  rw [lost, due] at current
  cases current

end Complyx
