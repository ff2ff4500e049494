import Complyx.Ingest.Authorization
import Complyx.Ingest.RiskLookup
import Complyx.Transition.Recorder

namespace Complyx

open Transition

/-!
# Ingestions racing for one risk

The trigger looks for an open risk before it inserts one, in a statement of its
own, and the schema has nothing against a second one.  What the lookup found
holds at the insertion as long as no risk of the pair was opened in between, or
each that was is closed again.  In any interleaving, no pair of agent and threat
ever has two open risks exactly if that is so at every insertion.
-/

abbrev IngestPool := Pool Stmt.Res DbError (Fault IngesterError) IngestSummary Db

/-- The ingestions, none of them started. -/
def IngestPool.start (ingester : ResultIngester) (calls : List IngestCall)
    (db : Db) : IngestPool where
  threads := calls.map ingester.ingest
  store := db

/-- Two open risks of one agent for one threat are the same risk. -/
def OneOpenRisk (db : Db) : Prop :=
  forall first, first ∈ db.risks.rows -> forall second, second ∈ db.risks.rows ->
    first.status = .«open» -> second.status = .«open» ->
    first.agentId = second.agentId -> first.threatId = second.threatId ->
      first = second

instance (db : Db) : Decidable (OneOpenRisk db) :=
  inferInstanceAs
    (Decidable (forall first, first ∈ db.risks.rows -> forall second,
      second ∈ db.risks.rows -> _))

theorem oneOpenRisk_iff {db : Db} :
    OneOpenRisk db <-> forall agentId threatId first second,
      first ∈ db.risks.rows -> second ∈ db.risks.rows ->
      first.isOpenFor agentId threatId = true ->
        second.isOpenFor agentId threatId = true -> first = second := by
  constructor
  · intro single agentId threatId first second firstMember secondMember
      firstOpen secondOpen
    rcases RiskRow.isOpenFor_iff.mp firstOpen with
      ⟨firstAgent, firstThreat, firstStatus⟩
    rcases RiskRow.isOpenFor_iff.mp secondOpen with
      ⟨secondAgent, secondThreat, secondStatus⟩
    exact single first firstMember second secondMember firstStatus secondStatus
      (firstAgent.trans secondAgent.symm) (firstThreat.trans secondThreat.symm)
  · intro single first firstMember second secondMember firstStatus secondStatus
      sameAgent sameThreat
    exact single second.agentId second.threatId first second firstMember
      secondMember
      (RiskRow.isOpenFor_iff.mpr ⟨sameAgent, sameThreat, firstStatus⟩)
      (RiskRow.isOpenFor_iff.mpr ⟨rfl, rfl, secondStatus⟩)

/-- An insertion the database accepts finds no open risk of its pair. -/
def InsertsUnopened (env : Env) (stmt : Stmt) (db : Db) : Prop :=
  (exec env stmt db).isOk = true -> forall row, row ∈ db.risks.rows ->
    (stmt.insertedRisk.any fun data => row.isOpenFor data.agentId data.threatId) =
      false

/-! ## One statement -/

/-- An inserted open risk is the only one exactly if there was none. -/
theorem oneOpenRisk_inserted {db db' : Db} {agentId threatId riskId : Uuid}
    (inserted : RiskInserted db db' agentId threatId riskId)
    (single : OneOpenRisk db) :
    OneOpenRisk db' <-> forall row, row ∈ db.risks.rows ->
      row.isOpenFor agentId threatId = false := by
  rcases inserted.rows with ⟨new, sameId, isNewOpen, rows⟩
  have newMember : new ∈ db'.risks.rows := by
    rw [rows]
    exact List.mem_append_right _ (List.mem_singleton_self new)
  have kept : forall {row}, row ∈ db.risks.rows -> row ∈ db'.risks.rows := by
    intro row member
    rw [rows]
    exact List.mem_append_left _ member
  rw [oneOpenRisk_iff] at single
  rw [oneOpenRisk_iff]
  constructor
  · intro single' row member
    rw [Bool.eq_false_iff]
    intro isOpen
    have same :=
      single' agentId threatId row new (kept member) newMember isOpen isNewOpen
    exact inserted.fresh row member (same ▸ sameId)
  · intro none agent threat first second firstMember secondMember
      firstOpen secondOpen
    have pairOfNew : forall {row}, row ∈ db.risks.rows ->
      row.isOpenFor agent threat = true ->
        new.isOpenFor agent threat = true -> False := by
      intro row member isOpen isNewOpen'
      rcases RiskRow.isOpenFor_iff.mp isNewOpen with ⟨sameAgent, sameThreat, _⟩
      rcases RiskRow.isOpenFor_iff.mp isNewOpen' with ⟨otherAgent, otherThreat, _⟩
      rw [← otherAgent, ← otherThreat, sameAgent, sameThreat,
        none row member] at isOpen
      cases isOpen
    rw [rows, List.mem_append, List.mem_singleton] at firstMember secondMember
    rcases firstMember with firstOld | firstNew <;> rcases secondMember with
      secondOld | secondNew
    · exact single agent threat first second firstOld secondOld
        firstOpen secondOpen
    · rw [secondNew] at secondOpen
      exact absurd secondOpen fun isOpen => pairOfNew firstOld firstOpen isOpen
    · rw [firstNew] at firstOpen
      exact absurd firstOpen fun isOpen => pairOfNew secondOld secondOpen isOpen
    · rw [firstNew, secondNew]

/-- The open risks after one is closed are the other ones. -/
theorem openFor_closed {db : Db} {env : Env} {riskId agentId threatId : Uuid}
    {row : RiskRow} : row ∈ (setRiskStatus env riskId .closed db).risks.rows ∧
      row.isOpenFor agentId threatId = true <->
    row ∈ db.risks.rows ∧ row.isOpenFor agentId threatId = true ∧
      row.id ≠ riskId := by
  rw [setRiskStatus_rows, List.mem_map]
  constructor
  · intro present
    rcases present with ⟨⟨old, member, same⟩, isOpen⟩
    by_cases here : old.id = riskId
    · rw [if_pos here] at same
      rw [← same] at isOpen
      cases (RiskRow.isOpenFor_iff.mp isOpen).2.2
    · rw [if_neg here] at same
      rw [← same] at isOpen ⊢
      exact ⟨member, isOpen, here⟩
  · intro present
    rcases present with ⟨member, isOpen, other⟩
    exact ⟨⟨row, member, if_neg other⟩, isOpen⟩

/-- Closing a risk opens none. -/
theorem oneOpenRisk_closed {db : Db} (env : Env) (riskId : Uuid)
    (single : OneOpenRisk db) :
    OneOpenRisk (setRiskStatus env riskId .closed db) := by
  rw [oneOpenRisk_iff] at single ⊢
  intro agentId threatId first second firstMember secondMember
    firstOpen secondOpen
  have firstKept := openFor_closed.mp ⟨firstMember, firstOpen⟩
  have secondKept := openFor_closed.mp ⟨secondMember, secondOpen⟩
  exact single agentId threatId first second firstKept.1 secondKept.1
    firstOpen secondOpen

theorem Stmt.insertedRisk_none {stmt : Stmt}
    (readonly : stmt.writesRisks = false) :
    stmt.insertedRisk = none := by
  cases stmt <;> first | rfl | cases readonly

/-- What one statement of an ingestion does to the open risks. -/
theorem oneOpenRisk_perform (env : Env) (stmt : Stmt) (db : Db)
    (issued : stmt.writesRisks = false ∨ TriggerStmt stmt)
    (single : OneOpenRisk db) :
    OneOpenRisk (Program.perform exec env stmt db).2 <->
      InsertsUnopened env stmt db := by
  have reading : stmt.writesRisks = false ->
      (OneOpenRisk (Program.perform exec env stmt db).2 <->
        InsertsUnopened env stmt db) := by
    intro readonly
    have same := (perform_frame env stmt db).risks readonly
    refine iff_of_true ?_ ?_
    · unfold OneOpenRisk
      rw [same]
      exact single
    · intro _ row _
      rw [Stmt.insertedRisk_none readonly]
      rfl
  rcases issued with readonly | trigger
  · exact reading readonly
  cases trigger with
  | listThreats => exact reading rfl
  | findOpenRisk agentId threatId => exact reading rfl
  | insertRisk data =>
      cases outcome : exec env (.insertRisk data) db with
      | error failure =>
          rw [Program.perform_error outcome]
          refine iff_of_true single ?_
          intro accepted
          rw [outcome] at accepted
          cases accepted
      | ok pair =>
          rcases pair with ⟨riskId, db'⟩
          rw [Program.perform_ok outcome]
          rw [oneOpenRisk_inserted
            (insertRisk_inserted (exec_ok outcome).2) single]
          constructor
          · intro none _
            exact none
          · intro unopened
            exact unopened (by rw [outcome]; rfl)
  | close riskId =>
      refine iff_of_true ?_ ?_
      · have effect : (Stmt.setRiskStatus riskId .closed).effect env db =
            .ok ((), setRiskStatus env riskId .closed db) := rfl
        rcases perform_total effect with same | closed
        · rw [same]
          exact single
        · rw [closed]
          exact oneOpenRisk_closed env riskId single
      · intro _ row _
        rfl

/-! ## What is known of the risks opened since a lookup -/

/-- A risk that was inserted, and the pair it is of. -/
structure OpenedRisk where
  id : Uuid
  agentId : Uuid
  threatId : Uuid
  deriving DecidableEq

/-- The risks inserted and not closed since, going by the statements alone. -/
def logOpened (opened : List OpenedRisk) (stmt : Stmt) (_ : Db)
    (outcome : Except DbError stmt.Res × Db) : List OpenedRisk :=
  match stmt, outcome.1 with
  | .insertRisk data, .ok riskId =>
      opened ++ [⟨riskId, data.agentId, data.threatId⟩]
  | .setRiskStatus riskId .closed, .ok _ =>
      opened.filter fun entry => decide (entry.id ≠ riskId)
  | _, _ => opened

/-- Each ingestion's last lookup, and the risks opened by any since. -/
def riskRecorder : Recorder Stmt.Res DbError Db (Option RiskLookup)
    (List OpenedRisk) where
  note := noteLookup
  looks := Stmt.looksForRisk
  fresh := []
  log := logOpened

abbrev RecordedIngests :=
  Recorded Stmt.Res DbError (Fault IngesterError) IngestSummary Db
    (Option RiskLookup)
    (List OpenedRisk)

/-- No risk of the pair to insert has been opened since the ingestion looked, or
each that was is closed again. -/
def InsertsUnmissed (recorded : RecordedIngests) (label : Nat × Env) : Prop :=
  recorded.pool.Guarded
    (fun env stmt db => (exec env stmt db).isOk = true ->
      forall entry, entry ∈ recorded.since label.1 ->
        (stmt.insertedRisk.any fun data =>
          entry.agentId = data.agentId ∧ entry.threatId = data.threatId) = false)
    label

instance (recorded : RecordedIngests) (label : Nat × Env) :
    Decidable (InsertsUnmissed recorded label) :=
  inferInstanceAs (Decidable (Pool.Guarded _ _ _))

/-- The log has every open risk of a pair that was found without one, and nothing
but open risks. -/
structure OpenedSince (last : Option RiskLookup) (opened : List OpenedRisk)
    (db : Db) : Prop where
  complete : forall agentId threatId, last = some ⟨agentId, threatId, none⟩ ->
    forall row, row ∈ db.risks.rows -> row.isOpenFor agentId threatId = true ->
      ⟨row.id, agentId, threatId⟩ ∈ opened
  sound : forall entry, entry ∈ opened -> Exists fun row => row ∈ db.risks.rows ∧
    row.id = entry.id ∧ row.isOpenFor entry.agentId entry.threatId = true

section OpenedSince

variable {last : Option RiskLookup} {opened : List OpenedRisk} {db db' : Db}

theorem OpenedSince.of_same (since : OpenedSince last opened db)
    (same : db'.risks = db.risks) : OpenedSince last opened db' := by
  constructor <;> rw [same]
  · exact since.complete
  · exact since.sound

theorem OpenedSince.inserted (since : OpenedSince last opened db)
    {agentId threatId riskId : Uuid}
    (inserted : RiskInserted db db' agentId threatId riskId) :
    OpenedSince last (opened ++ [⟨riskId, agentId, threatId⟩]) db' := by
  rcases inserted.rows with ⟨new, sameId, isNewOpen, rows⟩
  constructor
  · intro agent threat looked row member isOpen
    rw [rows, List.mem_append, List.mem_singleton] at member
    rw [List.mem_append, List.mem_singleton]
    rcases member with old | rfl
    · exact Or.inl (since.complete agent threat looked row old isOpen)
    · right
      have pair := RiskRow.isOpenFor_iff.mp isOpen
      have newPair := RiskRow.isOpenFor_iff.mp isNewOpen
      rw [sameId, ← pair.1, ← pair.2.1, newPair.1, newPair.2.1]
  · intro entry logged
    simp only [rows, List.mem_append, List.mem_singleton] at logged ⊢
    rcases logged with old | rfl
    · rcases since.sound entry old with ⟨row, member, itsId, isOpen⟩
      exact ⟨row, Or.inl member, itsId, isOpen⟩
    · exact ⟨new, Or.inr rfl, sameId, isNewOpen⟩

theorem OpenedSince.closed (since : OpenedSince last opened db) (env : Env)
    (riskId : Uuid) :
    OpenedSince last (opened.filter fun entry => decide (entry.id ≠ riskId))
      (setRiskStatus env riskId .closed db) := by
  constructor
  · intro agent threat looked row member isOpen
    have kept := openFor_closed.mp ⟨member, isOpen⟩
    rw [List.mem_filter, decide_eq_true_eq]
    exact ⟨since.complete agent threat looked row kept.1 isOpen, kept.2.2⟩
  · intro entry logged
    rw [List.mem_filter, decide_eq_true_eq] at logged
    rcases since.sound entry logged.1 with ⟨row, member, itsId, isOpen⟩
    have other : row.id ≠ riskId := by
      rw [itsId]
      exact logged.2
    rcases openFor_closed.mpr ⟨member, isOpen, other⟩ with ⟨stays, stillOpen⟩
    exact ⟨row, stays, itsId, stillOpen⟩

/-- One statement of an ingestion, seen by one that has looked before. -/
theorem openedSince_log (since : OpenedSince last opened db) (env : Env)
    {stmt : Stmt} (issued : stmt.writesRisks = false ∨ TriggerStmt stmt) :
    OpenedSince last (logOpened opened stmt db (Program.perform exec env stmt db))
      (Program.perform exec env stmt db).2 := by
  have reading : stmt.writesRisks = false ->
      OpenedSince last
        (logOpened opened stmt db (Program.perform exec env stmt db))
        (Program.perform exec env stmt db).2 := by
    intro readonly
    have unlogged : logOpened opened stmt db (Program.perform exec env stmt db) =
        opened := by
      cases stmt <;> first | rfl | cases readonly
    rw [unlogged]
    exact since.of_same ((perform_frame env stmt db).risks readonly)
  rcases issued with readonly | trigger
  · exact reading readonly
  cases trigger with
  | listThreats => exact reading rfl
  | findOpenRisk agentId threatId => exact reading rfl
  | insertRisk data =>
      rcases perform_cases env (.insertRisk data) db with
        ⟨failure, performed⟩ | ⟨riskId, db', _, effect, performed⟩
      · rw [performed]
        exact since
      · rw [performed]
        exact since.inserted (insertRisk_inserted effect)
  | close riskId =>
      rcases perform_cases env (.setRiskStatus riskId .closed) db with
        ⟨failure, performed⟩ | ⟨value, db', _, effect, performed⟩
      · rw [performed]
        exact since
      · rw [performed, ← congrArg Prod.snd (Except.ok.inj effect)]
        exact since.closed env riskId

/-- What a lookup says of the store it is made in. -/
theorem openedSince_lookup (last : Option RiskLookup) (env : Env)
    (agentId threatId : Uuid) (db : Db) :
    let outcome := Program.perform exec env (.findOpenRisk agentId threatId) db
    OpenedSince (noteLookup last (.findOpenRisk agentId threatId) outcome.1) []
      outcome.2 := by
  intro outcome
  constructor
  · intro agent threat looked row member isOpen
    rcases perform_cases env (.findOpenRisk agentId threatId) db with
      ⟨failure, performed⟩ | ⟨answer, db', _, effect, performed⟩
    · simp only [outcome, performed, noteLookup] at looked
      cases looked
    · simp only [outcome, performed, noteLookup, Option.some.injEq,
        RiskLookup.mk.injEq] at looked
      rcases looked with ⟨rfl, rfl, rfl⟩
      rcases reading_same effect with ⟨rfl, answered⟩
      simp only [outcome, performed] at member
      exact absurd isOpen
        (findOpenRisk_none_iff.mp (Except.ok.inj answered) row member)
  · intro entry impossible
    cases impossible

end OpenedSince

theorem IngestStmt.issued {last : Option RiskLookup} {stmt : Stmt}
    (permitted : IngestStmt last stmt) :
    stmt.writesRisks = false ∨ TriggerStmt stmt :=
  permitted.imp_right ActsOnLookup.trigger

theorem riskRecorder_sound : riskRecorder.Sound exec IngestStmt OpenedSince := by
  constructor
  · intro env stmt last opened db permitted since
    by_cases looks : stmt.looksForRisk = true
    · cases stmt <;> try cases looks
      next agentId threatId =>
        exact openedSince_lookup last env agentId threatId db
    · have unnoted :
          riskRecorder.note last stmt (Program.perform exec env stmt db).1 =
            none := by
        cases stmt <;> first | rfl | exact absurd rfl looks
      have renewed :
          riskRecorder.renewed true opened stmt db
            (Program.perform exec env stmt db) =
          logOpened opened stmt db (Program.perform exec env stmt db) :=
            if_neg looks
      rw [unnoted, renewed]
      refine ⟨?_, (openedSince_log since env permitted.issued).sound⟩
      intro agentId threatId impossible
      cases impossible
  · intro env stmt mover moved last opened db permitted _ since
    exact openedSince_log since env permitted.issued

/-- Where the records are right, no open risk of the pair is what the log says. -/
theorem insertsUnmissed_iff (recorded : RecordedIngests) (label : Nat × Env)
    (records : recorded.Records riskRecorder IngestStmt OpenedSince) :
    InsertsUnmissed recorded label <->
      recorded.pool.Guarded InsertsUnopened label := by
  rw [InsertsUnmissed, Pool.guarded_iff, Pool.guarded_iff]
  cases turn : recorded.pool.threads[label.1]? with
  | none => rfl
  | some program =>
      cases program with
      | done summary => rfl
      | fail error => rfl
      | call stmt next =>
          have since := records.sees label.1
          have permitted := records.follows.turn turn
          apply imp_congr_right
          intro _
          cases inserts : stmt.insertedRisk with
          | none => exact iff_of_true (fun _ _ => rfl) fun _ _ => rfl
          | some data =>
              have writes : stmt.writesRisks ≠ false := by
                intro readonly
                rw [Stmt.insertedRisk_none readonly] at inserts
                cases inserts
              have acts := permitted.resolve_left writes
              have looked := acts.inserts data inserts
              simp only [Option.any_some, Bool.eq_false_iff, ne_eq,
                decide_eq_true_eq]
              constructor
              · intro unmissed row member isOpen
                have logged := since.complete _ _ looked row member isOpen
                exact unmissed _ logged ⟨rfl, rfl⟩
              · intro unopened entry logged pair
                rcases since.sound entry logged with ⟨row, member, _, isOpen⟩
                rw [pair.1, pair.2] at isOpen
                exact unopened row member isOpen

/-! ## Every interleaving -/

theorem ingests_recorded (ingester : ResultIngester) (calls : List IngestCall)
    (db : Db) :
    (Recorded.start riskRecorder none
      (IngestPool.start ingester calls db)).Records
      riskRecorder IngestStmt OpenedSince := by
  constructor
  · intro index program present
    rcases List.mem_map.mp (List.mem_of_getElem? present) with ⟨call, _, rfl⟩
    exact ingest_attends ingester call none
  · intro index
    constructor
    · intro agentId threatId impossible
      cases impossible
    · intro entry impossible
      cases impossible

/-- From a database where it is so, no pair of agent and threat ever has two
open risks exactly if, at every insertion the database accepts, every risk of
the pair that was inserted since the ingestion looked is closed again. -/
theorem one_open_risk_iff (ingester : ResultIngester) (calls : List IngestCall)
    (db : Db) (single : OneOpenRisk db) (labels : List (Nat × Env)) :
    Always (Pool.step exec) (fun pool => OneOpenRisk pool.store)
        (IngestPool.start ingester calls db) labels <->
      Meets (Recorded.step riskRecorder exec) InsertsUnmissed
        (Recorded.start riskRecorder none (IngestPool.start ingester calls db))
          labels := by
  have records := ingests_recorded ingester calls db
  rw [Recorded.meets_iff_guarded riskRecorder_sound insertsUnmissed_iff records]
  have issues : (IngestPool.start ingester calls db).Issues
      fun stmt => stmt.writesRisks = false ∨ TriggerStmt stmt := by
    intro program member
    rcases List.mem_map.mp member with ⟨call, _, rfl⟩
    exact (ingest_attends ingester call none).issues fun last stmt =>
      IngestStmt.issued
  apply always_iff_meets (fun pool label => Pool.issues_step pool label) _
    issues single
  intro pool label issues single
  rcases Pool.step_cases exec pool label with
    ⟨idle, same⟩ | ⟨op, next, turn, stepped⟩
  · rw [same]
    refine iff_of_true single ?_
    intro op next turn
    exact absurd turn (idle op next)
  · have one_step :=
      oneOpenRisk_perform label.2 op pool.store (issues.turn turn) single
    rw [stepped, one_step, Pool.guarded_iff, turn]

/-! ## One failed check, sent twice -/

/-- The two checks, and one threat of their kind. -/
def threatenedDb : Db :=
  { policedDb with
    threats :=
      ⟨[⟨31, "Configuration drift", none, some "Compliance", some (19 / 2),
        newYear.nanos⟩], by decide⟩ }

/-- The same failed result of a critical check. -/
def failedCall : IngestCall where
  agentId := 7
  results :=
    [{ midnightResult "1b4e28ba-2fa1-11d2-883f-0016d3cca427" with
      passed := false, actualValue := "yes" }]
  checkSeverities :=
    fun checkId => if checkId = "1b4e28ba-2fa1-11d2-883f-0016d3cca427" then
      some "critical" else none
  now := newYear

/-- The pool after the given ingestions moved, each drawing its own
identifier. -/
def ingesting (order : List Nat) : List (Nat × Env) :=
  order.map fun index => (index, quietly (41 + index) 0)

/-- The second ingestion starts when the first is done. -/
theorem one_open_risk_iff_in_turn :
    Always (Pool.step exec) (fun pool => OneOpenRisk pool.store)
      (IngestPool.start crateIngester [failedCall, failedCall] threatenedDb)
      (ingesting [0, 0, 0, 0, 0, 0, 1, 1, 1, 1, 1, 1]) := by
  refine (one_open_risk_iff _ _ _ ?_ _).mpr ?_
  · decide
  · decide +kernel

/-- Both ingestions look before either inserts. -/
theorem risk_opened_twice :
    OneOpenRisk threatenedDb ∧
    ¬ Always (Pool.step exec) (fun pool => OneOpenRisk pool.store)
      (IngestPool.start crateIngester [failedCall, failedCall] threatenedDb)
      (ingesting [0, 1, 0, 1, 0, 1, 0, 1, 0, 1, 0, 1]) := by
  refine ⟨by decide, ?_⟩
  intro always
  exact absurd always.last (by decide +kernel)

end Complyx
