import Complyx.Ingest.Delivery

namespace Complyx

open Transition Relational

/-!
# Does one result decide over the others?

The validator sorts results one by one, and those that pass are inserted in one
transaction.  The database refuses some of them all the same: a text with a zero
byte, or a check it does not have, which a respelled identifier brings past the
validator.  Then none of the batch is stored.  Ingesting the results one by one
would have stored all the others.
-/

/-! ## What the database stores -/

/-- The database takes a result with the key and the content. -/
structure Storable (db : Db) (key : ResultKey)
    (stored : ResultContent) : Prop where
  detail : hasNul stored.detail = false
  actualValue : stored.actualValue.any hasNul = false
  expectedValue : stored.expectedValue.any hasNul = false
  time : minTimestampSecs * nanosPerSec ≤ key.2.2
  /-- Where the key is there already the references are not looked at. -/
  known : key ∈ db.resultKeys ∨
    db.hasAgent key.1 = true ∧
      (db.policyChecks.find PolicyCheckRow.id key.2.1).isSome = true

instance (db : Db) (key : ResultKey) (stored : ResultContent) :
    Decidable (Storable db key stored) :=
  decidable_of_iff
    (hasNul stored.detail = false ∧ stored.actualValue.any hasNul = false ∧
      stored.expectedValue.any hasNul = false ∧
        minTimestampSecs * nanosPerSec ≤ key.2.2 ∧
      (db.resultKeys.contains key = true ∨
        db.hasAgent key.1 = true ∧
          (db.policyChecks.find PolicyCheckRow.id key.2.1).isSome = true)) (by
    rw [List.contains_iff_mem]
    exact ⟨fun ⟨detail, actualValue, expectedValue, time, known⟩ =>
      ⟨detail, actualValue, expectedValue, time, known⟩,
        fun ⟨detail, actualValue, expectedValue, time, known⟩ =>
        ⟨detail, actualValue, expectedValue, time, known⟩⟩)

theorem references_eq_ok {table : String} {present : Bool} :
    references table present = .ok () <-> present = true := by
  refine ⟨references_ok, ?_⟩
  rintro rfl
  rfl

/-- A row whose drawn identifier is new is accepted exactly if it is storable. -/
theorem insertCheckResult_isOk {env : Env} {index : Nat} {row : InsertCheckResult}
    {db : Db}
    (unused : forall old, old ∈ db.checkResults.rows ->
      old.id ≠ env.fresh index) :
    (Exists fun step => insertCheckResult env index row db = .ok step) <->
      Storable db (row.resultKey env.clock) row.content := by
  constructor
  · rintro ⟨⟨added, db'⟩, accepted⟩
    rcases insertCheckResult_ok accepted with ⟨valid, stepped⟩
    refine ⟨valid.detail, valid.actualValue, valid.expectedValue,
      valid.executedAt, ?_⟩
    cases stepped with
    | kept present => exact Or.inl present
    | added checkResults inserted absent agent check =>
        exact Or.inr ⟨agent, check⟩
  · intro storable
    have late :
        timestampParam (row.executedAt env.clock) =
          .ok (row.executedAt env.clock) :=
      timestampParam_eq_ok.mpr ⟨rfl, storable.time⟩
    have detail : textParam row.detail = .ok row.detail :=
      textParam_of_clean storable.detail
    have actualValue : textParam row.actualValue = .ok row.actualValue :=
      textParam_of_clean storable.actualValue
    have expectedValue : textParam row.expectedValue = .ok row.expectedValue :=
      textParam_of_clean storable.expectedValue
    unfold insertCheckResult
    simp only [bind, Except.bind, detail, actualValue, expectedValue, late]
    split
    · exact ⟨_, rfl⟩
    next absent =>
    rcases storable.known with present | ⟨agentFound, checkFound⟩
    · exact absurd present absent
    have apart : forall old, old ∈ db.checkResults.rows -> ¬ CheckResultRow.Clash old
        { id := env.fresh index, agentId := row.agentId, checkId := row.checkId
          passed := row.passed, detail := row.detail
          actualValue := some row.actualValue
          expectedValue := some row.expectedValue
          executedAt := row.executedAt env.clock, receivedAt := env.now } := by
      rintro old member (sameId | ⟨sameAgent, sameCheck, sameTime⟩)
      · exact unused old member sameId
      · apply absent
        rw [Db.resultKeys, List.mem_map]
        exact ⟨old, member, by
          rw [CheckResultRow.resultKey, InsertCheckResult.resultKey,
            sameAgent, sameCheck, sameTime]⟩
    rcases Option.isSome_iff_exists.mp (Table.insert?_isSome_iff.mpr apart) with
      ⟨checkResults, inserted⟩
    have agentRow : references "check_results" (db.hasAgent row.agentId) =
      .ok () := references_eq_ok.mpr agentFound
    have checkRow :
        references "check_results"
          (db.policyChecks.find PolicyCheckRow.id row.checkId).isSome = .ok () :=
      references_eq_ok.mpr checkFound
    simp only [inserted, constrained, agentRow, checkRow]
    exact ⟨_, rfl⟩

/-- The agent and the check of the key exist. -/
def Db.Referenced (db : Db) (key : ResultKey) : Prop :=
  db.hasAgent key.1 = true ∧
    (db.policyChecks.find PolicyCheckRow.id key.2.1).isSome = true

/-- Results whose references exist, or that were there, make no other storable. -/
theorem Storable.after {db db' : Db} {key : ResultKey} {stored : ResultContent}
    {keys : List ResultKey} (agents : db'.agents = db.agents)
    (checks : db'.policyChecks = db.policyChecks)
    (added : key ∈ db'.resultKeys <-> key ∈ db.resultKeys ∨ key ∈ keys)
    (referenced : key ∈ keys -> key ∈ db.resultKeys ∨ db.Referenced key) :
    Storable db' key stored <-> Storable db key stored := by
  have sameReferences : db'.Referenced key <-> db.Referenced key := by
    rw [Db.Referenced, Db.Referenced, Db.hasAgent, Db.hasAgent, agents, checks]
  have known : (key ∈ db'.resultKeys ∨ db'.Referenced key) <->
      (key ∈ db.resultKeys ∨ db.Referenced key) := by
    rw [added, sameReferences, or_assoc]
    constructor
    · rintro (old | new | found)
      · exact Or.inl old
      · exact referenced new
      · exact Or.inr found
    · rintro (old | found)
      · exact Or.inl old
      · exact Or.inr (Or.inr found)
  constructor
  · intro storable
    exact ⟨storable.detail, storable.actualValue, storable.expectedValue,
      storable.time, known.mp storable.known⟩
  · intro storable
    exact ⟨storable.detail, storable.actualValue, storable.expectedValue,
      storable.time, known.mpr storable.known⟩

/-- The identifiers drawn from the index on are new and different. -/
structure Draws (env : Env) (index count : Nat) (db : Db) : Prop where
  unused : forall n, index ≤ n -> n < index + count -> forall old,
    old ∈ db.checkResults.rows -> old.id ≠ env.fresh n
  distinct : forall n m, index ≤ n -> n < m -> m < index + count ->
    env.fresh n ≠ env.fresh m

theorem insertCheckResult_drawn {env : Env} {index added : Nat}
    {result : InsertCheckResult} {db db' : Db}
    (accepted : insertCheckResult env index result db = .ok (added, db'))
    {row : CheckResultRow} (member : row ∈ db'.checkResults.rows) :
    row ∈ db.checkResults.rows ∨ row.id = env.fresh index := by
  cases (insertCheckResult_ok accepted).2 with
  | kept present => exact Or.inl member
  | added checkResults inserted absent agent check =>
      simp only at member
      rw [Table.insert?_rows inserted, List.mem_append,
        List.mem_singleton] at member
      rcases member with old | new
      · exact Or.inl old
      · rw [new]
        exact Or.inr rfl

theorem Draws.next {env : Env} {index count added : Nat}
    {result : InsertCheckResult} {db db' : Db}
    (draws : Draws env index (count + 1) db)
    (accepted : insertCheckResult env index result db = .ok (added, db')) :
    Draws env (index + 1) count db' := by
  constructor
  · intro n late bound row member
    rcases insertCheckResult_drawn accepted member with old | drawn
    · exact draws.unused n (by omega) (by omega) row old
    · rw [drawn]
      exact draws.distinct index n (Nat.le_refl index) (by omega) (by omega)
  · intro n m late before bound
    exact draws.distinct n m (by omega) before (by omega)

/-- The transaction succeeds exactly if all rows are storable. -/
theorem insertCheckResultsFrom_isOk {env : Env} {index : Nat}
    {rows : List InsertCheckResult} {db : Db}
    (draws : Draws env index rows.length db) :
    (Exists fun step => insertCheckResultsFrom env index rows db = .ok step) <->
      forall row, row ∈ rows ->
        Storable db (row.resultKey env.clock) row.content := by
  induction rows generalizing index db with
  | nil =>
      exact iff_of_true ⟨_, rfl⟩ fun row impossible =>
        absurd impossible List.not_mem_nil
  | cons row rest ih =>
      have head :
          (Exists fun step => insertCheckResult env index row db = .ok step) <->
          Storable db (row.resultKey env.clock) row.content :=
        insertCheckResult_isOk
          (draws.unused index (Nat.le_refl index)
            (by rw [List.length_cons]; omega))
      rw [List.forall_mem_cons, ← head, insertCheckResultsFrom]
      cases first : insertCheckResult env index row db with
      | error failure =>
          refine iff_of_false ?_ fun both => ?_
          · rintro ⟨step, impossible⟩
            cases impossible
          · rcases both.1 with ⟨step, impossible⟩
            cases impossible
      | ok step =>
          rcases step with ⟨added, middle⟩
          have storable := head.mp ⟨_, first⟩
          have effect := insertCheckResult_added first
          have agents : middle.agents = db.agents := by rw [effect.frame]
          have checks : middle.policyChecks = db.policyChecks := by
            rw [effect.frame]
          have same : forall {key stored}, Storable middle key stored <->
              Storable db key stored := by
            intro key stored
            apply Storable.after agents checks (effect.keys key)
            intro member
            rw [List.mem_singleton.mp member]
            exact storable.known
          have later := ih (draws.next first)
          simp only [same] at later
          rw [← later]
          cases others : insertCheckResultsFrom env (index + 1) rest middle with
          | error failure =>
              refine iff_of_false ?_ fun both => ?_
              · rintro ⟨step, impossible⟩
                simp only [bind, Except.bind, others] at impossible
                cases impossible
              · rcases both.2 with ⟨step, impossible⟩
                cases impossible
          | ok last =>
              exact iff_of_true ⟨_, by simp only [bind, Except.bind, others]; rfl⟩
                ⟨⟨_, rfl⟩, ⟨_, rfl⟩⟩

/-! ## What the validator accepts -/

/-- The identifier under which the validator accepts the result. -/
def ResultIngester.accepts (ingester : ResultIngester) (call : IngestCall)
    (db : Db) (result : CheckResult) : Option Uuid :=
  match validateTimestamp result.executedAt call.now ingester.timestampBounds with
  | .ok none => (ingester.text.parse result.checkId).filter fun id =>
      decide (Assigned db call.agentId id) ||
        decide (result.checkId ≠ ingester.text.toText id)
  | _ => none

theorem accepts_eq_some {ingester : ResultIngester} {call : IngestCall} {db : Db}
    {result : CheckResult} {id : Uuid} :
    ingester.accepts call db result = some id <->
      validateTimestamp result.executedAt call.now ingester.timestampBounds =
        .ok none ∧
      ingester.text.parse result.checkId = some id ∧
      (Assigned db call.agentId id ∨
        result.checkId ≠ ingester.text.toText id) := by
  unfold ResultIngester.accepts
  split
  · next timely =>
    rw [Option.filter_eq_some_iff, Bool.or_eq_true, decide_eq_true_eq,
      decide_eq_true_eq]
    exact ⟨fun both => ⟨timely, both⟩, And.right⟩
  · next untimely =>
    exact iff_of_false (fun impossible => nomatch impossible) fun accepted =>
      untimely accepted.1

/-- Where one time is in the window, no time makes the comparison panic. -/
theorem validateTimestamp_total {now : DateTime} {bounds : TimestampBounds}
    {time : Int} (timely : validateTimestamp time now bounds = .ok none)
    (other : Int) :
    Exists fun answer => validateTimestamp other now bounds = .ok answer := by
  unfold validateTimestamp at timely ⊢
  cases DateTime.fromTimestamp other with
  | none => exact ⟨_, rfl⟩
  | some executedAt =>
      split at timely
      · cases timely
      simp only [bind, Except.bind, pure, Except.pure] at timely ⊢
      split at timely
      · cases timely
      split at timely
      · cases timely
      split at timely
      · cases timely
      split at timely
      · cases timely
      split at timely
      · cases timely
      split
      · exact ⟨_, rfl⟩
      · split
        · exact ⟨_, rfl⟩
        · exact ⟨_, rfl⟩

/-- The loop over a batch ends unless a comparison panics. -/
theorem sorted_isOk {text : UuidText} {now : DateTime} {bounds : TimestampBounds}
    {results : List CheckResult}
    (compared : forall result, result ∈ results ->
      Exists fun answer =>
        validateTimestamp result.executedAt now bounds = .ok answer)
    (before : Sorted) :
    Exists fun after => results.foldlM (sortResult text now bounds) before =
      .ok after := by
  induction results generalizing before with
  | nil => exact ⟨before, rfl⟩
  | cons result rest ih =>
      have turned : Exists fun middle =>
          sortResult text now bounds before result = .ok middle := by
        rcases compared result List.mem_cons_self with ⟨answer, checked⟩
        simp only [sortResult, bind, Except.bind, checked]
        cases answer with
        | some reason => exact ⟨_, rfl⟩
        | none =>
            cases text.parse result.checkId with
            | none => exact ⟨_, rfl⟩
            | some id => exact ⟨_, rfl⟩
      rcases turned with ⟨middle, first⟩
      rw [List.foldlM_cons, first]
      exact ih
        (fun other member => compared other (List.mem_cons_of_mem _ member))
        middle

/-- A loop that ended has compared every time. -/
theorem sorted_compared {text : UuidText} {now : DateTime}
    {bounds : TimestampBounds} {before after : Sorted}
    {results : List CheckResult}
    (turned : results.foldlM (sortResult text now bounds) before = .ok after)
    {result : CheckResult} (member : result ∈ results) :
    Exists fun answer => validateTimestamp result.executedAt now bounds =
      .ok answer := by
  induction results generalizing before with
  | nil => cases member
  | cons head rest ih =>
      rcases sorted_cons turned with ⟨middle, first, later⟩
      rcases List.mem_cons.mp member with here | tail
      · rw [here]
        cases checked : validateTimestamp head.executedAt now bounds with
        | ok answer => exact ⟨answer, rfl⟩
        | error failure =>
            simp only [sortResult, bind, Except.bind, checked] at first
            cases first
      · exact ih later tail

section Validation

variable {ingester : ResultIngester} {call : IngestCall} {envs : Nat -> Env}
  {db left : Db}

/-- The accepted results of a batch that was validated are those that pass. -/
theorem accepts_iff_passes {report : ValidationReport}
    (validated : Program.run exec (ingester.validate call) envs db =
      (.ok report, left))
    {result : CheckResult} (member : result ∈ call.results) (id : Uuid) :
    ingester.accepts call db result = some id <->
      Passes ingester.text call.now ingester.timestampBounds db call.agentId
        result id := by
  have compared : Exists fun answer =>
      validateTimestamp result.executedAt call.now ingester.timestampBounds =
        .ok answer := by
    unfold ResultIngester.validate validateBatch at validated
    split at validated
    · next empty =>
      rw [List.isEmpty_iff.mp empty] at member
      cases member
    rw [Program.run_lift_bind] at validated
    split at validated
    swap
    · cases congrArg Prod.fst validated
    next sorted turned => exact sorted_compared turned member
  rcases compared with ⟨answer, checked⟩
  have window := validateTimestamp_ok checked
  rw [accepts_eq_some, checked, Except.ok.injEq, window]
  exact ⟨fun ⟨inWindow, parsed, survives⟩ => ⟨⟨inWindow, parsed⟩, survives⟩,
    fun passes => ⟨passes.inWindow, passes.parsed, passes.survives⟩⟩

/-- A validation whose lookup reaches the database reports the accepted results,
or panics where none is accepted. -/
theorem run_validate_accepts (ingester : ResultIngester) (call : IngestCall)
    (db : Db) (clear : (envs 0).fault = none) :
    (Exists fun report => Program.run exec (ingester.validate call) envs db =
      (.ok report, db) ∧
      report.valid = call.results.filter fun result =>
        (ingester.accepts call db result).isSome) ∨
    (Exists fun failure => Program.run exec (ingester.validate call) envs db =
      (.error failure, db)) ∧
      forall result, result ∈ call.results ->
        ingester.accepts call db result = none := by
  have unread := run_validate_same ingester call envs db
  cases validated : Program.run exec (ingester.validate call) envs db with
  | mk answer left =>
  rw [validated] at unread
  have sameDb : left = db := unread
  subst left
  cases answer with
  | ok report =>
      left
      refine ⟨report, rfl, ?_⟩
      rcases validateBatch_filter validated with ⟨keep, kept⟩
      rw [kept]
      apply List.filter_congr
      intro result member
      have passing := (validateBatch_ok validated).2 result
      rw [kept, List.mem_filter, and_congr_right_iff] at passing
      rw [Bool.eq_iff_iff, passing member, Option.isSome_iff_exists]
      exact exists_congr fun id => (accepts_iff_passes validated member id).symm
  | error failure =>
      right
      refine ⟨⟨failure, rfl⟩, ?_⟩
      intro result member
      cases accepted : ingester.accepts call db result with
      | none => rfl
      | some id =>
          have timely := (accepts_eq_some.mp accepted).1
          have ended : Exists fun sorted =>
              call.results.foldlM
                  (sortResult ingester.text call.now ingester.timestampBounds)
                  {} = .ok sorted :=
            sorted_isOk
              (fun other _ => validateTimestamp_total timely other.executedAt) {}
          rcases ended with ⟨sorted, turned⟩
          rw [ResultIngester.validate, validateBatch] at validated
          split at validated
          · cases congrArg Prod.fst validated
          rw [turned, Program.lift_ok, Program.done_bind] at validated
          split at validated
          · cases congrArg Prod.fst validated
          rw [Program.run_attempt_bind, exec_clear clear] at validated
          cases congrArg Prod.fst validated

end Validation

/-! ## What a batch stores -/

/-- The database takes every accepted result of the batch. -/
def StoresAll (ingester : ResultIngester) (call : IngestCall) (db : Db) : Prop :=
  forall result, result ∈ call.results -> forall id,
    ingester.accepts call db result = some id ->
    Storable db (result.key call.agentId id) result.content

instance (ingester : ResultIngester) (call : IngestCall) (db : Db) :
    Decidable (StoresAll ingester call db) :=
  decidable_of_iff (forall result, result ∈ call.results ->
    ((ingester.accepts call db result).all fun id =>
      decide (Storable db (result.key call.agentId id) result.content)) =
        true) (by
    simp only [StoresAll, Option.all_eq_true, decide_eq_true_eq])

/-- The result is accepted, and the database takes it. -/
def ResultIngester.stores (ingester : ResultIngester) (call : IngestCall)
    (db : Db) (result : CheckResult) : Bool :=
  (ingester.accepts call db result).any fun id =>
    decide (Storable db (result.key call.agentId id) result.content)

theorem stores_iff {ingester : ResultIngester} {call : IngestCall} {db : Db}
    {result : CheckResult} :
    ingester.stores call db result = true <-> Exists fun id =>
      ingester.accepts call db result = some id ∧
      Storable db (result.key call.agentId id) result.content := by
  simp only [ResultIngester.stores, Option.any_eq_true, decide_eq_true_eq]

/-- The lookup and the insertion reach the database, and the insertion draws new
identifiers. -/
structure Calm (envs : Nat -> Env) (call : IngestCall) (db : Db) : Prop where
  lookup : (envs 0).fault = none
  insertion : (envs 1).fault = none
  draws : Draws (envs 1) 0 call.results.length db

/-- The tables that decide which results are accepted and storable, the results
aside. -/
structure SameReferences (db db' : Db) : Prop where
  agents : db'.agents = db.agents
  policyElements : db'.policyElements = db.policyElements
  policyChecks : db'.policyChecks = db.policyChecks
  agentPolicies : db'.agentPolicies = db.agentPolicies
  groupPolicies : db'.groupPolicies = db.groupPolicies
  agentGroupMembership : db'.agentGroupMembership = db.agentGroupMembership

theorem SameReferences.accepts {db db' : Db} (same : SameReferences db db')
    (ingester : ResultIngester) (call : IngestCall) (result : CheckResult) :
    ingester.accepts call db' result =
      ingester.accepts call db result := by
  have assigned : forall id, Assigned db' call.agentId id <->
      Assigned db call.agentId id := by
    intro id
    unfold Assigned
    rw [same.policyElements, same.policyChecks, same.agentPolicies,
      same.groupPolicies, same.agentGroupMembership]
  unfold ResultIngester.accepts
  simp only [assigned]

theorem run_ingest_assignments (ingester : ResultIngester) (call : IngestCall)
    (envs : Nat -> Env) (db : Db) :
    SameReferences db (Program.run exec (ingester.ingest call) envs db).2 := by
  have kept : forall {β : Type} (view : Db -> β),
      (forall {stmt : Stmt} {db db' : Db}, stmt.writesAgents = false ->
        stmt.writesAssignments = false ->
        Frame stmt db db' -> view db' = view db) ->
      view (Program.run exec (ingester.ingest call) envs db).2 = view db := by
    intro β view framed
    apply Program.run_kept view _ (ingest_issues_own ingester call)
    intro env stmt db issued
    have frame := perform_frame env stmt db
    cases issued with
    | lookup checkIds => exact framed rfl rfl frame
    | insert rows own => exact framed rfl rfl frame
    | rescore => exact framed rfl rfl frame
    | trigger stmt issued => cases issued <;> exact framed rfl rfl frame
  exact ⟨kept Db.agents fun agents _ frame => frame.agents agents,
    kept Db.policyElements fun _ _ frame => frame.policyElements,
    kept Db.policyChecks fun _ _ frame => frame.policyChecks,
    kept Db.agentPolicies fun _ assignments frame =>
      frame.agentPolicies assignments,
    kept Db.groupPolicies fun _ _ frame => frame.groupPolicies,
    kept Db.agentGroupMembership fun _ assignments frame =>
      frame.agentGroupMembership assignments⟩

theorem mapM_isOk {α β ε : Type} {convert : α -> Except ε β} {values : List α}
    (each : forall value, value ∈ values -> Exists fun image =>
      convert value = .ok image) :
    Exists fun images => values.mapM convert = .ok images := by
  induction values with
  | nil => exact ⟨[], rfl⟩
  | cons value rest ih =>
      rcases each value List.mem_cons_self with ⟨image, first⟩
      rcases ih fun other member =>
        each other (List.mem_cons_of_mem _ member) with ⟨images, others⟩
      exact ⟨image :: images, by rw [List.mapM_cons, first, others]; rfl⟩

theorem mapM_length {α β ε : Type} {convert : α -> Except ε β} {values : List α}
    {images : List β} (converted : values.mapM convert = .ok images) :
    images.length = values.length := by
  induction values generalizing images with
  | nil =>
      cases converted
      rfl
  | cons value rest ih =>
      simp only [List.mapM_cons, bind, Except.bind] at converted
      split at converted
      · cases converted
      split at converted
      · cases converted
      next tail others =>
      cases converted
      rw [List.length_cons, List.length_cons, ih others]

theorem Draws.mono {env : Env} {index count fewer : Nat} {db : Db}
    (draws : Draws env index count db) (less : fewer ≤ count) :
    Draws env index fewer db :=
  ⟨fun n late bound => draws.unused n late (by omega),
    fun n m late before bound => draws.distinct n m late before (by omega)⟩

section Batch

variable {ingester : ResultIngester} {call : IngestCall} {db : Db}

theorem accepts_dated {result : CheckResult} {id : Uuid}
    (accepted : ingester.accepts call db result = some id) :
    Exists fun time => DateTime.fromTimestamp result.executedAt = some time := by
  have timely := (accepts_eq_some.mp accepted).1
  rcases (validateTimestamp_ok timely).mp rfl with ⟨time, read, _⟩
  exact ⟨time, read⟩

/-- The row built for an accepted result. -/
theorem toInsert_accepted {result : CheckResult} {id : Uuid}
    (accepted : ingester.accepts call db result = some id) (clock : Timestamp) :
    Exists fun row => toInsert ingester.text call.agentId result = .ok row ∧
      row.resultKey clock = result.key call.agentId id ∧
        row.content = result.content := by
  rcases accepts_dated accepted with ⟨time, read⟩
  simp only [toInsert, (accepts_eq_some.mp accepted).2.1]
  refine ⟨_, rfl, ?_, rfl⟩
  simp only [InsertCheckResult.resultKey, InsertCheckResult.executedAt, read,
    CheckResult.key, DateTime.naiveUtc, DateTime.fromTimestamp_nanos read]

/-- The rows built for the accepted results are storable exactly if these are. -/
theorem rows_storable_iff {rows : List InsertCheckResult}
    (built :
      (call.results.filter fun result =>
        (ingester.accepts call db result).isSome).mapM
      (toInsert ingester.text call.agentId) = .ok rows) (clock : Timestamp) :
    (forall row, row ∈ rows -> Storable db (row.resultKey clock) row.content) <->
      StoresAll ingester call db := by
  constructor
  · intro storable result member id accepted
    rcases toInsert_accepted accepted clock with
      ⟨row, inserted, sameKey, sameContent⟩
    rw [← sameKey, ← sameContent]
    apply storable
    refine (mem_mapM_ok built row).mpr
      ⟨result, List.mem_filter.mpr ⟨member, ?_⟩, inserted⟩
    rw [accepted]
    rfl
  · intro storable row member
    rcases (mem_mapM_ok built row).mp member with ⟨result, valid, inserted⟩
    rw [List.mem_filter, Option.isSome_iff_exists] at valid
    rcases valid with ⟨inBatch, id, accepted⟩
    rcases toInsert_accepted accepted clock with
      ⟨row', inserted', sameKey, sameContent⟩
    cases inserted.symm.trans inserted'
    rw [sameKey, sameContent]
    exact storable result inBatch id accepted

/-- The statements after the insertion keep the stored results. -/
theorem run_afterInsertion_resultAt {agentId : Uuid} {valid : List CheckResult}
    {severities : CheckSeverities}
    {summarize : Nat -> RiskTriggerSummary -> IngestSummary} (envs : Nat -> Env)
    (db : Db) :
    (Program.run exec
      (recalculate agentId >>= fun scoresUpdated =>
        evaluate agentId valid severities >>=
        fun riskSummary => Program.done (summarize scoresUpdated riskSummary) :
          Code (Fault IngesterError) IngestSummary)
          envs db).2.resultAt = db.resultAt := by
  apply Program.run_kept Db.resultAt _
    (afterInsertion_issues agentId valid severities summarize)
  intro env stmt db readonly
  rw [Db.resultAt, Db.resultAt, (perform_frame env stmt db).checkResults readonly]

/-- A validation with valid results has issued its lookup. -/
theorem calls_validate {envs : Nat -> Env} {left : Db} {report : ValidationReport}
    (validated : Program.run exec (ingester.validate call) envs db =
      (.ok report, left))
    (some : report.valid ≠ []) :
    Program.calls exec (ingester.validate call) envs db = 1 := by
  unfold ResultIngester.validate validateBatch at validated ⊢
  split at validated
  · cases validated
    exact absurd rfl some
  next some_results =>
  rw [if_neg some_results]
  cases turned :
      call.results.foldlM
        (sortResult ingester.text call.now ingester.timestampBounds) {} with
  | error failure =>
      rw [turned] at validated
      cases congrArg Prod.fst validated
  | ok sorted =>
      rw [turned, Program.lift_ok, Program.done_bind] at validated
      rw [Program.lift_ok, Program.done_bind]
      split at validated
      · next none =>
        cases validated
        exact absurd (List.isEmpty_iff.mp none) some
      · next some_valid =>
        rw [if_neg some_valid, Program.attempt_bind, Program.calls]
        cases (Program.perform exec (envs 0)
          (.validateCheckIdsForAgent call.agentId sorted.candidateCheckIds)
          db).1 <;> rfl

section Valid

variable {report : ValidationReport}
  (valid : report.valid = call.results.filter fun result =>
    (ingester.accepts call db result).isSome)

include valid

theorem accepts_valid {result : CheckResult} (member : result ∈ report.valid) :
    Exists fun id => ingester.accepts call db result = some id := by
  rw [valid, List.mem_filter] at member
  exact Option.isSome_iff_exists.mp member.2

theorem toInsert_valid (result : CheckResult) (member : result ∈ report.valid) :
    Exists fun row => toInsert ingester.text call.agentId result = .ok row := by
  rcases accepts_valid valid member with ⟨id, accepts⟩
  rcases toInsert_accepted accepts 0 with ⟨row, inserted, _⟩
  exact ⟨row, inserted⟩

theorem dated_valid (result : CheckResult) (member : result ∈ report.valid) :
    (DateTime.fromTimestamp result.executedAt).isSome = true := by
  rcases accepts_valid valid member with ⟨id, accepts⟩
  exact Option.isSome_iff_exists.mpr (accepts_dated accepts)

end Valid

/-- A batch stores all of its accepted results, or none of them. -/
theorem run_ingest_resultAt {envs : Nat -> Env} (calm : Calm envs call db) :
    (StoresAll ingester call db ∧
      (Program.run exec (ingester.ingest call) envs db).2.resultAt =
      keepOld db.resultAt (batchAt ingester.text call.agentId
        (call.results.filter fun result =>
          (ingester.accepts call db result).isSome))) ∨
    (¬ StoresAll ingester call db ∧
      (Program.run exec (ingester.ingest call) envs db).2.resultAt =
        db.resultAt) := by
  have nothing :
      call.results.filter
        (fun result => (ingester.accepts call db result).isSome) = [] ->
      (StoresAll ingester call db ∧
        db.resultAt = keepOld db.resultAt (batchAt ingester.text call.agentId
          (call.results.filter fun result =>
            (ingester.accepts call db result).isSome))) := by
    intro none
    refine ⟨?_, ?_⟩
    · intro result member id accepted
      have refused := List.filter_eq_nil_iff.mp none result member
      rw [accepted] at refused
      exact absurd rfl refused
    · rw [none]
      exact (keepOld_none _).symm
  unfold ResultIngester.ingest
  split
  · next empty =>
    left
    exact nothing (by rw [List.isEmpty_iff.mp empty]; rfl)
  rcases run_validate_accepts ingester call db calm.lookup with
    ⟨report, validated, valid⟩ | ⟨⟨failure, validated⟩, none⟩
  swap
  · rw [Program.run_bind_error validated]
    left
    apply nothing
    rw [List.filter_eq_nil_iff]
    intro result member
    rw [none result member]
    exact Bool.false_ne_true
  rw [Program.run_bind_ok validated]
  dsimp only
  split
  · next empty =>
    left
    rw [valid] at empty
    exact nothing (List.isEmpty_iff.mp empty)
  next some_valid =>
  have some : report.valid ≠ [] :=
    fun none => some_valid (List.isEmpty_iff.mpr none)
  rcases mapM_isOk (toInsert_valid valid) with ⟨rows, built⟩
  have draws : Draws (envs 1) 0 rows.length db := by
    apply calm.draws.mono
    rw [mapM_length built, valid]
    exact List.length_filter_le _ _
  have isOk := insertCheckResultsFrom_isOk draws
  rw [rows_storable_iff (valid ▸ built)] at isOk
  rw [built, Program.lift_ok, Program.done_bind, Program.run_attempt_bind,
    calls_validate validated some, Nat.zero_add, exec_clear calm.insertion,
      Stmt.effect, insertCheckResults]
  cases inserted : insertCheckResultsFrom (envs 1) 0 rows db with
  | error failure =>
      right
      refine ⟨?_, rfl⟩
      rw [← isOk, inserted]
      rintro ⟨step, impossible⟩
      cases impossible
  | ok step =>
      rcases step with ⟨added, middle⟩
      left
      refine ⟨isOk.mp ⟨_, inserted⟩, ?_⟩
      rw [← valid, ← keyed_rows built (dated_valid valid) (envs 1).clock,
        ← insertCheckResultsFrom_resultAt inserted]
      exact run_afterInsertion_resultAt _ middle

end Batch

/-! ## One by one -/

/-- The ingestion of one result of the batch. -/
def IngestCall.single (call : IngestCall) (result : CheckResult) : IngestCall :=
  { call with results := [result] }

/-- The results are ingested one by one, each in an ingestion of its own. -/
inductive OneByOne (ingester : ResultIngester) (call : IngestCall) :
    List CheckResult -> Db -> Db -> Prop where
  | nil (db : Db) : OneByOne ingester call [] db db
  | cons {result : CheckResult} {rest : List CheckResult} {db last : Db}
      (envs : Nat -> Env)
      (calm : Calm envs (call.single result) db)
      (later :
        OneByOne ingester call rest
          (Program.run exec (ingester.ingest (call.single result)) envs db).2
          last) :
      OneByOne ingester call (result :: rest) db last

section OneByOne

variable {ingester : ResultIngester} {call : IngestCall} {db : Db}

/-- A result on its own is stored exactly if the database takes it. -/
theorem run_ingest_single {envs : Nat -> Env} {result : CheckResult}
    (calm : Calm envs (call.single result) db) :
    (Program.run exec (ingester.ingest (call.single result)) envs db).2.resultAt =
      keepOld db.resultAt
        (batchAt ingester.text call.agentId
          ([result].filter (ingester.stores call db))) := by
  have accepts :
      ingester.accepts (call.single result) db result =
        ingester.accepts call db result := rfl
  rcases run_ingest_resultAt calm with ⟨all, stored⟩ | ⟨notAll, stored⟩
  · have sameFilter : (call.single result).results.filter (fun other =>
        (ingester.accepts (call.single result) db other).isSome) =
          [result].filter (ingester.stores call db) := by
      apply List.filter_congr
      intro other member
      rw [List.mem_singleton.mp member, Bool.eq_iff_iff, accepts,
        Option.isSome_iff_exists, stores_iff]
      refine exists_congr fun id => ⟨fun accepted => ⟨accepted, ?_⟩, And.left⟩
      exact all result List.mem_cons_self id accepted
    rw [stored, sameFilter]
    rfl
  · have refused : [result].filter (ingester.stores call db) = [] := by
      rw [List.filter_eq_nil_iff]
      intro other member taken
      rw [List.mem_singleton.mp member, stores_iff] at taken
      rcases taken with ⟨id, accepted, storable⟩
      apply notAll
      intro other' member' id' accepted'
      rw [List.mem_singleton.mp member'] at accepted' ⊢
      cases accepted.symm.trans accepted'
      exact storable
    rw [stored, refused]
    exact (keepOld_none _).symm

/-- One result decides nothing about the others. -/
theorem stores_after_single {envs : Nat -> Env} {result : CheckResult}
    (calm : Calm envs (call.single result) db) (other : CheckResult) :
    ingester.stores call
      (Program.run exec (ingester.ingest (call.single result)) envs db).2 other =
      ingester.stores call db other := by
  have assignments := run_ingest_assignments ingester (call.single result) envs db
  have stored :
      (Program.run exec (ingester.ingest (call.single result)) envs
        db).2.resultAt =
      keepOld db.resultAt
          (batchAt ingester.text call.agentId
            ([result].filter (ingester.stores call db))) :=
    run_ingest_single calm
  generalize (Program.run exec (ingester.ingest (call.single result)) envs db).2 =
    middle at assignments stored ⊢
  have added : forall key, key ∈ middle.resultKeys <-> key ∈ db.resultKeys ∨
      key ∈ ([result].filter (ingester.stores call db)).filterMap
        (resultKeyOf ingester.text call.agentId) := by
    intro key
    rw [← Db.resultAt_isSome, stored, keepOld, Option.isSome_or, Bool.or_eq_true,
      Db.resultAt_isSome, batchAt, keyed_isSome, List.mem_map, List.mem_filterMap]
  rw [Bool.eq_iff_iff, stores_iff, stores_iff, assignments.accepts]
  refine exists_congr fun id => and_congr_right fun accepted => ?_
  apply Storable.after assignments.agents assignments.policyChecks (added _)
  intro member
  rcases List.mem_filterMap.mp member with ⟨taken, single, sameKey⟩
  rcases stores_iff.mp (List.mem_filter.mp single).2 with
    ⟨id', accepted', storable⟩
  rw [resultKeyOf, (accepts_eq_some.mp accepted').2.1, Option.map_some,
    Option.some.injEq] at sameKey
  rw [← sameKey]
  exact storable.known

/-- Ingested one by one, the results that the database takes are stored. -/
theorem oneByOne_resultAt {results : List CheckResult} {last : Db}
    (one : OneByOne ingester call results db last) :
    last.resultAt = keepOld db.resultAt
      (batchAt ingester.text call.agentId
        (results.filter (ingester.stores call db))) := by
  induction one with
  | nil db => exact (keepOld_none _).symm
  | @cons result rest db last envs calm later ih =>
      have same : rest.filter (ingester.stores call
          (Program.run exec (ingester.ingest (call.single result)) envs db).2) =
            rest.filter (ingester.stores call db) :=
        List.filter_congr fun other _ => stores_after_single calm other
      rw [ih, same, run_ingest_single calm, keepOld_assoc, ← batchAt_append,
        ← List.filter_append, List.singleton_append]

end OneByOne

/-- A merge changes nothing exactly if all its keys were there. -/
theorem keepOld_eq_old_iff {κ γ : Type} {old new : κ -> Option γ} :
    keepOld old new = old <-> forall key, (new key).isSome = true ->
      (old key).isSome = true := by
  constructor
  · intro same key added
    have here : (keepOld old new key).isSome = true := by
      rw [keepOld, Option.isSome_or, added, Bool.or_true]
    rwa [same] at here
  · intro covered
    funext key
    rw [keepOld]
    cases present : new key with
    | none => exact Option.or_none
    | some stored =>
        exact Option.or_of_isSome (covered key (by rw [present]; rfl))

/-- Every result of the batch that the database takes is stored under its key
already. -/
def AllStored (ingester : ResultIngester) (call : IngestCall) (db : Db) : Prop :=
  forall result, result ∈ call.results -> forall id,
    ingester.accepts call db result = some id ->
    Storable db (result.key call.agentId id) result.content ->
      result.key call.agentId id ∈ db.resultKeys

theorem allStored_iff {ingester : ResultIngester} {call : IngestCall} {db : Db} :
    keepOld db.resultAt
      (batchAt ingester.text call.agentId
        (call.results.filter (ingester.stores call db))) =
      db.resultAt <-> AllStored ingester call db := by
  rw [keepOld_eq_old_iff]
  simp only [Db.resultAt_isSome, batchAt, keyed_isSome, List.mem_map,
    List.mem_filter, stores_iff]
  constructor
  · intro covered result member id accepted storable
    apply covered
    refine ⟨result, ⟨member, id, accepted, storable⟩, ?_⟩
    rw [resultKeyOf, (accepts_eq_some.mp accepted).2.1]
    rfl
  · rintro stored key ⟨result, ⟨member, id, accepted, storable⟩, sameKey⟩
    rw [resultKeyOf, (accepts_eq_some.mp accepted).2.1, Option.map_some,
      Option.some.injEq] at sameKey
    rw [← sameKey]
    exact stored result member id accepted storable

/-- A batch stores what its results store one by one exactly if the database
takes all accepted results, or those that it takes are stored already. -/
theorem batch_stores_singly_iff (ingester : ResultIngester) (call : IngestCall)
    (envs : Nat -> Env) (db last : Db) (calm : Calm envs call db)
    (one : OneByOne ingester call call.results db last) :
    (Program.run exec (ingester.ingest call) envs db).2.resultAt =
      last.resultAt <->
      StoresAll ingester call db ∨ AllStored ingester call db := by
  rw [oneByOne_resultAt one]
  rcases run_ingest_resultAt calm with ⟨all, stored⟩ | ⟨notAll, stored⟩
  · refine iff_of_true ?_ (Or.inl all)
    rw [stored]
    congr 2
    apply List.filter_congr
    intro result member
    rw [Bool.eq_iff_iff, Option.isSome_iff_exists, stores_iff]
    exact exists_congr fun id =>
      ⟨fun accepted => ⟨accepted, all result member id accepted⟩, And.left⟩
  · rw [stored, or_iff_right notAll, ← allStored_iff]
    exact eq_comm

/-! ## A text the database refuses -/

/-- One drawn identifier is new. -/
theorem draws_one {env : Env} {db : Db}
    (unused : forall old, old ∈ db.checkResults.rows -> old.id ≠ env.fresh 0) :
    Draws env 0 1 db := by
  constructor
  · intro n _ bound
    have first : n = 0 := by omega
    rw [first]
    exact unused
  · intro n m _ before bound
    omega

theorem draws_two {env : Env} (db : Db) (empty : db.checkResults.rows = [])
    (distinct : env.fresh 0 ≠ env.fresh 1) :
    Draws env 0 2 db := by
  constructor
  · intro n _ _ old member
    rw [empty] at member
    cases member
  · intro n m _ before bound
    have first : n = 0 := by omega
    have second : m = 1 := by omega
    rw [first, second]
    exact distinct

/-- The database after the first of the results. -/
def afterFailure : Db :=
  (Program.run exec
    (crateIngester.ingest ((midnightCall []).single midnightFailure))
    (numbering 61) policedDb).2

theorem afterFailure_unused : forall old, old ∈ afterFailure.checkResults.rows ->
      old.id ≠ (71 : Uuid) := by
  decide +kernel

/-- The database after both. -/
def afterBoth (second : CheckResult) : Db :=
  (Program.run exec (crateIngester.ingest ((midnightCall []).single second))
    (numbering 71) afterFailure).2

theorem oneByOne_night (second : CheckResult) :
    OneByOne crateIngester (midnightCall [midnightFailure, second])
    [midnightFailure, second] policedDb (afterBoth second) := by
  have same :
      forall result, (midnightCall [midnightFailure, second]).single result =
        (midnightCall []).single result :=
    fun _ => rfl
  have drawn : (numbering 71 1).fresh 0 = 71 := by decide
  have first : Draws (numbering 61 1) 0 1 policedDb :=
    draws_one fun old impossible => nomatch impossible
  have later : Draws (numbering 71 1) 0 1 afterFailure :=
    draws_one (drawn ▸ afterFailure_unused)
  apply OneByOne.cons (numbering 61) ⟨rfl, rfl, first⟩
  rw [same]
  apply OneByOne.cons (numbering 71) ⟨rfl, rfl, later⟩
  rw [same]
  exact .nil _

/-- A failure and a later pass are stored together as they are one by one. -/
theorem batch_stores_singly_night :
    (Program.run exec
      (crateIngester.ingest (midnightCall [midnightFailure, laterPass]))
        (numbering 51)
        policedDb).2.resultAt =
      (afterBoth laterPass).resultAt := by
  refine (batch_stores_singly_iff crateIngester
    (midnightCall [midnightFailure, laterPass]) (numbering 51) policedDb _
    ⟨rfl, rfl, draws_two policedDb rfl (by decide)⟩
      (oneByOne_night laterPass)).mpr (Or.inl ?_)
  decide +kernel

/-- A pass whose detail is a zero byte. -/
def stainedPass : CheckResult := { laterPass with detail := "\x00" }

/-- It takes the failure before it down with it. -/
theorem stained_batch_lost :
    Calm (numbering 51) (midnightCall [midnightFailure, stainedPass]) policedDb ∧
    Exists fun last =>
      OneByOne crateIngester (midnightCall [midnightFailure, stainedPass])
      [midnightFailure, stainedPass]
      policedDb last ∧
      (Program.run exec
        (crateIngester.ingest (midnightCall [midnightFailure, stainedPass]))
          (numbering 51)
          policedDb).2.resultAt ≠ last.resultAt := by
  refine ⟨⟨rfl, rfl, draws_two policedDb rfl (by decide)⟩, _,
    oneByOne_night stainedPass, ?_⟩
  intro same
  have stored := congrFun same (midnightFailure.key 7 assignedCheck)
  exact absurd stored (by decide +kernel)

end Complyx
