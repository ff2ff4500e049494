import Complyx.Grpc.Attribution
import Complyx.Ingest.FaithfulStore
import Complyx.Ingest.SharedFate
import Complyx.Transition.Ledger

namespace Complyx

open Relational Transition

/-!
# What was submitted is what is stored

Submissions run at once, also of the same results, and any of them may fail on the
way.  The stored results only ever grow, and by nothing that was not submitted: each
row says what a result of some request says, under the agent that request was
admitted as.  What a request answers with is what its own turns have added, so that
no row is counted for two requests.
-/

/-- The number of results in a call. -/
def AgentCall.size : AgentCall -> Nat
  | .submitResults request _ => request.results.length
  | _ => 0

/-- The operation may add results. -/
def writesResults : Stmt ⊕ OrchestratorOp -> Bool
  | .inl stmt => stmt.writesCheckResults
  | .inr _ => false

theorem perform_quiet {op : Stmt ⊕ OrchestratorOp}
    (quiet : writesResults op = false) (env : Env × Instant) (server : Server) :
    (Program.perform execServer env op server).2.1.checkResults =
      server.1.checkResults := by
  cases op with
  | inl stmt =>
      rw [Program.perform_inl]
      exact (perform_frame env.1 stmt server.1).checkResults quiet
  | inr op => rw [Program.perform_inr]

theorem InterceptorRead.quiet {op : Stmt ⊕ OrchestratorOp}
    (read : InterceptorRead op) : writesResults op = false := by
  cases read <;> rfl

theorem ServiceRead.quiet {op : Stmt ⊕ OrchestratorOp} (read : ServiceRead op) :
    writesResults op = false := by
  cases read with
  | policies stmt read => cases read <;> rfl
  | connection agentId => rfl
  | noted op => rfl

/-! ## Where the rows come from -/

/-- A row of a result that passes the first two stages. -/
structure Drafted (ingester : ResultIngester) (request : SubmitResultsRequest)
    (now : DateTime) (row : InsertCheckResult) : Prop where
  drafted : Exists fun result => result ∈ request.results ∧
    isCandidate ingester.text now ingester.timestampBounds result = true ∧
      Faithful ingester.text row.agentId result row

theorem Divides.drafts {ingester : ResultIngester}
    {request : SubmitResultsRequest} {agentId : Uuid} {now : DateTime}
    {refused : List CheckResult} {keep : CheckResult -> Bool}
    {report : ValidationReport}
    (divides : Divides request.results refused keep report)
    (candidates : forall result, keep result = true ->
      isCandidate ingester.text now ingester.timestampBounds result = true)
    {rows : List InsertCheckResult}
    (built : report.valid.mapM (toInsert ingester.text agentId) = .ok rows) :
    forall row, row ∈ rows -> Drafted ingester request now row := by
  intro row member
  rcases (mem_mapM_ok built row).mp member with ⟨result, valid, made⟩
  rw [divides.valid, List.mem_filter] at valid
  have candidate := candidates result valid.2
  rcases isCandidate_candidate candidate with ⟨id, passes⟩
  rcases passes.toInsert agentId with ⟨same, made', faithful⟩
  rw [made] at made'
  cases made'
  rw [← faithful.agentId] at faithful
  exact ⟨result, valid.1, candidate, faithful⟩

/-! ## What a request adds -/

/-- The rows that a request has added so far. -/
structure Contribution where
  call : AgentCall
  added : Nat

namespace Contribution

def hear (known : Contribution) :
    (stmt : Stmt) -> Except DbError stmt.Res -> Contribution
  | .insertCheckResults _, .ok more => { known with added := known.added + more }
  | _, _ => known

def note (known : Contribution) :
    (op : Stmt ⊕ OrchestratorOp) -> Except DbError
    (Sum.elim Stmt.Res OrchestratorOp.Res op) -> Contribution
  | .inl stmt, answer => known.hear stmt answer
  | .inr _, _ => known

/-- Results are added once, from rows drafted from the results of the call. -/
inductive Allows (ingester : ResultIngester) (known : Contribution) :
    Stmt ⊕ OrchestratorOp -> Prop where
  | insert (request : SubmitResultsRequest) (now : DateTime)
      (rows : List InsertCheckResult)
      (submitted : known.call = .submitResults request now)
      (drafted : forall row, row ∈ rows -> Drafted ingester request now row)
      (few : rows.length ≤ request.results.length) (first : known.added = 0) :
      Allows ingester known (.inl (.insertCheckResults rows))
  | other (op : Stmt ⊕ OrchestratorOp) (quiet : writesResults op = false) :
      Allows ingester known op

/-- The answer counts what was added. -/
def Answered (known : Contribution) (reply : AgentReply) : Prop :=
  forall response, reply = .submitResults response ->
    response.acceptedCount = UInt32.ofNat known.added

theorem note_quiet (known : Contribution) {op : Stmt ⊕ OrchestratorOp}
    (quiet : writesResults op = false)
    (answer : Except DbError (Sum.elim Stmt.Res OrchestratorOp.Res op)) :
    known.note op answer = known := by
  cases op with
  | inr op => rfl
  | inl stmt =>
      cases stmt with
      | insertCheckResults rows => cases quiet
      | _ => rfl

end Contribution

section Contributes

/-- Whatever it is answered, the program adds by what its request says. -/
abbrev Contributes {ε α : Type} (ingester : ResultIngester)
    (program : ServerCode ε α) (earned : Contribution -> α -> Prop)
    (known : Contribution) : Prop :=
  program.Earns Contribution.note (Contribution.Allows ingester) earned known

/-- The same of a program that uses the database only. -/
abbrev Adds {ε α : Type} (ingester : ResultIngester) (code : Code ε α)
    (earned : Contribution -> α -> Prop) (known : Contribution) : Prop :=
  code.Earns Contribution.hear
    (fun known stmt => known.Allows ingester (.inl stmt)) earned known

variable {ingester : ResultIngester}

/-- A program that stores no results adds nothing. -/
theorem contributes_quiet {ε α : Type} {program : ServerCode ε α}
    (quiet : program.Issues fun op => writesResults op = false)
    (known : Contribution) :
    Contributes ingester program (fun later _ => later = known) known :=
  Program.earns_idle (fun known _ answer quiet => known.note_quiet quiet answer)
    (fun _ op quiet => Contribution.Allows.other op quiet) quiet known

theorem adds_quiet {ε α : Type} {code : Code ε α}
    (quiet : code.Issues fun stmt => stmt.writesCheckResults = false)
    (known : Contribution) :
    Adds ingester code (fun later _ => later = known) known :=
  Program.earns_idle
    (fun known stmt answer (quiet : writesResults (.inl stmt) = false) =>
      known.note_quiet quiet answer)
    (fun _ stmt quiet => Contribution.Allows.other (.inl stmt) quiet) quiet known

variable {request : SubmitResultsRequest} {now : DateTime}

/-- The insertion of the rows of a report. -/
theorem adds_ingest (agentId : Uuid) {known : Contribution}
    (submitted : known.call = .submitResults request now)
    (first : known.added = 0) :
    Adds ingester (ingester.ingest (request.call agentId now))
      (fun later summary => summary.accepted = later.added) known := by
  unfold ResultIngester.ingest
  split
  · exact first.symm
  have quiet : (ingester.validate (request.call agentId now)).Issues fun stmt =>
      stmt.writesCheckResults = false :=
    validateBatch_issues (fun _ _ => rfl) _ _ _ _ _
  refine Program.earns_bind
    ((adds_quiet quiet known).yielding (validateBatch_divided _ _ _ _ _)) ?_
  rintro report same ⟨rfl, keep, ⟨refused, divides⟩, candidates⟩
  dsimp only
  split
  · exact first.symm
  cases made :
      report.valid.mapM
        (toInsert ingester.text (request.call agentId now).agentId) with
  | error failure => trivial
  | ok rows =>
      rw [Program.lift_ok, Program.done_bind]
      have few : rows.length ≤ request.results.length := by
        rw [mapM_length made, divides.valid]
        exact List.length_filter_le keep request.results
      have stored :
          Adds ingester (Program.attempt ingesterFault (.insertCheckResults rows))
          (fun later inserted => later = ⟨same.call, inserted⟩) same := by
        refine Program.earns_attempt _ ?_ fun inserted => ?_
        · exact Contribution.Allows.insert request now rows submitted
            (divides.drafts candidates made) few first
        · rw [Contribution.hear, first, Nat.zero_add]
      refine Program.earns_bind stored ?_
      rintro inserted _ rfl
      have rescoring : (recalculate agentId).Issues fun stmt =>
          stmt.writesCheckResults = false :=
        Program.issues_bind (Program.issues_attempt _ rfl) fun scores => trivial
      refine Program.earns_bind (adds_quiet rescoring _) ?_
      rintro scoresUpdated _ rfl
      have evaluating :=
        (evaluateFrom_issues agentId (fun _ => none) {} report.valid).mono
          fun _ => TriggerStmt.readonly
      refine Program.earns_bind (adds_quiet evaluating _) ?_
      rintro riskSummary _ rfl
      rfl

theorem contributes_submitResults (service : ComplyxAgent) (agentId : AgentId)
    {known : Contribution} (submitted : known.call = .submitResults request now)
    (first : known.added = 0) :
    Adds service.ingester (service.submitResults (some agentId) request now)
      (fun later response => response.acceptedCount = UInt32.ofNat later.added)
        known := by
  rw [ComplyxAgent.submitResults, extractAgentId, Except.mapError,
    Program.lift_ok, Program.done_bind]
  cases matched : matchingAgentId service.ingester.text agentId.id request with
  | error failure => trivial
  | ok same =>
      rw [Program.lift_ok, Program.done_bind]
      refine Program.earns_bind
        (Program.earns_mapError _ (adds_ingest agentId.id submitted first)) ?_
      intro summary later counted
      exact congrArg UInt32.ofNat counted

/-- The service, whichever of its calls it is. -/
theorem contributes_serve (service : ComplyxAgent) (agentId : AgentId)
    (known : Contribution) (first : known.added = 0) :
    Contributes service.ingester (service.serve (some agentId) known.call)
      Contribution.Answered known := by
  cases submitted : known.call with
  | pollPolicies request =>
      have quiet := (pollPolicies_issues service agentId request).mono fun _ =>
        ServiceRead.quiet
      refine Program.earns_bind
        (Program.earns_mapError _ (contributes_quiet quiet known))
        fun response later _ => ?_
      intro other impossible
      cases impossible
  | submitResults request now =>
      refine Program.earns_bind
        (Program.earns_beside
          (contributes_submitResults service agentId submitted first)) ?_
      intro response later counted other same
      cases same
      exact counted
  | heartbeat request now =>
      have quiet := (heartbeat_issues agentId request now).mono fun _ =>
        ServiceRead.quiet
      refine Program.earns_bind
        (Program.earns_mapError _ (contributes_quiet quiet known))
        fun response later _ => ?_
      intro other impossible
      cases impossible

theorem contributes_request (service : ComplyxAgent) (library : CertLibrary)
    (peerCerts : Option (List Der)) (known : Contribution)
    (first : known.added = 0) :
    Contributes service.ingester (service.request library peerCerts known.call)
      Contribution.Answered known := by
  have asking :
      (((authInterceptor library peerCerts).mapError Fault.error).beside :
        ServerCode (Fault Status) AgentId).Issues fun op =>
          writesResults op = false :=
    Program.issues_beside
      (Program.issues_mapError _ ((authInterceptor_issues library peerCerts).mono
        fun stmt read => read.quiet))
  refine Program.earns_bind (contributes_quiet asking known) ?_
  rintro agentId same rfl
  exact contributes_serve service agentId same first

end Contributes

/-! ## Every row is added by one request -/

/-- The number of stored results. -/
def storedResults (server : Server) : Nat := server.1.checkResults.rows.length

/-- An insertion adds as many rows as it says, and no more than it was given. -/
theorem insertCheckResultsFrom_count {env : Env} {index added : Nat}
    {results : List InsertCheckResult} {db db' : Db}
    (accepted : insertCheckResultsFrom env index results db = .ok (added, db')) :
    added + db.checkResults.rows.length = db'.checkResults.rows.length ∧
      added ≤ results.length := by
  induction results generalizing index added db with
  | nil =>
      cases accepted
      exact ⟨Nat.zero_add _, Nat.le_refl 0⟩
  | cons result rest ih =>
      rcases insertCheckResultsFrom_cons accepted with
        ⟨one, middle, more, inserted, insertedRest, rfl⟩
      have others := ih insertedRest
      rw [List.length_cons]
      cases (insertCheckResult_ok inserted).2 with
      | kept present => omega
      | added checkResults insertedRow absent agent check =>
          have rows := Table.insert?_rows insertedRow
          have longer :
              checkResults.rows.length = db.checkResults.rows.length + 1 := by
            rw [rows, List.length_append, List.length_singleton]
          dsimp only at others
          omega

namespace Contribution

variable {ingester : ResultIngester} {known : Contribution}
  {op : Stmt ⊕ OrchestratorOp}

/-- Nothing is removed, what is added is noted, and no more than the request
holds. -/
theorem Allows.counted (allowed : known.Allows ingester op) (env : Env × Instant)
    (server : Server) :
    let later := known.note op (Program.perform execServer env op server).1
    let server' := (Program.perform execServer env op server).2
    later.call = known.call ∧
      (known.added ≤ known.call.size -> later.added ≤ known.call.size) ∧
      storedResults server ≤ storedResults server' ∧
      later.added + storedResults server =
        known.added + storedResults server' := by
  cases allowed with
  | other op quiet =>
      have same :=
        congrArg (fun table => table.rows.length) (perform_quiet quiet env server)
      rw [known.note_quiet quiet]
      exact ⟨rfl, id, Nat.le_of_eq same.symm,
        congrArg (known.added + ·) same.symm⟩
  | insert request now rows submitted drafted few first =>
      rw [Program.perform_inl, note]
      rcases perform_cases env.1 (.insertCheckResults rows) server.1 with
        ⟨failure, performed⟩ | ⟨inserted, db, _, effect, performed⟩
      · rw [performed]
        exact ⟨rfl, id, Nat.le_refl _, rfl⟩
      · rw [performed]
        have counts := insertCheckResultsFrom_count effect
        refine ⟨rfl, fun _ => ?_, ?_, ?_⟩
        · rw [submitted]
          show known.added + inserted ≤ request.results.length
          omega
        · show server.1.checkResults.rows.length ≤ db.checkResults.rows.length
          omega
        · show known.added + inserted + server.1.checkResults.rows.length =
            known.added + db.checkResults.rows.length
          omega

end Contribution

section Runs

variable {service : ComplyxAgent} {library : CertLibrary}
  {calls : List (Option (List Der) × AgentCall)} {server : Server}

/-- What a request has noted is what its turns have added. -/
structure OnAccount (call : AgentCall) (index : Nat) (turns : List ServerTurn)
    (known : Contribution) : Prop where
  same : known.call = call
  few : known.added ≤ call.size
  share : known.added = share execServer storedResults index turns

/-- The request at the index adds by its call, and has noted what its turns
added. -/
theorem counted_after (labels : List (Nat × (Env × Instant))) {index : Nat}
    (inside : index < calls.length) :
    let pool := service.arriving library calls server
    (after (Pool.step execServer) pool labels).Told Contribution.note
      (Contribution.Allows service.ingester) Contribution.Answered
      (OnAccount calls[index].2 index (pool.turns execServer labels)) index := by
  intro pool
  have first : pool.Told Contribution.note (Contribution.Allows service.ingester)
      Contribution.Answered (OnAccount calls[index].2 index []) index := by
    refine ⟨_, ⟨calls[index].2, 0⟩, ComplyxAgent.arriving_get inside, ?_, ?_⟩
    · exact contributes_request service library calls[index].1
        ⟨calls[index].2, 0⟩ rfl
    · exact ⟨rfl, Nat.zero_le _, rfl⟩
  have kept : forall turns (turn : ServerTurn) known,
    (forall op, ¬ turn.Asks index op) ->
      OnAccount calls[index].2 index turns known ->
        OnAccount calls[index].2 index (turns ++ [turn]) known := by
    intro turns turn known unasked counted
    refine ⟨counted.same, counted.few, ?_⟩
    rw [share_unasked turns unasked]
    exact counted.share
  have learns : forall turns (turn : ServerTurn) op (known : Contribution),
      turn.Asks index op -> known.Allows service.ingester op ->
        OnAccount calls[index].2 index turns known ->
          OnAccount calls[index].2 index (turns ++ [turn])
            (known.note op
              (Program.perform execServer turn.env op turn.pool.store).1) := by
    intro turns turn op known asks allowed counted
    have counts := allowed.counted turn.env turn.pool.store
    refine ⟨counts.1.trans counted.same, ?_, ?_⟩
    · rw [← counted.same]
      apply counts.2.1
      rw [counted.same]
      exact counted.few
    · have share := counted.share
      have grows := counts.2.2
      rw [share_asks turns asks]
      omega
  have last := Pool.told_turns kept learns first labels
  rw [List.nil_append] at last
  exact last

/-- The stored row says what the result says. -/
structure SubmittedAs (ingester : ResultIngester) (now : DateTime)
    (result : CheckResult) (row : CheckResultRow) : Prop where
  checkId : ingester.text.parse result.checkId = some row.checkId
  key : row.resultKey = result.key row.agentId row.checkId
  content : row.content = result.content
  inWindow : InWindow now ingester.timestampBounds result.executedAt

theorem Drafted.submittedAs {ingester : ResultIngester}
    {request : SubmitResultsRequest} {now : DateTime} {draft : InsertCheckResult}
    (drafted : Drafted ingester request now draft) (env : Env) (drawn : Nat) :
    Exists fun result => result ∈ request.results ∧
      SubmittedAs ingester now result (draft.row env drawn) := by
  rcases drafted.drafted with ⟨result, member, candidate, faithful⟩
  rcases isCandidate_candidate candidate with ⟨id, passes⟩
  exact ⟨result, member, faithful.checkId, faithful.resultKey env.clock,
    faithful.content, passes.inWindow⟩

/-- A stored row was there before or is one of those that are inserted. -/
theorem mem_checkResults_perform {env : Env} {stmt : Stmt} {db : Db}
    {row : CheckResultRow}
    (member : row ∈ (Program.perform exec env stmt db).2.checkResults.rows) :
    row ∈ db.checkResults.rows ∨
      Exists fun rows => Exists fun draft => Exists fun drawn =>
        stmt = .insertCheckResults rows ∧ draft ∈ rows ∧
          row = InsertCheckResult.row env drawn draft := by
  by_cases quiet : stmt.writesCheckResults = false
  · rw [(perform_frame env stmt db).checkResults quiet] at member
    exact Or.inl member
  rcases perform_cases env stmt db with
    ⟨failure, performed⟩ | ⟨value, db', _, effect, performed⟩
  · rw [performed] at member
    exact Or.inl member
  rw [performed] at member
  cases stmt with
  | insertCheckResults rows =>
      rcases insertCheckResultsFrom_rows effect member with
        before | ⟨draft, drawn, given, same⟩
      · exact Or.inl before
      · exact Or.inr ⟨rows, draft, drawn, rfl, given, same⟩
  | deleteAgent agentId =>
      cases effect
      exact Or.inl (List.mem_filter.mp member).1
  | _ => exact absurd rfl quiet

/-- The row is one of those that the turn inserts. -/
structure Stores (row : CheckResultRow) (pool : ServerPool)
    (label : Nat × (Env × Instant)) : Prop where
  stored : Exists fun rows => Exists fun next => Exists fun draft =>
    Exists fun drawn =>
    pool.threads[label.1]? = some (.call (.inl (.insertCheckResults rows)) next) ∧
      draft ∈ rows ∧
      row = InsertCheckResult.row label.2.1 drawn draft

theorem stores_of_new {row : CheckResultRow} (pool : ServerPool)
    (label : Nat × (Env × Instant))
    (member : row ∈ (pool.step execServer label).store.1.checkResults.rows) :
    row ∈ pool.store.1.checkResults.rows ∨ Stores row pool label := by
  rcases Pool.step_cases execServer pool label with
    ⟨_, same⟩ | ⟨op, next, turn, stepped⟩
  · rw [same] at member
    exact Or.inl member
  rw [stepped] at member
  cases op with
  | inr op =>
      rw [Program.perform_inr] at member
      exact Or.inl member
  | inl stmt =>
      rw [Program.perform_inl] at member
      rcases mem_checkResults_perform member with
        before | ⟨rows, draft, drawn, rfl, given, same⟩
      · exact Or.inl before
      · exact Or.inr ⟨rows, next, draft, drawn, turn, given, same⟩

/-- The turn that stores a row is one of a submission that was admitted as the row's
agent. -/
theorem Stores.submitted {row : CheckResultRow}
    {before : List (Nat × (Env × Instant))} {label : Nat × (Env × Instant)}
    (stores : Stores row
      (after (Pool.step execServer) (service.arriving library calls server)
        before) label) :
    Exists fun peerCerts => Exists fun request => Exists fun now =>
      Exists fun result =>
      calls[label.1]? = some (peerCerts, .submitResults request now) ∧
      result ∈ request.results ∧ SubmittedAs service.ingester now result row ∧
      AdmittedIn
        ((service.arriving library calls server).turns execServer before) library
        peerCerts label.1 row.agentId := by
  rcases stores.stored with ⟨rows, next, draft, drawn, turn, given, rfl⟩
  have inside := arriving_inside turn
  have here := List.getElem?_eq_getElem inside
  have told := @counted_after service library calls server before label.1 inside
  rcases told.turn turn with ⟨known, allowed, counted⟩
  have admitted :=
    (credited_run service _ (ComplyxAgent.arriving_get inside) before).turn turn
  cases allowed with
  | other op quiet => cases quiet
  | insert request now rows submitted drafted few first =>
      rcases (drafted draft given).submittedAs label.2.1 drawn with
        ⟨result, member, submittedAs⟩
      have called :
          calls[label.1] = (calls[label.1].1, .submitResults request now) := by
        rw [← submitted, counted.same]
      refine ⟨calls[label.1].1, request, now, result,
        here.trans (congrArg some called), member, submittedAs, ?_⟩
      rcases admitted with read | ⟨agentId, ⟨memory, rfl, own, _⟩, admission⟩
      · cases read
      · have call : OwnCall memory (.insertCheckResults rows) := own
        cases call with
        | read stmt reads => cases reads
        | store rows own =>
            have same : (draft.row label.2.1 drawn).agentId = memory.agentId :=
              own draft given
            rw [same]
            exact admission

end Runs

/-- Stored results stay, and each new one says what a result of some submission
says, under the agent the submission was admitted as in its turns. -/
theorem stored_results_submitted (service : ComplyxAgent) (library : CertLibrary)
    (calls : List (Option (List Der) × AgentCall)) (server : Server)
    (labels : List (Nat × (Env × Instant))) :
    let pool := service.arriving library calls server
    let last := (after (Pool.step execServer) pool labels).store
    let turns := pool.turns execServer labels
    (forall row, row ∈ server.1.checkResults.rows ->
      row ∈ last.1.checkResults.rows) ∧
    forall row, row ∈ last.1.checkResults.rows ->
      row ∈ server.1.checkResults.rows ∨
      Exists fun index => Exists fun peerCerts => Exists fun request =>
        Exists fun now => Exists fun result =>
          calls[index]? = some (peerCerts, .submitResults request now) ∧
          result ∈ request.results ∧ SubmittedAs service.ingester now result row ∧
          AdmittedIn turns library peerCerts index row.agentId := by
  intro pool last turns
  refine ⟨(requests_keep arriving_issues labels).ids.checkResults, ?_⟩
  intro row member
  have stored : forall (other : ServerPool) label,
    row ∈ (other.step execServer label).store.1.checkResults.rows ->
      row ∈ other.store.1.checkResults.rows ∨ Stores row other label :=
    fun other label => stores_of_new other label
  rcases @after_brought_about _ _ _
      (fun other => row ∈ other.store.1.checkResults.rows) _ stored pool
      labels member with
    old | ⟨before, label, rest, rfl, stores⟩
  · exact Or.inl old
  · rcases Stores.submitted stores with
      ⟨peerCerts, request, now, result, called, given, submittedAs, admitted⟩
    have grows := (@Pool.turns_prefix _ _ _ _ _ _ _ execServer pool _ _
      (List.prefix_append before (label :: rest))).sublist
    exact Or.inr ⟨label.1, peerCerts, request, now, result, called, given,
      submittedAs, admitted.mono grows⟩

/-- What has been added is shared out among the requests: a share is what the
turns of one request have added. -/
structure SharedOut (calls : List (Option (List Der) × AgentCall))
    (server : Server) (last : ServerPool) (turns : List ServerTurn) : Prop where
  total : ∑ index ∈ Finset.range calls.length,
    share execServer storedResults index turns +
    storedResults server = storedResults last.store
  few : forall index (inside : index < calls.length),
    share execServer storedResults index turns ≤ calls[index].2.size
  answered : forall index response,
    last.returned index = some (.submitResults response) ->
    response.acceptedCount =
      UInt32.ofNat (share execServer storedResults index turns)

/-- However submissions run beside each other, and whichever of them fail, each
answers with the number of rows that its own turns have added, and no row was
added by anything else. -/
theorem additions_shared_out (service : ComplyxAgent) (library : CertLibrary)
    (calls : List (Option (List Der) × AgentCall)) (server : Server)
    (labels : List (Nat × (Env × Instant))) :
    let pool := service.arriving library calls server
    SharedOut calls server (after (Pool.step execServer) pool labels)
      (pool.turns execServer labels) := by
  intro pool
  have told :=
    fun index inside =>
      @counted_after service library calls server labels index inside
  refine ⟨?_, ?_, ?_⟩
  · have many : pool.threads.length = calls.length := List.length_map _
    have grows : forall (env : Env × Instant) op server,
        (Exists fun known : Contribution => known.Allows service.ingester op) ->
          storedResults server ≤ storedResults
            (Program.perform execServer env op server).2 := by
      rintro env op server ⟨known, allowed⟩
      exact (allowed.counted env server).2.2.1
    have issues : pool.Issues fun op =>
        Exists fun known : Contribution => known.Allows service.ingester op := by
      intro program member
      rcases List.mem_map.mp member with ⟨call, _, rfl⟩
      exact Program.issues_of_earns
        (contributes_request service library call.1 ⟨call.2, 0⟩ rfl)
    have total := Pool.shares_total grows issues labels
    rw [many] at total
    exact total
  · intro index inside
    rcases (told index inside).told with ⟨_, known, _, _, counted⟩
    rw [← counted.share]
    exact counted.few
  · intro index response ended
    have inside := arriving_inside (Pool.returned_some ended)
    rcases (told index inside).returned ended with ⟨known, earned, counted⟩
    rw [← counted.share]
    exact earned response rfl

end Complyx
