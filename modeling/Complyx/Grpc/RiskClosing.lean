import Complyx.Grpc.Submissions

namespace Complyx

open Relational Transition

/-!
# Risks only close

The service hands the trigger an empty map of severities.  With it no failure is
critical, so no request ever opens a risk.  A result that passes still closes one.
Requests that run at once therefore turn risks from open to closed and change
nothing else about them, and every risk that is closed has a passing result to
show for it, submitted as the risk's agent.
-/

/-- The operation may write risks. -/
def writesRisks : Stmt ⊕ OrchestratorOp -> Bool
  | .inl stmt => stmt.writesRisks
  | .inr _ => false

/-- The statement writes no risk, or closes one. -/
def ClosesOnly (op : Stmt ⊕ OrchestratorOp) : Prop :=
  writesRisks op = false ∨ Exists fun riskId =>
    op = .inl (.setRiskStatus riskId .closed)

/-! ## The trigger under an empty map -/

/-- A statement of the trigger that opens no risk. -/
inductive ClosingStmt : Stmt -> Prop where
  | listThreats : ClosingStmt .listThreats
  | findOpenRisk (agentId threatId : Uuid) :
      ClosingStmt (.findOpenRisk agentId threatId)
  | close (riskId : Uuid) : ClosingStmt (.setRiskStatus riskId .closed)

theorem closeFirstOpen_closes (agentId : Uuid) (threats : List ThreatRow) :
    (closeFirstOpen agentId threats).Issues ClosingStmt := by
  induction threats with
  | nil => trivial
  | cons threat rest ih =>
      unfold closeFirstOpen
      split
      · exact ih
      · apply Program.issues_bind
          (Program.issues_attempt _ (ClosingStmt.findOpenRisk _ _))
        intro found
        cases found with
        | none => exact ih
        | some riskId =>
            apply Program.issues_bind
              (Program.issues_attempt _ (ClosingStmt.close riskId))
            intro _
            trivial

/-- Without a severity a failure is not critical, so only a result that passes does
anything to risks. -/
theorem handleResult_closes (agentId : Uuid) (result : CheckResult) :
    (handleResult agentId (fun _ => none) result).Issues fun stmt =>
      result.passed = true ∧ ClosingStmt stmt := by
  have uncritical :
      isCritical (severityOf (fun _ => none) result.checkId) = false := by
    show isCritical "low" = false
    decide
  unfold handleResult
  dsimp only
  rw [uncritical, Bool.and_false, if_neg Bool.false_ne_true]
  split
  · next passed =>
    have closing : (maybeCloseRisk agentId).Issues ClosingStmt :=
      Program.issues_bind (Program.issues_attempt _ ClosingStmt.listThreats)
        (closeFirstOpen_closes agentId)
    apply Program.issues_bind (closing.mono fun stmt closes => ⟨passed, closes⟩)
    intro did
    trivial
  · trivial

theorem evaluateFrom_closes (agentId : Uuid) (summary : RiskTriggerSummary)
    (results : List CheckResult) :
    (evaluateFrom agentId (fun _ => none) summary results).Issues fun stmt =>
      (Exists fun result => result ∈ results ∧ result.passed = true) ∧
        ClosingStmt stmt := by
  induction results generalizing summary with
  | nil => trivial
  | cons result rest ih =>
      have here : forall stmt, result.passed = true ∧ ClosingStmt stmt ->
          (Exists fun other => other ∈ result :: rest ∧ other.passed = true) ∧
            ClosingStmt stmt :=
        fun stmt closes => ⟨⟨result, List.mem_cons_self, closes.1⟩, closes.2⟩
      apply Program.issues_bind ((handleResult_closes agentId result).mono here)
      intro change
      have later : forall stmt,
          ((Exists fun other => other ∈ rest ∧ other.passed = true) ∧
            ClosingStmt stmt) ->
            (Exists fun other => other ∈ result :: rest ∧ other.passed = true) ∧
              ClosingStmt stmt := by
        rintro stmt ⟨⟨other, member, passed⟩, closes⟩
        exact ⟨⟨other, List.mem_cons_of_mem _ member, passed⟩, closes⟩
      exact (ih _).mono later

/-! ## What the trigger is handed -/

/-- An answer of the database on which checks are not the agent's. -/
structure CheckLookup where
  agentId : Uuid
  checkIds : List Uuid
  invalidIds : List Uuid

/-- The question that was answered. -/
abbrev CheckLookup.question (lookup : CheckLookup) : Stmt ⊕ OrchestratorOp :=
  .inl (.validateCheckIdsForAgent lookup.agentId lookup.checkIds)

/-- The last of these answers. -/
def hearChecked (last : Option CheckLookup) :
    (stmt : Stmt) -> Except DbError stmt.Res -> Option CheckLookup
  | .validateCheckIdsForAgent agentId checkIds, .ok invalidIds =>
      some ⟨agentId, checkIds, invalidIds⟩
  | _, _ => last

def noteChecked (last : Option CheckLookup) :
    (op : Stmt ⊕ OrchestratorOp) -> Except DbError
    (Sum.elim Stmt.Res OrchestratorOp.Res op) ->
      Option CheckLookup
  | .inl stmt, answer => hearChecked last stmt answer
  | .inr _, _ => last

/-- The result passes the three stages, the last one by this answer. -/
structure AcceptedBy (ingester : ResultIngester) (request : SubmitResultsRequest)
    (now : DateTime) (lookup : CheckLookup) (result : CheckResult) : Prop where
  member : result ∈ request.results
  candidate : Exists fun id => id ∈ lookup.checkIds ∧
    Candidate ingester.text now ingester.timestampBounds result id
  unreported : result.checkId ∉ lookup.invalidIds.map ingester.text.toText

/-- A risk is closed where a result of the call passes and has been accepted.  The
interceptor asks before there is any answer on checks. -/
inductive ClosingOp (ingester : ResultIngester) (call : AgentCall)
    (last : Option CheckLookup) :
    Stmt ⊕ OrchestratorOp -> Prop where
  | close (riskId : Uuid) (request : SubmitResultsRequest) (now : DateTime)
      (result : CheckResult) (lookup : CheckLookup)
      (submitted : call = .submitResults request now) (known : last = some lookup)
      (passed : result.passed = true)
      (accepted : AcceptedBy ingester request now lookup result) :
      ClosingOp ingester call last (.inl (.setRiskStatus riskId .closed))
  | asking (op : Stmt ⊕ OrchestratorOp) (read : InterceptorRead op)
      (unknown : last = none) :
      ClosingOp ingester call last op
  | other (op : Stmt ⊕ OrchestratorOp) (quiet : writesRisks op = false)
      (served : ¬ InterceptorRead op) : ClosingOp ingester call last op

theorem ServiceRead.leavesRisks {op : Stmt ⊕ OrchestratorOp}
    (read : ServiceRead op) :
    writesRisks op = false := by
  cases read with
  | policies stmt read => cases read <;> rfl
  | connection agentId => rfl
  | noted op => rfl

theorem ServiceRead.served {op : Stmt ⊕ OrchestratorOp} (read : ServiceRead op) :
    ¬ InterceptorRead op := by
  intro asked
  cases asked with
  | isRevoked serial =>
      cases read with
      | policies stmt read => cases read
  | getAgentByHostname hostname =>
      cases read with
      | policies stmt read => cases read

theorem ServiceRead.unchecked {op : Stmt ⊕ OrchestratorOp} (read : ServiceRead op)
    (last : Option CheckLookup)
    (answer : Except DbError (Sum.elim Stmt.Res OrchestratorOp.Res op)) :
    noteChecked last op answer = last := by
  cases read with
  | policies stmt read => cases read <;> rfl
  | connection agentId => rfl
  | noted op => rfl

theorem InterceptorRead.leavesRisks {op : Stmt ⊕ OrchestratorOp}
    (read : InterceptorRead op) :
    writesRisks op = false := by
  cases read <;> rfl

theorem InterceptorRead.unchecked {op : Stmt ⊕ OrchestratorOp}
    (read : InterceptorRead op) (last : Option CheckLookup)
    (answer : Except DbError (Sum.elim Stmt.Res OrchestratorOp.Res op)) :
    noteChecked last op answer = last := by
  cases read <;> rfl

theorem ClosingOp.closesOnly {ingester : ResultIngester} {call : AgentCall}
    {last : Option CheckLookup} {op : Stmt ⊕ OrchestratorOp}
    (closing : ClosingOp ingester call last op) : ClosesOnly op := by
  cases closing with
  | close riskId request now result lookup submitted known passed accepted =>
      exact Or.inr ⟨riskId, rfl⟩
  | asking op read unknown => exact Or.inl read.leavesRisks
  | other op quiet served => exact Or.inl quiet

section Requests

variable {ingester : ResultIngester} {request : SubmitResultsRequest}
  {now : DateTime}

/-- Whatever it is answered, the program closes risks for accepted results only. -/
abbrev ClosesFor {ε α : Type} (ingester : ResultIngester) (call : AgentCall)
    (program : ServerCode ε α) (earned : Option CheckLookup -> α -> Prop)
    (last : Option CheckLookup) : Prop :=
  program.Earns noteChecked (ClosingOp ingester call) earned last

/-- The same of a program that uses the database only. -/
abbrev StmtsCloseFor {ε α : Type} (ingester : ResultIngester) (call : AgentCall)
    (code : Code ε α) (earned : Option CheckLookup -> α -> Prop)
    (last : Option CheckLookup) :
    Prop :=
  code.Earns hearChecked
    (fun last stmt => ClosingOp ingester call last (.inl stmt)) earned last

/-- A statement of the service that has to do neither with risks nor with the
answers on checks. -/
structure Unconcerned (stmt : Stmt) : Prop where
  quiet : writesRisks (.inl stmt) = false
  served : ¬ InterceptorRead (.inl stmt)
  unchecked : forall last answer, hearChecked last stmt answer = last

theorem unconcerned_closes {ε α : Type} {call : AgentCall} {code : Code ε α}
    (issues : code.Issues Unconcerned) (last : Option CheckLookup) :
    StmtsCloseFor ingester call code (fun later _ => later = last) last :=
  Program.earns_idle (fun known _ answer idle => idle.unchecked known answer)
    (fun _ stmt idle => ClosingOp.other (.inl stmt) idle.quiet idle.served) issues
      last

theorem insertCheckResults_unconcerned (rows : List InsertCheckResult) :
    Unconcerned (.insertCheckResults rows) :=
  ⟨rfl, nofun, fun _ _ => rfl⟩

theorem recalculate_unconcerned (agentId : Uuid) :
    (recalculate agentId).Issues Unconcerned := by
  have scored : Unconcerned (.upsertComplianceScores agentId) :=
    ⟨rfl, nofun, fun _ _ => rfl⟩
  apply Program.issues_bind (Program.issues_attempt _ scored)
  intro scores
  trivial

/-- What a validation keeps has been accepted by the answer it was given. -/
theorem validate_closes (call : AgentCall) (agentId : Uuid) :
    StmtsCloseFor ingester call (ingester.validate (request.call agentId now))
      (fun last report => forall result, result ∈ report.valid ->
        Exists fun lookup => last = some lookup ∧
          AcceptedBy ingester request now lookup result)
      none := by
  unfold ResultIngester.validate validateBatch
  split
  · intro result impossible
    cases impossible
  have sorting : StmtsCloseFor ingester call
      (Program.lift (request.results.foldlM
        (sortResult ingester.text now ingester.timestampBounds) {}))
      (fun last sorted => last = none ∧
        Collected ingester.text now ingester.timestampBounds {} sorted
          request.results) none :=
    Program.earns_lift fun sorted turned => ⟨rfl, sorted_collected turned⟩
  apply Program.earns_bind sorting
  rintro sorted last ⟨rfl, collected⟩
  split
  · next nothing =>
    intro result valid
    rw [List.isEmpty_iff.mp nothing] at valid
    cases valid
  have asking : StmtsCloseFor ingester call
      (Program.attempt ingesterFault
        (Stmt.validateCheckIdsForAgent agentId sorted.candidateCheckIds))
      (fun last invalidIds =>
        last = some ⟨agentId, sorted.candidateCheckIds, invalidIds⟩)
      none := by
    apply Program.earns_attempt
    · apply ClosingOp.other _ rfl
      intro impossible
      cases impossible
    · intro invalidIds
      rfl
  apply Program.earns_bind asking
  rintro invalidIds last rfl result valid
  have kept := mem_withoutUnassigned.mp valid
  rcases ((collected.valid result).mp kept.1).resolve_left List.not_mem_nil with
    ⟨member, id, candidate⟩
  have asked : id ∈ sorted.candidateCheckIds :=
    (collected.ids id).mpr (Or.inr ⟨result, member, candidate⟩)
  exact ⟨_, rfl, member, ⟨id, asked, candidate⟩, kept.2⟩

/-- The trigger on results that have been accepted. -/
theorem evaluateFrom_accepted (agentId : Uuid) {summary : RiskTriggerSummary}
    {results : List CheckResult} {last : Option CheckLookup}
    (accepted : forall result, result ∈ results -> Exists fun lookup =>
      last = some lookup ∧ AcceptedBy ingester request now lookup result) :
    StmtsCloseFor ingester (.submitResults request now)
      (evaluateFrom agentId (fun _ => none) summary results)
        (fun _ _ => True) last := by
  have kept : forall known stmt answer, known = last ->
      ((Exists fun result => result ∈ results ∧ result.passed = true) ∧
        ClosingStmt stmt) ->
        hearChecked known stmt answer = last := by
    rintro known stmt answer rfl ⟨_, closes⟩
    cases closes <;> rfl
  have permitted : forall known stmt, known = last ->
      ((Exists fun result => result ∈ results ∧ result.passed = true) ∧
        ClosingStmt stmt) ->
        ClosingOp ingester (.submitResults request now) known (.inl stmt) := by
    rintro known stmt rfl ⟨⟨result, member, passed⟩, closes⟩
    have served : ¬ InterceptorRead (.inl stmt) := by
      intro asked
      cases closes <;> cases asked
    cases closes with
    | listThreats => exact ClosingOp.other _ rfl served
    | findOpenRisk agentId threatId => exact ClosingOp.other _ rfl served
    | close riskId =>
        rcases accepted result member with ⟨lookup, known, accepted⟩
        exact ClosingOp.close riskId request now result lookup rfl known
          passed accepted
  exact Program.earns_of_issues kept permitted (fun _ _ _ => trivial) rfl
    (evaluateFrom_closes agentId summary results)

theorem ingest_closes (agentId : Uuid) :
    StmtsCloseFor ingester (.submitResults request now)
      (ingester.ingest (request.call agentId now)) (fun _ _ => True) none := by
  unfold ResultIngester.ingest
  split
  · trivial
  apply Program.earns_bind (validate_closes (.submitResults request now) agentId)
  intro report last accepted
  dsimp only
  split
  · trivial
  cases report.valid.mapM
      (toInsert ingester.text (request.call agentId now).agentId) with
  | error failure => trivial
  | ok rows =>
      rw [Program.lift_ok, Program.done_bind]
      have inserting :
          (Program.attempt ingesterFault (Stmt.insertCheckResults rows) :
            Code (Fault IngesterError) Nat).Issues Unconcerned :=
        Program.issues_attempt _ (insertCheckResults_unconcerned rows)
      apply Program.earns_bind (unconcerned_closes inserting last)
      rintro inserted last rfl
      apply Program.earns_bind
        (unconcerned_closes (recalculate_unconcerned agentId) last)
      rintro scoresUpdated last rfl
      apply Program.earns_bind (evaluateFrom_accepted agentId accepted)
      intro riskSummary last _
      trivial

/-- What a poll or a heartbeat does. -/
theorem reads_close {ε α : Type} (ingester : ResultIngester) (call : AgentCall)
    {program : ServerCode ε α} (issues : program.Issues ServiceRead)
    (last : Option CheckLookup) :
    ClosesFor ingester call program (fun later _ => later = last) last :=
  Program.earns_idle (fun known _ answer read => read.unchecked known answer)
    (fun _ op read => ClosingOp.other op read.leavesRisks read.served) issues last

end Requests

theorem serve_closes (service : ComplyxAgent) (agentId : AgentId)
    (call : AgentCall) :
    ClosesFor service.ingester call (service.serve (some agentId) call)
      (fun _ _ => True) none := by
  cases call with
  | pollPolicies request =>
      have reads := reads_close service.ingester (.pollPolicies request)
        (pollPolicies_issues service agentId request) none
      apply Program.earns_bind (Program.earns_mapError _ reads)
      intro response last _
      trivial
  | submitResults request now =>
      have closes : StmtsCloseFor service.ingester (.submitResults request now)
          (service.submitResults (some agentId) request now)
            (fun _ _ => True) none := by
        rw [ComplyxAgent.submitResults, extractAgentId, Except.mapError,
          Program.lift_ok, Program.done_bind]
        cases matchingAgentId service.ingester.text agentId.id request with
        | error failure => trivial
        | ok same =>
            rw [Program.lift_ok, Program.done_bind]
            apply Program.earns_bind
              (Program.earns_mapError _ (ingest_closes agentId.id))
            intro summary last _
            trivial
      apply Program.earns_bind (Program.earns_beside closes)
      intro response last _
      trivial
  | heartbeat request now =>
      have reads := reads_close service.ingester (.heartbeat request now)
        (heartbeat_issues agentId request now) none
      apply Program.earns_bind (Program.earns_mapError _ reads)
      intro response last _
      trivial

theorem request_closes (service : ComplyxAgent) (library : CertLibrary)
    (peerCerts : Option (List Der)) (call : AgentCall) :
    ClosesFor service.ingester call (service.request library peerCerts call)
      (fun _ _ => True)
      none := by
  have asking : ((authInterceptor library peerCerts).mapError Fault.error :
      Code (Fault Status) AgentId).Issues fun stmt =>
        InterceptorRead (.inl stmt) :=
    Program.issues_mapError _ (authInterceptor_issues library peerCerts)
  have kept : forall known op answer, known = none -> InterceptorRead op ->
      noteChecked known op answer = none := by
    intro known op answer unknown read
    rw [read.unchecked]
    exact unknown
  have permitted : forall known op, known = none -> InterceptorRead op ->
      ClosingOp service.ingester call known op :=
    fun known op unknown read => ClosingOp.asking op read unknown
  have asks : ClosesFor service.ingester call
      ((authInterceptor library peerCerts).mapError Fault.error).beside
      (fun last _ => last = none) none :=
    Program.earns_of_issues kept permitted (fun _ _ unknown => unknown) rfl
      (Program.issues_beside asking)
  apply Program.earns_bind asks
  rintro agentId last rfl
  exact serve_closes service agentId call

/-! ## Rows -/

/-- The row once the risks listed are closed. -/
def RiskRow.closedIn (ids : List Uuid) (row : RiskRow) : RiskRow :=
  if ids.contains row.id then { row with status := .closed } else row

theorem RiskRow.closedIn_listed {ids : List Uuid} {row : RiskRow}
    (listed : row.id ∈ ids) : row.closedIn ids = { row with status := .closed } :=
  if_pos (List.contains_iff_mem.mpr listed)

theorem RiskRow.closedIn_unlisted {ids : List Uuid} {row : RiskRow}
    (unlisted : row.id ∉ ids) : row.closedIn ids = row :=
  if_neg (mt List.contains_iff_mem.mp unlisted)

theorem RiskRow.closedIn_id (ids : List Uuid) (row : RiskRow) :
    (row.closedIn ids).id = row.id := by
  unfold closedIn
  split <;> rfl

theorem RiskRow.closedIn_agentId (ids : List Uuid) (row : RiskRow) :
    (row.closedIn ids).agentId = row.agentId := by
  unfold closedIn
  split <;> rfl

/-- A row that is open was not among those closed. -/
theorem RiskRow.closedIn_open {ids : List Uuid} {row : RiskRow}
    (isOpen : (row.closedIn ids).status = .«open») :
    row.closedIn ids = row := by
  unfold closedIn at isOpen ⊢
  split at isOpen
  · cases isOpen
  · next unlisted => exact if_neg unlisted

theorem RiskRow.closedIn_closedIn (more ids : List Uuid) (row : RiskRow) :
    (row.closedIn ids).closedIn more = row.closedIn (more ++ ids) := by
  by_cases early : row.id ∈ ids <;> by_cases late :
    row.id ∈ more <;> simp [closedIn, early, late]

/-- The risks afterwards are those before, some of them closed. -/
def OnlyCloses (server server' : Server) : Prop :=
  Exists fun ids =>
    server'.1.risks.rows = server.1.risks.rows.map (RiskRow.closedIn ids)

theorem OnlyCloses.of_same {server server' : Server}
    (same : server'.1.risks.rows = server.1.risks.rows) :
    OnlyCloses server server' := by
  refine ⟨[], same.trans (List.map_id'' (fun row => ?_) _).symm⟩
  exact RiskRow.closedIn_unlisted List.not_mem_nil

theorem OnlyCloses.trans {first second third : Server}
    (early : OnlyCloses first second) (late : OnlyCloses second third) :
    OnlyCloses first third := by
  rcases early with ⟨ids, rows⟩
  rcases late with ⟨more, rows'⟩
  refine ⟨more ++ ids, ?_⟩
  rw [rows', rows, List.map_map]
  exact List.map_congr_left fun row _ => RiskRow.closedIn_closedIn more ids row

theorem setRiskStatus_closed (env : Env) (riskId : Uuid) (db : Db) :
    (setRiskStatus env riskId .closed db).risks.rows =
      db.risks.rows.map (RiskRow.closedIn [riskId]) := by
  rw [setRiskStatus_rows]
  refine List.map_congr_left fun row _ => ?_
  by_cases here : row.id = riskId
  · rw [if_pos here, RiskRow.closedIn_listed (List.mem_singleton.mpr here)]
    rfl
  · rw [if_neg here, RiskRow.closedIn_unlisted (mt List.mem_singleton.mp here)]

/-- What an operation that closes does to the risks. -/
theorem ClosesOnly.rows {op : Stmt ⊕ OrchestratorOp} (closes : ClosesOnly op)
    (env : Env × Instant) (server : Server) :
    (Program.perform execServer env op server).2.1.risks.rows =
      server.1.risks.rows ∨
      Exists fun riskId => op = .inl (.setRiskStatus riskId .closed) ∧
        (Program.perform execServer env op server).2.1.risks.rows =
          server.1.risks.rows.map (RiskRow.closedIn [riskId]) := by
  cases op with
  | inr op =>
      left
      rw [Program.perform_inr]
  | inl stmt =>
      rw [Program.perform_inl]
      rcases closes with quiet | ⟨riskId, same⟩
      · left
        rw [(perform_frame env.1 stmt server.1).risks quiet]
      · cases same
        rcases perform_total
          (show (Stmt.setRiskStatus riskId .closed).effect env.1 server.1 =
            .ok ((), _) from rfl)
          with struck | closed
        · left
          rw [struck]
        · right
          rw [closed]
          exact ⟨riskId, rfl, setRiskStatus_closed env.1 riskId server.1⟩

theorem ClosesOnly.onlyCloses {op : Stmt ⊕ OrchestratorOp}
    (closes : ClosesOnly op) (env : Env × Instant) (server : Server) :
    OnlyCloses server (Program.perform execServer env op server).2 := by
  rcases closes.rows env server with same | ⟨riskId, _, closed⟩
  · exact OnlyCloses.of_same same
  · exact ⟨[riskId], closed⟩

/-! ## Runs -/

/-- What a request has been told of its agent and of its checks, in its turns. -/
structure ClosingKnown (turns : List ServerTurn) (index : Nat)
    (cert : X509Certificate) (cn : String)
    (known : Admission × Option CheckLookup) : Prop where
  admission : known.1.Holds turns index cert cn
  looked : forall lookup, known.2 = some lookup -> Exists fun turn =>
    turn ∈ turns ∧
    turn.Hears execServer index lookup.question (.ok lookup.invalidIds)
  own : forall lookup memory, known.2 = some lookup ->
    known.1.served = some memory ->
    lookup.agentId = memory.agentId

/-- A turn leaves the answer on checks as it is, or gives a new one. -/
theorem checked_turn {turn : ServerTurn} {index : Nat}
    {op : Stmt ⊕ OrchestratorOp} (asks : turn.Asks index op)
    (last : Option CheckLookup) :
    let next :=
      noteChecked last op
        (Program.perform execServer turn.env op turn.pool.store).1
    next = last ∨ Exists fun lookup => op = lookup.question ∧ next = some lookup ∧
      turn.Hears execServer index lookup.question (.ok lookup.invalidIds) := by
  cases op with
  | inr op => exact Or.inl rfl
  | inl stmt =>
      cases stmt with
      | validateCheckIdsForAgent agentId checkIds =>
          dsimp only
          cases answered : (Program.perform execServer turn.env
            (.inl (.validateCheckIdsForAgent agentId checkIds))
              turn.pool.store).1 with
          | error failure => exact Or.inl rfl
          | ok invalidIds =>
              exact Or.inr
                ⟨⟨agentId, checkIds, invalidIds⟩, rfl, rfl, asks, answered⟩
      | _ => exact Or.inl rfl

section Learns

variable {ingester : ResultIngester} {call : AgentCall} {turns : List ServerTurn}
  {turn : ServerTurn} {index : Nat} {cert : X509Certificate} {cn : String}
  {op : Stmt ⊕ OrchestratorOp} {known : Admission × Option CheckLookup}

theorem ClosingKnown.keep (more : ServerTurn)
    (holds : ClosingKnown turns index cert cn known) :
    ClosingKnown (turns ++ [more]) index cert cn known := by
  refine ⟨holds.admission.mono (List.sublist_append_left turns _), ?_, holds.own⟩
  intro lookup same
  rcases holds.looked lookup same with ⟨turn, member, hears⟩
  exact ⟨turn, List.mem_append_left _ member, hears⟩

theorem closing_learns (asks : turn.Asks index op)
    (allowed : known.1.Allows cert.serialText cn op)
    (closing : ClosingOp ingester call known.2 op)
    (holds : ClosingKnown turns index cert cn known) :
    let answer := (Program.perform execServer turn.env op turn.pool.store).1
    ClosingKnown (turns ++ [turn]) index cert cn
      (known.1.note op answer, noteChecked known.2 op answer) := by
  have learned := admission_learns asks allowed holds.admission
  have kept := holds.keep turn
  by_cases read : InterceptorRead op
  · -- The interceptor's questions come before any answer on checks.
    have unknown : known.2 = none := by
      cases closing with
      | close riskId => cases read
      | asking op read unknown => exact unknown
      | other op quiet served => exact absurd read served
    refine ⟨learned, ?_, ?_⟩
    · intro lookup same
      rw [read.unchecked, unknown] at same
      cases same
    · intro lookup memory same
      rw [read.unchecked, unknown] at same
      cases same
  rcases allowed with rfl | ⟨rfl, _⟩ | ⟨memory, passed, own⟩
  · exact absurd (InterceptorRead.isRevoked _) read
  · exact absurd (InterceptorRead.getAgentByHostname _) read
  have later :=
    passed.note (Program.perform execServer turn.env op turn.pool.store).1 own
  have agent : forall other, (known.1.note op
      (Program.perform execServer turn.env op turn.pool.store).1).served =
        some other ->
        other.agentId = memory.agentId := by
    intro other served
    rw [later.2] at served
    rw [← Option.some.inj served, noteCall_agentId memory memory op _ rfl]
  rcases checked_turn asks known.2 with same | ⟨lookup, asked, same, hears⟩
  · refine ⟨learned, ?_, ?_⟩
    · intro lookup known
      rw [same] at known
      exact kept.looked lookup known
    · intro lookup other known served
      rw [same] at known
      rw [agent other served]
      exact holds.own lookup memory known passed.2
  · refine ⟨learned, ?_, ?_⟩
    · intro other known
      rw [same] at known
      rw [← Option.some.inj known]
      exact ⟨turn, List.mem_concat_self, hears⟩
    · intro other later known served
      rw [same] at known
      rw [← Option.some.inj known, agent later served]
      rw [asked] at own
      rcases lookup with ⟨agentId, checkIds, invalidIds⟩
      have call : OwnCall memory (.validateCheckIdsForAgent agentId checkIds) :=
        own
      cases call with
      | read stmt reads => cases reads
      | lookup checkIds => rfl

end Learns

/-- The risk was open, and a result that passes was submitted as its agent and
accepted by what one of the submission's turns was told of its checks. -/
structure ClosedFor (service : ComplyxAgent) (library : CertLibrary)
    (calls : List (Option (List Der) × AgentCall)) (turns : List ServerTurn)
    (row : RiskRow) : Prop where
  isOpen : row.status = .«open»
  cause : Exists fun index => Exists fun peerCerts => Exists fun request =>
    Exists fun now => Exists fun result => Exists fun lookup =>
      calls[index]? = some (peerCerts, .submitResults request now) ∧
      AdmittedIn turns library peerCerts index row.agentId ∧
      (Exists fun turn => turn ∈ turns ∧
        turn.Hears execServer index (CheckLookup.question lookup)
          (.ok lookup.invalidIds)) ∧
      lookup.agentId = row.agentId ∧
        AcceptedBy service.ingester request now lookup result ∧
      result.passed = true

section Runs

variable {service : ComplyxAgent} {library : CertLibrary}
  {calls : List (Option (List Der) × AgentCall)} {server : Server}

theorem ClosedFor.mono {turns more : List ServerTurn} (grows : turns.Sublist more)
    {row : RiskRow} (closed : ClosedFor service library calls turns row) :
    ClosedFor service library calls more row := by
  rcases closed.cause with
    ⟨index, peerCerts, request, now, result, lookup, called, admitted,
      ⟨turn, member, hears⟩, rest⟩
  exact ⟨closed.isOpen, index, peerCerts, request, now, result, lookup, called,
    admitted.mono grows, ⟨turn, grows.subset member, hears⟩, rest⟩

theorem arriving_closesOnly :
    (service.arriving library calls server).Issues ClosesOnly := by
  intro program member
  rcases List.mem_map.mp member with ⟨call, _, same⟩
  rw [← same]
  apply (Program.issues_of_earns
    (request_closes service library call.1 call.2)).mono
  rintro op ⟨last, closing⟩
  exact closing.closesOnly

theorem onlyCloses_after (labels : List (Nat × (Env × Instant))) :
    OnlyCloses server
      (after (Pool.step execServer) (service.arriving library calls server)
        labels).store :=
  Pool.run_related (fun _ => OnlyCloses.of_same rfl)
    (fun _ _ _ => OnlyCloses.trans)
    (fun env _ store closes => ClosesOnly.onlyCloses closes env store)
      arriving_closesOnly labels

/-- A risk that was found open in the run was open at its start. -/
theorem open_at_start {labels : List (Nat × (Env × Instant))} {index : Nat}
    {memory : Memory} {riskId : Uuid}
    (found :
      FoundIn
        ((service.arriving library calls server).turns execServer labels) index
        memory) (last : memory.found = some riskId) {row : RiskRow}
    (member : row ∈ server.1.risks.rows) (here : row.id = riskId) :
    row.status = .«open» ∧ row.agentId = memory.agentId := by
  rcases found riskId last with
    ⟨turn, taken, _, seen, present, sameId, own, isOpen⟩
  rcases Pool.mem_turns taken with ⟨before, _, same⟩
  rcases @onlyCloses_after service library calls server before with ⟨ids, rows⟩
  rw [same, rows] at present
  rcases List.mem_map.mp present with ⟨first, firstMember, closed⟩
  rw [← closed, RiskRow.closedIn_id] at sameId
  rw [← closed, RiskRow.closedIn_agentId] at own
  rw [← closed] at isOpen
  rw [RiskRow.closedIn_open isOpen] at isOpen
  have separates : forall first second : RiskRow,
      first.id = second.id -> RiskRow.Clash first second :=
    fun _ _ same => same
  have same : first = row :=
    Table.eq_of_key separates server.1.risks firstMember member
      (sameId.trans here.symm)
  rw [← same]
  exact ⟨isOpen, own⟩

/-- What a request has been told at some moment of the run. -/
theorem closing_after (labels : List (Nat × (Env × Instant))) {index : Nat}
    (inside : index < calls.length) {cn : String} {cert : X509Certificate}
    (peer : peerCertificate library calls[index].1 = .ok (cn, cert)) :
    let pool := service.arriving library calls server
    (after (Pool.step execServer) pool labels).Told
      (fun known op answer =>
        (known.1.note op answer, noteChecked known.2 op answer))
      (fun known op => known.1.Allows cert.serialText cn op ∧
        ClosingOp service.ingester calls[index].2 known.2 op)
      (fun known _ => (Exists fun memory => known.1.Passed memory) ∧ True)
      (ClosingKnown (pool.turns execServer labels) index cert cn) index := by
  intro pool
  have both := (request_earns library cn service calls[index].2 peer).both
    (request_closes service library calls[index].1 calls[index].2)
  have first : pool.Told
      (fun known op answer =>
        (known.1.note op answer, noteChecked known.2 op answer))
      (fun known op => known.1.Allows cert.serialText cn op ∧
        ClosingOp service.ingester calls[index].2 known.2 op)
      (fun known _ => (Exists fun memory => known.1.Passed memory) ∧ True)
      (ClosingKnown [] index cert cn) index := by
    refine ⟨_, (Admission.none, none), ComplyxAgent.arriving_get inside, both, ?_⟩
    exact ⟨Admission.none_holds [] index cert cn, nofun, nofun⟩
  have kept : forall turns (turn : ServerTurn) known,
    (forall op, ¬ turn.Asks index op) ->
      ClosingKnown turns index cert cn known ->
        ClosingKnown (turns ++ [turn]) index cert cn known :=
    fun turns turn known _ holds => holds.keep turn
  have last := Pool.told_turns kept
    (fun turns turn op known asks allowed =>
      closing_learns asks allowed.1 allowed.2) first labels
  rw [List.nil_append] at last
  exact last

/-- The turn that closes a risk. -/
theorem closedFor_turn {before : List (Nat × (Env × Instant))}
    {label : Nat × (Env × Instant)} {riskId : Uuid}
    {next : Except DbError
        (Sum.elim Stmt.Res OrchestratorOp.Res
          (.inl (.setRiskStatus riskId .closed))) ->
      ServerCode (Fault Status) AgentReply}
    (turn : (after (Pool.step execServer) (service.arriving library calls server)
      before).threads[label.1]? =
        some (.call (.inl (.setRiskStatus riskId .closed)) next))
    {row : RiskRow} (member : row ∈ server.1.risks.rows)
    (here : row.id = riskId) :
    ClosedFor service library calls
      ((service.arriving library calls server).turns execServer before) row := by
  have inside := arriving_inside turn
  have arrived :=
    @ComplyxAgent.arriving_get service library calls server label.1 inside
  rcases (credited_run service _ arrived before).turn turn with read | ⟨_, _, cn, cert, peer, _⟩
  · cases read
  rcases (closing_after before inside peer).turn turn with
    ⟨known, ⟨allowed, closing⟩, holds⟩
  rcases allowed with impossible | ⟨impossible, _⟩ | ⟨memory, passed, own⟩
  · cases impossible
  · cases impossible
  have call : OwnCall memory (.setRiskStatus riskId .closed) := own
  cases call with
  | read stmt reads => cases reads
  | close riskId last =>
      have start :=
        open_at_start (holds.admission.found memory passed.2) last member here
      cases closing with
      | asking op read unknown => cases read
      | other op quiet served => cases quiet
      | close riskId request now result lookup submitted known passing accepted =>
          have called :
              calls[label.1] =
                (calls[label.1].1, .submitResults request now) := by
            rw [← submitted]
          have admitted := holds.admission.admittedIn peer passed
          rw [← start.2] at admitted
          refine ⟨start.1, label.1, calls[label.1].1, request, now,
            result, lookup,
              (List.getElem?_eq_getElem inside).trans (congrArg some called),
              admitted,
            holds.looked lookup known, ?_, accepted, passing⟩
          exact (holds.own lookup memory known passed.2).trans start.2.symm

end Runs

end Complyx
