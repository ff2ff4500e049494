import Complyx.Grpc.Confinement
import Complyx.Ingest.SameRows

namespace Complyx

open Transition

/-!
# An agent does not hear the others

Many calls of many agents are under way at once, each of them a sequence of
statements and of operations on the map.  Take any interleaving, and take out the
turns of every other agent: the calls of this agent get the same answers, and the
agent is left with the same rows and the same entry.  What the environment may not
do is to draw an identifier that a row of another agent has.
-/

abbrev ServerPool := Pool (Sum.elim Stmt.Res OrchestratorOp.Res) DbError
    (Fault Status) AgentReply Server

/-- A call under way, with the identity the interceptor found. -/
structure ServedCall where
  agentId : AgentId
  call : AgentCall

/-- The calls, none of them started. -/
def ComplyxAgent.serving (service : ComplyxAgent) (calls : List ServedCall)
    (server : Server) : ServerPool where
  threads :=
    calls.map fun served => service.serve (some served.agentId) served.call
  store := server

/-- The call at the index is one of the agent. -/
def callOf (agentId : Uuid) (calls : List ServedCall) (index : Nat) : Bool :=
  calls[index]?.any fun served => served.agentId.id = agentId

/-! ## What a call issues -/

def noteCall (memory : Memory) :
    (op : Stmt ⊕ OrchestratorOp) -> Except DbError
    (Sum.elim Stmt.Res OrchestratorOp.Res op) -> Memory
  | .inl stmt, answer => memory.note stmt answer
  | .inr _, _ => memory

/-- An operation on behalf of the agent. -/
def ServesOwn (memory : Memory) : Stmt ⊕ OrchestratorOp -> Prop
  | .inl stmt => OwnCall memory stmt
  | .inr op => op.agentId = memory.agentId

abbrev Serves {ε α : Type} (program : ServerCode ε α) (memory : Memory) : Prop :=
  program.Follows noteCall ServesOwn memory

theorem beside_serves {ε α : Type} {code : Code ε α} {memory : Memory}
    (acts : ActsFor code memory) :
    Serves code.beside memory := by
  induction code generalizing memory with
  | done value => trivial
  | fail error => trivial
  | call stmt next ih => exact ⟨acts.1, fun answer => ih answer (acts.2 answer)⟩

theorem resolvePolicies_acts (service : AgentServiceImpl) (memory : Memory) :
    ActsFor (service.resolvePolicies memory.agentId) memory := by
  refine ⟨OwnCall.connection, fun answer => ?_⟩
  apply Program.follows_mapError
  exact acts_of_issues (fun other stmt _ read => OwnCall.read stmt read)
    (resolveForAgent_issues service.distributor memory.agentId)

theorem noteCall_agentId (memory other : Memory) (op : Stmt ⊕ OrchestratorOp)
    (answer : Except DbError (Sum.elim Stmt.Res OrchestratorOp.Res op))
    (same : other.agentId = memory.agentId) :
    (noteCall other op answer).agentId = memory.agentId := by
  cases op <;> exact same

theorem serves_bind {ε α β : Type} {program : ServerCode ε α}
    {next : α -> ServerCode ε β} {memory : Memory} (first : Serves program memory)
    (rest : forall value (other : Memory), other.agentId = memory.agentId ->
      Serves (next value) other) : Serves (program >>= next) memory :=
  Program.follows_bind_kept (noteCall_agentId memory) rfl first rest

theorem pollPolicies_serves (service : ComplyxAgent) (request : PollRequest)
    (memory : Memory) :
    Serves (service.pollPolicies (some ⟨memory.agentId⟩) request) memory := by
  refine ⟨rfl, fun answer => ?_⟩
  refine serves_bind (beside_serves (resolvePolicies_acts _ memory))
    fun bundle other same => ?_
  split
  · trivial
  · exact ⟨same.symm, fun answer => trivial⟩

theorem submitResults_acts (service : ComplyxAgent)
    (request : SubmitResultsRequest) (now : DateTime) (memory : Memory) :
    ActsFor (service.submitResults (some ⟨memory.agentId⟩) request now)
      memory := by
  rw [ComplyxAgent.submitResults, extractAgentId, Except.mapError,
    Program.lift_ok, Program.done_bind]
  refine follows_bind_acts (Program.follows_lift _ memory)
    fun matching other same => ?_
  refine follows_bind_acts (Program.follows_mapError _ ?_) fun summary last _ =>
    trivial
  exact ingest_acts service.ingester (request.call memory.agentId now)
    other same.symm

theorem heartbeat_serves (request : HeartbeatRequest) (now : DateTime)
    (memory : Memory) :
    Serves (ComplyxAgent.heartbeat (some ⟨memory.agentId⟩) request now) memory :=
  ⟨rfl, fun _ => ⟨OwnCall.connection, fun _ => trivial⟩⟩

/-- Every call acts for the agent of its certificate. -/
theorem serve_serves (service : ComplyxAgent) (call : AgentCall)
    (memory : Memory) :
    Serves (service.serve (some ⟨memory.agentId⟩) call) memory := by
  cases call with
  | pollPolicies request =>
      apply serves_bind
        (Program.follows_mapError _ (pollPolicies_serves service request memory))
      intro response other _
      trivial
  | submitResults request now =>
      apply serves_bind
        (beside_serves (submitResults_acts service request now memory))
      intro response other _
      trivial
  | heartbeat request now =>
      apply serves_bind
        (Program.follows_mapError _ (heartbeat_serves request now memory))
      intro response other _
      trivial

/-! ## Servers that are alike for an agent -/

/-- The same rows and the same entry of the agent. -/
structure AlikeServer (agentId : Uuid) (whole alone : Server) : Prop where
  rows : AlikeFor agentId whole.1 alone.1
  entry : whole.2.agents agentId = alone.2.agents agentId

/-- No identifier a statement of the agent draws belongs to a row of another. -/
def DrawsUnused (agentId : Uuid) (env : Env × Instant) (_ : Stmt ⊕ OrchestratorOp)
    (server : Server) : Prop :=
  UnusedByOthers agentId env.1 server.1

theorem AlikeServer.apply {agentId : Uuid} {whole alone : Server}
    (alike : AlikeServer agentId whole alone) (now : Instant)
    {op : OrchestratorOp} (own : op.agentId = agentId) :
    (op.apply now whole.2).agents agentId =
      (op.apply now alone.2).agents agentId := by
  cases op with
  | updateHeartbeat id =>
      have same : id = agentId := own
      rw [same, OrchestratorOp.apply, OrchestratorOp.apply,
        Orchestrator.updateHeartbeat_eq, Orchestrator.updateHeartbeat_eq,
          Orchestrator.set_agents_self, Orchestrator.set_agents_self, alike.entry]
  | updatePolicyHash id hash =>
      have same : id = agentId := own
      rw [same, OrchestratorOp.apply, OrchestratorOp.apply,
        Orchestrator.updatePolicyHash_eq, Orchestrator.updatePolicyHash_eq,
          Orchestrator.set_agents_self, Orchestrator.set_agents_self, alike.entry]

/-- The operations of the calls keep an agent from hearing the others. -/
theorem serving_isolates (agentId : Uuid) :
    Isolates execServer noteCall ServesOwn
      (fun memory => memory.agentId = agentId)
      (fun memory server => memory.Knows server.1) (DrawsUnused agentId)
        (AlikeServer agentId) where
  owned known op answer := by
    cases op <;> exact Iff.rfl
  learns env op known server call knows := by
    cases op with
    | inl stmt =>
        rw [Program.perform_inl]
        exact OwnCall.learns call env.1 server.1
    | inr op =>
        rw [Program.perform_inr]
        exact knows
  remembers env op known other server call _ knows := by
    cases op with
    | inl stmt =>
        rw [Program.perform_inl]
        exact knows.kept (OwnCall.ids_kept call env.1 server.1)
    | inr op =>
        rw [Program.perform_inr]
        exact knows
  same env op known whole alone own call knows unused alike := by
    cases op with
    | inl stmt =>
        rw [Program.perform_inl, Program.perform_inl]
        subst own
        have answers := alike.rows.own call knows unused
        exact ⟨answers.1, answers.2, alike.entry⟩
    | inr op =>
        rw [Program.perform_inr, Program.perform_inr]
        exact ⟨rfl, alike.rows, alike.apply env.2 (call.trans own)⟩
  unheard env op known whole alone other call knows alike := by
    cases op with
    | inl stmt =>
        rw [Program.perform_inl]
        exact ⟨alike.rows.other other call env.1 knows, alike.entry⟩
    | inr op =>
        rw [Program.perform_inr]
        refine ⟨alike.rows, ?_⟩
        have apart : agentId ≠ op.agentId :=
          fun same => other (call.symm.trans same.symm)
        rcases op.apply_eq env.2 whole.2 with ⟨entry, applied⟩
        have performed : Program.perform OrchestratorOp.exec env.2 op whole.2 =
            ((.ok () : Except DbError op.Res), op.apply env.2 whole.2) := rfl
        rw [performed, applied, Orchestrator.set_agents_of_ne _ apart]
        exact alike.entry

/-! ## With and without the others -/

section Interleaving

variable (service : ComplyxAgent) (calls : List ServedCall) (agentId : Uuid)

/-- No identifier drawn in a turn of the agent belongs to a row of another. -/
def OwnDraws (pool : ServerPool) (label : Nat × (Env × Instant)) : Prop :=
  callOf agentId calls label.1 = true -> pool.Guarded (DrawsUnused agentId) label

/-- The agent for which the call at an index acts, an index outside the list
aside. -/
def memoryOf (calls : List ServedCall) (other : Uuid) (index : Nat) : Memory where
  agentId := (calls[index]?.map fun served => served.agentId.id).getD other
  found := none

variable {service calls agentId}

/-- Before the first turn both pools are the same. -/
theorem serving_beside (server : Server) {other : Uuid}
    (apart : other ≠ agentId) :
    Pool.Beside noteCall ServesOwn (fun memory => memory.agentId = agentId)
      (fun memory server => memory.Knows server.1) (AlikeServer agentId)
        (callOf agentId calls)
      (memoryOf calls other) (service.serving calls server)
        (service.serving calls server) where
  follows := by
    intro index program present
    rw [ComplyxAgent.serving, List.getElem?_map] at present
    rcases Option.map_eq_some_iff.mp present with ⟨served, turn, rfl⟩
    rw [memoryOf, turn]
    exact serve_serves service served.call ⟨served.agentId.id, none⟩
  knows := by
    intro index riskId found
    cases found
  own := by
    intro index
    rw [memoryOf, callOf]
    cases calls[index]? with
    | none =>
        exact ⟨fun same => absurd same apart, fun impossible =>
          absurd impossible Bool.false_ne_true⟩
    | some served => exact decide_eq_true_iff.symm
  threads := fun _ _ => rfl
  alike := ⟨AlikeFor.rfl, rfl⟩

/-- However the calls of the agents interleave, the calls of one agent end as they
end when nobody else has a turn, and so do its rows and its entry. -/
theorem calls_independent (service : ComplyxAgent) (calls : List ServedCall)
    (agentId : Uuid) (server : Server) (labels : List (Nat × (Env × Instant)))
    (draws : Meets (Pool.step execServer) (OwnDraws calls agentId)
      (service.serving calls server) labels) :
    let whole :=
      after (Pool.step execServer) (service.serving calls server) labels
    let alone := after (Pool.step execServer) (service.serving calls server)
      (labels.filter fun label => callOf agentId calls label.1)
    (forall index, callOf agentId calls index = true ->
      whole.threads[index]? = alone.threads[index]?) ∧
      AlikeServer agentId whole.store alone.store := by
  have apart : agentId + 1 ≠ agentId := by
    intro same
    bv_omega
  rcases (serving_beside server apart).run (serving_isolates agentId) draws with
    ⟨_, beside⟩
  exact ⟨beside.threads, beside.alike⟩

end Interleaving

/-- Agents 7 and 8 are assigned the same policy. -/
def sharedDb : Db :=
  { policedDb with
    agents :=
      ⟨[⟨7, .host 0x0a000001, some "web-01", some "Linux", some "6.8",
          newYear.nanos, newYear.nanos, true⟩,
            ⟨8, .host 0x0a000002, some "web-02", some "Linux", some "6.8",
              newYear.nanos, newYear.nanos, true⟩], by decide⟩
    agentPolicies := ⟨[⟨7, 21⟩, ⟨8, 21⟩], by decide⟩ }

/-- Both submit a result, and agent 8 sends a heartbeat. -/
def sharedCalls : List ServedCall :=
  [⟨⟨7⟩,
    .submitResults
    (nightRequest [midnightResult "1B4E28BA-2FA1-11D2-883F-0016D3CCA427"])
    newYear⟩,
    ⟨⟨8⟩,
      .submitResults { nightRequest [midnightFailure] with
        agentId := "" } newYear⟩,
    ⟨⟨8⟩, .heartbeat ⟨"", 0⟩ newYear⟩]

/-- Their turns, in which agent 7 draws the identifier 51 and agent 8 draws 99. -/
def sharedTurns : List (Nat × (Env × Instant)) :=
  [1, 0, 1, 2, 0, 0, 1, 2, 1, 0].map fun index =>
    (index, quietly (if index = 0 then 51 else 99) 0, 5)

theorem shared_calls_independent :
    Meets (Pool.step execServer) (OwnDraws sharedCalls 7)
      (nightService.serving sharedCalls (sharedDb, Orchestrator.new 90))
        sharedTurns ∧
    let whole :=
      after (Pool.step execServer)
        (nightService.serving sharedCalls (sharedDb, Orchestrator.new 90))
          sharedTurns
    let alone :=
      after (Pool.step execServer)
        (nightService.serving sharedCalls (sharedDb, Orchestrator.new 90))
        (sharedTurns.filter fun label => callOf 7 sharedCalls label.1)
    (forall index, callOf 7 sharedCalls index = true ->
      whole.threads[index]? = alone.threads[index]?) ∧
      AlikeServer 7 whole.store alone.store := by
  have foreign :
      Meets (Pool.step execServer)
        (fun (pool : ServerPool) (label : Nat × (Env × Instant)) =>
          (forall row, row ∈ pool.store.1.risks.rows -> row.agentId ≠ 7 ->
            row.id = 99) ∧
            forall row, row ∈ pool.store.1.checkResults.rows -> row.agentId ≠ 7 ->
              row.id = 99)
      (nightService.serving sharedCalls (sharedDb, Orchestrator.new 90))
        sharedTurns := by
    decide +kernel
  have draws : Meets (Pool.step execServer) (OwnDraws sharedCalls 7)
      (nightService.serving sharedCalls (sharedDb, Orchestrator.new 90))
        sharedTurns := by
    apply foreign.mono
    rintro pool label member ⟨risks, checkResults⟩ mine op next _
    rcases List.mem_map.mp member with ⟨index, _, rfl⟩
    have first : index = 0 := by
      cases index with
      | zero => rfl
      | succ earlier =>
          rcases earlier with _ | _ | _ <;> cases mine
    have apart : (99 : Uuid) ≠ 51 := by decide
    rw [first]
    constructor
    · intro row rowMember other
      rw [risks row rowMember other]
      exact apart
    · intro row rowMember other n
      rw [checkResults row rowMember other]
      exact apart
  exact ⟨draws,
    calls_independent nightService sharedCalls 7 (sharedDb, Orchestrator.new 90)
    sharedTurns draws⟩

end Complyx
