import Complyx.Grpc.Mediation
import Complyx.Orchestrator.Monitor
import Complyx.Transition.Log

namespace Complyx

open Transition

/-!
# Who is in the map

The monitor runs beside the service: between any two statements of the requests,
time may pass and the monitor may take a step of its pass.  Requests bring agents
into the map and the monitor marks them.  Together they only ever show what was
so:  an agent that is there was admitted by the interceptor and was heard of at
the moment noted, and one that is shown offline was found silent.
-/

/-- The requests, the clock and the monitor. -/
structure LiveServer where
  pool : ServerPool
  now : Instant
  pass : Pass

/-- A request takes its turn, time passes, or the monitor takes a step. -/
inductive LiveLabel where
  | turn (index : Nat) (env : Env)
  | tick (duration : Nat)
  | check (label : MonitorLabel) (ofCheck : label.ofCheck = true)

namespace LiveServer

def monitor (live : LiveServer) : MonitorState :=
  ⟨live.pool.store.2, live.now, live.pass⟩

def step (live : LiveServer) : LiveLabel -> LiveServer
  | .turn index env =>
      { live with pool := live.pool.step execServer (index, env, live.now) }
  | .tick duration => { live with now := live.now + duration }
  | .check label _ =>
      let next := live.monitor.step label
      { pool := { live.pool with
        store := (live.pool.store.1, next.orchestrator) }, now := next.now,
        pass := next.pass }

/-- The server when it starts: nobody is known. -/
def start (service : ComplyxAgent) (library : CertLibrary)
    (calls : List (Option (List Der) × AgentCall)) (db : Db)
    (offlineTimeoutSecs : UInt64) (now : Instant) : LiveServer where
  pool := service.arriving library calls (db, Orchestrator.new offlineTimeoutSecs)
  now := now
  pass := .idle

/-! ## What the monitor notices -/

/-- What a step is to the monitor. -/
def heard (live : LiveServer) : LiveLabel -> Option MonitorLabel
  | .turn index _ =>
      match live.pool.threads[index]? with
      | some (.call (.inr (.updateHeartbeat agentId)) _) =>
          some (.updateHeartbeat agentId)
      | some (.call (.inr (.updatePolicyHash agentId hash)) _) =>
          some (.updatePolicyHash agentId hash)
      | _ => none
  | .tick duration => some (.tick duration)
  | .check label _ => some label

theorem step_turn_call {live : LiveServer} {index : Nat} (env : Env)
    {op : OrchestratorOp}
    {next : Except DbError (Sum.elim Stmt.Res OrchestratorOp.Res (.inr op)) ->
      ServerCode (Fault Status) AgentReply}
    (turn : live.pool.threads[index]? = some (.call (.inr op) next)) :
    (live.step (.turn index env)).monitor =
      ⟨op.apply live.now live.pool.store.2, live.now, live.pass⟩ := by
  rw [step, monitor, Pool.step_call turn]
  dsimp only
  rw [Program.perform_inr]
  rfl

/-- Every step of the server is one of the monitor and its surroundings, or none. -/
theorem monitor_step (live : LiveServer) (label : LiveLabel) :
    (live.step label).monitor =
      ((live.heard label).elim live.monitor live.monitor.step) := by
  cases label with
  | tick duration => rfl
  | check label ofCheck => rfl
  | turn index env =>
      rcases Pool.step_cases execServer live.pool (index, env, live.now) with
        ⟨idle, same⟩ | ⟨op, next, turn, stepped⟩
      · have deaf : live.heard (.turn index env) = none := by
          rw [heard]
          split
          · next turn => exact absurd turn (idle _ _)
          · next turn => exact absurd turn (idle _ _)
          · rfl
        rw [deaf, step, same]
        rfl
      · dsimp only at turn
        cases op with
        | inl stmt =>
            have deaf : live.heard (.turn index env) = none := by
              rw [heard, turn]
            rw [deaf, step, stepped]
            dsimp only
            rw [Program.perform_inl]
            rfl
        | inr op =>
            rw [step_turn_call env turn, heard, turn]
            cases op <;> rfl

/-- An entry is seen last at the moment of a heartbeat. -/
theorem lastSeen_step (state : MonitorState) (label : MonitorLabel)
    {agentId : Uuid} {entry : AgentState}
    (present : (state.step label).orchestrator.agents agentId = some entry) :
    (Exists fun before => state.orchestrator.agents agentId = some before ∧
      before.lastSeen = entry.lastSeen) ∨
      label = .updateHeartbeat agentId ∧ state.now = entry.lastSeen := by
  have marked :
      forall target, (state.orchestrator.markOffline target).agents agentId =
        some entry ->
      Exists fun before => state.orchestrator.agents agentId = some before ∧
        before.lastSeen = entry.lastSeen := by
    intro target there
    rw [Orchestrator.markOffline_eq] at there
    by_cases here : agentId = target
    · rw [here, Orchestrator.set_agents_self] at there
      rcases Option.map_eq_some_iff.mp there with ⟨before, known, rfl⟩
      exact ⟨before, here ▸ known, rfl⟩
    · rw [Orchestrator.set_agents_of_ne _ here] at there
      exact ⟨entry, there, rfl⟩
  by_cases check : label.ofCheck = true
  · left
    rcases state.step_check_orchestrator check with
      same | ⟨target, rest, _, _, changed⟩
    · rw [same] at present
      exact ⟨entry, present, rfl⟩
    · rw [changed] at present
      exact marked target present
  · cases label with
    | tick duration => exact Or.inl ⟨entry, present, rfl⟩
    | updateHeartbeat target =>
        rw [MonitorState.step, MonitorState.update,
          Orchestrator.updateHeartbeat_eq] at present
        dsimp only at present
        by_cases here : agentId = target
        · right
          rw [here, Orchestrator.set_agents_self] at present
          cases present
          exact ⟨congrArg _ here.symm, rfl⟩
        · rw [Orchestrator.set_agents_of_ne _ here] at present
          exact Or.inl ⟨entry, present, rfl⟩
    | updatePolicyHash target hash =>
        left
        rw [MonitorState.step, MonitorState.update,
          Orchestrator.updatePolicyHash_eq] at present
        dsimp only at present
        by_cases here : agentId = target
        · rw [here, Orchestrator.set_agents_self] at present
          rcases Option.map_eq_some_iff.mp present with ⟨before, known, rfl⟩
          exact ⟨before, here ▸ known, rfl⟩
        · rw [Orchestrator.set_agents_of_ne _ here] at present
          exact ⟨entry, present, rfl⟩
    | removeAgent target =>
        left
        by_cases here : agentId = target
        · rw [here] at present
          cases (Orchestrator.set_agents_self _ target none).symm.trans present
        · exact ⟨entry,
            (Orchestrator.set_agents_of_ne _ here none).symm.trans present, rfl⟩
    | _ => exact absurd rfl check

/-- The agent is on the list of the pass, or offline. -/
def Suspect (agentId : Uuid) (state : MonitorState) : Prop :=
  agentId ∈ state.pass.listed ∨
    Exists fun entry => state.orchestrator.agents agentId = some entry ∧
      entry.status = .offline

section Suspect

variable {agentId : Uuid}

/-- A change of one entry that turns nobody offline who is not suspected. -/
theorem Suspect.of_set {orchestrator : Orchestrator} {now : Instant} {pass : Pass}
    {target : Uuid} {entry : Option AgentState}
    (turned : forall state, entry = some state -> state.status = .offline ->
      Suspect target ⟨orchestrator, now, pass⟩)
    (suspect : Suspect agentId ⟨orchestrator.set target entry, now, pass⟩) :
    Suspect agentId ⟨orchestrator, now, pass⟩ := by
  rcases suspect with listed | ⟨state, present, offline⟩
  · exact Or.inl listed
  · by_cases here : agentId = target
    · rw [here] at present
      rw [here]
      exact turned state
        ((Orchestrator.set_agents_self _ target entry).symm.trans present) offline
    · exact Or.inr
        ⟨state, (Orchestrator.set_agents_of_ne _ here entry).symm.trans present,
          offline⟩

/-- The same map with a list on which there is nobody else. -/
theorem Suspect.of_list {orchestrator : Orchestrator} {now : Instant}
    {pass pass' : Pass} (fewer : agentId ∈ pass'.listed -> agentId ∈ pass.listed)
    (suspect : Suspect agentId ⟨orchestrator, now, pass'⟩) :
    Suspect agentId ⟨orchestrator, now, pass⟩ :=
  suspect.imp_left fewer

/-- Suspicion begins where a pass reads a stale entry. -/
theorem suspect_step (state : MonitorState) (label : MonitorLabel)
    (suspect : Suspect agentId (state.step label)) :
    Suspect agentId state ∨ label = .read agentId ∧
      state.orchestrator.isStale state.now agentId = true := by
  rcases state with ⟨orchestrator, now, pass⟩
  cases label with
  | tick duration => exact Or.inl suspect
  | updateHeartbeat target =>
      left
      rw [MonitorState.step, MonitorState.update,
        Orchestrator.updateHeartbeat_eq] at suspect
      refine suspect.of_set ?_
      intro state same offline
      cases same
      cases offline
  | updatePolicyHash target hash =>
      left
      rw [MonitorState.step, MonitorState.update,
        Orchestrator.updatePolicyHash_eq] at suspect
      refine suspect.of_set ?_
      intro state same offline
      rcases Option.map_eq_some_iff.mp same with ⟨before, known, rfl⟩
      exact Or.inr ⟨before, known, offline⟩
  | removeAgent target =>
      left
      refine Suspect.of_set ?_ suspect
      intro state impossible
      cases impossible
  | start =>
      left
      cases pass with
      | idle => exact suspect
      | reading stale => exact suspect
      | marking left => exact suspect
  | read target =>
      cases pass with
      | idle => exact Or.inl suspect
      | marking left => exact Or.inl suspect
      | reading stale =>
          simp only [MonitorState.step] at suspect
          split at suspect
          · next found =>
            by_cases here : target = agentId
            · rw [here] at found ⊢
              exact Or.inr ⟨rfl, found⟩
            · left
              refine suspect.of_list fun listed => ?_
              rcases List.mem_append.mp listed with before | new
              · exact before
              · exact absurd (List.mem_singleton.mp new).symm here
          · exact Or.inl suspect
  | collected =>
      left
      cases pass with
      | idle => exact suspect
      | marking left => exact suspect
      | reading stale =>
          refine suspect.of_list fun listed => ?_
          rw [Pass.listed_remaining] at listed
          exact listed
  | mark =>
      left
      cases pass with
      | idle => exact suspect
      | reading stale => exact suspect
      | marking left =>
          cases left with
          | nil => exact suspect
          | cons target rest =>
              rw [MonitorState.step_mark rfl,
                Orchestrator.markOffline_eq] at suspect
              refine Suspect.of_set (fun _ _ _ => Or.inl List.mem_cons_self)
                (suspect.of_list fun listed => ?_)
              rw [Pass.listed_remaining] at listed
              exact List.mem_cons_of_mem target listed

end Suspect

/-! ## Runs -/

/-- The turn that a request takes in a step. -/
def taken (live : LiveServer) : LiveLabel -> List ServerTurn
  | .turn index env => [⟨index, (env, live.now), live.pool⟩]
  | .tick _ => []
  | .check _ _ => []

/-- The turns that the requests take in a run, in order. -/
def turns : LiveServer -> List LiveLabel -> List ServerTurn
  | _, [] => []
  | live, label :: rest => live.taken label ++ (live.step label).turns rest

section Runs

variable {live : LiveServer} {agentId : Uuid}

/-- A request is credited however the monitor moves in between. -/
theorem credited_live {turns : List ServerTurn} {library : CertLibrary}
    {peerCerts : Option (List Der)} {index : Nat} (labels : List LiveLabel)
    (credited : Credited turns library peerCerts index live.pool) :
    Credited (turns ++ live.turns labels) library peerCerts index
      (after step live labels).pool := by
  have same : forall {turns : List ServerTurn} {pool pool' : ServerPool},
      pool'.threads = pool.threads ->
        Credited turns library peerCerts index pool ->
        Credited turns library peerCerts index pool' := by
    intro turns pool pool' same credited
    cases credited with
    | refused failure ended => exact Credited.refused failure (same ▸ ended)
    | told cn cert peer told =>
        refine Credited.told cn cert peer ⟨?_⟩
        rw [same]
        exact told.told
  induction labels generalizing live turns with
  | nil =>
      rw [LiveServer.turns, List.append_nil]
      exact credited
  | cons label rest ih =>
      rw [LiveServer.turns, ← List.append_assoc]
      apply ih
      cases label with
      | turn index env => exact credited_step credited (index, env, live.now)
      | tick duration =>
          rw [taken, List.append_nil]
          exact credited
      | check label ofCheck =>
          have kept :
              (live.step (.check label ofCheck)).pool.threads =
                live.pool.threads := rfl
          rw [taken, List.append_nil]
          exact same kept credited

/-- No request comes or goes. -/
theorem threads_length (live : LiveServer) (labels : List LiveLabel) :
    (after step live labels).pool.threads.length = live.pool.threads.length := by
  induction labels generalizing live with
  | nil => rfl
  | cons label rest ih =>
      rw [after_cons, ih]
      cases label with
      | tick duration => rfl
      | check label ofCheck => rfl
      | turn index env => exact Pool.step_length live.pool (index, env, live.now)

/-- Only a request is heard. -/
theorem heard_heartbeat {label : LiveLabel}
    (heard : live.heard label = some (.updateHeartbeat agentId)) :
    Exists fun index => Exists fun env => Exists fun next =>
      label = .turn index env ∧
      live.pool.threads[index]? =
        some (.call (.inr (.updateHeartbeat agentId)) next) := by
  cases label with
  | tick duration => cases heard
  | check label ofCheck =>
      cases heard
      cases ofCheck
  | turn index env =>
      rw [LiveServer.heard] at heard
      split at heard
      · next turn =>
        cases heard
        exact ⟨index, env, _, rfl, turn⟩
      · cases heard
      · cases heard

/-- An entry with this moment. -/
def SeenLast (agentId : Uuid) (moment : Instant) (live : LiveServer) : Prop :=
  Exists fun entry => live.monitor.orchestrator.agents agentId = some entry ∧
    entry.lastSeen = moment

theorem seenLast_step (moment : Instant) (live : LiveServer) (label : LiveLabel)
    (seen : SeenLast agentId moment (live.step label)) :
    SeenLast agentId moment live ∨
      live.heard label = some (.updateHeartbeat agentId) ∧ live.now = moment := by
  rcases seen with ⟨later, present, rfl⟩
  rw [monitor_step] at present
  cases heard : live.heard label with
  | none =>
      rw [heard] at present
      exact Or.inl ⟨later, present, rfl⟩
  | some event =>
      rw [heard] at present
      rcases lastSeen_step live.monitor event present with
        ⟨before, known, same⟩ | ⟨rfl, moment⟩
      · exact Or.inl ⟨before, known, same⟩
      · exact Or.inr ⟨rfl, moment⟩

theorem suspect_live (live : LiveServer) (label : LiveLabel)
    (suspect : Suspect agentId (live.step label).monitor) :
    Suspect agentId live.monitor ∨
      label = .check (.read agentId) rfl ∧
        live.monitor.orchestrator.isStale live.now agentId = true := by
  rw [monitor_step] at suspect
  cases heard : live.heard label with
  | none =>
      rw [heard] at suspect
      exact Or.inl suspect
  | some event =>
      rw [heard] at suspect
      rcases suspect_step live.monitor event suspect with before | ⟨rfl, stale⟩
      · exact Or.inl before
      · right
        refine ⟨?_, stale⟩
        cases label with
        | tick duration => cases heard
        | check label ofCheck =>
            cases heard
            rfl
        | turn index env =>
            rw [LiveServer.heard] at heard
            split at heard <;> cases heard

end Runs

end LiveServer

/-- At every moment of every run, an agent in the map was heard of at the moment
noted, from a request that had been admitted as this agent in its turns; and if it
is offline, a pass of the monitor had found it silent for longer than the
timeout. -/
theorem presence_justified (service : ComplyxAgent) (library : CertLibrary)
    (calls : List (Option (List Der) × AgentCall)) (db : Db)
    (offlineTimeoutSecs : UInt64) (now : Instant) (labels : List LiveLabel)
    (agentId : Uuid) (entry : AgentState) :
    let start := LiveServer.start service library calls db offlineTimeoutSecs now
    let state := fun labels => after LiveServer.step start labels
    (state labels).pool.store.2.agents agentId = some entry ->
      (Exists fun before => Exists fun index => Exists fun env =>
        Exists fun rest => Exists fun call =>
        labels = before ++ .turn index env :: rest ∧ calls[index]? = some call ∧
        (state before).heard (.turn index env) = some (.updateHeartbeat agentId) ∧
        (state before).now = entry.lastSeen ∧
        AdmittedIn (start.turns before) library call.1 index agentId) ∧
      (entry.status = .offline -> Exists fun before => Exists fun rest =>
        labels = before ++ .check (.read agentId) rfl :: rest ∧
        (state before).pool.store.2.isStale (state before).now agentId = true) := by
  intro start state known
  constructor
  · have seen :
        LiveServer.SeenLast agentId entry.lastSeen
          (after LiveServer.step start labels) := ⟨entry, known, rfl⟩
    rcases after_brought_about (LiveServer.seenLast_step entry.lastSeen)
        start seen with
      ⟨_, impossible, _⟩ | ⟨before, label, rest, split, heard, moment⟩
    · cases impossible
    · rcases LiveServer.heard_heartbeat heard with ⟨index, env, next, rfl, turn⟩
      have inside : index < calls.length := by
        have present := (List.getElem?_eq_some_iff.mp turn).1
        rw [LiveServer.threads_length] at present
        exact List.length_map _ ▸ present
      have arrived :
          start.pool.threads[index]? =
            some (service.request library calls[index].1 calls[index].2) :=
        ComplyxAgent.arriving_get inside
      have credited := LiveServer.credited_live before
        (credited_start [] service library _ _ arrived)
      rw [List.nil_append] at credited
      rcases credited.turn turn with
        impossible | ⟨admitted, ⟨memory, same, own, _⟩, admission⟩
      · cases impossible
      · have here : agentId = admitted :=
          (own : agentId = memory.agentId).trans same
        rw [← here] at admission
        exact ⟨before, index, env, rest, calls[index], split,
          List.getElem?_eq_getElem inside, heard, moment, admission⟩
  · intro offline
    have suspect :
        LiveServer.Suspect agentId (after LiveServer.step start labels).monitor :=
      Or.inr ⟨entry, known, offline⟩
    rcases @after_brought_about _ _ _
      (fun live : LiveServer => LiveServer.Suspect agentId live.monitor) _
      LiveServer.suspect_live start labels suspect with
      (impossible | ⟨_, impossible, _⟩) | ⟨before, label, rest, split, rfl, stale⟩
    · cases impossible
    · cases impossible
    · exact ⟨before, rest, split, stale⟩

/-- Two heartbeats of `web-01`. -/
def webCalls : List (Option (List Der) × AgentCall) :=
  [⟨"", 0⟩, ⟨"", 1⟩].map fun request =>
    (some [webRecord.der], AgentCall.heartbeat request newYear)

/-- The first is noted after a second, and the agent is found silent when two
minutes have passed. -/
def webPresence : List LiveLabel :=
  [.turn 0 (quietly 51 0), .turn 0 (quietly 51 0), .tick 1000000000,
    .turn 0 (quietly 51 0), .tick (120 * 1000000000), .check .start rfl,
      .check (.read 7) rfl, .check .collected rfl, .turn 1 (quietly 51 0),
      .check .mark rfl]

theorem web_presence : Exists fun before => Exists fun rest =>
    webPresence = before ++ .check (.read 7) rfl :: rest ∧
      let found :=
        after LiveServer.step
          (LiveServer.start nightService recordedContext.library webCalls sharedDb
            90 5) before
      found.pool.store.2.isStale found.now 7 = true := by
  have known :
      (after LiveServer.step
        (LiveServer.start nightService recordedContext.library webCalls
          sharedDb 90 5)
          webPresence).pool.store.2.agents 7 =
            some ⟨1000000005, none, .offline⟩ := by
    decide +kernel
  have justified :=
    presence_justified nightService recordedContext.library webCalls sharedDb 90 5
      webPresence 7
      ⟨1000000005, none, .offline⟩
  dsimp only at justified
  exact (justified known).2 rfl

end Complyx
