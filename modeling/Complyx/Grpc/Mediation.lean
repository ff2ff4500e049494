import Complyx.Grpc.Isolation
import Complyx.Pki.Samples
import Complyx.Transition.Witnessed

namespace Complyx

open Transition

/-!
# Every request passes the interceptor

The main port hands a request to the agent service only once the interceptor has
let it through.  The interceptor asks the database twice, and anything may happen
between its questions and the statements of the service: certificates are revoked,
agents disabled and deleted.  Still, whatever is done in the name of an agent was
asked for with a certificate that was not revoked at the request's first question,
and under a name that an enabled agent had at its second, later one.
-/

/-- A request on the main port: the interceptor, then the service. -/
def ComplyxAgent.request (service : ComplyxAgent) (library : CertLibrary)
    (peerCerts : Option (List Der)) (call : AgentCall) :
    ServerCode (Fault Status) AgentReply := do
  let agentId <- ((authInterceptor library peerCerts).mapError Fault.error).beside
  service.serve (some agentId) call

/-- The requests, none of them started. -/
def ComplyxAgent.arriving (service : ComplyxAgent) (library : CertLibrary)
    (calls : List (Option (List Der) × AgentCall))
    (server : Server) : ServerPool where
  threads := calls.map fun call => service.request library call.1 call.2
  store := server

theorem ComplyxAgent.arriving_get {service : ComplyxAgent} {library : CertLibrary}
    {calls : List (Option (List Der) × AgentCall)} {server : Server} {index : Nat}
    (inside : index < calls.length) :
    (service.arriving library calls server).threads[index]? =
      some (service.request library calls[index].1 calls[index].2) := by
  rw [arriving, List.getElem?_map, List.getElem?_eq_getElem inside,
    Option.map_some]

/-- One of the interceptor's two questions. -/
inductive InterceptorRead : Stmt ⊕ OrchestratorOp -> Prop where
  | isRevoked (serial : String) : InterceptorRead (.inl (.isRevoked serial))
  | getAgentByHostname (hostname : String) :
      InterceptorRead (.inl (.getAgentByHostname hostname))

theorem authInterceptor_issues (library : CertLibrary)
    (peerCerts : Option (List Der)) :
    (authInterceptor library peerCerts).Issues fun stmt =>
      InterceptorRead (.inl stmt) := by
  refine Program.issues_bind (Program.issues_lift _) fun peer => ?_
  dsimp only
  have asked : (isCertRevoked peer.2.serialText).Issues fun stmt =>
      InterceptorRead (.inl stmt) :=
    Program.issues_attempt _ (InterceptorRead.isRevoked _)
  refine Program.issues_bind (Program.issues_mapError _ asked) fun isRevoked => ?_
  split
  · trivial
  · refine Program.issues_bind
      (Program.issues_attempt _ (InterceptorRead.getAgentByHostname _))
      fun agent => ?_
    exact Program.issues_lift _

/-- An operation of a poll or of a heartbeat. -/
inductive ServiceRead : Stmt ⊕ OrchestratorOp -> Prop where
  | connection (agentId : Uuid) :
      ServiceRead (.inl (.updateLatestConnection agentId))
  | policies (stmt : Stmt) (read : PolicyRead stmt) : ServiceRead (.inl stmt)
  | noted (op : OrchestratorOp) : ServiceRead (.inr op)

theorem pollPolicies_issues (service : ComplyxAgent) (agentId : AgentId)
    (request : PollRequest) :
    (service.pollPolicies (some agentId) request).Issues ServiceRead := by
  have resolving : (service.resolvePolicies agentId.id).Issues fun stmt =>
      ServiceRead (.inl stmt) := by
    refine ⟨ServiceRead.connection _, fun answer => Program.issues_mapError _ ?_⟩
    exact (resolveForAgent_issues service.distributor agentId.id).mono
      ServiceRead.policies
  refine ⟨ServiceRead.noted _, fun answer =>
    Program.issues_bind (Program.issues_beside resolving) fun bundle => ?_⟩
  split
  · trivial
  · exact ⟨ServiceRead.noted _, fun answer => trivial⟩

theorem heartbeat_issues (agentId : AgentId) (request : HeartbeatRequest)
    (now : DateTime) :
    (ComplyxAgent.heartbeat (some agentId) request now).Issues ServiceRead :=
  ⟨ServiceRead.noted _, fun _ => ⟨ServiceRead.connection _, fun _ => trivial⟩⟩

/-! ## What a request has been told -/

/-- What the interceptor was told, and what the service remembers since. -/
structure Admission where
  unrevoked : Bool
  served : Option Memory

namespace Admission

/-- Nothing has been asked yet. -/
def none : Admission := ⟨false, .none⟩

/-- What an answer adds. -/
def hear (admission : Admission) :
    (stmt : Stmt) -> Except DbError stmt.Res -> Admission
  | .isRevoked _, .ok false => { admission with unrevoked := true }
  | .getAgentByHostname _, .ok (some row) =>
      if row.enabled then { admission with served := some ⟨row.id, .none⟩ }
      else admission
  | stmt, answer =>
      { admission with
        served := admission.served.map fun memory => memory.note stmt answer }

def note (admission : Admission) :
    (op : Stmt ⊕ OrchestratorOp) -> Except DbError
    (Sum.elim Stmt.Res OrchestratorOp.Res op) -> Admission
  | .inl stmt, answer => admission.hear stmt answer
  | .inr _, _ => admission

/-- The request has been let through, and the service remembers this. -/
def Passed (admission : Admission) (memory : Memory) : Prop :=
  admission.unrevoked = true ∧ admission.served = some memory

/-- The serial is asked about first, then the name, and then there are only
operations on behalf of the agent admitted. -/
def Allows (serial cn : String) (admission : Admission)
    (op : Stmt ⊕ OrchestratorOp) : Prop :=
  op = .inl (.isRevoked serial) ∨ op = .inl (.getAgentByHostname cn) ∧
    admission.unrevoked = true ∨
    Exists fun memory => admission.Passed memory ∧ ServesOwn memory op

theorem hear_enabled (admission : Admission) (cn : String) {row : AgentRow}
    (enabled : row.enabled = true) :
    admission.hear (.getAgentByHostname cn) (.ok (some row)) =
      { admission with served := some ⟨row.id, .none⟩ } := by
  unfold hear
  exact if_pos enabled

/-- The service's own operations add to its memory and to nothing else. -/
theorem note_own (admission : Admission) {memory : Memory}
    {op : Stmt ⊕ OrchestratorOp}
    (answer : Except DbError (Sum.elim Stmt.Res OrchestratorOp.Res op))
    (own : ServesOwn memory op) :
    admission.note op answer =
      { admission with
        served := admission.served.map fun memory => noteCall memory op answer } := by
  cases op with
  | inr op =>
      have same :
          (admission.served.map fun memory => noteCall memory (.inr op) answer) =
            admission.served :=
        Option.map_id'
      rw [same]
      rfl
  | inl stmt =>
      have call : OwnCall memory stmt := own
      cases call with
      | read stmt reads => cases reads <;> rfl
      | _ => rfl

theorem Passed.note {admission : Admission} {memory : Memory}
    (passed : admission.Passed memory) {op : Stmt ⊕ OrchestratorOp}
    (answer : Except DbError (Sum.elim Stmt.Res OrchestratorOp.Res op))
    (own : ServesOwn memory op) :
    (admission.note op answer).Passed (noteCall memory op answer) := by
  rw [note_own admission answer own]
  refine ⟨passed.1, ?_⟩
  dsimp only
  rw [passed.2]
  rfl

end Admission

section Earns

variable (library : CertLibrary) (serial cn : String)

/-- The service acts for the agent that was admitted. -/
theorem serve_earns (service : ComplyxAgent) (call : AgentCall) {memory : Memory}
    {admission : Admission} (passed : admission.Passed memory) :
    (service.serve (some ⟨memory.agentId⟩) call).Earns Admission.note
      (Admission.Allows serial cn)
      (fun admission _ => Exists fun memory => admission.Passed memory)
        admission := by
  have kept :
      forall (known : Admission) (memory : Memory) (op : Stmt ⊕ OrchestratorOp)
      (answer : Except DbError (Sum.elim Stmt.Res OrchestratorOp.Res op)),
        known.Passed memory ->
      ServesOwn memory op ->
          (known.note op answer).Passed (noteCall memory op answer) :=
    fun known memory op answer passed own => passed.note answer own
  refine Program.earns_of_follows kept ?_ ?_ passed
    (serve_serves service call memory)
  · intro known memory op passed own
    exact Or.inr (Or.inr ⟨memory, passed, own⟩)
  · intro known memory value passed
    exact ⟨memory, passed⟩

/-- The interceptor lets a request through as the agent it was told. -/
theorem authInterceptor_earns {peerCerts : Option (List Der)}
    {cert : X509Certificate}
    (peer : peerCertificate library peerCerts = .ok (cn, cert)) :
    (authInterceptor library peerCerts).Earns Admission.hear
      (fun admission stmt =>
        Admission.Allows cert.serialText cn admission (.inl stmt))
      (fun admission agentId => admission.Passed ⟨agentId.id, none⟩)
        Admission.none := by
  rw [authInterceptor, peer, Program.lift_ok, Program.done_bind]
  dsimp only
  refine ⟨Or.inl rfl, fun answer => ?_⟩
  cases answer with
  | error failure => trivial
  | ok isRevoked =>
      cases isRevoked with
      | true => trivial
      | false =>
          refine ⟨Or.inr (Or.inl ⟨rfl, rfl⟩), fun answer => ?_⟩
          cases answer with
          | error failure => trivial
          | ok agent =>
              cases agent with
              | none => trivial
              | some row =>
                  -- A disabled agent is refused: only the other case is to be earned.
                  apply Program.earns_lift
                  intro agentId admitted
                  rw [admitAgent] at admitted
                  split at admitted
                  · next enabled =>
                    cases admitted
                    rw [Admission.hear_enabled _ cn enabled]
                    exact ⟨rfl, rfl⟩
                  · cases admitted

theorem request_earns (service : ComplyxAgent) (call : AgentCall)
    {peerCerts : Option (List Der)} {cert : X509Certificate}
    (peer : peerCertificate library peerCerts = .ok (cn, cert)) :
    (service.request library peerCerts call).Earns Admission.note
      (Admission.Allows cert.serialText cn)
      (fun admission _ => Exists fun memory => admission.Passed memory)
        Admission.none := by
  refine Program.earns_bind (Program.earns_beside
    (Program.earns_mapError Fault.error (authInterceptor_earns library cn peer)))
      ?_
  intro agentId admission passed
  exact serve_earns cert.serialText cn service call passed

end Earns

/-! ## Where the answers come from -/

/-- A turn of some request. -/
abbrev ServerTurn :=
  PoolTurn (Sum.elim Stmt.Res OrchestratorOp.Res) DbError
    (Fault Status) AgentReply Server
    (Env × Instant)

/-- In this turn the request hears that the serial is not revoked, and it is not. -/
structure UnrevokedAt (turn : ServerTurn) (index : Nat)
    (serial : String) : Prop where
  heard : turn.Hears execServer index (.inl (.isRevoked serial)) (.ok false)
  unmarked : revoked serial turn.pool.store.1 = false

/-- In this turn the request hears of an enabled agent under the name, and there is
one. -/
structure EnabledAt (turn : ServerTurn) (index : Nat) (cn : String)
    (agentId : Uuid) : Prop where
  named : Exists fun row =>
    turn.Hears execServer index (.inl (.getAgentByHostname cn)) (.ok (some row)) ∧
    row ∈ turn.pool.store.1.agents.rows ∧ row.hostname = some cn ∧
      row.enabled = true ∧
    row.id = agentId

section Seen

variable (turns : List ServerTurn)

/-- In one of its turns the request found its certificate unrevoked, and in a
later one an enabled agent with this identifier under the certificate's name. -/
structure AdmittedIn (library : CertLibrary) (peerCerts : Option (List Der))
    (index : Nat) (agentId : Uuid) : Prop where
  admitted : Exists fun cn => Exists fun cert =>
    peerCertificate library peerCerts = .ok (cn, cert) ∧
    Exists fun early => Exists fun late => [early, late].Sublist turns ∧
      UnrevokedAt early index cert.serialText ∧ EnabledAt late index cn agentId

/-- The risk found last was an open one of the agent when the request found it. -/
def FoundIn (index : Nat) (memory : Memory) : Prop :=
  forall riskId, memory.found = some riskId -> Exists fun turn => turn ∈ turns ∧
    turn.index = index ∧ Exists fun row => row ∈ turn.pool.store.1.risks.rows ∧
      row.id = riskId ∧ row.agentId = memory.agentId ∧ row.status = .«open»

/-- An operation on behalf of the agent, which closes nothing but a risk that was
open and the agent's. -/
def OnBehalf (index : Nat) (agentId : Uuid) (op : Stmt ⊕ OrchestratorOp) : Prop :=
  Exists fun memory => memory.agentId = agentId ∧ ServesOwn memory op ∧
    FoundIn turns index memory

/-- What the request was told, it was told in its turns, in this order. -/
structure Admission.Holds (index : Nat) (cert : X509Certificate) (cn : String)
    (admission : Admission) : Prop where
  unrevoked : admission.unrevoked = true ->
    Exists fun turn => turn ∈ turns ∧ UnrevokedAt turn index cert.serialText
  admitted : forall memory, admission.served = some memory ->
    Exists fun early => Exists fun late => [early, late].Sublist turns ∧
      UnrevokedAt early index cert.serialText ∧
        EnabledAt late index cn memory.agentId
  found : forall memory, admission.served = some memory ->
    FoundIn turns index memory

end Seen

section Holds

variable {turns more : List ServerTurn} {index : Nat} {cert : X509Certificate}
  {cn : String}

theorem AdmittedIn.mono (grows : turns.Sublist more) {library : CertLibrary}
    {peerCerts : Option (List Der)} {agentId : Uuid}
    (admitted : AdmittedIn turns library peerCerts index agentId) :
    AdmittedIn more library peerCerts index agentId := by
  rcases admitted with ⟨cn, cert, peer, early, late, inOrder, unrevoked, enabled⟩
  exact ⟨cn, cert, peer, early, late, inOrder.trans grows, unrevoked, enabled⟩

theorem FoundIn.mono (grows : turns.Sublist more) {memory : Memory}
    (found : FoundIn turns index memory) : FoundIn more index memory := by
  intro riskId last
  rcases found riskId last with ⟨turn, member, risk⟩
  exact ⟨turn, grows.subset member, risk⟩

theorem Admission.Holds.mono (grows : turns.Sublist more) {admission : Admission}
    (holds : admission.Holds turns index cert cn) :
    admission.Holds more index cert cn := by
  refine ⟨?_, ?_, ?_⟩
  · intro told
    rcases holds.unrevoked told with ⟨turn, member, unrevoked⟩
    exact ⟨turn, grows.subset member, unrevoked⟩
  · intro memory served
    rcases holds.admitted memory served with ⟨early, late, inOrder, both⟩
    exact ⟨early, late, inOrder.trans grows, both⟩
  · intro memory served
    exact (holds.found memory served).mono grows

/-- What was found need not be remembered. -/
theorem Admission.Holds.forget {admission : Admission}
    (holds : admission.Holds turns index cert cn) :
    (⟨admission.unrevoked,
        admission.served.map fun memory => { memory with found := .none }⟩ :
      Admission).Holds turns index cert cn := by
  refine ⟨holds.unrevoked, ?_, ?_⟩
  · intro memory served
    rcases Option.map_eq_some_iff.mp served with ⟨before, servedBefore, rfl⟩
    exact holds.admitted before servedBefore
  · intro memory served riskId found
    rcases Option.map_eq_some_iff.mp served with ⟨before, _, rfl⟩
    cases found

/-- The last turn comes after each of those before. -/
theorem before_last {turn : ServerTurn} (last : ServerTurn)
    (member : turn ∈ turns) : [turn, last].Sublist (turns ++ [last]) :=
  (List.singleton_sublist.mpr member).append (List.Sublist.refl [last])

end Holds

/-- A statement of a turn fails, or is answered as its effect says. -/
theorem answered_cases (turn : ServerTurn) (stmt : Stmt) :
    let answer :=
      (Program.perform execServer turn.env (.inl stmt) turn.pool.store).1
    (Exists fun failure => answer = .error failure) ∨
      Exists fun value => Exists fun db =>
        stmt.effect turn.env.1 turn.pool.store.1 = .ok (value, db) ∧
          answer = .ok value := by
  dsimp only
  rw [Program.perform_inl]
  rcases perform_cases turn.env.1 stmt turn.pool.store.1 with
    ⟨failure, performed⟩ | ⟨value, db, _, effect, performed⟩
  · exact Or.inl ⟨failure, congrArg Prod.fst performed⟩
  · exact Or.inr ⟨value, db, effect, congrArg Prod.fst performed⟩

section Learns

variable {turns : List ServerTurn} {turn : ServerTurn} {index : Nat}
  {cert : X509Certificate} {cn : String} {admission : Admission}

theorem isRevoked_learns
    (asks : turn.Asks index (.inl (.isRevoked cert.serialText)))
    (holds : admission.Holds turns index cert cn) :
    (admission.note (.inl (.isRevoked cert.serialText))
      (Program.perform execServer turn.env (.inl (.isRevoked cert.serialText))
        turn.pool.store).1).Holds (turns ++ [turn]) index cert cn := by
  have kept := holds.mono (List.sublist_append_left turns [turn])
  rcases answered_cases turn (.isRevoked cert.serialText) with
    ⟨failure, answered⟩ | ⟨answer, db, effect, answered⟩
  · rw [answered]
    exact kept.forget
  · have read := (reading_same effect).2
    rw [isRevoked_of_clean (serialText_clean cert)] at read
    cases answer with
    | true =>
        rw [answered]
        exact kept.forget
    | false =>
        have unrevoked : UnrevokedAt turn index cert.serialText :=
          ⟨⟨asks, answered⟩, Except.ok.inj read⟩
        rw [answered]
        exact ⟨fun _ => ⟨turn, List.mem_concat_self, unrevoked⟩,
          kept.admitted, kept.found⟩

theorem getAgentByHostname_learns
    (asks : turn.Asks index (.inl (.getAgentByHostname cn)))
    (told : admission.unrevoked = true)
    (holds : admission.Holds turns index cert cn) :
    (admission.note (.inl (.getAgentByHostname cn))
      (Program.perform execServer turn.env (.inl (.getAgentByHostname cn))
        turn.pool.store).1).Holds (turns ++ [turn]) index cert cn := by
  have kept := holds.mono (List.sublist_append_left turns [turn])
  rcases answered_cases turn (.getAgentByHostname cn) with
    ⟨failure, answered⟩ | ⟨answer, db, effect, answered⟩
  · rw [answered]
    exact kept.forget
  cases answer with
  | none =>
      rw [answered]
      exact kept.forget
  | some row =>
      have found := getAgentByHostname_some (reading_same effect).2
      by_cases enabled : row.enabled = true
      · have named : EnabledAt turn index cn row.id :=
          ⟨row, ⟨asks, answered⟩, found.1, found.2, enabled, rfl⟩
        rcases holds.unrevoked told with ⟨early, member, unrevoked⟩
        rw [answered]
        show (admission.hear (.getAgentByHostname cn) (.ok (some row))).Holds
          (turns ++ [turn]) index cert cn
        rw [Admission.hear_enabled _ cn enabled]
        refine ⟨kept.unrevoked, ?_, ?_⟩
        · intro memory same
          rw [← Option.some.inj same]
          exact ⟨early, turn, before_last turn member, unrevoked, named⟩
        · intro memory same riskId last
          rw [← Option.some.inj same] at last
          cases last
      · have unheard : admission.hear (.getAgentByHostname cn) (.ok (some row)) =
            admission := by
          unfold Admission.hear
          exact if_neg enabled
        rw [answered]
        show (admission.hear (.getAgentByHostname cn) (.ok (some row))).Holds
          (turns ++ [turn]) index cert cn
        rw [unheard]
        exact kept

theorem own_learns {op : Stmt ⊕ OrchestratorOp} {memory : Memory}
    (asks : turn.Asks index op) (passed : admission.Passed memory)
    (own : ServesOwn memory op) (holds : admission.Holds turns index cert cn) :
    (admission.note op
      (Program.perform execServer turn.env op turn.pool.store).1).Holds
      (turns ++ [turn]) index cert cn := by
  have kept := holds.mono (List.sublist_append_left turns [turn])
  have later :=
    passed.note (Program.perform execServer turn.env op turn.pool.store).1 own
  refine ⟨fun _ => kept.unrevoked passed.1, ?_, ?_⟩
  · intro other served
    rw [later.2] at served
    rw [← Option.some.inj served, noteCall_agentId memory memory op _ rfl]
    exact kept.admitted memory passed.2
  · intro other served
    rw [later.2] at served
    rw [← Option.some.inj served]
    cases op with
    | inr op => exact kept.found memory passed.2
    | inl stmt =>
        intro riskId found
        rw [Program.perform_inl] at found
        have isOpen :=
          OwnCall.found_open own turn.env.1 turn.pool.store.1 riskId found
        exact ⟨turn, List.mem_concat_self, asks.mine, isOpen⟩

theorem admission_learns {op : Stmt ⊕ OrchestratorOp} (asks : turn.Asks index op)
    (allowed : admission.Allows cert.serialText cn op)
    (holds : admission.Holds turns index cert cn) :
    (admission.note op
      (Program.perform execServer turn.env op turn.pool.store).1).Holds
      (turns ++ [turn]) index cert cn := by
  rcases allowed with rfl | ⟨rfl, told⟩ | ⟨memory, passed, own⟩
  · exact isRevoked_learns asks holds
  · exact getAgentByHostname_learns asks told holds
  · exact own_learns asks passed own holds

theorem Admission.Holds.admittedIn {library : CertLibrary}
    {peerCerts : Option (List Der)}
    (peer : peerCertificate library peerCerts = .ok (cn, cert))
    (holds : admission.Holds turns index cert cn) {memory : Memory}
    (passed : admission.Passed memory) :
    AdmittedIn turns library peerCerts index memory.agentId :=
  ⟨cn, cert, peer, holds.admitted memory passed.2⟩

end Learns

/-- The request has been refused for its certificate, or knows what it was told in
its turns. -/
inductive Credited (turns : List ServerTurn) (library : CertLibrary)
    (peerCerts : Option (List Der)) (index : Nat) (pool : ServerPool) : Prop where
  | refused (failure : Fault Status)
      (ended : pool.threads[index]? = some (.fail failure))
  | told (cn : String) (cert : X509Certificate)
      (peer : peerCertificate library peerCerts = .ok (cn, cert))
      (told : pool.Told Admission.note (Admission.Allows cert.serialText cn)
        (fun admission _ => Exists fun memory => admission.Passed memory)
        (Admission.Holds turns index cert cn) index)

theorem Admission.none_holds (turns : List ServerTurn) (index : Nat)
    (cert : X509Certificate) (cn : String) :
    Admission.none.Holds turns index cert cn := by
  refine ⟨?_, ?_, ?_⟩
  · intro impossible
    cases impossible
  · intro memory impossible
    cases impossible
  · intro memory impossible
    cases impossible

theorem credited_start (turns : List ServerTurn) (service : ComplyxAgent)
    (library : CertLibrary) (peerCerts : Option (List Der)) (call : AgentCall)
    {pool : ServerPool} {index : Nat}
    (arrived : pool.threads[index]? =
      some (service.request library peerCerts call)) :
    Credited turns library peerCerts index pool := by
  cases peer : peerCertificate library peerCerts with
  | error status =>
      have refused :
          service.request library peerCerts call = .fail (.error status) := by
        rw [ComplyxAgent.request, authInterceptor, peer]
        rfl
      rw [refused] at arrived
      exact Credited.refused _ arrived
  | ok named =>
      rcases named with ⟨cn, cert⟩
      have nothing := Admission.none_holds turns index cert cn
      exact Credited.told cn cert peer
        ⟨_, _, arrived, request_earns library cn service call peer, nothing⟩

section Credited

variable {turns : List ServerTurn} {library : CertLibrary}
  {peerCerts : Option (List Der)}
  {index : Nat} {pool : ServerPool}

theorem credited_step (credited : Credited turns library peerCerts index pool)
    (label : Nat × (Env × Instant)) :
    Credited (turns ++ [⟨label.1, label.2, pool⟩]) library peerCerts index
      (pool.step execServer label) := by
  cases credited with
  | refused failure ended =>
      exact Credited.refused failure (Pool.step_failed ended label)
  | told cn cert peer told =>
      apply Credited.told cn cert peer
      apply Pool.told_turn label _ _ told
      · intro _ admission holds
        exact holds.mono (List.sublist_append_left turns _)
      · intro op admission asks allowed holds
        exact admission_learns asks allowed holds

theorem credited_after (credited : Credited turns library peerCerts index pool)
    (labels : List (Nat × (Env × Instant))) :
    Credited (turns ++ pool.turns execServer labels) library peerCerts index
      (after (Pool.step execServer) pool labels) := by
  induction labels generalizing pool turns with
  | nil =>
      rw [Pool.turns, List.append_nil]
      exact credited
  | cons label rest ih =>
      rw [Pool.turns, List.append_cons]
      exact ih (credited_step credited label)

/-- A request that arrives knows at any time what it was told in its turns. -/
theorem credited_run (service : ComplyxAgent) (call : AgentCall)
    (arrived : pool.threads[index]? =
      some (service.request library peerCerts call))
    (labels : List (Nat × (Env × Instant))) :
    Credited (pool.turns execServer labels) library peerCerts index
      (after (Pool.step execServer) pool labels) := by
  have start := credited_start [] service library peerCerts call arrived
  have credited := credited_after start labels
  rw [List.nil_append] at credited
  exact credited

/-- A request is answered only if it was admitted in its turns. -/
theorem Credited.returned (credited : Credited turns library peerCerts index pool)
    {reply : AgentReply} (ended : pool.returned index = some reply) :
    Exists fun agentId => AdmittedIn turns library peerCerts index agentId := by
  cases credited with
  | refused failure failed =>
      have done := Pool.returned_some ended
      rw [failed] at done
      cases done
  | told cn cert peer told =>
      rcases told.returned ended with ⟨admission, ⟨memory, passed⟩, holds⟩
      exact ⟨memory.agentId, holds.admittedIn peer passed⟩

/-- A request acts for an agent only if it was admitted as this agent. -/
theorem Credited.turn (credited : Credited turns library peerCerts index pool)
    {op : Stmt ⊕ OrchestratorOp}
    {next : Except DbError (Sum.elim Stmt.Res OrchestratorOp.Res op) ->
      ServerCode (Fault Status) AgentReply}
    (turn : pool.threads[index]? = some (.call op next)) :
    InterceptorRead op ∨ Exists fun agentId =>
      OnBehalf turns index agentId op ∧
      AdmittedIn turns library peerCerts index agentId := by
  cases credited with
  | refused failure failed =>
      rw [failed] at turn
      cases turn
  | told cn cert peer told =>
      rcases told.turn turn with
        ⟨admission, rfl | ⟨rfl, _⟩ | ⟨memory, passed, own⟩, holds⟩
      · exact Or.inl (InterceptorRead.isRevoked _)
      · exact Or.inl (InterceptorRead.getAgentByHostname cn)
      · have behalf : OnBehalf turns index memory.agentId op :=
          ⟨memory, rfl, own, holds.found memory passed.2⟩
        exact Or.inr ⟨memory.agentId, behalf, holds.admittedIn peer passed⟩

end Credited

/-- Two heartbeats of `web-01`, the first of which is answered after the second
was started. -/
def heartbeatPool : ServerPool where
  threads := [⟨"", 0⟩, ⟨"", 1⟩].map fun request =>
    nightService.request recordedContext.library (some [webRecord.der])
      (.heartbeat request newYear)
  store := (sharedDb, Orchestrator.new 90)

def heartbeatTurns : List (Nat × (Env × Instant)) :=
  [0, 1, 0, 0, 1, 0].map fun index => (index, quietly 51 0, 5)

end Complyx
