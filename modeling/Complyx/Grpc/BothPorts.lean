import Complyx.Grpc.Attribution
import Complyx.Grpc.EnrollService

namespace Complyx

open Relational Transition

/-!
# Both ports at once

The main port serves agents that show a certificate, the enrolment port serves
whoever has a token.  The enrolment port registers every agent under one constant
address and signs for whatever agent is registered there.  Requests on either port
can therefore change who an agent is only where the agent is registered under this
address; and they change nothing of the policies, their assignments and the
groups.
-/

/-- A request on one of the two ports. -/
inductive PortCall where
  | main (peerCerts : Option (List Der)) (call : AgentCall)
  | enroll (rpc : EnrollRpc)

inductive PortReply where
  | main (reply : AgentReply)
  | enrolled (response : EnrollResponse)

/-- What serves the two ports. -/
structure ServerPorts where
  agents : ComplyxAgent
  library : CertLibrary
  enrolment : EnrollServiceImpl

abbrev PortPool := Pool (Sum.elim Stmt.Res OrchestratorOp.Res) DbError
    (Fault Status) PortReply Server

namespace ServerPorts

variable (ports : ServerPorts)

def serve : PortCall -> ServerCode (Fault Status) PortReply
  | .main peerCerts call => do
      let reply <- ports.agents.request ports.library peerCerts call
      return .main reply
  | .enroll rpc => do
      let response <- (ports.enrolment.enroll rpc).beside
      return .enrolled response

/-- The requests, none of them started. -/
def arriving (calls : List PortCall) (server : Server) : PortPool where
  threads := calls.map ports.serve
  store := server

end ServerPorts

/-! ## What an enrolment issues -/

section Enrolment

variable (enrolment : EnrollServiceImpl)

/-- The agent is registered under the address of the enrolment port. -/
def AgentRow.AtPort (row : AgentRow) : Prop :=
  enrolment.ctx.parseIp remoteIp = .ok row.ip

/-- The agent that an enrolment was last told it has registered. -/
def noteRegistered (known : Option Uuid) : (op : Stmt ⊕ OrchestratorOp) ->
    Except DbError (Sum.elim Stmt.Res OrchestratorOp.Res op) -> Option Uuid
  | .inl (.upsertAgent _), .ok agentId => some agentId
  | _, _ => known

/-- What a request on either port may issue. -/
inductive PortOp (known : Option Uuid) : Stmt ⊕ OrchestratorOp -> Prop where
  | main (op : Stmt ⊕ OrchestratorOp) (issued : RequestOp op) : PortOp known op
  | find (tokenHash : String) : PortOp known (.inl (.findEnrollToken tokenHash))
  | consume (tokenId : Uuid) : PortOp known (.inl (.consumeEnrollToken tokenId))
  | register (data : UpsertAgentData)
      (constant : enrolment.ctx.parseIp remoteIp = .ok data.ip) :
      PortOp known (.inl (.upsertAgent data))
  | certify (agentId : Uuid) (certPem serial : String)
      (registered : known = some agentId) :
      PortOp known (.inl (.storeCert agentId certPem serial))

variable {enrolment}

theorem registerAndSign_follows (rpc : EnrollRpc) (known : Option Uuid) :
    (registerAndSign enrolment.ctx (enrolment.call rpc)).Follows
      (fun known stmt answer => noteRegistered known (.inl stmt) answer)
      (fun known stmt => PortOp enrolment known (.inl stmt)) known := by
  unfold registerAndSign
  cases parsed : enrolment.ctx.address (enrolment.call rpc) with
  | error failure => trivial
  | ok ip =>
      rw [Program.lift_ok, Program.done_bind]
      refine Program.follows_attempt_bind _
        (PortOp.register _ (mapError_ok parsed)) fun agentId => ?_
      cases enrolment.ctx.sign (enrolment.call rpc) with
      | error failure => trivial
      | ok signed =>
          rw [Program.lift_ok, Program.done_bind]
          exact Program.follows_attempt_bind _
            (PortOp.certify agentId signed.1 signed.2 rfl) fun _ => trivial

theorem enroll_follows (rpc : EnrollRpc) (known : Option Uuid) :
    (enrolment.enroll rpc).Follows
    (fun known stmt answer => noteRegistered known (.inl stmt) answer)
    (fun known stmt => PortOp enrolment known (.inl stmt)) known := by
  refine Program.follows_bind (Program.follows_mapError _ ?_) fun _ _ => trivial
  rw [processEnroll_eq]
  refine Program.follows_attempt_bind _ (PortOp.find _) fun found => ?_
  cases checkToken (enrolment.call rpc).checkedAt found with
  | error failure => trivial
  | ok row =>
      rw [Program.lift_ok, Program.done_bind]
      exact Program.follows_attempt_bind _ (PortOp.consume row.id) fun _ =>
        registerAndSign_follows rpc _

theorem serve_follows (ports : ServerPorts) (call : PortCall)
    (known : Option Uuid) :
    (ports.serve call).Follows noteRegistered (PortOp ports.enrolment) known := by
  cases call with
  | main peerCerts call =>
      refine Program.follows_bind ?_ fun _ _ => trivial
      have issues := request_issues ports.agents ports.library peerCerts call
      have kept : forall known op answer, (fun _ : Option Uuid => True) known ->
          (fun _ : Option Uuid => True) (noteRegistered known op answer) :=
            fun _ _ _ _ => trivial
      exact Program.follows_of_issues kept
        (fun known op _ issued => PortOp.main op issued) trivial issues
  | enroll rpc =>
      exact Program.follows_bind
        (Program.follows_beside (enroll_follows rpc known)) fun _ _ => trivial

end Enrolment

/-! ## What both ports leave alone -/

/-- The token is as it was, or has been spent, perhaps once more. -/
def Spends (old new : EnrollTokenRow) : Prop :=
  new = old ∨ Exists fun usedAt => new = { old with usedAt := some usedAt }

/-- Only the agent at the address of the enrolment port changes its name or its
certificate, no agent is added elsewhere, and none is removed, enabled or disabled.
Tokens are spent, and nothing of the policies, assignments, groups and threats
changes. -/
structure PortConfined (enrolment : EnrollServiceImpl) (db db' : Db) : Prop where
  frame : db' = { db with
    agents := db'.agents, agentCerts := db'.agentCerts,
    enrollTokens := db'.enrollTokens, risks := db'.risks
    checkResults := db'.checkResults, complianceScores := db'.complianceScores }
  kept : forall row, row ∈ db.agents.rows -> Exists fun row' =>
    row' ∈ db'.agents.rows ∧ row'.id = row.id ∧
    row'.ip = row.ip ∧ row'.enabled = row.enabled ∧
      (¬ row.AtPort enrolment -> row'.unconnected = row.unconnected)
  added : forall row', row' ∈ db'.agents.rows -> ¬ row'.AtPort enrolment ->
    Exists fun row => row ∈ db.agents.rows ∧ row.unconnected = row'.unconnected
  certs : forall row, row ∈ db.agents.rows -> ¬ row.AtPort enrolment ->
    forall cert, cert.agentId = row.id ->
    (cert ∈ db'.agentCerts.rows <-> cert ∈ db.agentCerts.rows)
  spent : forall old, old ∈ db.enrollTokens.rows -> Exists fun new =>
    new ∈ db'.enrollTokens.rows ∧ Spends old new
  issued : forall new, new ∈ db'.enrollTokens.rows -> Exists fun old =>
    old ∈ db.enrollTokens.rows ∧ Spends old new

section Confined

variable {enrolment : EnrollServiceImpl} {db db' : Db}

theorem Spends.trans {first second third : EnrollTokenRow}
    (early : Spends first second) (late : Spends second third) :
    Spends first third := by
  rcases early with rfl | ⟨_, rfl⟩
  · exact late
  · rcases late with rfl | ⟨usedAt, rfl⟩
    · exact Or.inr ⟨_, rfl⟩
    · exact Or.inr ⟨usedAt, rfl⟩

theorem AgentRow.atPort_of_ip {first second : AgentRow}
    (same : first.ip = second.ip) :
    first.AtPort enrolment <-> second.AtPort enrolment := by
  rw [AtPort, AtPort, same]

theorem AgentRow.fields_of_unconnected {first second : AgentRow}
    (same : first.unconnected = second.unconnected) :
    first.id = second.id ∧ first.ip = second.ip ∧
      first.enabled = second.enabled := by
  have parts := AgentRow.mk.inj same
  exact ⟨parts.1, parts.2.1, parts.2.2.2.2.2.2.2⟩

theorem PortConfined.trans {first second third : Db}
    (early : PortConfined enrolment first second)
    (late : PortConfined enrolment second third) :
    PortConfined enrolment first third where
  frame := by
    rw [late.frame, early.frame]
  kept := by
    intro row member
    rcases early.kept row member with
      ⟨middle, present, sameId, sameIp, sameEnabled, unnamed⟩
    rcases late.kept middle present with
      ⟨last, present', sameId', sameIp', sameEnabled', unnamed'⟩
    refine ⟨last, present', sameId'.trans sameId, sameIp'.trans sameIp,
      sameEnabled'.trans sameEnabled, ?_⟩
    intro elsewhere
    have still := mt (AgentRow.atPort_of_ip sameIp).mp elsewhere
    exact (unnamed' still).trans (unnamed elsewhere)
  added := by
    intro last present elsewhere
    rcases late.added last present elsewhere with ⟨middle, present', same⟩
    have still :=
      mt
        (AgentRow.atPort_of_ip (AgentRow.fields_of_unconnected same).2.1).mp
        elsewhere
    rcases early.added middle present' still with ⟨row, member, same'⟩
    exact ⟨row, member, same'.trans same⟩
  certs := by
    intro row member elsewhere cert own
    rcases early.kept row member with ⟨middle, present, sameId, sameIp, _⟩
    have still := mt (AgentRow.atPort_of_ip sameIp).mp elsewhere
    have later := late.certs middle present still cert (own.trans sameId.symm)
    exact later.trans (early.certs row member elsewhere cert own)
  spent := by
    intro old member
    rcases early.spent old member with ⟨middle, present, spends⟩
    rcases late.spent middle present with ⟨new, present', spends'⟩
    exact ⟨new, present', spends.trans spends'⟩
  issued := by
    intro new member
    rcases late.issued new member with ⟨middle, present, spends⟩
    rcases early.issued middle present with ⟨old, present', spends'⟩
    exact ⟨old, present', spends'.trans spends⟩

/-- What changes neither agents nor certificates nor tokens. -/
theorem PortConfined.of_unprivileged (kept : Unprivileged db db') :
    PortConfined enrolment db db' := by
  have tokens : db'.enrollTokens = db.enrollTokens := by
    rw [kept.frame]
  have certs : db'.agentCerts = db.agentCerts := by
    rw [kept.frame]
  have moved : forall {first second : List AgentRow},
      first.map AgentRow.unconnected = second.map AgentRow.unconnected ->
        forall row, row ∈ second ->
        Exists fun row' => row' ∈ first ∧ row'.unconnected = row.unconnected := by
    intro first second same row member
    have listed := List.mem_map_of_mem (f := AgentRow.unconnected) member
    rw [← same] at listed
    exact List.mem_map.mp listed
  refine ⟨?_, ?_, ?_, ?_, ?_, ?_⟩
  · rw [kept.frame]
  · intro row member
    rcases moved kept.agents row member with ⟨row', present, same⟩
    have fields := AgentRow.fields_of_unconnected same
    exact ⟨row', present, fields.1, fields.2.1, fields.2.2, fun _ => same⟩
  · intro row' member _
    exact moved kept.agents.symm row' member
  · intro row _ _ cert _
    rw [certs]
  · intro old member
    rw [tokens]
    exact ⟨old, member, Or.inl rfl⟩
  · intro new member
    rw [tokens] at member
    exact ⟨new, member, Or.inl rfl⟩

theorem PortConfined.rfl : PortConfined enrolment db db :=
      PortConfined.of_unprivileged Unprivileged.rfl

/-- The agent is there, under the address of the enrolment port. -/
def RegisteredAt (enrolment : EnrollServiceImpl) (db : Db)
    (agentId : Uuid) : Prop :=
  Exists fun row => row ∈ db.agents.rows ∧ row.id = agentId ∧ row.AtPort enrolment

theorem PortConfined.registered (confined : PortConfined enrolment db db')
    {agentId : Uuid} (registered : RegisteredAt enrolment db agentId) :
    RegisteredAt enrolment db' agentId := by
  rcases registered with ⟨row, member, here, at_port⟩
  rcases confined.kept row member with ⟨row', present, sameId, sameIp, _⟩
  exact ⟨row', present, sameId.trans here,
    (AgentRow.atPort_of_ip sameIp).mpr at_port⟩

end Confined

/-! ## The statements of an enrolment -/

section Statements

variable {enrolment : EnrollServiceImpl} {env : Env} {db db' : Db}
  {agentId : Uuid}

/-- A registration keeps every agent enabled or disabled as it was. -/
theorem upsertAgent_keeps {data : UpsertAgentData}
    (accepted : upsertAgent env data db = .ok (agentId, db')) {old : AgentRow}
    (member : old ∈ db.agents.rows) :
    Exists fun row => row ∈ db'.agents.rows ∧ row.id = old.id ∧
      row.ip = old.ip ∧ row.enabled = old.enabled := by
  rcases upsertAgent_cases accepted with ⟨change, rows, same⟩ | ⟨new, rows, _⟩
  · rw [rows]
    refine ⟨_, List.mem_map_of_mem member, ?_⟩
    split
    · exact same old
    · exact ⟨rfl, rfl, rfl⟩
  · rw [rows]
    exact ⟨old, List.mem_append_left _ member, rfl, rfl, rfl⟩

theorem register_confined {data : UpsertAgentData}
    (constant : enrolment.ctx.parseIp remoteIp = .ok data.ip)
    (accepted : upsertAgent env data db = .ok (agentId, db')) :
    PortConfined enrolment db db' ∧ RegisteredAt enrolment db' agentId := by
  rcases upsertAgent_registered accepted with
    ⟨frame, ⟨new, newId, newIp, _, rows⟩, _⟩
  have at_port : forall row : AgentRow, row.ip = data.ip ->
      row.AtPort enrolment := by
    intro row here
    rw [AgentRow.AtPort, here]
    exact constant
  have tokens : db'.enrollTokens = db.enrollTokens := by
    rw [frame]
  have certs : db'.agentCerts = db.agentCerts := by
    rw [frame]
  refine ⟨⟨?_, ?_, ?_, ?_, ?_, ?_⟩, new, (rows new).mpr (Or.inr rfl), newId,
    at_port new newIp⟩
  · rw [frame]
  · intro row member
    by_cases here : row.ip = data.ip
    · rcases upsertAgent_keeps accepted member with
        ⟨row', present, sameId, sameIp, sameEnabled⟩
      exact ⟨row', present, sameId, sameIp, sameEnabled, fun elsewhere =>
        absurd (at_port row here) elsewhere⟩
    · exact ⟨row, (rows row).mpr (Or.inl ⟨member, here⟩), rfl, rfl, rfl,
        fun _ => rfl⟩
  · intro row' member elsewhere
    rcases (rows row').mp member with ⟨before, _⟩ | same
    · exact ⟨row', before, rfl⟩
    · rw [same] at elsewhere
      exact absurd (at_port new newIp) elsewhere
  · intro row _ _ cert _
    rw [certs]
  · intro old member
    rw [tokens]
    exact ⟨old, member, Or.inl rfl⟩
  · intro token member
    rw [tokens] at member
    exact ⟨token, member, Or.inl rfl⟩

theorem certify_confined {certPem serial : String}
    (registered : RegisteredAt enrolment db agentId)
    (accepted : storeCert env agentId certPem serial db = .ok ((), db')) :
    PortConfined enrolment db db' := by
  rcases storeCert_stored accepted with ⟨frame, stored, _, ⟨rows⟩⟩
  have agents : db'.agents = db.agents := by
    rw [frame]
  have tokens : db'.enrollTokens = db.enrollTokens := by
    rw [frame]
  refine ⟨?_, ?_, ?_, ?_, ?_, ?_⟩
  · rw [frame]
  · intro row member
    rw [agents]
    exact ⟨row, member, rfl, rfl, rfl, fun _ => rfl⟩
  · intro row' member _
    rw [agents] at member
    exact ⟨row', member, rfl⟩
  · intro row member elsewhere cert own
    have apart : cert.agentId ≠ agentId := by
      -- the certificate of the agent at the port goes to the row with its identifier
      rintro same
      rcases registered with ⟨other, present, here, at_port⟩
      have sameRow :=
        Table.eq_of_key AgentRow.id_separates db.agents member present
          (own.symm.trans (same.trans here.symm))
      rw [sameRow] at elsewhere
      exact elsewhere at_port
    rw [rows]
    constructor
    · rintro (⟨before, _⟩ | new)
      · exact before
      · rw [new] at apart
        exact absurd rfl apart
    · intro before
      exact Or.inl ⟨before, apart⟩
  · intro old member
    rw [tokens]
    exact ⟨old, member, Or.inl rfl⟩
  · intro token member
    rw [tokens] at member
    exact ⟨token, member, Or.inl rfl⟩

theorem consume_confined (tokenId : Uuid) :
    PortConfined enrolment db (consumeEnrollToken env tokenId db) := by
  have spends : forall old : EnrollTokenRow,
      Spends old (if old.id = tokenId then { old with usedAt := some env.now }
        else old) := by
    intro old
    split
    · exact Or.inr ⟨env.now, rfl⟩
    · exact Or.inl rfl
  refine ⟨rfl, ?_, ?_, fun _ _ _ _ _ => Iff.rfl, ?_, ?_⟩
  · intro row member
    exact ⟨row, member, rfl, rfl, rfl, fun _ => rfl⟩
  · intro row' member _
    exact ⟨row', member, rfl⟩
  · intro old member
    exact ⟨_, mem_consumeEnrollToken.mpr ⟨old, member, rfl⟩, spends old⟩
  · intro new member
    rcases mem_consumeEnrollToken.mp member with ⟨old, present, same⟩
    rw [same]
    exact ⟨old, present, spends old⟩

/-- What a request on either port does next. -/
theorem PortOp.confined {known : Option Uuid} {op : Stmt ⊕ OrchestratorOp}
    (issued : PortOp enrolment known op) (env : Env × Instant) {server : Server}
    (registered : forall agentId, known = some agentId ->
      RegisteredAt enrolment server.1 agentId) :
    PortConfined enrolment server.1
      (Program.perform execServer env op server).2.1 ∧
    forall agentId,
      noteRegistered known op (Program.perform execServer env op server).1 =
        some agentId ->
      RegisteredAt enrolment (Program.perform execServer env op server).2.1
        agentId := by
  have unlearnt :
      PortConfined enrolment server.1
        (Program.perform execServer env op server).2.1 ->
      noteRegistered known op (Program.perform execServer env op server).1 =
        known ->
      PortConfined enrolment server.1
        (Program.perform execServer env op server).2.1 ∧
      forall agentId,
        noteRegistered known op (Program.perform execServer env op server).1 =
        some agentId ->
        RegisteredAt enrolment (Program.perform execServer env op server).2.1
          agentId := by
    intro confined same
    refine ⟨confined, fun agentId last => ?_⟩
    rw [same] at last
    exact confined.registered (registered agentId last)
  cases issued with
  | main op issued =>
      refine unlearnt
        (PortConfined.of_unprivileged (issued.unprivileged env server)) ?_
      rcases issued with read | ⟨memory, own⟩
      · cases read <;> rfl
      · cases op with
        | inl stmt =>
            have call : OwnCall memory stmt := own
            cases call with
            | read stmt reads => cases reads <;> rfl
            | _ => rfl
        | inr op => rfl
  | find tokenHash =>
      refine unlearnt ?_ rfl
      rw [Program.perform_inl]
      rcases perform_cases env.1 (.findEnrollToken tokenHash) server.1 with
        ⟨_, performed⟩ | ⟨_, _, _, effect, performed⟩
      · rw [performed]
        exact PortConfined.rfl
      · rw [performed, (reading_same effect).1]
        exact PortConfined.rfl
  | consume tokenId =>
      refine unlearnt ?_ rfl
      rw [Program.perform_inl]
      rcases perform_total
          (show (Stmt.consumeEnrollToken tokenId).effect env.1 server.1 =
            .ok ((), _) from rfl) with
        struck | consumed
      · rw [struck]
        exact PortConfined.rfl
      · rw [consumed]
        exact consume_confined tokenId
  | register data constant =>
      rcases perform_cases env.1 (.upsertAgent data) server.1 with
        ⟨failure, performed⟩ | ⟨agentId, db', _, effect, performed⟩
      · refine unlearnt ?_ ?_ <;> rw [Program.perform_inl, performed]
        · exact PortConfined.rfl
        · rfl
      · have done := register_confined constant effect
        rw [Program.perform_inl, performed]
        refine ⟨done.1, fun last same => ?_⟩
        rw [← Option.some.inj same]
        exact done.2
  | certify agentId certPem serial last =>
      refine unlearnt ?_ rfl
      rw [Program.perform_inl]
      rcases perform_cases env.1 (.storeCert agentId certPem serial) server.1 with
        ⟨_, performed⟩ | ⟨_, _, _, effect, performed⟩
      · rw [performed]
        exact PortConfined.rfl
      · rw [performed]
        exact certify_confined (registered agentId last) effect

end Statements

/-! ## Runs -/

section Runs

variable {ports : ServerPorts}

/-- Every request knows the agent it has registered, and the database is
confined. -/
structure PortsKeep (ports : ServerPorts) (start : Db) (pool : PortPool)
    (known : Nat -> Option Uuid) : Prop where
  follows : pool.Follows noteRegistered (PortOp ports.enrolment) known
  registered : forall index agentId, known index = some agentId ->
    RegisteredAt ports.enrolment pool.store.1 agentId
  confined : PortConfined ports.enrolment start pool.store.1

theorem portsKeep_step {start : Db} {pool : PortPool} {known : Nat -> Option Uuid}
    (keep : PortsKeep ports start pool known) (label : Nat × (Env × Instant)) :
    PortsKeep ports start (pool.step execServer label)
      (pool.learn noteRegistered execServer label known) := by
  have follows :
      (pool.step execServer label).Follows noteRegistered (PortOp ports.enrolment)
      (pool.learn noteRegistered execServer label known) :=
        Pool.follows_step pool label keep.follows
  rcases Pool.step_cases execServer pool label with
    ⟨idle, same⟩ | ⟨op, next, turn, stepped⟩
  · rw [Pool.learn_idle idle] at follows ⊢
    rw [same] at follows ⊢
    exact keep
  · have done := (keep.follows.turn turn).confined label.2 (keep.registered label.1)
    refine ⟨follows, ?_, ?_⟩
    · intro index agentId last
      rw [Pool.learn_call turn] at last
      rw [stepped]
      by_cases here : index = label.1
      · rw [here, Function.update_self] at last
        exact done.2 agentId last
      · rw [Function.update_of_ne here] at last
        exact done.1.registered (keep.registered index agentId last)
    · rw [stepped]
      exact keep.confined.trans done.1

theorem portsKeep_run {start : Db} {pool : PortPool} {known : Nat -> Option Uuid}
    (keep : PortsKeep ports start pool known)
    (labels : List (Nat × (Env × Instant))) :
    Exists fun known =>
      PortsKeep ports start (after (Pool.step execServer) pool labels) known := by
  induction labels generalizing pool known with
  | nil => exact ⟨known, keep⟩
  | cons label rest ih => exact ih (portsKeep_step keep label)

end Runs

/-- However requests on the two ports run beside each other, they take over,
rename or certify no agent but the one at the constant address, enable and disable
none, bring back no token, and leave policies, assignments and groups alone. -/
theorem ports_confined (ports : ServerPorts) (calls : List PortCall)
    (server : Server) (labels : List (Nat × (Env × Instant))) :
    PortConfined ports.enrolment server.1
      (after (Pool.step execServer)
        (ports.arriving calls server) labels).store.1 := by
  have nobody :
      PortsKeep ports server.1 (ports.arriving calls server) fun _ => none := by
    refine ⟨?_, ?_, PortConfined.rfl⟩
    · intro index program present
      rcases List.mem_map.mp (List.mem_of_getElem? present) with ⟨call, _, same⟩
      rw [← same]
      exact serve_follows ports call none
    · intro index agentId impossible
      cases impossible
  rcases portsKeep_run nobody labels with ⟨known, keep⟩
  exact keep.confined

end Complyx
