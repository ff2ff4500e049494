import Complyx.Grpc.BothPorts
import Complyx.Grpc.Lockout
import Complyx.Lifecycle.IdentityBinding
import Complyx.Lifecycle.SerialAgreement
import Complyx.Transition.Bounded

namespace Complyx

open Transition Relational

/-!
# An enrolled agent gets in

Whoever enrolls under a name nobody else has is let in with the certificate handed
out, and served as the agent that was registered.  This lasts until a statement
turns the agent away: its row is disabled or deleted, its certificate's serial is
marked revoked, or a registration gives its name to another row or another name to
its row.  Everything else may go on beside the request, from its arrival on.
-/

/-- The name leads to the agent and to nobody else, the agent is enabled, and the
serial is not revoked. -/
structure Standing (cn serial : String) (agentId : Uuid) (db : Db) : Prop where
  clean : hasNul cn = false
  named : Exists fun row => row ∈ db.agents.rows ∧ row.hostname = some cn
  own : forall row, row ∈ db.agents.rows -> row.hostname = some cn ->
    row.id = agentId ∧ row.enabled = true
  unrevoked : revoked serial db = false

/-- The statement may turn the agent away.  A registration may not when it gives the
name to the agent's own address, or another name to another address. -/
def Stmt.TurnsAway (cn serial : String) (agentId : Uuid) (db : Db) : Stmt -> Prop
  | .setEnabled other enabled => other = agentId ∧ enabled = false
  | .deleteAgent other => other = agentId
  | .revokeCert other =>
      Exists fun row => row ∈ db.agentCerts.rows ∧ row.serial = serial ∧
        row.agentId = other
  | .upsertAgent data =>
      ¬ (data.hostname = some cn <-> Exists fun row => row ∈ db.agents.rows ∧
        row.id = agentId ∧ row.ip = data.ip)
  | _ => False

instance (cn serial : String) (agentId : Uuid) (db : Db) (stmt : Stmt) :
    Decidable (stmt.TurnsAway cn serial agentId db) :=
  match stmt with
  | .setEnabled other enabled =>
      (inferInstance : Decidable (other = agentId ∧ enabled = false))
  | .deleteAgent other => (inferInstance : Decidable (other = agentId))
  | .revokeCert other =>
      (inferInstance : Decidable (Exists fun row =>
        row ∈ db.agentCerts.rows ∧ row.serial = serial ∧ row.agentId = other))
  | .upsertAgent data =>
      (inferInstance : Decidable (¬ (data.hostname = some cn <-> Exists fun row =>
        row ∈ db.agents.rows ∧ row.id = agentId ∧ row.ip = data.ip)))
  | .getAgentByHostname _ | .storeCert _ _ _ | .getCert _ | .isRevoked
      _ | .findEnrollToken _
  | .consumeEnrollToken _ | .validateCheckIdsForAgent _ _ | .insertCheckResults
      _ | .upsertComplianceScores _
  | .listThreats | .findOpenRisk _ _ | .insertRisk _ | .setRiskStatus _
      _ | .updateLatestConnection _
  | .getDirectPoliciesForAgent _ | .getAgentGroupIds _ | .getPoliciesForGroups
      _ | .getPolicy _
  | .getElementsForPolicy _ | .getChecksForPolicy _ | .getRemediationsForPolicy _
  | .getRegulationSectionsForPolicy _ => (inferInstance : Decidable False)

/-! ## One statement -/

section Statement

variable {env : Env} {cn serial : String} {agentId : Uuid} {db db' : Db}

/-- Only the names, identifiers and switches of the agents count, and the
serials. -/
theorem Standing.of_rows (standing : Standing cn serial agentId db)
    (forwards : forall old, old ∈ db.agents.rows -> old.hostname = some cn ->
      Exists fun row => row ∈ db'.agents.rows ∧ row.hostname = some cn)
    (backwards : forall row, row ∈ db'.agents.rows -> row.hostname = some cn ->
      Exists fun old => old ∈ db.agents.rows ∧ old.hostname = some cn ∧
        row.id = old.id ∧
        (old.enabled = true -> row.enabled = true))
    (certs : revoked serial db' = false) : Standing cn serial agentId db' := by
  refine ⟨standing.clean, ?_, ?_, certs⟩
  · rcases standing.named with ⟨old, member, named⟩
    exact forwards old member named
  · intro row member named
    rcases backwards row member named with
      ⟨old, present, oldNamed, sameId, enabled⟩
    have parts := standing.own old present oldNamed
    exact ⟨sameId.trans parts.1, enabled parts.2⟩

theorem Standing.of_agents (standing : Standing cn serial agentId db)
    (agents : db'.agents = db.agents) (certs : revoked serial db' = false) :
    Standing cn serial agentId db' := by
  refine standing.of_rows ?_ ?_ certs <;> rw [agents]
  · intro old member named
    exact ⟨old, member, named⟩
  · intro row member named
    exact ⟨row, member, named, rfl, id⟩

/-- A serial that is not revoked becomes so by being marked only. -/
theorem unrevoked_of_rows (unrevoked : revoked serial db = false)
    (rows : forall row, row ∈ db'.agentCerts.rows -> row.serial = serial ->
      row.revokedAt.isSome = true ->
      Exists fun old => old ∈ db.agentCerts.rows ∧ old.serial = serial ∧
        old.revokedAt.isSome = true) :
    revoked serial db' = false := by
  rw [Bool.eq_false_iff]
  intro marked
  rcases revoked_iff.mp marked with ⟨row, member, same, set⟩
  rw [revoked_iff.mpr (rows row member same set)] at unrevoked
  cases unrevoked

theorem unrevoked_of_same (unrevoked : revoked serial db = false)
    (same : db'.agentCerts = db.agentCerts) :
    revoked serial db' = false := by
  apply unrevoked_of_rows unrevoked
  intro row member named set
  rw [same] at member
  exact ⟨row, member, named, set⟩

theorem storeCert_unrevoked {owner : Uuid} {certPem stored : String}
    (unrevoked : revoked serial db = false)
    (accepted : storeCert env owner certPem stored db = .ok ((), db')) :
    revoked serial db' = false := by
  rcases storeCert_stored accepted with ⟨_, text, _, effect⟩
  apply unrevoked_of_rows unrevoked
  intro row member named set
  rcases (effect.rows row).mp member with ⟨before, _⟩ | fresh
  · exact ⟨row, before, named, set⟩
  · rw [fresh] at set
    cases set

/-- A registration that neither takes the name nor changes it. -/
theorem upsertAgent_standing {data : UpsertAgentData} {registered : Uuid}
    (standing : Standing cn serial agentId db)
    (accepted : upsertAgent env data db = .ok (registered, db'))
    (matching : data.hostname = some cn <->
      Exists fun row => row ∈ db.agents.rows ∧ row.id = agentId ∧
        row.ip = data.ip) :
    Standing cn serial agentId db' := by
  rcases upsertAgent_registered accepted with
    ⟨frame, ⟨new, newId, newIp, newName, rows⟩, kept⟩
  have certs : db'.agentCerts = db.agentCerts := by
    rw [frame]
  have unrevoked := unrevoked_of_same standing.unrevoked certs
  rcases standing.named with ⟨present, presentMember, presentNamed⟩
  have presentOwn := standing.own present presentMember presentNamed
  refine standing.of_rows ?_ ?_ unrevoked
  · intro old member named
    by_cases here : old.ip = data.ip
    · have mine := (standing.own old member named).1
      have taken := matching.mpr ⟨old, member, mine, here⟩
      exact ⟨new, (rows new).mpr (Or.inr rfl), newName.trans taken⟩
    · exact ⟨old, (rows old).mpr (Or.inl ⟨member, here⟩), named⟩
  · intro row member named
    rcases (rows row).mp member with ⟨before, _⟩ | same
    · exact ⟨row, before, named, rfl, id⟩
    -- The row at the address has the name, so it is the agent's own and keeps its
    -- switch.
    rw [same] at member named ⊢
    rcases matching.mp (newName.symm.trans named) with
      ⟨old, oldMember, oldId, oldIp⟩
    have sameRow :=
      Table.eq_of_key AgentRow.id_separates db.agents oldMember presentMember
        (oldId.trans presentOwn.1.symm)
    have oldNamed : old.hostname = some cn := by
      rw [sameRow]
      exact presentNamed
    have newOld : new.id = old.id := newId.trans (kept old oldMember oldIp).symm
    refine ⟨old, oldMember, oldNamed, newOld, ?_⟩
    rcases upsertAgent_keeps accepted oldMember with
      ⟨row', rowMember, rowId, _, rowEnabled⟩
    have sameNew :=
      Table.eq_of_key AgentRow.id_separates db'.agents member rowMember
        (newOld.trans rowId.symm)
    intro enabled
    rw [sameNew, rowEnabled]
    exact enabled

theorem perform_standing (stmt : Stmt) (standing : Standing cn serial agentId db)
    (harmless : ¬ stmt.TurnsAway cn serial agentId db) :
    Standing cn serial agentId (Program.perform exec env stmt db).2 := by
  have frame := perform_frame env stmt db
  rcases perform_cases env stmt db with
    ⟨_, performed⟩ | ⟨value, db', _, effect, performed⟩
  · rw [performed]
    exact standing
  rw [performed] at frame ⊢
  cases stmt with
  | upsertAgent data =>
      exact upsertAgent_standing standing effect (Decidable.not_not.mp harmless)
  | setEnabled other enabled =>
      cases effect
      refine standing.of_rows ?_ ?_ (unrevoked_of_same standing.unrevoked rfl)
      · intro old member named
        refine ⟨_, List.mem_map_of_mem member, ?_⟩
        split <;> exact named
      · intro row member named
        rcases List.mem_map.mp member with ⟨old, present, rfl⟩
        by_cases mine : old.id = other
        · rw [if_pos mine] at named ⊢
          have parts := standing.own old present named
          refine ⟨old, present, named, rfl, fun _ => ?_⟩
          by_contra disabled
          exact harmless ⟨mine.symm.trans parts.1, Bool.eq_false_iff.mpr disabled⟩
        · rw [if_neg mine] at named ⊢
          exact ⟨old, present, named, rfl, id⟩
  | deleteAgent other =>
      cases effect
      have certs : revoked serial (deleteAgent other db) = false := by
        apply unrevoked_of_rows standing.unrevoked
        intro row member named set
        exact ⟨row, (List.mem_filter.mp member).1, named, set⟩
      refine standing.of_rows ?_ ?_ certs
      · intro old member named
        refine ⟨old, mem_deleteAgent.mpr ⟨member, ?_⟩, named⟩
        intro mine
        exact harmless (mine.symm.trans (standing.own old member named).1)
      · intro row member named
        exact ⟨row, (mem_deleteAgent.mp member).1, named, rfl, id⟩
  | updateLatestConnection other =>
      cases effect
      refine standing.of_rows ?_ ?_ (unrevoked_of_same standing.unrevoked rfl)
      · intro old member named
        refine ⟨_, List.mem_map_of_mem member, ?_⟩
        split <;> exact named
      · intro row member named
        rcases List.mem_map.mp member with ⟨old, present, rfl⟩
        refine ⟨old, present, ?_⟩
        split at named
        · next mine =>
          rw [if_pos mine]
          exact ⟨named, rfl, id⟩
        · next other =>
          rw [if_neg other]
          exact ⟨named, rfl, id⟩
  | storeCert owner certPem stored =>
      exact standing.of_agents (frame.agents rfl)
        (storeCert_unrevoked standing.unrevoked effect)
  | revokeCert other =>
      cases effect
      refine standing.of_agents rfl (unrevoked_of_rows standing.unrevoked ?_)
      intro row member named set
      rcases mem_revokeCert.mp member with ⟨before, _⟩ | ⟨old, present, mine, rfl⟩
      · exact ⟨row, before, named, set⟩
      · exact absurd ⟨old, present, named, mine⟩ harmless
  | _ =>
      exact standing.of_agents (frame.agents rfl)
        (unrevoked_of_same standing.unrevoked (frame.agentCerts rfl))

end Statement

/-! ## The interceptor's questions -/

section Questions

variable {cn serial : String} {agentId : Uuid}

/-- The answers that let the agent in. -/
def Welcomes (cn serial : String) (agentId : Uuid) :
    (op : Stmt ⊕ OrchestratorOp) -> Except DbError
    (Sum.elim Stmt.Res OrchestratorOp.Res op) -> Prop
  | .inl (.isRevoked asked), answer => asked = serial -> answer = .ok false
  | .inl (.getAgentByHostname asked), answer => asked = cn ->
      Exists fun row => answer = .ok (some row) ∧ row.id = agentId ∧
        row.enabled = true
  | _, _ => True

theorem Standing.found {db : Db} (standing : Standing cn serial agentId db)
    (env : Env) :
    Exists fun row => getAgentByHostname env cn db = .ok (some row) ∧
      row.id = agentId ∧ row.enabled = true := by
  have asked : getAgentByHostname env cn db =
      .ok (limitOne env.pick
        (db.agents.rows.filter fun row => row.hostname = some cn)) := by
    rw [getAgentByHostname, textParam_of_clean standing.clean]
    rfl
  rcases standing.named with ⟨present, member, named⟩
  cases chosen :
      limitOne env.pick
        (db.agents.rows.filter fun row => row.hostname = some cn) with
  | none =>
      have inside : present ∈ db.agents.rows.filter fun row =>
          row.hostname = some cn :=
        List.mem_filter.mpr ⟨member, decide_eq_true named⟩
      rw [limitOne_none_iff.mp chosen] at inside
      cases inside
  | some row =>
      rw [chosen] at asked
      have found := getAgentByHostname_some asked
      exact ⟨row, asked, standing.own row found.1 found.2⟩

/-- An agent in good standing is welcome, when no fault strikes. -/
theorem Standing.welcomes {server : Server}
    (standing : Standing cn serial agentId server.1)
    (cleanSerial : hasNul serial = false) {env : Env × Instant}
    (clear : env.1.fault = none) (op : Stmt ⊕ OrchestratorOp) :
    Welcomes cn serial agentId op
      (Program.perform execServer env op server).1 := by
  cases op with
  | inr op => trivial
  | inl stmt =>
      cases stmt with
      | isRevoked asked =>
          rintro rfl
          have answered :
              exec env.1 (.isRevoked asked) server.1 = .ok (false, server.1) := by
            rw [exec_clear clear, Stmt.effect, isRevoked_of_clean cleanSerial,
              standing.unrevoked]
            rfl
          rw [Program.perform_inl, Program.perform_ok answered]
          rfl
      | getAgentByHostname asked =>
          rintro rfl
          rcases standing.found env.1 with ⟨row, found, mine, enabled⟩
          have answered :
              exec env.1 (.getAgentByHostname asked) server.1 =
                .ok (some row, server.1) := by
            rw [exec_clear clear, Stmt.effect, found]
            rfl
          rw [Program.perform_inl, Program.perform_ok answered]
          exact ⟨row, rfl, mine, enabled⟩
      | _ => trivial

/-- Two welcoming answers get the request past the interceptor. -/
theorem authInterceptor_arrives {library : CertLibrary}
    {peerCerts : Option (List Der)} {cert : X509Certificate}
    (peer : peerCertificate library peerCerts = .ok (cn, cert)) :
    (authInterceptor library peerCerts).Arrives
      (fun stmt => Welcomes cn cert.serialText agentId (.inl stmt))
      (fun rest => rest = .done ⟨agentId⟩) 2 := by
  rw [authInterceptor, peer, Program.lift_ok, Program.done_bind]
  dsimp only
  intro revocation unrevoked
  have clear : revocation = .ok false := unrevoked rfl
  rw [clear]
  intro lookup found
  rcases found rfl with ⟨row, known, mine, enabled⟩
  rw [known, ← mine]
  have admitted : admitAgent (some row) = .ok ⟨row.id⟩ := if_pos enabled
  exact (congrArg Program.lift admitted).trans rfl

theorem request_arrives (service : ComplyxAgent) {library : CertLibrary}
    {peerCerts : Option (List Der)} {cert : X509Certificate}
    (peer : peerCertificate library peerCerts = .ok (cn, cert))
    (call : AgentCall) :
    (service.request library peerCerts call).Arrives
      (Welcomes cn cert.serialText agentId)
      (fun rest => rest = service.serve (some ⟨agentId⟩) call) 2 := by
  have admitted :=
    Program.arrives_mapError Fault.error
      (@authInterceptor_arrives cn agentId _ _ _ peer)
  exact @Program.arrives_bind _ _ _ _ _ _ _ _
    (fun agentId => service.serve (some agentId) call) _ _
    (Program.arrives_beside admitted)

end Questions

/-! ## What an enrolment leaves -/

section Enrolled

variable {ctx : EnrollContext} {call : EnrollCall} {envs : Nat -> Env}
  {db db' : Db}

/-- Nobody at another address has the name, and nobody at this one is disabled. -/
structure Available (ctx : EnrollContext) (call : EnrollCall)
    (db : Db) : Prop where
  elsewhere : forall row, row ∈ db.agents.rows ->
    ctx.parseIp call.request.remoteIp ≠ .ok row.ip ->
    row.hostname ≠ some call.request.hostname
  here : forall row, row ∈ db.agents.rows ->
    ctx.parseIp call.request.remoteIp = .ok row.ip -> row.enabled = true

theorem varcharOpt_none_clean {text : String} {stored : Option String}
    (accepted : varcharOpt none (some text) = .ok stored) :
    hasNul text = false := by
  cases checked : textParam text with
  | ok value => exact (textParam_ok checked).2
  | error failure =>
      simp only [varcharOpt, checked, Functor.map, Except.map] at accepted
      cases accepted

/-- A registration switches nobody off. -/
theorem upsertAgent_at_enabled {env : Env} {data : UpsertAgentData}
    {registered : Uuid}
    (accepted : upsertAgent env data db = .ok (registered, db'))
    (before : forall row, row ∈ db.agents.rows -> row.ip = data.ip ->
      row.enabled = true)
    {row : AgentRow} (member : row ∈ db'.agents.rows) (here : row.ip = data.ip) :
    row.enabled = true := by
  rcases upsertAgent_cases accepted with
    ⟨change, rows, same⟩ | ⟨new, rows, _, newEnabled⟩
  · rw [rows] at member
    rcases List.mem_map.mp member with ⟨old, present, rfl⟩
    by_cases located : old.ip = data.ip
    · rw [if_pos located]
      exact (same old).2.2.trans (before old present located)
    · rw [if_neg located] at here
      exact absurd here located
  · rw [rows] at member
    rcases List.mem_append.mp member with old | last
    · exact before row old here
    · rw [List.mem_singleton.mp last]
      exact newEnabled

/-- Who has enrolled under a free name has good standing with the certificate. -/
theorem enrolled_standing {result : EnrollResult} {serial : String}
    (enrolled : Program.run exec (processEnroll ctx call) envs db =
      (.ok result, db'))
    (free : Available ctx call db) (unrevoked : revoked serial db = false) :
    Standing call.request.hostname serial result.agentId db' := by
  have ended := run_processEnroll ctx call envs db
  rw [enrolled] at ended
  cases ended with
  | issued row ip agentId registered final certPem stored accepted parsed upserted
      signed kept =>
      have address : ctx.parseIp call.request.remoteIp = .ok ip :=
        mapError_ok parsed
      have registration := (exec_ok upserted).2
      rcases upsertAgent_registered registration with
        ⟨frame, ⟨new, newId, newIp, newName, rows⟩, _⟩
      have agents : db'.agents = registered.agents :=
        (Stmt.effect_frame (exec_ok kept).2).agents rfl
      have certs : registered.agentCerts = db.agentCerts := by
        rw [frame]
        rfl
      rcases upsertAgent_texts registration with ⟨hostname, _, _, written, _⟩
      refine ⟨varcharOpt_none_clean written, ?_, ?_,
        storeCert_unrevoked (unrevoked_of_same unrevoked certs) (exec_ok kept).2⟩
      · rw [agents]
        exact ⟨new, (rows new).mpr (Or.inr rfl), newName⟩
      · intro other member named
        rw [agents] at member
        rcases (rows other).mp member with ⟨old, apart⟩ | same
        · refine absurd named (free.elsewhere other old ?_)
          rw [address]
          exact fun same => apart (Except.ok.inj same).symm
        · rw [same] at member ⊢
          refine ⟨newId, upsertAgent_at_enabled registration ?_ member newIp⟩
          intro old present here
          apply free.here old present
          rw [address, here]
          rfl

/-- The certificate handed out carries the name that was requested. -/
theorem enrolled_cn {result : EnrollResult} {name : String} {der : Der}
    {cert : X509Certificate}
    (enrolled : Program.run exec (processEnroll ctx call) envs db =
      (.ok result, db'))
    (requested : ctx.requestedName call = some name)
    (contents : ctx.library.pemContents result.certPem = some der)
    (parsed : ctx.library.parseX509 der = .ok cert) : cert.cn = some name := by
  have ended := run_processEnroll ctx call envs db
  rw [enrolled] at ended
  cases ended with
  | issued row ip agentId registered final certPem stored accepted address
      upserted signed kept =>
      rcases signCsr_ok signed with ⟨_, csr, issued, certifies⟩
      have sameDer := Option.some.inj (certifies.contents.symm.trans contents)
      rw [sameDer] at certifies
      have sameCert := Except.ok.inj (certifies.parsed.symm.trans parsed)
      rw [← requested, EnrollContext.requestedName,
        certifies.requested, ← sameCert]
      rfl

end Enrolled

/-- Once it has had two turns of its own that no fault struck, a request with the
certificate is served as the agent, whatever happened since the enrolment, as long
as nothing turned the agent away. -/
theorem enrolled_agent_served (service : ComplyxAgent) (ctx : EnrollContext)
    (enrolment : EnrollCall)
    (envs : Nat -> Env) (db db' : Db) (result : EnrollResult) (der : Der)
    (rest : List Der) (cert : X509Certificate)
    (enrolled : Program.run exec (processEnroll ctx enrolment) envs db =
      (.ok result, db'))
    (requested : ctx.requestedName enrolment = some enrolment.request.hostname)
    (free : Available ctx enrolment db)
    (contents : ctx.library.pemContents result.certPem = some der)
    (parsed : ctx.library.parseX509 der = .ok cert)
    (unrevoked : revoked cert.serialText db = false) (call : AgentCall)
    (pool : ServerPool) (index : Nat)
    (present : pool.store.1 = db')
    (waiting : pool.threads[index]? =
      some (service.request ctx.library (some (der :: rest)) call))
    (labels : List (Nat × (Env × Instant)))
    (harmless :
      Meets (Pool.step execServer) (Pool.Guarded (StmtGuard fun _ stmt db =>
        ¬ stmt.TurnsAway enrolment.request.hostname cert.serialText result.agentId
          db)) pool labels)
    (clear : forall label, label ∈ labels -> label.1 = index ->
      label.2.1.fault = none)
    (turned : 2 ≤ turnsOf index labels) :
    Exists fun before => before <+: labels ∧
      (after (Pool.step execServer) pool before).threads[index]? =
      some (service.serve (some ⟨result.agentId⟩) call) := by
  have standing :
      Standing enrolment.request.hostname cert.serialText result.agentId
        pool.store.1 := by
    rw [present]
    exact enrolled_standing enrolled free unrevoked
  have named := enrolled_cn enrolled requested contents parsed
  have peer :
      peerCertificate ctx.library (some (der :: rest)) =
        .ok (enrolment.request.hostname, cert) := by
    simp only [peerCertificate, parsed, named]
  have remains :=
    always_database (fun env stmt db standing => perform_standing stmt standing)
      standing harmless
  have answers :
      Meets (Pool.step execServer)
        (fun pool label => label.1 = index -> forall op,
          Welcomes enrolment.request.hostname cert.serialText result.agentId op
          (Program.perform execServer label.2 op pool.store).1) pool labels := by
    apply meets_of_always remains
    intro pool label listed standing mine op
    exact standing.welcomes (serialText_clean cert) (clear label listed mine) op
  rcases Pool.arrives_run waiting (request_arrives service peer call)
      answers turned with
    ⟨before, isPrefix, rest', here, arrived⟩
  rw [arrived] at here
  exact ⟨before, isPrefix, here⟩

/-- `web-01` has enrolled as the agent numbered 9. -/
def welcomeDb : Db :=
    (Program.run exec (processEnroll recordedContext webCall)
      (quietly 9) invitedDb).2

/-- It sends a heartbeat and polls. -/
def welcomePool : ServerPool where
  threads := [.heartbeat ⟨"", 0⟩ newYear, .pollPolicies ⟨"", ""⟩].map fun call =>
    nightService.request recordedContext.library (some [webRecord.der]) call
  store := (welcomeDb, Orchestrator.new 90)

theorem web_heartbeat_served : Exists fun before => before <+: heartbeatTurns ∧
    (after (Pool.step execServer) welcomePool before).threads[0]? =
      some (nightService.serve (some ⟨9⟩) (.heartbeat ⟨"", 0⟩ newYear)) := by
  have enrolled :
      Program.run exec (processEnroll recordedContext webCall)
        (quietly 9) invitedDb =
      (.ok ⟨9, webRecord.certPem, "ca.crt"⟩, welcomeDb) := by
    have answered :
        (Program.run exec (processEnroll recordedContext webCall)
          (quietly 9) invitedDb).1 =
        .ok ⟨9, webRecord.certPem, "ca.crt"⟩ := by decide +kernel
    rw [welcomeDb, ← answered]
  have present : welcomePool.store.1 = welcomeDb := by
    rw [welcomePool]
  have free : Available recordedContext webCall invitedDb := by
    constructor <;> intro row impossible <;> cases impossible
  have clear : forall label, label ∈ heartbeatTurns -> label.1 = 0 ->
      label.2.1.fault = none := by
    intro label member _
    rcases List.mem_map.mp member with ⟨index, _, rfl⟩
    rfl
  exact enrolled_agent_served nightService recordedContext webCall
    (quietly 9) invitedDb welcomeDb _ webRecord.der []
    _ enrolled (by decide +kernel) free webRecord_contents webRecord_parsed
      (by decide +kernel)
    (.heartbeat ⟨"", 0⟩ newYear) welcomePool 0 present rfl heartbeatTurns
      (by decide +kernel) clear (by decide)

end Complyx
