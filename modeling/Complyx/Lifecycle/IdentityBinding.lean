import Complyx.Lifecycle.Runs
import Complyx.Pki.Samples

namespace Complyx

open Transition

/-!
# Does a certificate identify the agent it was issued to?

A certificate names the common name its request asked for, and authentication
looks that name up among the hostnames.  The agent a certificate was issued to
is chosen by address.  `Named` is the link that would have to hold between the
two, and `Careful` is what the enrolments of a run have to respect for it:
nobody takes a hostname that certificates of somebody else name, and nobody
asks for the hostname of somebody else.
-/

/-- The common name a request asks for. -/
def CertificateSigningRequestParams.cn
    (csr : CertificateSigningRequestParams) : Option String :=
  (csr.params.certificate []).cn

def EnrollContext.requestedName (ctx : EnrollContext)
    (call : EnrollCall) : Option String :=
  match ctx.library.csrFromPem call.request.csrPem with
  | .ok csr => csr.cn
  | .error _ => none

/-- Whoever presents a certificate handed out to an agent is rejected or taken
for that agent. -/
def IdentityBound (ctx : EnrollContext) (state : PkiState) : Prop :=
  forall issuance, issuance ∈ state.issued ->
    forall der rest envs agent,
      ctx.library.pemContents issuance.result.certPem = some der ->
      (Program.run exec (authInterceptor ctx.library (some (der :: rest))) envs
        state.db).1 = .ok agent ->
      agent.id = issuance.result.agentId

/-- Only the agent a certificate was issued to has the name it carries. -/
def Named (ctx : EnrollContext) (state : PkiState) : Prop :=
  forall issuance, issuance ∈ state.issued -> forall name,
    ctx.requestedName issuance.call = some name ->
    forall row, row ∈ state.db.agents.rows -> row.hostname = some name ->
      row.id = issuance.result.agentId

/-- An enrolment that gets as far as registering takes no hostname named by
certificates of another agent, and one that completes asks for no hostname of
another agent. -/
def Careful (ctx : EnrollContext) (state : PkiState) : PkiOp -> Prop
  | .enroll call envs => forall ip, Registers ctx call envs state.db ip ->
      (forall issuance, issuance ∈ state.issued ->
        ctx.requestedName issuance.call = some call.request.hostname ->
        issuance.result.agentId = registeredId (envs 2) ip state.db) ∧
      (forall certPem name, Completes ctx call envs state.db ip certPem ->
        ctx.requestedName call = some name ->
        forall row, row ∈ state.db.agents.rows -> row.ip ≠ ip ->
          row.hostname ≠ some name)
  | _ => True

variable {ctx : EnrollContext}

/-- The interceptor takes the bearer for an agent with the requested name. -/
private theorem bearer_named {issuance : Issuance}
    (genuine : issuance.Genuine ctx) {der : Der} {rest : List Der}
    {envs : Nat -> Env} {db : Db} {agent : AgentId}
    (presented : ctx.library.pemContents issuance.result.certPem = some der)
    (success :
      (Program.run exec (authInterceptor ctx.library (some (der :: rest))) envs
        db).1 = .ok agent) :
    Exists fun name => Exists fun row =>
      ctx.requestedName issuance.call = some name ∧
      row ∈ db.agents.rows ∧ row.hostname = some name ∧ row.id = agent.id := by
  rcases genuine with ⟨csr, issued, certifies⟩
  rcases (run_authInterceptor_ok success).passed with
    ⟨cert, name, row, parsed, named, _, member, hostname, _, same⟩
  have sameDer := Option.some.inj (certifies.contents.symm.trans presented)
  subst issued
  have sameCert := Except.ok.inj (certifies.parsed.symm.trans parsed)
  subst cert
  refine ⟨name, row, ?_, member, hostname, same⟩
  simp only [EnrollContext.requestedName, certifies.requested]
  exact named

theorem identityBound_of_named {state : PkiState} (genuine : state.AllGenuine ctx)
    (named : Named ctx state) :
    IdentityBound ctx state := by
  intro issuance member der rest envs agent presented success
  rcases bearer_named (genuine issuance member) presented success with
    ⟨name, row, requested, rowMember, hostname, same⟩
  rw [← same]
  exact named issuance member name requested row rowMember hostname

private theorem named_of_rows {state next : PkiState} (named : Named ctx state)
    (issued : next.issued = state.issued)
    (rows : forall row, row ∈ next.db.agents.rows ->
      Exists fun old => old ∈ state.db.agents.rows ∧ row.id = old.id ∧
        row.hostname = old.hostname) :
    Named ctx next := by
  intro issuance member name requested row rowMember hostname
  rw [issued] at member
  rcases rows row rowMember with ⟨old, oldMember, sameId, sameHostname⟩
  rw [sameId]
  exact named issuance member name requested old oldMember
    (sameHostname.symm.trans hostname)

private theorem named_enroll {state : PkiState} {call : EnrollCall}
    {envs : Nat -> Env} (named : Named ctx state)
    (careful : Careful ctx state (.enroll call envs)) :
    Named ctx (state.step ctx (.enroll call envs)) := by
  rcases step_enroll_agents state call envs with
    ⟨sameAgents, sameIssued⟩ | ⟨ip, registers, effect, issued⟩
  · apply named_of_rows named sameIssued
    intro row member
    rw [sameAgents] at member
    exact ⟨row, member, rfl, rfl⟩
  rcases effect.rows with ⟨new, newId, newIp, newHostname, rows⟩
  have permitted := careful ip registers
  have others :
      forall row, row ∈ (state.step ctx (.enroll call envs)).db.agents.rows ->
      (row ∈ state.db.agents.rows ∧ row.ip ≠ ip) ∨ row = new :=
        fun row => (rows row).mp
  have old : forall issuance, issuance ∈ state.issued -> forall name,
    ctx.requestedName issuance.call = some name ->
      forall row, row ∈ (state.step ctx (.enroll call envs)).db.agents.rows ->
        row.hostname = some name ->
      row.id = issuance.result.agentId := by
    intro issuance member name requested row rowMember hostname
    rcases others row rowMember with ⟨kept, _⟩ | same
    · exact named issuance member name requested row kept hostname
    · subst row
      have taken : call.request.hostname = name :=
        Option.some.inj (newHostname.symm.trans hostname)
      rw [newId]
      apply (permitted.1 issuance member _).symm
      rw [requested, taken]
  rcases issued with sameIssued | ⟨result, grown, sameId⟩
  · intro issuance member
    rw [sameIssued] at member
    exact old issuance member
  · intro issuance member name requested row rowMember hostname
    rw [grown, List.mem_append, List.mem_singleton] at member
    rcases member with earlier | latest
    · exact old issuance earlier name requested row rowMember hostname
    · subst issuance
      rcases others row rowMember with ⟨kept, elsewhere⟩ | same
      · rcases step_enroll_certs state call envs with
          ⟨_, unchanged⟩ | ⟨ip', certPem, completes, _, _⟩
        · rw [unchanged] at grown
          exact absurd grown (by simp)
        · have sameIp : ip' = ip :=
            Except.ok.inj (completes.address.symm.trans registers.address)
          subst ip'
          exact absurd hostname
            (permitted.2 certPem name completes requested row kept elsewhere)
      · rw [same, newId, sameId]

/-- Careful operations keep the link between names and agents. -/
theorem named_step (state : PkiState) (op : PkiOp) (named : Named ctx state)
    (careful : Careful ctx state op) :
    Named ctx (state.step ctx op) := by
  cases op with
  | enroll call envs => exact named_enroll named careful
  | revokeAgentCert agentId envs =>
      refine named_of_rows named ?_ ?_
      · rfl
      intro row member
      rcases run_revokeAgentCert agentId envs state.db with same | marked
      · simp only [PkiState.step, same] at member
        exact ⟨row, member, rfl, rfl⟩
      · simp only [PkiState.step, marked] at member
        exact ⟨row, member, rfl, rfl⟩
  | setEnabled agentId enabled env =>
      refine named_of_rows named ?_ ?_
      · rfl
      intro row member
      have effect : (Stmt.setEnabled agentId enabled).effect env state.db =
          .ok ((), Complyx.setEnabled agentId enabled state.db) := rfl
      rcases perform_total effect with same | written
      · simp only [PkiState.step, same] at member
        exact ⟨row, member, rfl, rfl⟩
      · simp only [PkiState.step, written] at member
        rcases mem_setEnabled member with
          ⟨old, oldMember, sameId, _, sameHostname⟩
        exact ⟨old, oldMember, sameId, sameHostname⟩
  | deleteAgent agentId env =>
      refine named_of_rows named ?_ ?_
      · rfl
      intro row member
      have effect : (Stmt.deleteAgent agentId).effect env state.db =
        .ok ((), Complyx.deleteAgent agentId state.db) := rfl
      rcases perform_total effect with same | removed
      · simp only [PkiState.step, same] at member
        exact ⟨row, member, rfl, rfl⟩
      · simp only [PkiState.step, removed] at member
        exact ⟨row, (mem_deleteAgent.mp member).1, rfl, rfl⟩

/-! ## Runs -/

/-- In every run of careful operations each certificate ever handed out
identifies its own agent, in every state. -/
theorem careful_runs_bind_identity (ctx : EnrollContext) (db : Db)
    (ops : List PkiOp)
    (careful : Meets (PkiState.step ctx) (Careful ctx) ⟨db, []⟩ ops) :
    Always (PkiState.step ctx) (IdentityBound ctx) ⟨db, []⟩ ops := by
  have linked :
      Always (PkiState.step ctx)
        (fun state => state.AllGenuine ctx ∧ Named ctx state) ⟨db, []⟩ ops := by
    refine always_of_meets ?_ ⟨?_, ?_⟩ careful
    · rintro state op ⟨genuine, named⟩ permitted
      exact ⟨allGenuine_step state op genuine,
        named_step state op named permitted⟩
    · intro issuance member
      cases member
    · intro issuance member
      cases member
  refine Always.mono ?_ linked
  rintro state ⟨genuine, named⟩
  exact identityBound_of_named genuine named

/-- One enrolment of a new agent is careful, and hands out a certificate. -/
theorem careful_runs_bind_identity_web :
    let enrolment :=
      PkiOp.enroll
        (recordedCall firstToken webRecord.csrPem "web-01" "10.0.0.1"
          firstSerialId)
      (quietly 7)
    (after (PkiState.step recordedContext)
      ⟨invitedDb, []⟩ [enrolment]).issued.length = 1 ∧
      Always (PkiState.step recordedContext) (IdentityBound recordedContext)
        ⟨invitedDb, []⟩ [enrolment] := by
  refine ⟨by decide +kernel,
    careful_runs_bind_identity recordedContext invitedDb _ ⟨?_, trivial⟩⟩
  intro ip registers
  refine ⟨?_, ?_⟩
  · intro issuance member
    cases member
  · intro certPem name completes requested row member
    cases member

/-- An agent that is enrolled already, as the host `web-01`. -/
def enrolledWeb : AgentRow where
  id := 7
  ip := .host 0x0a000001
  hostname := some "web-01"
  osName := some "Linux"
  osVersion := some "6.8"
  installDate := 0
  latestConnection := 0
  enabled := true

/-- The database with that agent and two fresh tokens. -/
def enrolledDb : Db :=
  { invitedDb with agents := ⟨[enrolledWeb], by decide⟩ }

/-- Another machine enrols as `db-01` with a request for the name `web-01`. -/
def impersonation : PkiOp :=
  .enroll
    (recordedCall firstToken webRecord.csrPem "db-01" "10.0.0.66" firstSerialId)
    (quietly 9)

/-- The certificate of the agent numbered 9 authenticates as the one numbered 7. -/
theorem identity_not_bound :
    ¬ Always (PkiState.step recordedContext) (IdentityBound recordedContext)
      ⟨enrolledDb, []⟩ [impersonation] := by
  intro always
  have bound := always.last
  have outcome :
      (after (PkiState.step recordedContext)
        ⟨enrolledDb, []⟩ [impersonation]).issued.map
        Issuance.result = [⟨9, webRecord.certPem, "ca.crt"⟩] ∧
      (Program.run exec
        (authInterceptor recordedContext.library (some [webRecord.der]))
        (quietly 0)
        (after (PkiState.step recordedContext)
          ⟨enrolledDb, []⟩ [impersonation]).db).1 = .ok ⟨7⟩ := by
    decide +kernel
  rcases outcome with ⟨results, taken⟩
  have listed :=
    List.mem_singleton_self (⟨9, webRecord.certPem, "ca.crt"⟩ : EnrollResult)
  rw [← results] at listed
  rcases List.mem_map.mp listed with ⟨issuance, member, same⟩
  have presented : recordedContext.library.pemContents issuance.result.certPem =
      some webRecord.der := by
    rw [same]
    exact webRecord_contents
  have equal :=
    bound issuance member webRecord.der [] (quietly 0) ⟨7⟩ presented taken
  rw [same] at equal
  exact absurd equal (by decide)

end Complyx
