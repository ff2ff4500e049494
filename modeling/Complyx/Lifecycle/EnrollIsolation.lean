import Complyx.Grpc.EnrollService
import Complyx.Lifecycle.Runs
import Complyx.Pki.Samples

namespace Complyx

open Transition

/-!
# Does the enrolment service keep hosts apart?

The service registers every agent under the same address, and the address is
what decides which agent an enrolment is for.  The first enrolment that
registers an agent therefore fixes the identifier of all later ones.
-/

/-- A host that enrolled through the service. -/
structure EnrolledHost where
  hostname : String
  result : EnrollResult
  deriving DecidableEq

structure ServiceState where
  db : Db
  enrolled : List EnrolledHost := []

/-- What the enrolment behind an RPC answers. -/
def EnrollServiceImpl.answer (service : EnrollServiceImpl) (db : Db)
    (rpc : EnrollRpc) (envs : Nat -> Env) :
    Except (Fault PkiError) EnrollResult :=
  (Program.run exec (processEnroll service.ctx (service.call rpc)) envs db).1

/-- The state after one RPC. -/
def ServiceState.step (service : EnrollServiceImpl) (state : ServiceState)
    (label : EnrollRpc × (Nat -> Env)) : ServiceState where
  db := (Program.run exec (service.enroll label.1) label.2 state.db).2
  enrolled :=
    match service.answer state.db label.1 label.2 with
    | .ok result => state.enrolled ++ [⟨label.1.message.hostname, result⟩]
    | .error _ => state.enrolled

/-- The second host got an identifier of its own and the rows of the first are
as they were. -/
structure Isolated (before later : Db) (first second : EnrolledHost) : Prop where
  apart : second.result.agentId ≠ first.result.agentId
  agent : forall row, row.id = first.result.agentId ->
    (row ∈ later.agents.rows <-> row ∈ before.agents.rows)
  cert : forall row, row.agentId = first.result.agentId ->
    (row ∈ later.agentCerts.rows <-> row ∈ before.agentCerts.rows)

/-- Everybody enrolled so far is the agent registered under the constant
address. -/
def SharedAgent (service : EnrollServiceImpl) (state : ServiceState) : Prop :=
  forall host, host ∈ state.enrolled -> Exists fun ip => Exists fun row =>
    service.ctx.parseIp remoteIp = .ok ip ∧ row ∈ state.db.agents.rows ∧
      row.ip = ip ∧
      row.id = host.result.agentId

variable {service : EnrollServiceImpl}

/-- What an RPC does to the agents, seen from the service. -/
private theorem step_agents (state : ServiceState) (rpc : EnrollRpc)
    (envs : Nat -> Env) :
    let next := state.step service (rpc, envs)
    (next.db.agents = state.db.agents ∧ forall result,
      service.answer state.db rpc envs ≠ .ok result) ∨
    Exists fun ip => service.ctx.parseIp remoteIp = .ok ip ∧
      Registered state.db.agents next.db.agents
        ((service.call rpc).request.agentData ip)
        (registeredId (envs 2) ip state.db) ∧
      forall result, service.answer state.db rpc envs = .ok result ->
        result.agentId = registeredId (envs 2) ip state.db := by
  have ended := run_processEnroll service.ctx (service.call rpc) envs state.db
  have sameDb : (state.step service (rpc, envs)).db =
      (Program.run exec (processEnroll service.ctx (service.call rpc)) envs
        state.db).2 := by
    simp only [ServiceState.step, run_enroll]
    rcases Program.run exec (processEnroll service.ctx (service.call rpc)) envs
      state.db with ⟨outcome, db'⟩
    cases outcome <;> rfl
  simp only [sameDb]
  rcases ended.agents with unchanged | ⟨ip, registers, effect, issued⟩
  · exact Or.inl unchanged
  · exact Or.inr ⟨ip, mapError_ok registers.address, effect, issued⟩

theorem sharedAgent_step (state : ServiceState) (label : EnrollRpc × (Nat -> Env))
    (shared : SharedAgent service state) :
    SharedAgent service (state.step service label) := by
  rcases label with ⟨rpc, envs⟩
  rcases step_agents state rpc envs with
    ⟨same, failed⟩ | ⟨ip, parsed, effect, issued⟩
  · intro host member
    have old : host ∈ state.enrolled := by
      simp only [ServiceState.step] at member
      split at member
      · next result answered => exact absurd answered (failed result)
      · exact member
    rcases shared host old with ⟨ip, row, parsed, rowMember, at_ip, owner⟩
    refine ⟨ip, row, parsed, ?_, at_ip, owner⟩
    rw [same]
    exact rowMember
  · rcases effect.rows with ⟨new, newId, newIp, _, rows⟩
    have present := (rows new).mpr (Or.inr rfl)
    intro host member
    have owner : host.result.agentId = registeredId (envs 2) ip state.db := by
      have earlier : forall host, host ∈ state.enrolled ->
          host.result.agentId = registeredId (envs 2) ip state.db := by
        intro host member
        rcases shared host member with
          ⟨ip', row, parsed', rowMember, at_ip, owner⟩
        have sameIp := Except.ok.inj (parsed'.symm.trans parsed)
        subst sameIp
        rw [← owner]
        exact effect.kept row rowMember at_ip
      simp only [ServiceState.step] at member
      split at member
      · next result answered =>
        rcases List.mem_append.mp member with old | single
        · exact earlier host old
        · rw [List.mem_singleton.mp single]
          exact issued result answered
      · exact earlier host member
    exact ⟨ip, new, parsed, present, newIp, newId.trans owner.symm⟩

/-- Any enrolment after another one is registered as the same agent. -/
theorem same_agent {state : ServiceState} (shared : SharedAgent service state)
    {rpc : EnrollRpc} {envs : Nat -> Env} {result : EnrollResult}
    (answered : service.answer state.db rpc envs = .ok result)
    {host : EnrolledHost} (member : host ∈ state.enrolled) :
    result.agentId = host.result.agentId := by
  rcases step_agents state rpc envs with
    ⟨_, failed⟩ | ⟨ip, parsed, effect, issued⟩
  · exact absurd answered (failed result)
  · rcases shared host member with ⟨ip', row, parsed', rowMember, at_ip, owner⟩
    have sameIp := Except.ok.inj (parsed'.symm.trans parsed)
    subst sameIp
    rw [issued result answered, ← owner]
    exact (effect.kept row rowMember at_ip).symm

/-- In no run is an enrolment isolated from an earlier one. -/
theorem enrolments_never_isolated (service : EnrollServiceImpl) (db : Db)
    (before : List (EnrollRpc × (Nat -> Env))) (rpc : EnrollRpc)
    (envs : Nat -> Env) (result : EnrollResult) (first : EnrolledHost)
    (enrolled :
      first ∈ (after (ServiceState.step service) ⟨db, []⟩ before).enrolled)
    (answered :
      service.answer (after (ServiceState.step service) ⟨db, []⟩ before).db rpc
        envs = .ok result) :
    ¬ Isolated (after (ServiceState.step service) ⟨db, []⟩ before).db
      (after (ServiceState.step service) ⟨db, []⟩ (before ++ [(rpc, envs)])).db
        first
      ⟨rpc.message.hostname, result⟩ := by
  have start : SharedAgent service ⟨db, []⟩ := by
    intro host member
    cases member
  have shared := (always_of_preserved sharedAgent_step start before).last
  intro isolated
  exact isolated.apart (same_agent shared answered enrolled)

/-! ## Two hosts -/

def recordedService : EnrollServiceImpl where
  ctx := recordedContext
  text := UuidText.crate
  certValidityDays := 365

def webRpc : EnrollRpc where
  message := ⟨firstToken, webRecord.csrPem, "web-01", "Linux", "6.8"⟩
  checkedAt := newYear
  draws := ⟨newYear, 1767225600000000000, firstSerialId⟩

def dbRpc : EnrollRpc where
  message := ⟨secondToken, dbRecord.csrPem, "db-01", "Linux", "6.8"⟩
  checkedAt := newYear
  draws := ⟨newYear, 1767225660000000000, secondSerialId⟩

/-- `web-01` is enrolled, with agent number 7. -/
def webEnrolled : EnrolledHost := ⟨"web-01", ⟨7, webRecord.certPem, "ca.crt"⟩⟩

/-- `db-01` enrols next, with the identifier 8 drawn for it. -/
theorem dbRpc_answered :
    webEnrolled ∈ (after (ServiceState.step recordedService)
      ⟨invitedDb, []⟩ [(webRpc, quietly 7)]).enrolled ∧
      recordedService.answer
        (after (ServiceState.step recordedService)
          ⟨invitedDb, []⟩ [(webRpc, quietly 7)]).db
        dbRpc (quietly 8) = .ok ⟨7, dbRecord.certPem, "ca.crt"⟩ := by
  decide +kernel

theorem enrolments_never_isolated_web :
    ¬ Isolated
      (after (ServiceState.step recordedService)
        ⟨invitedDb, []⟩ [(webRpc, quietly 7)]).db
      (after (ServiceState.step recordedService)
        ⟨invitedDb, []⟩ [(webRpc, quietly 7), (dbRpc, quietly 8)]).db
      webEnrolled ⟨"db-01", ⟨7, dbRecord.certPem, "ca.crt"⟩⟩ :=
  enrolments_never_isolated recordedService invitedDb [(webRpc, quietly 7)] dbRpc
    (quietly 8) _ webEnrolled
    dbRpc_answered.1 dbRpc_answered.2

/-- `db-01` becomes agent number 7, whose hostname and certificate it takes over. -/
theorem hosts_share_agent :
    webEnrolled ∈ (after (ServiceState.step recordedService)
      ⟨invitedDb, []⟩ [(webRpc, quietly 7)]).enrolled ∧
      recordedService.answer
        (after (ServiceState.step recordedService)
          ⟨invitedDb, []⟩ [(webRpc, quietly 7)]).db
        dbRpc (quietly 8) = .ok ⟨7, dbRecord.certPem, "ca.crt"⟩ ∧
      ¬ Isolated
        (after (ServiceState.step recordedService)
          ⟨invitedDb, []⟩ [(webRpc, quietly 7)]).db
        (after (ServiceState.step recordedService)
          ⟨invitedDb, []⟩ [(webRpc, quietly 7), (dbRpc, quietly 8)]).db
        webEnrolled ⟨dbRpc.message.hostname, ⟨7, dbRecord.certPem, "ca.crt"⟩⟩ :=
  ⟨dbRpc_answered.1, dbRpc_answered.2, fun isolated => isolated.apart rfl⟩

end Complyx
