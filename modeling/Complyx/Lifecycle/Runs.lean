import Complyx.Grpc.Interceptor

namespace Complyx

open Transition

/-!
# Runs of enrolments and administrator actions

The state of a run is the database together with every certificate handed out
so far, the latter only to speak about.  An operation changes the database by
running the server's program in an arbitrary environment; an enrolment that
succeeds adds to the certificates.
-/

/-- A certificate handed out, with the call that asked for it. -/
structure Issuance where
  call : EnrollCall
  result : EnrollResult

structure PkiState where
  db : Db
  issued : List Issuance := []

inductive PkiOp where
  | enroll (call : EnrollCall) (envs : Nat -> Env)
  | revokeAgentCert (agentId : Uuid) (envs : Nat -> Env)
  | setEnabled (agentId : Uuid) (enabled : Bool) (env : Env)
  | deleteAgent (agentId : Uuid) (env : Env)

/-- The certificates handed out after a call with the given answer. -/
def recordIssue (call : EnrollCall) (issued : List Issuance) :
    Except (Fault PkiError) EnrollResult -> List Issuance
  | .ok result => issued ++ [⟨call, result⟩]
  | .error _ => issued

def PkiState.step (ctx : EnrollContext) (state : PkiState) : PkiOp -> PkiState
  | .enroll call envs =>
      let ended := Program.run exec (processEnroll ctx call) envs state.db
      { db := ended.2, issued := recordIssue call state.issued ended.1 }
  | .revokeAgentCert agentId envs =>
      { state with
        db :=
          (Program.run exec (Complyx.revokeAgentCert agentId) envs state.db).2 }
  | .setEnabled agentId enabled env =>
      { state with
        db :=
          (Program.perform exec env (.setEnabled agentId enabled) state.db).2 }
  | .deleteAgent agentId env =>
      { state with
        db := (Program.perform exec env (.deleteAgent agentId) state.db).2 }

variable {ctx : EnrollContext}

/-- An enrolment that hands nothing out issues nothing. -/
theorem step_enroll_failed {state : PkiState} {call : EnrollCall}
    {envs : Nat -> Env}
    (failed : forall result,
      (Program.run exec (processEnroll ctx call) envs state.db).1 ≠ .ok result) :
    (state.step ctx (.enroll call envs)).issued = state.issued := by
  simp only [PkiState.step]
  cases outcome : (Program.run exec (processEnroll ctx call) envs state.db).1 with
  | error failure => rfl
  | ok result => exact absurd outcome (failed result)

/-- An enrolment as seen from the run: nobody is registered and nothing is
issued, or somebody is registered, and then a certificate may be issued to
that agent. -/
theorem step_enroll_agents (state : PkiState) (call : EnrollCall)
    (envs : Nat -> Env) :
    let next := state.step ctx (.enroll call envs)
    (next.db.agents = state.db.agents ∧ next.issued = state.issued) ∨
    Exists fun ip => Registers ctx call envs state.db ip ∧
      Registered state.db.agents next.db.agents (call.request.agentData ip)
        (registeredId (envs 2) ip state.db) ∧
      (next.issued = state.issued ∨ Exists fun result =>
        next.issued = state.issued ++ [⟨call, result⟩] ∧
          result.agentId = registeredId (envs 2) ip state.db) := by
  have ended := run_processEnroll ctx call envs state.db
  rcases ended.agents with ⟨same, failed⟩ | ⟨ip, registers, effect, issued⟩
  · exact Or.inl ⟨same, step_enroll_failed failed⟩
  · right
    refine ⟨ip, registers, effect, ?_⟩
    simp only [PkiState.step]
    cases outcome :
        (Program.run exec (processEnroll ctx call) envs state.db).1 with
    | error failure => exact Or.inl rfl
    | ok result => exact Or.inr ⟨result, rfl, issued result outcome⟩

/-- The same for certificates: the table and the certificates issued are as
before, or the enrolment meets every condition and both hold the new
certificate. -/
theorem step_enroll_certs (state : PkiState) (call : EnrollCall)
    (envs : Nat -> Env) :
    let next := state.step ctx (.enroll call envs)
    (next.db.agentCerts = state.db.agentCerts ∧ next.issued = state.issued) ∨
    Exists fun ip => Exists fun certPem =>
      Completes ctx call envs state.db ip certPem ∧
      next.issued =
        state.issued ++ [⟨call, registeredId (envs 2) ip state.db, certPem,
          ctx.ca.caCertPem⟩] ∧
      Stored state.db.agentCerts next.db.agentCerts (envs 3).now
        (registeredId (envs 2) ip state.db) certPem
        (String.ofList (generateSerial call.draws)) := by
  have ended := run_processEnroll ctx call envs state.db
  rcases ended.agentCerts with
    ⟨same, failed⟩ | ⟨ip, certPem, completes, issued, effect⟩
  · exact Or.inl ⟨same, step_enroll_failed failed⟩
  · right
    refine ⟨ip, certPem, completes, ?_, effect⟩
    simp only [PkiState.step, issued, recordIssue]

/-- An enrolment that meets every condition hands a certificate out. -/
theorem issued_of_completes (state : PkiState) {call : EnrollCall}
    {envs : Nat -> Env} {ip : IpNetwork} {certPem : String}
    (completes : Completes ctx call envs state.db ip certPem) :
    (state.step ctx (.enroll call envs)).issued.length =
      state.issued.length + 1 := by
  rcases (run_processEnroll ctx call envs state.db).ok_of_completes completes with
    ⟨result, issued⟩
  simp only [PkiState.step, issued, recordIssue, List.length_append,
    List.length_singleton]

/-! ## Genuine certificates -/

/-- The certificate is one the authority signed for the request of its call. -/
def Issuance.Genuine (ctx : EnrollContext) (issuance : Issuance) : Prop :=
  Exists fun csr => Exists fun der =>
    Certifies ctx.library issuance.call.request.csrPem
      issuance.result.certPem csr der

def PkiState.AllGenuine (ctx : EnrollContext) (state : PkiState) : Prop :=
  forall issuance, issuance ∈ state.issued -> issuance.Genuine ctx

theorem allGenuine_step (state : PkiState) (op : PkiOp)
    (genuine : state.AllGenuine ctx) :
    (state.step ctx op).AllGenuine ctx := by
  cases op with
  | enroll call envs =>
      rcases step_enroll_certs state call envs with
        ⟨_, same⟩ | ⟨ip, certPem, completes, grown, _⟩
      · intro issuance member
        rw [same] at member
        exact genuine issuance member
      · intro issuance member
        rw [grown, List.mem_append, List.mem_singleton] at member
        rcases member with old | new
        · exact genuine issuance old
        · rw [new]
          exact (signCsr_ok completes.signed).2
  | revokeAgentCert agentId envs => exact genuine
  | setEnabled agentId enabled env => exact genuine
  | deleteAgent agentId env => exact genuine

end Complyx
