import Complyx.Lifecycle.Runs
import Complyx.Pki.Samples

namespace Complyx

open Transition Encoding

/-!
# How many certificates of an agent are usable?

The table holds the serial generated at the last enrolment of an agent.  A
certificate carries a serial derived from its public key, which is shorter
than any generated one, so no certificate handed out is ever found in the
table and all of them pass the revocation check.  At most one certificate of
an agent is usable as long as the agent is only issued one.
-/

/-- The certificate passes the revocation check of the interceptor. -/
def Accepted (ctx : EnrollContext) (db : Db) (certPem : String) : Prop :=
  Exists fun der => Exists fun cert =>
    ctx.library.pemContents certPem = some der ∧
    ctx.library.parseX509 der = .ok cert ∧ revoked cert.serialText db = false

/-- Of two certificates handed out to one agent at most one is accepted, and
the earlier one, which the later one replaced, is not. -/
structure UsableOnce (ctx : EnrollContext) (state : PkiState) : Prop where
  single : (state.issued.map Issuance.result).Pairwise fun earlier later =>
    earlier.agentId = later.agentId ->
      ¬ (Accepted ctx state.db earlier.certPem ∧
        Accepted ctx state.db later.certPem)
  replaced : (state.issued.map Issuance.result).Pairwise fun earlier later =>
    earlier.agentId = later.agentId -> ¬ Accepted ctx state.db earlier.certPem

/-- No enrolment that meets every condition is one of an agent that was handed
a certificate before. -/
def NoReplacement (ctx : EnrollContext) (state : PkiState) : PkiOp -> Prop
  | .enroll call envs =>
      forall ip certPem, Completes ctx call envs state.db ip certPem ->
      forall issuance, issuance ∈ state.issued ->
        issuance.result.agentId ≠ registeredId (envs 2) ip state.db
  | _ => True

/-- Requests in the standard format carry no serial. -/
def NoRequestedSerials (library : CertLibrary) : Prop :=
  forall csrPem csr, library.csrFromPem csrPem = .ok csr ->
    csr.params.serialNumber = none

/-- Certificates are genuine, and the table holds generated serials. -/
def SerialsGenerated (ctx : EnrollContext) (state : PkiState) : Prop :=
  state.AllGenuine ctx ∧ forall row, row ∈ state.db.agentCerts.rows ->
    row.serial.toList.length = 48

variable {ctx : EnrollContext}

/-- Every certificate handed out is accepted. -/
theorem issued_accepted (none : NoRequestedSerials ctx.library) {state : PkiState}
    (generated : SerialsGenerated ctx state) {issuance : Issuance}
    (member : issuance ∈ state.issued) :
    Accepted ctx state.db issuance.result.certPem := by
  rcases generated.1 issuance member with ⟨csr, der, certifies⟩
  refine ⟨der, _, certifies.contents, certifies.parsed, ?_⟩
  have short := serialText_derived ctx.library (none _ csr certifies.requested)
  rw [Bool.eq_false_iff]
  intro marked
  rcases revoked_iff.mp marked with ⟨row, rowMember, same, _⟩
  have long := generated.2 row rowMember
  rw [same] at long
  omega

theorem usableOnce_iff (none : NoRequestedSerials ctx.library) {state : PkiState}
    (generated : SerialsGenerated ctx state) :
    UsableOnce ctx state <->
      state.issued.Pairwise fun earlier later =>
        earlier.result.agentId ≠ later.result.agentId := by
  constructor
  · intro usable
    refine (List.pairwise_map.mp usable.replaced).imp_of_mem ?_
    intro earlier later member _ rejected same
    exact rejected same (issued_accepted none generated member)
  · intro apart
    refine ⟨List.pairwise_map.mpr (apart.imp ?_),
      List.pairwise_map.mpr (apart.imp ?_)⟩
    · intro earlier later different same
      exact absurd same different
    · intro earlier later different same
      exact absurd same different

theorem serialsGenerated_step (state : PkiState) (op : PkiOp)
    (generated : SerialsGenerated ctx state) :
    SerialsGenerated ctx (state.step ctx op) := by
  refine ⟨allGenuine_step state op generated.1, ?_⟩
  intro row member
  cases op with
  | enroll call envs =>
      rcases step_enroll_certs state call envs with
        ⟨same, _⟩ | ⟨ip, certPem, _, _, effect⟩
      · rw [same] at member
        exact generated.2 row member
      · rcases (effect.rows row).mp member with ⟨old, _⟩ | new
        · exact generated.2 row old
        · rw [new, String.toList_ofList]
          exact generateSerial_length call.draws
  | revokeAgentCert agentId envs =>
      rcases run_revokeAgentCert agentId envs state.db with same | marked
      · simp only [PkiState.step, same] at member
        exact generated.2 row member
      · simp only [PkiState.step, marked] at member
        rcases mem_revokeCert.mp member with ⟨old, _⟩ | ⟨old, oldMember, _, rfl⟩
        · exact generated.2 row old
        · exact generated.2 old oldMember
  | setEnabled agentId enabled env =>
      have frame := perform_frame env (.setEnabled agentId enabled) state.db
      simp only [PkiState.step, frame.agentCerts rfl] at member
      exact generated.2 row member
  | deleteAgent agentId env =>
      have effect : (Stmt.deleteAgent agentId).effect env state.db =
        .ok ((), Complyx.deleteAgent agentId state.db) := rfl
      rcases perform_total effect with same | removed
      · simp only [PkiState.step, same] at member
        exact generated.2 row member
      · simp only [PkiState.step, removed] at member
        exact generated.2 row (List.mem_of_mem_filter member)

private theorem issued_apart_iff (state : PkiState) (op : PkiOp)
    (apart : state.issued.Pairwise fun earlier later =>
      earlier.result.agentId ≠ later.result.agentId) :
    ((state.step ctx op).issued.Pairwise fun earlier later =>
      earlier.result.agentId ≠ later.result.agentId) <->
      NoReplacement ctx state op := by
  cases op with
  | enroll call envs =>
      rcases step_enroll_certs state call envs with
        ⟨_, same⟩ | ⟨ip, certPem, completes, grown, _⟩
      · refine ⟨fun _ ip certPem completes => ?_, fun _ => ?_⟩
        · have grown := issued_of_completes state completes
          rw [same] at grown
          omega
        · rw [same]
          exact apart
      · rw [grown, List.pairwise_append]
        constructor
        · rintro ⟨_, _, last⟩ ip' certPem' completes' issuance member
          have sameIp : ip' = ip :=
            Except.ok.inj (completes'.address.symm.trans completes.address)
          subst ip'
          exact last issuance member _ (List.mem_singleton_self _)
        · intro fresh
          refine ⟨apart, List.pairwise_singleton _ _, ?_⟩
          intro issuance member latest single
          rw [List.mem_singleton.mp single]
          exact fresh ip certPem completes issuance member
  | revokeAgentCert agentId envs => exact ⟨fun _ => trivial, fun _ => apart⟩
  | setEnabled agentId enabled env => exact ⟨fun _ => trivial, fun _ => apart⟩
  | deleteAgent agentId env => exact ⟨fun _ => trivial, fun _ => apart⟩

/-! ## Runs -/

/-- From a database without certificates, at most one certificate of each
agent is usable in every state of a run exactly when no step of it replaces a
certificate. -/
theorem usable_once_iff (ctx : EnrollContext)
    (none : NoRequestedSerials ctx.library) (db : Db)
    (empty : db.agentCerts.rows = []) (ops : List PkiOp) :
    Always (PkiState.step ctx) (UsableOnce ctx) ⟨db, []⟩ ops <->
      Meets (PkiState.step ctx) (NoReplacement ctx) ⟨db, []⟩ ops := by
  have start : SerialsGenerated ctx ⟨db, []⟩ := by
    refine ⟨?_, ?_⟩
    · intro issuance member
      cases member
    · intro row member
      rw [empty] at member
      cases member
  apply always_iff_meets serialsGenerated_step _ start
    ((usableOnce_iff none start).mpr List.Pairwise.nil)
  intro state op generated usable
  rw [usableOnce_iff none (serialsGenerated_step state op generated)]
  exact issued_apart_iff state op ((usableOnce_iff none generated).mp usable)

/-- One agent is enrolled and revoked. -/
theorem usable_once_iff_web :
    Always (PkiState.step recordedContext) (UsableOnce recordedContext)
      ⟨invitedDb, []⟩
      [.enroll
        (recordedCall firstToken webRecord.csrPem "web-01" "10.0.0.1"
          firstSerialId) (quietly 7),
          .revokeAgentCert 7 (quietly 7)] := by
  refine (usable_once_iff recordedContext ?_ invitedDb rfl _).mpr
    ⟨?_, trivial, trivial⟩
  · intro csrPem csr requested
    exact recorded_serialNumber requested
  · intro ip certPem completes issuance member
    cases member

/-- A host enrols, is renamed, and enrols again from the same address. -/
def renamedHost : List PkiOp :=
  [.enroll
    (recordedCall firstToken webRecord.csrPem "web-01" "10.0.0.1" firstSerialId)
    (quietly 7),
      .enroll
      (recordedCall secondToken dbRecord.csrPem "db-01" "10.0.0.1" secondSerialId)
      (quietly 8)]

/-- Both of its certificates are accepted. -/
theorem usable_twice :
    ¬ Always (PkiState.step recordedContext) (UsableOnce recordedContext)
      ⟨invitedDb, []⟩ renamedHost := by
  intro always
  have outcome :
      (after (PkiState.step recordedContext)
        ⟨invitedDb, []⟩ renamedHost).issued.map Issuance.result =
        [⟨7, webRecord.certPem, "ca.crt"⟩, ⟨7, dbRecord.certPem, "ca.crt"⟩] ∧
      revoked (webRecord.csr.params.certificate webRecord.serial).serialText
        (after (PkiState.step recordedContext) ⟨invitedDb, []⟩ renamedHost).db =
          false := by
    decide +kernel
  rcases outcome with ⟨results, unmarked⟩
  have replaced := always.last.replaced
  rw [results] at replaced
  exact (List.pairwise_cons.mp replaced).1 _ (List.mem_singleton_self _) rfl
    ⟨webRecord.der, _, webRecord_contents, webRecord_parsed, unmarked⟩

end Complyx
