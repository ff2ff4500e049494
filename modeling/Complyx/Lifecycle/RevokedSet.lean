import Complyx.Pki.Enrollment

namespace Complyx

open Transition Relational

/-!
# Does revocation last?

The revoked set is what `is_revoked` answers true on.  It is followed along
runs of the operations that write `agents` and `agent_certs`.  Registration
and revocation only ever keep or enlarge it.  Storing a certificate and
deleting an agent both drop the agent's row, and with it the only record that
its serial was revoked.
-/

/-- The serial is answered as revoked. -/
def AnswersRevoked (db : Db) (serial : String) : Prop :=
  isRevoked serial db = .ok true

/-- Every serial answered as revoked before is so afterwards. -/
def KeepsRevoked (before later : Db) : Prop :=
  forall serial, AnswersRevoked before serial -> AnswersRevoked later serial

theorem KeepsRevoked.refl (db : Db) : KeepsRevoked db db :=
  fun _ answered => answered

theorem KeepsRevoked.trans {first second third : Db}
    (left : KeepsRevoked first second) (right : KeepsRevoked second third) :
    KeepsRevoked first third :=
  fun serial answered => right serial (left serial answered)

theorem answersRevoked_iff {db : Db} {serial : String} :
    AnswersRevoked db serial <-> hasNul serial = false ∧
      Exists fun row => row ∈ db.agentCerts.rows ∧ row.serial = serial ∧
        row.revokedAt.isSome = true := by
  rw [← revoked_iff]
  constructor
  · intro answered
    have clean : hasNul serial = false := by
      unfold AnswersRevoked isRevoked at answered
      cases accepted : textParam serial with
      | error failure =>
          rw [accepted] at answered
          cases answered
      | ok text => exact (textParam_ok accepted).2
    unfold AnswersRevoked at answered
    rw [isRevoked_of_clean clean] at answered
    exact ⟨clean, Except.ok.inj answered⟩
  · rintro ⟨clean, marked⟩
    rw [AnswersRevoked, isRevoked_of_clean clean, marked]

theorem keepsRevoked_of_same {before later : Db}
    (same : later.agentCerts = before.agentCerts) :
    KeepsRevoked before later := by
  intro serial answered
  rw [answersRevoked_iff] at answered ⊢
  rw [same]
  exact answered

/-! ## The operations -/

inductive CertOp where
  | upsertAgent (data : UpsertAgentData) (env : Env)
  | storeCert (agentId : Uuid) (certPem serial : String) (env : Env)
  | deleteAgent (agentId : Uuid) (env : Env)
  | revokeAgentCert (agentId : Uuid) (envs : Nat -> Env)

/-- The state an operation leaves, whatever it answers. -/
def CertOp.step (db : Db) : CertOp -> Db
  | .upsertAgent data env => (Program.perform exec env (.upsertAgent data) db).2
  | .storeCert agentId certPem serial env =>
      (Program.perform exec env (.storeCert agentId certPem serial) db).2
  | .deleteAgent agentId env =>
      (Program.perform exec env (.deleteAgent agentId) db).2
  | .revokeAgentCert agentId envs =>
      (Program.run exec (Complyx.revokeAgentCert agentId) envs db).2

/-- The agent has no certificate that is answered as revoked. -/
def Spares (db : Db) (agentId : Uuid) : Prop :=
  forall row, row ∈ db.agentCerts.rows -> row.agentId = agentId ->
    ¬ AnswersRevoked db row.serial

/-- No operation that reaches the database drops a revoked certificate. -/
def CertOp.Permitted (db : Db) : CertOp -> Prop
  | .upsertAgent _ _ => True
  | .storeCert agentId certPem serial env =>
      env.fault = none -> CertStorable db agentId certPem serial ->
        Spares db agentId
  | .deleteAgent agentId env => env.fault = none -> Spares db agentId
  | .revokeAgentCert _ _ => True

/-! ## One operation -/

/-- Where the rows of one agent go and all others stay, the revoked set is
kept exactly if that agent had no revoked certificate. -/
private theorem keepsRevoked_iff_spares {before later : Db} {agentId : Uuid}
    (dropped : forall row, row ∈ later.agentCerts.rows ->
      row.revokedAt.isSome = true ->
      row ∈ before.agentCerts.rows ∧ row.agentId ≠ agentId)
    (kept : forall row, row ∈ before.agentCerts.rows -> row.agentId ≠ agentId ->
      row ∈ later.agentCerts.rows) :
    KeepsRevoked before later <-> Spares before agentId := by
  constructor
  · intro keeps row member here answered
    rcases (answersRevoked_iff.mp (keeps row.serial answered)).2 with
      ⟨other, otherMember, same, marked⟩
    have old := dropped other otherMember marked
    have equal :=
      Table.eq_of_key AgentCertRow.serial_separates before.agentCerts
        old.1 member same
    rw [equal] at old
    exact old.2 here
  · intro spares serial answered
    rcases answersRevoked_iff.mp answered with ⟨clean, row, member, same, marked⟩
    have elsewhere : row.agentId ≠ agentId := by
      intro here
      apply spares row member here
      rw [same]
      exact answered
    exact answersRevoked_iff.mpr
      ⟨clean, row, kept row member elsewhere, same, marked⟩

private theorem keepsRevoked_revokeCert (env : Env) (agentId : Uuid) (db : Db) :
    KeepsRevoked db (revokeCert env agentId db) := by
  intro serial answered
  rcases answersRevoked_iff.mp answered with ⟨clean, row, member, same, marked⟩
  by_cases here : row.agentId = agentId
  · have written :
        { row with
          revokedAt :=
            some env.now } ∈ (revokeCert env agentId db).agentCerts.rows :=
      mem_revokeCert.mpr (Or.inr ⟨row, member, here, rfl⟩)
    exact answersRevoked_iff.mpr
      ⟨clean, { row with revokedAt := some env.now }, written, same, rfl⟩
  · have kept : row ∈ (revokeCert env agentId db).agentCerts.rows :=
      mem_revokeCert.mpr (Or.inl ⟨member, here⟩)
    exact answersRevoked_iff.mpr ⟨clean, row, kept, same, marked⟩

private theorem keepsRevoked_storeCert_iff (agentId : Uuid)
    (certPem serial : String) (env : Env) (db : Db) :
    KeepsRevoked db (CertOp.step db (.storeCert agentId certPem serial env)) <->
      CertOp.Permitted db (.storeCert agentId certPem serial env) := by
  cases outcome : exec env (.storeCert agentId certPem serial) db with
  | error failure =>
      simp only [CertOp.step, Program.perform_error outcome]
      refine ⟨fun _ clear storable => ?_, fun _ => KeepsRevoked.refl db⟩
      rcases storeCert_of_storable storable env with ⟨db', accepted⟩
      rw [exec_clear clear, Stmt.effect, accepted] at outcome
      cases outcome
  | ok pair =>
      rcases pair with ⟨nothing, db'⟩
      have reached := exec_ok outcome
      rcases storeCert_stored reached.2 with ⟨_, stored, _, effect⟩
      have storable := storable_of_storeCert reached.2
      simp only [CertOp.step, Program.perform_ok outcome]
      have spared : KeepsRevoked db db' <-> Spares db agentId := by
        apply keepsRevoked_iff_spares
        · intro row member marked
          rcases (effect.rows row).mp member with old | new
          · exact old
          · rw [new] at marked
            cases marked
        · intro row member elsewhere
          exact (effect.rows row).mpr (Or.inl ⟨member, elsewhere⟩)
      rw [spared]
      exact ⟨fun spares _ _ => spares, fun permitted =>
        permitted reached.1 storable⟩

private theorem keepsRevoked_deleteAgent_iff (agentId : Uuid) (env : Env)
    (db : Db) :
    KeepsRevoked db (CertOp.step db (.deleteAgent agentId env)) <->
      CertOp.Permitted db (.deleteAgent agentId env) := by
  cases clear : env.fault with
  | some cause =>
      simp only [CertOp.step, Program.perform_error (exec_fault clear _ db),
        CertOp.Permitted, clear]
      refine ⟨fun _ impossible => ?_, fun _ => KeepsRevoked.refl db⟩
      cases impossible
  | none =>
      have reached :
          exec env (.deleteAgent agentId) db = .ok ((), deleteAgent agentId db) :=
            exec_clear clear _ _
      have rows : (deleteAgent agentId db).agentCerts.rows =
          db.agentCerts.rows.filter fun row => row.agentId ≠ agentId := rfl
      simp only [CertOp.step, Program.perform_ok reached, CertOp.Permitted, clear,
        forall_const]
      apply keepsRevoked_iff_spares
      · intro row member _
        rw [rows, List.mem_filter, decide_eq_true_eq] at member
        exact member
      · intro row member elsewhere
        rw [rows, List.mem_filter, decide_eq_true_eq]
        exact ⟨member, elsewhere⟩

/-- An operation keeps the revoked set exactly when it is permitted. -/
theorem CertOp.keepsRevoked_iff (db : Db) (op : CertOp) :
    KeepsRevoked db (op.step db) <-> op.Permitted db := by
  cases op with
  | upsertAgent data env =>
      have frame := (perform_frame env (.upsertAgent data) db).agentCerts rfl
      exact ⟨fun _ => trivial, fun _ => keepsRevoked_of_same frame⟩
  | storeCert agentId certPem serial env =>
      exact keepsRevoked_storeCert_iff agentId certPem serial env db
  | deleteAgent agentId env => exact keepsRevoked_deleteAgent_iff agentId env db
  | revokeAgentCert agentId envs =>
      refine ⟨fun _ => trivial, fun _ => ?_⟩
      rcases run_revokeAgentCert agentId envs db with same | marked
      · rw [CertOp.step, same]
        exact KeepsRevoked.refl db
      · rw [CertOp.step, marked]
        exact keepsRevoked_revokeCert (envs 1) agentId db

/-! ## Runs -/

/-- Revocation lasts along a run exactly when no step of the run drops a
revoked certificate. -/
theorem revocation_persists_iff (start : Db) (ops : List CertOp) :
    Persists CertOp.step KeepsRevoked start ops <->
      Meets CertOp.step CertOp.Permitted start ops :=
  persists_iff_meets KeepsRevoked.refl KeepsRevoked.trans
    CertOp.keepsRevoked_iff start ops

def compromisedSerial : String :=
      "18f3c2a1b0d4e5f60f1e2d3c4b5a69788796a5b4c3d2e1f0"

/-- An agent enrols, is revoked and enrols anew, from an empty database. -/
def revokedAndRenewed : List CertOp :=
  let env : Env := { now := 0, fresh := fun _ => 1 }
  [.upsertAgent ⟨.host 0x0a000001, some "web-01", some "Linux", some "6.8"⟩ env,
    .storeCert 1 "first" compromisedSerial env,
    .revokeAgentCert 1 (fun _ => env),
    .storeCert 1 "second" "18f3c2a1c7e8f9a00123456789abcdef0123456789abcdef" env]

/-- The revoked serial is answered as good once the agent enrolled anew. -/
theorem revocation_lost : ¬ Persists CertOp.step KeepsRevoked
    {} revokedAndRenewed := by
  intro persists
  have kept :=
    persists (revokedAndRenewed.take 3) revokedAndRenewed
      (List.take_prefix _ _) List.prefix_rfl
  have clean : hasNul compromisedSerial = false := by decide +kernel
  have marked :
      revoked compromisedSerial
        (after CertOp.step {} (revokedAndRenewed.take 3)) = true := by
    decide +kernel
  have forgotten :
      revoked compromisedSerial (after CertOp.step {} revokedAndRenewed) =
        false := by
    decide +kernel
  have later :=
    kept compromisedSerial
      ((isRevoked_of_clean clean _).trans (congrArg Except.ok marked))
  unfold AnswersRevoked at later
  rw [isRevoked_of_clean clean, forgotten] at later
  cases later

end Complyx
