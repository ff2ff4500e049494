import Complyx.Db.Statement
import Complyx.Pki.Ca

namespace Complyx

open Transition

/-!
# Enrolment and revocation

Enrolment is a program of four statements: find the token, consume it,
register the agent and store the certificate.  Parsing the address and signing
the request happen between the last two and touch no table.  No transaction
spans the statements.

`Enrollment` lists the ways an enrolment that runs alone can end, with the
state each one leaves.
-/

/-! ## Tokens -/

def databaseFault (cause : DbError) : Fault PkiError := .error (.database cause)

/-- The checks of `validate_and_consume` on the row it found. -/
def checkToken (now : DateTime) :
    Option EnrollTokenRow -> Except (Fault PkiError) EnrollTokenRow
  | none => .error (.error .tokenInvalid)
  | some row =>
      if row.usedAt.isSome then .error (.error .tokenAlreadyUsed)
      else if row.expiresAt < now.naiveUtc then .error (.error .tokenExpired)
      else .ok row

theorem checkToken_ok {now : DateTime} {found : Option EnrollTokenRow}
    {row : EnrollTokenRow} (passed : checkToken now found = .ok row) :
    found = some row ∧ row.usedAt = none ∧ now.naiveUtc ≤ row.expiresAt := by
  cases found with
  | none => cases passed
  | some candidate =>
      simp only [checkToken] at passed
      split at passed
      · cases passed
      · next unused =>
          split at passed
          · cases passed
          · next fresh =>
              have same := Except.ok.inj passed
              subst row
              refine ⟨rfl, ?_, Int.not_lt.mp fresh⟩
              exact Option.not_isSome_iff_eq_none.mp unused

/-- `validate_and_consume`. -/
def validateAndConsume (hashToken : String -> String) (now : DateTime)
    (tokenPlain : String) :
    Code (Fault PkiError) EnrollTokenRow := do
  let found <- Program.attempt databaseFault
    (.findEnrollToken (hashToken tokenPlain))
  let row <- Program.lift (checkToken now found)
  let _ <- Program.attempt databaseFault (.consumeEnrollToken row.id)
  return row

/-! ## Enrolment -/

structure EnrollRequest where
  token : String
  csrPem : String
  hostname : String
  osName : String
  osVersion : String
  remoteIp : String
  deriving DecidableEq

structure EnrollResult where
  agentId : Uuid
  certPem : String
  caCertPem : String
  deriving DecidableEq

/-- What enrolment takes from outside the repository, and the authority. -/
structure EnrollContext where
  library : CertLibrary
  ca : CaInner
  hashToken : String -> String
  parseIp : String -> Except String IpNetwork

/-- One call: its request, the configured validity, and its own clock readings
and random identifier. -/
structure EnrollCall where
  request : EnrollRequest
  validityDays : Int
  checkedAt : DateTime
  draws : SignDraws

/-- The row data of `upsert_agent` in an enrolment. -/
def EnrollRequest.agentData (request : EnrollRequest)
    (ip : IpNetwork) : UpsertAgentData where
  ip := ip
  hostname := some request.hostname
  osName := some request.osName
  osVersion := some request.osVersion

def EnrollContext.address (ctx : EnrollContext) (call : EnrollCall) :
    Except (Fault PkiError) IpNetwork :=
  (ctx.parseIp call.request.remoteIp).mapError fun reason =>
    .error (.invalidIp reason)

def EnrollContext.sign (ctx : EnrollContext) (call : EnrollCall) :
    Except (Fault PkiError) (String × String) :=
  signCsr ctx.library ctx.ca call.draws call.request.csrPem call.request.hostname
    call.validityDays

/-- The steps of `process_enroll` after the token is consumed. -/
def registerAndSign (ctx : EnrollContext) (call : EnrollCall) :
    Code (Fault PkiError) EnrollResult := do
  let ip <- Program.lift (ctx.address call)
  let agentId <- Program.attempt databaseFault
    (.upsertAgent (call.request.agentData ip))
  let signed <- Program.lift (ctx.sign call)
  let _ <- Program.attempt databaseFault (.storeCert agentId signed.1 signed.2)
  return { agentId := agentId, certPem := signed.1, caCertPem :=
    ctx.ca.caCertPem }

/-- `process_enroll`. -/
def processEnroll (ctx : EnrollContext) (call : EnrollCall) :
    Code (Fault PkiError) EnrollResult := do
  let _tokenRow <- validateAndConsume ctx.hashToken call.checkedAt
    call.request.token
  registerAndSign ctx call

/-- The hash a call looks its token up by. -/
def EnrollContext.tokenHash (ctx : EnrollContext) (call : EnrollCall) : String :=
  ctx.hashToken call.request.token

/-- The program from the consumption of a checked row on. -/
def consumeAndRegister (ctx : EnrollContext) (call : EnrollCall)
    (row : EnrollTokenRow) : Code (Fault PkiError) EnrollResult :=
  Program.attempt databaseFault (.consumeEnrollToken row.id) >>= fun _ =>
    registerAndSign ctx call

theorem processEnroll_eq (ctx : EnrollContext) (call : EnrollCall) :
    processEnroll ctx call =
      Program.attempt databaseFault (.findEnrollToken (ctx.tokenHash call)) >>=
        fun found =>
        Program.lift (checkToken call.checkedAt found) >>=
          consumeAndRegister ctx call := by
  simp only [processEnroll, validateAndConsume, Program.bind_assoc,
    Program.pure_eq, Program.done_bind]
  rfl

/-! ## How an enrolment alone ends -/

/-- The state after the token with the row is consumed in its environment. -/
def spent (envs : Nat -> Env) (row : EnrollTokenRow) (db : Db) : Db :=
  consumeEnrollToken (envs 1) row.id db

/-- The token passes: both token statements reach the database and the row
found is unused and unexpired. -/
structure TokenAccepted (ctx : EnrollContext) (call : EnrollCall)
    (envs : Nat -> Env) (db : Db) (row : EnrollTokenRow) : Prop where
  findClear : (envs 0).fault = none
  found : findEnrollToken (ctx.tokenHash call) db = .ok (some row)
  unused : row.usedAt = none
  unexpired : call.checkedAt.naiveUtc ≤ row.expiresAt
  consumeClear : (envs 1).fault = none

inductive Enrollment (ctx : EnrollContext) (call : EnrollCall) (envs : Nat -> Env)
    (db : Db) :
    Except (Fault PkiError) EnrollResult × Db -> Prop where
  /-- Nothing is written before the token is consumed. -/
  | refused (failure : Fault PkiError)
      (rejected : forall row, ¬ TokenAccepted ctx call envs db row) :
      Enrollment ctx call envs db (.error failure, db)
  | noAddress (row : EnrollTokenRow) (failure : Fault PkiError)
      (accepted : TokenAccepted ctx call envs db row)
      (unparsed : ctx.address call = .error failure) :
      Enrollment ctx call envs db (.error failure, spent envs row db)
  | unregistered (row : EnrollTokenRow) (ip : IpNetwork) (failure : DbError)
      (accepted : TokenAccepted ctx call envs db row)
      (parsed : ctx.address call = .ok ip)
      (failed : exec (envs 2) (.upsertAgent (call.request.agentData ip))
        (spent envs row db) = .error failure) :
      Enrollment ctx call envs db
        (.error (databaseFault failure), spent envs row db)
  | unsigned (row : EnrollTokenRow) (ip : IpNetwork) (agentId : Uuid)
      (registered : Db) (failure : Fault PkiError)
      (accepted : TokenAccepted ctx call envs db row)
      (parsed : ctx.address call = .ok ip)
      (upserted : exec (envs 2) (.upsertAgent (call.request.agentData ip))
        (spent envs row db) =
        .ok (agentId, registered))
      (failed : ctx.sign call = .error failure) :
      Enrollment ctx call envs db (.error failure, registered)
  | unstored (row : EnrollTokenRow) (ip : IpNetwork) (agentId : Uuid)
      (registered : Db) (certPem serial : String)
      (failure : DbError) (accepted : TokenAccepted ctx call envs db row)
      (parsed : ctx.address call = .ok ip)
      (upserted : exec (envs 2) (.upsertAgent (call.request.agentData ip))
        (spent envs row db) =
        .ok (agentId, registered))
      (signed : ctx.sign call = .ok (certPem, serial))
      (failed : exec (envs 3) (.storeCert agentId certPem serial) registered =
        .error failure) :
      Enrollment ctx call envs db (.error (databaseFault failure), registered)
  | issued (row : EnrollTokenRow) (ip : IpNetwork) (agentId : Uuid)
      (registered final : Db)
      (certPem serial : String) (accepted : TokenAccepted ctx call envs db row)
      (parsed : ctx.address call = .ok ip)
      (upserted : exec (envs 2) (.upsertAgent (call.request.agentData ip))
        (spent envs row db) =
        .ok (agentId, registered))
      (signed : ctx.sign call = .ok (certPem, serial))
      (stored : exec (envs 3) (.storeCert agentId certPem serial) registered =
        .ok ((), final)) :
      Enrollment ctx call envs db
        (.ok ⟨agentId, certPem, ctx.ca.caCertPem⟩, final)

private theorem not_accepted_of_check {ctx : EnrollContext} {call : EnrollCall}
    {envs : Nat -> Env} {db : Db} {found : Option EnrollTokenRow}
    {failure : Fault PkiError}
    (read : exec (envs 0) (.findEnrollToken (ctx.tokenHash call)) db =
      .ok (found, db))
    (rejected : checkToken call.checkedAt found = .error failure)
    (row : EnrollTokenRow) :
    ¬ TokenAccepted ctx call envs db row := by
  intro accepted
  have answer := (reading_same (exec_ok read).2).2
  rw [accepted.found] at answer
  have same := Except.ok.inj answer
  subst found
  have unused : row.usedAt.isSome = false := by
    rw [accepted.unused]
    rfl
  simp only [checkToken, unused,
    if_neg (Int.not_lt.mpr accepted.unexpired)] at rejected
  cases rejected

/-- The inversion lemma of an enrolment: every execution is one of the listed
ones. -/
theorem run_processEnroll (ctx : EnrollContext) (call : EnrollCall)
    (envs : Nat -> Env) (db : Db) :
    Enrollment ctx call envs db
      (Program.run exec (processEnroll ctx call) envs db) := by
  rw [processEnroll_eq, Program.run_attempt_bind]
  cases read : exec (envs 0) (.findEnrollToken (ctx.tokenHash call)) db with
  | error failure =>
      refine Enrollment.refused _ fun row accepted => ?_
      rw [exec_clear accepted.findClear, Stmt.effect, accepted.found] at read
      cases read
  | ok pair =>
  rcases pair with ⟨found, db'⟩
  have frame := reading_same (exec_ok read).2
  have sameDb := frame.1
  subst db'
  simp only [Program.run_lift_bind]
  cases checked : checkToken call.checkedAt found with
  | error failure =>
      exact Enrollment.refused _ (not_accepted_of_check read checked)
  | ok row =>
  have passed := checkToken_ok checked
  simp only [consumeAndRegister, Program.run_attempt_bind]
  cases clear : (envs 1).fault with
  | some cause =>
      simp only [exec_fault clear]
      refine Enrollment.refused _ fun other accepted => ?_
      rw [accepted.consumeClear] at clear
      cases clear
  | none =>
  have accepted : TokenAccepted ctx call envs db row := by
    refine ⟨(exec_ok read).1, ?_, passed.2.1, passed.2.2, clear⟩
    rw [frame.2, passed.1]
  simp only [exec_clear clear, Stmt.effect, registerAndSign,
    Program.run_lift_bind]
  cases parsed : ctx.address call with
  | error failure => exact Enrollment.noAddress row failure accepted parsed
  | ok ip =>
  simp only [Program.run_attempt_bind, Nat.reduceAdd]
  cases upserted :
      exec (envs 2) (.upsertAgent (call.request.agentData ip))
        (consumeEnrollToken (envs 1) row.id db) with
  | error failure =>
      exact Enrollment.unregistered row ip failure accepted parsed upserted
  | ok pair =>
  rcases pair with ⟨agentId, registered⟩
  simp only [Program.run_lift_bind]
  cases signed : ctx.sign call with
  | error failure =>
      exact Enrollment.unsigned row ip agentId registered failure accepted parsed
        upserted signed
  | ok pair =>
  rcases pair with ⟨certPem, serial⟩
  simp only [Program.run_attempt_bind, Nat.reduceAdd]
  cases stored : exec (envs 3) (.storeCert agentId certPem serial) registered with
  | error failure =>
      exact Enrollment.unstored row ip agentId registered certPem serial failure
        accepted parsed upserted signed stored
  | ok pair =>
  rcases pair with ⟨nothing, final⟩
  exact Enrollment.issued row ip agentId registered final certPem serial accepted
    parsed upserted signed stored

/-! ## What an enrolment writes -/

theorem EnrollContext.sign_serial {ctx : EnrollContext} {call : EnrollCall}
    {certPem serial : String} (signed : ctx.sign call = .ok (certPem, serial)) :
    serial = String.ofList (generateSerial call.draws) :=
  (signCsr_ok signed).1

/-- A generated serial is stored digit by digit. -/
theorem varchar_generateSerial (draws : SignDraws) :
    varchar 64 (String.ofList (generateSerial draws)) =
      .ok (String.ofList (generateSerial draws)) := by
  apply varchar_hex
  · rw [generateSerial_length]
    decide
  · intro digit member
    exact generateSerial_digit member

/-- The enrolment gets as far as registering an agent under the address. -/
structure Registers (ctx : EnrollContext) (call : EnrollCall) (envs : Nat -> Env)
    (db : Db) (ip : IpNetwork) : Prop where
  token : Exists fun row => TokenAccepted ctx call envs db row
  address : ctx.address call = .ok ip
  clear : (envs 2).fault = none
  storable : AgentStorable db (call.request.agentData ip) ((envs 2).fresh 0)

/-- The enrolment meets every condition of every step. -/
structure Completes (ctx : EnrollContext) (call : EnrollCall) (envs : Nat -> Env)
    (db : Db) (ip : IpNetwork) (certPem : String) :
    Prop extends Registers ctx call envs db ip where
  signed :
    ctx.sign call = .ok (certPem, String.ofList (generateSerial call.draws))
  storeClear : (envs 3).fault = none
  pem : hasNul certPem = false
  unshared : forall row, row ∈ db.agentCerts.rows ->
    row.serial = String.ofList (generateSerial call.draws) ->
    row.agentId = registeredId (envs 2) ip db

/-- What an accepted registration step shows about the state before. -/
theorem registers_of_upserted {ctx : EnrollContext} {call : EnrollCall}
    {envs : Nat -> Env} {db : Db} {row : EnrollTokenRow} {ip : IpNetwork}
    {agentId : Uuid} {registered : Db}
    (accepted : TokenAccepted ctx call envs db row)
    (parsed : ctx.address call = .ok ip)
    (upserted : exec (envs 2) (.upsertAgent (call.request.agentData ip))
      (spent envs row db) =
      .ok (agentId, registered)) :
    Registers ctx call envs db ip ∧ agentId = registeredId (envs 2) ip db ∧
      Registered db.agents registered.agents
        (call.request.agentData ip) agentId := by
  have reached := exec_ok upserted
  have storable := upsertAgent_ok_iff.mp ⟨_, reached.2⟩
  refine ⟨⟨⟨row, accepted⟩, parsed, reached.1, ?_⟩, upsertAgent_id reached.2,
    (upsertAgent_registered reached.2).2⟩
  exact ⟨storable.hostname, storable.osName, storable.osVersion, storable.id⟩

private theorem error_ne_ok {ε α : Type} (failure : ε) (result : α) :
    (Except.error failure : Except ε α) ≠ .ok result := by
  intro impossible
  cases impossible

/-- The agents table is either as before, and no certificate was issued, or
one agent was registered, for whom any certificate is. -/
theorem Enrollment.agents {ctx : EnrollContext} {call : EnrollCall}
    {envs : Nat -> Env} {db : Db}
    {outcome : Except (Fault PkiError) EnrollResult × Db}
    (ended : Enrollment ctx call envs db outcome) :
    (outcome.2.agents = db.agents ∧ forall result, outcome.1 ≠ .ok result) ∨
    Exists fun ip => Registers ctx call envs db ip ∧
      Registered db.agents outcome.2.agents (call.request.agentData ip)
        (registeredId (envs 2) ip db) ∧
      forall result, outcome.1 = .ok result ->
        result.agentId = registeredId (envs 2) ip db := by
  cases ended with
  | refused failure rejected => exact Or.inl ⟨rfl, error_ne_ok failure⟩
  | noAddress row failure accepted unparsed =>
      exact Or.inl ⟨rfl, error_ne_ok failure⟩
  | unregistered row ip failure accepted parsed failed =>
      exact Or.inl ⟨rfl, error_ne_ok (databaseFault failure)⟩
  | unsigned row ip agentId registered failure accepted parsed upserted failed =>
      rcases registers_of_upserted accepted parsed upserted with
        ⟨registers, rfl, effect⟩
      exact Or.inr
        ⟨ip, registers, effect, fun result same =>
          absurd same (error_ne_ok _ result)⟩
  | unstored row ip agentId registered certPem serial failure accepted parsed
      upserted signed failed =>
      rcases registers_of_upserted accepted parsed upserted with
        ⟨registers, rfl, effect⟩
      exact Or.inr
        ⟨ip, registers, effect, fun result same =>
          absurd same (error_ne_ok _ result)⟩
  | issued row ip agentId registered final certPem serial accepted parsed upserted
      signed stored =>
      right
      rcases registers_of_upserted accepted parsed upserted with
        ⟨registers, rfl, effect⟩
      have frame := Stmt.effect_frame (exec_ok stored).2
      refine ⟨ip, registers, ?_, fun result same => ?_⟩
      · simp only [frame.agents rfl]
        exact effect
      · rw [← Except.ok.inj same]

/-- The certificates table is either as before, and no certificate was issued,
or the agent's row holds the certificate issued under the generated serial. -/
theorem Enrollment.agentCerts {ctx : EnrollContext} {call : EnrollCall}
    {envs : Nat -> Env} {db : Db}
    {outcome : Except (Fault PkiError) EnrollResult × Db}
    (ended : Enrollment ctx call envs db outcome) :
    (outcome.2.agentCerts = db.agentCerts ∧ forall result,
      outcome.1 ≠ .ok result) ∨
    Exists fun ip => Exists fun certPem => Completes ctx call envs db ip certPem ∧
      outcome.1 = .ok ⟨registeredId (envs 2) ip db, certPem, ctx.ca.caCertPem⟩ ∧
      Stored db.agentCerts outcome.2.agentCerts (envs 3).now
        (registeredId (envs 2) ip db) certPem
        (String.ofList (generateSerial call.draws)) := by
  cases ended with
  | refused failure rejected => exact Or.inl ⟨rfl, error_ne_ok failure⟩
  | noAddress row failure accepted unparsed =>
      exact Or.inl ⟨rfl, error_ne_ok failure⟩
  | unregistered row ip failure accepted parsed failed =>
      exact Or.inl ⟨rfl, error_ne_ok (databaseFault failure)⟩
  | unsigned row ip agentId registered failure accepted parsed upserted failed =>
      have frame := Stmt.effect_frame (exec_ok upserted).2
      exact Or.inl ⟨frame.agentCerts rfl, error_ne_ok _⟩
  | unstored row ip agentId registered certPem serial failure accepted parsed
      upserted signed failed =>
      have frame := Stmt.effect_frame (exec_ok upserted).2
      exact Or.inl ⟨frame.agentCerts rfl, error_ne_ok _⟩
  | issued row ip agentId registered final certPem serial accepted parsed upserted
      signed stored =>
      right
      rcases registers_of_upserted accepted parsed upserted with
        ⟨registers, rfl, _⟩
      have frame := Stmt.effect_frame (exec_ok upserted).2
      have generated := EnrollContext.sign_serial signed
      subst serial
      have reached := exec_ok stored
      have storable := storable_of_storeCert reached.2
      rcases storeCert_stored reached.2 with ⟨_, text, fits, effect⟩
      rw [varchar_generateSerial] at fits
      have sameText := Except.ok.inj fits
      subst text
      rw [frame.agentCerts rfl] at effect
      refine ⟨ip, certPem, ⟨registers, signed, reached.1, storable.pem, ?_⟩,
        rfl, effect⟩
      rcases storable.serial with ⟨text, fits, unshared⟩
      rw [varchar_generateSerial] at fits
      have sameText := Except.ok.inj fits
      subst text
      rw [frame.agentCerts rfl] at unshared
      exact unshared

/-- The registration step succeeds where it can. -/
theorem upserted_of_registers {ctx : EnrollContext} {call : EnrollCall}
    {envs : Nat -> Env} {db : Db} {ip : IpNetwork}
    (registers : Registers ctx call envs db ip) (row : EnrollTokenRow) :
    Exists fun result =>
      exec (envs 2) (.upsertAgent (call.request.agentData ip))
        (spent envs row db) = .ok result := by
  have storable :
      AgentStorable (spent envs row db) (call.request.agentData ip)
        ((envs 2).fresh 0) :=
    ⟨registers.storable.hostname, registers.storable.osName,
      registers.storable.osVersion, registers.storable.id⟩
  rcases upsertAgent_ok_iff.mpr storable with ⟨result, accepted⟩
  exact ⟨result, (exec_clear registers.clear _ _).trans accepted⟩

/-- The storing step succeeds where it can: the agent was just registered. -/
private theorem stored_of_completes {ctx : EnrollContext} {call : EnrollCall}
    {envs : Nat -> Env} {db : Db} {ip : IpNetwork} {certPem : String}
    (completes : Completes ctx call envs db ip certPem) {row : EnrollTokenRow}
    {agentId : Uuid} {registered : Db}
    (accepted : TokenAccepted ctx call envs db row)
    (upserted : exec (envs 2) (.upsertAgent (call.request.agentData ip))
      (spent envs row db) =
      .ok (agentId, registered)) :
    Exists fun final => exec (envs 3)
      (.storeCert agentId certPem (String.ofList (generateSerial call.draws)))
        registered = .ok ((), final) := by
  rcases registers_of_upserted accepted completes.address upserted with
    ⟨_, rfl, effect⟩
  have frame := Stmt.effect_frame (exec_ok upserted).2
  have storable : CertStorable registered (registeredId (envs 2) ip db) certPem
      (String.ofList (generateSerial call.draws)) := by
    refine ⟨completes.pem, ⟨_, varchar_generateSerial call.draws, ?_⟩, Or.inr ?_⟩
    · rw [frame.agentCerts rfl]
      exact completes.unshared
    · rcases effect.rows with ⟨row, rowId, _, _, rows⟩
      exact Db.hasAgent_iff.mpr ⟨row, (rows row).mpr (Or.inr rfl), rowId⟩
  rcases storeCert_of_storable storable (envs 3) with ⟨final, stored⟩
  exact ⟨final, (exec_clear completes.storeClear _ _).trans stored⟩

/-- An enrolment that meets every condition issues a certificate. -/
theorem Enrollment.ok_of_completes {ctx : EnrollContext} {call : EnrollCall}
    {envs : Nat -> Env} {db : Db} {ip : IpNetwork} {certPem : String}
    {outcome : Except (Fault PkiError) EnrollResult × Db}
    (ended : Enrollment ctx call envs db outcome)
    (completes : Completes ctx call envs db ip certPem) :
    Exists fun result => outcome.1 = .ok result := by
  cases ended with
  | refused failure rejected =>
      rcases completes.token with ⟨row, accepted⟩
      exact absurd accepted (rejected row)
  | noAddress row failure accepted unparsed =>
      rw [completes.address] at unparsed
      cases unparsed
  | unregistered row ip' failure accepted parsed failed =>
      have sameIp := Except.ok.inj (parsed.symm.trans completes.address)
      subst ip'
      rcases upserted_of_registers completes.toRegisters row with
        ⟨result, upserted⟩
      rw [upserted] at failed
      cases failed
  | unsigned row ip' agentId registered failure accepted parsed upserted failed =>
      rw [completes.signed] at failed
      cases failed
  | unstored row ip' agentId registered certPem' serial failure accepted parsed
      upserted signed failed =>
      have sameIp := Except.ok.inj (parsed.symm.trans completes.address)
      subst ip'
      have sameSigned := Except.ok.inj (signed.symm.trans completes.signed)
      rw [Prod.mk.injEq] at sameSigned
      rcases sameSigned with ⟨rfl, rfl⟩
      rcases stored_of_completes completes accepted upserted with ⟨final, stored⟩
      rw [stored] at failed
      cases failed
  | issued row ip' agentId registered final certPem' serial accepted parsed
      upserted signed stored =>
      exact ⟨_, rfl⟩

/-! ## Revocation -/

/-- `revoke_agent_cert`. -/
def revokeAgentCert (agentId : Uuid) : Code PkiError Unit := do
  let found <- Program.attempt PkiError.database (Stmt.getCert agentId)
  match found with
  | none => .fail (.agentNotFound agentId)
  | some cert =>
      if cert.revokedAt.isSome then return ()
      else Program.attempt PkiError.database (Stmt.revokeCert agentId)

/-- `is_cert_revoked`. -/
def isCertRevoked (serial : String) : Code PkiError Bool :=
  Program.attempt PkiError.database (Stmt.isRevoked serial)

/-- A revocation leaves the certificate table or writes the agent's mark. -/
theorem run_revokeAgentCert (agentId : Uuid) (envs : Nat -> Env) (db : Db) :
    (Program.run exec (revokeAgentCert agentId) envs db).2 = db ∨
    (Program.run exec (revokeAgentCert agentId) envs db).2 =
      revokeCert (envs 1) agentId db := by
  simp only [revokeAgentCert, Program.run_attempt_bind]
  cases read : exec (envs 0) (.getCert agentId) db with
  | error failure => exact Or.inl rfl
  | ok pair =>
  rcases pair with ⟨found, db'⟩
  have sameDb := (reading_same (exec_ok read).2).1
  subst db'
  cases found with
  | none => exact Or.inl rfl
  | some cert =>
      simp only
      split
      · exact Or.inl rfl
      · rw [Program.run_attempt]
        cases clear : (envs 1).fault with
        | some cause =>
            left
            rw [exec_fault clear]
        | none =>
            right
            simp only [exec_clear clear, Stmt.effect]

/-- A revocation that succeeds leaves the agent with a revoked certificate. -/
theorem run_revokeAgentCert_ok {agentId : Uuid} {envs : Nat -> Env} {db db' : Db}
    (success : Program.run exec (revokeAgentCert agentId) envs db =
      (.ok (), db')) :
    Exists fun row => row ∈ db.agentCerts.rows ∧ row.agentId = agentId ∧
      revoked row.serial db' = true := by
  simp only [revokeAgentCert, Program.run_attempt_bind] at success
  cases read : exec (envs 0) (.getCert agentId) db with
  | error failure =>
      rw [read] at success
      cases congrArg Prod.fst success
  | ok pair =>
  rcases pair with ⟨found, db''⟩
  have frame := reading_same (exec_ok read).2
  have sameDb := frame.1
  subst db''
  rw [read] at success
  cases found with
  | none => cases congrArg Prod.fst success
  | some cert =>
      have present := getCert_some_iff.mp (Except.ok.inj frame.2)
      refine ⟨cert, present.1, present.2, ?_⟩
      simp only at success
      split at success
      · next already =>
          have same := congrArg Prod.snd success
          simp only [Program.pure_eq, Program.run_done] at same
          subst db'
          exact revoked_iff.mpr ⟨cert, present.1, rfl, already⟩
      · rw [Program.run_attempt] at success
        cases clear : (envs 1).fault with
        | some cause =>
            rw [exec_fault clear] at success
            cases congrArg Prod.fst success
        | none =>
            simp only [exec_clear clear, Stmt.effect] at success
            have same := congrArg Prod.snd success
            simp only at same
            subst db'
            refine revoked_iff.mpr
              ⟨{ cert with revokedAt := some (envs 1).now }, ?_, rfl, rfl⟩
            exact mem_revokeCert.mpr (Or.inr ⟨cert, present.1, present.2, rfl⟩)

end Complyx
