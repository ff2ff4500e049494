import Complyx.Pki.Enrollment

namespace Complyx

open Transition Encoding

/-!
# Authentication of agents

A request on the main port is authenticated by its client certificate: the
first common name of the subject is looked up as a hostname, and the serial,
re-encoded from the parsed integer, is looked up among the revoked ones.
-/

/-- The identifier injected into an authenticated request. -/
structure AgentId where
  id : Uuid
  deriving DecidableEq

/-- `hex::encode(cert.serial.to_bytes_be())`. -/
def X509Certificate.serialText (cert : X509Certificate) : String :=
  String.ofList (hexEncode (bytesOfNat cert.serial))

/-- The first common name, where it is readable text. -/
def X509Certificate.cn (cert : X509Certificate) : Option String :=
  cert.commonNames.head?.bind DnValue.asStr

/-- The checks on the presented chain, up to the first database access. -/
def peerCertificate (library : CertLibrary) (peerCerts : Option (List Der)) :
    Except Status (String × X509Certificate) :=
  match peerCerts with
  | none => .error (.unauthenticated "certificado del cliente no presente")
  | some [] => .error (.unauthenticated "cadena de certificados vacia")
  | some (der :: _) =>
      match library.parseX509 der with
      | .error _ => .error (.unauthenticated "certificado de cliente invalido")
      | .ok cert =>
          match cert.cn with
          | none => .error (.unauthenticated "certificado sin CN")
          | some cn => .ok (cn, cert)

/-- The checks on the row found for the common name. -/
def admitAgent : Option AgentRow -> Except Status AgentId
  | none => .error (.unauthenticated "agente no registrado")
  | some agent =>
      if agent.enabled then .ok ⟨agent.id⟩
      else .error (.permissionDenied "agente deshabilitado")

/-- `auth_interceptor`. -/
def authInterceptor (library : CertLibrary) (peerCerts : Option (List Der)) :
    Code Status AgentId := do
  let (cn, cert) <- Program.lift (peerCertificate library peerCerts)
  let isRevoked <- (isCertRevoked cert.serialText).mapError fun _ =>
    .internal "error verificando el certificado"
  if isRevoked then .fail (.unauthenticated "certificado revocado")
  else do
    let agent <- Program.attempt (fun _ => .internal "error de autenticación")
      (.getAgentByHostname cn)
    Program.lift (admitAgent agent)

/-! ## Serial texts -/

private theorem serialText_toList (cert : X509Certificate) :
    cert.serialText.toList = hexEncode (bytesOfNat cert.serial) := by
  rw [X509Certificate.serialText, String.toList_ofList]

theorem serialText_clean (cert : X509Certificate) :
    hasNul cert.serialText = false := by
  apply hasNul_hex
  intro digit member
  exact hexEncode_digit member

/-- Integers that fit a number of bytes have texts of at most two digits for
each. -/
theorem serialText_length {cert : X509Certificate} {bytes : SerialNumber}
    {width : Nat} (positive : 0 < width)
    (decoded : cert.serial = natOfBytes bytes) (short : bytes.length ≤ width) :
    cert.serialText.toList.length ≤ 2 * width := by
  rw [serialText_toList, hexEncode_length, decoded]
  have bound := bytesOfNat_natOfBytes_length positive short
  omega

/-- A serial derived from a public key is written with forty digits at most. -/
theorem serialText_derived (library : CertLibrary)
    {csr : CertificateSigningRequestParams}
    (none : csr.params.serialNumber = none) :
    (csr.params.certificate (library.serialOf csr)).serialText.toList.length ≤
      40 := by
  have derived : library.serialOf csr = library.deriveSerial csr.publicKey := by
    rw [CertLibrary.serialOf, none]
    rfl
  have bound : (library.serialOf csr).length ≤ 20 := by
    rw [derived]
    exact library.deriveSerial_length csr.publicKey
  exact serialText_length (by decide) rfl bound

/-! ## What an authenticated request has passed -/

/-- The first certificate of the chain parses, has a readable common name, is
not revoked, and an enabled agent has that name as its hostname. -/
structure Authenticated (library : CertLibrary) (db : Db) (der : Der)
    (agent : AgentId) : Prop where
  passed : Exists fun cert => Exists fun cn => Exists fun row =>
    library.parseX509 der = .ok cert ∧ cert.cn = some cn ∧
      revoked cert.serialText db = false ∧
    row ∈ db.agents.rows ∧ row.hostname = some cn ∧ row.enabled = true ∧
      row.id = agent.id

theorem run_authInterceptor_ok {library : CertLibrary} {der : Der}
    {rest : List Der} {envs : Nat -> Env} {db : Db} {agent : AgentId}
    (answer :
      (Program.run exec (authInterceptor library (some (der :: rest))) envs
        db).1 = .ok agent) :
    Authenticated library db der agent := by
  have success :
      Program.run exec (authInterceptor library (some (der :: rest))) envs db =
      (.ok agent,
          (Program.run exec (authInterceptor library (some (der :: rest)))
            envs db).2) :=
    Prod.ext answer rfl
  generalize
    (Program.run exec (authInterceptor library (some (der :: rest))) envs db).2 =
    db' at success
  unfold authInterceptor at success
  rw [Program.run_lift_bind] at success
  cases parsed : library.parseX509 der with
  | error failure =>
      simp only [peerCertificate, parsed] at success
      cases congrArg Prod.fst success
  | ok cert =>
  cases named : cert.cn with
  | none =>
      simp only [peerCertificate, parsed, named] at success
      cases congrArg Prod.fst success
  | some cn =>
  simp only [peerCertificate, parsed, named] at success
  rw [Program.run_bind, Program.run_mapError, isCertRevoked,
    Program.run_attempt] at success
  cases read : exec (envs 0) (.isRevoked cert.serialText) db with
  | error failure =>
      simp only [read, Except.mapError] at success
      cases congrArg Prod.fst success
  | ok pair =>
  rcases pair with ⟨mark, db''⟩
  have frame := reading_same (exec_ok read).2
  have sameDb := frame.1
  subst db''
  have checked := frame.2
  rw [isRevoked_of_clean (serialText_clean cert)] at checked
  have sameMark := Except.ok.inj checked
  simp only [read, Except.mapError] at success
  cases mark with
  | true => cases congrArg Prod.fst success
  | false =>
  simp only [Bool.false_eq_true, if_false, Program.run_attempt_bind] at success
  split at success
  · next agentRow db'' found =>
    have frame' := reading_same (exec_ok found).2
    have sameDb' := frame'.1
    subst db''
    cases agentRow with
    | none => cases congrArg Prod.fst success
    | some row =>
        have matched := getAgentByHostname_some frame'.2
        simp only [admitAgent] at success
        cases enabled : row.enabled with
        | false =>
            simp only [enabled, Bool.false_eq_true, if_false] at success
            cases congrArg Prod.fst success
        | true =>
            simp only [enabled, if_true] at success
            have sameAgent := Except.ok.inj (congrArg Prod.fst success)
            refine ⟨cert, cn, row, parsed, named, sameMark, matched.1, matched.2,
              enabled, ?_⟩
            exact congrArg AgentId.id sameAgent
  · cases congrArg Prod.fst success

end Complyx
