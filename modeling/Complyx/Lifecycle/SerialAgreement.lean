import Complyx.Grpc.Interceptor
import Complyx.Pki.Samples

namespace Complyx

open Transition Encoding Relational

/-!
# Is the stored serial the one looked up?

Signing returns the generated text and enrolment stores it.  Authentication
reads the serial of the certificate, re-encodes it and looks that text up.  The
certificate gets its serial from the request, or else from the public key, so
the two texts agree only if the request brought the generated serial along.
-/

/-- The text looked up for the certificate is the text stored for it, and
therefore a revocation of the agent is noticed. -/
structure SerialsAgree (ctx : EnrollContext) (call : EnrollCall)
    (certPem serial : String) : Prop where
  same : forall der cert, ctx.library.pemContents certPem = some der ->
    ctx.library.parseX509 der = .ok cert ->
    cert.serialText = serial
  noticed : forall der cert, ctx.library.pemContents certPem = some der ->
    ctx.library.parseX509 der = .ok cert ->
    forall enrolEnvs revokeEnvs checkEnvs db enrolled revokedDb result,
      Program.run exec (processEnroll ctx call) enrolEnvs db =
        (.ok result, enrolled) ->
      Program.run exec (revokeAgentCert result.agentId) revokeEnvs enrolled =
        (.ok (), revokedDb) ->
      (checkEnvs 0).fault = none ->
      (Program.run exec (isCertRevoked cert.serialText) checkEnvs revokedDb).1 =
        .ok true

/-- The request holds a serial of its own whose integer is written as the
generated text. -/
def BringsSerial (csr : CertificateSigningRequestParams)
    (draws : SignDraws) : Prop :=
  Exists fun bytes => csr.params.serialNumber = some bytes ∧
    hexEncode (bytesOfNat (natOfBytes bytes)) = generateSerial draws

/-- Derived serials have fewer digits than generated ones. -/
theorem derived_serialText_ne (library : CertLibrary)
    (csr : CertificateSigningRequestParams) (draws : SignDraws)
    (none : csr.params.serialNumber = none) :
    (csr.params.certificate (library.serialOf csr)).serialText ≠ String.ofList
      (generateSerial draws) := by
  intro same
  have short := serialText_derived library none
  rw [same, String.toList_ofList, generateSerial_length] at short
  omega

private theorem bringsSerial_of_same {library : CertLibrary}
    {csr : CertificateSigningRequestParams} {draws : SignDraws}
    (same : (csr.params.certificate (library.serialOf csr)).serialText =
      String.ofList (generateSerial draws)) :
    BringsSerial csr draws := by
  cases own : csr.params.serialNumber with
  | none => exact absurd same (derived_serialText_ne library csr draws own)
  | some bytes =>
      refine ⟨bytes, own, ?_⟩
      have used : library.serialOf csr = bytes := by
        rw [CertLibrary.serialOf, own]
        rfl
      have texts := congrArg String.toList same
      rw [used, String.toList_ofList, X509Certificate.serialText,
        String.toList_ofList] at texts
      exact texts

private theorem same_of_bringsSerial {library : CertLibrary}
    {csr : CertificateSigningRequestParams} {draws : SignDraws}
    (brings : BringsSerial csr draws) :
    (csr.params.certificate (library.serialOf csr)).serialText =
      String.ofList (generateSerial draws) := by
  rcases brings with ⟨bytes, own, written⟩
  have used : library.serialOf csr = bytes := by
    rw [CertLibrary.serialOf, own]
    rfl
  rw [used, X509Certificate.serialText, ← written]
  rfl

/-- After an enrolment and a revocation of its agent, the stored serial is
answered as revoked. -/
theorem revoked_after_revocation {ctx : EnrollContext} {call : EnrollCall}
    {enrolEnvs revokeEnvs : Nat -> Env} {db enrolled revokedDb : Db}
    {result : EnrollResult}
    (success : Program.run exec (processEnroll ctx call) enrolEnvs db =
      (.ok result, enrolled))
    (done : Program.run exec (revokeAgentCert result.agentId) revokeEnvs
      enrolled = (.ok (), revokedDb)) :
    revoked (String.ofList (generateSerial call.draws)) revokedDb = true := by
  have ended := run_processEnroll ctx call enrolEnvs db
  rw [success] at ended
  rcases ended.agentCerts with ⟨_, failed⟩ | ⟨ip, certPem, _, issued, effect⟩
  · exact absurd rfl (failed result)
  · have sameResult := Except.ok.inj issued
    have written := (effect.rows _).mpr (Or.inr rfl)
    rcases run_revokeAgentCert_ok done with ⟨row, member, owner, marked⟩
    rw [sameResult] at owner
    have equal :=
      Table.eq_of_key AgentCertRow.agentId_separates enrolled.agentCerts member
        written owner
    rw [equal] at marked
    exact marked

/-- The serials agree, and revocation is noticed, exactly for requests that
bring the generated serial. -/
theorem serials_agree_iff (ctx : EnrollContext) (call : EnrollCall)
    (certPem serial : String) (signed : ctx.sign call = .ok (certPem, serial)) :
    SerialsAgree ctx call certPem serial <->
      Exists fun csr => ctx.library.csrFromPem call.request.csrPem = .ok csr ∧
        BringsSerial csr call.draws := by
  rcases signCsr_ok signed with ⟨generated, csr, der, certifies⟩
  constructor
  · intro agree
    refine ⟨csr, certifies.requested, ?_⟩
    refine @bringsSerial_of_same ctx.library csr call.draws ?_
    rw [← generated]
    exact agree.same der _ certifies.contents certifies.parsed
  · rintro ⟨csr', requested, brings⟩
    have sameCsr := Except.ok.inj (requested.symm.trans certifies.requested)
    subst csr'
    have texts : forall der' cert, ctx.library.pemContents certPem = some der' ->
        ctx.library.parseX509 der' = .ok cert ->
          cert.serialText = String.ofList (generateSerial call.draws) := by
      intro der' cert contents parsed
      have sameDer := Option.some.inj (contents.symm.trans certifies.contents)
      subst der'
      have sameCert := Except.ok.inj (parsed.symm.trans certifies.parsed)
      rw [sameCert]
      exact same_of_bringsSerial brings
    refine ⟨?_, ?_⟩
    · intro der' cert contents parsed
      rw [generated]
      exact texts der' cert contents parsed
    · intro der' cert contents parsed enrolEnvs revokeEnvs checkEnvs db enrolled
        revokedDb result success done clear
      rw [isCertRevoked, Program.run_attempt, exec_clear clear, Stmt.effect,
        isRevoked_of_clean (serialText_clean cert),
          texts der' cert contents parsed,
        revoked_after_revocation success done]
      rfl

/-- The call of the host `web-01`. -/
def webCall : EnrollCall :=
      recordedCall firstToken webRecord.csrPem "web-01" "10.0.0.1" firstSerialId

/-- The serial generated for that call. -/
def webSerial : String := "18867251edfa00000f8fad5bd9cb469fa16570867728950e"

theorem serials_agree_iff_web :
    SerialsAgree recordedContext webCall webRecord.certPem webSerial <->
      Exists fun csr =>
        recordedContext.library.csrFromPem webCall.request.csrPem = .ok csr ∧
        BringsSerial csr webCall.draws :=
  serials_agree_iff recordedContext webCall webRecord.certPem webSerial
    (by decide +kernel)

/-- The certificate of `web-01` is looked up under the forty digits derived from
its key, not under the forty-eight stored. -/
theorem serials_disagree :
    ¬ SerialsAgree recordedContext webCall webRecord.certPem webSerial := by
  intro agree
  have looked : (webRecord.csr.params.certificate webRecord.serial).serialText =
      "3a1ab1e2411bd2ba681fe77a13185b91a2f43736" := by
    decide +kernel
  have same := agree.same webRecord.der _ webRecord_contents webRecord_parsed
  rw [looked] at same
  exact absurd same (by decide)

end Complyx
