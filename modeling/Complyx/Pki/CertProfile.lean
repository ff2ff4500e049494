import Complyx.Pki.Samples

namespace Complyx

open Relational Encoding

/-!
# Who decides a certificate

The server prepares parameters for every certificate it signs, and then signs
the parameters of the request.  What a certificate shows is what the server
prepared exactly if the request asked for it.
-/

/-- What a certificate shows of its parameters. -/
structure CertProfile where
  subject : DistinguishedName
  notBefore : CalendarDate
  notAfter : CalendarDate
  isCa : Bool
  keyUsages : List KeyUsagePurpose
  extendedKeyUsages : List ExtendedKeyUsagePurpose
  deriving DecidableEq

def X509Certificate.profile (cert : X509Certificate) : CertProfile :=
  ⟨cert.subject, cert.notBefore, cert.notAfter, cert.isCa, cert.keyUsages,
    cert.extendedKeyUsages⟩

def CertificateParams.profile (params : CertificateParams) : CertProfile :=
  ⟨params.distinguishedName, params.notBefore, params.notAfter, params.isCa,
    params.keyUsages, params.extendedKeyUsages⟩

/-- The profile of an agent's certificate. -/
def agentProfile (hostname : String)
    (issued expiry : DateTime) : CertProfile where
  subject :=
    [(.commonName, .utf8String hostname),
      (.organizationName, .utf8String "Complyx Agent")]
  notBefore := ⟨issued.year, issued.month, issued.day⟩
  notAfter := ⟨expiry.year, expiry.month, expiry.day⟩
  isCa := false
  keyUsages := [.digitalSignature]
  extendedKeyUsages := [.clientAuth]

/-- The moment at which a certificate of the given validity expires. -/
def ExpiresAfter (draws : SignDraws) (validityDays : Int)
    (expiry : DateTime) : Prop :=
  expiry.nanos = draws.now.nanos + validityDays * secsPerDay * nanosPerSec

theorem dateTimeYmd_ok {time : DateTime} {date : CalendarDate}
    (built : dateTimeYmd time = .ok date) :
    date = ⟨time.year, time.month, time.day⟩ := by
  unfold dateTimeYmd at built
  split at built
  · exact (Except.ok.inj built).symm
  · cases built

/-- The parameters the server prepares are those of an agent's certificate. -/
theorem agentParams_profile {draws : SignDraws} {hostname : String}
    {validityDays : Int} {params : CertificateParams}
    (prepared : agentParams draws hostname validityDays = .ok params) :
    Exists fun expiry =>
      ExpiresAfter draws validityDays expiry ∧
        params.profile = agentProfile hostname draws.now expiry := by
  unfold agentParams at prepared
  rcases bind_eq_ok.mp prepared with ⟨duration, spanned, prepared⟩
  rcases bind_eq_ok.mp prepared with ⟨expiry, added, prepared⟩
  rcases bind_eq_ok.mp prepared with ⟨notBefore, fromDate, prepared⟩
  rcases bind_eq_ok.mp prepared with ⟨notAfter, toDate, prepared⟩
  split at prepared
  · cases prepared
  cases prepared
  refine ⟨expiry, ?_, ?_⟩
  · rw [ExpiresAfter, DateTime.add_nanos added, DateTime.durationDays_ok spanned]
  · rw [dateTimeYmd_ok fromDate, dateTimeYmd_ok toDate]
    rfl

/-- The certificate in PEM is read as the given one. -/
def CertLibrary.Shows (library : CertLibrary) (certPem : String)
    (cert : X509Certificate) : Prop :=
  Exists fun der => library.pemContents certPem = some der ∧
    library.parseX509 der = .ok cert

theorem CertLibrary.Shows.unique {library : CertLibrary} {certPem : String}
    {first second : X509Certificate} (shown : library.Shows certPem first)
    (shown' : library.Shows certPem second) : first = second := by
  rcases shown with ⟨der, contents, parsed⟩
  rcases shown' with ⟨der', contents', parsed'⟩
  cases contents.symm.trans contents'
  exact Except.ok.inj (parsed.symm.trans parsed')

/-- Both certificates have the profile, and they have the same serial. -/
structure DecidedByServer (profile : CertProfile)
    (cert cert' : X509Certificate) : Prop where
  first : cert.profile = profile
  second : cert'.profile = profile
  serial : cert.serial = cert'.serial

/-- Two requests for one key bring the same serial, or none. -/
def SameSerial (library : CertLibrary) (key : PublicKey)
    (first second : CertificateParams) : Prop :=
  natOfBytes (first.serialNumber.getD (library.deriveSerial key)) =
    natOfBytes (second.serialNumber.getD (library.deriveSerial key))

/-- A signature is made for prepared parameters, and shows those of the request. -/
theorem signCsr_shows {library : CertLibrary} {ca : CaInner} {draws : SignDraws}
    {csrPem hostname : String} {validityDays : Int} {certPem serial : String}
    {csr : CertificateSigningRequestParams}
    (requested : library.csrFromPem csrPem = .ok csr)
    (signed : signCsr library ca draws csrPem hostname validityDays =
      .ok (certPem, serial)) :
    (Exists fun params => agentParams draws hostname validityDays = .ok params) ∧
      library.Shows certPem (csr.params.certificate (library.serialOf csr)) := by
  rcases signCsr_ok signed with ⟨_, read, der, certifies⟩
  cases certifies.requested.symm.trans requested
  refine ⟨?_, der, certifies.contents, certifies.parsed⟩
  unfold signCsr at signed
  rcases bind_eq_ok.mp signed with ⟨_, _, signed⟩
  rcases bind_eq_ok.mp signed with ⟨params, prepared, _⟩
  exact ⟨params, prepared⟩

/-- Two certificates for the same key, hostname, validity, clock and serial are
what the server decides exactly if both requests ask for just that, and for one
serial. -/
theorem decided_by_server_iff (library : CertLibrary) (ca : CaInner)
    (draws : SignDraws) (hostname : String) (validityDays : Int)
    (csrPem csrPem' certPem certPem' serial serial' : String)
    (csr csr' : CertificateSigningRequestParams)
    (requested : library.csrFromPem csrPem = .ok csr)
    (requested' : library.csrFromPem csrPem' = .ok csr')
    (sameKey : csr'.publicKey = csr.publicKey)
    (signed : signCsr library ca draws csrPem hostname validityDays =
      .ok (certPem, serial))
    (signed' : signCsr library ca draws csrPem' hostname validityDays =
      .ok (certPem', serial')) :
    Exists fun cert => Exists fun cert' => Exists fun expiry =>
      library.Shows certPem cert ∧ library.Shows certPem' cert' ∧
        ExpiresAfter draws validityDays expiry ∧
      (DecidedByServer (agentProfile hostname draws.now expiry) cert cert' <->
        csr.params.profile = agentProfile hostname draws.now expiry ∧
          csr'.params.profile = agentProfile hostname draws.now expiry ∧
            SameSerial library csr.publicKey csr.params csr'.params) := by
  rcases signCsr_shows requested signed with ⟨⟨params, prepared⟩, shown⟩
  rcases agentParams_profile prepared with ⟨expiry, expires, _⟩
  refine ⟨_, _, expiry, shown, (signCsr_shows requested' signed').2, expires, ?_⟩
  have serials : SameSerial library csr.publicKey csr.params csr'.params <->
      (csr.params.certificate (library.serialOf csr)).serial =
        (csr'.params.certificate (library.serialOf csr')).serial := by
    rw [CertLibrary.serialOf, CertLibrary.serialOf, sameKey]
    rfl
  constructor
  · intro decided
    exact ⟨decided.first, decided.second, serials.mpr decided.serial⟩
  · rintro ⟨first, second, same⟩
    exact ⟨first, second, serials.mp same⟩

/-! ## Two requests for one key -/

/-- The key of `web-01` with a request of another kind: it asks for the name
`gw-01` and to sign certificates. -/
def gatewayRecord : CertRecord where
  csrPem :=
    "-----BEGIN CERTIFICATE REQUEST-----\n" ++
    "MIHFMHkCAQAwEDEOMAwGA1UEAwwFZ3ctMDEwKjAFBgMrZXADIQDeZVYiapuD15f+\n" ++
    "e5QVaNHnVfwAXAEQW9xrCXkx26WXpaA2MDQGCSqGSIb3DQEJDjEnMCUwDgYDVR0P\n" ++
    "AQH/BAQDAgIEMBMGA1UdJQQMMAoGCCsGAQUFBwMBMAUGAytlcANBAF60qI75JGva\n" ++
    "n+0uRZ+cevgS1N2CD+2I12G8C/sjTSRRy/doYXIghyoe1WCx4j3LdU6N+lPhRcJC\n" ++
    "HoNM7+WfEw4=\n" ++
    "-----END CERTIFICATE REQUEST-----\n"
  csr :=
    ⟨{ requestFor "gw-01" with
        keyUsages := [.keyCertSign], extendedKeyUsages := [.serverAuth] },
        webRecord.csr.publicKey⟩
  serial := webRecord.serial
  der := [
    0x30, 0x82, 0x01, 0x7d, 0x30, 0x82, 0x01, 0x22, 0xa0, 0x03, 0x02, 0x01, 0x02,
      0x02, 0x14, 0x3a,
    0x1a, 0xb1, 0xe2, 0x41, 0x1b, 0xd2, 0xba, 0x68, 0x1f, 0xe7, 0x7a, 0x13, 0x18,
      0x5b, 0x91, 0xa2,
    0xf4, 0x37, 0x36, 0x30, 0x0a, 0x06, 0x08, 0x2a, 0x86, 0x48, 0xce, 0x3d, 0x04,
      0x03, 0x02, 0x30,
    0x30, 0x31, 0x1c, 0x30, 0x1a, 0x06, 0x03, 0x55, 0x04, 0x03, 0x0c, 0x13, 0x43,
      0x6f, 0x6d, 0x70,
    0x6c, 0x79, 0x78, 0x20, 0x49, 0x6e, 0x74, 0x65, 0x72, 0x6e, 0x61, 0x6c, 0x20,
      0x43, 0x41, 0x31,
    0x10, 0x30, 0x0e, 0x06, 0x03, 0x55, 0x04, 0x0a, 0x0c, 0x07, 0x43, 0x6f, 0x6d,
      0x70, 0x6c, 0x79,
    0x78, 0x30, 0x20, 0x17, 0x0d, 0x37, 0x35, 0x30, 0x31, 0x30, 0x31, 0x30, 0x30,
      0x30, 0x30, 0x30,
    0x30, 0x5a, 0x18, 0x0f, 0x34, 0x30, 0x39, 0x36, 0x30, 0x31, 0x30, 0x31, 0x30,
      0x30, 0x30, 0x30,
    0x30, 0x30, 0x5a, 0x30, 0x10, 0x31, 0x0e, 0x30, 0x0c, 0x06, 0x03, 0x55, 0x04,
      0x03, 0x0c, 0x05,
    0x67, 0x77, 0x2d, 0x30, 0x31, 0x30, 0x2a, 0x30, 0x05, 0x06, 0x03, 0x2b, 0x65,
      0x70, 0x03, 0x21,
    0x00, 0xde, 0x65, 0x56, 0x22, 0x6a, 0x9b, 0x83, 0xd7, 0x97, 0xfe, 0x7b, 0x94,
      0x15, 0x68, 0xd1,
    0xe7, 0x55, 0xfc, 0x00, 0x5c, 0x01, 0x10, 0x5b, 0xdc, 0x6b, 0x09, 0x79, 0x31,
      0xdb, 0xa5, 0x97,
    0xa5, 0xa3, 0x67, 0x30, 0x65, 0x30, 0x0e, 0x06, 0x03, 0x55, 0x1d, 0x0f, 0x01,
      0x01, 0xff, 0x04,
    0x04, 0x03, 0x02, 0x02, 0x04, 0x30, 0x13, 0x06, 0x03, 0x55, 0x1d, 0x25, 0x04,
      0x0c, 0x30, 0x0a,
    0x06, 0x08, 0x2b, 0x06, 0x01, 0x05, 0x05, 0x07, 0x03, 0x01, 0x30, 0x1d, 0x06,
      0x03, 0x55, 0x1d,
    0x0e, 0x04, 0x16, 0x04, 0x14, 0x53, 0xc1, 0x68, 0x6d, 0xbd, 0x56, 0xa2, 0x29,
      0x81, 0x23, 0x07,
    0x4e, 0x59, 0x72, 0xef, 0xab, 0xdb, 0xed, 0xbe, 0x5a, 0x30, 0x1f, 0x06, 0x03,
      0x55, 0x1d, 0x23,
    0x04, 0x18, 0x30, 0x16, 0x80, 0x14, 0xbd, 0xfb, 0x61, 0x6c, 0x3d, 0x14, 0xcc,
      0x0a, 0xe8, 0x7c,
    0x99, 0x25, 0x2f, 0x0a, 0x30, 0xb3, 0xdb, 0x13, 0xb8, 0xa8, 0x30, 0x0a, 0x06,
      0x08, 0x2a, 0x86,
    0x48, 0xce, 0x3d, 0x04, 0x03, 0x02, 0x03, 0x49, 0x00, 0x30, 0x46, 0x02, 0x21,
      0x00, 0xc4, 0xcf,
    0x65, 0xa4, 0x34, 0xfa, 0x1e, 0xfa, 0x83, 0x45, 0xd0, 0x81, 0x18, 0x39, 0x30,
      0xa5, 0x74, 0x45,
    0x87, 0x08, 0x8d, 0x44, 0xc5, 0x6d, 0x39, 0xfd, 0xcf, 0x56, 0xe0, 0x53, 0x5b,
      0xe8, 0x02, 0x21,
    0x00, 0x9c, 0xdf, 0x1a, 0x6b, 0x9d, 0x44, 0x30, 0xcc, 0xc9, 0x92, 0x30, 0x29,
      0xe0, 0x25, 0x44,
    0x19, 0x7f, 0xa1, 0x91, 0xae, 0xa9, 0x8a, 0x1c, 0x32, 0x15, 0xed, 0x83, 0x24,
      0x6e, 0xe3, 0x2a,
    0x78]
  certPem :=
    "-----BEGIN CERTIFICATE-----\n" ++
    "MIIBfTCCASKgAwIBAgIUOhqx4kEb0rpoH+d6ExhbkaL0NzYwCgYIKoZIzj0EAwIw\n" ++
    "MDEcMBoGA1UEAwwTQ29tcGx5eCBJbnRlcm5hbCBDQTEQMA4GA1UECgwHQ29tcGx5\n" ++
    "eDAgFw03NTAxMDEwMDAwMDBaGA80MDk2MDEwMTAwMDAwMFowEDEOMAwGA1UEAwwF\n" ++
    "Z3ctMDEwKjAFBgMrZXADIQDeZVYiapuD15f+e5QVaNHnVfwAXAEQW9xrCXkx26WX\n" ++
    "paNnMGUwDgYDVR0PAQH/BAQDAgIEMBMGA1UdJQQMMAoGCCsGAQUFBwMBMB0GA1Ud\n" ++
    "DgQWBBRTwWhtvVaiKYEjB05Zcu+r2+2+WjAfBgNVHSMEGDAWgBS9+2FsPRTMCuh8\n" ++
    "mSUvCjCz2xO4qDAKBggqhkjOPQQDAgNJADBGAiEAxM9lpDT6HvqDRdCBGDkwpXRF\n" ++
    "hwiNRMVtOf3PVuBTW+gCIQCc3xprnUQwzMmSMCngJUQZf6GRrqmKHDIV7YMkbuMq\n" ++
    "eA==\n" ++
    "-----END CERTIFICATE-----\n"

def recordedKey : Table CertRecord CertRecord.Clash :=
  ⟨[webRecord, gatewayRecord], by decide +kernel⟩

def keyLibrary : CertLibrary := CertLibrary.recorded recordedKey

def firstDay : SignDraws := ⟨newYear, 1767225600000000000, firstSerialId⟩

/-- The authority signs a request for the host `web-01`. -/
def signedForWeb (record : CertRecord) :
    Except (Fault PkiError) (String × String) :=
  signCsr keyLibrary ⟨"ca.key", "ca.crt"⟩ firstDay record.csrPem "web-01" 365

theorem signedForWeb_web :
    signedForWeb webRecord =
      .ok (webRecord.certPem, String.ofList (generateSerial firstDay)) := by
  decide +kernel

theorem signedForWeb_gateway :
    signedForWeb gatewayRecord =
      .ok (gatewayRecord.certPem, String.ofList (generateSerial firstDay)) := by
  decide +kernel

theorem keyLibrary_requests :
    keyLibrary.csrFromPem webRecord.csrPem = .ok webRecord.csr ∧
    keyLibrary.csrFromPem gatewayRecord.csrPem = .ok gatewayRecord.csr := by
  decide +kernel

theorem decided_by_server_iff_web :
    gatewayRecord.csr.publicKey = webRecord.csr.publicKey ∧
    Exists fun cert => Exists fun cert' => Exists fun expiry =>
      keyLibrary.Shows webRecord.certPem cert ∧
        keyLibrary.Shows gatewayRecord.certPem cert' ∧
      ExpiresAfter firstDay 365 expiry ∧
      (DecidedByServer (agentProfile "web-01" firstDay.now expiry) cert cert' <->
        webRecord.csr.params.profile = agentProfile "web-01" firstDay.now expiry ∧
          gatewayRecord.csr.params.profile =
            agentProfile "web-01" firstDay.now expiry ∧
            SameSerial keyLibrary webRecord.csr.publicKey webRecord.csr.params
              gatewayRecord.csr.params) :=
  ⟨rfl,
    decided_by_server_iff keyLibrary ⟨"ca.key", "ca.crt"⟩ firstDay "web-01" 365
    webRecord.csrPem
    gatewayRecord.csrPem webRecord.certPem gatewayRecord.certPem _ _ webRecord.csr
      gatewayRecord.csr
    keyLibrary_requests.1 keyLibrary_requests.2 rfl signedForWeb_web
      signedForWeb_gateway⟩

/-- Neither certificate is for the host, and one is for signing certificates. -/
theorem requests_decide :
    keyLibrary.csrFromPem webRecord.csrPem = .ok webRecord.csr ∧
    keyLibrary.csrFromPem gatewayRecord.csrPem = .ok gatewayRecord.csr ∧
    gatewayRecord.csr.publicKey = webRecord.csr.publicKey ∧
    Exists fun certPem => Exists fun certPem' => Exists fun serial =>
      signedForWeb webRecord = .ok (certPem, serial) ∧
        signedForWeb gatewayRecord = .ok (certPem', serial) ∧
      forall cert cert', keyLibrary.Shows certPem cert ->
        keyLibrary.Shows certPem' cert' ->
        cert.subject ≠ cert'.subject ∧ cert.keyUsages ≠ cert'.keyUsages ∧
          forall expiry,
              ¬ DecidedByServer (agentProfile "web-01" newYear expiry)
              cert cert' := by
  refine ⟨keyLibrary_requests.1, keyLibrary_requests.2, rfl, _, _, _,
    signedForWeb_web, signedForWeb_gateway, ?_⟩
  intro cert cert' shown shown'
  have same :=
    shown.unique (signCsr_shows keyLibrary_requests.1 signedForWeb_web).2
  have same' :=
    shown'.unique (signCsr_shows keyLibrary_requests.2 signedForWeb_gateway).2
  subst same same'
  refine ⟨by decide, by decide, ?_⟩
  intro expiry decided
  have subject := congrArg CertProfile.subject decided.first
  cases subject

end Complyx
