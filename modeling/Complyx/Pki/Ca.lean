import Complyx.Encoding.Hex
import Complyx.Pki.Error

namespace Complyx

open Encoding

/-!
# The certificate authority

Signing takes a request in PEM, prepares certificate parameters of the
server's own choice and then signs through the request object.  The external
certificate library is a parameter, with three documented facts: which fields
a signed certificate shows when it is parsed, that PEM decoding undoes PEM
encoding, and that a serial derived from a public key has at most twenty
bytes.

The certificate is built from the parameters the request holds.  The prepared
parameters are computed as the code computes them, panics included, and reach
no certificate.
-/

/-! ## Names, dates and certificate parameters -/

inductive DnType where
  | commonName
  | organizationName
  | other (oid : List Nat)
  deriving DecidableEq, Repr

/-- A name attribute in one of the ASN.1 string types. -/
inductive DnValue where
  | utf8String (text : String)
  | printableString (text : String)
  | ia5String (text : String)
  | teletexString (text : String)
  | bmpString (text : String)
  | universalString (text : String)
  deriving DecidableEq, Repr

/-- The text of an attribute, for the string types the parser reads. -/
def DnValue.asStr : DnValue -> Option String
  | .utf8String text => some text
  | .printableString text => some text
  | .ia5String text => some text
  | .teletexString _ => none
  | .bmpString _ => none
  | .universalString _ => none

abbrev DistinguishedName := List (DnType × DnValue)

structure CalendarDate where
  year : Int
  month : Int
  day : Int
  deriving DecidableEq, Repr

inductive KeyUsagePurpose where
  | digitalSignature
  | keyCertSign
  | crlSign
  | other (bit : Nat)
  deriving DecidableEq, Repr

inductive ExtendedKeyUsagePurpose where
  | clientAuth
  | serverAuth
  | other (oid : List Nat)
  deriving DecidableEq, Repr

/-- A serial number is a string of bytes before it is an integer. -/
abbrev SerialNumber := List UInt8

abbrev PublicKey := List UInt8

abbrev Der := List UInt8

structure CertificateParams where
  distinguishedName : DistinguishedName
  notBefore : CalendarDate
  notAfter : CalendarDate
  isCa : Bool
  keyUsages : List KeyUsagePurpose
  extendedKeyUsages : List ExtendedKeyUsagePurpose
  subjectAltNames : List String
  serialNumber : Option SerialNumber
  deriving DecidableEq

/-- `CertificateParams::default()`. -/
def CertificateParams.default : CertificateParams where
  distinguishedName := [(.commonName, .utf8String "rcgen self signed cert")]
  notBefore := ⟨1975, 1, 1⟩
  notAfter := ⟨4096, 1, 1⟩
  isCa := false
  keyUsages := []
  extendedKeyUsages := []
  subjectAltNames := []
  serialNumber := none

structure CertificateSigningRequestParams where
  params : CertificateParams
  publicKey : PublicKey
  deriving DecidableEq

structure KeyPair where
  pem : String
  deriving DecidableEq

structure Issuer where
  caCertPem : String
  keyPair : KeyPair
  deriving DecidableEq

/-- What a parsed certificate shows. -/
structure X509Certificate where
  subject : DistinguishedName
  notBefore : CalendarDate
  notAfter : CalendarDate
  isCa : Bool
  keyUsages : List KeyUsagePurpose
  extendedKeyUsages : List ExtendedKeyUsagePurpose
  serial : Nat
  deriving DecidableEq

/-- `subject().iter_common_name()`. -/
def X509Certificate.commonNames (cert : X509Certificate) : List DnValue :=
  cert.subject.filterMap fun entry =>
    if entry.1 = .commonName then some entry.2 else none

/-- The certificate fields that come from the parameters and a serial. -/
def CertificateParams.certificate (params : CertificateParams)
    (serial : SerialNumber) : X509Certificate where
  subject := params.distinguishedName
  notBefore := params.notBefore
  notAfter := params.notAfter
  isCa := params.isCa
  keyUsages := params.keyUsages
  extendedKeyUsages := params.extendedKeyUsages
  serial := natOfBytes serial

/-! ## The certificate library -/

/-- The external crates behind signing, PEM and certificate parsing.  The laws
speak of certificates signed for a request that was read. -/
structure CertLibrary where
  csrFromPem : String -> Except String CertificateSigningRequestParams
  keyPairFromPem : String -> Except String KeyPair
  issuerFromCaCertPem : String -> KeyPair -> Except String Issuer
  deriveSerial : PublicKey -> SerialNumber
  signDer : Issuer -> CertificateParams -> PublicKey -> SerialNumber ->
    Except String Der
  pem : Der -> String
  pemContents : String -> Option Der
  parseX509 : Der -> Except String X509Certificate
  deriveSerial_length : forall key, (deriveSerial key).length ≤ 20
  pemContents_pem : forall csrPem csr issuer serial der,
    csrFromPem csrPem = .ok csr ->
    signDer issuer csr.params csr.publicKey serial = .ok der ->
      pemContents (pem der) = some der
  parseX509_signDer : forall csrPem csr issuer serial der,
    csrFromPem csrPem = .ok csr ->
    signDer issuer csr.params csr.publicKey serial = .ok der ->
    parseX509 der = .ok (csr.params.certificate serial)

namespace CertLibrary

variable (library : CertLibrary)

/-- The serial a certificate for the request gets. -/
def serialOf (csr : CertificateSigningRequestParams) : SerialNumber :=
  csr.params.serialNumber.getD (library.deriveSerial csr.publicKey)

/-- `csr.signed_by(&issuer)`: parameters and key are the request's own. -/
def signedBy (csr : CertificateSigningRequestParams)
    (issuer : Issuer) : Except String Der :=
  library.signDer issuer csr.params csr.publicKey (library.serialOf csr)

end CertLibrary

/-! ## Signing -/

structure CaInner where
  caKeyPem : String
  caCertPem : String
  deriving DecidableEq

/-- The clock readings and the random identifier of one signing. -/
structure SignDraws where
  now : DateTime
  sinceEpoch : Nat
  id : Uuid

/-- `rcgen::date_time_ymd`, which panics outside the years its dates have. -/
def dateTimeYmd (time : DateTime) : Except (Fault PkiError) CalendarDate :=
  if -9999 ≤ time.year ∧
    time.year ≤ 9999 then .ok ⟨time.year, time.month, time.day⟩
  else .error (.panic "invalid or out-of-range date")

theorem dateTimeYmd_error {time : DateTime} {failure : Fault PkiError}
    (failed : dateTimeYmd time = .error failure) :
    Exists fun message => failure = .panic message := by
  unfold dateTimeYmd at failed
  split at failed
  · cases failed
  · exact ⟨_, (Except.error.inj failed).symm⟩

/-- `generate_serial`: sixteen digits of the clock and thirty-two of a fresh
identifier. -/
def generateSerial (draws : SignDraws) : List Char :=
  hexFixed 16 (draws.sinceEpoch % 2 ^ 64) ++ hexEncode draws.id.asBytes

theorem generateSerial_length (draws : SignDraws) :
    (generateSerial draws).length = 48 := by
  have clock : (hexFixed 16 (draws.sinceEpoch % 2 ^ 64)).length = 16 := by
    apply hexFixed_length
    exact Nat.mod_lt draws.sinceEpoch (by decide)
  rw [generateSerial, List.length_append, clock, hexEncode_length,
    Uuid.asBytes_length]

theorem generateSerial_digit {draws : SignDraws} {digit : Char}
    (member : digit ∈ generateSerial draws) :
    Exists fun value => value < 16 ∧ digit = hexDigit value := by
  rcases List.mem_append.mp member with clock | identifier
  · exact hexFixed_digit clock
  · exact hexEncode_digit identifier

/-- The sixteen bytes taken from a generated serial always decode. -/
theorem hexDecode_generateSerial (draws : SignDraws) :
    (hexDecode ((generateSerial draws).take 32)).isSome = true := by
  have even : ((generateSerial draws).take 32).length = 2 * 16 := by
    rw [List.length_take, generateSerial_length]
    rfl
  exact hexDecode_isSome even fun digit member =>
    generateSerial_digit (List.mem_of_mem_take member)

def certGeneration (reason : String) : Fault PkiError :=
  .error (.certGeneration reason)

/-- `make_issuer`. -/
def CaInner.makeIssuer (ca : CaInner) (library : CertLibrary) :
    Except (Fault PkiError) Issuer := do
  let keyPair <- (library.keyPairFromPem ca.caKeyPem).mapError certGeneration
  (library.issuerFromCaCertPem ca.caCertPem keyPair).mapError certGeneration

/-- The parameters the server prepares for a certificate. -/
def agentParams (draws : SignDraws) (hostname : String) (validityDays : Int) :
    Except (Fault PkiError) CertificateParams := do
  let duration <- DateTime.durationDays validityDays
  let expiry <- draws.now.add duration
  let notBefore <- dateTimeYmd draws.now
  let notAfter <- dateTimeYmd expiry
  match hexDecode ((generateSerial draws).take 32) with
  | none => .error (certGeneration "Invalid character")
  | some bytes =>
      .ok { CertificateParams.default with
        distinguishedName :=
          [(.commonName, .utf8String hostname),
            (.organizationName, .utf8String "Complyx Agent")]
        notBefore := notBefore, notAfter := notAfter, isCa := false
        keyUsages := [.digitalSignature], extendedKeyUsages := [.clientAuth],
        serialNumber := some bytes }

/-- Preparing the parameters never returns an error: what can go wrong with a
date panics, and the generated serial always decodes. -/
theorem agentParams_panics {draws : SignDraws} {hostname : String}
    {validityDays : Int} {failure : Fault PkiError}
    (failed : agentParams draws hostname validityDays = .error failure) :
    Exists fun message => failure = .panic message := by
  rcases Option.isSome_iff_exists.mp (hexDecode_generateSerial draws) with
    ⟨bytes, decoded⟩
  unfold agentParams at failed
  simp only [bind, Except.bind, decoded] at failed
  split at failed
  · next spanFailed =>
      rw [← Except.error.inj failed]
      exact DateTime.durationDays_error spanFailed
  split at failed
  · next sumFailed =>
      rw [← Except.error.inj failed]
      exact DateTime.add_error sumFailed
  split at failed
  · next dateFailed =>
      rw [← Except.error.inj failed]
      exact dateTimeYmd_error dateFailed
  split at failed
  · next dateFailed =>
      rw [← Except.error.inj failed]
      exact dateTimeYmd_error dateFailed
  cases failed

/-- `sign_csr`: the certificate in PEM and the serial as text. -/
def signCsr (library : CertLibrary) (ca : CaInner) (draws : SignDraws)
    (csrPem hostname : String) (validityDays : Int) :
    Except (Fault PkiError) (String × String) := do
  let csr <- (library.csrFromPem csrPem).mapError fun reason =>
    .error (.csrParse reason)
  let _params <- agentParams draws hostname validityDays
  let serial := generateSerial draws
  let issuer <- ca.makeIssuer library
  let cert <- (library.signedBy csr issuer).mapError certGeneration
  return (library.pem cert, String.ofList serial)

theorem mapError_ok {ε ζ α : Type} {change : ε -> ζ} {result : Except ε α}
    {value : α} (success : result.mapError change = .ok value) :
    result = .ok value := by
  cases result with
  | ok inner => exact congrArg Except.ok (Except.ok.inj success)
  | error failure => cases success

/-- The PEM text is that of a certificate which decodes and parses to the
fields of the request under the serial of the request. -/
structure Certifies (library : CertLibrary) (csrPem certPem : String)
    (csr : CertificateSigningRequestParams) (der : Der) : Prop where
  requested : library.csrFromPem csrPem = .ok csr
  contents : library.pemContents certPem = some der
  parsed :
    library.parseX509 der = .ok (csr.params.certificate (library.serialOf csr))

/-- A signature: the certificate is the request's own, and the text returned
beside it is the generated serial. -/
theorem signCsr_ok {library : CertLibrary} {ca : CaInner} {draws : SignDraws}
    {csrPem hostname : String} {validityDays : Int} {certPem serial : String}
    (signed : signCsr library ca draws csrPem hostname validityDays =
      .ok (certPem, serial)) :
    serial = String.ofList (generateSerial draws) ∧
    Exists fun csr => Exists fun der =>
      Certifies library csrPem certPem csr der := by
  unfold signCsr at signed
  rcases bind_eq_ok.mp signed with ⟨csr, requested, signed⟩
  rcases bind_eq_ok.mp signed with ⟨params, prepared, signed⟩
  rcases bind_eq_ok.mp signed with ⟨issuer, made, signed⟩
  rcases bind_eq_ok.mp signed with ⟨der, issued, signed⟩
  cases signed
  have read := mapError_ok requested
  have created := mapError_ok issued
  refine ⟨rfl, csr, der, read, ?_, ?_⟩
  · exact library.pemContents_pem csrPem csr issuer _ der read created
  · exact library.parseX509_signDer csrPem csr issuer _ der read created

end Complyx
