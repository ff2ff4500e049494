import Complyx.Pki.Enrollment

namespace Complyx

open Relational Encoding

/-!
# A recorded certificate library

The external library is only known by its laws.  A table of recorded requests,
each with the certificate issued for it, gives one: it answers as recorded and
refuses everything else.  The two records are Ed25519 requests with the
certificates a P-256 authority issued for them, under the serials derived from
their public keys.
-/

/-- One recorded request and its certificate. -/
structure CertRecord where
  csrPem : String
  csr : CertificateSigningRequestParams
  serial : SerialNumber
  der : Der
  certPem : String

abbrev CertRecord.Clash (first second : CertRecord) : Prop :=
  first.der = second.der ∨ first.certPem = second.certPem

theorem CertRecord.der_separates (first second : CertRecord)
    (same : first.der = second.der) : first.Clash second :=
  Or.inl same

theorem CertRecord.certPem_separates (first second : CertRecord)
    (same : first.certPem = second.certPem) : first.Clash second :=
  Or.inr same

section Recorded

variable (records : Table CertRecord CertRecord.Clash)

/-- The record of a signature, if there is one. -/
def recordOf (params : CertificateParams) (key : PublicKey)
    (serial : SerialNumber) : Option CertRecord :=
  records.rows.find? fun record =>
    record.csr.params = params && record.csr.publicKey = key &&
      record.serial = serial

theorem recordOf_some {params : CertificateParams} {key : PublicKey}
    {serial : SerialNumber} {record : CertRecord}
    (found : recordOf records params key serial = some record) :
    record ∈ records.rows ∧ record.csr.params = params ∧
      record.serial = serial := by
  have matched := List.find?_some found
  simp only [Bool.and_eq_true, decide_eq_true_eq] at matched
  exact ⟨List.mem_of_find?_eq_some found, matched.1.1, matched.2⟩

/-- The library that answers as recorded. -/
def CertLibrary.recorded : CertLibrary where
  csrFromPem csrPem :=
    match records.rows.find? fun record => record.csrPem = csrPem with
    | some record => .ok record.csr
    | none => .error "CSR not recorded"
  keyPairFromPem keyPem := .ok ⟨keyPem⟩
  issuerFromCaCertPem caCertPem keyPair := .ok ⟨caCertPem, keyPair⟩
  deriveSerial key :=
    match records.rows.find? fun record => record.csr.publicKey = key with
    | some record => record.serial.take 20
    | none => []
  signDer _ params key serial :=
    match recordOf records params key serial with
    | some record => .ok record.der
    | none => .error "signature not recorded"
  pem der := ((records.find CertRecord.der der).map CertRecord.certPem).getD ""
  pemContents certPem :=
    (records.find CertRecord.certPem certPem).map CertRecord.der
  parseX509 der :=
    match records.find CertRecord.der der with
    | some record => .ok (record.csr.params.certificate record.serial)
    | none => .error "certificate not recorded"
  deriveSerial_length := by
    intro key
    split
    · exact List.length_take_le 20 _
    · exact Nat.zero_le 20
  pemContents_pem := by
    intro csrPem csr issuer serial der _ signed
    split at signed
    · next record found =>
      have sameDer := Except.ok.inj signed
      subst der
      have facts := recordOf_some records found
      have byDer :=
        (Table.find_eq_some_iff CertRecord.der_separates).mpr ⟨facts.1, rfl⟩
      have byPem :=
        (Table.find_eq_some_iff CertRecord.certPem_separates).mpr ⟨facts.1, rfl⟩
      simp only [byDer, Option.map_some, Option.getD_some, byPem]
    · cases signed
  parseX509_signDer := by
    intro csrPem csr issuer serial der _ signed
    split at signed
    · next record found =>
      have sameDer := Except.ok.inj signed
      subst der
      have facts := recordOf_some records found
      have byDer :=
        (Table.find_eq_some_iff CertRecord.der_separates).mpr ⟨facts.1, rfl⟩
      simp only [byDer, facts.2.1, facts.2.2]
    · cases signed

end Recorded

/-! ## Two hosts -/

def readHex (digits : String) : List UInt8 := (hexDecode digits.toList).getD []

/-- The parameters of a request that asks for a common name alone. -/
def requestFor (hostname : String) : CertificateParams :=
  { CertificateParams.default with
    distinguishedName := [(.commonName, .utf8String hostname)] }

/-- The request and the certificate of the host `web-01`. -/
def webRecord : CertRecord where
  csrPem :=
    "-----BEGIN CERTIFICATE REQUEST-----\n" ++
    "MIGQMEQCAQAwETEPMA0GA1UEAwwGd2ViLTAxMCowBQYDK2VwAyEA3mVWImqbg9eX\n" ++
    "/nuUFWjR51X8AFwBEFvcawl5Mdull6WgADAFBgMrZXADQQAzVPsjoxmSX9Iwdk5G\n" ++
    "F4V3VMWsprOrjQzOknRiYKFpji0R8QHcevosVL63bE617AVZnx8uMdqlY3ExcCWw\n" ++
    "4A8G\n" ++
    "-----END CERTIFICATE REQUEST-----\n"
  csr :=
    ⟨requestFor "web-01",
      readHex "de6556226a9b83d797fe7b941568d1e755fc005c01105bdc6b097931dba597a5"⟩
  serial := readHex "3a1ab1e2411bd2ba681fe77a13185b91a2f43736"
  der := [
    0x30, 0x82, 0x01, 0x0e, 0x30, 0x81, 0xb5, 0x02, 0x14, 0x3a, 0x1a, 0xb1, 0xe2,
      0x41, 0x1b, 0xd2,
    0xba, 0x68, 0x1f, 0xe7, 0x7a, 0x13, 0x18, 0x5b, 0x91, 0xa2, 0xf4, 0x37, 0x36,
      0x30, 0x0a, 0x06,
    0x08, 0x2a, 0x86, 0x48, 0xce, 0x3d, 0x04, 0x03, 0x02, 0x30, 0x30, 0x31, 0x1c,
      0x30, 0x1a, 0x06,
    0x03, 0x55, 0x04, 0x03, 0x0c, 0x13, 0x43, 0x6f, 0x6d, 0x70, 0x6c, 0x79, 0x78,
      0x20, 0x49, 0x6e,
    0x74, 0x65, 0x72, 0x6e, 0x61, 0x6c, 0x20, 0x43, 0x41, 0x31, 0x10, 0x30, 0x0e,
      0x06, 0x03, 0x55,
    0x04, 0x0a, 0x0c, 0x07, 0x43, 0x6f, 0x6d, 0x70, 0x6c, 0x79, 0x78, 0x30, 0x20,
      0x17, 0x0d, 0x37,
    0x35, 0x30, 0x31, 0x30, 0x31, 0x30, 0x30, 0x30, 0x30, 0x30, 0x30, 0x5a, 0x18,
      0x0f, 0x34, 0x30,
    0x39, 0x36, 0x30, 0x31, 0x30, 0x31, 0x30, 0x30, 0x30, 0x30, 0x30, 0x30, 0x5a,
      0x30, 0x11, 0x31,
    0x0f, 0x30, 0x0d, 0x06, 0x03, 0x55, 0x04, 0x03, 0x0c, 0x06, 0x77, 0x65, 0x62,
      0x2d, 0x30, 0x31,
    0x30, 0x2a, 0x30, 0x05, 0x06, 0x03, 0x2b, 0x65, 0x70, 0x03, 0x21, 0x00, 0xde,
      0x65, 0x56, 0x22,
    0x6a, 0x9b, 0x83, 0xd7, 0x97, 0xfe, 0x7b, 0x94, 0x15, 0x68, 0xd1, 0xe7, 0x55,
      0xfc, 0x00, 0x5c,
    0x01, 0x10, 0x5b, 0xdc, 0x6b, 0x09, 0x79, 0x31, 0xdb, 0xa5, 0x97, 0xa5, 0x30,
      0x0a, 0x06, 0x08,
    0x2a, 0x86, 0x48, 0xce, 0x3d, 0x04, 0x03, 0x02, 0x03, 0x48, 0x00, 0x30, 0x45,
      0x02, 0x21, 0x00,
    0x88, 0x70, 0xb4, 0x2a, 0x60, 0x9f, 0x10, 0xac, 0xca, 0x53, 0xa5, 0x0f, 0xc3,
      0x48, 0x87, 0xfa,
    0x29, 0x26, 0x64, 0x3d, 0xed, 0xc2, 0xed, 0xa7, 0x86, 0x0a, 0x6a, 0x6a, 0xfd,
      0x57, 0xe8, 0xc3,
    0x02, 0x20, 0x7e, 0x6c, 0xd0, 0x5d, 0x87, 0x9a, 0x9a, 0x95, 0x22, 0x83, 0xc3,
      0xac, 0x27, 0x2d,
    0x11, 0xda, 0x86, 0x70, 0x21, 0xe2, 0x5e, 0x6d, 0x8b, 0x29, 0x0e, 0x9d, 0x29,
      0x6a, 0xf8, 0x85,
    0x52, 0xe2]
  certPem :=
    "-----BEGIN CERTIFICATE-----\n" ++
    "MIIBDjCBtQIUOhqx4kEb0rpoH+d6ExhbkaL0NzYwCgYIKoZIzj0EAwIwMDEcMBoG\n" ++
    "A1UEAwwTQ29tcGx5eCBJbnRlcm5hbCBDQTEQMA4GA1UECgwHQ29tcGx5eDAgFw03\n" ++
    "NTAxMDEwMDAwMDBaGA80MDk2MDEwMTAwMDAwMFowETEPMA0GA1UEAwwGd2ViLTAx\n" ++
    "MCowBQYDK2VwAyEA3mVWImqbg9eX/nuUFWjR51X8AFwBEFvcawl5Mdull6UwCgYI\n" ++
    "KoZIzj0EAwIDSAAwRQIhAIhwtCpgnxCsylOlD8NIh/opJmQ97cLtp4YKamr9V+jD\n" ++
    "AiB+bNBdh5qalSKDw6wnLRHahnAh4l5tiykOnSlq+IVS4g==\n" ++
    "-----END CERTIFICATE-----\n"

/-- The request and the certificate of the host `db-01`. -/
def dbRecord : CertRecord where
  csrPem :=
    "-----BEGIN CERTIFICATE REQUEST-----\n" ++
    "MIGPMEMCAQAwEDEOMAwGA1UEAwwFZGItMDEwKjAFBgMrZXADIQBL6kNKRa8Z3R3r\n" ++
    "baSAZknjGLxOaXxRA7bMb/I7v06O2aAAMAUGAytlcANBANp3e/xlZdjkyOmfGdJG\n" ++
    "28uknQ2tlfVMZ0OjM5lSastgHjb5VmGXNF1le0MFEy5hHkzy5+2JDdKKRHLFh6IC\n" ++
    "UwI=\n" ++
    "-----END CERTIFICATE REQUEST-----\n"
  csr :=
    ⟨requestFor "db-01",
      readHex "4bea434a45af19dd1deb6da4806649e318bc4e697c5103b6cc6ff23bbf4e8ed9"⟩
  serial := readHex "4392ce0e1d4763f24465832f7acdf411e03b769f"
  der := [
    0x30, 0x82, 0x01, 0x0d, 0x30, 0x81, 0xb4, 0x02, 0x14, 0x43, 0x92, 0xce, 0x0e,
      0x1d, 0x47, 0x63,
    0xf2, 0x44, 0x65, 0x83, 0x2f, 0x7a, 0xcd, 0xf4, 0x11, 0xe0, 0x3b, 0x76, 0x9f,
      0x30, 0x0a, 0x06,
    0x08, 0x2a, 0x86, 0x48, 0xce, 0x3d, 0x04, 0x03, 0x02, 0x30, 0x30, 0x31, 0x1c,
      0x30, 0x1a, 0x06,
    0x03, 0x55, 0x04, 0x03, 0x0c, 0x13, 0x43, 0x6f, 0x6d, 0x70, 0x6c, 0x79, 0x78,
      0x20, 0x49, 0x6e,
    0x74, 0x65, 0x72, 0x6e, 0x61, 0x6c, 0x20, 0x43, 0x41, 0x31, 0x10, 0x30, 0x0e,
      0x06, 0x03, 0x55,
    0x04, 0x0a, 0x0c, 0x07, 0x43, 0x6f, 0x6d, 0x70, 0x6c, 0x79, 0x78, 0x30, 0x20,
      0x17, 0x0d, 0x37,
    0x35, 0x30, 0x31, 0x30, 0x31, 0x30, 0x30, 0x30, 0x30, 0x30, 0x30, 0x5a, 0x18,
      0x0f, 0x34, 0x30,
    0x39, 0x36, 0x30, 0x31, 0x30, 0x31, 0x30, 0x30, 0x30, 0x30, 0x30, 0x30, 0x5a,
      0x30, 0x10, 0x31,
    0x0e, 0x30, 0x0c, 0x06, 0x03, 0x55, 0x04, 0x03, 0x0c, 0x05, 0x64, 0x62, 0x2d,
      0x30, 0x31, 0x30,
    0x2a, 0x30, 0x05, 0x06, 0x03, 0x2b, 0x65, 0x70, 0x03, 0x21, 0x00, 0x4b, 0xea,
      0x43, 0x4a, 0x45,
    0xaf, 0x19, 0xdd, 0x1d, 0xeb, 0x6d, 0xa4, 0x80, 0x66, 0x49, 0xe3, 0x18, 0xbc,
      0x4e, 0x69, 0x7c,
    0x51, 0x03, 0xb6, 0xcc, 0x6f, 0xf2, 0x3b, 0xbf, 0x4e, 0x8e, 0xd9, 0x30, 0x0a,
      0x06, 0x08, 0x2a,
    0x86, 0x48, 0xce, 0x3d, 0x04, 0x03, 0x02, 0x03, 0x48, 0x00, 0x30, 0x45, 0x02,
      0x20, 0x3c, 0x9e,
    0xb5, 0x14, 0x73, 0xa8, 0x30, 0x22, 0x36, 0x07, 0x7b, 0x60, 0x3f, 0x78, 0xf0,
      0xe2, 0x4d, 0x03,
    0xb5, 0xda, 0x9c, 0xfb, 0x3e, 0x21, 0x58, 0x72, 0x4e, 0x2e, 0x84, 0xb2, 0x64,
      0xf9, 0x02, 0x21,
    0x00, 0x98, 0x20, 0xfa, 0xe1, 0x4f, 0xee, 0x2c, 0x40, 0x1e, 0x52, 0x21, 0x6a,
      0x47, 0x33, 0xdd,
    0xd3, 0x25, 0xcc, 0x70, 0xc2, 0x18, 0xaa, 0x1b, 0xee, 0x6f, 0x33, 0x6d, 0xe0,
      0x8b, 0x5c, 0x39,
    0xe4]
  certPem :=
    "-----BEGIN CERTIFICATE-----\n" ++
    "MIIBDTCBtAIUQ5LODh1HY/JEZYMves30EeA7dp8wCgYIKoZIzj0EAwIwMDEcMBoG\n" ++
    "A1UEAwwTQ29tcGx5eCBJbnRlcm5hbCBDQTEQMA4GA1UECgwHQ29tcGx5eDAgFw03\n" ++
    "NTAxMDEwMDAwMDBaGA80MDk2MDEwMTAwMDAwMFowEDEOMAwGA1UEAwwFZGItMDEw\n" ++
    "KjAFBgMrZXADIQBL6kNKRa8Z3R3rbaSAZknjGLxOaXxRA7bMb/I7v06O2TAKBggq\n" ++
    "hkjOPQQDAgNIADBFAiA8nrUUc6gwIjYHe2A/ePDiTQO12pz7PiFYck4uhLJk+QIh\n" ++
    "AJgg+uFP7ixAHlIhakcz3dMlzHDCGKob7m8zbeCLXDnk\n" ++
    "-----END CERTIFICATE-----\n"

def recordedHosts : Table CertRecord CertRecord.Clash :=
  ⟨[webRecord, dbRecord], by decide +kernel⟩

def firstToken : String :=
      "6f1c0e2a9d3b4c5d8e7f60718293a4b5c6d7e8f9012345678abcdef013579bdf"

def secondToken : String :=
      "0b5e7d1c2f3a49588b6c7d8e9fa0b1c2d3e4f5061728394a5b6c7d8e9f0a1b2c"

/-- SHA-256 of the two tokens. -/
def recordedHash (token : String) : String :=
  if token = firstToken then
    "fac5f28817ed1dcf1ba481703c624c000b478970281e7d71442e977345a0cdde"
  else if token = secondToken then
    "c4862ffce38ee5f79266abed99a74f441f8be752adbd2268c13797d6310e4077"
  else ""

/-- Three addresses without a prefix length. -/
def recordedIp (text : String) : Except String IpNetwork :=
  if text = "10.0.0.1" then .ok (.host 0x0a000001)
  else if text = "10.0.0.66" then .ok (.host 0x0a000042)
  else if text = "0.0.0.0" then .ok (.host 0)
  else .error ("invalid address: " ++ text)

def recordedContext : EnrollContext where
  library := CertLibrary.recorded recordedHosts
  ca := ⟨"ca.key", "ca.crt"⟩
  hashToken := recordedHash
  parseIp := recordedIp

/-- No recorded request brings a serial of its own. -/
theorem recorded_serialNumber {csrPem : String}
    {csr : CertificateSigningRequestParams}
    (requested : recordedContext.library.csrFromPem csrPem = .ok csr) :
    csr.params.serialNumber = none := by
  simp only [recordedContext, CertLibrary.recorded] at requested
  split at requested
  · next record found =>
    have member := List.mem_of_find?_eq_some found
    rw [← Except.ok.inj requested]
    simp only [recordedHosts, List.mem_cons, List.not_mem_nil, or_false] at member
    rcases member with web | db
    · rw [web]
      rfl
    · rw [db]
      rfl
  · cases requested

/-- The certificate of `web-01` is read back. -/
theorem webRecord_contents :
    recordedContext.library.pemContents webRecord.certPem =
      some webRecord.der := by
  decide +kernel

theorem webRecord_parsed : recordedContext.library.parseX509 webRecord.der =
    .ok (webRecord.csr.params.certificate webRecord.serial) := by
  decide +kernel

/-- A token of the first week of the year. -/
def issuedToken (id : Uuid) (token : String) : EnrollTokenRow where
  id := id
  tokenHash := recordedHash token
  hostnameHint := none
  createdAt := newYear.nanos
  expiresAt := newYear.nanos + 7 * secsPerDay * nanosPerSec
  usedAt := none

def firstSerialId : Uuid := 0x0f8fad5bd9cb469fa16570867728950e

def secondSerialId : Uuid := 0x7c9e6679742540de944be07fc1f90ae7

/-- An enrolment on the first day of the year. -/
def recordedCall (token csrPem hostname remoteIp : String)
    (serialId : Uuid) : EnrollCall where
  request := ⟨token, csrPem, hostname, "Linux", "6.8", remoteIp⟩
  validityDays := 365
  checkedAt := newYear
  draws := ⟨newYear, 1767225600000000000, serialId⟩

/-- The database right after the two tokens were created. -/
def invitedDb : Db where
  enrollTokens :=
    ⟨[issuedToken 1 firstToken, issuedToken 2 secondToken], by decide +kernel⟩

end Complyx
