import Complyx.Pki.Ca

namespace Complyx

/-!
# The authority on disk

The first start of the server generates an authority and writes its certificate
and its key to two files, one after the other.  Later starts read both.  Which of
the two happens is decided by whether both files exist.

A start may be stopped while it writes, by a crash or by a failing write, and
leaves what it has written so far.  `StopPoint` lists the places where this makes
a difference to the files.
-/

/-! ## The library -/

/-- The first characters of a text. -/
def writtenPart (written : Nat) (text : String) : String :=
  String.ofList (text.toList.take written)

theorem writtenPart_all (text : String) :
    writtenPart text.toList.length text = text := by
  rw [writtenPart, List.take_length, String.ofList_toList]

/-- A carriage return before a line feed belongs to the end of the line. -/
def dropCr : List Char -> List Char
  | '\r' :: '\n' :: rest => '\n' :: dropCr rest
  | char :: rest => char :: dropCr rest
  | [] => []

/-- `pem_to_der`: the lines that are neither header nor footer, decoded. -/
def pemToDer (decodeBase64 : String -> Option Der) (pem : String) : Option Der :=
  let lines := ((dropCr pem.toList).splitOn '\n').filter fun line =>
    ¬ "-----".toList <+: line
  decodeBase64 (String.ofList lines.flatten)

/-- What generating and loading an authority uses.  The laws speak of certificates
that were signed with their own key: certificate and key can be read back, whatever
key is given to the certificate, and a part of either that can be read stands for
the whole. -/
structure CaLibrary extends CertLibrary where
  selfSigned : CertificateParams -> KeyPair -> Except String String
  serializePem : KeyPair -> String
  publicKey : KeyPair -> PublicKey
  certPublicKey : String -> Option PublicKey
  decodeBase64 : String -> Option Der
  keyPairFromPem_serializePem : forall params key certPem,
    selfSigned params key = .ok certPem ->
    (keyPairFromPem (serializePem key)).isOk = true
  publicKey_part : forall params key certPem written key',
    selfSigned params key = .ok certPem ->
    keyPairFromPem (writtenPart written (serializePem key)) = .ok key' ->
      publicKey key' = publicKey key
  issuer_selfSigned : forall params key certPem key',
    selfSigned params key = .ok certPem ->
    (issuerFromCaCertPem certPem key').isOk = true
  certPublicKey_part : forall params key certPem written key',
    selfSigned params key = .ok certPem ->
    (issuerFromCaCertPem (writtenPart written certPem) key').isOk = true ->
    certPublicKey (writtenPart written certPem) = some (publicKey key)
  pemToDer_selfSigned : forall params key certPem,
    selfSigned params key = .ok certPem ->
    (pemToDer decodeBase64 certPem).isSome = true

/-! ## Files -/

/-- A file with its permission bits. -/
structure CaFile where
  text : String
  mode : Nat
  deriving DecidableEq

/-- `ca.crt` and `ca.key`. -/
structure CaDir where
  crt : Option CaFile
  key : Option CaFile
  deriving DecidableEq

/-- `tokio::fs::write`: a file that exists keeps its mode. -/
def writeFile (defaultMode : Nat) (old : Option CaFile)
    (text : String) : CaFile where
  text := text
  mode := (old.map CaFile.mode).getD defaultMode

/-- Where a start that writes may stop: before it opens `ca.crt`, or with the
first characters of one of the files.  All characters of `ca.key` leave the mode
to be set. -/
inductive StopPoint where
  | beforeCrt
  | inCrt (written : Nat)
  | inKey (written : Nat)
  deriving DecidableEq, Repr

/-- A start of the server: the key and the clock it would generate an authority
with, the mode of new files, and where it is stopped, if it is. -/
structure CaStart where
  key : KeyPair
  now : DateTime
  defaultMode : Nat
  stop : Option StopPoint

/-! ## Starting -/

section Start

variable (library : CaLibrary)

def caValidityYears : Int := 10

/-- The parameters of the authority's certificate. -/
def caParams (now : DateTime) : Except (Fault PkiError) CertificateParams := do
  let duration <- DateTime.durationDays (caValidityYears * 365)
  let expiry <- now.add duration
  let notBefore <- dateTimeYmd now
  let notAfter <- dateTimeYmd expiry
  return { CertificateParams.default with
    distinguishedName :=
      [(.commonName, .utf8String "Complyx Internal CA"),
        (.organizationName, .utf8String "Complyx")]
    notBefore := notBefore, notAfter := notAfter, isCa := true,
    keyUsages := [.keyCertSign, .crlSign] }

/-- The authority that `generate_and_persist` writes. -/
def generateCa (key : KeyPair) (now : DateTime) :
    Except (Fault PkiError) CaInner := do
  let params <- caParams now
  let certPem <- (library.selfSigned params key).mapError certGeneration
  return { caKeyPem := library.serializePem key, caCertPem := certPem }

/-- What the writes leave of an authority. -/
def CaDir.persist (dir : CaDir) (start : CaStart) (ca : CaInner) : CaDir :=
  let crt := writeFile start.defaultMode dir.crt
  let key := writeFile start.defaultMode dir.key
  match start.stop with
  | some .beforeCrt => dir
  | some (.inCrt written) =>
      { dir with crt := some (crt (writtenPart written ca.caCertPem)) }
  | some (.inKey written) =>
      { crt := some (crt ca.caCertPem)
        key := some (key (writtenPart written ca.caKeyPem)) }
  | none =>
      { crt := some (crt ca.caCertPem)
        key := some { key ca.caKeyPem with mode := 0o600 } }

/-- `load_from_disk`.  The certificate is not compared with the key. -/
def loadFromDisk (crt key : CaFile) : Except (Fault PkiError) CaInner := do
  let keyPair <- (library.keyPairFromPem key.text).mapError certGeneration
  let _issuer <- (library.issuerFromCaCertPem crt.text keyPair).mapError
    certGeneration
  match pemToDer library.decodeBase64 crt.text with
  | none => .error (certGeneration "PEM decode failed")
  | some _ => return { caKeyPem := key.text, caCertPem := crt.text }

/-- What a start returns unless it is stopped. -/
def CaStart.returning (start : CaStart)
    (result : Except (Fault PkiError) CaInner) :
    Option (Except (Fault PkiError) CaInner) :=
  if start.stop.isSome then none else some result

/-- `load_or_create`: what it returns and the directory it leaves. -/
def loadOrCreate (start : CaStart) (dir : CaDir) :
    Option (Except (Fault PkiError) CaInner) × CaDir :=
  match dir.crt, dir.key with
  | some crt, some key => (start.returning (loadFromDisk library crt key), dir)
  | _, _ =>
      match generateCa library start.key start.now with
      | .ok ca => (start.returning (.ok ca), dir.persist start ca)
      | .error failure => (start.returning (.error failure), dir)

/-- The directory after a start. -/
def CaDir.step (dir : CaDir) (start : CaStart) : CaDir :=
  (loadOrCreate library start dir).2

/-- The key belongs to the certificate. -/
def BelongTogether (ca : CaInner) : Prop :=
  Exists fun key => library.keyPairFromPem ca.caKeyPem = .ok key ∧
    library.certPublicKey ca.caCertPem = some (library.publicKey key)

/-- An authority that some start generated. -/
structure GeneratedCa where
  key : KeyPair
  now : DateTime
  ca : CaInner
  generated : generateCa library key now = .ok ca

end Start

/-! ## Generated authorities -/

section Generated

variable {library : CaLibrary}

theorem generateCa_ok {key : KeyPair} {now : DateTime} {ca : CaInner}
    (generated : generateCa library key now = .ok ca) :
    ca.caKeyPem = library.serializePem key ∧ Exists fun params =>
      library.selfSigned params key = .ok ca.caCertPem := by
  unfold generateCa at generated
  rcases bind_eq_ok.mp generated with ⟨params, prepared, generated⟩
  rcases bind_eq_ok.mp generated with ⟨certPem, signed, generated⟩
  cases generated
  exact ⟨rfl, params, mapError_ok signed⟩

/-- When the files can be loaded. -/
theorem loadFromDisk_ok_iff {crt key : CaFile} {ca : CaInner} :
    loadFromDisk library crt key = .ok ca <->
    ca = ⟨key.text, crt.text⟩ ∧
      (Exists fun keyPair => library.keyPairFromPem key.text = .ok keyPair ∧
      (library.issuerFromCaCertPem crt.text keyPair).isOk = true) ∧
        (pemToDer library.decodeBase64 crt.text).isSome = true := by
  constructor
  · intro loaded
    unfold loadFromDisk at loaded
    rcases bind_eq_ok.mp loaded with ⟨keyPair, keyRead, loaded⟩
    rcases bind_eq_ok.mp loaded with ⟨issuer, certRead, loaded⟩
    split at loaded
    · cases loaded
    next der decoded =>
    cases loaded
    have read := mapError_ok certRead
    exact ⟨rfl, ⟨keyPair, mapError_ok keyRead, read ▸ rfl⟩, decoded ▸ rfl⟩
  · rintro ⟨rfl, ⟨keyPair, keyRead, certRead⟩, decoded⟩
    rcases isOk_iff.mp certRead with ⟨issuer, issued⟩
    rcases Option.isSome_iff_exists.mp decoded with ⟨der, body⟩
    simp only [loadFromDisk, keyRead, issued, body, Except.mapError, bind,
      Except.bind]
    rfl

/-- The two texts are a key and a certificate that belongs to it. -/
structure ReadTogether (library : CaLibrary) (certPem keyPem : String)
    (keyPair : KeyPair) : Prop where
  key : library.keyPairFromPem keyPem = .ok keyPair
  crt : (library.issuerFromCaCertPem certPem keyPair).isOk = true
  der : (pemToDer library.decodeBase64 certPem).isSome = true
  belongs : library.certPublicKey certPem = some (library.publicKey keyPair)

theorem loads_together_iff {crt key : CaFile} :
    (Exists fun ca => loadFromDisk library crt key = .ok ca ∧
      BelongTogether library ca) <->
      Exists fun keyPair => ReadTogether library crt.text key.text keyPair := by
  constructor
  · rintro ⟨ca, loaded, keyPair', keyRead', belongs⟩
    rcases loadFromDisk_ok_iff.mp loaded with
      ⟨rfl, ⟨keyPair, keyRead, certRead⟩, decoded⟩
    have sameKey := Except.ok.inj (keyRead'.symm.trans keyRead)
    rw [sameKey] at belongs
    exact ⟨keyPair, keyRead, certRead, decoded, belongs⟩
  · rintro ⟨keyPair, together⟩
    refine ⟨⟨key.text, crt.text⟩, ?_, keyPair, together.key, together.belongs⟩
    exact loadFromDisk_ok_iff.mpr
      ⟨rfl, ⟨keyPair, together.key, together.crt⟩, together.der⟩

section Parts

variable {key : KeyPair} {now : DateTime} {ca : CaInner}

/-- The whole certificate with a part of its key. -/
theorem readTogether_key_part (generated : generateCa library key now = .ok ca)
    (written : Nat) :
    (Exists fun keyPair =>
      ReadTogether library ca.caCertPem (writtenPart written ca.caKeyPem)
        keyPair) <->
      (library.keyPairFromPem (writtenPart written ca.caKeyPem)).isOk = true := by
  rcases generateCa_ok generated with ⟨serialized, params, signed⟩
  constructor
  · rintro ⟨keyPair, together⟩
    rw [together.key]
    rfl
  · intro keyRead
    rcases isOk_iff.mp keyRead with ⟨keyPair, read⟩
    have sameKey : library.publicKey keyPair = library.publicKey key := by
      rw [serialized] at read
      exact library.publicKey_part params key ca.caCertPem written
        keyPair signed read
    have certRead :=
      library.issuer_selfSigned params key ca.caCertPem keyPair signed
    have belongs :=
      library.certPublicKey_part params key ca.caCertPem
        ca.caCertPem.toList.length keyPair signed
    rw [writtenPart_all] at belongs
    refine ⟨keyPair, read, certRead,
      library.pemToDer_selfSigned params key ca.caCertPem signed, ?_⟩
    rw [belongs certRead, sameKey]

/-- A generated authority is read as written. -/
theorem readTogether_generated (generated : generateCa library key now = .ok ca) :
    Exists fun keyPair =>
      ReadTogether library ca.caCertPem ca.caKeyPem keyPair := by
  rcases generateCa_ok generated with ⟨serialized, params, signed⟩
  have part := readTogether_key_part generated ca.caKeyPem.toList.length
  rw [writtenPart_all, serialized] at part
  rw [serialized]
  exact part.mpr
    (library.keyPairFromPem_serializePem params key ca.caCertPem signed)

/-- The key that is read back is the one that was drawn. -/
theorem publicKey_of_readTogether
    (generated : generateCa library key now = .ok ca) {certPem : String}
    {keyPair : KeyPair}
    (together : ReadTogether library certPem ca.caKeyPem keyPair) :
    library.publicKey keyPair = library.publicKey key := by
  rcases generateCa_ok generated with ⟨serialized, params, signed⟩
  have read := together.key
  rw [serialized, ← writtenPart_all (library.serializePem key)] at read
  exact library.publicKey_part params key ca.caCertPem _ keyPair signed read

/-- A part of the certificate with the key of another start. -/
theorem readTogether_crt_part (generated : generateCa library key now = .ok ca)
    (written : Nat) (old : String) (keyPair : KeyPair) :
    ReadTogether library (writtenPart written ca.caCertPem) old keyPair <->
      library.keyPairFromPem old = .ok keyPair ∧
        (library.issuerFromCaCertPem (writtenPart written ca.caCertPem)
          keyPair).isOk = true ∧
        (pemToDer library.decodeBase64
          (writtenPart written ca.caCertPem)).isSome = true ∧
        library.publicKey key = library.publicKey keyPair := by
  rcases generateCa_ok generated with ⟨_, params, signed⟩
  constructor
  · rintro ⟨keyRead, certRead, decoded, belongs⟩
    rw [library.certPublicKey_part params key ca.caCertPem written keyPair signed
      certRead] at belongs
    exact ⟨keyRead, certRead, decoded, Option.some.inj belongs⟩
  · rintro ⟨keyRead, certRead, decoded, sameKey⟩
    refine ⟨keyRead, certRead, decoded, ?_⟩
    rw [library.certPublicKey_part params key ca.caCertPem written keyPair signed
      certRead, sameKey]

end Parts

end Generated

end Complyx
