import Complyx.Lifecycle.CaCrashes
import Complyx.Orchestrator.State
import Complyx.Server.Settings

namespace Complyx

open Transition

/-!
# Starting the server

A start connects to the database, loads the authority or generates one, and reads
the server's own certificate and key for its two ports.  The main port admits the
agents whose certificates the authority has signed; the file that says so is read
again after the authority was loaded.

Between the starts the operator may replace the server's own files, processes sign
requests and end, and a start may fail or be killed anywhere.  An agent that was
enrolled once is to be trusted by every process that comes later.
-/

/-! ## The files of the PKI directory -/

/-- `rustls_pemfile`: the certificates of a text, each read or not, and its first
private key. -/
structure PemLibrary where
  certs : String -> List (Except String Der)
  privateKey : String -> Except String (Option Der)

/-- `GrpcPkiError`, as far as the configurations need it. -/
inductive GrpcPkiError where
  | io (path source : String)
  | noCertificate (path : String)
  | noPrivateKey (path : String)
  | invalidPem (path reason : String)
  deriving DecidableEq, Repr

/-- The files that the configurations are made of. -/
inductive TlsFile where
  | serverCrt
  | serverKey
  | caCrt
  deriving DecidableEq, Repr

def TlsFile.name : TlsFile -> String
  | .serverCrt => "server.crt"
  | .serverKey => "server.key"
  | .caCrt => "ca.crt"

/-- The directory: the authority's files and the server's own. -/
structure PkiDir where
  ca : CaDir
  serverCrt : Option String
  serverKey : Option String
  deriving DecidableEq

def PkiDir.text (dir : PkiDir) : TlsFile -> Option String
  | .serverCrt => dir.serverCrt
  | .serverKey => dir.serverKey
  | .caCrt => dir.ca.crt.map CaFile.text

/-- `Path::join` with a file name. -/
def joinPath (dir name : String) : String :=
  if dir.isEmpty then name
  else if dir.endsWith "/" then dir ++ name else dir ++ "/" ++ name

/-- How a start finds the directory: its spelling, and the files that cannot be
read. -/
structure Reading where
  caDir : String
  unreadable : TlsFile -> Option String

def Reading.path (reading : Reading) (file : TlsFile) : String :=
  joinPath reading.caDir file.name

/-- `read_file`. -/
def readFile (reading : Reading) (dir : PkiDir) (file : TlsFile) :
    Except GrpcPkiError String :=
  match reading.unreadable file, dir.text file with
  | some source, _ => .error (.io (reading.path file) source)
  | none, none =>
      .error (.io (reading.path file) "No such file or directory (os error 2)")
  | none, some text => .ok text

section Configurations

variable (library : PemLibrary)

/-- `validate_cert_pem`. -/
def validateCertPem (pem path : String) : Except GrpcPkiError Unit :=
  let parsed := library.certs pem
  if parsed.isEmpty || parsed.all fun cert =>
    !cert.isOk then .error (.noCertificate path)
  else match parsed.find? fun cert => !cert.isOk with
    | some (.error reason) => .error (.invalidPem path reason)
    | _ => .ok ()

/-- `validate_key_pem`. -/
def validateKeyPem (pem path : String) : Except GrpcPkiError Unit :=
  match library.privateKey pem with
  | .ok (some _) => .ok ()
  | .ok none => .error (.noPrivateKey path)
  | .error reason => .error (.invalidPem path reason)

structure Identity where
  cert : String
  key : String
  deriving DecidableEq

structure ServerTlsConfig where
  identity : Identity
  clientCaRoot : Option String
  deriving DecidableEq

/-- `build_mtls_config`. -/
def buildMtlsConfig (reading : Reading) (dir : PkiDir) :
    Except GrpcPkiError ServerTlsConfig := do
  let serverCertPem <- readFile reading dir .serverCrt
  let serverKeyPem <- readFile reading dir .serverKey
  let caCertPem <- readFile reading dir .caCrt
  validateCertPem library serverCertPem (reading.path .serverCrt)
  validateKeyPem library serverKeyPem (reading.path .serverKey)
  validateCertPem library caCertPem (reading.path .caCrt)
  return { identity := ⟨serverCertPem,
    serverKeyPem⟩, clientCaRoot := some caCertPem }

/-- `build_tls_config`. -/
def buildTlsConfig (reading : Reading) (dir : PkiDir) :
    Except GrpcPkiError ServerTlsConfig := do
  let serverCertPem <- readFile reading dir .serverCrt
  let serverKeyPem <- readFile reading dir .serverKey
  validateCertPem library serverCertPem (reading.path .serverCrt)
  validateKeyPem library serverKeyPem (reading.path .serverKey)
  return { identity := ⟨serverCertPem, serverKeyPem⟩, clientCaRoot := none }

end Configurations

/-! ## One start -/

/-- Why a start fails. -/
inductive StartupError where
  | connect (cause : String)
  | migrations (cause : String)
  | authority (cause : PkiError)
  | mtls (cause : GrpcPkiError)
  | tls (cause : GrpcPkiError)
  deriving DecidableEq, Repr

/-- What a start finds: its settings, how the database answers, what the authority
is generated with, the files it cannot read, and whether it is killed once the
authority is there. -/
structure ServerStart where
  config : ServerConfig
  connected : Except String Unit
  migrated : Except String Unit
  authority : CaStart
  unreadable : TlsFile -> Option String
  killed : Bool

/-- Every start is given the one directory, as its settings spell it. -/
def ServerStart.reading (start : ServerStart) : Reading where
  caDir := start.config.caDir
  unreadable := start.unreadable

/-- `AppState`: the authority, the orchestrator with the timer of its monitor, the
validity that certificates get, and the configurations of the two ports. -/
structure AppState where
  ca : CaInner
  orchestrator : Orchestrator
  monitor : Except (Fault Empty) Nat
  certValidityDays : Int64
  mtlsConfig : ServerTlsConfig
  tlsConfig : ServerTlsConfig

section Build

variable (library : CaLibrary) (pemLibrary : PemLibrary)

/-- `build` once the authority is there. -/
def ServerStart.finish (start : ServerStart) (ca : CaInner) (dir : PkiDir) :
    Except (Fault StartupError) AppState := do
  let mtlsConfig <- (buildMtlsConfig pemLibrary start.reading dir).mapError
    fun cause => .error (.mtls cause)
  let tlsConfig <- (buildTlsConfig pemLibrary start.reading dir).mapError
    fun cause => .error (.tls cause)
  return {
    ca := ca, orchestrator := .new start.config.agentOfflineTimeoutSecs,
    monitor := start.config.monitorTimer
    certValidityDays := start.config.certValidityDays, mtlsConfig := mtlsConfig,
    tlsConfig := tlsConfig }

/-- `build` from the authority on. -/
def ServerStart.proceed (start : ServerStart) (dir : PkiDir) :
    Option (Except (Fault StartupError) AppState) × PkiDir :=
  let opened := loadOrCreate library start.authority dir.ca
  let dir := { dir with ca := opened.2 }
  match opened.1 with
  | none => (none, dir)
  | some (.error failure) => (some (.error (failure.map .authority)), dir)
  | some (.ok ca) =>
      (if start.killed then none else some (start.finish pemLibrary ca dir), dir)

/-- `AppState::build`: what it returns, unless it is killed, and the directory it
leaves. -/
def AppState.build (start : ServerStart) (dir : PkiDir) :
    Option (Except (Fault StartupError) AppState) × PkiDir :=
  match start.connected with
  | .error cause => (some (.error (.error (.connect cause))), dir)
  | .ok _ =>
      match start.migrated with
      | .error cause => (some (.error (.error (.migrations cause))), dir)
      | .ok _ => start.proceed library pemLibrary dir

/-! ## A site -/

/-- A certificate that a process has signed, with the authority's certificate that
the agent was given to trust. -/
structure IssuedCert where
  certPem : String
  serial : String
  caCertPem : String
  deriving DecidableEq

/-- The directory, the processes that run on it, and the certificates issued so
far. -/
structure Site where
  dir : PkiDir
  running : List AppState
  issued : List IssuedCert

inductive SiteEvent where
  | start (start : ServerStart)
  | enroll (process : Nat) (draws : SignDraws) (csrPem hostname : String)
  | provide (serverCrt serverKey : Option String)
  | stop (process : Nat)

namespace Site

/-- Nothing runs yet. -/
def first (dir : PkiDir) : Site where
  dir := dir
  running := []
  issued := []

/-- A process signs a request and answers with the authority's certificate. -/
def enroll (site : Site) (app : AppState) (draws : SignDraws)
    (csrPem hostname : String) : Site :=
  match signCsr library.toCertLibrary app.ca draws csrPem hostname
      app.certValidityDays.toInt with
  | .ok (certPem, serial) =>
      { site with issued := site.issued ++ [⟨certPem, serial, app.ca.caCertPem⟩] }
  | .error _ => site

def step (site : Site) : SiteEvent -> Site
  | .start start =>
      match AppState.build library pemLibrary start site.dir with
      | (some (.ok app), dir) =>
          { site with dir := dir, running := site.running ++ [app] }
      | (_, dir) => { site with dir := dir }
  | .enroll process draws csrPem hostname =>
      match site.running[process]? with
      | some app => site.enroll library app draws csrPem hostname
      | none => site
  | .provide serverCrt serverKey =>
      { site with
        dir := { site.dir with serverCrt := serverCrt, serverKey := serverKey } }
  | .stop process => { site with running := site.running.eraseIdx process }

end Site

end Build

/-! ## The configurations -/

section Configured

variable {library : PemLibrary} {reading : Reading} {dir : PkiDir}
  {config : ServerTlsConfig}

theorem readFile_ok_iff {file : TlsFile} {text : String} :
    readFile reading dir file = .ok text <-> reading.unreadable file = none ∧
      dir.text file = some text := by
  unfold readFile
  cases reading.unreadable file with
  | some source =>
      exact iff_of_false (fun impossible => by cases impossible)
        fun impossible => by cases impossible.1
  | none =>
      cases dir.text file with
      | none =>
          exact iff_of_false (fun impossible => by cases impossible)
            fun impossible => by cases impossible.2
      | some found =>
          constructor
          · intro read
            exact ⟨rfl, congrArg some (Except.ok.inj read)⟩
          · intro present
            exact congrArg Except.ok (Option.some.inj present.2)

/-- There is a certificate in the text, and everything that looks like one is
one. -/
def PemLibrary.Certifies (library : PemLibrary) (pem : String) : Prop :=
  library.certs pem ≠ [] ∧ forall cert, cert ∈ library.certs pem ->
    cert.isOk = true

/-- There is a private key in the text. -/
def PemLibrary.Unlocks (library : PemLibrary) (pem : String) : Prop :=
  Exists fun key => library.privateKey pem = .ok (some key)

/-- The texts pass for one path as for another. -/
theorem validateCertPem_ok_iff {pem path : String} :
    validateCertPem library pem path = .ok () <-> library.Certifies pem := by
  unfold validateCertPem PemLibrary.Certifies
  dsimp only
  constructor
  · intro valid
    split at valid
    · cases valid
    next some_read =>
    rw [Bool.or_eq_true, not_or] at some_read
    refine ⟨fun none_there => some_read.1 (List.isEmpty_iff.mpr none_there), ?_⟩
    intro cert member
    split at valid
    · cases valid
    next unfound =>
    by_contra bad
    rw [Bool.not_eq_true] at bad
    have found :
        ((library.certs pem).find? fun cert => !cert.isOk).isSome = true := by
      rw [List.find?_isSome]
      exact ⟨cert, member, by rw [bad]; rfl⟩
    rcases Option.isSome_iff_exists.mp found with ⟨failed, first⟩
    have failing := List.find?_some first
    cases failed with
    | error reason => exact unfound reason first
    | ok der => cases failing
  · rintro ⟨present, read⟩
    rcases List.exists_mem_of_ne_nil _ present with ⟨cert, member⟩
    have passes :
        ¬ ((library.certs pem).isEmpty ||
          (library.certs pem).all fun cert => !cert.isOk) = true := by
      rw [Bool.or_eq_true, not_or]
      refine ⟨fun none_there => present (List.isEmpty_iff.mp none_there),
        fun all_bad => ?_⟩
      have bad := List.all_eq_true.mp all_bad cert member
      rw [read cert member] at bad
      cases bad
    have unfound : ((library.certs pem).find? fun cert => !cert.isOk) = none := by
      rw [List.find?_eq_none]
      intro other listed
      rw [read other listed]
      exact Bool.false_ne_true
    rw [if_neg passes, unfound]

theorem validateKeyPem_ok_iff {pem path : String} :
    validateKeyPem library pem path = .ok () <-> library.Unlocks pem := by
  unfold validateKeyPem PemLibrary.Unlocks
  constructor
  · intro valid
    split at valid
    · next key read => exact ⟨key, read⟩
    · cases valid
    · cases valid
  · rintro ⟨key, read⟩
    rw [read]

/-- The server's own certificate and key are there and pass. -/
structure PkiDir.Identifies (dir : PkiDir) (library : PemLibrary)
    (identity : Identity) : Prop where
  crt : dir.serverCrt = some identity.cert
  key : dir.serverKey = some identity.key
  certifies : library.Certifies identity.cert
  unlocks : library.Unlocks identity.key

theorem buildTlsConfig_ok
    (built : buildTlsConfig library reading dir = .ok config) :
    dir.Identifies library config.identity ∧ config.clientCaRoot = none := by
  unfold buildTlsConfig at built
  rcases bind_eq_ok.mp built with ⟨serverCertPem, crt, built⟩
  rcases bind_eq_ok.mp built with ⟨serverKeyPem, key, built⟩
  rcases bind_eq_ok.mp built with ⟨_, certifies, built⟩
  rcases bind_eq_ok.mp built with ⟨_, unlocks, built⟩
  cases built
  exact ⟨⟨(readFile_ok_iff.mp crt).2, (readFile_ok_iff.mp key).2,
    validateCertPem_ok_iff.mp certifies, validateKeyPem_ok_iff.mp unlocks⟩, rfl⟩

theorem buildMtlsConfig_ok
    (built : buildMtlsConfig library reading dir = .ok config) :
    dir.Identifies library config.identity ∧ Exists fun crt =>
      dir.ca.crt = some crt ∧
      library.Certifies crt.text ∧ config.clientCaRoot = some crt.text := by
  unfold buildMtlsConfig at built
  rcases bind_eq_ok.mp built with ⟨serverCertPem, crt, built⟩
  rcases bind_eq_ok.mp built with ⟨serverKeyPem, key, built⟩
  rcases bind_eq_ok.mp built with ⟨caCertPem, root, built⟩
  rcases bind_eq_ok.mp built with ⟨_, certifies, built⟩
  rcases bind_eq_ok.mp built with ⟨_, unlocks, built⟩
  rcases bind_eq_ok.mp built with ⟨_, trusted, built⟩
  cases built
  rcases Option.map_eq_some_iff.mp (readFile_ok_iff.mp root).2 with
    ⟨file, present, text⟩
  refine ⟨⟨(readFile_ok_iff.mp crt).2, (readFile_ok_iff.mp key).2,
    validateCertPem_ok_iff.mp certifies, validateKeyPem_ok_iff.mp unlocks⟩, file,
      present, ?_⟩
  rw [text]
  exact ⟨validateCertPem_ok_iff.mp trusted, rfl⟩

section Readable

variable {identity : Identity}
  (readable : forall file, reading.unreadable file = none)
  (identifies : dir.Identifies library identity)

include readable identifies

theorem buildTlsConfig_of_identifies :
    buildTlsConfig library reading dir = .ok ⟨identity, none⟩ := by
  have crt : readFile reading dir .serverCrt = .ok identity.cert :=
    readFile_ok_iff.mpr ⟨readable .serverCrt, identifies.crt⟩
  have key : readFile reading dir .serverKey = .ok identity.key :=
    readFile_ok_iff.mpr ⟨readable .serverKey, identifies.key⟩
  simp only [buildTlsConfig, crt, key,
    validateCertPem_ok_iff.mpr identifies.certifies,
      validateKeyPem_ok_iff.mpr identifies.unlocks, bind, Except.bind]
  rfl

theorem buildMtlsConfig_of_identifies {file : CaFile}
    (present : dir.ca.crt = some file) (trusted : library.Certifies file.text) :
    buildMtlsConfig library reading dir = .ok ⟨identity, some file.text⟩ := by
  have crt : readFile reading dir .serverCrt = .ok identity.cert :=
    readFile_ok_iff.mpr ⟨readable .serverCrt, identifies.crt⟩
  have key : readFile reading dir .serverKey = .ok identity.key :=
    readFile_ok_iff.mpr ⟨readable .serverKey, identifies.key⟩
  have root : readFile reading dir .caCrt = .ok file.text :=
    readFile_ok_iff.mpr
      ⟨readable .caCrt, congrArg (Option.map CaFile.text) present⟩
  simp only [buildMtlsConfig, crt, key, root,
    validateCertPem_ok_iff.mpr identifies.certifies,
      validateKeyPem_ok_iff.mpr identifies.unlocks,
      validateCertPem_ok_iff.mpr trusted, bind, Except.bind]
  rfl

end Readable

end Configured

/-! ## The authority that stays -/

section Settled

variable {library : CaLibrary} {pemLibrary : PemLibrary}

/-- Both files of the authority are there and can be loaded. -/
structure CaDir.Settled (dir : CaDir) (library : CaLibrary)
    (ca : CaInner) : Prop where
  loads : Exists fun crt => Exists fun key =>
    dir.crt = some crt ∧ dir.key = some key ∧
      loadFromDisk library crt key = .ok ca

namespace CaDir.Settled

variable {dir : CaDir} {ca : CaInner}

theorem opened (settled : dir.Settled library ca) (start : CaStart) :
    loadOrCreate library start dir = (start.returning (.ok ca), dir) := by
  rcases settled.loads with ⟨crt, key, hasCrt, hasKey, loaded⟩
  rw [loadOrCreate_loads hasCrt hasKey, loaded]

theorem step (settled : dir.Settled library ca) (start : CaStart) :
    dir.step library start = dir :=
  congrArg Prod.snd (settled.opened start)

theorem unique (settled : dir.Settled library ca) {other : CaInner}
    (settled' : dir.Settled library other) :
    other = ca := by
  rcases settled.loads with ⟨crt, key, hasCrt, hasKey, loaded⟩
  rcases settled'.loads with ⟨crt', key', hasCrt', hasKey', loaded'⟩
  rw [Option.some.inj (hasCrt'.symm.trans hasCrt),
    Option.some.inj (hasKey'.symm.trans hasKey), loaded] at loaded'
  exact (Except.ok.inj loaded').symm

/-- The certificate on disk is the authority's. -/
theorem crt_text (settled : dir.Settled library ca) {crt : CaFile}
    (present : dir.crt = some crt) :
    crt.text = ca.caCertPem := by
  rcases settled.loads with ⟨crt', key, hasCrt, hasKey, loaded⟩
  rw [(loadFromDisk_ok_iff.mp loaded).1,
    Option.some.inj (present.symm.trans hasCrt)]

end CaDir.Settled

/-- A start that got an authority leaves it settled, even if the start then
fails. -/
theorem settled_of_returned {dir : CaDir} {start : CaStart} {ca : CaInner}
    (returned : (loadOrCreate library start dir).1 = some (.ok ca)) :
    (dir.step library start).Settled library ca := by
  rcases stores_of_returned returned with
    ⟨crt, key, hasCrt, hasKey, crtText, keyText⟩
  have together : Exists fun keyPair =>
    library.keyPairFromPem key.text = .ok keyPair ∧
      (library.issuerFromCaCertPem crt.text keyPair).isOk = true ∧
      (pemToDer library.decodeBase64 crt.text).isSome = true := by
    rw [crtText, keyText]
    rcases dir.loads_or_generates with ⟨oldCrt, oldKey, hadCrt, hadKey⟩ | missing
    · rw [loadOrCreate_loads hadCrt hadKey] at returned
      rcases loadFromDisk_ok_iff.mp (returning_ok returned).2 with
        ⟨rfl, ⟨keyPair, keyRead, certRead⟩, decoded⟩
      exact ⟨keyPair, keyRead, certRead, decoded⟩
    · rw [loadOrCreate_generates missing] at returned
      split at returned
      · next ca' generated =>
        rw [← Except.ok.inj (returning_ok returned).2]
        rcases readTogether_generated generated with ⟨keyPair, together⟩
        exact ⟨keyPair, together.key, together.crt, together.der⟩
      · cases (returning_ok returned).2
  rcases together with ⟨keyPair, keyRead, certRead, decoded⟩
  refine ⟨crt, key, hasCrt, hasKey,
    loadFromDisk_ok_iff.mpr ⟨?_, ⟨keyPair, keyRead, certRead⟩, decoded⟩⟩
  rw [crtText, keyText]

/-! ## What a start does -/

/-- A start has built a state from the directory. -/
structure Built (library : CaLibrary) (pemLibrary : PemLibrary)
    (start : ServerStart) (dir : PkiDir) (app : AppState) : Prop where
  returned : (loadOrCreate library start.authority dir.ca).1 = some (.ok app.ca)
  finished :
    start.finish pemLibrary app.ca
      { dir with ca := dir.ca.step library start.authority } = .ok app

theorem ServerStart.finish_ca {start : ServerStart} {ca : CaInner} {dir : PkiDir}
    {app : AppState}
    (finished : start.finish pemLibrary ca dir = .ok app) : app.ca = ca := by
  unfold ServerStart.finish at finished
  rcases bind_eq_ok.mp finished with ⟨mtlsConfig, _, finished⟩
  rcases bind_eq_ok.mp finished with ⟨tlsConfig, _, finished⟩
  cases finished
  rfl

/-- A start leaves the directory, or the authority's part of it as the authority's
start leaves it.  If it builds a state it does the latter. -/
theorem AppState.build_cases (library : CaLibrary) (pemLibrary : PemLibrary)
    (start : ServerStart) (dir : PkiDir) :
    (Exists fun app => AppState.build library pemLibrary start dir =
      (some (.ok app), { dir with ca := dir.ca.step library start.authority }) ∧
      Built library pemLibrary start dir app) ∨
    (forall app,
      (AppState.build library pemLibrary start dir).1 ≠ some (.ok app)) ∧
      ((AppState.build library pemLibrary start dir).2 = dir ∨
        (AppState.build library pemLibrary start dir).2 =
          { dir with ca := dir.ca.step library start.authority }) := by
  have failed : forall (failure : Fault StartupError) (app : AppState),
      some (Except.error failure : Except (Fault StartupError) AppState) ≠
        some (.ok app) := by
    intro failure app impossible
    cases impossible
  have killed : forall app : AppState,
      (none : Option (Except (Fault StartupError) AppState)) ≠
      some (.ok app) := by
    intro app impossible
    cases impossible
  unfold AppState.build
  split
  · exact Or.inr ⟨failed _, Or.inl rfl⟩
  split
  · exact Or.inr ⟨failed _, Or.inl rfl⟩
  unfold ServerStart.proceed CaDir.step
  dsimp only
  split
  · exact Or.inr ⟨killed, Or.inr rfl⟩
  · exact Or.inr ⟨failed _, Or.inr rfl⟩
  next ca returned =>
  split
  · exact Or.inr ⟨killed, Or.inr rfl⟩
  cases finished :
      start.finish pemLibrary ca
        { dir with ca := (loadOrCreate library start.authority dir.ca).2 } with
  | error failure =>
      exact Or.inr ⟨failed _, Or.inr rfl⟩
  | ok app =>
      have same := ServerStart.finish_ca finished
      refine Or.inl ⟨app, rfl, ?_, ?_⟩
      · rw [same]
        exact returned
      · rw [same]
        exact finished

end Settled

/-! ## Processes -/

/-- The main port admits the agents of the process's own authority, and both ports
show the same identity. -/
structure AppState.Consistent (app : AppState) : Prop where
  clientCaRoot : app.mtlsConfig.clientCaRoot = some app.ca.caCertPem
  oneWay : app.tlsConfig.clientCaRoot = none
  identity : app.tlsConfig.identity = app.mtlsConfig.identity

/-- The authority has signed the certificate, and its own certificate went along. -/
structure CaInner.Issued (ca : CaInner) (library : CaLibrary)
    (cert : IssuedCert) : Prop where
  root : cert.caCertPem = ca.caCertPem
  signed : Exists fun draws => Exists fun csrPem => Exists fun hostname =>
    Exists fun validityDays =>
    signCsr library.toCertLibrary ca draws csrPem hostname validityDays =
      .ok (cert.certPem, cert.serial)

section Sites

variable {library : CaLibrary} {pemLibrary : PemLibrary}

/-- What a process is made of. -/
theorem Built.parts {start : ServerStart} {dir : PkiDir} {app : AppState}
    (built : Built library pemLibrary start dir app) :
    (dir.ca.step library start.authority).Settled library app.ca ∧
      app.Consistent ∧
      pemLibrary.Certifies app.ca.caCertPem ∧
        dir.Identifies pemLibrary app.mtlsConfig.identity := by
  have settled := settled_of_returned built.returned
  have finished := built.finished
  unfold ServerStart.finish at finished
  rcases bind_eq_ok.mp finished with ⟨mtlsConfig, mtls, finished⟩
  rcases bind_eq_ok.mp finished with ⟨tlsConfig, tls, finished⟩
  rcases buildMtlsConfig_ok (mapError_ok mtls) with
    ⟨identifies, crt, present, certifies, root⟩
  rcases buildTlsConfig_ok (mapError_ok tls) with ⟨identifies', oneWay⟩
  have text := settled.crt_text present
  rw [text] at certifies root
  have sameCert := Option.some.inj (identifies'.crt.symm.trans identifies.crt)
  have sameKey := Option.some.inj (identifies'.key.symm.trans identifies.key)
  have same := Except.ok.inj finished
  rw [← same]
  refine ⟨same ▸ settled, ⟨root, oneWay, ?_⟩, certifies, identifies.crt,
    identifies.key, identifies.certifies, identifies.unlocks⟩
  rcases mtlsConfig with ⟨⟨cert, key⟩, _⟩
  rcases tlsConfig with ⟨⟨cert', key'⟩, _⟩
  cases sameCert
  cases sameKey
  rfl

/-- A settled authority outlasts a start, whatever becomes of it. -/
theorem settled_build {dir : PkiDir} {ca : CaInner}
    (settled : dir.ca.Settled library ca) (start : ServerStart) :
    (AppState.build library pemLibrary start dir).2.ca = dir.ca := by
  rcases AppState.build_cases library pemLibrary start dir with
    ⟨app, built, _⟩ | ⟨_, same | stepped⟩
  · rw [built]
    exact settled.step start.authority
  · rw [same]
  · rw [stepped]
    exact settled.step start.authority

namespace Site

theorem step_start_built {site : Site} {start : ServerStart} {app : AppState}
    {dir : PkiDir}
    (built : AppState.build library pemLibrary start site.dir =
      (some (.ok app), dir)) :
    site.step library pemLibrary (.start start) =
      { site with dir := dir, running := site.running ++ [app] } := by
  simp only [step, built]

theorem step_start_failed {site : Site} {start : ServerStart}
    (failed : forall app,
      (AppState.build library pemLibrary start site.dir).1 ≠ some (.ok app)) :
    site.step library pemLibrary (.start start) =
      { site with dir :=
        (AppState.build library pemLibrary start site.dir).2 } := by
  rcases result : AppState.build library pemLibrary start site.dir with
    ⟨_ | _ | app, dir⟩
  · simp only [step, result]
  · simp only [step, result]
  · rw [result] at failed
    exact absurd rfl (failed app)

theorem step_start_dir (site : Site) (start : ServerStart) :
    (site.step library pemLibrary (.start start)).dir =
      (AppState.build library pemLibrary start site.dir).2 := by
  rcases AppState.build_cases library pemLibrary start site.dir with
    ⟨app, built, _⟩ | ⟨failed, _⟩
  · rw [step_start_built built, built]
  · rw [step_start_failed failed]

theorem step_enroll_cases (site : Site) (process : Nat) (draws : SignDraws)
    (csrPem hostname : String) :
    site.step library pemLibrary (.enroll process draws csrPem hostname) = site ∨
    Exists fun app => app ∈ site.running ∧
      site.step library pemLibrary (.enroll process draws csrPem hostname) =
        site.enroll library app draws csrPem hostname := by
  cases running : site.running[process]? with
  | none =>
      left
      simp only [step, running]
  | some app =>
      right
      refine ⟨app, List.mem_of_getElem? running, ?_⟩
      simp only [step, running]

theorem enroll_dir (site : Site) (app : AppState) (draws : SignDraws)
    (csrPem hostname : String) :
    (site.enroll library app draws csrPem hostname).dir = site.dir := by
  unfold enroll
  split <;> rfl

/-- A settled authority stays. -/
theorem step_settled {site : Site} {ca : CaInner}
    (settled : site.dir.ca.Settled library ca) (event : SiteEvent) :
    (site.step library pemLibrary event).dir.ca = site.dir.ca := by
  cases event with
  | start start =>
      rw [step_start_dir]
      exact settled_build settled start
  | enroll process draws csrPem hostname =>
      rcases @step_enroll_cases library pemLibrary site process draws csrPem
        hostname with same | ⟨app, _, enrolled⟩
      · rw [same]
      · rw [enrolled, enroll_dir]
  | provide serverCrt serverKey => rfl
  | stop process => rfl

theorem after_settled {site : Site} {ca : CaInner}
    (settled : site.dir.ca.Settled library ca) (events : List SiteEvent) :
    (after (step library pemLibrary) site events).dir.ca.Settled library ca := by
  have preserved : forall (site : Site) event, site.dir.ca.Settled library ca ->
      (site.step library pemLibrary event).dir.ca.Settled library ca := by
    intro site event settled
    rw [step_settled settled event]
    exact settled
  exact (always_of_preserved preserved settled events).last

/-- Every process and every certificate comes from the authority on disk. -/
structure Trusting (library : CaLibrary) (site : Site) : Prop where
  running : forall app, app ∈ site.running -> site.dir.ca.Settled library app.ca ∧
    app.Consistent
  issued : forall cert, cert ∈ site.issued ->
    Exists fun ca => site.dir.ca.Settled library ca ∧ ca.Issued library cert

/-- An event that adds neither process nor certificate keeps the trust. -/
theorem Trusting.kept {site site' : Site} (trusting : site.Trusting library)
    (settled : forall ca, site.dir.ca.Settled library ca ->
      site'.dir.ca.Settled library ca)
    (running : forall app, app ∈ site'.running -> app ∈ site.running)
    (issued : site'.issued = site.issued) : site'.Trusting library where
  running := by
    intro app member
    have known := trusting.running app (running app member)
    exact ⟨settled _ known.1, known.2⟩
  issued := by
    intro cert member
    rw [issued] at member
    rcases trusting.issued cert member with ⟨ca, there, signed⟩
    exact ⟨ca, settled ca there, signed⟩

theorem trusting_start {site : Site} (trusting : site.Trusting library)
    (start : ServerStart) :
    (site.step library pemLibrary (.start start)).Trusting library := by
  have settled : forall ca, site.dir.ca.Settled library ca ->
      (site.step library pemLibrary (.start start)).dir.ca.Settled
        library ca := by
    intro ca there
    rw [step_settled there]
    exact there
  rcases AppState.build_cases library pemLibrary start site.dir with
    ⟨app, result, built⟩ | ⟨failed, _⟩
  · rw [step_start_built result] at settled ⊢
    refine ⟨?_, ?_⟩
    · intro other member
      rcases List.mem_append.mp member with old | new
      · have known := trusting.running other old
        exact ⟨settled _ known.1, known.2⟩
      · rw [List.mem_singleton.mp new]
        exact ⟨built.parts.1, built.parts.2.1⟩
    · intro cert member
      rcases trusting.issued cert member with ⟨ca, there, signed⟩
      exact ⟨ca, settled ca there, signed⟩
  · rw [step_start_failed failed] at settled ⊢
    exact trusting.kept settled (fun _ member => member) rfl

theorem trusting_enroll {site : Site} (trusting : site.Trusting library)
    {app : AppState} (member : app ∈ site.running) (draws : SignDraws)
    (csrPem hostname : String) :
    (site.enroll library app draws csrPem hostname).Trusting library := by
  unfold enroll
  split
  · next certPem serial signed =>
    refine ⟨trusting.running, ?_⟩
    intro cert listed
    rcases List.mem_append.mp listed with old | new
    · exact trusting.issued cert old
    · rw [List.mem_singleton.mp new]
      exact ⟨app.ca, (trusting.running app member).1, rfl, draws, csrPem,
        hostname, _, signed⟩
  · exact trusting

theorem trusting_step (site : Site) (event : SiteEvent)
    (trusting : site.Trusting library) :
    (site.step library pemLibrary event).Trusting library := by
  cases event with
  | start start => exact trusting_start trusting start
  | enroll process draws csrPem hostname =>
      rcases @step_enroll_cases library pemLibrary site process draws csrPem
          hostname with
        same | ⟨app, member, enrolled⟩
      · rw [same]
        exact trusting
      · rw [enrolled]
        exact trusting_enroll trusting member draws csrPem hostname
  | provide serverCrt serverKey =>
      exact trusting.kept (fun _ there => there) (fun _ member => member) rfl
  | stop process =>
      exact trusting.kept (fun _ there => there)
        (fun _ member => List.mem_of_mem_eraseIdx member) rfl

end Site

end Sites

/-- However often the server is started, killed and set up anew, any process that
runs admits agents by the authority that has signed every certificate issued so
far, by this process or by any other, and that all these agents were told to
trust. -/
theorem trust_survives_restarts (library : CaLibrary) (pemLibrary : PemLibrary)
    (dir : PkiDir) (events : List SiteEvent) :
    let site := after (Site.step library pemLibrary) (Site.first dir) events
    forall app, app ∈ site.running -> app.Consistent ∧
      (forall other, other ∈ site.running -> other.ca = app.ca) ∧
      forall cert, cert ∈ site.issued -> app.ca.Issued library cert := by
  intro site app member
  have nothing : (Site.first dir).Trusting library :=
    ⟨fun _ impossible => absurd impossible List.not_mem_nil, fun _ impossible =>
      absurd impossible List.not_mem_nil⟩
  have trusting : site.Trusting library :=
    (always_of_preserved Site.trusting_step nothing events).last
  have own := trusting.running app member
  refine ⟨own.2, ?_, ?_⟩
  · intro other running
    exact own.1.unique (trusting.running other running).1
  · intro cert issued
    rcases trusting.issued cert issued with ⟨ca, settled, signed⟩
    rw [← own.1.unique settled]
    exact signed

/-! ## Starting again -/

/-- Nothing goes wrong around the start. -/
structure ServerStart.Smooth (start : ServerStart) : Prop where
  connected : start.connected.isOk = true
  migrated : start.migrated.isOk = true
  running : start.authority.stop = none
  readable : forall file, start.unreadable file = none
  spared : start.killed = false

section Again

variable {library : CaLibrary} {pemLibrary : PemLibrary}

/-- A smooth start that gets an authority only needs the server's own files. -/
theorem build_of_opened {start : ServerStart} (smooth : start.Smooth)
    {dir : PkiDir} {ca : CaInner} {caDir : CaDir}
    (opened : loadOrCreate library start.authority dir.ca =
      (some (.ok ca), caDir))
    {crt : CaFile} (present : caDir.crt = some crt)
    (trusted : pemLibrary.Certifies crt.text) {identity : Identity}
    (identifies : dir.Identifies pemLibrary identity) :
    Exists fun app => (AppState.build library pemLibrary start dir).1 =
      some (.ok app) := by
  rcases isOk_iff.mp smooth.connected with ⟨_, connected⟩
  rcases isOk_iff.mp smooth.migrated with ⟨_, migrated⟩
  have readable : forall file, start.reading.unreadable file = none :=
    smooth.readable
  have identifies' : { dir with ca := caDir }.Identifies pemLibrary identity :=
    ⟨identifies.crt, identifies.key, identifies.certifies, identifies.unlocks⟩
  have mtls := buildMtlsConfig_of_identifies readable identifies' present trusted
  have tls := buildTlsConfig_of_identifies readable identifies'
  simp only [AppState.build, connected, migrated, ServerStart.proceed, opened,
    smooth.spared, ServerStart.finish, mtls, tls, Except.mapError, bind,
      Except.bind]
  exact ⟨_, rfl⟩

/-- A settled authority is loaded. -/
theorem build_of_settled {dir : PkiDir} {ca : CaInner}
    (settled : dir.ca.Settled library ca)
    (trusted : pemLibrary.Certifies ca.caCertPem) {start : ServerStart}
    (smooth : start.Smooth) {identity : Identity}
    (identifies : dir.Identifies pemLibrary identity) :
    Exists fun app => (AppState.build library pemLibrary start dir).1 =
      some (.ok app) := by
  have opened :
      loadOrCreate library start.authority dir.ca = (some (.ok ca), dir.ca) := by
    rw [settled.opened, returning_of_running smooth.running]
  rcases settled.loads with ⟨crt, _, present, _, _⟩
  rw [← settled.crt_text present] at trusted
  exact build_of_opened smooth opened present trusted identifies

end Again

/-- Once a start has built a state, whether a later one on which nothing else goes
wrong does so depends on the server's own certificate and key only, whatever has
happened between them; and it has the same authority. -/
theorem restart_builds_iff (library : CaLibrary) (pemLibrary : PemLibrary)
    (site : Site) (start : ServerStart) (app : AppState)
    (built : (AppState.build library pemLibrary start site.dir).1 =
      some (.ok app))
    (events : List SiteEvent) (later : ServerStart) (smooth : later.Smooth) :
    let last := after (Site.step library pemLibrary) site (.start start :: events)
    (Exists fun app' => (AppState.build library pemLibrary later last.dir).1 =
      some (.ok app') ∧ app'.ca = app.ca) <->
      Exists fun identity => last.dir.Identifies pemLibrary identity := by
  intro last
  have parts : Built library pemLibrary start site.dir app ∧
      (site.step library pemLibrary (.start start)).dir =
        { site.dir with ca := site.dir.ca.step library start.authority } := by
    rw [Site.step_start_dir]
    rcases AppState.build_cases library pemLibrary start site.dir with
      ⟨first, result, there⟩ | ⟨failed, _⟩
    · rw [result] at built ⊢
      rw [← Except.ok.inj (Option.some.inj built)]
      exact ⟨there, rfl⟩
    · exact absurd built (failed app)
  have settled : last.dir.ca.Settled library app.ca := by
    refine Site.after_settled ?_ events
    rw [parts.2]
    exact parts.1.parts.1
  constructor
  · rintro ⟨app', built', _⟩
    rcases AppState.build_cases library pemLibrary later last.dir with
      ⟨other, result, there⟩ | ⟨failed, _⟩
    · exact ⟨_, there.parts.2.2.2⟩
    · exact absurd built' (failed app')
  · rintro ⟨identity, identifies⟩
    rcases build_of_settled settled parts.1.parts.2.2.1 smooth identifies with
      ⟨app', built'⟩
    refine ⟨app', built', ?_⟩
    rcases AppState.build_cases library pemLibrary later last.dir with
      ⟨other, result, there⟩ | ⟨failed, _⟩
    · rw [result] at built'
      rw [← Except.ok.inj (Option.some.inj built')]
      have again := there.parts.1
      rw [settled.step] at again
      exact settled.unique again
    · exact absurd built' (failed app')

def rootKeyDer : Der :=
  readHex (
    "308187020100301306072a8648ce3d020106082a8648ce3d030107046d306b0201010420" ++
    "0fc7c84f38ddcf28e8b8cf7e605f8940a5546876faf789fb44f31b447d9ee393a1440342" ++
    "00048a7f85c0e28b07b7e601aa1e967a5fa2f0c26a5219284d1a617f664619366a016cd8" ++
    "a5fd1cd3c83810e5343ca6e729972b82730d283ba4cf1cbbc2c159c2ac16")

/-- The library that reads the recorded certificate and key only. -/
def rootPemLibrary : PemLibrary where
  certs text := if text = rootCertPem then [.ok rootDer] else []
  privateKey text := .ok (if text = rootKey.pem then some rootKeyDer else none)

/-- A start of the first day of the year. -/
def newYearStart : ServerStart where
  config := ServerConfig.defaults
  connected := .ok ()
  migrated := .ok ()
  authority := rootStart none
  unreadable := fun _ => none
  killed := false

/-- A server that shows the authority's own certificate. -/
def rootSite : Site :=
      .first
        { ca := firstDir, serverCrt := some rootCertPem, serverKey :=
          some rootKey.pem }

/-- The server ends, its files are lost, a start without them fails, and the files
are put back. -/
def rootEvents : List SiteEvent :=
  [.stop 0, .provide none none, .start newYearStart,
    .provide (some rootCertPem) (some rootKey.pem)]

theorem root_generated :
    (generateCa rootLibrary rootKey newYear).isOk = true := by
  decide +kernel

theorem root_restart_builds : Exists fun app => Exists fun app' =>
    (AppState.build rootLibrary rootPemLibrary newYearStart rootSite.dir).1 =
      some (.ok app) ∧
    (AppState.build rootLibrary rootPemLibrary newYearStart
      (after (Site.step rootLibrary rootPemLibrary) rootSite
        (.start newYearStart :: rootEvents)).dir).1 =
        some (.ok app') ∧ app'.ca = app.ca := by
  have smooth : newYearStart.Smooth := ⟨rfl, rfl, rfl, fun _ => rfl, rfl⟩
  have certs : rootPemLibrary.certs rootCertPem = [.ok rootDer] := by
    simp only [rootPemLibrary, if_true]
  have certifies : rootPemLibrary.Certifies rootCertPem := by
    refine ⟨?_, ?_⟩
    · rw [certs]
      exact List.cons_ne_nil _ _
    · intro cert member
      rw [certs] at member
      rw [List.mem_singleton.mp member]
      rfl
  have unlocks : rootPemLibrary.Unlocks rootKey.pem := by
    refine ⟨rootKeyDer, ?_⟩
    simp only [rootPemLibrary, if_true]
  have identifies :
      rootSite.dir.Identifies rootPemLibrary ⟨rootCertPem, rootKey.pem⟩ :=
    ⟨rfl, rfl, certifies, unlocks⟩
  rcases isOk_iff.mp root_generated with ⟨ca, generated⟩
  rcases generateCa_ok generated with ⟨_, params, signed⟩
  have started :
      generateCa rootLibrary (rootStart none).key (rootStart none).now = .ok ca :=
        generated
  have opened : loadOrCreate rootLibrary newYearStart.authority rootSite.dir.ca =
      (some (.ok ca), firstDir.persist (rootStart none) ca) := by
    show loadOrCreate rootLibrary (rootStart none) firstDir = _
    rw [loadOrCreate_generates (Or.inl rfl), started]
    rfl
  have trusted : rootPemLibrary.Certifies ca.caCertPem := by
    rw [(CaRecord.selfSigned_ok signed).2]
    exact certifies
  have present :
      (firstDir.persist (rootStart none) ca).crt = some ⟨ca.caCertPem, 0o644⟩ :=
        rfl
  rcases build_of_opened smooth opened present trusted identifies with
    ⟨app, returned⟩
  rcases (restart_builds_iff rootLibrary rootPemLibrary rootSite newYearStart app
    returned rootEvents newYearStart
    smooth).mpr ⟨⟨rootCertPem, rootKey.pem⟩, rfl, rfl, certifies, unlocks⟩ with
      ⟨app', built, sameCa⟩
  exact ⟨app, app', returned, built, sameCa⟩

end Complyx
