import Complyx.Encoding.Decimal
import Complyx.Pki.Samples
import Complyx.Platform.Calendar

namespace Complyx

open Encoding

/-!
# The settings of the server

The settings are checked once, when they are loaded.  The check looks at the
database URL and at the two ports; the numbers that become times are handed on as
they are to the monitor, to the generation of tokens and to the signing of
requests, each of which panics outside a range of its own.
-/

inductive LogFormat where
  | pretty
  | json
  deriving DecidableEq, Repr

structure ServerConfig where
  databaseUrl : String
  grpcPort : UInt16
  enrollPort : UInt16
  caDir : String
  certValidityDays : Int64
  enrollTokenExpiryHours : Int64
  agentOfflineTimeoutSecs : UInt64
  logLevel : String
  logFormat : LogFormat
  deriving DecidableEq

def defaultConfigPath : String := "/etc/complyx/server.toml"

/-- The URL has no default that passes the check. -/
def ServerConfig.defaults : ServerConfig where
  databaseUrl := ""
  grpcPort := 9000
  enrollPort := 9001
  caDir := "/var/lib/complyx/pki"
  certValidityDays := 365
  enrollTokenExpiryHours := 24
  agentOfflineTimeoutSecs := 300
  logLevel := "info"
  logFormat := .json

/-- `validate`. -/
def ServerConfig.validate (config : ServerConfig) : Except String Unit :=
  if config.databaseUrl.isEmpty then
    .error
      ("database_udl no configurado. Establecelo en " ++ defaultConfigPath ++
        " o con COMPLYX_DATABASE_URL")
  else if config.grpcPort = config.enrollPort then
    .error
      ("grpc_port y enroll_port no pueden ser el mismo puerto (" ++ toString
        config.grpcPort ++ ")")
  else .ok ()

/-! ## The monitor -/

/-- `tokio::time::interval`, which panics on a period of zero. -/
def interval {ε : Type} (period : Nat) : Except (Fault ε) Nat :=
  if period = 0 then .error (.panic "`period` must be non-zero.") else .ok period

/-- The period of the monitor in nanoseconds. -/
def ServerConfig.checkInterval (config : ServerConfig) : Nat :=
  (config.agentOfflineTimeoutSecs / 2).toNat * nanosPerSec.toNat

/-- The timer that `spawn_monitor` starts. -/
def ServerConfig.monitorTimer (config : ServerConfig) :
    Except (Fault Empty) Nat :=
  interval config.checkInterval

/-! ## The command that generates a token -/

/-- `flag_value`: what follows the flag. -/
def flagValue (args : List String) (flag : String) : Option String :=
  ((args.zip args.tail).find? fun window => window.1 = flag).map Prod.snd

/-- `str::parse::<i64>`. -/
def parseI64 (text : String) : Option Int64 :=
  (readInt text.toList).bind fun value =>
    if -2 ^ 63 ≤ value ∧ value < 2 ^ 63 then some (Int64.ofInt value) else none

/-- The hours given on the command line, or else those of the settings. -/
def ServerConfig.expiryHours (config : ServerConfig)
    (args : List String) : Int64 :=
  ((flagValue args "--expiry-hours").bind parseI64).getD
    config.enrollTokenExpiryHours

/-- The clock reading and the two identifiers of one token. -/
structure TokenDraws where
  now : DateTime
  first : Uuid
  second : Uuid

structure GeneratedToken where
  token : String
  hostnameHint : Option String
  expiresAt : DateTime

def tokenExpiry (now : DateTime) (expiryHours : Int64) :
    Except (Fault PkiError) DateTime := do
  let duration <- DateTime.durationHours expiryHours.toInt
  now.add duration

/-- `generate`, with what the database answers to the new row. -/
def generate (hashToken : String -> String)
    (saveEnrollToken : String -> Option String -> Timestamp ->
      Except DbError Uuid)
    (draws : TokenDraws) (hostnameHint : Option String) (expiryHours : Int64) :
    Except (Fault PkiError) GeneratedToken := do
  let token :=
    String.ofList
      (hexEncode draws.first.asBytes ++ hexEncode draws.second.asBytes)
  let tokenHash := hashToken token
  let expiresAt <- tokenExpiry draws.now expiryHours
  let _ <- (saveEnrollToken tokenHash hostnameHint expiresAt.naiveUtc).mapError
    databaseFault
  return { token := token, hostnameHint := hostnameHint, expiresAt := expiresAt }

/-- Every number of hours can be given. -/
theorem expiryHours_given (config : ServerConfig) (hours : Int64) :
    config.expiryHours ["complyx-server", "enroll-token", "--expiry-hours",
      String.ofList (writeInt hours.toInt)] =
      hours := by
  have given :
      flagValue ["complyx-server", "enroll-token", "--expiry-hours",
        String.ofList (writeInt hours.toInt)]
      "--expiry-hours" = some (String.ofList (writeInt hours.toInt)) := rfl
  have read : parseI64 (String.ofList (writeInt hours.toInt)) = some hours := by
    rw [parseI64, String.toList_ofList, readInt_writeInt, Option.bind_some,
      if_pos ⟨hours.le_toInt, hours.toInt_lt⟩, Int64.ofInt_toInt]
  rw [ServerConfig.expiryHours, given, Option.bind_some, read, Option.getD_some]

/-! ## What the computations need -/

/-- The computation panics. -/
def Panics {ε α : Type} (result : Except (Fault ε) α) : Prop :=
  Exists fun message => result = .error (.panic message)

theorem panics_error {ε α : Type} {failure : Fault ε} :
    Panics (.error failure : Except (Fault ε) α) <-> Exists fun message =>
      failure = .panic message := by
  simp only [Panics, Except.error.injEq]

theorem not_panics_ok {ε α : Type} (value : α) :
    ¬ Panics (.ok value : Except (Fault ε) α) := by
  rintro ⟨message, impossible⟩
  cases impossible

theorem not_panics_pure {ε α : Type} (value : α) :
    ¬ Panics (pure value : Except (Fault ε) α) :=
  not_panics_ok value

/-- Reporting a failure is not a panic. -/
theorem not_panics_mapError {δ ε α : Type} {wrap : δ -> Fault ε}
    (reported : forall failure message, wrap failure ≠ .panic message)
    (result : Except δ α) :
    ¬ Panics (result.mapError wrap) := by
  rintro ⟨message, panicked⟩
  cases result with
  | ok value => cases panicked
  | error failure => exact reported failure message (Except.error.inj panicked)

theorem panics_bind {ε α β : Type} {first : Except (Fault ε) α}
    {next : α -> Except (Fault ε) β} :
    Panics (first >>= next) <-> Panics first ∨ Exists fun value =>
      first = .ok value ∧ Panics (next value) := by
  cases first with
  | error failure =>
      have stays : (Except.error failure >>= next) = .error failure := rfl
      rw [stays, panics_error, panics_error]
      refine ⟨Or.inl, ?_⟩
      rintro (panicked | ⟨value, impossible, _⟩)
      · exact panicked
      · cases impossible
  | ok value =>
      refine ⟨fun panicked => Or.inr ⟨value, rfl, panicked⟩, ?_⟩
      rintro (impossible | ⟨other, same, panicked⟩)
      · exact absurd impossible (not_panics_ok value)
      · rw [Except.ok.inj same]
        exact panicked

/-- A sequence whose rest cannot panic. -/
theorem panics_bind_left {ε α β : Type} {first : Except (Fault ε) α}
    {next : α -> Except (Fault ε) β}
    (rest : forall value, ¬ Panics (next value)) :
    Panics (first >>= next) <-> Panics first := by
  rw [panics_bind]
  refine ⟨?_, Or.inl⟩
  rintro (panicked | ⟨value, _, panicked⟩)
  · exact panicked
  · exact absurd panicked (rest value)

/-- A computation that can only panic. -/
theorem panics_iff {ε α : Type} {result : Except (Fault ε) α}
    (only : forall failure, result = .error failure -> Exists fun message =>
      failure = .panic message) :
    Panics result <-> ¬ Exists fun value => result = .ok value := by
  cases result with
  | ok value =>
      exact iff_of_false (not_panics_ok value) fun failed => failed ⟨value, rfl⟩
  | error failure =>
      rcases only failure rfl with ⟨message, rfl⟩
      exact iff_of_true ⟨message, rfl⟩ fun ⟨value, impossible⟩ =>
        nomatch impossible

/-- The time has a date in the certificate library. -/
def HasYmd (nanos : Int) : Prop :=
  minYmdSecs * nanosPerSec ≤ nanos ∧ nanos < (maxYmdSecs + 1) * nanosPerSec

/-- The time is a date-time. -/
def HasUtc (nanos : Int) : Prop :=
  minUtcSecs * nanosPerSec ≤ nanos ∧ nanos < (maxUtcSecs + 1) * nanosPerSec

theorem monitorTimer_panics_iff (config : ServerConfig) :
    Panics config.monitorTimer <-> config.agentOfflineTimeoutSecs.toNat < 2 := by
  have period :
      config.checkInterval =
        config.agentOfflineTimeoutSecs.toNat / 2 * 1000000000 := by
    rw [ServerConfig.checkInterval, UInt64.toNat_div]
    rfl
  unfold ServerConfig.monitorTimer interval
  split
  · next zero =>
    refine iff_of_true ⟨_, rfl⟩ ?_
    omega
  · next some =>
    refine iff_of_false (not_panics_ok _) ?_
    omega

theorem tokenExpiry_isOk {now : DateTime} {expiryHours : Int64} :
    (Exists fun expiresAt => tokenExpiry now expiryHours = .ok expiresAt) <->
      HasUtc (now.nanos + expiryHours.toInt * 3600 * nanosPerSec) := by
  constructor
  · rintro ⟨expiresAt, computed⟩
    unfold tokenExpiry at computed
    rcases bind_eq_ok.mp computed with ⟨duration, built, added⟩
    rw [← DateTime.durationHours_ok built]
    exact DateTime.add_isOk.mp ⟨expiresAt, added⟩
  · intro inside
    have built : Exists fun duration =>
        DateTime.durationHours expiryHours.toInt =
          (.ok duration : Except (Fault PkiError) Int) := by
      apply DateTime.durationHours_isOk.mpr
      have within := now.inRange
      rcases inside with ⟨low, high⟩
      simp only [minUtcSecs, maxUtcSecs, nanosPerSec] at low high within
      omega
    rcases built with ⟨duration, built⟩
    rw [← DateTime.durationHours_ok built] at inside
    rcases DateTime.add_isOk.mpr inside with ⟨expiresAt, added⟩
    exact ⟨expiresAt, bind_eq_ok.mpr ⟨duration, built, added⟩⟩

theorem durationHours_panics {ε : Type} {hours : Int} {failure : Fault ε}
    (failed : DateTime.durationHours hours = .error failure) :
    Exists fun message => failure = .panic message := by
  unfold DateTime.durationHours at failed
  split at failed
  · cases failed
  · exact ⟨_, (Except.error.inj failed).symm⟩

theorem tokenExpiry_panics {now : DateTime} {expiryHours : Int64}
    {failure : Fault PkiError}
    (failed : tokenExpiry now expiryHours = .error failure) :
    Exists fun message => failure = .panic message := by
  simp only [tokenExpiry, bind, Except.bind] at failed
  split at failed
  · next spanFailed =>
    rw [← Except.error.inj failed]
    exact durationHours_panics spanFailed
  · exact DateTime.add_error failed

theorem databaseFault_reported (failure : DbError) (message : String) :
    databaseFault failure ≠ .panic message :=
  fun impossible => nomatch impossible

/-- Generating a token panics exactly if its expiry is no date-time. -/
theorem generate_panics_iff (hashToken : String -> String)
    (saveEnrollToken : String -> Option String -> Timestamp ->
      Except DbError Uuid)
    (draws : TokenDraws) (hostnameHint : Option String) (expiryHours : Int64) :
    Panics (generate hashToken saveEnrollToken draws hostnameHint expiryHours) <->
      ¬ HasUtc (draws.now.nanos + expiryHours.toInt * 3600 * nanosPerSec) := by
  rw [← tokenExpiry_isOk, ← panics_iff fun failure => tokenExpiry_panics]
  apply panics_bind_left
  intro expiresAt
  rw [panics_bind_left fun id => not_panics_pure _]
  exact not_panics_mapError databaseFault_reported _

theorem dateTimeYmd_isOk {time : DateTime} :
    (Exists fun date => dateTimeYmd time = .ok date) <-> HasYmd time.nanos := by
  rw [HasYmd, ← DateTime.year_bounds_iff]
  unfold dateTimeYmd
  split
  · next within => exact iff_of_true ⟨_, rfl⟩ within
  · next outside =>
      exact iff_of_false (fun ⟨date, impossible⟩ => nomatch impossible) outside

/-- The parameters are prepared exactly if both days are days of the certificate
library. -/
theorem agentParams_isOk {draws : SignDraws} {hostname : String}
    {validityDays : Int} :
    (Exists fun params => agentParams draws hostname validityDays =
      .ok params) <->
      HasYmd draws.now.nanos ∧
        HasYmd (draws.now.nanos + validityDays * secsPerDay * nanosPerSec) := by
  constructor
  · rintro ⟨params, prepared⟩
    unfold agentParams at prepared
    rcases bind_eq_ok.mp prepared with ⟨duration, built, prepared⟩
    rcases bind_eq_ok.mp prepared with ⟨expiry, added, prepared⟩
    rcases bind_eq_ok.mp prepared with ⟨notBefore, today, prepared⟩
    rcases bind_eq_ok.mp prepared with ⟨notAfter, last, _⟩
    rw [← DateTime.durationDays_ok built, ← DateTime.add_nanos added]
    exact ⟨dateTimeYmd_isOk.mp ⟨notBefore, today⟩,
      dateTimeYmd_isOk.mp ⟨notAfter, last⟩⟩
  · rintro ⟨now, later⟩
    have built : Exists fun duration =>
        DateTime.durationDays validityDays =
          (.ok duration : Except (Fault PkiError) Int) := by
      apply DateTime.durationDays_isOk.mpr
      have within := draws.now.inRange
      rcases later with ⟨low, high⟩
      simp only [minUtcSecs, maxUtcSecs, minYmdSecs, maxYmdSecs, secsPerDay,
        nanosPerSec] at low high within ⊢
      omega
    rcases built with ⟨duration, built⟩
    rw [← DateTime.durationDays_ok built] at later
    have added : Exists fun expiry =>
        draws.now.add duration =
          (.ok expiry : Except (Fault PkiError) DateTime) := by
      apply DateTime.add_isOk.mpr
      rcases later with ⟨low, high⟩
      simp only [minUtcSecs, maxUtcSecs, minYmdSecs, maxYmdSecs,
        nanosPerSec] at low high ⊢
      omega
    rcases added with ⟨expiry, added⟩
    rw [← DateTime.add_nanos added] at later
    rcases dateTimeYmd_isOk.mpr now with ⟨notBefore, today⟩
    rcases dateTimeYmd_isOk.mpr later with ⟨notAfter, last⟩
    rcases Option.isSome_iff_exists.mp (hexDecode_generateSerial draws) with
      ⟨bytes, decoded⟩
    simp only [agentParams, bind, Except.bind, built, added, today, last, decoded]
    exact ⟨_, rfl⟩

theorem csrParse_reported (reason message : String) :
    (.error (.csrParse reason) : Fault PkiError) ≠ .panic message :=
  fun impossible => nomatch impossible

theorem certGeneration_reported (reason message : String) :
    certGeneration reason ≠ .panic message :=
  fun impossible => nomatch impossible

/-- Signing panics exactly if the request is read and its days are not those of
the certificate library. -/
theorem signCsr_panics_iff (library : CertLibrary) (ca : CaInner)
    (draws : SignDraws) (csrPem hostname : String) (validityDays : Int) :
    Panics (signCsr library ca draws csrPem hostname validityDays) <->
      (Exists fun csr => library.csrFromPem csrPem = .ok csr) ∧
        ¬ (HasYmd draws.now.nanos ∧
          HasYmd
            (draws.now.nanos + validityDays * secsPerDay * nanosPerSec)) := by
  rw [← @agentParams_isOk draws hostname, ← panics_iff fun failure =>
    agentParams_panics]
  have signing : forall csr, Panics (do
      let _params <- agentParams draws hostname validityDays
      let issuer <- ca.makeIssuer library
      let cert <- (library.signedBy csr issuer).mapError certGeneration
      return (library.pem cert, String.ofList (generateSerial draws))) <->
        Panics (agentParams draws hostname validityDays) := by
    intro csr
    apply panics_bind_left
    intro params
    rw [panics_bind_left, CaInner.makeIssuer, panics_bind_left]
    · exact not_panics_mapError certGeneration_reported _
    · exact fun keyPair => not_panics_mapError certGeneration_reported _
    · intro issuer
      rw [panics_bind_left fun cert => not_panics_pure _]
      exact not_panics_mapError certGeneration_reported _
  unfold signCsr
  rw [panics_bind]
  constructor
  · rintro (impossible | ⟨csr, requested, panicked⟩)
    · exact absurd impossible (not_panics_mapError csrParse_reported _)
    · exact ⟨⟨csr, mapError_ok requested⟩, (signing csr).mp panicked⟩
  · rintro ⟨⟨csr, requested⟩, panicked⟩
    right
    refine ⟨csr, ?_, (signing csr).mpr panicked⟩
    rw [requested]
    rfl

/-! ## Settings that no computation panics on -/

/-- What else the computations take: the command line and the token's draws, the
authority, a request and the draws of its signing. -/
structure Surroundings where
  args : List String
  hashToken : String -> String
  saveEnrollToken : String -> Option String -> Timestamp -> Except DbError Uuid
  tokenDraws : TokenDraws
  library : CertLibrary
  ca : CaInner
  signDraws : SignDraws
  csrPem : String
  hostname : String

/-- `cmd_enroll_token`. -/
def ServerConfig.cmdEnrollToken (config : ServerConfig) (around : Surroundings) :
    Except (Fault PkiError) GeneratedToken :=
  generate around.hashToken around.saveEnrollToken around.tokenDraws
    (flagValue around.args "--hostname")
    (config.expiryHours around.args)

/-- The signing in an enrolment. -/
def ServerConfig.signCsr (config : ServerConfig) (around : Surroundings) :
    Except (Fault PkiError) (String × String) :=
  Complyx.signCsr around.library around.ca around.signDraws around.csrPem
    around.hostname config.certValidityDays.toInt

/-- No computation of times from the settings panics. -/
structure Unpanicked (config : ServerConfig) (around : Surroundings) : Prop where
  monitor : ¬ Panics config.monitorTimer
  token : ¬ Panics (config.cmdEnrollToken around)
  certificate : ¬ Panics (config.signCsr around)

/-- The settings stay within the ranges of the computations: the timeout has a
half, the token expires at a date-time, and a request that is read is signed from
a day to a day of the certificate library. -/
structure InRange (config : ServerConfig) (around : Surroundings) : Prop where
  timeout : 2 ≤ config.agentOfflineTimeoutSecs.toNat
  hours :
    HasUtc
      (around.tokenDraws.now.nanos + (config.expiryHours around.args).toInt *
        3600 * nanosPerSec)
  days : (Exists fun csr => around.library.csrFromPem around.csrPem = .ok csr) ->
    HasYmd around.signDraws.now.nanos ∧
    HasYmd
      (around.signDraws.now.nanos + config.certValidityDays.toInt * secsPerDay *
        nanosPerSec)

/-- Whether the settings were checked or not, no computation panics exactly if
they stay within the ranges. -/
theorem unpanicked_iff_inRange (config : ServerConfig) (around : Surroundings) :
    Unpanicked config around <-> InRange config around := by
  have monitor : ¬ Panics config.monitorTimer <->
      2 ≤ config.agentOfflineTimeoutSecs.toNat := by
    rw [monitorTimer_panics_iff, Nat.not_lt]
  have token :=
    not_congr
      (generate_panics_iff around.hashToken around.saveEnrollToken
        around.tokenDraws
          (flagValue around.args "--hostname") (config.expiryHours around.args))
  have certificate :=
    not_congr
      (signCsr_panics_iff around.library around.ca around.signDraws around.csrPem
          around.hostname config.certValidityDays.toInt)
  rw [not_not] at token
  rw [not_and_not_right] at certificate
  exact ⟨fun safe =>
    ⟨monitor.mp safe.monitor, token.mp safe.token,
      certificate.mp safe.certificate⟩, fun inside =>
        ⟨monitor.mpr inside.timeout, token.mpr inside.hours,
          certificate.mpr inside.days⟩⟩

/-! ## The defaults, and a timeout of one second -/

/-- The defaults with a database. -/
def localConfig : ServerConfig :=
    { ServerConfig.defaults with databaseUrl :=
      "postgres://complyx@localhost/complyx" }

/-- A token is generated without a flag and the request of `web-01` is signed, both
on the first day of the year. -/
def newYearSurroundings : Surroundings where
  args := ["complyx-server", "enroll-token"]
  hashToken := recordedHash
  saveEnrollToken := fun _ _ _ => .ok 1
  tokenDraws := ⟨newYear, 1, 2⟩
  library := recordedContext.library
  ca := recordedContext.ca
  signDraws := ⟨newYear, 1767225600000000000, firstSerialId⟩
  csrPem := webRecord.csrPem
  hostname := "web-01"

/-- With the defaults nothing panics. -/
theorem localConfig_unpanicked : Unpanicked localConfig newYearSurroundings :=
  (unpanicked_iff_inRange localConfig newYearSurroundings).mpr
    ⟨by decide, ⟨by decide, by decide⟩, fun _ =>
      ⟨⟨by decide, by decide⟩, ⟨by decide, by decide⟩⟩⟩

/-- A timeout of one second. -/
def hastyConfig : ServerConfig :=
    { localConfig with agentOfflineTimeoutSecs := 1 }

/-- It passes the check, and the monitor panics when the server starts. -/
theorem accepted_settings_panic :
    hastyConfig.validate = .ok () ∧ Panics hastyConfig.monitorTimer ∧
      ¬ Unpanicked hastyConfig newYearSurroundings := by
  have panicked : Panics hastyConfig.monitorTimer :=
    (monitorTimer_panics_iff hastyConfig).mpr (by decide)
  exact ⟨by decide +kernel, panicked, fun safe => safe.monitor panicked⟩

end Complyx
