import Complyx.Encoding.Words
import Complyx.Server.Settings
import Complyx.Transition.Outcomes

namespace Complyx

open Encoding Transition

/-!
# The command line

`main` looks at the first argument to choose between the commands, and each
command searches all arguments for its flags.  What the usage documents as
`revoke-agent` is not among the words `main` knows, so the server starts in its
place.  The search takes whatever stands after the flag, and a number of hours
that cannot be read counts as not given.
-/

/-! ## The program -/

/-- What the program asks of the rest of the system. -/
inductive MainOp where
  | load (configPath : Option String)
  | connect (databaseUrl : String)
  | generate (hostnameHint : Option String) (expiryHours : Int64)
  | revokeAgentCert (agentId : Uuid)
  | print (text : String)
  | build (config : ServerConfig)
  | serve
  | shutdown
  deriving DecidableEq

/-- The two servers are asked for together and answer with both of their results. -/
abbrev MainOp.Res : MainOp -> Type
  | .load _ => ServerConfig
  | .connect _ => Unit
  | .generate _ _ => GeneratedToken
  | .revokeAgentCert _ => Unit
  | .print _ => Unit
  | .build _ => Unit
  | .serve => Except String Unit × Except String Unit
  | .shutdown => Unit

/-- Code of the binary.  Errors are their texts. -/
abbrev MainCode : Type -> Type := Program MainOp.Res String String

/-- `println!` of the lines. -/
def printLines : List String -> MainCode Unit
  | [] => .done ()
  | line :: rest => .call (.print (line ++ "\n")) fun _ => printLines rest

/-- `cmd_enroll_token` with the values of its flags. -/
def enrollToken (hostname : Option String)
    (expiryHours : Option Int64) : MainCode Unit := do
  let config <- Program.attempt id (MainOp.load none)
  let _ <- Program.attempt (fun e => "no se pudo conectar a PostgreSQL: " ++ e)
    (MainOp.connect config.databaseUrl)
  let token <- Program.attempt (fun e => "error generando el token: " ++ e)
    (MainOp.generate hostname (expiryHours.getD config.enrollTokenExpiryHours))
  printLines (["", "token de registro generado", ""] ++
    (token.hostnameHint.map fun h => " Hostname: " ++ h).toList ++
    [" Expira: " ++ token.expiresAt.formatUtc, " Token: " ++ token.token,
      "Usalo en el agente con:",
        " COMPLYX_ENROLL_TOKEN=" ++ token.token ++
          " systemctl start complyx-agent", ""])

/-- `cmd_enroll_token`.  Hours that are not a number are as good as none. -/
def cmdEnrollToken (args : List String) : MainCode Unit :=
  enrollToken (flagValue args "--hostname")
    ((flagValue args "--expiry-hours").bind parseI64)

/-- `cmd_revoke_agent` once its flag has been read. -/
def revokeAgent (text : UuidText)
    (agentId : Except String Uuid) : MainCode Unit := do
  let config <- Program.attempt id (MainOp.load none)
  let agentId <- Program.lift agentId
  let _ <- Program.attempt (fun e => "no se puede conectar a PostgreSQL: " ++ e)
    (MainOp.connect config.databaseUrl)
  let _ <- Program.attempt (fun e => "error revocando certificado: " ++ e)
    (MainOp.revokeAgentCert agentId)
  printLines
    ["certificado del agente " ++ text.toText
      agentId ++ " revocado correctamente",
        "el agente recibira Unauthenticated en su proximo poll"]

/-- `cmd_revoke_agent`. -/
def cmdRevokeAgent (text : UuidText) (args : List String) : MainCode Unit :=
  revokeAgent text (match flagValue args "--agent-id" with
    | none => .error "--agent-id requerido"
    | some agentIdStr =>
        match text.parse agentIdStr with
        | none => .error "--agent-id debe ser un UUID valido"
        | some agentId => .ok agentId)

/-- The lines of `print_usage`. -/
def usageLines : List String :=
  ["complyx-server 0.1.0",
    "",
    "USAGE:",
    " complyx-server                           Arrancar el servidor",
    " complyx-server enroll-token              Generar token de enrolamiento",
    "  [--hostname <hostname>]",
    "  [--expiry-hours <horas>]",
    " complyx-server revoke-agent              Revocar certificado de un agente",
    "  --agent-id <uuid>",
    "",
    "CONFIGURACIÓN:",
    " /etc/complyx/server.toml (o COMPLYX_CONFIG_PATH)",
    " Variables de entorno: COMPLYX_DATABASE_URL, COMPLYX_GRPC_PORT, ..."]

/-- What `main` makes of the results of the two servers. -/
def joined (agentServer enrollServer : Except String Unit) :
    Except String Unit := do
  agentServer.mapError fun e => "servidor gRPC principal falló: " ++ e
  enrollServer.mapError fun e => "servidor de enrolamiento falló: " ++ e

/-- The start of the server, until it ends. -/
def startServer : MainCode Unit := do
  let config <- Program.attempt id (MainOp.load none)
  let _ <- Program.attempt id (MainOp.build config)
  let results <- Program.attempt id MainOp.serve
  let _ <- Program.lift (joined results.1 results.2)
  Program.call MainOp.shutdown fun _ => .done ()

/-- `main`.  The second command is matched by another name than the usage has. -/
def main (text : UuidText) (args : List String) : MainCode Unit :=
  match args[1]? with
  | some "enroll-token" => cmdEnrollToken args
  | some "revoke-token" => cmdRevokeAgent text args
  | some "--help" => printLines usageLines
  | some "-h" => printLines usageLines
  | _ => startServer

/-! ## What the usage says -/

/-- The commands of the usage, each with its flags. -/
def documentedFlags : List (String × List String) :=
  [("enroll-token", ["--hostname", "--expiry-hours"]),
    ("revoke-agent", ["--agent-id"])]

def flagNames : List String := documentedFlags.flatMap Prod.snd

/-- A value that a flag is given, which is no flag itself. -/
def Supplied (flag value : String) (words : List String) : Prop :=
  StandsAfter flag value words ∧ value ∉ flagNames

/-- What can be read of the values a flag is given: one of them, or nothing where
there are none. -/
def Given {β : Type} (read : String -> Option β) (flag : String)
    (words : List String) : Option β -> Prop
  | none => forall value, ¬ Supplied flag value words
  | some result =>
      Exists fun value => Supplied flag value words ∧ read value = some result

/-- The words after the command. -/
def wordsAfter (args : List String) : List String := args.drop 2

/-- Whatever is answered, the code ends in an error. -/
def EndsInError (code : MainCode Unit) : Prop :=
  code.Yields (fun _ _ => True) fun _ => False

/-- The start of the server begins with building its parts. -/
def MainOp.startsServer : MainOp -> Bool
  | .build _ => true
  | .serve => true
  | _ => false

/-- The program does with the arguments what its usage says. -/
structure FollowsUsage (text : UuidText) (args : List String) : Prop where
  /-- A documented command does not start the server. -/
  unserved : forall command, command ∈ documentedFlags ->
    args[1]? = some command.1 ->
    (main text args).Issues fun op => op.startsServer = false
  /-- No flag name is taken as the value of a flag. -/
  unconfused : forall command, command ∈ documentedFlags ->
    args[1]? = some command.1 ->
    forall flag, flag ∈ command.2 -> forall value,
      flagValue args flag = some value -> value ∉ flagNames
  /-- The command is executed with the values of its flags. -/
  enrollToken : args[1]? = some "enroll-token" ->
    (forall value, Supplied "--expiry-hours" value (wordsAfter args) ->
      (parseI64 value).isSome = true) ->
    Exists fun hostname => Exists fun expiryHours =>
      Given some "--hostname" (wordsAfter args) hostname ∧
      Given parseI64 "--expiry-hours" (wordsAfter args) expiryHours ∧
      main text args = Complyx.enrollToken hostname expiryHours
  /-- Hours that cannot be read are an error. -/
  unreadHours : args[1]? = some "enroll-token" ->
    forall value, Supplied "--expiry-hours" value (wordsAfter args) ->
      parseI64 value = none ->
      EndsInError (main text args)
  revokeAgent : args[1]? = some "revoke-agent" ->
    (forall value, Supplied "--agent-id" value (wordsAfter args) ->
      (text.parse value).isSome = true) ->
    Exists fun agentId =>
      Given text.parse "--agent-id" (wordsAfter args) agentId.toOption ∧
      main text args = Complyx.revokeAgent text agentId
  /-- An identifier that cannot be read is an error. -/
  unreadAgentId : args[1]? = some "revoke-agent" ->
    forall value, Supplied "--agent-id" value (wordsAfter args) ->
      text.parse value = none ->
      EndsInError (main text args)

/-- When the search finds what was meant: the command is not the one that revokes,
the first value after each flag is none of the flag names, and all hours can be
read.  A program called by the name of a flag takes the command for the value. -/
structure TakenAsMeant (args : List String) : Prop where
  command : args[1]? ≠ some "revoke-agent"
  hostname : args[1]? = some "enroll-token" ->
    if args[0]? = some "--hostname" then Supplied "--hostname" "enroll-token"
      (wordsAfter args)
    else forall value, FirstAfter "--hostname" value (wordsAfter args) ->
      value ∉ flagNames
  expiryHours : args[1]? = some "enroll-token" ->
    if args[0]? = some "--expiry-hours" then forall value,
      ¬ Supplied "--expiry-hours" value (wordsAfter args)
    else (forall value, FirstAfter "--expiry-hours" value (wordsAfter args) ->
      value ∉ flagNames) ∧
      forall value, Supplied "--expiry-hours" value (wordsAfter args) ->
        (parseI64 value).isSome = true

/-! ## The commands -/

theorem printLines_issues (lines : List String) :
    (printLines lines).Issues fun op => op.startsServer = false := by
  induction lines with
  | nil => trivial
  | cons line rest ih => exact ⟨rfl, fun _ => ih⟩

theorem enrollToken_issues (hostname : Option String)
    (expiryHours : Option Int64) :
    (enrollToken hostname expiryHours).Issues fun op =>
      op.startsServer = false := by
  refine Program.issues_bind (Program.issues_attempt id rfl) fun config => ?_
  refine Program.issues_bind (Program.issues_attempt _ rfl) fun _ => ?_
  refine Program.issues_bind (Program.issues_attempt _ rfl) fun token => ?_
  exact printLines_issues _

/-- Different values of the flags are different commands. -/
theorem enrollToken_injective {hostname hostname' : Option String}
    {expiryHours expiryHours' : Option Int64}
    (same : enrollToken hostname expiryHours =
      enrollToken hostname' expiryHours') :
    hostname = hostname' ∧ expiryHours = expiryHours' := by
  have asked : forall hours, hostname = hostname' ∧
      expiryHours.getD hours = expiryHours'.getD hours := by
    intro hours
    have connecting :=
      Program.attempt_bind_next same { ServerConfig.defaults with
        enrollTokenExpiryHours := hours }
    exact MainOp.generate.inj
      (Program.attempt_bind_op (Program.attempt_bind_next connecting ()))
  refine ⟨(asked 0).1, ?_⟩
  cases expiryHours with
  | none =>
      cases expiryHours' with
      | none => rfl
      | some hours' =>
          have zero : (0 : Int64) = hours' := (asked 0).2
          have one : (1 : Int64) = hours' := (asked 1).2
          exact absurd (zero.trans one.symm) (by decide)
  | some hours =>
      cases expiryHours' with
      | none =>
          have zero : hours = (0 : Int64) := (asked 0).2
          have one : hours = (1 : Int64) := (asked 1).2
          exact absurd (zero.symm.trans one) (by decide)
      | some hours' => exact congrArg some (asked 0).2

theorem not_endsInError_printLines (lines : List String) :
    ¬ EndsInError (printLines lines) := by
  induction lines with
  | nil => exact id
  | cons line rest ih => exact fun ends => ih (ends (.ok ()) trivial)

/-- With a connection and a database that answers, a token is printed. -/
theorem not_endsInError_enrollToken (hostname : Option String)
    (expiryHours : Option Int64) :
    ¬ EndsInError (enrollToken hostname expiryHours) := by
  intro ends
  have printing :=
    ends (.ok ServerConfig.defaults) trivial (.ok ()) trivial
      (.ok ⟨"", none, newYear⟩) trivial
  exact not_endsInError_printLines _ printing

/-- Where settings can be loaded, the server is built. -/
theorem startServer_starts : ¬ startServer.Issues fun op =>
      op.startsServer = false := by
  intro issues
  cases (issues.2 (.ok ServerConfig.defaults)).1

section Main

variable {text : UuidText} {args : List String}

theorem main_enrollToken (command : args[1]? = some "enroll-token") :
    main text args = cmdEnrollToken args := by
  rw [main, command]
  rfl

/-- The documented command to revoke is none of those `main` knows. -/
theorem main_revokeAgent (command : args[1]? = some "revoke-agent") :
    main text args = startServer := by
  rw [main, command]
  rfl

end Main

/-! ## The flags -/

section Flags

variable {args words : List String} {flag : String}

/-- The search comes past the name of the program first, and past the command. -/
theorem flagValue_eq {command : String} (given : args[1]? = some command)
    (other : command ≠ flag) :
    flagValue args flag =
      if args[0]? = some flag then some command
      else wordAfter flag (wordsAfter args) := by
  cases args with
  | nil => cases given
  | cons name rest =>
      cases rest with
      | nil => cases given
      | cons second rest =>
          have same : second = command := Option.some.inj given
          have found :
              flagValue (name :: second :: rest) flag =
                wordAfter flag (name :: second :: rest) := rfl
          rw [same] at found ⊢
          rw [found, wordAfter_cons_cons, wordAfter_cons_of_ne other]
          simp only [List.getElem?_cons_zero, Option.some.injEq]
          rfl

/-- If the first value is fit to be one, it is what is taken. -/
theorem given_wordAfter {β : Type} (read : String -> Option β)
    (fit : forall value, FirstAfter flag value words -> value ∉ flagNames ∧
      (read value).isSome = true) :
    Given read flag words ((wordAfter flag words).bind read) := by
  cases found : wordAfter flag words with
  | none =>
      exact fun value supplied => wordAfter_none_iff.mp found value supplied.1
  | some value =>
      have first := wordAfter_some_iff.mp found
      rcases fit value first with ⟨noFlag, reads⟩
      rcases Option.isSome_iff_exists.mp reads with ⟨result, reads⟩
      rw [Option.bind_some, reads]
      exact ⟨value, ⟨first.standsAfter, noFlag⟩, reads⟩

/-- The name of the host is one of those given exactly under the condition on it. -/
theorem hostname_taken_iff (command : args[1]? = some "enroll-token") :
    ((forall value, flagValue args "--hostname" = some value ->
      value ∉ flagNames) ∧
      Given some "--hostname" (wordsAfter args) (flagValue args "--hostname")) <->
    if args[0]? = some "--hostname" then Supplied "--hostname" "enroll-token"
      (wordsAfter args)
    else forall value, FirstAfter "--hostname" value (wordsAfter args) ->
      value ∉ flagNames := by
  rw [flagValue_eq command (by decide)]
  by_cases called : args[0]? = some "--hostname"
  · rw [if_pos called, if_pos called]
    constructor
    · rintro ⟨_, value, supplied, same⟩
      rw [← Option.some.inj same]
      exact supplied
    · intro supplied
      refine ⟨fun value same => ?_, "enroll-token", supplied, rfl⟩
      rw [← Option.some.inj same]
      decide
  · rw [if_neg called, if_neg called]
    constructor
    · exact fun taken value first => taken.1 value (wordAfter_some_iff.mpr first)
    · intro fit
      refine ⟨fun value found => fit value (wordAfter_some_iff.mp found), ?_⟩
      have given := given_wordAfter some fun value first => ⟨fit value first, rfl⟩
      rw [Option.bind_fun_some] at given
      exact given

/-- The hours are those given, and all can be read, exactly under the condition on
them. -/
theorem expiryHours_taken_iff (command : args[1]? = some "enroll-token") :
    ((forall value, flagValue args "--expiry-hours" = some value ->
      value ∉ flagNames) ∧
      (forall value, Supplied "--expiry-hours" value (wordsAfter args) ->
        (parseI64 value).isSome = true) ∧
      Given parseI64 "--expiry-hours" (wordsAfter args)
        ((flagValue args "--expiry-hours").bind parseI64)) <->
    if args[0]? = some "--expiry-hours" then forall value,
      ¬ Supplied "--expiry-hours" value (wordsAfter args)
    else (forall value, FirstAfter "--expiry-hours" value (wordsAfter args) ->
      value ∉ flagNames) ∧
      forall value, Supplied "--expiry-hours" value (wordsAfter args) ->
        (parseI64 value).isSome = true := by
  rw [flagValue_eq command (by decide)]
  by_cases called : args[0]? = some "--expiry-hours"
  · rw [if_pos called, if_pos called]
    have unread : (some "enroll-token").bind parseI64 = none := by decide
    rw [unread]
    constructor
    · exact fun taken => taken.2.2
    · intro none
      refine ⟨fun value same => ?_, fun value supplied =>
        absurd supplied (none value), none⟩
      rw [← Option.some.inj same]
      decide
  · rw [if_neg called, if_neg called]
    constructor
    · exact fun taken =>
        ⟨fun value first =>
          taken.1 value (wordAfter_some_iff.mpr first), taken.2.1⟩
    · rintro ⟨noFlag, reads⟩
      refine ⟨fun value found => noFlag value (wordAfter_some_iff.mp found),
        reads, given_wordAfter parseI64 ?_⟩
      exact fun value first =>
        ⟨noFlag value first, reads value ⟨first.standsAfter, noFlag value first⟩⟩

end Flags

section Usage

variable {text : UuidText} {args : List String}

/-- Where the usage is followed, the values found are the values given. -/
theorem FollowsUsage.values (follows : FollowsUsage text args)
    (command : args[1]? = some "enroll-token") :
    (forall value, Supplied "--expiry-hours" value (wordsAfter args) ->
      (parseI64 value).isSome = true) ∧
      Given some "--hostname" (wordsAfter args) (flagValue args "--hostname") ∧
      Given parseI64 "--expiry-hours" (wordsAfter args)
        ((flagValue args "--expiry-hours").bind parseI64) := by
  have reads : forall value, Supplied "--expiry-hours" value (wordsAfter args) ->
      (parseI64 value).isSome = true := by
    intro value supplied
    by_contra unread
    have ends :=
      follows.unreadHours command value supplied
        (Option.not_isSome_iff_eq_none.mp unread)
    rw [main_enrollToken command] at ends
    exact not_endsInError_enrollToken _ _ ends
  rcases follows.enrollToken command reads with
    ⟨hostname, expiryHours, hostnameGiven, hoursGiven, executed⟩
  rw [main_enrollToken command] at executed
  rcases enrollToken_injective executed with ⟨sameHostname, sameHours⟩
  rw [sameHostname, sameHours]
  exact ⟨reads, hostnameGiven, hoursGiven⟩

/-- Of the documented commands only one is taken as it is meant. -/
theorem TakenAsMeant.documented (meant : TakenAsMeant args)
    {command : String × List String} (member : command ∈ documentedFlags)
    (given : args[1]? = some command.1) :
    command = ("enroll-token", ["--hostname", "--expiry-hours"]) := by
  rcases List.mem_cons.mp member with same | member
  · exact same
  · rw [List.mem_singleton.mp member] at given
    exact absurd given meant.command

end Usage

/-- The program follows its usage exactly if the arguments are taken as they are
meant. -/
theorem follows_usage_iff (text : UuidText) (args : List String) :
    FollowsUsage text args <-> TakenAsMeant args := by
  constructor
  · intro follows
    have noFlag (command : args[1]? = some "enroll-token") :=
      follows.unconfused ("enroll-token", ["--hostname", "--expiry-hours"])
        (by decide) command
    constructor
    · intro command
      have issues :=
        follows.unserved ("revoke-agent", ["--agent-id"]) (by decide) command
      rw [main_revokeAgent command] at issues
      exact startServer_starts issues
    · intro command
      exact (hostname_taken_iff command).mp
        ⟨noFlag command "--hostname" (by decide), (follows.values command).2.1⟩
    · intro command
      rcases follows.values command with ⟨reads, _, hoursGiven⟩
      exact (expiryHours_taken_iff command).mp
        ⟨noFlag command "--expiry-hours" (by decide), reads, hoursGiven⟩
  · intro meant
    constructor
    · intro command member given
      rw [meant.documented member given] at given
      rw [main_enrollToken given]
      exact enrollToken_issues _ _
    · intro command member given flag flagMember
      have same := meant.documented member given
      rw [same] at given flagMember
      rcases List.mem_cons.mp flagMember with same | flagMember
      · rw [same]
        exact ((hostname_taken_iff given).mpr (meant.hostname given)).1
      · rw [List.mem_singleton.mp flagMember]
        exact ((expiryHours_taken_iff given).mpr (meant.expiryHours given)).1
    · intro given _
      have hostname := (hostname_taken_iff given).mpr (meant.hostname given)
      have expiryHours :=
        (expiryHours_taken_iff given).mpr (meant.expiryHours given)
      exact ⟨_, _, hostname.2, expiryHours.2.2, main_enrollToken given⟩
    · intro given value supplied unread
      have reads :=
        ((expiryHours_taken_iff given).mpr (meant.expiryHours given)).2.1
          value supplied
      rw [unread] at reads
      cases reads
    · exact fun given => absurd given meant.command
    · exact fun given => absurd given meant.command

/-- The revocation of the documentation starts the server, hours that are no number
are replaced by the default, and a flag becomes the name of the host. -/
theorem usage_not_followed :
    ¬ FollowsUsage UuidText.crate
      ["complyx-server", "revoke-agent", "--agent-id",
        "550e8400-e29b-41d4-a716-446655440000"] ∧
    ¬ FollowsUsage UuidText.crate
      ["complyx-server", "enroll-token", "--expiry-hours", "diez"] ∧
    ¬ FollowsUsage UuidText.crate
      ["complyx-server", "enroll-token", "--hostname", "--expiry-hours", "5"] := by
  refine ⟨fun follows => ?_, fun follows => ?_, fun follows => ?_⟩
  · have issues := follows.unserved ("revoke-agent", ["--agent-id"]) (by decide) rfl
    rw [main_revokeAgent rfl] at issues
    exact startServer_starts issues
  · have ends :=
      follows.unreadHours rfl "diez" ⟨⟨[], [], rfl⟩, by decide⟩ (by decide)
    rw [main_enrollToken rfl] at ends
    exact not_endsInError_enrollToken _ _ ends
  · have noFlag :=
      follows.unconfused ("enroll-token", ["--hostname", "--expiry-hours"])
        (by decide) rfl "--hostname" (by decide) "--expiry-hours" rfl
    exact noFlag (by decide)

/-- The order of the flags does not matter. -/
example :
    (flagValue ["complyx-server", "enroll-token", "--expiry-hours", "48",
      "--hostname", "web-01"]) <$>
      ["--hostname", "--expiry-hours"] = [some "web-01", some "48"] := by
  decide

end Complyx
