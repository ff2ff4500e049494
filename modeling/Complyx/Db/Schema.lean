import Complyx.Platform.Time
import Complyx.Platform.Uuid
import Complyx.Relational.Table
import Mathlib.Data.Rat.Defs

namespace Complyx

open Relational

/-!
# The PostgreSQL schema

One row type for each table the modelled queries touch, with the uniqueness
constraints of its table as a clash relation, and the database as one table
value for each.  Columns keep the names of the migrations.  A foreign key and a
length limit are checked by the statements that write the column.
-/

/-! ## Column types -/

/-- An address with its prefix length, the value of an INET column. -/
inductive IpNetwork where
  | v4 (address : BitVec 32) (length : Fin 33)
  | v6 (address : BitVec 128) (length : Fin 129)
  deriving DecidableEq, Repr

/-- A single IPv4 address. -/
def IpNetwork.host (address : BitVec 32) : IpNetwork := .v4 address 32

/-- The texts the CHECK constraint on `risks.status` admits. -/
inductive RiskStatus where
  | «open»
  | accepted
  | transferred
  | closed
  deriving DecidableEq, Repr

/-- The texts the CHECK constraint on `risks.risk_level` admits. -/
inductive RiskLevel where
  | low
  | medium
  | high
  | critical
  deriving DecidableEq, Repr

/-! ## Agents, certificates and tokens -/

structure AgentRow where
  id : Uuid
  ip : IpNetwork
  hostname : Option String
  osName : Option String
  osVersion : Option String
  installDate : Timestamp
  latestConnection : Timestamp
  enabled : Bool
  deriving DecidableEq

/-- The primary key and `idx_agents_ip`.  Hostnames are not unique. -/
abbrev AgentRow.Clash (first second : AgentRow) : Prop :=
  first.id = second.id ∨ first.ip = second.ip

structure AgentCertRow where
  agentId : Uuid
  certPem : String
  serial : String
  issuedAt : Timestamp
  revokedAt : Option Timestamp
  deriving DecidableEq

abbrev AgentCertRow.Clash (first second : AgentCertRow) : Prop :=
  first.agentId = second.agentId ∨ first.serial = second.serial

structure EnrollTokenRow where
  id : Uuid
  tokenHash : String
  hostnameHint : Option String
  createdAt : Timestamp
  expiresAt : Timestamp
  usedAt : Option Timestamp
  deriving DecidableEq

abbrev EnrollTokenRow.Clash (first second : EnrollTokenRow) : Prop :=
  first.id = second.id ∨ first.tokenHash = second.tokenHash

structure AgentGroupMembershipRow where
  agentId : Uuid
  groupId : Uuid
  deriving DecidableEq

abbrev AgentGroupMembershipRow.Clash
    (first second : AgentGroupMembershipRow) : Prop :=
  first.agentId = second.agentId ∧ first.groupId = second.groupId

/-! ## Policies -/

structure PolicyRow where
  id : Uuid
  name : String
  version : String
  description : Option String
  severity : Option String
  deriving DecidableEq

abbrev PolicyRow.Clash (first second : PolicyRow) : Prop :=
  first.id = second.id ∨ first.name = second.name

structure PolicyElementRow where
  id : Uuid
  policyId : Uuid
  name : Option String
  deriving DecidableEq

abbrev PolicyElementRow.Clash (first second : PolicyElementRow) : Prop :=
  first.id = second.id

structure PolicyCheckRow where
  id : Uuid
  policyElementId : Uuid
  name : String
  rationale : Option String
  /-- JSON with the type of the check and its parameters. -/
  checkCommand : String
  deriving DecidableEq

abbrev PolicyCheckRow.Clash (first second : PolicyCheckRow) : Prop :=
  first.id = second.id

structure PolicyRemediationRow where
  id : Uuid
  policyCheckId : Uuid
  name : String
  description : Option String
  remediationCommand : String
  deriving DecidableEq

abbrev PolicyRemediationRow.Clash (first second : PolicyRemediationRow) : Prop :=
  first.id = second.id

structure CheckRegulationSectionRow where
  checkId : Uuid
  regulationSectionId : Uuid
  deriving DecidableEq

abbrev CheckRegulationSectionRow.Clash
    (first second : CheckRegulationSectionRow) : Prop :=
  first.checkId = second.checkId ∧
    first.regulationSectionId = second.regulationSectionId

structure AgentPolicyRow where
  agentId : Uuid
  policyId : Uuid
  deriving DecidableEq

abbrev AgentPolicyRow.Clash (first second : AgentPolicyRow) : Prop :=
  first.agentId = second.agentId ∧ first.policyId = second.policyId

structure GroupPolicyRow where
  groupId : Uuid
  policyId : Uuid
  deriving DecidableEq

abbrev GroupPolicyRow.Clash (first second : GroupPolicyRow) : Prop :=
  first.groupId = second.groupId ∧ first.policyId = second.policyId

/-! ## Threats and risks -/

structure ThreatRow where
  id : Uuid
  name : String
  description : Option String
  category : Option String
  severityScore : Option Rat
  createdDate : Timestamp
  deriving DecidableEq

abbrev ThreatRow.Clash (first second : ThreatRow) : Prop :=
  first.id = second.id ∨ first.name = second.name

structure RiskRow where
  id : Uuid
  threatId : Uuid
  agentId : Uuid
  impact : Option Rat
  probability : Option Rat
  riskLevel : Option RiskLevel
  status : RiskStatus
  createdDate : Timestamp
  reviewDate : Option Timestamp
  acceptanceDate : Option Timestamp
  deriving DecidableEq

/-- The primary key alone: nothing limits the open risks of one agent and
threat. -/
abbrev RiskRow.Clash (first second : RiskRow) : Prop :=
  first.id = second.id

/-! ## Results and scores -/

structure CheckResultRow where
  id : Uuid
  agentId : Uuid
  checkId : Uuid
  passed : Bool
  detail : String
  actualValue : Option String
  expectedValue : Option String
  executedAt : Timestamp
  receivedAt : Timestamp
  deriving DecidableEq

/-- What the second uniqueness constraint of `check_results` compares. -/
abbrev CheckResultRow.SameResult (first second : CheckResultRow) : Prop :=
  first.agentId = second.agentId ∧ first.checkId = second.checkId ∧
    first.executedAt = second.executedAt

abbrev CheckResultRow.Clash (first second : CheckResultRow) : Prop :=
  first.id = second.id ∨ first.SameResult second

structure ComplianceScoreRow where
  agentId : Uuid
  policyElementId : Uuid
  policyId : Uuid
  totalChecks : Nat
  passedChecks : Nat
  score : Rat
  lastUpdated : Timestamp
  deriving DecidableEq

abbrev ComplianceScoreRow.Clash (first second : ComplianceScoreRow) : Prop :=
  first.agentId = second.agentId ∧ first.policyElementId = second.policyElementId

/-! ## The database -/

/-- The tables and the order in which the database sorts text. -/
structure Db where
  collate : String -> String -> Bool :=
    fun first second => decide (first ≤ second)
  agents : Table AgentRow AgentRow.Clash := .empty
  agentCerts : Table AgentCertRow AgentCertRow.Clash := .empty
  enrollTokens : Table EnrollTokenRow EnrollTokenRow.Clash := .empty
  agentGroupMembership :
    Table AgentGroupMembershipRow AgentGroupMembershipRow.Clash := .empty
  policies : Table PolicyRow PolicyRow.Clash := .empty
  policyElements : Table PolicyElementRow PolicyElementRow.Clash := .empty
  policyChecks : Table PolicyCheckRow PolicyCheckRow.Clash := .empty
  policyRemediations : Table PolicyRemediationRow PolicyRemediationRow.Clash :=
    .empty
  checkRegulationSections :
    Table CheckRegulationSectionRow CheckRegulationSectionRow.Clash := .empty
  agentPolicies : Table AgentPolicyRow AgentPolicyRow.Clash := .empty
  groupPolicies : Table GroupPolicyRow GroupPolicyRow.Clash := .empty
  threats : Table ThreatRow ThreatRow.Clash := .empty
  risks : Table RiskRow RiskRow.Clash := .empty
  checkResults : Table CheckResultRow CheckResultRow.Clash := .empty
  complianceScores : Table ComplianceScoreRow ComplianceScoreRow.Clash := .empty

/-! ## Errors and the environment of a statement -/

/-- Why PostgreSQL, or the way to it, refuses a statement. -/
inductive SqlError where
  | connection (message : String)
  | invalidText
  | valueTooLong (limit : Nat)
  | numericOverflow
  | timestampOutOfRange
  | uniqueViolation (table : String)
  | foreignKeyViolation (table : String)
  | checkViolation (table : String)
  deriving DecidableEq, Repr

/-- The error of the database crate.  Its other constructors come from pools
and migrations, which no query returns. -/
inductive DbError where
  | query (cause : SqlError)
  deriving DecidableEq, Repr

/-- What is decided while one statement executes: a failure, the transaction's
`now()`, the server's clock as it is sent with the statement, the identifiers
`gen_random_uuid()` draws, which of several rows an unordered `LIMIT 1` returns
and in which order an unordered query returns its rows. -/
structure Env where
  fault : Option SqlError := none
  now : Timestamp
  clock : Timestamp := now
  fresh : Nat -> Uuid
  pick : Nat := 0

/-- Statements without faults on January 1 that draw the given identifier. -/
def quietly (fresh : Uuid) : Nat -> Env :=
  fun _ => { now := newYear.nanos, fresh := fun _ => fresh }

/-- The rows of an unordered query with `LIMIT 1`. -/
def limitOne {ρ : Type} (pick : Nat) (rows : List ρ) : Option ρ :=
  rows[pick % rows.length]?

theorem limitOne_mem {ρ : Type} {pick : Nat} {rows : List ρ} {row : ρ}
    (found : limitOne pick rows = some row) : row ∈ rows :=
  List.mem_of_getElem? found

theorem limitOne_none_iff {ρ : Type} {pick : Nat} {rows : List ρ} :
    limitOne pick rows = none <-> rows = [] := by
  rw [limitOne, List.getElem?_eq_none_iff]
  constructor
  · intro long
    cases rows with
    | nil => rfl
    | cons head tail =>
        have short : pick % (head :: tail).length < (head :: tail).length :=
          Nat.mod_lt pick (Nat.succ_pos tail.length)
        omega
  · intro empty
    rw [empty]
    exact Nat.zero_le _

/-! ## Text parameters -/

/-- The text has a zero byte in UTF-8. -/
def hasNul (text : String) : Bool :=
  text.toByteArray.data.toList.any (· = 0)

theorem hasNul_ofList (chars : List Char) :
    hasNul (String.ofList chars) = chars.any fun char =>
      (String.utf8EncodeChar char).any (· = 0) := by
  rw [hasNul, String.toByteArray_ofList, List.utf8Encode,
    List.toList_data_toByteArray, List.any_flatMap]

/-- Hexadecimal texts have none. -/
theorem hasNul_hex {chars : List Char}
    (digits : forall char, char ∈ chars -> Exists fun value => value < 16 ∧
      char = Encoding.hexDigit value) :
    hasNul (String.ofList chars) = false := by
  have each : forall digit : Fin 16,
      (String.utf8EncodeChar (Encoding.hexDigit digit.val)).any
      (· = 0) = false := by
    decide
  rw [hasNul_ofList, List.any_eq_false]
  intro char member
  rcases digits char member with ⟨value, small, rfl⟩
  rw [each ⟨value, small⟩]
  exact Bool.false_ne_true

/-- A text parameter with a zero byte is refused. -/
def textParam (text : String) : Except DbError String :=
  if hasNul text then .error (.query .invalidText) else .ok text

theorem textParam_of_clean {text : String} (clean : hasNul text = false) :
    textParam text = .ok text := by
  rw [textParam, clean]
  rfl

/-- Assignment to a VARCHAR column.  Only spaces are cut off. -/
def varchar (limit : Nat) (text : String) : Except DbError String := do
  let text <- textParam text
  if text.toList.length ≤ limit then .ok text
  else if (text.toList.drop limit).all (· = ' ') then
    .ok (String.ofList (text.toList.take limit))
  else .error (.query (.valueTooLong limit))

/-- The earliest point in time a TIMESTAMP column holds, November 24 of the year
-4713, in seconds. -/
def minTimestampSecs : Int := -210866803200

/-- January 1, 2000, from which the columns count. -/
def columnEpoch : Int := 946684800 * nanosPerSec

/-- A point in time as it is sent for a TIMESTAMP column: the whole microseconds
between it and the epoch of the columns. -/
def inMicros (time : Int) : Int :=
  columnEpoch + (time - columnEpoch).tdiv 1000 * 1000

/-- From that epoch on it is the last microsecond that has begun. -/
theorem inMicros_late {time : Int} (late : columnEpoch ≤ time) :
    inMicros time ≤ time ∧ time < inMicros time + 1000 := by
  have forward : 0 ≤ time - columnEpoch := Int.sub_nonneg.mpr late
  rw [inMicros, Int.tdiv_eq_ediv_of_nonneg forward]
  omega

/-- A TIMESTAMP parameter. -/
def timestampParam (time : Timestamp) : Except DbError Timestamp :=
  if time < minTimestampSecs * nanosPerSec then
    .error (.query .timestampOutOfRange) else .ok time

/-- Round to one decimal, ties away from zero. -/
def roundTenth (value : Rat) : Rat :=
  if 0 ≤ value then (value * 10 + 1 / 2).floor / 10
  else -((-value * 10 + 1 / 2).floor / 10)

/-- Assignment to a NUMERIC(3,1) column under the CHECK that it lies between
zero and ten. -/
def numeric31 (table : String) (value : Rat) : Except DbError Rat :=
  let rounded := roundTenth value
  if 100 ≤ rounded ∨ rounded ≤ -100 then .error (.query .numericOverflow)
  else if 0 ≤ rounded ∧ rounded ≤ 10 then .ok rounded
  else .error (.query (.checkViolation table))

theorem varchar_of_fits {limit : Nat} {text : String}
    (clean : hasNul text = false) (fits : text.toList.length ≤ limit) :
    varchar limit text = .ok text := by
  simp only [varchar, textParam_of_clean clean, bind, Except.bind, if_pos fits]

theorem textParam_ok {text text' : String}
    (accepted : textParam text = .ok text') :
    text' = text ∧ hasNul text = false := by
  unfold textParam at accepted
  split at accepted
  · cases accepted
  · next clean =>
      exact ⟨(Except.ok.inj accepted).symm, Bool.not_eq_true _ ▸ clean⟩

end Complyx
