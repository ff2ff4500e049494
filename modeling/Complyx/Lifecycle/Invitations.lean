import Complyx.Db.Admin
import Complyx.Server.Settings
import Complyx.Transition.Log
import Complyx.Transition.Witnessed

namespace Complyx

open Transition Encoding

/-!
# Invitations

An agent is enrolled with a token that an administrator has generated.  Commands and
requests run at once, and any code of the server beside them; still every enrolment
that gets past the lookup of its token goes back to a row that was there from the
start or to a command that generated the token.  Until some code consumes it, a
generated token stays good to its expiry, in the whole microseconds that the column
holds, and after that it is never good again.
-/

/-- Code over all statements. -/
abbrev AdminCode (ε α : Type)
    := Program (Sum.elim Stmt.Res AdminStmt.Res) DbError ε α

/-- The token in the clear. -/
def TokenDraws.token (draws : TokenDraws) : String :=
  String.ofList (hexEncode draws.first.asBytes ++ hexEncode draws.second.asBytes)

/-- `generate`, with its statement. -/
def generateToken (hashToken : String -> String) (draws : TokenDraws)
    (hostnameHint : Option String) (expiryHours : Int64) :
    AdminCode (Fault PkiError) GeneratedToken := do
  let expiresAt <- Program.lift (tokenExpiry draws.now expiryHours)
  let _ <- Program.attempt databaseFault
    (.inr
      (.saveEnrollToken (hashToken draws.token) hostnameHint expiresAt.naiveUtc))
  return { token := draws.token, hostnameHint :=
    hostnameHint, expiresAt := expiresAt }

/-- It answers what the computation does that is handed the answer of the
database. -/
theorem run_generateToken (hashToken : String -> String) (draws : TokenDraws)
    (hostnameHint : Option String) (expiryHours : Int64) (envs : Nat -> Env)
    (database : Database) :
    (Program.run execAll (generateToken hashToken draws hostnameHint expiryHours)
      envs database).1 =
      generate hashToken (fun tokenHash hint expiresAt =>
        (Program.perform execAll (envs 0)
          (.inr (.saveEnrollToken tokenHash hint expiresAt)) database).1)
        draws hostnameHint expiryHours := by
  simp only [generateToken, generate, TokenDraws.token, Program.run_lift_bind,
    Program.run_attempt_bind]
  cases tokenExpiry draws.now expiryHours with
  | error failure => rfl
  | ok expiresAt =>
      simp only [bind, Except.bind, Program.perform]
      split <;> rfl

/-! ## Saved tokens -/

/-- A text within the limit is stored as it is. -/
theorem varchar_same {limit : Nat} {text stored : String}
    (fits : text.toList.length ≤ limit)
    (accepted : varchar limit text = .ok stored) :
    stored = text ∧ hasNul text = false := by
  rcases bind_eq_ok.mp accepted with ⟨given, clean, kept⟩
  rcases textParam_ok clean with ⟨rfl, free⟩
  rw [if_pos fits] at kept
  exact ⟨(Except.ok.inj kept).symm, free⟩

/-- The row of a token that may be used. -/
structure Db.Offers (db : Db) (tokenHash : String)
    (expiresAt : Timestamp) : Prop where
  offered : Exists fun row => row ∈ db.enrollTokens.rows ∧
    row.tokenHash = tokenHash ∧ row.expiresAt = expiresAt ∧
    row.usedAt = none

/-- The operation saves a token under the hash, with the expiry in microseconds. -/
def Saves (tokenHash : String) (expiresAt : Timestamp)
    (entry : Env × (Stmt ⊕ AdminStmt)) : Prop :=
  Exists fun given => Exists fun hostnameHint => Exists fun expiry =>
    entry.2 = .inr (.saveEnrollToken given hostnameHint expiry) ∧
      varchar 64 given = .ok tokenHash ∧ inMicros expiry = expiresAt

section Operation

variable {env : Env} {database database' : Database}

/-- A token that may be used could be used before or was saved. -/
theorem offers_made {op : Stmt ⊕ AdminStmt}
    {value : Sum.elim Stmt.Res AdminStmt.Res op}
    (success : execAll env op database = .ok (value, database'))
    {tokenHash : String} {expiresAt : Timestamp}
    (offers : database'.toDb.Offers tokenHash expiresAt) :
    database.toDb.Offers tokenHash expiresAt ∨
      Saves tokenHash expiresAt (env, op) := by
  rcases offers.offered with ⟨row, member, sameHash, sameExpiry, unused⟩
  cases op with
  | inl stmt =>
      left
      have effect := (exec_ok (execAll_inl success).1).2
      cases stmt with
      | consumeEnrollToken tokenId =>
          rw [← (Prod.mk.inj (Except.ok.inj effect)).2] at member
          rcases mem_consumeEnrollToken.mp member with ⟨old, before, rfl⟩
          split at sameHash
          · next here =>
            rw [if_pos here] at unused
            cases unused
          · next elsewhere =>
            rw [if_neg elsewhere] at unused sameExpiry
            exact ⟨old, before, sameHash, sameExpiry, unused⟩
      | _ =>
          rw [(Stmt.effect_frame effect).enrollTokens rfl] at member
          exact ⟨row, member, sameHash, sameExpiry, unused⟩
  | inr stmt =>
      have effect := (execAll_inr success).2
      rcases (AdminStmt.effect_frame effect).enrollTokens with
        same | ⟨given, hostnameHint, expiry, rfl⟩
      · rw [same] at member
        exact Or.inl ⟨row, member, sameHash, sameExpiry, unused⟩
      · rcases saveEnrollToken_ok effect with
          ⟨saved, inserted, _, _, hashOk, savedExpiry, _⟩
        rw [Relational.Table.insert?_rows inserted, List.mem_append,
          List.mem_singleton] at member
        rcases member with before | rfl
        · exact Or.inl ⟨row, before, sameHash, sameExpiry, unused⟩
        · right
          rw [← sameHash, ← sameExpiry, savedExpiry]
          exact ⟨given, hostnameHint, expiry, rfl, hashOk, rfl⟩

end Operation

/-! ## Calls at once -/

/-- A statement that saves a token. -/
def savesToken : Stmt ⊕ AdminStmt -> Bool
  | .inr (.saveEnrollToken _ _ _) => true
  | _ => false

/-- What the server is asked for: an enrolment, a new token, or anything else that
saves no token. -/
inductive PkiCall where
  | enroll (call : EnrollCall)
  | generate (draws : TokenDraws) (hostnameHint : Option String)
      (expiryHours : Int64)
  | other (program : AdminCode (Fault PkiError) Unit)
      (quiet : program.Issues fun op => savesToken op = false)

inductive PkiAnswer where
  | enrolled (result : EnrollResult)
  | generated (token : GeneratedToken)
  | finished

def EnrollContext.serve (ctx : EnrollContext) :
    PkiCall -> AdminCode (Fault PkiError) PkiAnswer
  | .enroll call => do
      let result <- (processEnroll ctx call).beside
      return .enrolled result
  | .generate draws hostnameHint expiryHours => do
      let token <- generateToken ctx.hashToken draws hostnameHint expiryHours
      return .generated token
  | .other program _ => do
      let _ <- program
      return .finished

abbrev PkiPool := DatabasePool (Fault PkiError) PkiAnswer

/-- The calls, none of them started. -/
def PkiPool.start (ctx : EnrollContext) (calls : List PkiCall)
    (database : Database) : PkiPool where
  threads := calls.map ctx.serve
  store := database

/-- The command generates a token with the hash of the enrolment's, which has not
expired when the enrolment looks, by the microsecond that is stored. -/
def PkiCall.Invites (ctx : EnrollContext)
    (enrolment : EnrollCall) : PkiCall -> Prop
  | .generate draws _ expiryHours =>
      ctx.hashToken draws.token = ctx.tokenHash enrolment ∧
      Exists fun expiresAt => tokenExpiry draws.now expiryHours = .ok expiresAt ∧
        enrolment.checkedAt.naiveUtc ≤ inMicros expiresAt.naiveUtc
  | _ => False

/-- There is a token for the enrolment that may be used and has not expired, or one
of the calls generates it. -/
def Invited (ctx : EnrollContext) (calls : List PkiCall) (db : Db)
    (enrolment : EnrollCall) : Prop :=
  (Exists fun expiresAt => db.Offers (ctx.tokenHash enrolment) expiresAt ∧
    enrolment.checkedAt.naiveUtc ≤ expiresAt) ∨
    Exists fun call => call ∈ calls ∧ call.Invites ctx enrolment

/-! ## What an enrolment is told -/

/-- The row an enrolment was answered last. -/
def noteToken (known : Option EnrollTokenRow) : (op : Stmt ⊕ AdminStmt) ->
    Except DbError (Sum.elim Stmt.Res AdminStmt.Res op) -> Option EnrollTokenRow
  | .inl (.findEnrollToken _), .ok found => found
  | _, _ => known

/-- The row passed the checks of the enrolment. -/
def EnrollCall.Accepts (call : EnrollCall)
    (known : Option EnrollTokenRow) : Prop :=
  Exists fun row => known = some row ∧ row.usedAt = none ∧
    call.checkedAt.naiveUtc ≤ row.expiresAt

/-- An enrolment looks its token up, and does anything else with an accepted row. -/
def EnrollContext.Allows (ctx : EnrollContext) (call : EnrollCall)
    (known : Option EnrollTokenRow) (op : Stmt ⊕ AdminStmt) : Prop :=
  op = .inl (.findEnrollToken (ctx.tokenHash call)) ∨
    (forall answer, noteToken known op answer = known) ∧ call.Accepts known

section Earns

variable (ctx : EnrollContext) (call : EnrollCall)

/-- Nothing after the lookup looks a token up. -/
theorem consumeAndRegister_quiet (row : EnrollTokenRow) :
    (consumeAndRegister ctx call row).Issues fun stmt =>
    forall known answer, noteToken known (.inl stmt) answer = known := by
  refine Program.issues_bind (Program.issues_attempt _ fun _ _ => rfl) fun _ => ?_
  refine Program.issues_bind (Program.issues_lift _) fun ip => ?_
  refine Program.issues_bind (Program.issues_attempt _ fun _ _ => rfl)
    fun agentId => ?_
  refine Program.issues_bind (Program.issues_lift _) fun signed => ?_
  exact Program.issues_bind (Program.issues_attempt _ fun _ _ => rfl)
    fun _ => trivial

theorem checked_earns (found : Option EnrollTokenRow) :
    (Program.lift (checkToken call.checkedAt found) >>=
      consumeAndRegister ctx call).Earns
      (fun known stmt answer => noteToken known (.inl stmt) answer)
      (fun known stmt => ctx.Allows call known (.inl stmt))
        (fun known _ => call.Accepts known) found := by
  cases checked : checkToken call.checkedAt found with
  | error failure => trivial
  | ok row =>
      have accepted : call.Accepts found := ⟨row, checkToken_ok checked⟩
      rw [Program.lift_ok, Program.done_bind]
      refine Program.earns_of_issues ?_ ?_ ?_ accepted
        (consumeAndRegister_quiet ctx call row)
      · intro known stmt answer accepts quiet
        rw [quiet known answer]
        exact accepts
      · intro known stmt accepts quiet
        exact Or.inr ⟨quiet known, accepts⟩
      · intro known result accepts
        exact accepts

theorem processEnroll_earns : (processEnroll ctx call).Earns
    (fun known stmt answer => noteToken known (.inl stmt) answer)
    (fun known stmt => ctx.Allows call known (.inl stmt))
      (fun known _ => call.Accepts known) none := by
  rw [processEnroll_eq]
  refine ⟨Or.inl rfl, fun answer => ?_⟩
  cases answer with
  | error failure => trivial
  | ok found => exact checked_earns ctx call found

theorem serve_earns_enrolled : (ctx.serve (.enroll call)).Earns noteToken
    (ctx.Allows call)
    (fun known _ => call.Accepts known) none := by
  refine Program.earns_bind
    (Program.earns_beside (processEnroll_earns ctx call)) ?_
  intro result known accepts
  exact accepts

end Earns

/-! ## Runs -/

section Seen

variable {ctx : EnrollContext} {call : EnrollCall} {seen : Database -> Prop}

/-- The row was in one of the databases seen. -/
def TokenSeen (seen : Database -> Prop) (ctx : EnrollContext) (call : EnrollCall)
    (known : Option EnrollTokenRow) : Prop :=
  forall row, known = some row -> row.tokenHash = ctx.tokenHash call ∧
    Exists fun database => seen database ∧ row ∈ database.enrollTokens.rows

theorem find_answered {env : Env} {tokenHash : String} {db db' : Db}
    {found : Option EnrollTokenRow}
    (success : exec env (.findEnrollToken tokenHash) db = .ok (found, db'))
    {row : EnrollTokenRow} (same : found = some row) :
    row ∈ db.enrollTokens.rows ∧ row.tokenHash = tokenHash := by
  have read := (reading_same (exec_ok success).2).2
  rw [same] at read
  exact findEnrollToken_some read

theorem token_learns (env : Env) (op : Stmt ⊕ AdminStmt)
    (known : Option EnrollTokenRow) (database : Database)
    (present : seen database) (allowed : ctx.Allows call known op)
    (knows : TokenSeen seen ctx call known) :
    TokenSeen seen ctx call
      (noteToken known op (Program.perform execAll env op database).1) := by
  rcases allowed with rfl | ⟨quiet, _⟩
  · cases outcome :
        execAll env (.inl (.findEnrollToken (ctx.tokenHash call))) database with
    | error failure =>
        rw [Program.perform_error outcome]
        exact knows
    | ok result =>
        rw [Program.perform_ok outcome]
        intro row found
        have member := find_answered (execAll_inl outcome).1 found
        exact ⟨member.2, database, present, member.1⟩
  · rw [quiet]
    exact knows

end Seen

section Runs

variable {ctx : EnrollContext} {calls : List PkiCall}

/-- Only the commands save tokens. -/
def SavedBy (ctx : EnrollContext) (calls : List PkiCall)
    (op : Stmt ⊕ AdminStmt) : Prop :=
  forall given hostnameHint expiresAt,
    op = .inr (.saveEnrollToken given hostnameHint expiresAt) ->
    Exists fun draws => Exists fun expiryHours => Exists fun expiry =>
      .generate draws hostnameHint expiryHours ∈ calls ∧
        given = ctx.hashToken draws.token ∧
        tokenExpiry draws.now expiryHours = .ok expiry ∧
          expiresAt = expiry.naiveUtc

theorem savedBy_quiet {op : Stmt ⊕ AdminStmt} (quiet : savesToken op = false) :
    SavedBy ctx calls op := by
  rintro given hostnameHint expiresAt rfl
  cases quiet

theorem serve_saves {call : PkiCall} (member : call ∈ calls) :
    (ctx.serve call).Issues (SavedBy ctx calls) := by
  cases call with
  | enroll call =>
      refine Program.issues_bind (Program.issues_beside ?_) fun _ => trivial
      rw [processEnroll_eq]
      refine Program.issues_bind (Program.issues_attempt _ (savedBy_quiet rfl))
        fun found => ?_
      refine Program.issues_bind (Program.issues_lift _) fun row => ?_
      exact (consumeAndRegister_quiet ctx call row).mono fun stmt _ =>
        savedBy_quiet rfl
  | generate draws hostnameHint expiryHours =>
      refine Program.issues_bind ?_ fun _ => trivial
      cases computed : tokenExpiry draws.now expiryHours with
      | error failure =>
          rw [generateToken, computed]
          trivial
      | ok expiry =>
          rw [generateToken, computed, Program.lift_ok, Program.done_bind]
          refine Program.issues_bind (Program.issues_attempt _ ?_)
            fun _ => trivial
          rintro given hint expiresAt same
          cases same
          exact ⟨draws, expiryHours, expiry, member, rfl, computed, rfl⟩
  | other program quiet =>
      exact Program.issues_bind (quiet.mono fun _ => savedBy_quiet)
        fun _ => trivial

/-- A token that may be used on the way may be used at the start or was saved by a
command. -/
theorem offered_before
    (fits : forall token, (ctx.hashToken token).toList.length ≤ 64)
    (database : Database) (labels : List (Nat × Env)) {tokenHash : String}
    {expiresAt : Timestamp}
    (offers :
      (after (Pool.step execAll) (PkiPool.start ctx calls database)
        labels).store.toDb.Offers tokenHash expiresAt) :
    database.toDb.Offers tokenHash expiresAt ∨ Exists fun draws =>
      Exists fun hostnameHint => Exists fun expiryHours =>
      Exists fun expiry => .generate draws hostnameHint expiryHours ∈ calls ∧
        ctx.hashToken draws.token = tokenHash ∧
        tokenExpiry draws.now expiryHours = .ok expiry ∧
          expiresAt = inMicros expiry.naiveUtc := by
  have made :
      forall env op (store : Database)
        (value : Sum.elim Stmt.Res AdminStmt.Res op) (store' : Database),
      execAll env op store = .ok (value, store') ->
        store'.toDb.Offers tokenHash expiresAt ->
      store.toDb.Offers tokenHash expiresAt ∨
          Saves tokenHash expiresAt (env, op) :=
    fun _ _ _ _ _ success offers => offers_made success offers
  rcases Pool.brought_about made (PkiPool.start ctx calls database) offers with
    before | ⟨entry, member, given, hostnameHint, sent, saved, stored, sameExpiry⟩
  · exact Or.inl before
  · right
    have issues :
        (PkiPool.start ctx calls database).Issues (SavedBy ctx calls) := by
      intro program present
      rcases List.mem_map.mp present with ⟨call, called, rfl⟩
      exact serve_saves called
    rcases Pool.log_issued issues member given hostnameHint sent saved with
      ⟨draws, expiryHours, expiry, called, rfl, computed, same⟩
    rw [same] at sameExpiry
    refine ⟨draws, hostnameHint, expiryHours, expiry, called, ?_, computed,
      sameExpiry.symm⟩
    exact (varchar_same (fits draws.token) stored).1.symm

/-- The row that an enrolment has accepted goes back to an invitation. -/
theorem invited_of_accepted
    (fits : forall token, (ctx.hashToken token).toList.length ≤ 64)
    {database : Database} {labels : List (Nat × Env)} {enrolment : EnrollCall}
    {known : Option EnrollTokenRow} (accepts : enrolment.Accepts known)
    (knows : TokenSeen (fun store => Exists fun before => before <+: labels ∧
      store =
        (after (Pool.step execAll) (PkiPool.start ctx calls database)
          before).store) ctx enrolment known) :
    Invited ctx calls database.toDb enrolment := by
  rcases accepts with ⟨row, same, unused, unexpired⟩
  rcases knows row same with ⟨sameHash, _, ⟨before, _, rfl⟩, member⟩
  rcases offered_before fits database before
      ⟨row, member, sameHash, rfl, unused⟩ with
    offers | ⟨draws, hostnameHint, expiryHours, expiry, called, hash,
      computed, expires⟩
  · exact Or.inl ⟨row.expiresAt, offers, unexpired⟩
  · right
    rw [expires] at unexpired
    exact ⟨_, called, hash, expiry, computed, unexpired⟩

end Runs

/-- Whatever runs at once, an enrolment answers, or does anything but look its
token up, only for a token that was there to be used or that one of the commands
generates, and that has not expired. -/
theorem enrolments_invited (ctx : EnrollContext)
    (fits : forall token, (ctx.hashToken token).toList.length ≤ 64)
    (calls : List PkiCall) (database : Database) (labels : List (Nat × Env))
    (index : Nat) (enrolment : EnrollCall)
    (asked : calls[index]? = some (.enroll enrolment)) :
    let last :=
      after (Pool.step execAll) (PkiPool.start ctx calls database) labels
    (forall answer, last.returned index = some answer ->
      Invited ctx calls database.toDb enrolment) ∧
    forall op next, last.threads[index]? = some (.call op next) ->
      op = .inl (.findEnrollToken (ctx.tokenHash enrolment)) ∨
        Invited ctx calls database.toDb enrolment := by
  have arrived :
      (PkiPool.start ctx calls database).threads[index]? =
        some (ctx.serve (.enroll enrolment)) := by
    rw [PkiPool.start, List.getElem?_map, asked, Option.map_some]
  have every :
      Always (Pool.step execAll)
        (fun pool : PkiPool => Exists fun before => before <+: labels ∧
          pool.store =
            (after (Pool.step execAll) (PkiPool.start ctx calls database)
              before).store)
      (PkiPool.start ctx calls database) labels :=
    fun before isPrefix => ⟨before, isPrefix, rfl⟩
  have nothing : TokenSeen (fun store => Exists fun before => before <+: labels ∧
      store =
        (after (Pool.step execAll) (PkiPool.start ctx calls database)
          before).store) ctx enrolment none := by
    intro row impossible
    cases impossible
  have told :=
    Pool.told_run token_learns ⟨_, _, arrived, serve_earns_enrolled ctx enrolment,
      nothing⟩ every
  constructor
  · intro answer returned
    rcases told.returned returned with ⟨known, accepts, knows⟩
    exact invited_of_accepted fits accepts knows
  · intro op next turn
    rcases told.turn turn with ⟨known, lookup | ⟨_, accepts⟩, knows⟩
    · exact Or.inl lookup
    · exact Or.inr (invited_of_accepted fits accepts knows)

/-- The command draws the first of the recorded tokens, with which `web-01` is
enrolled. -/
def newYearCalls : List PkiCall :=
  [.generate
    ⟨newYear, 0x6f1c0e2a9d3b4c5d8e7f60718293a4b5,
      0xc6d7e8f9012345678abcdef013579bdf⟩ (some "web-01") 24,
        .enroll
        (recordedCall firstToken webRecord.csrPem "web-01" "10.0.0.1"
          firstSerialId)]

theorem recordedHash_fits (token : String) :
    (recordedHash token).toList.length ≤ 64 := by
  unfold recordedHash
  split
  · decide +kernel
  · split <;> decide +kernel

theorem web_invited :
    let last :=
      after (Pool.step execAll) (PkiPool.start recordedContext newYearCalls {})
      ([0, 1, 1, 1, 1].map fun index => (index, quietly 7 0))
    (last.returned 1).isSome = true ∧ Invited recordedContext newYearCalls {}
      (recordedCall firstToken webRecord.csrPem "web-01" "10.0.0.1"
        firstSerialId) := by
  intro last
  have answered : (last.returned 1).isSome = true := by
    decide +kernel
  rcases Option.isSome_iff_exists.mp answered with ⟨answer, returned⟩
  exact ⟨answered,
    (enrolments_invited recordedContext recordedHash_fits newYearCalls {} _ 1 _
      rfl).1 answer returned⟩

/-! ## The life of a token -/

/-- What an operation does to the mark of a token. -/
def consumes (tokenId : Uuid) : Env × (Stmt ⊕ AdminStmt) -> Option Bool
  | (_, .inl (.consumeEnrollToken id)) => if id = tokenId then some true else none
  | _ => none

/-- The token is used. -/
def Database.consumed (database : Database) (tokenId : Uuid) : Bool :=
  database.enrollTokens.rows.any fun row => row.id = tokenId && row.usedAt.isSome

/-- The table has the row, used or not. -/
def Database.HasToken (database : Database) (row : EnrollTokenRow) : Prop :=
  Exists fun usedAt => { row with usedAt := usedAt } ∈ database.enrollTokens.rows

section Life

variable {env : Env} {database database' : Database} {row : EnrollTokenRow}

/-- Two rows of the table with one identifier are one. -/
theorem HasToken_unique {other : EnrollTokenRow} {usedAt : Option Timestamp}
    (member : { row with usedAt := usedAt } ∈ database.enrollTokens.rows)
    (present : other ∈ database.enrollTokens.rows)
    (same : other.id = row.id) : other = { row with usedAt := usedAt } :=
  Relational.Table.eq_of_key EnrollTokenRow.id_separates database.enrollTokens
    present member same

theorem consumed_eq {usedAt : Option Timestamp}
    (member : { row with usedAt := usedAt } ∈ database.enrollTokens.rows) :
    database.consumed row.id = usedAt.isSome := by
  rw [Bool.eq_iff_iff, Database.consumed, List.any_eq_true]
  constructor
  · rintro ⟨other, present, both⟩
    rw [Bool.and_eq_true, decide_eq_true_eq] at both
    rw [HasToken_unique member present both.1] at both
    exact both.2
  · intro used
    refine ⟨_, member, ?_⟩
    rw [Bool.and_eq_true, decide_eq_true_eq]
    exact ⟨rfl, used⟩

/-- No operation takes a token away, and only its consumption marks it. -/
theorem token_written {op : Stmt ⊕ AdminStmt}
    {value : Sum.elim Stmt.Res AdminStmt.Res op} (has : database.HasToken row)
    (success : execAll env op database = .ok (value, database')) :
    database'.HasToken row ∧
      database'.consumed row.id =
        (consumes row.id (env, op)).getD (database.consumed row.id) := by
  rcases has with ⟨usedAt, member⟩
  cases op with
  | inl stmt =>
      have effect := (exec_ok (execAll_inl success).1).2
      cases stmt with
      | consumeEnrollToken tokenId =>
          have later : forall new, new ∈ database'.enrollTokens.rows <->
              Exists fun old =>
              old ∈ database.enrollTokens.rows ∧
                new = if old.id = tokenId then { old with usedAt := some env.now }
                  else old := by
            intro new
            rw [← (Prod.mk.inj (Except.ok.inj effect)).2]
            exact mem_consumeEnrollToken
          have marked := (later _).mpr ⟨_, member, rfl⟩
          by_cases here : tokenId = row.id
          · rw [if_pos here.symm] at marked
            have change :
                consumes row.id (env, .inl (.consumeEnrollToken tokenId)) =
                  some true := if_pos here
            rw [change, consumed_eq marked]
            exact ⟨⟨_, marked⟩, rfl⟩
          · rw [if_neg (Ne.symm here)] at marked
            have change :
                consumes row.id (env, .inl (.consumeEnrollToken tokenId)) =
                  none := if_neg here
            rw [change, consumed_eq marked, consumed_eq member]
            exact ⟨⟨_, marked⟩, rfl⟩
      | _ =>
          have same := (Stmt.effect_frame effect).enrollTokens rfl
          have kept :
              { row with usedAt := usedAt } ∈ database'.enrollTokens.rows :=
                same ▸ member
          rw [consumed_eq kept, consumed_eq member]
          exact ⟨⟨usedAt, kept⟩, rfl⟩
  | inr stmt =>
      have kept :
          { row with usedAt := usedAt } ∈ database'.enrollTokens.rows := by
        have effect := (execAll_inr success).2
        rcases (AdminStmt.effect_frame effect).enrollTokens with
          same | ⟨given, hostnameHint, expiry, rfl⟩
        · rw [same]
          exact member
        · rcases saveEnrollToken_ok effect with ⟨saved, inserted, _⟩
          rw [Relational.Table.insert?_rows inserted]
          exact List.mem_append_left _ member
      rw [consumed_eq kept, consumed_eq member]
      exact ⟨⟨usedAt, kept⟩, rfl⟩

end Life

/-- After any run the row is there, used if it was or if the run consumes it. -/
theorem token_after {ε α : Type} (pool : DatabasePool ε α)
    (labels : List (Nat × Env)) {row : EnrollTokenRow}
    (has : pool.store.HasToken row) :
    let last := after (Pool.step execAll) pool labels
    last.store.HasToken row ∧ last.store.consumed row.id =
      (pool.store.consumed row.id || (pool.log execAll labels).any fun entry =>
        (consumes row.id entry).isSome) := by
  have every :
      Always (Pool.step execAll)
        (fun pool : DatabasePool ε α => pool.store.HasToken row) pool labels := by
    have kept : forall (pool : DatabasePool ε α) label, pool.store.HasToken row ->
        (pool.step execAll label).store.HasToken row := by
      intro pool label has
      rcases Pool.entry_cases execAll pool label with
        ⟨_, same⟩ | ⟨op, value, store, _, outcome, same⟩
      · rw [same]
        exact has
      · rw [same]
        exact (token_written has outcome).1
    exact always_of_preserved kept has labels
  have written :
      forall env op (store : Database)
        (value : Sum.elim Stmt.Res AdminStmt.Res op) (store' : Database),
      store.HasToken row -> execAll env op store = .ok (value, store') ->
      store'.consumed row.id =
          (consumes row.id (env, op)).getD (store.consumed row.id) :=
    fun _ _ _ _ _ has success => (token_written has success).2
  have sets : forall entry, consumes row.id entry ≠ some false := by
    intro entry impossible
    unfold consumes at impossible
    split at impossible
    · split at impossible <;> cases impossible
    · cases impossible
  refine ⟨every.last, ?_⟩
  rw [← lastly_sets sets]
  exact Pool.view_after written pool every

/-- What a validation answers for a row of the table. -/
def verdict (consumed : Bool) (row : EnrollTokenRow) (now : DateTime) :
    Except (Fault PkiError) Uuid :=
  if consumed then .error (.error .tokenAlreadyUsed)
  else if row.expiresAt < now.naiveUtc then .error (.error .tokenExpired)
  else .ok row.id

theorem run_validateAndConsume {hashToken : String -> String} {now : DateTime}
    {tokenPlain : String} {envs : Nat -> Env}
    (clear : forall n, (envs n).fault = none) {database : Database}
    {row : EnrollTokenRow} (has : database.HasToken row)
    (hash : row.tokenHash = hashToken tokenPlain)
    (clean : hasNul (hashToken tokenPlain) = false) :
    (Program.run exec (validateAndConsume hashToken now tokenPlain) envs
      database.toDb).1.map EnrollTokenRow.id =
      verdict (database.consumed row.id) row now := by
  rcases has with ⟨usedAt, member⟩
  have found : findEnrollToken (hashToken tokenPlain) database.toDb =
      .ok (some { row with usedAt := usedAt }) := by
    rw [findEnrollToken, textParam_of_clean clean]
    exact congrArg Except.ok
      ((Relational.Table.find_eq_some_iff EnrollTokenRow.tokenHash_separates).mpr
        ⟨member, hash⟩)
  have read :
      exec (envs 0) (.findEnrollToken (hashToken tokenPlain)) database.toDb =
      .ok (some { row with usedAt := usedAt }, database.toDb) := by
    rw [exec_clear (clear 0), Stmt.effect, found]
    rfl
  rw [validateAndConsume, Program.run_attempt_bind, read, consumed_eq member]
  simp only [Program.run_lift_bind, checkToken, verdict]
  cases usedAt with
  | some time => rfl
  | none =>
      by_cases expired : row.expiresAt < now.naiveUtc
      · simp only [Option.isSome_none, Bool.false_eq_true, if_false,
          if_pos expired, Except.map]
      · simp only [Option.isSome_none, Bool.false_eq_true, if_false,
          if_neg expired, Program.run_attempt_bind, exec_clear (clear _),
            Stmt.effect, Program.pure_eq, Program.run_done, Except.map]

/-- What a generated token leaves in the database. -/
theorem generated_row {hashToken : String -> String}
    (fits : forall token, (hashToken token).toList.length ≤ 64)
    {draws : TokenDraws} {hostnameHint : Option String} {expiryHours : Int64}
    {envs : Nat -> Env} {database database' : Database}
    {generated : GeneratedToken}
    (success :
      Program.run execAll (generateToken hashToken draws hostnameHint expiryHours)
        envs database =
      (.ok generated, database')) :
    Exists fun row => database'.HasToken row ∧ database'.consumed row.id = false ∧
      row.tokenHash = hashToken generated.token ∧
      row.expiresAt = inMicros generated.expiresAt.naiveUtc ∧
      hasNul (hashToken generated.token) = false := by
  rw [generateToken, Program.run_lift_bind] at success
  cases computed : tokenExpiry draws.now expiryHours with
  | error failure =>
      rw [computed] at success
      cases congrArg Prod.fst success
  | ok expiresAt =>
      rw [computed] at success
      dsimp only at success
      rw [Program.run_attempt_bind] at success
      split at success
      · next id store saved =>
        cases success
        rcases saveEnrollToken_ok (execAll_inr saved).2 with
          ⟨row, inserted, _, _, hashOk, sameExpiry, unused⟩
        have stored := varchar_same (fits draws.token) hashOk
        have member :
            { row with usedAt := none } ∈ database'.enrollTokens.rows := by
          rw [← unused, Relational.Table.insert?_rows inserted]
          exact List.mem_append_right _ (List.mem_singleton.mpr rfl)
        exact ⟨row, ⟨none, member⟩, consumed_eq member, stored.1,
          sameExpiry, stored.2⟩
      · cases congrArg Prod.fst success

/-- A generated token is good exactly until some code consumes it or the
microsecond of its expiry is over, whatever runs in between. -/
theorem generated_tokens_last (hashToken : String -> String)
    (fits : forall token, (hashToken token).toList.length ≤ 64)
    (draws : TokenDraws) (hostnameHint : Option String) (expiryHours : Int64)
    (envs : Nat -> Env) (database : Database) (generated : GeneratedToken)
    {ε α : Type} (pool : DatabasePool ε α)
    (success :
      Program.run execAll (generateToken hashToken draws hostnameHint expiryHours)
        envs database =
      (.ok generated, pool.store)) :
    Exists fun row => row.expiresAt = inMicros generated.expiresAt.naiveUtc ∧
      forall (labels : List (Nat × Env)) (now : DateTime) (later : Nat -> Env),
        (forall n, (later n).fault = none) ->
        (Program.run exec (validateAndConsume hashToken now generated.token) later
          (after (Pool.step execAll) pool labels).store.toDb).1.map
            EnrollTokenRow.id =
            verdict
              ((pool.log execAll labels).any fun entry =>
                (consumes row.id entry).isSome) row now := by
  rcases generated_row fits success with ⟨row, has, unused, hash, expiry, clean⟩
  refine ⟨row, expiry, fun labels now later clear => ?_⟩
  have ended := token_after pool labels has
  rw [run_validateAndConsume clear ended.1 hash clean, ended.2, unused,
    Bool.false_or]

/-- The token of the first command, and some code that consumes it. -/
def webInvitation : Except (Fault PkiError) GeneratedToken × Database :=
  Program.run execAll
    (generateToken recordedHash
      ⟨newYear, 0x6f1c0e2a9d3b4c5d8e7f60718293a4b5,
        0xc6d7e8f9012345678abcdef013579bdf⟩ (some "web-01") 24) (quietly 7) {}

def webInvited : DatabasePool DbError Unit where
  threads := [.call (.inl (.consumeEnrollToken 7)) fun _ => .done ()]
  store := webInvitation.2

theorem web_token_lasts : Exists fun generated => Exists fun row =>
      webInvitation = (.ok generated, webInvited.store) ∧
    (Program.run exec
      (validateAndConsume recordedHash newYear generated.token) (quietly 0)
      (after (Pool.step execAll) webInvited [(0, quietly 7 0)]).store.toDb).1.map
        EnrollTokenRow.id =
        verdict ((webInvited.log execAll [(0, quietly 7 0)]).any fun entry =>
          (consumes row.id entry).isSome) row
          newYear := by
  have made : webInvitation.1.isOk = true := by
    decide +kernel
  cases outcome : webInvitation with
  | mk answer database =>
      rw [outcome] at made
      cases answer with
      | error failure => cases made
      | ok generated =>
          have success : webInvitation = (.ok generated, webInvited.store) := by
            rw [outcome, webInvited, outcome]
          rcases generated_tokens_last recordedHash recordedHash_fits _ _ _ _ _
              generated webInvited success with
            ⟨row, _, lasts⟩
          exact ⟨generated, row, by rw [← outcome, success],
            lasts [(0, quietly 7 0)] newYear (quietly 0) fun _ => rfl⟩

end Complyx
