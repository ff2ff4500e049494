import Complyx.Pki.Samples
import Complyx.Transition.Recorder

namespace Complyx

open Transition Relational

/-!
# Enrolments racing for one token

Looking a token up and consuming it are two statements, and the update that
consumes asks for nothing but the identifier.  Two calls that both looked
before either consumed are therefore both served.  As long as every update
finds its row unused, a token is worth one certificate.

Every call is either waiting, which means that it has not consumed its token,
or past it.  Being past is what excludes: of two calls with one token at least
one is always waiting.
-/

abbrev EnrollPool := Pool Stmt.Res DbError (Fault PkiError) EnrollResult Db

/-- The calls, none of them started. -/
def EnrollPool.start (ctx : EnrollContext) (calls : List EnrollCall)
    (db : Db) : EnrollPool where
  threads := calls.map (processEnroll ctx)
  store := db

/-- No two calls with the same token have been issued a certificate. -/
def OneCertificatePerToken (calls : List EnrollCall) (pool : EnrollPool) : Prop :=
  forall (i j : Nat) first second resultI resultJ, calls[i]? = some first ->
    calls[j]? = some second ->
    first.request.token = second.request.token ->
    pool.returned i = some resultI -> pool.returned j = some resultJ -> i = j

/-- The token a statement consumes, if it is one that does. -/
def Stmt.consumedToken : Stmt -> Option Uuid
  | .consumeEnrollToken tokenId => some tokenId
  | _ => none

/-- An update that reaches the database finds the token unused. -/
def ConsumesUnused (env : Env) (stmt : Stmt) (db : Db) : Prop :=
  env.fault = none -> forall row, row ∈ db.enrollTokens.rows ->
    stmt.consumedToken = some row.id -> row.usedAt = none

instance (env : Env) (stmt : Stmt) (db : Db) :
    Decidable (ConsumesUnused env stmt db) :=
  inferInstanceAs (Decidable (_ -> _))

/-! ## Waiting calls -/

/-- The table has a row with the identifier and the hash. -/
def Db.holdsToken (db : Db) (tokenId : Uuid) (tokenHash : String) : Prop :=
  Exists fun row => row ∈ db.enrollTokens.rows ∧ row.id = tokenId ∧
    row.tokenHash = tokenHash

/-- The token with the hash is used. -/
def Db.tokenUsed (db : Db) (tokenHash : String) : Prop :=
  Exists fun row => row ∈ db.enrollTokens.rows ∧ row.tokenHash = tokenHash ∧
    row.usedAt.isSome = true

/-- The call has not consumed its token. -/
inductive Waiting (ctx : EnrollContext) (call : EnrollCall) (db : Db) :
    Code (Fault PkiError) EnrollResult -> Prop where
  | unstarted : Waiting ctx call db (processEnroll ctx call)
  | checked (row : EnrollTokenRow)
      (held : db.holdsToken row.id (ctx.tokenHash call)) :
      Waiting ctx call db (consumeAndRegister ctx call row)
  | failed (error : Fault PkiError) : Waiting ctx call db (.fail error)

/-- The call has consumed its token. -/
structure Past (ctx : EnrollContext) (call : EnrollCall) (db : Db)
    (program : Code (Fault PkiError) EnrollResult) : Prop where
  used : db.tokenUsed (ctx.tokenHash call)
  issues : program.Issues fun stmt => stmt.writesEnrollTokens = false

/-- What a statement may do to the tokens: mark some as used. -/
structure TokensKept (db db' : Db) : Prop where
  held : forall {tokenId tokenHash}, db.holdsToken tokenId tokenHash ->
    db'.holdsToken tokenId tokenHash
  used : forall {tokenHash}, db.tokenUsed tokenHash -> db'.tokenUsed tokenHash

theorem TokensKept.of_same {db db' : Db}
    (same : db'.enrollTokens = db.enrollTokens) : TokensKept db db' where
  held := by
    rintro tokenId tokenHash ⟨row, member, held⟩
    exact ⟨row, same ▸ member, held⟩
  used := by
    rintro tokenHash ⟨row, member, used⟩
    exact ⟨row, same ▸ member, used⟩

theorem tokensKept_consume (env : Env) (tokenId : Uuid) (db : Db) :
    TokensKept db (consumeEnrollToken env tokenId db) where
  held := by
    rintro otherId tokenHash ⟨row, member, sameId, sameHash⟩
    refine ⟨_, mem_consumeEnrollToken.mpr ⟨row, member, rfl⟩, ?_, ?_⟩ <;>
      split <;> assumption
  used := by
    rintro tokenHash ⟨row, member, sameHash, marked⟩
    refine ⟨_, mem_consumeEnrollToken.mpr ⟨row, member, rfl⟩, ?_, ?_⟩
    · split <;> exact sameHash
    · split
      · rfl
      · exact marked

theorem tokensKept_perform (env : Env) (stmt : Stmt) (db : Db) :
    TokensKept db (Program.perform exec env stmt db).2 := by
  by_cases writes : stmt.writesEnrollTokens = true
  · cases stmt <;> try cases writes
    next tokenId =>
      have effect :
          (Stmt.consumeEnrollToken tokenId).effect env db =
            .ok ((), consumeEnrollToken env tokenId db) := rfl
      rcases perform_total effect with same | consumed
      · rw [same]
        exact TokensKept.of_same rfl
      · rw [consumed]
        exact tokensKept_consume env tokenId db
  · exact TokensKept.of_same
      ((perform_frame env stmt db).enrollTokens (Bool.eq_false_iff.mpr writes))

variable {ctx : EnrollContext} {call : EnrollCall}

theorem Waiting.kept {db db' : Db} (kept : TokensKept db db')
    {program : Code (Fault PkiError) EnrollResult}
    (waiting : Waiting ctx call db program) : Waiting ctx call db' program := by
  cases waiting with
  | unstarted => exact Waiting.unstarted
  | checked row held => exact Waiting.checked row (kept.held held)
  | failed error => exact Waiting.failed error

theorem Past.kept {db db' : Db} (kept : TokensKept db db')
    {program : Code (Fault PkiError) EnrollResult}
    (past : Past ctx call db program) : Past ctx call db' program :=
  ⟨kept.used past.used, past.issues⟩

theorem registerAndSign_issues :
    (registerAndSign ctx call).Issues fun stmt =>
      stmt.writesEnrollTokens = false := by
  refine Program.issues_bind (Program.issues_lift _) fun ip => ?_
  refine Program.issues_bind (Program.issues_attempt _ rfl) fun agentId => ?_
  refine Program.issues_bind (Program.issues_lift _) fun signed => ?_
  exact Program.issues_bind (Program.issues_attempt _ rfl) fun _ => trivial

/-- The lookup leaves the call waiting whatever it answers. -/
private theorem waiting_lookup (env : Env) (db : Db) {next}
    (same : processEnroll ctx call =
      .call (.findEnrollToken (ctx.tokenHash call)) next) :
    let answer :=
      Program.perform exec env (.findEnrollToken (ctx.tokenHash call)) db
    Waiting ctx call answer.2 (next answer.1) := by
  rw [processEnroll_eq, Program.attempt_bind] at same
  have sameNext := (Program.call.inj same).2
  rw [heq_eq_eq] at sameNext
  subst next
  rcases perform_cases env (.findEnrollToken (ctx.tokenHash call)) db with
    ⟨failure, performed⟩ | ⟨found, db', _, effect, performed⟩
  · simp only [performed]
    exact Waiting.failed _
  · simp only [performed]
    rcases reading_same effect with ⟨sameDb, answered⟩
    subst db'
    cases checked : checkToken call.checkedAt found with
    | error failure => exact Waiting.failed failure
    | ok row =>
        rw [(checkToken_ok checked).1] at answered
        rcases findEnrollToken_some answered with ⟨member, sameHash⟩
        exact Waiting.checked row ⟨row, member, rfl, sameHash⟩

/-- The update that finds its row unused is the first one for the token. -/
private theorem past_consume (env : Env) (db : Db) (row : EnrollTokenRow)
    (held : db.holdsToken row.id (ctx.tokenHash call)) {next}
    (same : consumeAndRegister ctx call row =
      .call (.consumeEnrollToken row.id) next)
    (guard : ConsumesUnused env (.consumeEnrollToken row.id) db) :
    let answer := Program.perform exec env (.consumeEnrollToken row.id) db
    Waiting ctx call answer.2 (next answer.1) ∨
      Past ctx call answer.2 (next answer.1) ∧
        ¬ db.tokenUsed (ctx.tokenHash call) := by
  rw [consumeAndRegister, Program.attempt_bind] at same
  have sameNext := (Program.call.inj same).2
  rw [heq_eq_eq] at sameNext
  subst next
  rcases held with ⟨current, member, sameId, sameHash⟩
  rcases perform_cases env (.consumeEnrollToken row.id) db with
    ⟨failure, performed⟩ | ⟨value, db', clear, effect, performed⟩
  · left
    simp only [performed]
    exact Waiting.failed _
  · right
    have sameDb := congrArg Prod.snd (Except.ok.inj effect)
    simp only at sameDb
    simp only [performed]
    refine ⟨⟨?_, registerAndSign_issues⟩, ?_⟩
    · rw [← sameDb]
      refine ⟨_, mem_consumeEnrollToken.mpr ⟨current, member, rfl⟩, ?_, ?_⟩
      · split <;> exact sameHash
      · rw [if_pos sameId]
        rfl
    · rintro ⟨other, otherMember, otherHash, marked⟩
      have equal :=
        Table.eq_of_key EnrollTokenRow.tokenHash_separates db.enrollTokens
          otherMember member
          (otherHash.trans sameHash.symm)
      have unused := guard clear current member (congrArg some sameId.symm)
      rw [equal, unused] at marked
      cases marked

/-- One statement of a waiting call leaves it waiting, or it is the first to
consume its token. -/
theorem waiting_step (env : Env) (db : Db) {op : Stmt} {next}
    (waiting : Waiting ctx call db (.call op next))
    (guard : ConsumesUnused env op db) :
    let answer := Program.perform exec env op db
    Waiting ctx call answer.2 (next answer.1) ∨
      Past ctx call answer.2 (next answer.1) ∧
        ¬ db.tokenUsed (ctx.tokenHash call) := by
  generalize shape : Program.call op next = program at waiting
  cases waiting with
  | unstarted =>
      have issued := shape
      rw [processEnroll_eq, Program.attempt_bind] at issued
      have sameOp := (Program.call.inj issued).1
      subst op
      exact Or.inl (waiting_lookup env db shape.symm)
  | checked row held =>
      have issued := shape
      rw [consumeAndRegister, Program.attempt_bind] at issued
      have sameOp := (Program.call.inj issued).1
      subst op
      exact past_consume env db row held shape.symm guard
  | failed error => cases shape

/-! ## The pool -/

/-- Every call is waiting or past, and of two with one token one is waiting. -/
structure Exclusive (ctx : EnrollContext) (calls : List EnrollCall)
    (pool : EnrollPool) : Prop where
  each : forall {i : Nat} {call program}, calls[i]? = some call ->
    pool.threads[i]? = some program ->
    Waiting ctx call pool.store program ∨ Past ctx call pool.store program
  apart : forall {i j : Nat} {first second programI programJ}, i ≠ j ->
    calls[i]? = some first -> calls[j]? = some second ->
    ctx.tokenHash first = ctx.tokenHash second ->
    pool.threads[i]? = some programI -> pool.threads[j]? = some programJ ->
    Waiting ctx first pool.store programI ∨ Waiting ctx second pool.store programJ

variable {calls : List EnrollCall}

theorem exclusive_start (db : Db) :
    Exclusive ctx calls (EnrollPool.start ctx calls db) := by
  have unstarted : forall {i : Nat} {call program}, calls[i]? = some call ->
      (EnrollPool.start ctx calls db).threads[i]? = some program ->
        Waiting ctx call db program := by
    intro i call program present thread
    simp only [EnrollPool.start, List.getElem?_map, present, Option.map_some,
      Option.some.injEq] at thread
    rw [← thread]
    exact Waiting.unstarted
  constructor
  · intro i call program present thread
    exact Or.inl (unstarted present thread)
  · intro i j first second programI programJ _ present _ _ thread _
    exact Or.inl (unstarted present thread)

/-- The call that moved keeps its distance from every other. -/
private theorem apart_moved {pool : EnrollPool}
    (exclusive : Exclusive ctx calls pool) {env : Env} {op : Stmt} {next}
    {i j : Nat} {first second : EnrollCall}
    {program : Code (Fault PkiError) EnrollResult} (different : i ≠ j)
    (turn : pool.threads[i]? = some (.call op next))
    (guard : ConsumesUnused env op pool.store) (presentI : calls[i]? = some first)
    (presentJ : calls[j]? = some second)
    (sameHash : ctx.tokenHash first = ctx.tokenHash second)
    (thread : pool.threads[j]? = some program) :
    let answer := Program.perform exec env op pool.store
    Waiting ctx first answer.2 (next answer.1) ∨
      Waiting ctx second answer.2 program := by
  have kept := tokensKept_perform env op pool.store
  rcases exclusive.apart different presentI presentJ sameHash turn thread with
    moving | other
  · rcases waiting_step env pool.store moving guard with still | ⟨_, fresh⟩
    · exact Or.inl still
    · rcases exclusive.each presentJ thread with waiting | past
      · exact Or.inr (waiting.kept kept)
      · exact absurd (sameHash ▸ past.used) fresh
  · exact Or.inr (other.kept kept)

theorem exclusive_step (pool : EnrollPool) (label : Nat × Env)
    (exclusive : Exclusive ctx calls pool)
    (guarded : pool.Guarded ConsumesUnused label) :
    Exclusive ctx calls (pool.step exec label) := by
  rcases Pool.step_cases exec pool label with
    ⟨_, same⟩ | ⟨op, next, turn, stepped⟩
  · rw [same]
    exact exclusive
  have guard := guarded op next turn
  have kept := tokensKept_perform label.2 op pool.store
  have store :
      (pool.step exec label).store =
        (Program.perform exec label.2 op pool.store).2 := by
    rw [stepped]
  constructor
  · intro i call program present thread
    rw [Pool.step_get turn] at thread
    rw [store]
    split at thread
    · next here =>
      subst i
      rw [← Option.some.inj thread]
      rcases exclusive.each present turn with waiting | past
      · exact (waiting_step label.2 pool.store waiting guard).imp_right And.left
      · exact Or.inr ⟨kept.used past.used, past.issues.2 _⟩
    · exact (exclusive.each present thread).imp (Waiting.kept kept)
        (Past.kept kept)
  · intro i j first second programI programJ different presentI presentJ sameHash
      threadI threadJ
    rw [Pool.step_get turn] at threadI threadJ
    rw [store]
    split at threadI <;> split at threadJ
    · next hereI hereJ => exact absurd (hereI.trans hereJ.symm) different
    · next hereI _ =>
      subst i
      rw [← Option.some.inj threadI]
      exact apart_moved exclusive different turn guard presentI presentJ
        sameHash threadJ
    · next _ hereJ =>
      subst j
      rw [← Option.some.inj threadJ]
      exact (apart_moved exclusive (Ne.symm different) turn guard presentJ
        presentI sameHash.symm threadI).symm
    · exact (exclusive.apart different presentI presentJ sameHash threadI
        threadJ).imp
        (Waiting.kept kept) (Waiting.kept kept)

theorem Exclusive.oneCertificate {pool : EnrollPool}
    (exclusive : Exclusive ctx calls pool) :
    OneCertificatePerToken calls pool := by
  intro i j first second resultI resultJ presentI presentJ sameToken endedI endedJ
  by_contra different
  have sameHash : ctx.tokenHash first = ctx.tokenHash second :=
    congrArg ctx.hashToken sameToken
  have returned : forall {call result},
      ¬ Waiting ctx call pool.store (.done result) := by
    intro call result waiting
    generalize shape : Program.done result = program at waiting
    cases waiting with
    | unstarted =>
        rw [processEnroll_eq, Program.attempt_bind] at shape
        cases shape
    | checked row held =>
        rw [consumeAndRegister, Program.attempt_bind] at shape
        cases shape
    | failed error => cases shape
  rcases exclusive.apart different presentI presentJ sameHash
    (Pool.returned_some endedI)
    (Pool.returned_some endedJ) with waiting | waiting <;> exact returned waiting

/-- In every interleaving of any number of enrolments in which each update
that consumes a token finds it unused, no token is worth two certificates. -/
theorem unused_tokens_serve_once (ctx : EnrollContext) (calls : List EnrollCall)
    (db : Db) (labels : List (Nat × Env))
    (meets : Meets (Pool.step exec) (Pool.Guarded ConsumesUnused)
      (EnrollPool.start ctx calls db) labels) :
    Always (Pool.step exec) (OneCertificatePerToken calls)
      (EnrollPool.start ctx calls db) labels := by
  have exclusive :=
    always_of_meets (fun pool label => exclusive_step pool label)
      (exclusive_start db) meets
  exact exclusive.mono fun pool holds => holds.oneCertificate

/-- Two hosts holding the same token. -/
def sharedToken : List EnrollCall :=
  [recordedCall firstToken webRecord.csrPem "web-01" "10.0.0.1" firstSerialId,
    recordedCall firstToken dbRecord.csrPem "db-01" "10.0.0.66" secondSerialId]

/-- The pool after the given calls moved, each drawing its own identifier. -/
def scheduled (order : List Nat) : List (Nat × Env) :=
  order.map fun index => (index, quietly (7 + index) 0)

/-- One call runs to its end before the other starts. -/
theorem unused_tokens_serve_once_in_turn :
    Always (Pool.step exec) (OneCertificatePerToken sharedToken)
      (EnrollPool.start recordedContext sharedToken invitedDb)
        (scheduled [0, 0, 0, 0, 1, 1]) := by
  apply unused_tokens_serve_once
  decide +kernel

/-- Both calls look before either consumes, and both are served. -/
theorem token_serves_twice :
    ¬ Always (Pool.step exec) (OneCertificatePerToken sharedToken)
      (EnrollPool.start recordedContext sharedToken invitedDb)
        (scheduled [0, 1, 0, 1, 0, 0, 1, 1]) := by
  intro always
  have served :
      [0, 1].map
        (after (Pool.step exec)
          (EnrollPool.start recordedContext sharedToken invitedDb)
          (scheduled [0, 1, 0, 1, 0, 0, 1, 1])).returned =
        [some ⟨7, webRecord.certPem, "ca.crt"⟩,
          some ⟨8, dbRecord.certPem, "ca.crt"⟩] := by
    decide +kernel
  have first := (List.cons.inj served).1
  have second := (List.cons.inj (List.cons.inj served).2).1
  have same := always.last 0 1 _ _ _ _ rfl rfl rfl first second
  cases same

/-! ## Tokens consumed since a lookup -/

/-- The row an answer shows, if the statement looks for a token. -/
def noteFoundToken (_ : Option EnrollTokenRow) :
    (stmt : Stmt) -> Except DbError stmt.Res -> Option EnrollTokenRow
  | .findEnrollToken _, .ok found => found
  | _, _ => none

def Stmt.looksForToken : Stmt -> Bool
  | .findEnrollToken _ => true
  | _ => false

/-- The tokens consumed, going by the statements alone. -/
def logConsumed (consumed : List Uuid) (stmt : Stmt) (_ : Db)
    (outcome : Except DbError stmt.Res × Db) : List Uuid :=
  match stmt, outcome.1 with
  | .consumeEnrollToken tokenId, .ok _ => tokenId :: consumed
  | _, _ => consumed

/-- Each call's last lookup, and the tokens consumed by any since. -/
def tokenRecorder : Recorder Stmt.Res DbError Db (Option EnrollTokenRow)
    (List Uuid) where
  note := noteFoundToken
  looks := Stmt.looksForToken
  fresh := []
  log := logConsumed

/-- A statement that consumes nothing but the token found unused just before. -/
def ConsumesFound (last : Option EnrollTokenRow) (stmt : Stmt) : Prop :=
  forall tokenId, stmt.consumedToken = some tokenId ->
    Exists fun row => last = some row ∧ row.id = tokenId ∧ row.usedAt = none

theorem Stmt.consumedToken_none {stmt : Stmt}
    (readonly : stmt.writesEnrollTokens = false) :
    stmt.consumedToken = none := by
  cases stmt <;> first | rfl | cases readonly

theorem consumesFound_of_readonly (last : Option EnrollTokenRow) {stmt : Stmt}
    (readonly : stmt.writesEnrollTokens = false) : ConsumesFound last stmt := by
  intro tokenId consumes
  rw [Stmt.consumedToken_none readonly] at consumes
  cases consumes

theorem processEnroll_consumesFound (ctx : EnrollContext) (call : EnrollCall)
    (last : Option EnrollTokenRow) :
    (processEnroll ctx call).Follows noteFoundToken ConsumesFound last := by
  rw [processEnroll_eq]
  apply Program.follows_attempt_bind _ (consumesFound_of_readonly last rfl)
  intro found
  cases checked : checkToken call.checkedAt found with
  | error failure => trivial
  | ok row =>
      rcases checkToken_ok checked with ⟨rfl, unused, _⟩
      rw [Program.lift_ok, Program.done_bind]
      apply Program.follows_bind
      · apply Program.follows_attempt
        intro tokenId consumes
        exact ⟨row, rfl, Option.some.inj consumes, unused⟩
      intro nothing last
      have kept : forall (_ : Option EnrollTokenRow) (stmt : Stmt),
          Except DbError stmt.Res -> True -> True := fun _ _ _ => id
      exact Program.follows_of_issues kept
        (fun last _ _ => consumesFound_of_readonly last)
        trivial registerAndSign_issues

/-- The log has the token that was found unused if it is used by now, and nothing
but used tokens. -/
structure ConsumedSince (last : Option EnrollTokenRow) (consumed : List Uuid)
    (db : Db) : Prop where
  complete : forall row, last = some row -> row.usedAt = none ->
      Exists fun current =>
    current ∈ db.enrollTokens.rows ∧ current.id = row.id ∧
      (current.usedAt = none ∨ row.id ∈ consumed)
  sound : forall row, row ∈ db.enrollTokens.rows -> row.id ∈ consumed ->
    row.usedAt.isSome = true

section ConsumedSince

variable {last : Option EnrollTokenRow} {consumed : List Uuid} {db : Db}

theorem ConsumedSince.consume (since : ConsumedSince last consumed db) (env : Env)
    (tokenId : Uuid) :
    ConsumedSince last (tokenId :: consumed)
      (consumeEnrollToken env tokenId db) := by
  constructor
  · intro row looked unused
    rcases since.complete row looked unused with ⟨current, member, sameId, state⟩
    refine ⟨_, mem_consumeEnrollToken.mpr ⟨current, member, rfl⟩, ?_, ?_⟩
    · split <;> exact sameId
    · rw [List.mem_cons]
      by_cases here : current.id = tokenId
      · exact Or.inr (Or.inl (sameId.symm.trans here))
      · rw [if_neg here]
        exact state.imp_right Or.inr
  · intro row member logged
    rcases mem_consumeEnrollToken.mp member with ⟨old, oldMember, rfl⟩
    by_cases here : old.id = tokenId
    · rw [if_pos here]
      rfl
    · rw [if_neg here] at logged ⊢
      exact since.sound old oldMember
        ((List.mem_cons.mp logged).resolve_left here)

/-- One statement, seen by a call that has looked before. -/
theorem consumedSince_log (since : ConsumedSince last consumed db) (env : Env)
    (stmt : Stmt) :
    ConsumedSince last
      (logConsumed consumed stmt db (Program.perform exec env stmt db))
      (Program.perform exec env stmt db).2 := by
  by_cases writes : stmt.writesEnrollTokens = true
  · cases stmt <;> try cases writes
    next tokenId =>
      rcases perform_cases env (.consumeEnrollToken tokenId) db with
        ⟨failure, performed⟩ | ⟨value, db', _, effect, performed⟩
      · rw [performed]
        exact since
      · rw [performed, ← congrArg Prod.snd (Except.ok.inj effect)]
        exact since.consume env tokenId
  · have readonly := Bool.eq_false_iff.mpr writes
    have unlogged :
        logConsumed consumed stmt db (Program.perform exec env stmt db) =
        consumed := by
      cases stmt <;> first | rfl | cases readonly
    have same := (perform_frame env stmt db).enrollTokens readonly
    rw [unlogged]
    constructor <;> rw [same]
    · exact since.complete
    · exact since.sound

/-- What a lookup says of the store it is made in. -/
theorem consumedSince_lookup (last : Option EnrollTokenRow) (env : Env)
    (tokenHash : String) (db : Db) :
    let outcome := Program.perform exec env (.findEnrollToken tokenHash) db
    ConsumedSince (noteFoundToken last (.findEnrollToken tokenHash) outcome.1) []
      outcome.2 := by
  intro outcome
  constructor
  · intro row looked unused
    rcases perform_cases env (.findEnrollToken tokenHash) db with
      ⟨failure, performed⟩ | ⟨found, db', _, effect, performed⟩
    · simp only [outcome, performed, noteFoundToken] at looked
      cases looked
    · simp only [outcome, performed, noteFoundToken] at looked ⊢
      rcases reading_same effect with ⟨rfl, answered⟩
      rw [looked] at answered
      exact ⟨row, (findEnrollToken_some answered).1, rfl, Or.inl unused⟩
  · intro row _ impossible
    cases impossible

end ConsumedSince

theorem tokenRecorder_sound :
    tokenRecorder.Sound exec ConsumesFound ConsumedSince := by
  constructor
  · intro env stmt last consumed db permitted since
    by_cases looks : stmt.looksForToken = true
    · cases stmt <;> try cases looks
      next tokenHash => exact consumedSince_lookup last env tokenHash db
    · have unnoted :
          tokenRecorder.note last stmt (Program.perform exec env stmt db).1 =
            none := by
        cases stmt <;> first | rfl | exact absurd rfl looks
      have renewed :
          tokenRecorder.renewed true consumed stmt db
            (Program.perform exec env stmt db) =
          logConsumed consumed stmt db (Program.perform exec env stmt db) :=
            if_neg looks
      rw [unnoted, renewed]
      refine ⟨?_, (consumedSince_log since env stmt).sound⟩
      intro row impossible
      cases impossible
  · intro env stmt mover moved last consumed db _ _ since
    exact consumedSince_log since env stmt

abbrev RecordedEnrolls :=
  Recorded Stmt.Res DbError (Fault PkiError) EnrollResult Db
    (Option EnrollTokenRow) (List Uuid)

/-- No call has consumed the token since this one looked it up. -/
def ConsumesUndisturbed (recorded : RecordedEnrolls) (label : Nat × Env) : Prop :=
  recorded.pool.Guarded
    (fun env stmt _ => env.fault = none ->
      forall tokenId, stmt.consumedToken = some tokenId ->
        tokenId ∉ recorded.since label.1)
    label

/-- Where the records are right, a token is unused exactly if it was not consumed
since the lookup. -/
theorem consumesUndisturbed_iff (recorded : RecordedEnrolls) (label : Nat × Env)
    (records : recorded.Records tokenRecorder ConsumesFound ConsumedSince) :
    ConsumesUndisturbed recorded label <->
      recorded.pool.Guarded ConsumesUnused label := by
  rw [ConsumesUndisturbed, Pool.guarded_iff, Pool.guarded_iff]
  cases turn : recorded.pool.threads[label.1]? with
  | none => rfl
  | some program =>
      cases program with
      | done result => rfl
      | fail error => rfl
      | call stmt next =>
          have since := records.sees label.1
          have permitted := records.follows.turn turn
          apply imp_congr_right
          intro _
          constructor
          · intro undisturbed row member consumes
            rcases permitted row.id consumes with ⟨found, looked, sameId, unused⟩
            rcases since.complete found looked unused with
              ⟨current, here, itsId, state⟩
            rw [sameId] at itsId state
            have same := Table.eq_of_key EnrollTokenRow.id_separates
              recorded.pool.store.enrollTokens here member itsId
            rw [← same]
            exact state.resolve_right (undisturbed row.id consumes)
          · intro guard tokenId consumes logged
            rcases permitted tokenId consumes with ⟨found, looked, sameId, unused⟩
            rcases since.complete found looked unused with
              ⟨current, here, itsId, _⟩
            rw [sameId] at itsId
            have used := since.sound current here (itsId ▸ logged)
            rw [guard current here (itsId ▸ consumes)] at used
            cases used

/-- The updates that consume a token find it unused exactly if none comes after
another one for the token since its call looked. -/
theorem consumesUnused_iff_undisturbed (ctx : EnrollContext)
    (calls : List EnrollCall) (db : Db) (labels : List (Nat × Env)) :
    Meets (Recorded.step tokenRecorder exec) ConsumesUndisturbed
        (Recorded.start tokenRecorder none (EnrollPool.start ctx calls db))
          labels <->
      Meets (Pool.step exec) (Pool.Guarded ConsumesUnused)
        (EnrollPool.start ctx calls db)
        labels := by
  apply Recorded.meets_iff_guarded tokenRecorder_sound consumesUndisturbed_iff
  constructor
  · intro index program present
    rcases List.mem_map.mp (List.mem_of_getElem? present) with ⟨call, _, rfl⟩
    exact processEnroll_consumesFound ctx call none
  · intro index
    constructor
    · intro row impossible
      cases impossible
    · intro row _ impossible
      cases impossible

end Complyx
