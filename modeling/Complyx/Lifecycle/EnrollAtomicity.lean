import Complyx.Pki.Samples

namespace Complyx

open Transition

/-!
# What a failed enrolment leaves behind

The token is consumed before the address is parsed, the agent is registered
before the request is signed, and nothing takes either back.  An enrolment
therefore leaves the tables as they were in two cases only: it fails before
its token is consumed, or it does not fail.  A panic is no error the caller
receives.
-/

/-- The three tables of an enrolment are as before, and a corrected request
with the same token passes where it did. -/
structure Undone (ctx : EnrollContext) (db db' : Db) : Prop where
  enrollTokens : db'.enrollTokens = db.enrollTokens
  agents : db'.agents = db.agents
  agentCerts : db'.agentCerts = db.agentCerts
  retry : forall call envs row, TokenAccepted ctx call envs db row ->
    TokenAccepted ctx call envs db' row

/-- An enrolment that returns an error has changed nothing. -/
def AllOrNothing (ctx : EnrollContext) (db : Db)
    (outcome : Except (Fault PkiError) EnrollResult × Db) : Prop :=
  forall failure, outcome.1 = .error (.error failure) -> Undone ctx db outcome.2

theorem Undone.refl (ctx : EnrollContext) (db : Db) : Undone ctx db db where
  enrollTokens := rfl
  agents := rfl
  agentCerts := rfl
  retry := fun _ _ _ accepted => accepted

variable {ctx : EnrollContext} {call : EnrollCall} {envs : Nat -> Env} {db : Db}

/-- A consumed token shows in the table. -/
theorem TokenAccepted.spent_ne {row : EnrollTokenRow}
    (accepted : TokenAccepted ctx call envs db row) :
    (spent envs row db).enrollTokens ≠ db.enrollTokens := by
  intro same
  have member := (findEnrollToken_some accepted.found).1
  have still : row ∈ (spent envs row db).enrollTokens.rows := same ▸ member
  rcases mem_consumeEnrollToken.mp still with ⟨old, _, equal⟩
  have unused := accepted.unused
  split at equal
  · rw [equal] at unused
    cases unused
  · next elsewhere =>
    rw [equal] at elsewhere
    exact elsewhere rfl

/-- Without a passing token nothing is written. -/
theorem Enrollment.refused_same
    {outcome : Except (Fault PkiError) EnrollResult × Db}
    (ended : Enrollment ctx call envs db outcome)
    (rejected : forall row, ¬ TokenAccepted ctx call envs db row) :
    outcome.2 = db := by
  cases ended with
  | refused failure _ => rfl
  | noAddress row failure accepted unparsed =>
      exact absurd accepted (rejected row)
  | unregistered row ip failure accepted parsed failed =>
      exact absurd accepted (rejected row)
  | unsigned row ip agentId registered failure accepted parsed upserted failed =>
      exact absurd accepted (rejected row)
  | unstored row ip agentId registered certPem serial failure accepted parsed
      upserted signed failed =>
      exact absurd accepted (rejected row)
  | issued row ip agentId registered final certPem serial accepted parsed upserted
      signed stored =>
      exact absurd accepted (rejected row)

/-- The steps at which an enrolment that consumed its token ends. -/
theorem Enrollment.after_token
    {outcome : Except (Fault PkiError) EnrollResult × Db}
    (ended : Enrollment ctx call envs db outcome) :
    (forall row, ¬ TokenAccepted ctx call envs db row) ∨
    (Exists fun failure => outcome.1 = .error (.error failure) ∧
      outcome.2.enrollTokens ≠ db.enrollTokens) ∨
    (Exists fun ip => Exists fun message => Registers ctx call envs db ip ∧
      ctx.sign call = .error (.panic message) ∧
      outcome.1 = .error (.panic message)) ∨
    (Exists fun result => outcome.1 = .ok result) := by
  cases ended with
  | refused failure rejected => exact Or.inl rejected
  | noAddress row failure accepted unparsed =>
      right; left
      unfold EnrollContext.address at unparsed
      cases read : ctx.parseIp call.request.remoteIp with
      | ok ip =>
          rw [read] at unparsed
          cases unparsed
      | error reason =>
          rw [read] at unparsed
          cases unparsed
          exact ⟨_, rfl, accepted.spent_ne⟩
  | unregistered row ip failure accepted parsed failed =>
      exact Or.inr (Or.inl ⟨_, rfl, accepted.spent_ne⟩)
  | unsigned row ip agentId registered failure accepted parsed upserted failed =>
      right
      have tokens := (Stmt.effect_frame (exec_ok upserted).2).enrollTokens rfl
      cases failure with
      | error reason =>
          left
          refine ⟨reason, rfl, ?_⟩
          simp only [tokens]
          exact accepted.spent_ne
      | panic message =>
          right; left
          exact ⟨ip, message, (registers_of_upserted accepted parsed upserted).1,
            failed, rfl⟩
  | unstored row ip agentId registered certPem serial failure accepted parsed
      upserted signed failed =>
      right; left
      have tokens := (Stmt.effect_frame (exec_ok upserted).2).enrollTokens rfl
      refine ⟨_, rfl, ?_⟩
      simp only [tokens]
      exact accepted.spent_ne
  | issued row ip agentId registered final certPem serial accepted parsed upserted
      signed stored =>
      exact Or.inr (Or.inr (Or.inr ⟨_, rfl⟩))

/-- An enrolment that reaches a panicking signature returns no error. -/
theorem Enrollment.panics {outcome : Except (Fault PkiError) EnrollResult × Db}
    (ended : Enrollment ctx call envs db outcome) {ip : IpNetwork}
    (registers : Registers ctx call envs db ip) {message : String}
    (panicked : ctx.sign call = .error (.panic message)) :
    outcome.1 = .error (.panic message) := by
  cases ended with
  | refused failure rejected =>
      rcases registers.token with ⟨row, accepted⟩
      exact absurd accepted (rejected row)
  | noAddress row failure accepted unparsed =>
      rw [registers.address] at unparsed
      cases unparsed
  | unregistered row ip' failure accepted parsed failed =>
      have sameIp := Except.ok.inj (parsed.symm.trans registers.address)
      subst sameIp
      rcases upserted_of_registers registers row with ⟨result, upserted⟩
      rw [upserted] at failed
      cases failed
  | unsigned row ip' agentId registered failure accepted parsed upserted failed =>
      rw [panicked] at failed
      exact congrArg Except.error (Except.error.inj failed).symm
  | unstored row ip' agentId registered certPem serial failure accepted parsed
      upserted signed failed =>
      rw [panicked] at signed
      cases signed
  | issued row ip' agentId registered final certPem serial accepted parsed
      upserted signed stored =>
      rw [panicked] at signed
      cases signed

/-- An enrolment returns an error with everything undone exactly if its token
does not pass, if it meets every condition of every step, or if it panics. -/
theorem all_or_nothing_iff (ctx : EnrollContext) (call : EnrollCall)
    (envs : Nat -> Env) (db : Db) :
    AllOrNothing ctx db (Program.run exec (processEnroll ctx call) envs db) <->
      (forall row, ¬ TokenAccepted ctx call envs db row) ∨
      (Exists fun ip => Exists fun certPem =>
        Completes ctx call envs db ip certPem) ∨
      (Exists fun ip => Exists fun message => Registers ctx call envs db ip ∧
        ctx.sign call = .error (.panic message)) := by
  have ended := run_processEnroll ctx call envs db
  constructor
  · intro undone
    rcases ended.after_token with
      rejected | ⟨failure, failed, changed⟩ | ⟨ip, message, registers,
        panicked, _⟩ |
      ⟨result, success⟩
    · exact Or.inl rejected
    · exact absurd (undone failure failed).enrollTokens changed
    · exact Or.inr (Or.inr ⟨ip, message, registers, panicked⟩)
    · rcases ended.agentCerts with ⟨_, failed⟩ | ⟨ip, certPem, completes, _⟩
      · exact absurd success (failed result)
      · exact Or.inr (Or.inl ⟨ip, certPem, completes⟩)
  · rintro (rejected | ⟨ip, certPem, completes⟩ | ⟨ip, message, registers,
      panicked⟩) failure failed
    · rw [ended.refused_same rejected]
      exact Undone.refl ctx db
    · rcases ended.ok_of_completes completes with ⟨result, success⟩
      rw [success] at failed
      cases failed
    · rw [ended.panics registers panicked] at failed
      cases failed

/-- A request whose address does not parse. -/
def misaddressed : EnrollCall :=
  recordedCall firstToken webRecord.csrPem "web-01" "web-01.internal"
    firstSerialId

/-- It returns an error and its token is used up. -/
theorem address_error_spends_token :
    ¬ AllOrNothing recordedContext invitedDb
      (Program.run exec (processEnroll recordedContext misaddressed)
        (quietly 7) invitedDb) := by
  intro undone
  have failed :
      (Program.run exec (processEnroll recordedContext misaddressed)
        (quietly 7) invitedDb).1 =
      .error (.error (.invalidIp "invalid address: web-01.internal")) := by
    decide +kernel
  have used :
      (Program.run exec (processEnroll recordedContext misaddressed)
        (quietly 7) invitedDb).2.enrollTokens.rows.map
      EnrollTokenRow.usedAt = [some newYear.nanos, none] := by
    decide +kernel
  rw [(undone _ failed).enrollTokens] at used
  cases used

end Complyx
