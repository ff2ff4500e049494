import Complyx.Grpc.Mediation

namespace Complyx

open Transition Relational

/-!
# Locking an agent out

An administrator disables an agent or revokes its certificate while requests are
under way.  A request that has not asked yet gets nowhere, as long as nothing undoes
the decision: the agent must not be enabled again, and the row with the serial must
not be dropped.  A request that has asked already goes on.  Enrolling again leaves a
disabled agent disabled, since the row of its address keeps the column.
-/

/-- No row lets the agent in. -/
def DisabledIn (agentId : Uuid) (db : Db) : Prop :=
  forall row, row ∈ db.agents.rows -> row.id = agentId -> row.enabled = false

/-- The statement enables the agent, or draws its identifier for a new one. -/
def Stmt.MayEnable (env : Env) (agentId : Uuid) : Stmt -> Prop
  | .setEnabled other enabled => other = agentId ∧ enabled = true
  | .upsertAgent _ => env.fresh 0 = agentId
  | _ => False

instance (env : Env) (agentId : Uuid) (stmt : Stmt) :
    Decidable (stmt.MayEnable env agentId) := by
  cases stmt <;> unfold Stmt.MayEnable <;> infer_instance

/-- The statement drops the certificate with the serial. -/
def Stmt.Drops (serial : String) (db : Db) : Stmt -> Prop
  | .storeCert agentId _ _ =>
      Exists fun row => row ∈ db.agentCerts.rows ∧ row.serial = serial ∧
        row.agentId = agentId
  | .deleteAgent agentId =>
      Exists fun row => row ∈ db.agentCerts.rows ∧ row.serial = serial ∧
        row.agentId = agentId
  | _ => False

instance (serial : String) (db : Db) (stmt : Stmt) :
    Decidable (stmt.Drops serial db) := by
  cases stmt <;> unfold Stmt.Drops <;> infer_instance

/-! ## One statement -/

section Statement

variable {env : Env} {agentId : Uuid} {db db' : Db}

/-- A registration enables no row that was there. -/
theorem upsertAgent_enabled {data : UpsertAgentData} {registered : Uuid}
    (accepted : upsertAgent env data db = .ok (registered, db')) {row : AgentRow}
    (member : row ∈ db'.agents.rows) :
    row.id = env.fresh 0 ∨ Exists fun old => old ∈ db.agents.rows ∧
      row.id = old.id ∧ row.enabled = old.enabled := by
  rcases upsertAgent_cases accepted with
    ⟨change, rows, same⟩ | ⟨new, rows, newId, _⟩
  · rw [rows] at member
    rcases List.mem_map.mp member with ⟨before, beforeMember, rfl⟩
    refine Or.inr ⟨before, beforeMember, ?_⟩
    split
    · exact ⟨(same before).1, (same before).2.2⟩
    · exact ⟨rfl, rfl⟩
  · rw [rows] at member
    rcases List.mem_append.mp member with before | last
    · exact Or.inr ⟨row, before, rfl, rfl⟩
    · rw [List.mem_singleton.mp last]
      exact Or.inl newId

theorem DisabledIn.of_same (disabled : DisabledIn agentId db)
    (same : db'.agents = db.agents) :
    DisabledIn agentId db' := by
  intro row member
  rw [same] at member
  exact disabled row member

theorem perform_disabled (stmt : Stmt) (disabled : DisabledIn agentId db)
    (refused : ¬ stmt.MayEnable env agentId) :
    DisabledIn agentId (Program.perform exec env stmt db).2 := by
  have frame := perform_frame env stmt db
  rcases perform_cases env stmt db with
    ⟨_, performed⟩ | ⟨value, db', _, effect, performed⟩
  · rw [performed]
    exact disabled
  rw [performed] at frame ⊢
  cases stmt with
  | setEnabled other enabled =>
      cases effect
      intro row member here
      rcases List.mem_map.mp member with ⟨before, beforeMember, rfl⟩
      by_cases mine : before.id = other
      · rw [if_pos mine] at here ⊢
        by_contra enables
        exact refused ⟨mine.symm.trans here, Bool.not_eq_false _ ▸ enables⟩
      · rw [if_neg mine] at here ⊢
        exact disabled before beforeMember here
  | upsertAgent data =>
      intro row member here
      rcases upsertAgent_enabled effect member with
        new | ⟨old, oldMember, sameId, sameEnabled⟩
      · exact absurd (new.symm.trans here) refused
      · rw [sameEnabled]
        exact disabled old oldMember (sameId.symm.trans here)
  | deleteAgent other =>
      cases effect
      intro row member
      exact disabled row (mem_deleteAgent.mp member).1
  | updateLatestConnection other =>
      cases effect
      intro row member here
      rcases List.mem_map.mp member with ⟨before, beforeMember, rfl⟩
      split at here
      · next mine =>
        rw [if_pos mine]
        exact disabled before beforeMember here
      · next other =>
        rw [if_neg other]
        exact disabled before beforeMember here
  | _ => exact disabled.of_same (frame.agents rfl)

theorem perform_revoked {serial : String} (stmt : Stmt)
    (marked : revoked serial db = true) (kept : ¬ stmt.Drops serial db) :
    revoked serial (Program.perform exec env stmt db).2 = true := by
  have frame := perform_frame env stmt db
  rcases revoked_iff.mp marked with ⟨row, member, sameSerial, set⟩
  rcases perform_cases env stmt db with
    ⟨_, performed⟩ | ⟨value, db', _, effect, performed⟩
  · rw [performed]
    exact marked
  rw [performed] at frame ⊢
  cases stmt with
  | storeCert agentId certPem stored =>
      have other : row.agentId ≠ agentId :=
        fun mine => kept ⟨row, member, sameSerial, mine⟩
      rcases storeCert_stored effect with ⟨_, text, _, effect⟩
      exact revoked_iff.mpr ⟨row, (effect.rows row).mpr (Or.inl ⟨member, other⟩),
        sameSerial, set⟩
  | deleteAgent agentId =>
      have other : row.agentId ≠ agentId :=
        fun mine => kept ⟨row, member, sameSerial, mine⟩
      cases effect
      exact revoked_iff.mpr
        ⟨row, List.mem_filter.mpr ⟨member, decide_eq_true other⟩, sameSerial, set⟩
  | revokeCert agentId =>
      cases effect
      by_cases mine : row.agentId = agentId
      · exact revoked_iff.mpr
          ⟨_, mem_revokeCert.mpr (Or.inr ⟨row, member, mine, rfl⟩),
            sameSerial, rfl⟩
      · exact revoked_iff.mpr ⟨row, mem_revokeCert.mpr (Or.inl ⟨member, mine⟩),
          sameSerial, set⟩
  | _ =>
      have same := frame.agentCerts rfl
      exact revoked_iff.mpr ⟨row, same ▸ member, sameSerial, set⟩

end Statement

/-! ## Runs of the server -/

/-- What every statement of the run must satisfy. -/
def StmtGuard (guard : Env -> Stmt -> Db -> Prop) (env : Env × Instant) :
    Stmt ⊕ OrchestratorOp -> Server -> Prop
  | .inl stmt, server => guard env.1 stmt server.1
  | .inr _, _ => True

instance (guard : Env -> Stmt -> Db -> Prop)
    [forall env stmt db, Decidable (guard env stmt db)] (env : Env × Instant)
    (op : Stmt ⊕ OrchestratorOp) (server : Server) :
    Decidable (StmtGuard guard env op server) := by
  cases op <;> unfold StmtGuard <;> infer_instance

/-- A property of the database that the guarded statements keep holds along the
run. -/
theorem always_database {guard : Env -> Stmt -> Db -> Prop}
    {property : Db -> Prop}
    (kept : forall env stmt db, property db -> guard env stmt db ->
      property (Program.perform exec env stmt db).2)
    {pool : ServerPool} (holds : property pool.store.1)
    {labels : List (Nat × (Env × Instant))}
    (meets : Meets (Pool.step execServer) (Pool.Guarded (StmtGuard guard))
      pool labels) :
    Always (Pool.step execServer) (fun pool => property pool.store.1) pool
      labels := by
  have step : forall (pool : ServerPool) label, property pool.store.1 ->
    pool.Guarded (StmtGuard guard) label ->
      property (pool.step execServer label).store.1 := by
    intro pool label holds guarded
    rcases Pool.step_cases execServer pool label with
      ⟨_, same⟩ | ⟨op, next, turn, stepped⟩
    · rw [same]
      exact holds
    · rw [stepped]
      have permitted := guarded op next turn
      cases op with
      | inl stmt =>
          dsimp only
          rw [Program.perform_inl]
          exact kept label.2.1 stmt pool.store.1 holds permitted
      | inr op =>
          dsimp only
          rw [Program.perform_inr]
          exact holds
  exact always_of_meets step holds meets

/-- What holds along the second part of a run holds in each turn that is not one
of the first part. -/
theorem late_turn {property : Db -> Prop} {pool : ServerPool}
    {before rest : List (Nat × (Env × Instant))}
    (remains : Always (Pool.step execServer) (fun pool => property pool.store.1)
      (after (Pool.step execServer) pool before) rest) {turn : ServerTurn}
    (member : turn ∈ pool.turns execServer (before ++ rest))
    (late : turn ∉ pool.turns execServer before) :
    property turn.pool.store.1 := by
  rw [Pool.turns_append] at member
  rcases List.mem_append.mp member with early | after
  · exact absurd early late
  · exact Pool.turns_of_always remains after

/-- The first thing a request with a certificate asks is whether it is revoked. -/
theorem request_asks (service : ComplyxAgent) (call : AgentCall)
    {library : CertLibrary} {peerCerts : Option (List Der)} {cn : String}
    {cert : X509Certificate}
    (peer : peerCertificate library peerCerts = .ok (cn, cert)) :
    Exists fun next =>
      service.request library peerCerts call =
        .call (.inl (.isRevoked cert.serialText)) next := by
  rw [ComplyxAgent.request, authInterceptor, peer]
  exact ⟨_, rfl⟩

/-- The agent `web-01` and the certificate it enrolled with. -/
def lockedDb : Db :=
  { sharedDb with
    agentCerts :=
      ⟨[⟨7, webRecord.certPem, "3a1ab1e2411bd2ba681fe77a13185b91a2f43736",
        newYear.nanos, none⟩], by decide⟩ }

/-- An administrator disables the agent and revokes its certificate. -/
def lockingOut : ServerCode (Fault Status) AgentReply :=
  .call (.inl (.setEnabled 7 false)) fun _ =>
    .call (.inl (.revokeCert 7)) fun _ =>
      .fail (.panic "")

/-- Its heartbeat and its poll come in besides. -/
def lockedPool : ServerPool where
  threads := [.heartbeat ⟨"", 0⟩ newYear, .pollPolicies ⟨"", ""⟩].map (fun call =>
    nightService.request recordedContext.library
      (some [webRecord.der]) call) ++ [lockingOut]
  store := (lockedDb, Orchestrator.new 90)

/-- The heartbeat has found its certificate unrevoked when the administrator
comes. -/
def lockingTurns : List (Nat × (Env × Instant)) :=
  [0, 2, 2].map fun index => (index, quietly 51 0, 5)

theorem webRecord_peer : peerCertificate recordedContext.library
    (some [webRecord.der]) =
    .ok ("web-01", webRecord.csr.params.certificate webRecord.serial) := by
  rw [peerCertificate, webRecord_parsed]
  rfl

/-- A request that has not yet asked about its certificate when it is revoked is
never answered, and gets no further than the interceptor's questions, unless the
row with its serial is dropped. -/
theorem revoked_locked_out (service : ComplyxAgent) (library : CertLibrary)
    (peerCerts : Option (List Der)) (call : AgentCall) (pool : ServerPool)
    (index : Nat)
    (arrived : pool.threads[index]? =
      some (service.request library peerCerts call))
    (cn : String) (cert : X509Certificate)
    (peer : peerCertificate library peerCerts = .ok (cn, cert))
    (before : List (Nat × (Env × Instant)))
    (unasked : forall turn, turn ∈ pool.turns execServer before ->
      ¬ turn.Asks index (.inl (.isRevoked cert.serialText)))
    (marked :
      revoked cert.serialText (after (Pool.step execServer) pool before).store.1 =
        true)
    (rest : List (Nat × (Env × Instant)))
    (decided : Meets (Pool.step execServer)
      (Pool.Guarded (StmtGuard fun _ stmt db => ¬ stmt.Drops cert.serialText db))
      (after (Pool.step execServer) pool before) rest) :
    let last := after (Pool.step execServer) pool (before ++ rest)
    last.returned index = none ∧
      forall op next, last.threads[index]? = some (.call op next) ->
        InterceptorRead op := by
  have remains :=
    always_database (fun env stmt db => perform_revoked stmt) marked decided
  have refused : forall agentId,
      ¬ AdmittedIn (pool.turns execServer (before ++ rest)) library peerCerts
        index agentId := by
    rintro agentId ⟨cn', cert', peer', early, late, inOrder, ⟨hears, unmarked⟩, _⟩
    rw [peer] at peer'
    cases peer'
    have present : early ∈ pool.turns execServer (before ++ rest) :=
      inOrder.subset List.mem_cons_self
    have asked : early ∉ pool.turns execServer before :=
      fun member => unasked early member hears.toAsks
    have stillMarked :=
      @late_turn (fun db => revoked cert.serialText db = true) pool before rest
        remains early present asked
    rw [unmarked] at stillMarked
    cases stillMarked
  have credited := credited_run service call arrived (before ++ rest)
  constructor
  · cases returned :
        (after (Pool.step execServer) pool (before ++ rest)).returned index with
    | none => rfl
    | some reply =>
        rcases credited.returned returned with ⟨agentId, admitted⟩
        exact absurd admitted (refused agentId)
  · intro op next turn
    rcases credited.turn turn with read | ⟨agentId, _, admitted⟩
    · exact read
    · exact absurd admitted (refused agentId)

theorem poll_locked_out :
    let last :=
      after (Pool.step execServer) lockedPool (lockingTurns ++ heartbeatTurns)
    last.returned 1 = none ∧
      forall op next, last.threads[1]? = some (.call op next) ->
        InterceptorRead op := by
  have unasked : forall turn serial,
    turn ∈ lockedPool.turns execServer lockingTurns ->
      ¬ turn.Asks 1 (.inl (.isRevoked serial)) := by
    intro turn serial member asks
    have others : forall turn, turn ∈ lockedPool.turns execServer lockingTurns ->
        turn.index ≠ 1 := by
      decide +kernel
    exact others turn member asks.mine
  exact revoked_locked_out nightService recordedContext.library
    (some [webRecord.der])
    (.pollPolicies ⟨"", ""⟩) lockedPool 1 rfl "web-01" _ webRecord_peer
      lockingTurns
    (fun turn => unasked turn _) (by decide +kernel) heartbeatTurns
      (by decide +kernel)

end Complyx
