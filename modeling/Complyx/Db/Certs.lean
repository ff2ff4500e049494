import Complyx.Db.Agents

namespace Complyx

open Relational

/-!
# Queries on agent certificates and enrolment tokens

`agent_certs` has one row for each agent at most, so storing a certificate
replaces the previous one together with its revocation mark.  A serial that no
row holds counts as not revoked.
-/

theorem AgentCertRow.agentId_separates (first second : AgentCertRow)
    (same : first.agentId = second.agentId) : first.Clash second :=
  Or.inl same

theorem AgentCertRow.serial_separates (first second : AgentCertRow)
    (same : first.serial = second.serial) : first.Clash second :=
  Or.inr same

/-! ## Storing -/

/-- `store_cert`.  A replaced certificate loses its revocation mark. -/
def storeCert (env : Env) (agentId : Uuid) (certPem serial : String) (db : Db) :
    Except DbError (Unit × Db) := do
  let certPem <- textParam certPem
  let serial <- varchar 64 serial
  match db.agentCerts.find AgentCertRow.agentId agentId with
  | some _ =>
      let agentCerts <- constrained "agent_certs"
        (db.agentCerts.update? fun row =>
          if row.agentId = agentId then
            { row with
              certPem := certPem, serial := serial, issuedAt := env.now,
              revokedAt := none }
          else row)
      return ((), { db with agentCerts := agentCerts })
  | none =>
      let agentCerts <- constrained "agent_certs" (db.agentCerts.insert?
        { agentId := agentId, certPem := certPem, serial := serial, issuedAt :=
          env.now, revokedAt := none })
      references "agent_certs" (db.hasAgent agentId)
      return ((), { db with agentCerts := agentCerts })

/-- The effect of storing: the agent's only row holds the new certificate,
unrevoked, and the rows of other agents are as before. -/
structure Stored (before later : Table AgentCertRow AgentCertRow.Clash)
    (now : Timestamp) (agentId : Uuid) (certPem serial : String) : Prop where
  rows : forall row, row ∈ later.rows <->
    (row ∈ before.rows ∧ row.agentId ≠ agentId) ∨
    row =
      { agentId := agentId, certPem := certPem, serial := serial, issuedAt :=
        now, revokedAt := none }

/-- The row that holds a new certificate. -/
def AgentCertRow.issued (now : Timestamp) (agentId : Uuid)
    (certPem serial : String) : AgentCertRow where
  agentId := agentId
  certPem := certPem
  serial := serial
  issuedAt := now
  revokedAt := none

/-- Storing writes over the agent's row, or adds one for an agent that exists. -/
inductive CertStep (env : Env) (agentId : Uuid) (certPem stored : String)
    (db : Db) : Db -> Prop where
  | replaced (old : AgentCertRow)
      (agentCerts : Table AgentCertRow AgentCertRow.Clash)
      (present : old ∈ db.agentCerts.rows ∧ old.agentId = agentId)
      (updated : agentCerts.rows = db.agentCerts.rows.map fun row =>
        if row.agentId = agentId then
          { row with
            certPem := certPem, serial := stored, issuedAt := env.now,
            revokedAt := none }
        else row) :
      CertStep env agentId certPem stored db { db with agentCerts := agentCerts }
  | added (agentCerts : Table AgentCertRow AgentCertRow.Clash)
      (absent : forall row, row ∈ db.agentCerts.rows -> row.agentId ≠ agentId)
      (inserted : agentCerts.rows =
        db.agentCerts.rows ++ [AgentCertRow.issued env.now agentId
          certPem stored])
      (agent : db.hasAgent agentId = true) :
      CertStep env agentId certPem stored db { db with agentCerts := agentCerts }

theorem storeCert_ok {env : Env} {agentId : Uuid} {certPem serial : String}
    {db db' : Db}
    (accepted : storeCert env agentId certPem serial db = .ok ((), db')) :
    hasNul certPem = false ∧ Exists fun stored => varchar 64 serial = .ok stored ∧
      CertStep env agentId certPem stored db db' := by
  unfold storeCert at accepted
  rcases bind_eq_ok.mp accepted with ⟨pem, pemOk, written⟩
  rcases bind_eq_ok.mp written with ⟨stored, serialOk, stepped⟩
  clear accepted written
  rcases textParam_ok pemOk with ⟨rfl, clean⟩
  refine ⟨clean, stored, serialOk, ?_⟩
  cases lookup : db.agentCerts.find AgentCertRow.agentId agentId with
  | some old =>
      rw [lookup] at stepped
      rcases bind_eq_ok.mp stepped with ⟨agentCerts, updated, returned⟩
      cases returned
      exact CertStep.replaced old agentCerts (Table.find_some lookup)
        (Table.update?_rows (constrained_ok updated))
  | none =>
      rw [lookup] at stepped
      rcases bind_eq_ok.mp stepped with ⟨agentCerts, inserted, checked⟩
      rcases bind_eq_ok.mp checked with ⟨_, referenced, returned⟩
      cases returned
      exact CertStep.added agentCerts (Table.find_none_iff.mp lookup)
        (Table.insert?_rows (constrained_ok inserted))
        (references_ok referenced)

theorem storeCert_stored {env : Env} {agentId : Uuid} {certPem serial : String}
    {db db' : Db}
    (accepted : storeCert env agentId certPem serial db = .ok ((), db')) :
    db' = { db with agentCerts := db'.agentCerts } ∧ Exists fun stored =>
      varchar 64 serial = .ok stored ∧
      Stored db.agentCerts db'.agentCerts env.now agentId certPem stored := by
  rcases storeCert_ok accepted with ⟨_, stored, serialOk, stepped⟩
  cases stepped with
  | replaced old agentCerts present updated =>
      refine ⟨rfl, stored, serialOk, ⟨?_⟩⟩
      intro row
      rw [updated, List.mem_map]
      constructor
      · rintro ⟨before, member, rfl⟩
        by_cases here : before.agentId = agentId
        · rw [if_pos here, here]
          exact Or.inr rfl
        · rw [if_neg here]
          exact Or.inl ⟨member, here⟩
      · rintro (⟨member, elsewhere⟩ | rfl)
        · exact ⟨row, member, if_neg elsewhere⟩
        · refine ⟨old, present.1, ?_⟩
          rw [if_pos present.2, present.2]
  | added agentCerts absent inserted agent =>
      refine ⟨rfl, stored, serialOk, ⟨?_⟩⟩
      intro row
      rw [inserted, List.mem_append, List.mem_singleton]
      constructor
      · rintro (member | new)
        · exact Or.inl ⟨member, absent row member⟩
        · exact Or.inr new
      · rintro (⟨member, _⟩ | new)
        · exact Or.inl member
        · exact Or.inr new

/-- Hexadecimal texts of up to sixty-four digits are stored as they are. -/
theorem varchar_hex {limit : Nat} {chars : List Char}
    (fits : chars.length ≤ limit)
    (digits : forall char, char ∈ chars -> Exists fun value => value < 16 ∧
      char = Encoding.hexDigit value) :
    varchar limit (String.ofList chars) = .ok (String.ofList chars) := by
  apply varchar_of_fits
  · exact hasNul_hex digits
  · rw [String.toList_ofList]
    exact fits

/-- When a certificate can be stored: the texts fit their columns, no other
agent holds the serial, and the agent exists or has a certificate already. -/
structure CertStorable (db : Db) (agentId : Uuid)
    (certPem serial : String) : Prop where
  pem : hasNul certPem = false
  serial : Exists fun stored => varchar 64 serial = .ok stored ∧
    forall row, row ∈ db.agentCerts.rows -> row.serial = stored ->
      row.agentId = agentId
  agent : (Exists fun row => row ∈ db.agentCerts.rows ∧ row.agentId = agentId) ∨
    db.hasAgent agentId = true

theorem storeCert_of_storable {agentId : Uuid} {certPem serial : String} {db : Db}
    (storable : CertStorable db agentId certPem serial) (env : Env) :
    Exists fun db' => storeCert env agentId certPem serial db =
      .ok ((), db') := by
  rcases storable.serial with ⟨stored, fits, unshared⟩
  have pemOk := textParam_of_clean storable.pem
  unfold storeCert
  rw [pemOk, fits]
  cases lookup : db.agentCerts.find AgentCertRow.agentId agentId with
  | some old =>
      have apart : (db.agentCerts.rows.map fun row =>
          if row.agentId = agentId then
            { row with
              certPem := certPem, serial := stored, issuedAt := env.now,
              revokedAt := none }
          else row).Pairwise fun first second =>
            ¬ AgentCertRow.Clash first second := by
        refine List.pairwise_map.mpr (db.agentCerts.distinct.imp_of_mem ?_)
        intro first second firstMember secondMember distinct clash
        by_cases firstHere : first.agentId = agentId
        · by_cases secondHere : second.agentId = agentId
          · exact distinct (Or.inl (firstHere.trans secondHere.symm))
          · rw [if_pos firstHere, if_neg secondHere] at clash
            rcases clash with sameAgent | sameSerial
            · exact secondHere (sameAgent.symm.trans firstHere)
            · exact secondHere (unshared second secondMember sameSerial.symm)
        · by_cases secondHere : second.agentId = agentId
          · rw [if_neg firstHere, if_pos secondHere] at clash
            rcases clash with sameAgent | sameSerial
            · exact firstHere (sameAgent.trans secondHere)
            · exact firstHere (unshared first firstMember sameSerial)
          · rw [if_neg firstHere, if_neg secondHere] at clash
            exact distinct clash
      simp only [bind, Except.bind, Table.update?,
        Table.ofRows?_of_distinct apart, constrained]
      exact ⟨_, rfl⟩
  | none =>
      have absent := Table.find_none_iff.mp lookup
      have present : db.hasAgent agentId = true := by
        rcases storable.agent with ⟨row, member, same⟩ | present
        · exact absurd same (absent row member)
        · exact present
      have insertable : (db.agentCerts.insert?
          ⟨agentId, certPem, stored, env.now, none⟩).isSome = true := by
        refine Table.insert?_isSome_iff.mpr ?_
        intro old member clash
        rcases clash with sameAgent | sameSerial
        · exact absent old member sameAgent
        · exact absent old member (unshared old member sameSerial)
      rcases Option.isSome_iff_exists.mp insertable with ⟨agentCerts, inserted⟩
      simp only [bind, Except.bind, inserted, constrained, references, present]
      exact ⟨_, rfl⟩

theorem storable_of_storeCert {env : Env} {agentId : Uuid}
    {certPem serial : String} {db db' : Db}
    (accepted : storeCert env agentId certPem serial db = .ok ((), db')) :
    CertStorable db agentId certPem serial := by
  rcases storeCert_stored accepted with ⟨_, stored, fits, effect⟩
  have newMember :=
    (effect.rows ⟨agentId, certPem, stored, env.now, none⟩).mpr (Or.inr rfl)
  rcases storeCert_ok accepted with ⟨clean, _, _, stepped⟩
  refine ⟨clean, ⟨stored, fits, ?_⟩, ?_⟩
  · intro row member same
    by_contra elsewhere
    have kept := (effect.rows row).mpr (Or.inl ⟨member, elsewhere⟩)
    have equal :=
      Table.eq_of_key AgentCertRow.serial_separates db'.agentCerts kept
        newMember same
    exact elsewhere (congrArg AgentCertRow.agentId equal)
  · cases stepped with
    | replaced old agentCerts present updated => exact Or.inl ⟨old, present⟩
    | added agentCerts absent inserted agent => exact Or.inr agent

/-! ## Reading and revoking -/

/-- `get_cert`. -/
def getCert (agentId : Uuid) (db : Db) : Option AgentCertRow :=
  db.agentCerts.find AgentCertRow.agentId agentId

theorem getCert_some_iff {agentId : Uuid} {db : Db} {row : AgentCertRow} :
    getCert agentId db = some row <-> row ∈ db.agentCerts.rows ∧
      row.agentId = agentId :=
  Table.find_eq_some_iff AgentCertRow.agentId_separates

/-- The answer of `is_revoked` on a serial without NUL characters. -/
def revoked (serial : String) (db : Db) : Bool :=
  ((db.agentCerts.find AgentCertRow.serial serial).map fun row =>
    row.revokedAt.isSome).getD false

/-- `is_revoked`. -/
def isRevoked (serial : String) (db : Db) : Except DbError Bool := do
  let serial <- textParam serial
  return revoked serial db

theorem isRevoked_of_clean {serial : String} (clean : hasNul serial = false)
    (db : Db) :
    isRevoked serial db = .ok (revoked serial db) := by
  simp only [isRevoked, textParam_of_clean clean, bind, Except.bind, pure,
    Except.pure]

theorem revoked_iff {serial : String} {db : Db} :
    revoked serial db = true <->
      Exists fun row => row ∈ db.agentCerts.rows ∧ row.serial = serial ∧
        row.revokedAt.isSome = true := by
  unfold revoked
  cases lookup : db.agentCerts.find AgentCertRow.serial serial with
  | none =>
      have absent := Table.find_none_iff.mp lookup
      constructor
      · intro impossible
        cases impossible
      · rintro ⟨row, member, same, _⟩
        exact absurd same (absent row member)
  | some row =>
      have found := Table.find_some lookup
      constructor
      · intro marked
        exact ⟨row, found.1, found.2, marked⟩
      · rintro ⟨other, member, same, marked⟩
        have equal :=
          Table.eq_of_key AgentCertRow.serial_separates db.agentCerts
            found.1 member
            (found.2.trans same.symm)
        rw [equal]
        exact marked

private theorem revokeCert_reflects (now : Timestamp) (agentId : Uuid)
    (first second : AgentCertRow)
    (clash : AgentCertRow.Clash
      (if first.agentId = agentId then { first with revokedAt := some now }
        else first)
      (if second.agentId = agentId then { second with revokedAt := some now }
        else second)) :
    first.Clash second := by
  split at clash <;> split at clash <;> exact clash

/-- `revoke_cert`.  An agent without a certificate is no error here. -/
def revokeCert (env : Env) (agentId : Uuid) (db : Db) : Db :=
  { db with
    agentCerts := db.agentCerts.map
      (fun row =>
        if row.agentId = agentId then { row with revokedAt := some env.now }
        else row)
      (revokeCert_reflects env.now agentId) }

theorem mem_revokeCert {env : Env} {agentId : Uuid} {db : Db}
    {row : AgentCertRow} :
    row ∈ (revokeCert env agentId db).agentCerts.rows <->
      (row ∈ db.agentCerts.rows ∧ row.agentId ≠ agentId) ∨
        Exists fun old => old ∈ db.agentCerts.rows ∧ old.agentId = agentId ∧
          row = { old with revokedAt := some env.now } := by
  simp only [revokeCert, Table.map_rows, List.mem_map]
  constructor
  · rintro ⟨old, member, rfl⟩
    by_cases here : old.agentId = agentId
    · rw [if_pos here]
      exact Or.inr ⟨old, member, here, rfl⟩
    · rw [if_neg here]
      exact Or.inl ⟨member, here⟩
  · rintro (⟨member, elsewhere⟩ | ⟨old, member, here, rfl⟩)
    · exact ⟨row, member, if_neg elsewhere⟩
    · exact ⟨old, member, if_pos here⟩

/-! ## Enrolment tokens -/

theorem EnrollTokenRow.tokenHash_separates (first second : EnrollTokenRow)
    (same : first.tokenHash = second.tokenHash) : first.Clash second :=
  Or.inr same

theorem EnrollTokenRow.id_separates (first second : EnrollTokenRow)
    (same : first.id = second.id) : first.Clash second :=
  Or.inl same

/-- `find_enroll_token`. -/
def findEnrollToken (tokenHash : String) (db : Db) :
    Except DbError (Option EnrollTokenRow) := do
  let tokenHash <- textParam tokenHash
  return db.enrollTokens.find EnrollTokenRow.tokenHash tokenHash

theorem findEnrollToken_some {tokenHash : String} {db : Db} {row : EnrollTokenRow}
    (found : findEnrollToken tokenHash db = .ok (some row)) :
    row ∈ db.enrollTokens.rows ∧ row.tokenHash = tokenHash := by
  rcases bind_eq_ok.mp found with ⟨text, accepted, found⟩
  rw [(textParam_ok accepted).1] at found
  exact Table.find_some (Except.ok.inj found)

private theorem consumeEnrollToken_reflects (now : Timestamp) (tokenId : Uuid)
    (first second : EnrollTokenRow)
    (clash : EnrollTokenRow.Clash
      (if first.id = tokenId then { first with usedAt := some now } else first)
      (if second.id = tokenId then { second with usedAt := some now }
        else second)) :
    first.Clash second := by
  split at clash <;> split at clash <;> exact clash

/-- `consume_enroll_token`.  The update asks for the identifier alone and
reports nothing back. -/
def consumeEnrollToken (env : Env) (tokenId : Uuid) (db : Db) : Db :=
  { db with
    enrollTokens := db.enrollTokens.map
      (fun row => if row.id = tokenId then { row with usedAt := some env.now }
        else row)
      (consumeEnrollToken_reflects env.now tokenId) }

theorem mem_consumeEnrollToken {env : Env} {tokenId : Uuid} {db : Db}
    {row : EnrollTokenRow} :
    row ∈ (consumeEnrollToken env tokenId db).enrollTokens.rows <->
      Exists fun old => old ∈ db.enrollTokens.rows ∧
        row = if old.id = tokenId then { old with usedAt := some env.now }
          else old := by
  simp only [consumeEnrollToken, Table.map_rows, List.mem_map, eq_comm]

end Complyx
