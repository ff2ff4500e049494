import Complyx.Db.Schema

namespace Complyx

open Relational

/-!
# Queries on agents

An agent row is found by its primary key, by its hostname or, at enrolment, by
its address.  Only the address is unique besides the key, so the hostname
query has to choose among the matching rows.

Each writing query comes with the membership form of its effect: which rows
the next state holds, in terms of the rows before.
-/

/-- A statement that violates a uniqueness constraint fails as a whole. -/
def constrained {α : Type} (table : String) : Option α -> Except DbError α
  | some value => .ok value
  | none => .error (.query (.uniqueViolation table))

theorem constrained_ok {α : Type} {table : String} {result : Option α} {value : α}
    (accepted : constrained table result = .ok value) : result = some value := by
  cases result with
  | some inner => exact congrArg some (Except.ok.inj accepted)
  | none => cases accepted

/-- A foreign key that no row satisfies. -/
def references (table : String) (present : Bool) : Except DbError Unit :=
  if present then .ok () else .error (.query (.foreignKeyViolation table))

theorem references_ok {table : String} {present : Bool}
    (accepted : references table present = .ok ()) : present = true := by
  unfold references at accepted
  split at accepted
  · assumption
  · cases accepted

def Db.hasAgent (db : Db) (agentId : Uuid) : Bool :=
  (db.agents.find AgentRow.id agentId).isSome

theorem AgentRow.id_separates (first second : AgentRow)
    (same : first.id = second.id) : first.Clash second :=
  Or.inl same

theorem AgentRow.ip_separates (first second : AgentRow)
    (same : first.ip = second.ip) : first.Clash second :=
  Or.inr same

theorem Db.hasAgent_iff {db : Db} {agentId : Uuid} :
    db.hasAgent agentId = true <-> Exists fun row => row ∈ db.agents.rows ∧
      row.id = agentId := by
  rw [hasAgent, Option.isSome_iff_exists]
  constructor
  · rintro ⟨row, found⟩
    exact ⟨row, Table.find_some found⟩
  · rintro ⟨row, found⟩
    exact ⟨row, (Table.find_eq_some_iff AgentRow.id_separates).mpr found⟩

/-! ## Looking an agent up by its hostname -/

/-- `get_agent_by_hostname`. -/
def getAgentByHostname (env : Env) (hostname : String) (db : Db) :
    Except DbError (Option AgentRow) := do
  let hostname <- textParam hostname
  return limitOne env.pick
    (db.agents.rows.filter fun row => row.hostname = some hostname)

theorem getAgentByHostname_some {env : Env} {hostname : String} {db : Db}
    {row : AgentRow}
    (found : getAgentByHostname env hostname db = .ok (some row)) :
    row ∈ db.agents.rows ∧ row.hostname = some hostname := by
  unfold getAgentByHostname at found
  cases accepted : textParam hostname with
  | error failure =>
      rw [accepted] at found
      cases found
  | ok text =>
      have same := (textParam_ok accepted).1
      subst text
      rw [accepted] at found
      have member := List.mem_filter.mp (limitOne_mem (Except.ok.inj found))
      exact ⟨member.1, of_decide_eq_true member.2⟩

/-! ## Registration -/

structure UpsertAgentData where
  ip : IpNetwork
  hostname : Option String
  osName : Option String
  osVersion : Option String
  deriving DecidableEq

/-- A nullable VARCHAR parameter. -/
def varcharOpt (limit : Option Nat) :
    Option String -> Except DbError (Option String)
  | none => .ok none
  | some text => some <$> (match limit with
      | some bound => varchar bound text
      | none => textParam text)

/-- Changes that leave the identifier and the address alone meet no constraint. -/
private theorem agentClash_of_keys {change : AgentRow -> AgentRow}
    (sameId : forall row, (change row).id = row.id)
    (sameIp : forall row, (change row).ip = row.ip) (first second : AgentRow)
    (clash : (change first).Clash (change second)) : first.Clash second := by
  rw [AgentRow.Clash, sameId, sameId, sameIp, sameIp] at clash
  exact clash

private theorem ite_field {β : Type} {field : AgentRow -> β}
    {test : AgentRow -> Prop} [DecidablePred test] {change : AgentRow -> AgentRow}
    (same : forall row, field (change row) = field row) (row : AgentRow) :
    field (if test row then change row else row) = field row := by
  by_cases here : test row
  · rw [if_pos here]
    exact same row
  · rw [if_neg here]

/-- The columns `upsert_agent` writes in a row that has the address already. -/
def AgentRow.refresh (now : Timestamp) (hostname osName osVersion : Option String)
    (row : AgentRow) : AgentRow :=
  { row with
    hostname := hostname, osName := osName, osVersion := osVersion,
    latestConnection := now }

/-- `upsert_agent`.  The conflict key is the address, and the identifier of a
row that is updated stays. -/
def upsertAgent (env : Env) (data : UpsertAgentData) (db : Db) :
    Except DbError (Uuid × Db) := do
  let hostname <- varcharOpt none data.hostname
  let osName <- varcharOpt (some 50) data.osName
  let osVersion <- varcharOpt (some 10) data.osVersion
  match db.agents.find AgentRow.ip data.ip with
  | some old =>
      let agents := db.agents.map
        (fun row =>
          if row.ip = data.ip then row.refresh env.now hostname osName osVersion
          else row)
        (agentClash_of_keys (ite_field fun _ => rfl) (ite_field fun _ => rfl))
      return (old.id, { db with agents := agents })
  | none =>
      let agents <- constrained "agents" (db.agents.insert?
        { id := env.fresh 0, ip := data.ip, hostname := hostname, osName := osName
          osVersion := osVersion, installDate := env.now,
          latestConnection := env.now, enabled := true })
      return (env.fresh 0, { db with agents := agents })

theorem varcharOpt_none_ok {text text' : Option String}
    (accepted : varcharOpt none text = .ok text') :
    text' = text := by
  cases text with
  | none => exact (Except.ok.inj accepted).symm
  | some inner =>
      cases checked : textParam inner with
      | error failure =>
          simp only [varcharOpt, checked, Functor.map, Except.map] at accepted
          cases accepted
      | ok value =>
          simp only [varcharOpt, checked, Functor.map, Except.map] at accepted
          rw [← Except.ok.inj accepted, (textParam_ok checked).1]

/-- The effect of a registration: exactly one row has the address afterwards,
under the identifier returned and the hostname given, and every other row is
as before. -/
structure Registered (before later : Table AgentRow AgentRow.Clash)
    (data : UpsertAgentData) (agentId : Uuid) : Prop where
  rows : Exists fun row => row.id = agentId ∧ row.ip = data.ip ∧
    row.hostname = data.hostname ∧
    forall other, other ∈ later.rows <->
      (other ∈ before.rows ∧ other.ip ≠ data.ip) ∨ other = row
  kept : forall old, old ∈ before.rows -> old.ip = data.ip -> old.id = agentId

private theorem mem_map_update {rows : List AgentRow} {ip : IpNetwork}
    {old : AgentRow} (change : AgentRow -> AgentRow)
    (unique : forall row, row ∈ rows -> row.ip = ip -> row = old)
    (member : old ∈ rows) (at_ip : old.ip = ip) (other : AgentRow) :
    other ∈ rows.map (fun row => if row.ip = ip then change row else row) <->
      (other ∈ rows ∧ other.ip ≠ ip) ∨ other = change old := by
  rw [List.mem_map]
  constructor
  · rintro ⟨row, rowMember, rfl⟩
    by_cases here : row.ip = ip
    · rw [if_pos here, unique row rowMember here]
      exact Or.inr rfl
    · rw [if_neg here]
      exact Or.inl ⟨rowMember, here⟩
  · rintro (⟨rowMember, elsewhere⟩ | rfl)
    · exact ⟨other, rowMember, if_neg elsewhere⟩
    · exact ⟨old, member, if_pos at_ip⟩

/-- The texts of an accepted registration fit their columns. -/
theorem upsertAgent_texts {env : Env} {data : UpsertAgentData} {db : Db}
    {result : Uuid × Db} (accepted : upsertAgent env data db = .ok result) :
    Exists fun hostname => Exists fun osName => Exists fun osVersion =>
      varcharOpt none data.hostname = .ok hostname ∧
      varcharOpt (some 50) data.osName = .ok osName ∧
        varcharOpt (some 10) data.osVersion = .ok osVersion := by
  unfold upsertAgent at accepted
  rcases bind_eq_ok.mp accepted with ⟨hostname, hostnameOk, accepted⟩
  rcases bind_eq_ok.mp accepted with ⟨osName, osNameOk, accepted⟩
  rcases bind_eq_ok.mp accepted with ⟨osVersion, osVersionOk, _⟩
  exact ⟨hostname, osName, osVersion, hostnameOk, osNameOk, osVersionOk⟩

theorem upsertAgent_registered {env : Env} {data : UpsertAgentData} {db db' : Db}
    {agentId : Uuid} (accepted : upsertAgent env data db = .ok (agentId, db')) :
    db' = { db with agents := db'.agents } ∧
      Registered db.agents db'.agents data agentId := by
  rcases upsertAgent_texts accepted with
    ⟨hostname, osName, osVersion, hostnameOk, osNameOk, osVersionOk⟩
  unfold upsertAgent at accepted
  have sameHostname := varcharOpt_none_ok hostnameOk
  rw [hostnameOk, osNameOk, osVersionOk] at accepted
  cases lookup : db.agents.find AgentRow.ip data.ip with
  | some old =>
      have present := Table.find_some lookup
      have unique : forall row, row ∈ db.agents.rows -> row.ip = data.ip ->
          row = old := fun row member here =>
        Table.eq_of_key AgentRow.ip_separates db.agents member present.1
          (here.trans present.2.symm)
      simp only [bind, Except.bind, lookup] at accepted
      have result := Except.ok.inj accepted
      have sameId := congrArg Prod.fst result
      have sameDb := congrArg Prod.snd result
      simp only at sameId sameDb
      subst db' agentId
      refine ⟨rfl,
        ⟨old.refresh env.now hostname osName osVersion, rfl, present.2,
          sameHostname, ?_⟩, ?_⟩
      · intro other
        exact mem_map_update _ unique present.1 present.2 other
      · intro row member here
        rw [unique row member here]
  | none =>
      have absent := Table.find_none_iff.mp lookup
      simp only [bind, Except.bind, lookup] at accepted
      split at accepted
      · cases accepted
      · next agents inserted =>
          have rows := Table.insert?_rows (constrained_ok inserted)
          have result := Except.ok.inj accepted
          have sameId := congrArg Prod.fst result
          have sameDb := congrArg Prod.snd result
          simp only at sameId sameDb
          subst db' agentId
          refine ⟨rfl, ⟨{
            id := env.fresh 0, ip := data.ip, hostname := hostname,
            osName := osName
            osVersion := osVersion, installDate := env.now,
            latestConnection := env.now
            enabled := true }, rfl, rfl, sameHostname, ?_⟩, ?_⟩
          · intro other
            rw [rows, List.mem_append, List.mem_singleton]
            constructor
            · rintro (member | new)
              · exact Or.inl ⟨member, absent other member⟩
              · exact Or.inr new
            · rintro (⟨member, _⟩ | new)
              · exact Or.inl member
              · exact Or.inr new
          · intro row member here
            exact absurd here (absent row member)

/-- A registration writes over the row at the address, or adds one that is
enabled. -/
theorem upsertAgent_cases {env : Env} {data : UpsertAgentData} {db db' : Db}
    {agentId : Uuid} (accepted : upsertAgent env data db = .ok (agentId, db')) :
    (Exists fun change : AgentRow -> AgentRow =>
      db'.agents.rows =
        db.agents.rows.map
        (fun row => if row.ip = data.ip then change row else row) ∧
      forall row, (change row).id = row.id ∧ (change row).ip = row.ip ∧
        (change row).enabled = row.enabled) ∨
    Exists fun new => db'.agents.rows = db.agents.rows ++ [new] ∧
      new.id = env.fresh 0 ∧ new.enabled = true := by
  unfold upsertAgent at accepted
  rcases bind_eq_ok.mp accepted with ⟨hostname, _, accepted⟩
  rcases bind_eq_ok.mp accepted with ⟨osName, _, accepted⟩
  rcases bind_eq_ok.mp accepted with ⟨osVersion, _, accepted⟩
  cases lookup : db.agents.find AgentRow.ip data.ip with
  | some old =>
      rw [lookup] at accepted
      cases accepted
      exact Or.inl ⟨AgentRow.refresh env.now hostname osName osVersion, rfl,
        fun _ => ⟨rfl, rfl, rfl⟩⟩
  | none =>
      rw [lookup] at accepted
      rcases bind_eq_ok.mp accepted with ⟨agents, inserted, accepted⟩
      cases accepted
      exact Or.inr ⟨_, Table.insert?_rows (constrained_ok inserted), rfl, rfl⟩

/-- The identifier a registration returns: that of the row with the address,
or else the one drawn. -/
def registeredId (env : Env) (ip : IpNetwork) (db : Db) : Uuid :=
  match db.agents.find AgentRow.ip ip with
  | some row => row.id
  | none => env.fresh 0

/-- When an agent can be registered: its texts fit their columns, and its
address is known or the identifier drawn for it is unused. -/
structure AgentStorable (db : Db) (data : UpsertAgentData)
    (fresh : Uuid) : Prop where
  hostname : (varcharOpt none data.hostname).isOk = true
  osName : (varcharOpt (some 50) data.osName).isOk = true
  osVersion : (varcharOpt (some 10) data.osVersion).isOk = true
  id : (Exists fun row => row ∈ db.agents.rows ∧ row.ip = data.ip) ∨
    forall row, row ∈ db.agents.rows -> row.id ≠ fresh

/-- An agent can be registered exactly in these cases. -/
theorem upsertAgent_ok_iff {env : Env} {data : UpsertAgentData} {db : Db} :
    (Exists fun result => upsertAgent env data db = .ok result) <->
      AgentStorable db data (env.fresh 0) := by
  constructor
  · rintro ⟨result, accepted⟩
    rcases upsertAgent_texts accepted with
      ⟨hostname, osName, osVersion, hostnameOk, osNameOk, osVersionOk⟩
    unfold upsertAgent at accepted
    refine ⟨isOk_iff.mpr ⟨_, hostnameOk⟩, isOk_iff.mpr ⟨_, osNameOk⟩,
      isOk_iff.mpr ⟨_, osVersionOk⟩, ?_⟩
    rw [hostnameOk, osNameOk, osVersionOk] at accepted
    cases lookup : db.agents.find AgentRow.ip data.ip with
    | some old => exact Or.inl ⟨old, Table.find_some lookup⟩
    | none =>
        simp only [bind, Except.bind, lookup] at accepted
        split at accepted
        · cases accepted
        next agents inserted =>
        refine Or.inr fun row member same => ?_
        exact Table.insert?_apart (constrained_ok inserted) member (Or.inl same)
  · intro storable
    rcases isOk_iff.mp storable.hostname with ⟨hostname, hostnameOk⟩
    rcases isOk_iff.mp storable.osName with ⟨osName, osNameOk⟩
    rcases isOk_iff.mp storable.osVersion with ⟨osVersion, osVersionOk⟩
    unfold upsertAgent
    rw [hostnameOk, osNameOk, osVersionOk]
    cases lookup : db.agents.find AgentRow.ip data.ip with
    | some old => exact ⟨_, rfl⟩
    | none =>
        have absent := Table.find_none_iff.mp lookup
        have insertable : (db.agents.insert?
            { id := env.fresh 0, ip := data.ip, hostname := hostname
              osName := osName, osVersion := osVersion, installDate := env.now
              latestConnection := env.now, enabled := true }).isSome = true := by
          refine Table.insert?_isSome_iff.mpr fun old member clash => ?_
          rcases clash with sameId | sameIp
          · rcases storable.id with ⟨row, rowMember, here⟩ | unused
            · exact absent row rowMember here
            · exact unused old member sameId
          · exact absent old member sameIp
        rcases Option.isSome_iff_exists.mp insertable with ⟨agents, inserted⟩
        simp only [bind, Except.bind, inserted, constrained]
        exact ⟨_, rfl⟩

theorem upsertAgent_id {env : Env} {data : UpsertAgentData} {db db' : Db}
    {agentId : Uuid} (accepted : upsertAgent env data db = .ok (agentId, db')) :
    agentId = registeredId env data.ip db := by
  have effect := (upsertAgent_registered accepted).2
  cases lookup : db.agents.find AgentRow.ip data.ip with
  | some old =>
      have present := Table.find_some lookup
      simp only [registeredId, lookup]
      exact (effect.kept old present.1 present.2).symm
  | none =>
      unfold upsertAgent at accepted
      simp only [bind, Except.bind, lookup] at accepted
      split at accepted
      · cases accepted
      split at accepted
      · cases accepted
      split at accepted
      · cases accepted
      split at accepted
      · cases accepted
      simp only [registeredId, lookup]
      exact (congrArg Prod.fst (Except.ok.inj accepted)).symm

/-! ## Disabling and deleting -/

/-- `set_enabled`. -/
def setEnabled (agentId : Uuid) (enabled : Bool) (db : Db) : Db :=
  { db with
    agents :=
      db.agents.map
        (fun row => if row.id = agentId then { row with enabled := enabled }
          else row)
        (agentClash_of_keys (ite_field fun _ => rfl) (ite_field fun _ => rfl)) }

/-- `update_latest_connection`. -/
def updateLatestConnection (env : Env) (agentId : Uuid) (db : Db) : Db :=
  { db with
    agents :=
      db.agents.map
        (fun row =>
          if row.id = agentId then { row with latestConnection := env.now }
          else row)
        (agentClash_of_keys (ite_field fun _ => rfl) (ite_field fun _ => rfl)) }

theorem mem_setEnabled {agentId : Uuid} {enabled : Bool} {db : Db}
    {row : AgentRow}
    (member : row ∈ (setEnabled agentId enabled db).agents.rows) :
    Exists fun old => old ∈ db.agents.rows ∧ row.id = old.id ∧ row.ip = old.ip ∧
      row.hostname = old.hostname := by
  rcases List.mem_map.mp member with ⟨old, oldMember, rfl⟩
  refine ⟨old, oldMember, ?_⟩
  split <;> exact ⟨rfl, rfl, rfl⟩

/-- `delete_agent`, with every cascade of the schema. -/
def deleteAgent (agentId : Uuid) (db : Db) : Db :=
  { db with
    agents := db.agents.filter fun row => row.id ≠ agentId
    agentCerts := db.agentCerts.filter fun row => row.agentId ≠ agentId
    agentGroupMembership := db.agentGroupMembership.filter fun row =>
      row.agentId ≠ agentId
    agentPolicies := db.agentPolicies.filter fun row => row.agentId ≠ agentId
    risks := db.risks.filter fun row => row.agentId ≠ agentId
    checkResults := db.checkResults.filter fun row => row.agentId ≠ agentId
    complianceScores := db.complianceScores.filter fun row =>
      row.agentId ≠ agentId }

theorem mem_deleteAgent {agentId : Uuid} {db : Db} {row : AgentRow} :
    row ∈ (deleteAgent agentId db).agents.rows <-> row ∈ db.agents.rows ∧
      row.id ≠ agentId := by
  simp only [deleteAgent, Table.filter_rows, List.mem_filter, decide_eq_true_eq]

end Complyx
