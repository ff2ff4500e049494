import Complyx.Db.Integrity
import Complyx.Distribution.Accepted

namespace Complyx

open Relational Transition

/-!
# The last edit decides

Policies are assigned and groups filled by an administrator while agents poll, enrol
and are deleted.  Whatever the order, an agent is sent the policies that its last
edits say: those assigned to it, and those of the groups it was last put into.  A
policy once assigned to a group stays with the group, since no query takes it back.
-/

/-- An operation of the log. -/
abbrev LogEntry := Env × (Stmt ⊕ AdminStmt)

/-- What an operation decides about a direct assignment. -/
def directEdit (agentId policyId : Uuid) : LogEntry -> Option Bool
  | (_, .inr (.assignPolicyToAgent agent policy)) =>
      if agent = agentId ∧ policy = policyId then some true else none
  | (_, .inr (.unassignPolicyFromAgent agent policy)) =>
      if agent = agentId ∧ policy = policyId then some false else none
  | (_, .inl (.deleteAgent agent)) => if agent = agentId then some false else none
  | _ => none

/-- What an operation decides about a membership. -/
def memberEdit (agentId groupId : Uuid) : LogEntry -> Option Bool
  | (_, .inr (.addAgentToGroup agent group)) =>
      if agent = agentId ∧ group = groupId then some true else none
  | (_, .inr (.removeAgentFromGroup agent group)) =>
      if agent = agentId ∧ group = groupId then some false else none
  | (_, .inl (.deleteAgent agent)) => if agent = agentId then some false else none
  | _ => none

/-- What an operation decides about an assignment to a group. -/
def groupEdit (groupId policyId : Uuid) : LogEntry -> Option Bool
  | (_, .inr (.assignPolicyToGroup group policy)) =>
      if group = groupId ∧ policy = policyId then some true else none
  | _ => none

/-! ## One operation -/

section Operation

variable {env : Env} {database database' : Database}

/-- An insertion that ignores conflicts puts the row there and no other. -/
theorem mem_insertOrIgnore {ρ : Type} {Clash : ρ -> ρ -> Prop}
    [DecidableRel Clash] {name : String} {table table' : Table ρ Clash} {row : ρ}
    {present : List Bool} (same : forall old, Clash old row -> old = row)
    (accepted : insertOrIgnore name table row present = .ok table') (other : ρ) :
    other ∈ table'.rows <-> other = row ∨ other ∈ table.rows := by
  rcases insertOrIgnore_ok accepted with ⟨rfl, old, member, clash⟩ | ⟨rows, _⟩
  · constructor
    · exact Or.inr
    · rintro (rfl | before)
      · exact same old clash ▸ member
      · exact before
  · rw [rows, List.mem_append, List.mem_singleton, or_comm]

theorem agentPolicy_eq_of_clash {row : AgentPolicyRow} (old : AgentPolicyRow)
    (clash : old.Clash row) : old = row := by
  cases old
  cases row
  exact AgentPolicyRow.mk.injEq .. ▸ clash

theorem membership_eq_of_clash {row : AgentGroupMembershipRow}
    (old : AgentGroupMembershipRow) (clash : old.Clash row) : old = row := by
  cases old
  cases row
  exact AgentGroupMembershipRow.mk.injEq .. ▸ clash

theorem groupPolicy_eq_of_clash {row : GroupPolicyRow} (old : GroupPolicyRow)
    (clash : old.Clash row) : old = row := by
  cases old
  cases row
  exact GroupPolicyRow.mk.injEq .. ▸ clash

private theorem decide_getD {before later : Prop} [Decidable before]
    [Decidable later] {test : Prop} [Decidable test] {value : Bool}
    (decided : test -> (later <-> value = true))
    (kept : ¬ test -> (later <-> before)) :
    decide later = (if test then some value else none).getD (decide before) := by
  by_cases here : test
  · rw [if_pos here, Option.getD_some]
    exact Bool.eq_iff_iff.mpr (decide_eq_true_iff.trans (decided here))
  · rw [if_neg here, Option.getD_none]
    exact decide_eq_decide.mpr (kept here)

theorem direct_written (agentId policyId : Uuid) {op : Stmt ⊕ AdminStmt}
    {value : Sum.elim Stmt.Res AdminStmt.Res op}
    (success : execAll env op database = .ok (value, database')) :
    decide (⟨agentId, policyId⟩ ∈ database'.agentPolicies.rows) =
      (directEdit agentId policyId (env, op)).getD
        (decide (⟨agentId, policyId⟩ ∈ database.agentPolicies.rows)) := by
  cases op with
  | inl stmt =>
      have effect := (exec_ok (execAll_inl success).1).2
      have frame := Stmt.effect_frame effect
      cases stmt with
      | deleteAgent agent =>
          have rows : database'.agentPolicies.rows =
              database.agentPolicies.rows.filter fun row =>
                decide (row.agentId ≠ agent) := by
            rw [← (Prod.mk.inj (Except.ok.inj effect)).2]
            rfl
          refine decide_getD ?_ ?_
          · rintro rfl
            rw [rows, List.mem_filter, decide_eq_true_eq]
            exact iff_of_false (fun both => both.2 rfl) Bool.false_ne_true
          · intro other
            rw [rows, List.mem_filter, decide_eq_true_eq]
            exact and_iff_left (Ne.symm other)
      | _ =>
          rw [frame.agentPolicies rfl]
          rfl
  | inr stmt =>
      have effect := (execAll_inr success).2
      cases stmt with
      | assignPolicyToAgent agent policy =>
          rcases bind_eq_ok.mp effect with ⟨agentPolicies, inserted, effect⟩
          cases effect
          have members :=
            mem_insertOrIgnore agentPolicy_eq_of_clash inserted
              ⟨agentId, policyId⟩
          rw [AgentPolicyRow.mk.injEq] at members
          refine decide_getD ?_ ?_
          · rintro ⟨rfl, rfl⟩
            exact members.trans (iff_of_true (Or.inl ⟨rfl, rfl⟩) rfl)
          · intro other
            exact members.trans
              (or_iff_right fun same => other ⟨same.1.symm, same.2.symm⟩)
      | unassignPolicyFromAgent agent policy =>
          cases effect
          have members :
              (⟨agentId, policyId⟩ ∈
                (unassignPolicyFromAgent agent policy database).agentPolicies.rows) <->
              ⟨agentId, policyId⟩ ∈ database.agentPolicies.rows ∧
                ¬ (agentId = agent ∧ policyId = policy) := by
            simp only [unassignPolicyFromAgent, Table.filter_rows,
              List.mem_filter, Bool.not_eq_true', Bool.and_eq_false_imp,
                decide_eq_true_eq, decide_eq_false_iff_not, not_and]
          refine decide_getD ?_ ?_
          · rintro ⟨rfl, rfl⟩
            exact members.trans
              (iff_of_false (fun both => both.2 ⟨rfl, rfl⟩) Bool.false_ne_true)
          · intro other
            exact members.trans
              (and_iff_left fun same => other ⟨same.1.symm, same.2.symm⟩)
      | _ =>
          rcases (AdminStmt.effect_frame effect).agentPolicies with
            same | ⟨_, _, other | other⟩
          · rw [same]
            rfl
          · cases other
          · cases other

theorem member_written (agentId groupId : Uuid) {op : Stmt ⊕ AdminStmt}
    {value : Sum.elim Stmt.Res AdminStmt.Res op}
    (success : execAll env op database = .ok (value, database')) :
    decide (⟨agentId, groupId⟩ ∈ database'.agentGroupMembership.rows) =
      (memberEdit agentId groupId (env, op)).getD
        (decide (⟨agentId, groupId⟩ ∈ database.agentGroupMembership.rows)) := by
  cases op with
  | inl stmt =>
      have effect := (exec_ok (execAll_inl success).1).2
      have frame := Stmt.effect_frame effect
      cases stmt with
      | deleteAgent agent =>
          have rows : database'.agentGroupMembership.rows =
              database.agentGroupMembership.rows.filter fun row =>
                decide (row.agentId ≠ agent) := by
            rw [← (Prod.mk.inj (Except.ok.inj effect)).2]
            rfl
          refine decide_getD ?_ ?_
          · rintro rfl
            rw [rows, List.mem_filter, decide_eq_true_eq]
            exact iff_of_false (fun both => both.2 rfl) Bool.false_ne_true
          · intro other
            rw [rows, List.mem_filter, decide_eq_true_eq]
            exact and_iff_left (Ne.symm other)
      | _ =>
          rw [frame.agentGroupMembership rfl]
          rfl
  | inr stmt =>
      have effect := (execAll_inr success).2
      cases stmt with
      | addAgentToGroup agent group =>
          rcases bind_eq_ok.mp effect with ⟨memberships, inserted, effect⟩
          cases effect
          have members :=
            mem_insertOrIgnore membership_eq_of_clash inserted ⟨agentId, groupId⟩
          rw [AgentGroupMembershipRow.mk.injEq] at members
          refine decide_getD ?_ ?_
          · rintro ⟨rfl, rfl⟩
            exact members.trans (iff_of_true (Or.inl ⟨rfl, rfl⟩) rfl)
          · intro other
            exact members.trans
              (or_iff_right fun same => other ⟨same.1.symm, same.2.symm⟩)
      | removeAgentFromGroup agent group =>
          cases effect
          have members :
              (⟨agentId, groupId⟩ ∈
                (removeAgentFromGroup agent group
                  database).agentGroupMembership.rows) <->
              ⟨agentId, groupId⟩ ∈ database.agentGroupMembership.rows ∧
                ¬ (agentId = agent ∧ groupId = group) := by
            simp only [removeAgentFromGroup, Table.filter_rows, List.mem_filter,
              Bool.not_eq_true', Bool.and_eq_false_imp, decide_eq_true_eq,
                decide_eq_false_iff_not, not_and]
          refine decide_getD ?_ ?_
          · rintro ⟨rfl, rfl⟩
            exact members.trans
              (iff_of_false (fun both => both.2 ⟨rfl, rfl⟩) Bool.false_ne_true)
          · intro other
            exact members.trans
              (and_iff_left fun same => other ⟨same.1.symm, same.2.symm⟩)
      | _ =>
          rcases (AdminStmt.effect_frame effect).agentGroupMembership with
            same | ⟨_, _, other | other⟩
          · rw [same]
            rfl
          · cases other
          · cases other

theorem group_written (groupId policyId : Uuid) {op : Stmt ⊕ AdminStmt}
    {value : Sum.elim Stmt.Res AdminStmt.Res op}
    (success : execAll env op database = .ok (value, database')) :
    decide (⟨groupId, policyId⟩ ∈ database'.groupPolicies.rows) =
      (groupEdit groupId policyId (env, op)).getD
        (decide (⟨groupId, policyId⟩ ∈ database.groupPolicies.rows)) := by
  cases op with
  | inl stmt =>
      have frame := Stmt.effect_frame (exec_ok (execAll_inl success).1).2
      rw [frame.groupPolicies]
      rfl
  | inr stmt =>
      have effect := (execAll_inr success).2
      cases stmt with
      | assignPolicyToGroup group policy =>
          rcases bind_eq_ok.mp effect with ⟨groupPolicies, inserted, effect⟩
          cases effect
          have members :=
            mem_insertOrIgnore groupPolicy_eq_of_clash inserted
              ⟨groupId, policyId⟩
          rw [GroupPolicyRow.mk.injEq] at members
          refine decide_getD ?_ ?_
          · rintro ⟨rfl, rfl⟩
            exact members.trans (iff_of_true (Or.inl ⟨rfl, rfl⟩) rfl)
          · intro other
            exact members.trans
              (or_iff_right fun same => other ⟨same.1.symm, same.2.symm⟩)
      | _ =>
          rcases (AdminStmt.effect_frame effect).groupPolicies with
            same | ⟨_, _, other⟩
          · rw [same]
            rfl
          · cases other

/-- No operation writes a policy. -/
theorem policies_written {op : Stmt ⊕ AdminStmt}
    {value : Sum.elim Stmt.Res AdminStmt.Res op}
    (success : execAll env op database = .ok (value, database')) :
    database'.policies = database.policies := by
  cases op with
  | inl stmt =>
      exact (Stmt.effect_frame (exec_ok (execAll_inl success).1).2).policies
  | inr stmt => exact (AdminStmt.effect_frame (execAll_inr success).2).policies

end Operation

/-! ## Runs -/

/-- The policy is assigned to the agent by the edits of the log, over what was
assigned before. -/
def LastlyAssigned (database : Database) (log : List LogEntry)
    (agentId policyId : Uuid) : Prop :=
  lastly (directEdit agentId policyId)
    (decide (⟨agentId, policyId⟩ ∈ database.agentPolicies.rows)) log = true ∨
    Exists fun groupId =>
      lastly (memberEdit agentId groupId)
        (decide (⟨agentId, groupId⟩ ∈ database.agentGroupMembership.rows)) log =
        true ∧
        lastly (groupEdit groupId policyId)
          (decide (⟨groupId, policyId⟩ ∈ database.groupPolicies.rows)) log = true

section Runs

variable {ε α : Type} (pool : DatabasePool ε α) (labels : List (Nat × Env))

/-- What is assigned at the end of a run is what its edits say. -/
theorem policyAssigned_after (agentId policyId : Uuid) :
    (after (Pool.step execAll) pool labels).store.policyAssigned agentId
      policyId = true <->
      LastlyAssigned pool.store (pool.log execAll labels) agentId policyId := by
  have direct :
      decide
        (⟨agentId, policyId⟩ ∈
          (after (Pool.step execAll) pool labels).store.agentPolicies.rows) =
      lastly (directEdit agentId policyId) _ (pool.log execAll labels) :=
    Pool.lastly_written
      (fun _ _ _ _ _ success => direct_written agentId policyId success) pool
      labels
  have member groupId :
      decide
        (⟨agentId, groupId⟩ ∈
          (after (Pool.step execAll) pool labels).store.agentGroupMembership.rows) =
        lastly (memberEdit agentId groupId) _ (pool.log execAll labels) :=
    Pool.lastly_written
      (fun _ _ _ _ _ success => member_written agentId groupId success) pool
      labels
  have grouped groupId :
      decide
        (⟨groupId, policyId⟩ ∈
          (after (Pool.step execAll) pool labels).store.groupPolicies.rows) =
      lastly (groupEdit groupId policyId) _ (pool.log execAll labels) :=
    Pool.lastly_written
      (fun _ _ _ _ _ success => group_written groupId policyId success) pool
      labels
  unfold LastlyAssigned
  rw [← direct, decide_eq_true_eq, Db.policyAssigned_iff]
  refine or_congr ?_ ?_
  · constructor
    · rintro ⟨⟨agent, policy⟩, present, rfl, rfl⟩
      exact present
    · intro present
      exact ⟨_, present, rfl, rfl⟩
  · constructor
    · rintro ⟨⟨group, policy⟩, ⟨agent, group'⟩, present, rfl, inGroup, rfl, rfl⟩
      refine ⟨group', ?_, ?_⟩
      · rw [← member]
        exact decide_eq_true inGroup
      · rw [← grouped]
        exact decide_eq_true present
    · rintro ⟨groupId, inGroup, present⟩
      rw [← member, decide_eq_true_eq] at inGroup
      rw [← grouped, decide_eq_true_eq] at present
      exact ⟨_, _, present, rfl, inGroup, rfl, rfl⟩

theorem policies_after : (after (Pool.step execAll) pool labels).store.policies =
      pool.store.policies := by
  have kept : forall (pool : DatabasePool ε α) label,
      (pool.step execAll label).store.policies = pool.store.policies := by
    intro pool label
    rcases Pool.entry_cases execAll pool label with
      ⟨_, same⟩ | ⟨op, value, database, _, outcome, store⟩
    · rw [same]
    · rw [store]
      exact policies_written outcome
  induction labels generalizing pool with
  | nil => rfl
  | cons label rest ih =>
      exact (ih (pool.step execAll label)).trans (kept pool label)

end Runs

/-- The policies of a bundle are those assigned that exist. -/
theorem resolved_policy {distributor : PolicyDistributor} {db : Db}
    {agentId : Uuid} {policies : List Policy}
    (resolves : Resolves distributor db agentId policies) (policyId : Uuid) :
    distributor.text.toText policyId ∈ policies.map Policy.id <->
      db.policyAssigned agentId policyId = true ∧
        (getPolicy policyId db).isSome = true := by
  cases resolves with
  | loaded directOrder groupedOrder loads =>
      rw [loaded_ids loads,
        List.mem_map_of_injective distributor.text.toText_injective,
        List.mem_filter, mem_resolvedIds directOrder groupedOrder]

/-- After any run of any programs, a resolution sends an agent exactly the policies
that exist and that the last edits assign to it. -/
theorem last_edit_decides {ε α : Type} (pool : DatabasePool ε α)
    (labels : List (Nat × Env)) (distributor : PolicyDistributor) (agentId : Uuid)
    (envs : Nat -> Env) (bundle : PolicyBundle) (db : Db)
    (resolved : Program.run exec (distributor.resolveForAgent agentId) envs
      (after (Pool.step execAll) pool labels).store.toDb = (.ok bundle, db))
    (policyId : Uuid) :
    distributor.text.toText policyId ∈ bundle.policies.map Policy.id <->
      (getPolicy policyId pool.store.toDb).isSome = true ∧
        LastlyAssigned pool.store (pool.log execAll labels) agentId policyId := by
  rcases run_resolveForAgent_ok resolved with ⟨_, policies, resolves, rfl⟩
  have exists_before :
      getPolicy policyId (after (Pool.step execAll) pool labels).store.toDb =
      getPolicy policyId pool.store.toDb := by
    rw [getPolicy, getPolicy, policies_after]
  rw [sealed, resolved_policy resolves, policyAssigned_after,
    exists_before, and_comm]

/-- The second policy is assigned directly, and the agent leaves its group. -/
def regroupedOffice : DatabasePool DbError Unit where
  threads :=
    [.assignPolicyToAgent 9 22, .unassignPolicyFromAgent 9 21,
        .removeAgentFromGroup 9 31, .addAgentToGroup 9 31,
          .removeAgentFromGroup 9 31].map fun stmt : AdminStmt =>
        .call (.inr stmt) fun _ => .done ()
  store :=
    { toDb := officeDb, agentGroups := ⟨[⟨31, "office", none, 0⟩], by decide⟩ }

theorem last_edit_decides_office :
    let turns := [0, 2, 3, 1, 4].map fun index => (index, quietly 0 0)
    let last := after (Pool.step execAll) regroupedOffice turns
    Exists fun bundle =>
      Program.run exec (officeDistributor.resolveForAgent 9)
        (quietly 0) last.store.toDb = (.ok bundle, last.store.toDb) ∧
        officeDistributor.text.toText 22 ∈ bundle.policies.map Policy.id := by
  intro turns last
  have clear : forall n, (quietly 0 n).fault = none := fun _ => rfl
  rcases run_resolveForAgent_clear officeDistributor 9 clear last.store.toDb with
    ⟨bundle, resolved⟩
  refine ⟨bundle, resolved, ?_⟩
  refine (last_edit_decides regroupedOffice turns officeDistributor 9
    (quietly 0) bundle _ resolved 22).mpr ⟨rfl, ?_⟩
  exact Or.inl (by decide +kernel)

end Complyx
