import Complyx.Db.Results
import Complyx.Relational.Query

namespace Complyx

open Relational

/-!
# Queries on policies

The policies assigned to an agent and to groups, and the parts of one policy.
The elements, checks and remediations of a policy come in the order of their
identifiers; the assignments and the sections of the checks come in any order.
-/

/-- `get_policy`. -/
def getPolicy (id : Uuid) (db : Db) : Option PolicyRow :=
  db.policies.find PolicyRow.id id

/-- The rows of `get_direct_policies_for_agent`. -/
def directPolicies (agentId : Uuid) (db : Db) : List Uuid :=
  (db.agentPolicies.rows.filter fun ap => ap.agentId = agentId).map
    AgentPolicyRow.policyId

/-- `get_direct_policies_for_agent`. -/
def getDirectPoliciesForAgent (env : Env) (agentId : Uuid)
    (db : Db) : List Uuid :=
  arrange env.pick (directPolicies agentId db)

/-- The rows of `get_agent_group_ids`. -/
def agentGroups (agentId : Uuid) (db : Db) : List Uuid :=
  (db.agentGroupMembership.rows.filter fun agm => agm.agentId = agentId).map
    AgentGroupMembershipRow.groupId

/-- `get_agent_group_ids`. -/
def getAgentGroupIds (env : Env) (agentId : Uuid) (db : Db) : List Uuid :=
  arrange env.pick (agentGroups agentId db)

/-- The rows of the query in `get_policies_for_groups`. -/
def policiesOfGroups (groupIds : List Uuid) (db : Db) : List Uuid :=
  distinctOn id
    ((db.groupPolicies.rows.filter fun gp => groupIds.contains gp.groupId).map
      GroupPolicyRow.policyId)

/-- The query in `get_policies_for_groups`. -/
def getPoliciesForGroups (env : Env) (groupIds : List Uuid)
    (db : Db) : List Uuid :=
  arrange env.pick (policiesOfGroups groupIds db)

/-- `get_elements_for_policy`. -/
def getElementsForPolicy (policyId : Uuid) (db : Db) : List PolicyElementRow :=
  (db.policyElements.rows.filter fun pe => pe.policyId = policyId).insertionSort
    fun first second => first.id ≤ second.id

/-- `FROM policy_checks INNER JOIN policy_elements WHERE pe.policy_id`. -/
def checksWithElements (policyId : Uuid) (db : Db) :
    List (PolicyCheckRow × PolicyElementRow) :=
  (innerJoin (fun pc pe => pc.policyElementId = pe.id) db.policyChecks.rows
      db.policyElements.rows).filter fun row =>
    row.2.policyId = policyId

/-- The order of two pairs of identifiers. -/
abbrev idsLe (first second : Uuid × Uuid) : Prop :=
  first.1 < second.1 ∨ first.1 = second.1 ∧ first.2 ≤ second.2

/-- `get_checks_for_policy`. -/
def getChecksForPolicy (policyId : Uuid) (db : Db) : List PolicyCheckRow :=
  ((checksWithElements policyId db).insertionSort fun first second =>
    idsLe (first.2.id, first.1.id) (second.2.id, second.1.id)).map Prod.fst

/-- `get_remediations_for_policy`. -/
def getRemediationsForPolicy (policyId : Uuid) (db : Db) :
    List PolicyRemediationRow :=
  ((innerJoin (fun pr row => pr.policyCheckId = row.1.id)
    db.policyRemediations.rows
    (checksWithElements policyId db)).insertionSort fun first second =>
      idsLe (first.2.1.id, first.1.id) (second.2.1.id, second.1.id)).map Prod.fst

/-- The rows of `get_regulation_sections_for_policy`. -/
def regulationSections (policyId : Uuid) (db : Db) :
    List CheckRegulationSectionRow :=
  (innerJoin (fun crs row => crs.checkId = row.1.id)
    db.checkRegulationSections.rows
    (checksWithElements policyId db)).map Prod.fst

/-- `get_regulation_sections_for_policy`. -/
def getRegulationSectionsForPolicy (env : Env) (policyId : Uuid) (db : Db) :
    List CheckRegulationSectionRow :=
  arrange env.pick (regulationSections policyId db)

/-! ## The rows they return -/

theorem mem_policiesOfGroups {groupIds : List Uuid} {policyId : Uuid} {db : Db} :
    policyId ∈ policiesOfGroups groupIds db <-> Exists fun gp =>
      gp ∈ db.groupPolicies.rows ∧ gp.groupId ∈ groupIds ∧
      gp.policyId = policyId := by
  simp only [policiesOfGroups, mem_distinctOn_id, List.mem_map, List.mem_filter,
    List.contains_iff_mem, and_assoc]

theorem mem_checksWithElements {policyId : Uuid} {db : Db}
    {check : PolicyCheckRow} {element : PolicyElementRow} :
    (check, element) ∈ checksWithElements policyId db <->
      check ∈ db.policyChecks.rows ∧ element ∈ db.policyElements.rows ∧
        check.policyElementId = element.id ∧
        element.policyId = policyId := by
  rw [checksWithElements, List.mem_filter, mem_innerJoin, decide_eq_true_eq,
    decide_eq_true_eq]
  rw [and_assoc, and_assoc]

theorem mem_getElementsForPolicy {policyId : Uuid} {db : Db}
    {element : PolicyElementRow} :
    element ∈ getElementsForPolicy policyId db <->
      element ∈ db.policyElements.rows ∧ element.policyId = policyId := by
  rw [getElementsForPolicy, List.mem_insertionSort, List.mem_filter,
    decide_eq_true_eq]

theorem mem_getChecksForPolicy {policyId : Uuid} {db : Db}
    {check : PolicyCheckRow} :
    check ∈ getChecksForPolicy policyId db <-> check ∈ db.policyChecks.rows ∧
      Exists fun element => element ∈ db.policyElements.rows ∧
        check.policyElementId = element.id ∧
        element.policyId = policyId := by
  rw [getChecksForPolicy, List.mem_map]
  constructor
  · rintro ⟨⟨check', element⟩, member, rfl⟩
    rw [List.mem_insertionSort, mem_checksWithElements] at member
    exact ⟨member.1, element, member.2⟩
  · rintro ⟨member, element, joined⟩
    refine ⟨(check, element), ?_, rfl⟩
    rw [List.mem_insertionSort, mem_checksWithElements]
    exact ⟨member, joined⟩

theorem mem_getRemediationsForPolicy {policyId : Uuid} {db : Db}
    {remediation : PolicyRemediationRow}
    (member : remediation ∈ getRemediationsForPolicy policyId db) :
    remediation ∈ db.policyRemediations.rows ∧
      Exists fun check => check ∈ db.policyChecks.rows ∧
        remediation.policyCheckId = check.id := by
  rw [getRemediationsForPolicy, List.mem_map] at member
  rcases member with ⟨⟨remediation', check, element⟩, joined, rfl⟩
  rw [List.mem_insertionSort, mem_innerJoin, mem_checksWithElements,
    decide_eq_true_eq] at joined
  exact ⟨joined.1, check, joined.2.1.1, joined.2.2⟩

end Complyx
