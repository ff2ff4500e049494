import Complyx.Db.Statement
import Complyx.Distribution.Bundle
import Complyx.Transition.Outcomes

namespace Complyx

open Transition Relational

/-!
# The policies of an agent

Resolution collects the identifiers of the policies assigned to an agent and to
its groups, keeps the first occurrence of each, loads the rows of each policy
and regroups them into a message.  Four of its queries come without an order,
so the same database may be resolved to several bundles.  `Resolves` says which.
-/

/-- What reading a JSON text gives, as far as the server looks at it. -/
inductive JsonValue where
  | string (text : String)
  | object (members : List (String × JsonValue))
  | other

def JsonValue.get (name : String) : JsonValue -> Option JsonValue
  | .object members => (members.find? fun member => member.1 = name).map Prod.snd
  | _ => none

def JsonValue.asStr : JsonValue -> Option String
  | .string text => some text
  | _ => none

/-- The spelling of identifiers, `serde_json::from_str` and SHA-256. -/
structure PolicyDistributor where
  text : UuidText
  fromStr : String -> Option JsonValue
  sha256 : String -> Digest

inductive DistributorError where
  | database (cause : DbError)
  deriving DecidableEq, Repr

/-- The rows of one policy. -/
structure DbPolicyBundle where
  policy : PolicyRow
  elements : List PolicyElementRow
  checks : List PolicyCheckRow
  remediations : List PolicyRemediationRow
  checkRegulationSections : List CheckRegulationSectionRow
  deriving DecidableEq

/-! ## From rows to messages -/

namespace PolicyDistributor

variable (distributor : PolicyDistributor)

/-- The text under `type`, or "unknown". -/
def typeFromJson (json : String) : String :=
  (((distributor.fromStr json).bind (JsonValue.get "type")).bind
    JsonValue.asStr).getD "unknown"

/-- `check_type_from_json`. -/
def checkTypeFromJson (json : String) : String := distributor.typeFromJson json

/-- `remediation_type_from_json`. -/
def remediationTypeFromJson (json : String) : String :=
  distributor.typeFromJson json

/-- The remediation of a check.  Of several rows the index keeps the last. -/
def remediation (remediations : List PolicyRemediationRow) (checkId : Uuid) :
    Option PolicyRemediation :=
  (remediations.reverse.find? fun row => row.policyCheckId = checkId).map
    fun row => {
      id := distributor.text.toText row.id
      remediationType :=
        distributor.remediationTypeFromJson row.remediationCommand
      remediationParamsJson := row.remediationCommand }

/-- The sections of a check in the order of the rows. -/
def sectionIds (sections : List CheckRegulationSectionRow)
    (checkId : Uuid) : List String :=
  (sections.filter fun row => row.checkId = checkId).map fun row =>
    distributor.text.toText row.regulationSectionId

def protoCheck (bundle : DbPolicyBundle)
    (check : PolicyCheckRow) : PolicyCheck where
  id := distributor.text.toText check.id
  name := check.name
  checkType := distributor.checkTypeFromJson check.checkCommand
  checkParamsJson := check.checkCommand
  regulationSectionIds :=
    distributor.sectionIds bundle.checkRegulationSections check.id
  remediation := distributor.remediation bundle.remediations check.id

def protoElement (bundle : DbPolicyBundle)
    (element : PolicyElementRow) : PolicyElement where
  id := distributor.text.toText element.id
  name := element.name.getD ""
  checks :=
    (bundle.checks.filter fun check => check.policyElementId = element.id).map
      (distributor.protoCheck bundle)

/-- `db_bundle_to_proto`. -/
def dbBundleToProto (bundle : DbPolicyBundle) : Policy where
  id := distributor.text.toText bundle.policy.id
  name := bundle.policy.name
  version := bundle.policy.version
  severity := bundle.policy.severity.getD ""
  elements := bundle.elements.map (distributor.protoElement bundle)

end PolicyDistributor

/-! ## Loading -/

/-- `get_policy_bundle`. -/
def getPolicyBundle (policyId : Uuid) :
    Code DistributorError (Option DbPolicyBundle) := do
  match <- Program.attempt .database (Stmt.getPolicy policyId) with
  | none => return none
  | some policy =>
      let elements <- Program.attempt .database
        (Stmt.getElementsForPolicy policyId)
      let checks <- Program.attempt .database (Stmt.getChecksForPolicy policyId)
      let remediations <- Program.attempt .database
        (Stmt.getRemediationsForPolicy policyId)
      let sections <- Program.attempt .database
        (Stmt.getRegulationSectionsForPolicy policyId)
      return some {
        policy := policy, elements := elements, checks := checks,
        remediations := remediations
        checkRegulationSections := sections }

/-- `get_policies_for_groups`. -/
def groupPolicyIds (groupIds : List Uuid) : Code DistributorError (List Uuid) :=
  if groupIds.isEmpty then return []
  else Program.attempt .database (Stmt.getPoliciesForGroups groupIds)

/-- The bundles of the policies in turn. -/
def loadBundles : List Uuid -> Code DistributorError
    (List (Option DbPolicyBundle))
  | [] => return []
  | policyId :: rest => do
      let bundle <- getPolicyBundle policyId
      let others <- loadBundles rest
      return bundle :: others

/-- `resolve_for_agent`. -/
def PolicyDistributor.resolveForAgent (distributor : PolicyDistributor)
    (agentId : Uuid) :
    Code DistributorError PolicyBundle := do
  let directIds <- Program.attempt .database
    (Stmt.getDirectPoliciesForAgent agentId)
  let groupIds <- Program.attempt .database (Stmt.getAgentGroupIds agentId)
  let groupPolicyIds <- groupPolicyIds groupIds
  let allPolicyIds := distinctOn id (directIds ++ groupPolicyIds)
  if allPolicyIds.isEmpty then
    return { policies := [], bundleHash := bundleHash distributor.sha256 ⟨[],
      ""⟩ }
  else
    let dbBundles <- loadBundles allPolicyIds
    let policies := (dbBundles.filterMap id).map distributor.dbBundleToProto
    let bundle : PolicyBundle := { policies := policies, bundleHash := "" }
    return { bundle with bundleHash := bundleHash distributor.sha256 bundle }

/-! ## Which bundles a database is resolved to -/

/-- The database can answer the statement so without changing. -/
def Answered (db : Db) (stmt : Stmt) (answer : Except DbError stmt.Res) : Prop :=
  Exists fun env => Program.perform exec env stmt db = (answer, db)

section Answered

variable {db : Db}

theorem answered_reading {stmt : Stmt} {rows : Env -> stmt.Res}
    (reads : forall env, stmt.effect env db = reading (.ok (rows env)) db)
    {value : stmt.Res} :
    Answered db stmt (.ok value) <-> Exists fun env => env.fault = none ∧
      rows env = value := by
  constructor
  · rintro ⟨env, performed⟩
    rcases exec_ok (Program.perform_eq_ok performed) with ⟨clear, effect⟩
    rw [reads env] at effect
    exact ⟨env, clear, Except.ok.inj (reading_same effect).2⟩
  · rintro ⟨env, clear, rfl⟩
    refine ⟨env, Program.perform_ok ?_⟩
    rw [exec_clear clear, reads env]
    rfl

theorem exists_env_ordered {ρ : Type} {rows ordered : List ρ} :
    (Exists fun env : Env => env.fault = none ∧
      arrange env.pick rows = ordered) <-> ordered.Perm rows := by
  constructor
  · rintro ⟨env, _, rfl⟩
    exact arrange_perm env.pick rows
  · intro perm
    rcases exists_arrange perm with ⟨code, arranged⟩
    exact ⟨{ quietly 0 0 with pick := code }, rfl, arranged⟩

theorem exists_env_same {α : Type} {rows value : α} :
    (Exists fun env : Env => env.fault = none ∧ rows = value) <->
      value = rows := by
  constructor
  · rintro ⟨_, _, same⟩
    exact same.symm
  · intro same
    exact ⟨quietly 0 0, rfl, same.symm⟩

theorem answered_getDirectPoliciesForAgent {agentId : Uuid} {ids : List Uuid} :
    Answered db (.getDirectPoliciesForAgent agentId) (.ok ids) <->
      ids.Perm (directPolicies agentId db) :=
  (answered_reading fun _ => rfl).trans exists_env_ordered

theorem answered_getAgentGroupIds {agentId : Uuid} {ids : List Uuid} :
    Answered db (.getAgentGroupIds agentId) (.ok ids) <->
      ids.Perm (agentGroups agentId db) :=
  (answered_reading fun _ => rfl).trans exists_env_ordered

theorem answered_getPoliciesForGroups {groupIds ids : List Uuid} :
    Answered db (.getPoliciesForGroups groupIds) (.ok ids) <->
      ids.Perm (policiesOfGroups groupIds db) :=
  (answered_reading fun _ => rfl).trans exists_env_ordered

theorem answered_getPolicy {policyId : Uuid} {row : Option PolicyRow} :
    Answered db (.getPolicy policyId) (.ok row) <-> row = getPolicy policyId db :=
  (answered_reading fun _ => rfl).trans exists_env_same

theorem answered_getElementsForPolicy {policyId : Uuid}
    {rows : List PolicyElementRow} :
    Answered db (.getElementsForPolicy policyId) (.ok rows) <->
      rows = getElementsForPolicy policyId db :=
  (answered_reading fun _ => rfl).trans exists_env_same

theorem answered_getChecksForPolicy {policyId : Uuid}
    {rows : List PolicyCheckRow} :
    Answered db (.getChecksForPolicy policyId) (.ok rows) <->
      rows = getChecksForPolicy policyId db :=
  (answered_reading fun _ => rfl).trans exists_env_same

theorem answered_getRemediationsForPolicy {policyId : Uuid}
    {rows : List PolicyRemediationRow} :
    Answered db (.getRemediationsForPolicy policyId) (.ok rows) <->
      rows = getRemediationsForPolicy policyId db :=
  (answered_reading fun _ => rfl).trans exists_env_same

theorem answered_getRegulationSectionsForPolicy {policyId : Uuid}
    {rows : List CheckRegulationSectionRow} :
    Answered db (.getRegulationSectionsForPolicy policyId) (.ok rows) <->
      rows.Perm (regulationSections policyId db) :=
  (answered_reading fun _ => rfl).trans exists_env_ordered

end Answered

/-- The rows of a policy, its sections as given. -/
def policyRows (db : Db) (policy : PolicyRow)
    (sections : List CheckRegulationSectionRow) : DbPolicyBundle where
  policy := policy
  elements := getElementsForPolicy policy.id db
  checks := getChecksForPolicy policy.id db
  remediations := getRemediationsForPolicy policy.id db
  checkRegulationSections := sections

/-- What loading a policy may give. -/
inductive Loads (db : Db) (policyId : Uuid) : Option DbPolicyBundle -> Prop where
  | missing (absent : getPolicy policyId db = none) : Loads db policyId none
  | found {policy : PolicyRow} {sections : List CheckRegulationSectionRow}
      (present : getPolicy policyId db = some policy)
      (order : sections.Perm (regulationSections policyId db)) :
      Loads db policyId (some (policyRows db policy sections))

/-- The policies assigned to the groups of the agent. -/
def groupedPolicies (agentId : Uuid) (db : Db) : List Uuid :=
  policiesOfGroups (agentGroups agentId db) db

/-- What resolving the policies of an agent may give. -/
inductive Resolves (distributor : PolicyDistributor) (db : Db) (agentId : Uuid) :
    List Policy -> Prop where
  | loaded {direct grouped : List Uuid} {bundles : List (Option DbPolicyBundle)}
      (directOrder : direct.Perm (directPolicies agentId db))
      (groupedOrder : grouped.Perm (groupedPolicies agentId db))
      (loads :
        List.Forall₂ (Loads db) (distinctOn id (direct ++ grouped)) bundles) :
      Resolves distributor db agentId
        ((bundles.filterMap id).map distributor.dbBundleToProto)

theorem policiesOfGroups_perm {groupIds groupIds' : List Uuid}
    (perm : groupIds.Perm groupIds') (db : Db) :
    policiesOfGroups groupIds db = policiesOfGroups groupIds' db := by
  simp only [policiesOfGroups, perm.contains_eq]

theorem policiesOfGroups_nil (db : Db) : policiesOfGroups [] db = [] := by
  have none :
      (db.groupPolicies.rows.filter fun gp =>
        ([] : List Uuid).contains gp.groupId) = [] := by
    rw [List.filter_eq_nil_iff]
    exact fun _ _ => Bool.false_ne_true
  rw [policiesOfGroups, none]
  rfl

theorem getPolicy_id {policyId : Uuid} {db : Db} {policy : PolicyRow}
    (present : getPolicy policyId db = some policy) :
    policy ∈ db.policies.rows ∧ policy.id = policyId :=
  Table.find_some present

section Outcomes

variable (db : Db)

theorem getPolicyBundle_yields (policyId : Uuid) :
    (getPolicyBundle policyId).Yields (Answered db) (Loads db policyId) := by
  refine Program.yields_bind
    (Program.yields_attempt _ fun row => answered_getPolicy.mp)
    fun row looked => ?_
  cases row with
  | none => exact .missing looked.symm
  | some policy =>
      have same := (getPolicy_id looked.symm).2
      refine Program.yields_bind
        (Program.yields_attempt _ fun rows => answered_getElementsForPolicy.mp) ?_
      rintro elements rfl
      refine Program.yields_bind
        (Program.yields_attempt _ fun rows => answered_getChecksForPolicy.mp) ?_
      rintro checks rfl
      refine Program.yields_bind
        (Program.yields_attempt _ fun rows =>
          answered_getRemediationsForPolicy.mp) ?_
      rintro remediations rfl
      refine Program.yields_bind
        (Program.yields_attempt _ fun rows =>
          answered_getRegulationSectionsForPolicy.mp) ?_
      intro sections order
      subst same
      exact .found looked.symm order

theorem getPolicyBundle_reaches {policyId : Uuid} {bundle : Option DbPolicyBundle}
    (loads : Loads db policyId bundle) :
    (getPolicyBundle policyId).Reaches (Answered db) bundle := by
  cases loads with
  | missing absent =>
      exact Program.reaches_bind
        (Program.reaches_attempt _ (answered_getPolicy.mpr absent.symm)) rfl
  | found present order =>
      have same := (getPolicy_id present).2
      subst same
      refine Program.reaches_bind
        (Program.reaches_attempt _ (answered_getPolicy.mpr present.symm)) ?_
      refine Program.reaches_bind
        (Program.reaches_attempt _ (answered_getElementsForPolicy.mpr rfl)) ?_
      refine Program.reaches_bind
        (Program.reaches_attempt _ (answered_getChecksForPolicy.mpr rfl)) ?_
      refine Program.reaches_bind
        (Program.reaches_attempt _ (answered_getRemediationsForPolicy.mpr rfl)) ?_
      exact Program.reaches_bind
        (Program.reaches_attempt _
          (answered_getRegulationSectionsForPolicy.mpr order)) rfl

theorem loadBundles_yields (policyIds : List Uuid) :
    (loadBundles policyIds).Yields (Answered db)
      (List.Forall₂ (Loads db) policyIds) := by
  induction policyIds with
  | nil => exact List.Forall₂.nil
  | cons policyId rest ih =>
      refine Program.yields_bind (getPolicyBundle_yields db policyId)
        fun bundle loads => ?_
      refine Program.yields_bind ih fun others later => ?_
      exact List.Forall₂.cons loads later

theorem loadBundles_reaches {policyIds : List Uuid}
    {bundles : List (Option DbPolicyBundle)}
    (loads : List.Forall₂ (Loads db) policyIds bundles) :
    (loadBundles policyIds).Reaches (Answered db) bundles := by
  induction loads with
  | nil => exact rfl
  | cons first _ ih =>
      exact Program.reaches_bind (getPolicyBundle_reaches db first)
        (Program.reaches_bind ih rfl)

variable (distributor : PolicyDistributor) (agentId : Uuid)

theorem resolveForAgent_yields :
    (distributor.resolveForAgent agentId).Yields (Answered db) fun bundle =>
      Exists fun policies =>
      Resolves distributor db agentId policies ∧
        bundle = sealed distributor.sha256 policies := by
  refine Program.yields_bind
    (Program.yields_attempt _ fun ids => answered_getDirectPoliciesForAgent.mp) ?_
  intro direct directOrder
  refine Program.yields_bind
    (Program.yields_attempt _ fun ids => answered_getAgentGroupIds.mp) ?_
  intro groupIds groupOrder
  have grouped : (groupPolicyIds groupIds).Yields (Answered db) fun ids =>
      ids.Perm (groupedPolicies agentId db) := by
    have sameGroups := policiesOfGroups_perm groupOrder db
    rw [groupedPolicies, ← sameGroups]
    unfold groupPolicyIds
    split
    · next none =>
      rw [List.isEmpty_iff.mp none, policiesOfGroups_nil]
      exact List.Perm.refl []
    · exact Program.yields_attempt _ fun ids => answered_getPoliciesForGroups.mp
  refine Program.yields_bind grouped fun ids groupedOrder => ?_
  dsimp only
  split
  · next none =>
    have loads : List.Forall₂ (Loads db) (distinctOn id (direct ++ ids)) [] := by
      rw [List.isEmpty_iff.mp none]
      exact List.Forall₂.nil
    exact ⟨_, .loaded directOrder groupedOrder loads, rfl⟩
  · refine Program.yields_bind (loadBundles_yields db _) fun bundles loads => ?_
    exact ⟨_, .loaded directOrder groupedOrder loads, rfl⟩

theorem resolveForAgent_reaches {policies : List Policy}
    (resolves : Resolves distributor db agentId policies) :
    (distributor.resolveForAgent agentId).Reaches (Answered db)
      (sealed distributor.sha256 policies) := by
  cases resolves with
  | loaded directOrder groupedOrder loads =>
      next direct grouped bundles =>
      have reached :
          (groupPolicyIds (agentGroups agentId db)).Reaches
            (Answered db) grouped := by
        unfold groupPolicyIds
        split
        · next none =>
          rw [groupedPolicies, List.isEmpty_iff.mp none,
            policiesOfGroups_nil] at groupedOrder
          exact groupedOrder.eq_nil.symm
        · exact Program.reaches_attempt _
            (answered_getPoliciesForGroups.mpr groupedOrder)
      refine Program.reaches_bind
        (Program.reaches_attempt _
          (answered_getDirectPoliciesForAgent.mpr directOrder)) ?_
      refine Program.reaches_bind
        (Program.reaches_attempt _
          (answered_getAgentGroupIds.mpr
            (List.Perm.refl (agentGroups agentId db)))) ?_
      refine Program.reaches_bind reached ?_
      dsimp only
      split
      · next none =>
        rw [List.isEmpty_iff.mp none] at loads
        cases loads
        rfl
      · exact Program.reaches_bind (loadBundles_reaches db loads) rfl

end Outcomes

/-! ## Running a resolution -/

/-- The statements of a resolution. -/
inductive PolicyRead : Stmt -> Prop where
  | direct (agentId : Uuid) : PolicyRead (.getDirectPoliciesForAgent agentId)
  | groups (agentId : Uuid) : PolicyRead (.getAgentGroupIds agentId)
  | grouped (groupIds : List Uuid) : PolicyRead (.getPoliciesForGroups groupIds)
  | policy (policyId : Uuid) : PolicyRead (.getPolicy policyId)
  | elements (policyId : Uuid) : PolicyRead (.getElementsForPolicy policyId)
  | checks (policyId : Uuid) : PolicyRead (.getChecksForPolicy policyId)
  | remediations (policyId : Uuid) :
      PolicyRead (.getRemediationsForPolicy policyId)
  | sections (policyId : Uuid) :
      PolicyRead (.getRegulationSectionsForPolicy policyId)

theorem PolicyRead.same {stmt : Stmt} (read : PolicyRead stmt) (env : Env)
    (db : Db) :
    (Program.perform exec env stmt db).2 = db := by
  rcases perform_cases env stmt db with
    ⟨failure, performed⟩ | ⟨value, db', _, effect, performed⟩
  · rw [performed]
  · rw [performed]
    cases read <;> exact (reading_same effect).1

theorem getPolicyBundle_issues (policyId : Uuid) :
    (getPolicyBundle policyId).Issues PolicyRead := by
  refine Program.issues_bind (Program.issues_attempt _ (.policy policyId))
    fun row => ?_
  cases row with
  | none => trivial
  | some policy =>
      refine Program.issues_bind (Program.issues_attempt _ (.elements policyId))
        fun elements => ?_
      refine Program.issues_bind (Program.issues_attempt _ (.checks policyId))
        fun checks => ?_
      refine Program.issues_bind
        (Program.issues_attempt _ (.remediations policyId)) fun remediations => ?_
      exact Program.issues_bind (Program.issues_attempt _ (.sections policyId))
        fun sections => trivial

theorem loadBundles_issues (policyIds : List Uuid) :
    (loadBundles policyIds).Issues PolicyRead := by
  induction policyIds with
  | nil => trivial
  | cons policyId rest ih =>
      refine Program.issues_bind (getPolicyBundle_issues policyId)
        fun bundle => ?_
      exact Program.issues_bind ih fun others => trivial

theorem resolveForAgent_issues (distributor : PolicyDistributor)
    (agentId : Uuid) :
    (distributor.resolveForAgent agentId).Issues PolicyRead := by
  refine Program.issues_bind (Program.issues_attempt _ (.direct agentId))
    fun directIds => ?_
  refine Program.issues_bind (Program.issues_attempt _ (.groups agentId))
    fun groupIds => ?_
  refine Program.issues_bind ?_ fun groupPolicyIds => ?_
  · unfold groupPolicyIds
    split
    · trivial
    · exact Program.issues_attempt _ (.grouped groupIds)
  · dsimp only
    split
    · trivial
    · exact Program.issues_bind (loadBundles_issues _) fun bundles => trivial

theorem PolicyRead.answered {stmt : Stmt} (read : PolicyRead stmt) {env : Env}
    (clear : env.fault = none) (db : Db) :
    (Program.perform exec env stmt db).1.isOk = true := by
  have reached := exec_clear clear stmt db
  cases read <;> rw [Program.perform_ok reached] <;> rfl

theorem getPolicyBundle_completes (policyId : Uuid) :
    (getPolicyBundle policyId).Completes fun _ answer => answer.isOk = true := by
  refine Program.completes_bind
    (Program.completes_attempt _ fun _ => Bool.false_ne_true) fun row => ?_
  cases row with
  | none => trivial
  | some policy =>
      refine Program.completes_bind
        (Program.completes_attempt _ fun _ => Bool.false_ne_true)
        fun elements => ?_
      refine Program.completes_bind
        (Program.completes_attempt _ fun _ => Bool.false_ne_true) fun checks => ?_
      refine Program.completes_bind
        (Program.completes_attempt _ fun _ => Bool.false_ne_true)
        fun remediations => ?_
      exact Program.completes_bind
        (Program.completes_attempt _ fun _ => Bool.false_ne_true)
        fun sections => trivial

theorem loadBundles_completes (policyIds : List Uuid) :
    (loadBundles policyIds).Completes fun _ answer => answer.isOk = true := by
  induction policyIds with
  | nil => trivial
  | cons policyId rest ih =>
      refine Program.completes_bind (getPolicyBundle_completes policyId)
        fun bundle => ?_
      exact Program.completes_bind ih fun others => trivial

theorem resolveForAgent_completes (distributor : PolicyDistributor)
    (agentId : Uuid) :
    (distributor.resolveForAgent agentId).Completes fun _ answer =>
      answer.isOk = true := by
  refine Program.completes_bind
    (Program.completes_attempt _ fun _ => Bool.false_ne_true) fun directIds => ?_
  refine Program.completes_bind
    (Program.completes_attempt _ fun _ => Bool.false_ne_true) fun groupIds => ?_
  refine Program.completes_bind ?_ fun groupPolicyIds => ?_
  · unfold groupPolicyIds
    split
    · trivial
    · exact Program.completes_attempt _ fun _ => Bool.false_ne_true
  · dsimp only
    split
    · trivial
    · exact Program.completes_bind (loadBundles_completes _)
        fun bundles => trivial

/-- A resolution that succeeds gives one of the bundles of the database. -/
theorem run_resolveForAgent_ok {distributor : PolicyDistributor} {agentId : Uuid}
    {envs : Nat -> Env} {db db' : Db} {bundle : PolicyBundle}
    (resolved : Program.run exec (distributor.resolveForAgent agentId) envs db =
      (.ok bundle, db')) :
    db' = db ∧ Exists fun policies =>
      Resolves distributor db agentId policies ∧
        bundle = sealed distributor.sha256 policies := by
  refine Program.run_yields ?_ (resolveForAgent_issues distributor agentId)
    (resolveForAgent_yields db distributor agentId)
    resolved
  intro env stmt read
  have same := read.same env db
  exact ⟨same, env, Prod.ext rfl same⟩

/-- Without faults a resolution succeeds. -/
theorem run_resolveForAgent_clear (distributor : PolicyDistributor)
    (agentId : Uuid) {envs : Nat -> Env} (clear : forall n, (envs n).fault = none)
    (db : Db) : Exists fun bundle =>
      Program.run exec (distributor.resolveForAgent agentId) envs db =
        (.ok bundle, db) := by
  have answers : forall n stmt db, PolicyRead stmt ->
      (Program.perform exec (envs n) stmt db).1.isOk = true :=
    fun n stmt db read => read.answered (clear n) db
  rcases Program.run_completes answers
    (resolveForAgent_issues distributor agentId)
    (resolveForAgent_completes distributor agentId) db with ⟨bundle, db', ran⟩
  have same := (run_resolveForAgent_ok ran).1
  subst same
  exact ⟨bundle, ran⟩

/-- Each of them is the outcome of some resolution. -/
theorem exists_run_resolveForAgent {distributor : PolicyDistributor}
    {agentId : Uuid} {db : Db} {policies : List Policy}
    (resolves : Resolves distributor db agentId policies) : Exists fun envs =>
      Program.run exec (distributor.resolveForAgent agentId) envs db =
          (.ok (sealed distributor.sha256 policies), db) :=
  Program.exists_run_reaches (fun _ _ answered => answered) (quietly 0)
    (resolveForAgent_reaches db distributor agentId resolves)

end Complyx
