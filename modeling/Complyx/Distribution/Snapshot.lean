import Complyx.Distribution.Accepted
import Complyx.Transition.Interleave

namespace Complyx

open Transition Relational

/-!
# Policies edited while they are resolved

Resolution has no transaction.  Queries that do not need one another are sent
together and answered in any order, each on the database as it is committed by
then, and a policy that is gone when its rows are loaded is left out.  A bundle is
put together from rows of several moments, so that a check may be sent with a
remediation that was written for another command.
-/

/-- A statement on the database that is committed by then. -/
def execCommitted (moment : Env × Db) (stmt : Stmt) (_ : Unit) :
    Except DbError (stmt.Res × Unit) :=
  (exec moment.1 stmt moment.2).map fun answer => (answer.1, ())

/-- In which order queries that are sent together are answered. -/
structure ResolveOrder where
  assignments : Nat -> Bool
  policies : Nat -> Nat -> Bool
  parts : Uuid -> Nat -> Nat -> Bool

/-- Each query is answered before the next one. -/
def ResolveOrder.inTurn : ResolveOrder where
  assignments := Program.inTurn
  policies := fun _ => Program.inTurn
  parts := fun _ _ => Program.inTurn

/-- `get_policy_bundle`, the rows of the policy queried together. -/
def getPolicyBundleJoined (order : Nat -> Nat -> Bool) (policyId : Uuid) :
    Code DistributorError (Option DbPolicyBundle) := do
  match <- Program.attempt .database (Stmt.getPolicy policyId) with
  | none => return none
  | some policy =>
      let (elements, checks, remediations, sections) <-
        Program.both (order 0)
          (Program.attempt .database (Stmt.getElementsForPolicy policyId))
          (Program.both (order 1)
            (Program.attempt .database (Stmt.getChecksForPolicy policyId))
            (Program.both (order 2)
              (Program.attempt .database (Stmt.getRemediationsForPolicy policyId))
              (Program.attempt .database
                (Stmt.getRegulationSectionsForPolicy policyId))))
      return some {
        policy := policy, elements := elements, checks := checks,
        remediations := remediations
        checkRegulationSections := sections }

/-- `resolve_for_agent`, with the queries it sends together. -/
def PolicyDistributor.resolveForAgentJoined (distributor : PolicyDistributor)
    (order : ResolveOrder) (agentId : Uuid) :
    Code DistributorError PolicyBundle := do
  let (directIds, groupIds) <-
    Program.both order.assignments
      (Program.attempt .database (Stmt.getDirectPoliciesForAgent agentId))
      (Program.attempt .database (Stmt.getAgentGroupIds agentId))
  let groupPolicyIds <- groupPolicyIds groupIds
  let allPolicyIds := distinctOn id (directIds ++ groupPolicyIds)
  if allPolicyIds.isEmpty then
    return { policies := [], bundleHash := bundleHash distributor.sha256 ⟨[],
      ""⟩ }
  else
    let dbBundles <- Program.gather order.policies
      (allPolicyIds.map fun policyId =>
        getPolicyBundleJoined (order.parts policyId) policyId)
    let policies := (dbBundles.filterMap id).map distributor.dbBundleToProto
    let bundle : PolicyBundle := { policies := policies, bundleHash := "" }
    return { bundle with bundleHash := bundleHash distributor.sha256 bundle }

/-! ## Queries in turn -/

theorem getPolicyBundleJoined_inTurn (policyId : Uuid) :
    getPolicyBundleJoined (fun _ => Program.inTurn) policyId =
      getPolicyBundle policyId := by
  unfold getPolicyBundleJoined getPolicyBundle
  congr 1
  funext row
  cases row with
  | none => rfl
  | some policy =>
      simp only [Program.both_inTurn, Program.bind_assoc, Program.done_bind]

theorem gather_inTurn (policyIds : List Uuid) :
    Program.gather (fun _ => Program.inTurn) (policyIds.map getPolicyBundle) =
      loadBundles policyIds := by
  induction policyIds with
  | nil => rfl
  | cons policyId rest ih =>
      rw [List.map_cons, Program.gather, ih, Program.both_inTurn, loadBundles]
      simp only [Program.bind_assoc, Program.done_bind]

/-- The resolution whose queries wait for one another. -/
theorem resolveForAgentJoined_inTurn (distributor : PolicyDistributor)
    (agentId : Uuid) :
    distributor.resolveForAgentJoined .inTurn agentId =
      distributor.resolveForAgent agentId := by
  unfold PolicyDistributor.resolveForAgentJoined PolicyDistributor.resolveForAgent
    ResolveOrder.inTurn
  simp only [Program.both_inTurn, Program.bind_assoc, Program.done_bind,
    getPolicyBundleJoined_inTurn, gather_inTurn]

/-! ## Resolution while the database is edited -/

section Over

variable (distributor : PolicyDistributor) (order : ResolveOrder) (agentId : Uuid)
  (envs : Nat -> Env)
  (history : Nat -> Db)

/-- The resolution whose n-th statement is executed on the n-th database. -/
def PolicyDistributor.resolveOver : Except DistributorError PolicyBundle :=
  (Program.run execCommitted (distributor.resolveForAgentJoined order agentId)
    (fun n => (envs n, history n)) ()).1

/-- How many statements it executes. -/
def PolicyDistributor.statementsOver : Nat :=
  Program.calls execCommitted (distributor.resolveForAgentJoined order agentId)
    (fun n => (envs n, history n)) ()

end Over

/-- A resolution on this database alone may give the bundle. -/
def PolicyDistributor.Snapshot (distributor : PolicyDistributor) (agentId : Uuid)
    (db : Db) (bundle : PolicyBundle) : Prop :=
  Exists fun envs =>
    Program.run exec (distributor.resolveForAgent agentId) envs db =
      (.ok bundle, db)

/-- The bundle has the check, and the remediation with it. -/
def PolicyBundle.Ships (bundle : PolicyBundle) (check : PolicyCheck)
    (remediation : PolicyRemediation) : Prop :=
  Exists fun policy => policy ∈ bundle.policies ∧ Exists fun element =>
    element ∈ policy.elements ∧
    check ∈ element.checks ∧ check.remediation = some remediation

/-- The check is a row of the first database and the remediation one of the second,
where it belongs to a check with the same identifier. -/
def PolicyDistributor.Pairs (distributor : PolicyDistributor)
    (checksDb remediationsDb : Db) (check : PolicyCheck)
    (remediation : PolicyRemediation) : Prop :=
  Exists fun row => Exists fun repaired => Exists fun repair =>
    row ∈ checksDb.policyChecks.rows ∧
    repaired ∈ remediationsDb.policyChecks.rows ∧
      repair ∈ remediationsDb.policyRemediations.rows ∧
    repaired.id = row.id ∧ repair.policyCheckId = row.id ∧
    check.id = distributor.text.toText row.id ∧
      check.checkParamsJson = row.checkCommand ∧
    remediation.id = distributor.text.toText repair.id ∧
      remediation.remediationParamsJson = repair.remediationCommand

/-- What loading a policy may give between the two times. -/
inductive LoadsOver (history : Nat -> Db) (start stop : Nat) (policyId : Uuid) :
    Option DbPolicyBundle -> Prop where
  | missing {base : Nat} (during : start ≤ base ∧ base < stop)
      (absent : getPolicy policyId (history base) = none) :
      LoadsOver history start stop policyId none
  | found {base elementsAt checksAt remediationsAt sectionsAt : Nat}
      {policy : PolicyRow}
      {sections : List CheckRegulationSectionRow} (begun : start ≤ base)
      (afterwards : forall time,
        time ∈ [elementsAt, checksAt, remediationsAt, sectionsAt] -> base < time ∧
        time < stop)
      (present : getPolicy policyId (history base) = some policy)
      (sectionsOrder :
        sections.Perm (regulationSections policyId (history sectionsAt))) :
      LoadsOver history start stop policyId (some {
        policy := policy
        elements := getElementsForPolicy policyId (history elementsAt)
        checks := getChecksForPolicy policyId (history checksAt)
        remediations := getRemediationsForPolicy policyId (history remediationsAt)
        checkRegulationSections := sections })

/-- What resolving the policies of an agent may give before the time. -/
inductive ResolvesOver (distributor : PolicyDistributor) (history : Nat -> Db)
    (stop : Nat) (agentId : Uuid) : List Policy -> Prop where
  | loaded {direct groupIds grouped : List Uuid}
      {directAt groupsAt groupedAt : Nat}
      {bundles : List (Option DbPolicyBundle)}
      (directOrder : direct.Perm (directPolicies agentId (history directAt)))
      (groupsOrder : groupIds.Perm (agentGroups agentId (history groupsAt)))
      (groupedOrder :
        grouped.Perm (policiesOfGroups groupIds (history groupedAt)))
      (joined : directAt < groupedAt ∧ groupsAt < groupedAt ∧ groupedAt ≤ stop)
      (asked : groupIds = [] ∨ groupedAt < stop)
      (loads : List.Forall₂ (LoadsOver history groupedAt stop)
        (distinctOn id (direct ++ grouped)) bundles) :
      ResolvesOver distributor history stop agentId
        ((bundles.filterMap id).map distributor.dbBundleToProto)

/-! ## The rows of a resolution -/

/-- What the statement may be answered at the time. -/
def AnsweredAt (history : Nat -> Db) (time : Nat) (stmt : Stmt)
    (answer : Except DbError stmt.Res) : Prop :=
  Exists fun env => (Program.perform exec env stmt (history time)).1 = answer

theorem perform_execCommitted (env : Env) (db : Db) (stmt : Stmt) :
    (Program.perform execCommitted (env, db) stmt ()).1 =
      (Program.perform exec env stmt db).1 := by
  cases answered : exec env stmt db with
  | ok pair =>
      rw [Program.perform_ok answered]
      simp only [Program.perform, execCommitted, answered, Except.map]
  | error failure =>
      rw [Program.perform_error answered]
      simp only [Program.perform, execCommitted, answered, Except.map]

section Times

variable {history : Nat -> Db} {start stop : Nat}

theorem through_read {stmt : Stmt} (read : PolicyRead stmt) {value : stmt.Res}
    (through :
      (Program.attempt DistributorError.database stmt :
        Code DistributorError stmt.Res).Through
      (AnsweredAt history) value start stop) :
    Exists fun time => start ≤ time ∧ time < stop ∧
      Answered (history time) stmt (.ok value) := by
  rcases Program.through_attempt through with ⟨time, after, before, env, answered⟩
  exact ⟨time, after, before, env,
    Prod.ext answered (read.same env (history time))⟩

theorem getPolicyBundleJoined_through {order : Nat -> Nat -> Bool}
    {policyId : Uuid} {bundle : Option DbPolicyBundle}
    (through : (getPolicyBundleJoined order policyId).Through
      (AnsweredAt history) bundle start stop) :
    LoadsOver history start stop policyId bundle := by
  rcases Program.through_bind through with ⟨row, middle, looked, rest⟩
  rcases through_read (.policy policyId) looked with
    ⟨base, afterStart, beforeMiddle, answered⟩
  have found := answered_getPolicy.mp answered
  cases row with
  | none =>
      rcases rest with ⟨inTime, rfl⟩
      exact .missing
        ⟨afterStart, Nat.lt_of_lt_of_le beforeMiddle inTime⟩ found.symm
  | some policy =>
      rcases Program.through_bind rest with
        ⟨⟨elements, checks, remediations, sections⟩, later, joined, inTime, rfl⟩
      rcases Program.through_both joined with ⟨elementsRead, joined⟩
      rcases Program.through_both joined with ⟨checksRead, joined⟩
      rcases Program.through_both joined with ⟨remediationsRead, sectionsRead⟩
      rcases through_read (.elements policyId) elementsRead with
        ⟨elementsAt, afterElements, beforeElements, elementsAre⟩
      rcases through_read (.checks policyId) checksRead with
        ⟨checksAt, afterChecks, beforeChecks, checksAre⟩
      rcases through_read (.remediations policyId) remediationsRead with
        ⟨remediationsAt, afterRemediations, beforeRemediations, remediationsAre⟩
      rcases through_read (.sections policyId) sectionsRead with
        ⟨sectionsAt, afterSections, beforeSections, sectionsAre⟩
      have elementsRows : elements = _ :=
        answered_getElementsForPolicy.mp elementsAre
      have checksRows : checks = _ := answered_getChecksForPolicy.mp checksAre
      have remediationsRows : remediations = _ :=
        answered_getRemediationsForPolicy.mp remediationsAre
      rw [elementsRows, checksRows, remediationsRows]
      refine .found afterStart ?_ found.symm
        (answered_getRegulationSectionsForPolicy.mp sectionsAre)
      intro time member
      simp only [List.mem_cons, List.not_mem_nil, or_false] at member
      omega

theorem loads_through {order : Nat -> Nat -> Bool}
    {parts : Uuid -> Nat -> Nat -> Bool} {policyIds : List Uuid}
    {bundles : List (Option DbPolicyBundle)}
    (through : (Program.gather order (policyIds.map fun policyId =>
      getPolicyBundleJoined (parts policyId) policyId)).Through
        (AnsweredAt history) bundles start stop) :
    List.Forall₂ (LoadsOver history start stop) policyIds bundles := by
  have each := Program.through_gather through
  rw [List.forall₂_map_left_iff] at each
  exact each.imp fun policyId bundle => getPolicyBundleJoined_through

theorem groupPolicyIds_through {groupIds grouped : List Uuid}
    (through : (groupPolicyIds groupIds).Through
      (AnsweredAt history) grouped start stop) :
    Exists fun time => start ≤ time ∧ time ≤ stop ∧
      (groupIds = [] ∨ time < stop) ∧
      grouped.Perm (policiesOfGroups groupIds (history time)) := by
  unfold groupPolicyIds at through
  split at through
  · next none =>
    have empty := List.isEmpty_iff.mp none
    rcases through with ⟨inTime, rfl⟩
    refine ⟨start, Nat.le_refl start, inTime, Or.inl empty, ?_⟩
    rw [empty, policiesOfGroups_nil]
  · rcases through_read (.grouped groupIds) through with
      ⟨time, after, before, answered⟩
    exact ⟨time, after, Nat.le_of_lt before, Or.inr before,
      answered_getPoliciesForGroups.mp answered⟩

/-- What a resolution returns was read at times in the order of its queries. -/
theorem resolveForAgentJoined_through {distributor : PolicyDistributor}
    {order : ResolveOrder} {agentId : Uuid} {bundle : PolicyBundle}
    (through : (distributor.resolveForAgentJoined order agentId).Through
      (AnsweredAt history) bundle 0 stop) :
    Exists fun policies =>
      ResolvesOver distributor history stop agentId policies ∧
      bundle = sealed distributor.sha256 policies := by
  rcases Program.through_bind through with
    ⟨⟨direct, groupIds⟩, asked, assignments, rest⟩
  rcases Program.through_both assignments with ⟨directRead, groupsRead⟩
  rcases through_read (.direct agentId) directRead with
    ⟨directAt, _, directBefore, directAre⟩
  rcases through_read (.groups agentId) groupsRead with
    ⟨groupsAt, _, groupsBefore, groupsAre⟩
  rcases Program.through_bind rest with ⟨grouped, resolved, groupedRead, rest⟩
  rcases groupPolicyIds_through groupedRead with
    ⟨groupedAt, groupedAfter, groupedBefore, groupedAsked, groupedAre⟩
  have directOrder := answered_getDirectPoliciesForAgent.mp directAre
  have groupsOrder := answered_getAgentGroupIds.mp groupsAre
  have inTime := rest.le
  have joined : directAt < groupedAt ∧ groupsAt < groupedAt ∧
    groupedAt ≤ stop := by omega
  have asked' : groupIds = [] ∨ groupedAt < stop :=
    groupedAsked.imp_right fun before => Nat.lt_of_lt_of_le before inTime
  dsimp only at rest
  split at rest
  · next none =>
    rcases rest with ⟨_, rfl⟩
    have loads :
        List.Forall₂ (LoadsOver history groupedAt stop)
          (distinctOn id (direct ++ grouped)) [] := by
      rw [List.isEmpty_iff.mp none]
      exact List.Forall₂.nil
    exact ⟨_, .loaded directOrder groupsOrder groupedAre joined asked' loads, rfl⟩
  · rcases Program.through_bind rest with
      ⟨bundles, loaded, loadsRead, returned, rfl⟩
    have loads := loads_through ((loadsRead.from groupedBefore).until returned)
    exact ⟨_, .loaded directOrder groupsOrder groupedAre joined asked' loads, rfl⟩

end Times

/-! ## What a bundle of several moments has -/

section Moments

variable {distributor : PolicyDistributor} {history : Nat -> Db} {stop : Nat}
  {agentId : Uuid} {policies : List Policy}

theorem loads_of_unedited {db : Db} {start : Nat} {policyId : Uuid}
    {bundle : Option DbPolicyBundle}
    (unedited : forall n, n < stop -> history n = db)
    (loads : LoadsOver history start stop policyId bundle) :
    Loads db policyId bundle := by
  cases loads with
  | missing during absent =>
      rw [unedited _ during.2] at absent
      exact .missing absent
  | found begun afterwards present sectionsOrder =>
      next base elementsAt checksAt remediationsAt sectionsAt policy sections =>
      have same :
          forall time,
            time ∈ [elementsAt, checksAt, remediationsAt, sectionsAt] ->
            history time = db :=
        fun time member => unedited time (afterwards time member).2
      simp only [List.mem_cons, List.not_mem_nil, or_false, forall_eq_or_imp,
        forall_eq] at same
      rcases same with ⟨sameElements, sameChecks, sameRemediations, sameSections⟩
      have baseBefore := (afterwards elementsAt List.mem_cons_self)
      rw [unedited base (Nat.lt_trans baseBefore.1 baseBefore.2)] at present
      rw [sameSections] at sectionsOrder
      rw [sameElements, sameChecks, sameRemediations]
      have samePolicy := (getPolicy_id present).2
      subst samePolicy
      exact .found present sectionsOrder

theorem loadsOver_of_loads {db : Db} {policyId : Uuid}
    {bundle : Option DbPolicyBundle} (loads : Loads db policyId bundle) :
    LoadsOver (fun _ => db) 1 4 policyId bundle := by
  cases loads with
  | missing absent => exact .missing ⟨Nat.le_refl 1, by omega⟩ absent
  | found present order =>
      have samePolicy := (getPolicy_id present).2
      subst samePolicy
      have afterwards : forall time, time ∈ [2, 2, 2, 2] -> 1 < time ∧
        time < 4 := by decide
      exact .found (Nat.le_refl 1) afterwards present order

/-- Without an edit the bundle is one of the database. -/
theorem resolves_of_unedited {db : Db}
    (resolves : ResolvesOver distributor history stop agentId policies)
    (unedited : forall n, n < stop -> history n = db) :
    Resolves distributor db agentId policies := by
  cases resolves with
  | loaded directOrder groupsOrder groupedOrder joined asked loads =>
      rw [unedited _ (Nat.lt_of_lt_of_le joined.1 joined.2.2)] at directOrder
      rw [unedited _ (Nat.lt_of_lt_of_le joined.2.1 joined.2.2)] at groupsOrder
      refine .loaded directOrder (groupedOrder.trans ?_)
        (loads.imp fun policyId bundle => loads_of_unedited unedited)
      rw [groupedPolicies]
      rcases asked with none | during
      · rw [none] at groupsOrder ⊢
        rw [← groupsOrder.nil_eq, policiesOfGroups_nil, policiesOfGroups_nil]
      · rw [unedited _ during, policiesOfGroups_perm groupsOrder]

/-- A resolution on one database is one without edits. -/
theorem resolvesOver_of_resolves {db : Db}
    (resolves : Resolves distributor db agentId policies) :
    ResolvesOver distributor (fun _ => db) 4 agentId policies := by
  cases resolves with
  | loaded directOrder groupedOrder loads =>
      have times : 0 < 1 ∧ 0 < 1 ∧ 1 ≤ 4 := by omega
      refine .loaded directOrder (List.Perm.refl _) groupedOrder times
        (Or.inr (by omega)) ?_
      exact loads.imp fun policyId bundle => loadsOver_of_loads

/-- A check and the remediation sent with it were read from rows with one
identifier. -/
theorem pairs_of_ships
    (resolves : ResolvesOver distributor history stop agentId policies)
    {hash : String} {check : PolicyCheck} {remediation : PolicyRemediation}
    (ships : PolicyBundle.Ships ⟨policies, hash⟩ check remediation) :
    Exists fun checksAt => Exists fun remediationsAt => checksAt < stop ∧
      remediationsAt < stop ∧
      distributor.Pairs (history checksAt) (history remediationsAt) check
        remediation := by
  cases resolves with
  | loaded directOrder groupsOrder groupedOrder joined asked loads =>
      rcases ships with
        ⟨policy, policyMember, element, elementMember, checkMember, shipped⟩
      rcases List.mem_map.mp policyMember with ⟨rows, rowsMember, rfl⟩
      rcases List.mem_map.mp elementMember with ⟨elementRow, -, rfl⟩
      rcases List.mem_map.mp checkMember with ⟨row, rowMember, rfl⟩
      rcases Option.map_eq_some_iff.mp shipped with ⟨repair, repairFound, rfl⟩
      have repairMember :=
        List.mem_reverse.mp (List.mem_of_find?_eq_some repairFound)
      have matched := List.find?_some repairFound
      have repairs := of_decide_eq_true matched
      rcases mem_loaded loads rowsMember with ⟨policyId, -, loaded⟩
      cases loaded with
      | found begun afterwards present sectionsOrder =>
          next base elementsAt checksAt remediationsAt sectionsAt
              policy sections =>
          have inChecks :=
            (mem_getChecksForPolicy.mp (List.mem_filter.mp rowMember).1).1
          rcases mem_getRemediationsForPolicy repairMember with
            ⟨inRemediations, repaired, inRepaired, repairsIt⟩
          have checksBefore :=
            (afterwards checksAt
              (by simp only [List.mem_cons, true_or, or_true])).2
          have remediationsBefore :=
            (afterwards remediationsAt
              (by simp only [List.mem_cons, true_or, or_true])).2
          exact ⟨checksAt, remediationsAt, checksBefore, remediationsBefore, row,
            repaired, repair, inChecks, inRepaired,
            inRemediations, repairsIt.symm.trans repairs, repairs, rfl,
              rfl, rfl, rfl⟩

end Moments

/-- For every order of the queries and every history of the database, edited as
it may be while they are answered: a bundle that is returned was put together from
what each of its queries gave at its own time, a remediation in it belonged to a
check with the identifier of the check it is sent with, and if nothing was edited
meanwhile it is a bundle of that database. -/
theorem assembled_from_committed (distributor : PolicyDistributor)
    (order : ResolveOrder) (agentId : Uuid) (envs : Nat -> Env)
    (history : Nat -> Db) (bundle : PolicyBundle)
    (resolved : distributor.resolveOver order agentId envs history = .ok bundle) :
    let stop := distributor.statementsOver order agentId envs history
    (Exists fun policies =>
      ResolvesOver distributor history stop agentId policies ∧
      bundle = sealed distributor.sha256 policies) ∧
    (forall check remediation, bundle.Ships check remediation ->
      Exists fun checksAt => Exists fun remediationsAt =>
      checksAt < stop ∧ remediationsAt < stop ∧
        distributor.Pairs (history checksAt) (history remediationsAt) check
          remediation) ∧
    (forall db, (forall n, n < stop -> history n = db) ->
      distributor.Snapshot agentId db bundle) := by
  intro stop
  have ran :
      Program.run execCommitted (distributor.resolveForAgentJoined order agentId)
      (fun n => (envs n, history n)) () = (.ok bundle, ()) :=
        Prod.ext resolved rfl
  have answers : forall n stmt (store : Unit), AnsweredAt history (0 + n) stmt
      (Program.perform execCommitted (envs n, history n) stmt store).1 := by
    intro n stmt _
    rw [Nat.zero_add]
    exact ⟨envs n, (perform_execCommitted (envs n) (history n) stmt).symm⟩
  have through := Program.run_through answers ran
  rw [Nat.zero_add] at through
  rcases resolveForAgentJoined_through through with ⟨policies, resolves, rfl⟩
  refine ⟨⟨policies, resolves, rfl⟩, ?_, ?_⟩
  · intro check remediation ships
    exact pairs_of_ships resolves ships
  · intro db unedited
    exact exists_run_resolveForAgent (resolves_of_unedited resolves unedited)

/-! ## An edit between two queries

The office's check and its remediation run the same command, and one transaction
changes both to another.  It is committed after the checks have been read and
before the remediations are.
-/

def effectiveCommand : String :=
      "\x7b\"type\":\"command\",\"run\":\"sshd -G\"\x7d"

def editedOffice : Db :=
  { officeDb with
    policyChecks := ⟨[⟨13, 11, "root login", none, effectiveCommand⟩], by decide⟩
    policyRemediations :=
      ⟨[⟨15, 13, "deny", none, effectiveCommand⟩], by decide⟩ }

def officeHistory (n : Nat) : Db := if n < 6 then officeDb else editedOffice

def mixedRemediation : PolicyRemediation :=
      ⟨"00000000-0000-0000-0000-00000000000f", "command", effectiveCommand⟩

/-- The check as it was and the remediation as it is. -/
def mixedCheck : PolicyCheck where
  id := "00000000-0000-0000-0000-00000000000d"
  name := "root login"
  checkType := "command"
  checkParamsJson := sshdCommand
  regulationSectionIds := ["00000000-0000-0000-0000-000000000010"]
  remediation := some mixedRemediation

def mixedPolicies : List Policy :=
  [{ sshPolicy with
    elements :=
      [⟨"00000000-0000-0000-0000-00000000000b", "sshd", [mixedCheck]⟩] },
        auditPolicy]

/-- The digest of the mixed bundle is recorded as well. -/
def editedSha256 (text : String) : Digest :=
  if text = hashedText mixedPolicies then
    ⟨[0x00, 0x7a, 0x38, 0xa8, 0x15, 0xaa, 0x4c, 0x91, 0xf9, 0x17, 0x0b, 0x53,
      0x7d, 0x83, 0x19, 0x1e, 0x52, 0xca, 0x08, 0xe4, 0x38, 0xc3, 0x26, 0x34,
        0x0d, 0x91, 0x13, 0xa3, 0xc1, 0x16, 0x9f, 0x64], rfl⟩
  else recordedSha256 text

/-- Both commands are read. -/
def editedDistributor (sha256 : String -> Digest) : PolicyDistributor where
  text := UuidText.crate
  fromStr text :=
    if text = effectiveCommand then
      some (.object [("type", .string "command"), ("run", .string "sshd -G")])
    else officeDistributor.fromStr text
  sha256 := sha256

theorem officeHistory_cases (n : Nat) :
    officeHistory n = officeDb ∨ officeHistory n = editedOffice := by
  unfold officeHistory
  split
  · exact Or.inl rfl
  · exact Or.inr rfl

/-- Neither content has the mixed pair. -/
theorem mixed_unpaired (sha256 : String -> Digest) (n : Nat) :
    ¬ (editedDistributor sha256).Pairs (officeHistory n)
      (officeHistory n) mixedCheck mixedRemediation := by
  rintro ⟨row, repaired, repair, inChecks, inRepaired, inRemediations, _, _, _,
    command, _, repairCommand⟩
  rcases officeHistory_cases n with before | afterwards
  · rw [before] at inRemediations
    rw [List.mem_singleton.mp inRemediations] at repairCommand
    revert repairCommand
    decide +kernel
  · rw [afterwards] at inChecks
    rw [List.mem_singleton.mp inChecks] at command
    revert command
    decide +kernel

/-- The bundle has the old command in the check and the new one in its
remediation. -/
theorem mixed_resolved (sha256 : String -> Digest) :
    (editedDistributor sha256).resolveOver .inTurn 9 (quietly 0) officeHistory =
      .ok (sealed sha256 mixedPolicies) := by
  rfl

def mixedBundle : PolicyBundle := sealed editedSha256 mixedPolicies

theorem mixedBundle_ships : mixedBundle.Ships mixedCheck mixedRemediation :=
  ⟨_, List.mem_cons_self, _, List.mem_cons_self, List.mem_cons_self, rfl⟩

/-- What the mixed bundle was put together from. -/
theorem assembled_from_committed_mixed :
    (editedDistributor editedSha256).resolveOver .inTurn 9
      (quietly 0) officeHistory = .ok mixedBundle ∧
    Exists fun checksAt => Exists fun remediationsAt =>
      (editedDistributor editedSha256).Pairs (officeHistory checksAt)
      (officeHistory remediationsAt) mixedCheck mixedRemediation := by
  have resolved := mixed_resolved editedSha256
  have assembled :=
    assembled_from_committed (editedDistributor editedSha256) .inTurn 9
      (quietly 0) officeHistory mixedBundle resolved
  rcases assembled.2.1 mixedCheck mixedRemediation mixedBundle_ships with
    ⟨checksAt, remediationsAt, _, _, pairs⟩
  exact ⟨resolved, checksAt, remediationsAt, pairs⟩

/-- The mixed bundle is that of no single content, and its check and remediation
stood together in none. -/
theorem mixed_is_no_snapshot :
    (editedDistributor editedSha256).resolveOver .inTurn 9
      (quietly 0) officeHistory = .ok mixedBundle ∧
    (forall n,
      ¬ (editedDistributor editedSha256).Snapshot 9
        (officeHistory n) mixedBundle) ∧
    mixedBundle.Ships mixedCheck mixedRemediation ∧
    (forall n,
      ¬ (editedDistributor editedSha256).Pairs (officeHistory n)
        (officeHistory n) mixedCheck
        mixedRemediation) := by
  refine ⟨mixed_resolved editedSha256, ?_, mixedBundle_ships, fun n =>
    mixed_unpaired editedSha256 n⟩
  rintro n ⟨envs, ran⟩
  rcases run_resolveForAgent_ok ran with ⟨_, policies, resolves, same⟩
  have samePolicies : mixedPolicies = policies :=
    congrArg PolicyBundle.policies same
  subst samePolicies
  rcases pairs_of_ships (resolvesOver_of_resolves resolves) mixedBundle_ships with
    ⟨_, _, _, _, pairs⟩
  exact mixed_unpaired editedSha256 n pairs

end Complyx
