import Complyx.Distribution.Resolver

namespace Complyx

open Transition Relational

/-!
# What is distributed is what is accepted

The resolver collects assigned policies list by list and regroups their checks,
the validation of results looks checks up in one query.  Both read the same
assignments: a bundle lists every assigned policy once, and its checks are the
ones of which results are accepted.
-/

/-- The check identifiers in a bundle. -/
def PolicyBundle.checkIds (bundle : PolicyBundle) : List String :=
  bundle.policies.flatMap fun policy => policy.elements.flatMap fun element =>
    element.checks.map PolicyCheck.id

/-- The bundle has each existing policy assigned to the agent once, no other,
and the checks of which results of the agent are accepted. -/
structure Distributes (distributor : PolicyDistributor) (db : Db) (agentId : Uuid)
    (bundle : PolicyBundle) : Prop where
  policies : forall text, text ∈ bundle.policies.map Policy.id <->
    Exists fun policy => policy ∈ db.policies.rows ∧
    db.policyAssigned agentId policy.id = true ∧
      text = distributor.text.toText policy.id
  once : (bundle.policies.map Policy.id).Nodup
  checks : forall {checkIds : List Uuid} {checkId : Uuid}, checkId ∈ checkIds ->
    (distributor.text.toText checkId ∈ bundle.checkIds <->
      checkId ∉ validateCheckIdsForAgent agentId checkIds db)
  known : forall text, text ∈ bundle.checkIds -> Exists fun checkId =>
    text = distributor.text.toText checkId

theorem UuidText.toText_injective (text : UuidText) :
    Function.Injective text.toText := by
  intro first second same
  have parsed := congrArg text.parse same
  rw [text.parse_toText, text.parse_toText] at parsed
  exact Option.some.inj parsed

section Resolves

variable {distributor : PolicyDistributor} {db : Db} {agentId : Uuid}

/-- The identifiers that are resolved are those assigned. -/
theorem mem_resolvedIds {direct grouped : List Uuid}
    (directOrder : direct.Perm (directPolicies agentId db))
    (groupedOrder : grouped.Perm (groupedPolicies agentId db)) (policyId : Uuid) :
    policyId ∈ distinctOn id (direct ++ grouped) <->
      db.policyAssigned agentId policyId = true := by
  rw [mem_distinctOn_id, List.mem_append, directOrder.mem_iff,
    groupedOrder.mem_iff, Db.policyAssigned_iff]
  rw [groupedPolicies, mem_policiesOfGroups]
  simp only [directPolicies, agentGroups, List.mem_map, List.mem_filter,
    decide_eq_true_eq, and_assoc]
  apply or_congr_right
  constructor
  · rintro ⟨grouped, member, ⟨membership, inGroup, same, sameGroup⟩, samePolicy⟩
    exact ⟨grouped, membership, member, samePolicy, inGroup, sameGroup, same⟩
  · rintro ⟨grouped, membership, member, samePolicy, inGroup, sameGroup, same⟩
    exact ⟨grouped, member, ⟨membership, inGroup, same, sameGroup⟩, samePolicy⟩

/-- The policies that exist keep the order of their identifiers. -/
theorem loaded_ids {policyIds : List Uuid}
    {bundles : List (Option DbPolicyBundle)}
    (loads : List.Forall₂ (Loads db) policyIds bundles) :
    ((bundles.filterMap id).map distributor.dbBundleToProto).map Policy.id =
      (policyIds.filter fun policyId => (getPolicy policyId db).isSome).map
        distributor.text.toText := by
  induction loads with
  | nil => rfl
  | cons first _ ih =>
      cases first with
      | missing absent =>
          simp only [List.filterMap_cons, id_eq, List.filter_cons, absent,
            Option.isSome_none, Bool.false_eq_true, if_false]
          exact ih
      | found present order =>
          simp only [List.filterMap_cons, id_eq, List.filter_cons, present,
            Option.isSome_some, if_true, List.map_cons]
          rw [← (getPolicy_id present).2]
          exact congrArg (List.cons _) ih

/-- The rows loaded are those of the policies that exist. -/
theorem mem_loaded {loading : Uuid -> Option DbPolicyBundle -> Prop}
    {policyIds : List Uuid} {bundles : List (Option DbPolicyBundle)}
    (loads : List.Forall₂ loading policyIds bundles) {rows : DbPolicyBundle}
    (member : rows ∈ bundles.filterMap id) :
    Exists fun policyId => policyId ∈ policyIds ∧
      loading policyId (some rows) := by
  rw [List.mem_filterMap] at member
  rcases member with ⟨loaded, member, same⟩
  rw [id_eq] at same
  subst same
  induction loads with
  | nil => cases member
  | cons first _ ih =>
      rcases List.mem_cons.mp member with rfl | later
      · exact ⟨_, List.mem_cons_self, first⟩
      · rcases ih later with ⟨policyId, inRest, loaded⟩
        exact ⟨policyId, List.mem_cons_of_mem _ inRest, loaded⟩

theorem loaded_of_mem {policyIds : List Uuid}
    {bundles : List (Option DbPolicyBundle)}
    (loads : List.Forall₂ (Loads db) policyIds bundles) {policyId : Uuid}
    (member : policyId ∈ policyIds) :
    Exists fun bundle => bundle ∈ bundles ∧ Loads db policyId bundle := by
  induction loads with
  | nil => cases member
  | cons first _ ih =>
      rcases List.mem_cons.mp member with rfl | later
      · exact ⟨_, List.mem_cons_self, first⟩
      · rcases ih later with ⟨bundle, inRest, loaded⟩
        exact ⟨bundle, List.mem_cons_of_mem _ inRest, loaded⟩

/-- The checks of the message of a policy. -/
theorem mem_protoChecks {policy : PolicyRow}
    {sections : List CheckRegulationSectionRow} {text : String} :
    (text ∈ (distributor.dbBundleToProto
      (policyRows db policy sections)).elements.flatMap fun element =>
      element.checks.map PolicyCheck.id) <->
      Exists fun check => Exists fun element => check ∈ db.policyChecks.rows ∧
        element ∈ db.policyElements.rows ∧
        element.id = check.policyElementId ∧ element.policyId = policy.id ∧
          text = distributor.text.toText check.id := by
  rw [List.mem_flatMap]
  constructor
  · rintro ⟨protoElement, elementMember, textMember⟩
    rcases List.mem_map.mp elementMember with ⟨element, inElements, rfl⟩
    rcases List.mem_map.mp textMember with ⟨protoCheck, checkMember, rfl⟩
    rcases List.mem_map.mp checkMember with ⟨check, inChecks, rfl⟩
    rcases List.mem_filter.mp inChecks with ⟨checkPresent, sameElement⟩
    have elementPresent := mem_getElementsForPolicy.mp inElements
    exact ⟨check, element, (mem_getChecksForPolicy.mp checkPresent).1,
      elementPresent.1, (of_decide_eq_true sameElement).symm,
        elementPresent.2, rfl⟩
  · rintro ⟨check, element, checkMember, elementMember, sameElement,
      samePolicy, rfl⟩
    have inElements : element ∈ getElementsForPolicy policy.id db :=
      mem_getElementsForPolicy.mpr ⟨elementMember, samePolicy⟩
    have inChecks : check ∈ getChecksForPolicy policy.id db :=
      mem_getChecksForPolicy.mpr
        ⟨checkMember, element, elementMember, sameElement.symm, samePolicy⟩
    refine ⟨_, List.mem_map.mpr ⟨element, inElements, rfl⟩,
      List.mem_map.mpr ⟨_, List.mem_map.mpr ⟨check, ?_, rfl⟩, rfl⟩⟩
    exact List.mem_filter.mpr ⟨inChecks, decide_eq_true sameElement.symm⟩

/-- The checks of a bundle are those of the policies assigned that exist. -/
theorem mem_checkIds {policies : List Policy}
    (resolves : Resolves distributor db agentId policies) {hash text : String} :
    text ∈ (⟨policies, hash⟩ : PolicyBundle).checkIds <->
      Exists fun check => Exists fun element => check ∈ db.policyChecks.rows ∧
        element ∈ db.policyElements.rows ∧
        element.id = check.policyElementId ∧
          db.policyAssigned agentId element.policyId = true ∧
        (getPolicy element.policyId db).isSome = true ∧
          text = distributor.text.toText check.id := by
  cases resolves with
  | loaded directOrder groupedOrder loads =>
      rw [PolicyBundle.checkIds, List.mem_flatMap]
      constructor
      · rintro ⟨policy, member, inPolicy⟩
        rcases List.mem_map.mp member with ⟨rows, rowsMember, rfl⟩
        rcases mem_loaded loads rowsMember with ⟨policyId, resolved, loaded⟩
        cases loaded with
        | found present order =>
            rcases mem_protoChecks.mp inPolicy with
              ⟨check, element, checkMember, elementMember, same,
                samePolicy, written⟩
            rw [(getPolicy_id present).2] at samePolicy
            refine ⟨check, element, checkMember, elementMember, same, ?_,
              ?_, written⟩
            · rw [samePolicy]
              exact (mem_resolvedIds directOrder groupedOrder policyId).mp
                resolved
            · rw [samePolicy, present]
              rfl
      · rintro ⟨check, element, checkMember, elementMember, same, assigned,
          existing, written⟩
        have resolved :=
          (mem_resolvedIds directOrder groupedOrder element.policyId).mpr assigned
        rcases loaded_of_mem loads resolved with ⟨bundle, bundleMember, loaded⟩
        cases loaded with
        | missing absent =>
            rw [absent] at existing
            cases existing
        | found present order =>
            refine ⟨_,
              List.mem_map.mpr ⟨_, List.mem_filterMap.mpr ⟨_, bundleMember, rfl⟩,
                rfl⟩, mem_protoChecks.mpr ?_⟩
            exact ⟨check, element, checkMember, elementMember, same,
              (getPolicy_id present).2.symm, written⟩

end Resolves

/-- For every database whose policy elements belong to existing policies, a
resolution distributes exactly what is accepted, and without faults there is
one. -/
theorem distributed_is_accepted (distributor : PolicyDistributor) (agentId : Uuid)
    (db : Db)
    (owned : forall element, element ∈ db.policyElements.rows ->
      (getPolicy element.policyId db).isSome = true)
    (envs : Nat -> Env) :
    (forall bundle db',
      Program.run exec (distributor.resolveForAgent agentId) envs db =
        (.ok bundle, db') ->
        db' = db ∧ Distributes distributor db agentId bundle) ∧
    ((forall n, (envs n).fault = none) -> Exists fun bundle =>
      Program.run exec (distributor.resolveForAgent agentId) envs db =
        (.ok bundle, db)) := by
  refine ⟨?_, fun clear => run_resolveForAgent_clear distributor agentId clear db⟩
  intro bundle db' resolved
  rcases run_resolveForAgent_ok resolved with ⟨sameDb, policies, resolves, rfl⟩
  refine ⟨sameDb, ?_, ?_, ?_, ?_⟩
  · intro text
    cases resolves with
    | loaded directOrder groupedOrder loads =>
        simp only [sealed, loaded_ids loads, List.mem_map, List.mem_filter,
          mem_resolvedIds directOrder groupedOrder]
        constructor
        · rintro ⟨policyId, ⟨assigned, existing⟩, rfl⟩
          rcases Option.isSome_iff_exists.mp existing with ⟨policy, present⟩
          rcases getPolicy_id present with ⟨member, same⟩
          exact ⟨policy, member, by rw [same]; exact assigned, by rw [same]⟩
        · rintro ⟨policy, member, assigned, rfl⟩
          have separates : forall first second : PolicyRow,
              first.id = second.id -> first.Clash second :=
            fun first second => Or.inl
          have present := (Table.find_eq_some_iff separates).mpr ⟨member, rfl⟩
          refine ⟨policy.id, ⟨assigned, ?_⟩, rfl⟩
          rw [getPolicy, present]
          rfl
  · cases resolves with
    | loaded directOrder groupedOrder loads =>
        rw [sealed, loaded_ids loads]
        exact ((nodup_distinctOn_id _).filter _).map
          distributor.text.toText_injective
  · intro checkIds checkId requested
    rw [sealed, mem_checkIds resolves, mem_validateCheckIdsForAgent,
      not_and_not_right]
    constructor
    · rintro ⟨check, element, checkMember, elementMember, same, assigned,
        _, written⟩ _
      exact ⟨check, element, checkMember,
        (distributor.text.toText_injective written).symm, elementMember, same,
          Db.policyAssigned_iff.mp assigned⟩
    · intro accepted
      rcases accepted requested with
        ⟨check, element, checkMember, sameId, elementMember, same, assigned⟩
      exact ⟨check, element, checkMember, elementMember, same,
        Db.policyAssigned_iff.mpr assigned, owned element elementMember, by
          rw [sameId]⟩
  · intro text member
    rcases (mem_checkIds resolves).mp member with
      ⟨check, _, _, _, _, _, _, written⟩
    exact ⟨check.id, written⟩

/-! ## An office with two policies

The first is assigned both to the agent and to its group, the second to the
group.
-/

def sshdCommand : String := "\x7b\"type\":\"command\",\"run\":\"sshd -T\"\x7d"

def officeDb : Db where
  agents :=
    ⟨[⟨9, .host 0x0a000002, some "desk-02", some "Linux", some "6.8",
        newYear.nanos, newYear.nanos, true⟩], by decide⟩
  agentGroupMembership := ⟨[⟨9, 31⟩], by decide⟩
  policies :=
    ⟨[⟨21, "SSH", "1.0", none, some "high"⟩, ⟨22, "Audit", "2.1", none, none⟩], by
      decide⟩
  policyElements := ⟨[⟨11, 21, some "sshd"⟩], by decide⟩
  policyChecks := ⟨[⟨13, 11, "root login", none, sshdCommand⟩], by decide⟩
  policyRemediations := ⟨[⟨15, 13, "deny", none, sshdCommand⟩], by decide⟩
  checkRegulationSections := ⟨[⟨13, 16⟩], by decide⟩
  agentPolicies := ⟨[⟨9, 21⟩], by decide⟩
  groupPolicies := ⟨[⟨31, 21⟩, ⟨31, 22⟩], by decide⟩

/-- The message of the first policy. -/
def sshPolicy : Policy where
  id := "00000000-0000-0000-0000-000000000015"
  name := "SSH"
  version := "1.0"
  severity := "high"
  elements := [{
    id := "00000000-0000-0000-0000-00000000000b"
    name := "sshd"
    checks := [{
      id := "00000000-0000-0000-0000-00000000000d"
      name := "root login"
      checkType := "command"
      checkParamsJson := sshdCommand
      regulationSectionIds := ["00000000-0000-0000-0000-000000000010"]
      remediation :=
        some ⟨"00000000-0000-0000-0000-00000000000f", "command",
          sshdCommand⟩ }] }]

/-- The message of the second one. -/
def auditPolicy : Policy :=
      ⟨"00000000-0000-0000-0000-000000000016", "Audit", "2.1", "", []⟩

/-- The digests of the bundles with both policies, in either order, and of the
empty one. -/
def recordedSha256 (text : String) : Digest :=
  if text = hashedText [sshPolicy, auditPolicy] then
    ⟨[0x86, 0x1a, 0x5a, 0x16, 0x85, 0x6c, 0xac, 0x9f, 0xcf, 0x38, 0x13, 0x60,
      0xe2, 0x45, 0x78, 0x19, 0x8c, 0x10, 0x54, 0xc5, 0xad, 0x17, 0xb5, 0x30,
        0x8c, 0xf5, 0xac, 0x4e, 0xf3, 0x5b, 0x11, 0xc9], rfl⟩
  else if text = hashedText [auditPolicy, sshPolicy] then
    ⟨[0xbb, 0x56, 0x57, 0xf3, 0x4d, 0x91, 0x4c, 0x64, 0x26, 0x42, 0x3e, 0x40,
      0xfc, 0xb1, 0xaa, 0xbd, 0xb7, 0x51, 0xf4, 0x32, 0x89, 0xe2, 0x9e, 0xa5,
        0x00, 0xed, 0x78, 0xbc, 0xb4, 0x83, 0x96, 0x5b], rfl⟩
  else
    ⟨[0x74, 0x18, 0x4c, 0xf5, 0x03, 0xd1, 0x5e, 0x85, 0x7a, 0x62, 0x91, 0xd9,
      0x1b, 0xb3, 0xd7, 0x81, 0xc0, 0xe2, 0xfb, 0xb3, 0x08, 0xf0, 0x50, 0xef,
        0x42, 0xa9, 0x65, 0xf4, 0xd4, 0xb6, 0x89, 0x99], rfl⟩

/-- One command is read, nothing else is JSON here. -/
def officeDistributor : PolicyDistributor where
  text := UuidText.crate
  fromStr text :=
    if text = sshdCommand then
      some (.object [("type", .string "command"), ("run", .string "sshd -T")])
      else none
  sha256 := recordedSha256

theorem officeDistributor_sha256 (text : String) :
    officeDistributor.sha256 text = recordedSha256 text := by
  rw [officeDistributor]

/-- The office's bundle distributes both policies. -/
theorem distributed_is_accepted_office :
    (forall element, element ∈ officeDb.policyElements.rows ->
      (getPolicy element.policyId officeDb).isSome = true) ∧
      Exists fun bundle =>
        Program.run exec (officeDistributor.resolveForAgent 9)
          (quietly 0) officeDb = (.ok bundle, officeDb) ∧
          Distributes officeDistributor officeDb 9 bundle := by
  have owned : forall element, element ∈ officeDb.policyElements.rows ->
      (getPolicy element.policyId officeDb).isSome = true := by decide
  have accepted :=
    distributed_is_accepted officeDistributor 9 officeDb owned (quietly 0)
  rcases accepted.2 fun _ => rfl with ⟨bundle, resolved⟩
  exact ⟨owned, bundle, resolved, (accepted.1 bundle officeDb resolved).2⟩

end Complyx
