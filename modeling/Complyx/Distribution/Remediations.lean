import Complyx.Distribution.Regroup
import Complyx.Distribution.RowOrder

namespace Complyx

open Transition Relational

/-!
# Which remediations are delivered

The schema lets any number of remediations name one check, and the message of a
check has room for one.  The last one in the order of identifiers is delivered,
and of the others neither the bundle nor its hash says anything.
-/

/-- The remediation is for a check of a policy assigned to the agent. -/
structure RemediationFor (db : Db) (agentId : Uuid) (row : PolicyRemediationRow)
    (check : PolicyCheckRow) (element : PolicyElementRow) : Prop where
  rowMember : row ∈ db.policyRemediations.rows
  checkMember : check ∈ db.policyChecks.rows
  elementMember : element ∈ db.policyElements.rows
  ofCheck : row.policyCheckId = check.id
  ofElement : check.policyElementId = element.id
  assigned : db.policyAssigned agentId element.policyId = true
  existing : (getPolicy element.policyId db).isSome = true

/-- No remediation of the same check has a greater identifier. -/
def LastRemediation (db : Db) (row : PolicyRemediationRow) : Prop :=
  forall other, other ∈ db.policyRemediations.rows ->
    other.policyCheckId = row.policyCheckId -> other.id ≤ row.id

/-- Some check of the bundle with the identifier carries the remediation. -/
def PolicyBundle.Carries (bundle : PolicyBundle) (checkId : String)
    (remediation : PolicyRemediation) : Prop :=
  Exists fun policy => policy ∈ bundle.policies ∧ Exists fun element =>
    element ∈ policy.elements ∧
    Exists fun check => check ∈ element.checks ∧ check.id = checkId ∧
      check.remediation = some remediation

/-- The bundle carries the remediation where its check is. -/
def PolicyDistributor.Delivers (distributor : PolicyDistributor)
    (bundle : PolicyBundle) (row : PolicyRemediationRow) : Prop :=
  bundle.Carries (distributor.text.toText row.policyCheckId)
    (distributor.protoRemediation row)

/-- Every remediation for the agent's checks is delivered. -/
def PolicyDistributor.DeliversAll (distributor : PolicyDistributor) (db : Db)
    (agentId : Uuid) (bundle : PolicyBundle) : Prop :=
  forall row check element, RemediationFor db agentId row check element ->
    distributor.Delivers bundle row

/-! ## The order of the query -/

section Order

variable {db : Db} {policyId : Uuid}

abbrev remediationsJoined (policyId : Uuid) (db : Db) :
    List (PolicyRemediationRow × PolicyCheckRow × PolicyElementRow) :=
  innerJoin (fun pr row => pr.policyCheckId = row.1.id) db.policyRemediations.rows
    (checksWithElements policyId db)

/-- The order of `get_remediations_for_policy`. -/
def RemediationPrecedes
    (first second : PolicyRemediationRow × PolicyCheckRow × PolicyElementRow) :
    Prop :=
  idsLe (first.2.1.id, first.1.id) (second.2.1.id, second.1.id)

instance : DecidableRel RemediationPrecedes := fun first second =>
  inferInstanceAs
    (Decidable (idsLe (first.2.1.id, first.1.id) (second.2.1.id, second.1.id)))

theorem idsLe_total (first second : Uuid × Uuid) :
    idsLe first second ∨ idsLe second first := by
  unfold idsLe
  bv_omega

theorem idsLe_trans {first second third : Uuid × Uuid} (le : idsLe first second)
    (le' : idsLe second third) :
    idsLe first third := by
  rcases le with before | ⟨same, below⟩ <;> rcases le' with
    before' | ⟨same', below'⟩
  · exact Or.inl (BitVec.lt_trans before before')
  · exact Or.inl (same' ▸ before)
  · exact Or.inl (same ▸ before')
  · exact Or.inr ⟨same.trans same', BitVec.le_trans below below'⟩

instance : Std.Total RemediationPrecedes := ⟨fun _ _ => idsLe_total _ _⟩

instance : IsTrans _ RemediationPrecedes := ⟨fun _ _ _ => idsLe_trans⟩

theorem getRemediationsForPolicy_eq (policyId : Uuid) (db : Db) :
    getRemediationsForPolicy policyId db =
      ((remediationsJoined policyId db).insertionSort RemediationPrecedes).map
        Prod.fst := rfl

theorem mem_remediationsJoined {row : PolicyRemediationRow}
    {check : PolicyCheckRow} {element : PolicyElementRow} :
    (row, check, element) ∈ remediationsJoined policyId db <->
      row ∈ db.policyRemediations.rows ∧
      row.policyCheckId = check.id ∧ check ∈ db.policyChecks.rows ∧
        element ∈ db.policyElements.rows ∧
        check.policyElementId = element.id ∧ element.policyId = policyId := by
  rw [remediationsJoined, mem_innerJoin, mem_checksWithElements,
    decide_eq_true_eq]
  constructor
  · rintro ⟨member, joined, same⟩
    exact ⟨member, same, joined⟩
  · rintro ⟨member, same, joined⟩
    exact ⟨member, joined, same⟩

/-- The remediations of one check come in the order of their identifiers. -/
theorem getRemediationsForPolicy_ordered (checkId : Uuid) :
    (getRemediationsForPolicy policyId db).Pairwise fun first second =>
      decide (first.policyCheckId = checkId) = true ->
        decide (second.policyCheckId = checkId) = true ->
        first.id ≤ second.id := by
  rw [getRemediationsForPolicy_eq, List.pairwise_map]
  apply (List.pairwise_insertionSort RemediationPrecedes
    (remediationsJoined policyId db)).imp_of_mem
  rintro ⟨first, check, element⟩ ⟨second, check', element'⟩ member member'
    precedes named named'
  rw [List.mem_insertionSort, mem_remediationsJoined] at member member'
  have sameCheck : check.id = check'.id :=
    member.2.1.symm.trans
      ((of_decide_eq_true named).trans
        ((of_decide_eq_true named').symm.trans member'.2.1))
  rcases precedes with before | ⟨_, below⟩
  · dsimp only at before
    rw [sameCheck] at before
    exact absurd before (BitVec.lt_irrefl _)
  · exact below

/-- Of the rows the query gives for a check, the last is the one with the
greatest identifier. -/
theorem isLast_remediation_iff {check : PolicyCheckRow}
    {element : PolicyElementRow} (checkMember : check ∈ db.policyChecks.rows)
    (elementMember : element ∈ db.policyElements.rows)
    (ofElement : check.policyElementId = element.id)
    (ofPolicy : element.policyId = policyId) {row : PolicyRemediationRow} :
    IsLast (fun row => decide (row.policyCheckId = check.id))
      (getRemediationsForPolicy policyId db) row <->
      row ∈ db.policyRemediations.rows ∧ row.policyCheckId = check.id ∧
        LastRemediation db row := by
  have present : forall {row : PolicyRemediationRow},
    row.policyCheckId = check.id ->
      (row ∈ getRemediationsForPolicy policyId db <->
        row ∈ db.policyRemediations.rows) := by
    intro row named
    refine ⟨fun member => (mem_getRemediationsForPolicy member).1, ?_⟩
    intro member
    rw [getRemediationsForPolicy_eq, List.mem_map]
    refine ⟨(row, check, element), ?_, rfl⟩
    rw [List.mem_insertionSort, mem_remediationsJoined]
    exact ⟨member, named, checkMember, elementMember, ofElement, ofPolicy⟩
  rw [isLast_iff_greatest (getRemediationsForPolicy_ordered check.id) fun row =>
    BitVec.le_refl row.id]
  · constructor
    · rintro ⟨member, named, above⟩
      have names := of_decide_eq_true named
      refine ⟨(present names).mp member, names, ?_⟩
      intro other otherMember sameCheck
      have names' := sameCheck.trans names
      exact above other ((present names').mpr otherMember) (decide_eq_true names')
    · rintro ⟨member, names, above⟩
      refine ⟨(present names).mpr member, decide_eq_true names, ?_⟩
      intro other otherMember named'
      have names' := of_decide_eq_true named'
      exact above other ((present names').mp otherMember)
        (names'.trans names.symm)
  · intro first firstMember second secondMember below above
    have same : first.id = second.id := BitVec.le_antisymm below above
    exact Table.eq_of_key (fun _ _ same => same) db.policyRemediations
      (mem_getRemediationsForPolicy firstMember).1
      (mem_getRemediationsForPolicy secondMember).1 same

end Order

/-! ## What a bundle carries -/

section Carries

variable {distributor : PolicyDistributor} {db : Db} {agentId : Uuid}

theorem carries_iff {policies : List Policy}
    (resolves : Resolves distributor db agentId policies) {hash checkId : String}
    {remediation : PolicyRemediation} :
    (⟨policies, hash⟩ : PolicyBundle).Carries checkId remediation <->
      Exists fun row => Exists fun check => Exists fun element =>
        RemediationFor db agentId row check element ∧
        LastRemediation db row ∧
          distributor.text.toText row.policyCheckId = checkId ∧
          distributor.protoRemediation row = remediation := by
  cases resolves with
  | loaded directOrder groupedOrder loads =>
      constructor
      · rintro ⟨message, member, elementMessage, inMessage, checkMessage,
          inElement, named, carried⟩
        rcases List.mem_map.mp member with ⟨rows, rowsMember, rfl⟩
        rcases mem_loaded loads rowsMember with ⟨policyId, resolved, loaded⟩
        cases loaded with
        | found present order =>
            rcases List.mem_map.mp inMessage with ⟨element, elementLoaded, rfl⟩
            rcases List.mem_map.mp inElement with ⟨check, checkLoaded, rfl⟩
            rcases List.mem_filter.mp checkLoaded with ⟨checkLoaded, sameElement⟩
            have ofElement := of_decide_eq_true sameElement
            have inElements := mem_getElementsForPolicy.mp elementLoaded
            have inChecks := (mem_getChecksForPolicy.mp checkLoaded).1
            rcases ((PolicyDistributor.protoCheck_message _ check).last
              remediation).mp carried with ⟨row, last, same⟩
            rcases (isLast_remediation_iff inChecks inElements.1 ofElement
                inElements.2).mp last with
              ⟨rowMember, ofCheck, greatest⟩
            have samePolicy := (getPolicy_id present).2
            refine ⟨row, check, element,
              ⟨rowMember, inChecks, inElements.1, ofCheck, ofElement, ?_, ?_⟩,
              greatest, ?_, same.symm⟩
            · rw [inElements.2, samePolicy]
              exact (mem_resolvedIds directOrder groupedOrder policyId).mp
                resolved
            · rw [inElements.2, samePolicy, present]
              rfl
            · rw [ofCheck]
              exact named
      · rintro ⟨row, check, element, belongs, greatest, rfl, rfl⟩
        have resolved :=
          (mem_resolvedIds directOrder groupedOrder element.policyId).mpr
            belongs.assigned
        rcases loaded_of_mem loads resolved with ⟨bundle, bundleMember, loaded⟩
        cases loaded with
        | missing absent =>
            have existing := belongs.existing
            rw [absent] at existing
            cases existing
        | @found policy sections present order =>
            have samePolicy := (getPolicy_id present).2.symm
            have elementLoaded : element ∈ getElementsForPolicy policy.id db :=
              mem_getElementsForPolicy.mpr ⟨belongs.elementMember, samePolicy⟩
            have checkLoaded : check ∈ getChecksForPolicy policy.id db :=
              mem_getChecksForPolicy.mpr
                ⟨belongs.checkMember, element, belongs.elementMember,
                  belongs.ofElement, samePolicy⟩
            have last :=
              (isLast_remediation_iff belongs.checkMember belongs.elementMember
                belongs.ofElement
                  samePolicy).mpr
                ⟨belongs.rowMember, belongs.ofCheck, greatest⟩
            refine ⟨_,
              List.mem_map.mpr
              ⟨_, List.mem_filterMap.mpr ⟨_, bundleMember, rfl⟩, rfl⟩, _,
                List.mem_map.mpr ⟨element, elementLoaded, rfl⟩,
                distributor.protoCheck (policyRows db policy sections) check,
              ?_, ?_, ?_⟩
            · exact List.mem_map_of_mem
                (List.mem_filter.mpr
                  ⟨checkLoaded, decide_eq_true belongs.ofElement⟩)
            · rw [belongs.ofCheck]
              rfl
            · exact ((PolicyDistributor.protoCheck_message _ check).last _).mpr
                ⟨row, last, rfl⟩

theorem PolicyDistributor.protoRemediation_inj {row other : PolicyRemediationRow}
    (same : distributor.protoRemediation row =
      distributor.protoRemediation other) :
    row.id = other.id ∧ row.remediationCommand = other.remediationCommand :=
  ⟨distributor.text.toText_injective (congrArg PolicyRemediation.id same),
    congrArg PolicyRemediation.remediationParamsJson same⟩

/-- Of the remediations for the agent's checks, the last of each check is
delivered and no other. -/
theorem delivers_iff {policies : List Policy}
    (resolves : Resolves distributor db agentId policies) {hash : String}
    {row : PolicyRemediationRow} {check : PolicyCheckRow}
    {element : PolicyElementRow}
    (belongs : RemediationFor db agentId row check element) :
    distributor.Delivers ⟨policies, hash⟩ row <-> LastRemediation db row := by
  rw [PolicyDistributor.Delivers, carries_iff resolves]
  constructor
  · rintro ⟨other, _, _, belongs', greatest, _, same⟩
    have sameId := (PolicyDistributor.protoRemediation_inj same).1
    rw [← Table.eq_of_key (fun _ _ same => same) db.policyRemediations
      belongs'.rowMember belongs.rowMember sameId]
    exact greatest
  · intro greatest
    exact ⟨row, check, element, belongs, greatest, rfl, rfl⟩

end Carries

/-! ## Every resolution -/

/-- A resolution that succeeds delivers of each check of the agent's policies the
remediation with the greatest identifier, and the same bundle from another
database means the same identifiers and commands there. -/
theorem last_remediations_delivered (distributor : PolicyDistributor)
    (agentId : Uuid) {envs envs' : Nat -> Env} {db db' left left' : Db}
    {bundle bundle' : PolicyBundle}
    (resolved : Program.run exec (distributor.resolveForAgent agentId) envs db =
      (.ok bundle, left))
    (resolved' : Program.run exec (distributor.resolveForAgent agentId) envs'
      db' = (.ok bundle', left')) :
    (forall row check element, RemediationFor db agentId row check element ->
      (distributor.Delivers bundle row <-> LastRemediation db row)) ∧
    (bundle = bundle' -> forall row check element,
      RemediationFor db agentId row check element ->
      LastRemediation db row ->
      Exists fun row' => Exists fun check' => Exists fun element' =>
        RemediationFor db' agentId row' check' element' ∧
        LastRemediation db' row' ∧ row'.policyCheckId = row.policyCheckId ∧
          row'.id = row.id ∧
        row'.remediationCommand = row.remediationCommand) := by
  rcases run_resolveForAgent_ok resolved with ⟨_, policies, resolves, rfl⟩
  rcases run_resolveForAgent_ok resolved' with ⟨_, policies', resolves', rfl⟩
  constructor
  · intro row check element belongs
    exact delivers_iff resolves belongs
  · intro same row check element belongs greatest
    have delivered :
        distributor.Delivers (sealed distributor.sha256 policies) row :=
      (delivers_iff resolves belongs).mpr greatest
    rw [same] at delivered
    rcases (carries_iff resolves').mp delivered with
      ⟨row', check', element', belongs', greatest', sameCheck, sameMessage⟩
    have sameRow := PolicyDistributor.protoRemediation_inj sameMessage
    exact ⟨row', check', element', belongs', greatest',
      distributor.text.toText_injective sameCheck, sameRow⟩

/-! ## Two remediations of one check -/

def warnRemediation (command : String) : PolicyRemediationRow :=
  ⟨14, 13, "warn", none, command⟩

/-- The office with a second remediation for its check. -/
def twiceRemediedDb (command : String) : Db :=
  { officeDb with
    policyRemediations :=
      ⟨[warnRemediation command, ⟨15, 13, "deny", none, sshdCommand⟩], by
          refine List.Pairwise.cons ?_ (List.pairwise_singleton _ _)
          intro other member
          rw [List.mem_singleton.mp member]
          exact (by decide : (14 : Uuid) ≠ 15)⟩ }

theorem warnRemediation_for (command : String) :
    RemediationFor (twiceRemediedDb command) 9 (warnRemediation command)
      ⟨13, 11, "root login", none, sshdCommand⟩
      ⟨11, 21, some "sshd"⟩ :=
  ⟨List.mem_cons_self, List.mem_cons_self, List.mem_cons_self, rfl, rfl, rfl, rfl⟩

/-- The second remediation is delivered and the first one is not. -/
theorem last_remediations_delivered_twice : Exists fun bundle =>
    officeDistributor.Delivers bundle ⟨15, 13, "deny", none, sshdCommand⟩ ∧
    ¬ officeDistributor.Delivers bundle (warnRemediation "\x7b\x7d") := by
  rcases exists_run_resolveForAgent
      (resolves_storedOrder officeDistributor (twiceRemediedDb "\x7b\x7d") 9) with
    ⟨envs, resolved⟩
  have deliveries :=
    (last_remediations_delivered officeDistributor 9 resolved resolved).1
  refine ⟨_,
    (deliveries _ ⟨13, 11, "root login", none, sshdCommand⟩
      ⟨11, 21, some "sshd"⟩ ?_).mpr ?_, ?_⟩
  · exact ⟨List.mem_cons_of_mem _ List.mem_cons_self, List.mem_cons_self,
      List.mem_cons_self, rfl, rfl, rfl, rfl⟩
  · intro other member _
    rcases List.mem_cons.mp member with rfl | later
    · exact (by decide : (14 : Uuid) ≤ 15)
    · rw [List.mem_singleton.mp later]
      exact BitVec.le_refl _
  · intro delivered
    have greatest :=
      (deliveries _ _ _ (warnRemediation_for "\x7b\x7d")).mp delivered
    exact absurd
      (greatest ⟨15, 13, "deny", none, sshdCommand⟩
        (List.mem_cons_of_mem _ List.mem_cons_self) rfl)
      (by decide : ¬ (15 : Uuid) ≤ 14)

/-- The first remediation is not in the bundle, and the bundle is the same when
it has another command. -/
theorem first_remediation_lost : Exists fun bundle =>
    (Exists fun envs =>
      Program.run exec (officeDistributor.resolveForAgent 9) envs
        (twiceRemediedDb sshdCommand) =
        (.ok bundle, twiceRemediedDb sshdCommand)) ∧
    (Exists fun envs =>
      Program.run exec (officeDistributor.resolveForAgent 9) envs
        (twiceRemediedDb "\x7b\x7d") =
        (.ok bundle, twiceRemediedDb "\x7b\x7d")) ∧
    ¬ officeDistributor.DeliversAll (twiceRemediedDb sshdCommand) 9 bundle := by
  have resolves :=
    resolves_storedOrder officeDistributor (twiceRemediedDb sshdCommand) 9
  have resolves' :=
    resolves_storedOrder officeDistributor (twiceRemediedDb "\x7b\x7d") 9
  have same : storedOrder officeDistributor (twiceRemediedDb "\x7b\x7d") 9 =
      storedOrder officeDistributor (twiceRemediedDb sshdCommand) 9 := by
        decide +kernel
  rw [same] at resolves'
  refine ⟨_, exists_run_resolveForAgent resolves,
    exists_run_resolveForAgent resolves', ?_⟩
  intro all
  have greatest := (delivers_iff resolves (warnRemediation_for sshdCommand)).mp
    (all _ _ _ (warnRemediation_for sshdCommand))
  exact absurd
    (greatest ⟨15, 13, "deny", none, sshdCommand⟩
      (List.mem_cons_of_mem _ List.mem_cons_self) rfl)
    (by decide : ¬ (15 : Uuid) ≤ 14)

end Complyx
