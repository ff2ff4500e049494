import Complyx.Distribution.Accepted

namespace Complyx

open Transition Relational

/-!
# Does the order of rows matter?

The assignments and the sections of checks come in any order, and nothing sorts
them before the policies are listed and hashed.  So a database is resolved to
one list of policies exactly if there is nothing to order: at most one existing
policy assigned directly, at most one more through groups, and at most one
section for each check of these.
-/

/-- The policies that exist. -/
def Db.existing (db : Db) (policyIds : List Uuid) : List Uuid :=
  policyIds.filter fun policyId => (getPolicy policyId db).isSome

/-- The existing policies the agent has through its groups alone. -/
def groupedOnly (agentId : Uuid) (db : Db) : List Uuid :=
  db.existing ((groupedPolicies agentId db).filter fun policyId =>
    !(directPolicies agentId db).contains policyId)

/-- The check belongs to an existing policy assigned to the agent. -/
def Db.Distributed (db : Db) (agentId : Uuid) (check : PolicyCheckRow) : Prop :=
  Exists fun element => element ∈ db.policyElements.rows ∧
    element.id = check.policyElementId ∧
    db.policyAssigned agentId element.policyId = true ∧
      (getPolicy element.policyId db).isSome = true

/-- Nothing that comes without an order has more than one row. -/
structure OneOrder (db : Db) (agentId : Uuid) : Prop where
  direct : (db.existing (directPolicies agentId db)).length ≤ 1
  grouped : (groupedOnly agentId db).length ≤ 1
  sections : forall check, check ∈ db.policyChecks.rows ->
    db.Distributed agentId check ->
    forall first, first ∈ db.checkRegulationSections.rows ->
      first.checkId = check.id ->
    forall second, second ∈ db.checkRegulationSections.rows ->
      second.checkId = check.id -> first = second

/-! ## Lists with one order -/

section Short

variable {α : Type}

/-- A list with at most one element has one order. -/
theorem eq_of_perm_short {first second : List α} (perm : first.Perm second)
    (short : second.length ≤ 1) :
    first = second := by
  match second with
  | [] => exact perm.eq_nil
  | [_] => exact List.perm_singleton.mp perm

/-- A list without duplicates that reads the same backwards has at most one
element. -/
theorem short_of_reverse_eq {values : List α} (distinct : values.Nodup)
    (same : values.reverse = values) :
    values.length ≤ 1 := by
  cases values with
  | nil => exact Nat.zero_le 1
  | cons head tail =>
      rcases List.eq_nil_or_concat tail with rfl | ⟨between, last, rfl⟩
      · exact Nat.le_refl 1
      · rw [List.concat_eq_append, List.reverse_cons, List.reverse_append] at same
        have ends : last = head := (List.cons.inj same).1
        rw [List.nodup_cons, List.concat_eq_append, ends] at distinct
        exact absurd (List.mem_append_right between List.mem_cons_self) distinct.1

theorem short_iff_alike {values : List α} (distinct : values.Nodup) :
    values.length ≤ 1 <-> forall first, first ∈ values -> forall second,
      second ∈ values -> first = second := by
  constructor
  · intro short first firstMember second secondMember
    match values with
    | [_] =>
        rw [List.mem_singleton.mp firstMember, List.mem_singleton.mp secondMember]
  · intro alike
    match values with
    | [] => exact Nat.zero_le 1
    | [_] => exact Nat.le_refl 1
    | first :: second :: rest =>
        have same :=
          alike first List.mem_cons_self second
            (List.mem_cons_of_mem first List.mem_cons_self)
        rw [same] at distinct
        exact absurd List.mem_cons_self (List.nodup_cons.mp distinct).1

end Short

/-! ## The rows of one database -/

section Rows

variable (db : Db) (agentId policyId : Uuid)

theorem directPolicies_nodup : (directPolicies agentId db).Nodup := by
  rw [directPolicies, List.Nodup, List.pairwise_map]
  refine (db.agentPolicies.distinct.sublist List.filter_sublist).imp_of_mem ?_
  intro first second firstMember secondMember apart same
  have firstAgent := of_decide_eq_true (List.mem_filter.mp firstMember).2
  have secondAgent := of_decide_eq_true (List.mem_filter.mp secondMember).2
  exact apart ⟨firstAgent.trans secondAgent.symm, same⟩

theorem groupedPolicies_nodup : (groupedPolicies agentId db).Nodup :=
      nodup_distinctOn_id _

theorem policyElements_pairwise :
    db.policyElements.rows.Pairwise fun first second => first.id ≠ second.id :=
  db.policyElements.distinct

theorem checksWithElements_pairwise :
    (checksWithElements policyId db).Pairwise fun first second =>
      first.1.id ≠ second.1.id := by
  have unique : forall check : PolicyCheckRow,
      (db.policyElements.rows.filter fun pe =>
        check.policyElementId = pe.id).length ≤ 1 := by
    intro check
    have alone :=
      length_filter_key_le_one (policyElements_pairwise db) check.policyElementId
    simp only [eq_comm] at alone ⊢
    exact alone
  have distinct :=
    db.policyChecks.distinct.sublist
      (innerJoin_fst_sublist unique db.policyChecks.rows)
  rw [List.pairwise_map] at distinct
  exact distinct.sublist List.filter_sublist

theorem regulationSections_nodup : (regulationSections policyId db).Nodup := by
  have unique : forall row : CheckRegulationSectionRow,
      ((checksWithElements policyId db).filter fun pair =>
        row.checkId = pair.1.id).length ≤ 1 := by
    intro row
    have alone :=
      length_filter_key_le_one
        (checksWithElements_pairwise db policyId) row.checkId
    simp only [eq_comm] at alone ⊢
    exact alone
  exact (db.checkRegulationSections.nodup fun row => ⟨rfl, rfl⟩).sublist
    (innerJoin_fst_sublist unique _)

theorem mem_regulationSections {row : CheckRegulationSectionRow} :
    row ∈ regulationSections policyId db <->
      row ∈ db.checkRegulationSections.rows ∧
      Exists fun check => check ∈ db.policyChecks.rows ∧ row.checkId = check.id ∧
        Exists fun element => element ∈ db.policyElements.rows ∧
          check.policyElementId = element.id ∧
          element.policyId = policyId := by
  rw [regulationSections, List.mem_map]
  constructor
  · rintro ⟨⟨row', check, element⟩, member, rfl⟩
    rcases mem_innerJoin.mp member with ⟨present, inPolicy, same⟩
    rcases mem_checksWithElements.mp inPolicy with ⟨checkMember, joined⟩
    exact ⟨present, check, checkMember, of_decide_eq_true same, element, joined⟩
  · rintro ⟨present, check, checkMember, same, element, joined⟩
    refine ⟨(row, check, element),
      mem_innerJoin.mpr ⟨present, ?_, decide_eq_true same⟩, rfl⟩
    exact mem_checksWithElements.mpr ⟨checkMember, joined⟩

end Rows

/-! ## Resolutions by the orders of the rows -/

section Orders

variable (distributor : PolicyDistributor) (db : Db)

/-- The message of a policy, given the order of the sections of each policy. -/
def resolvedPolicy (sections : Uuid -> List CheckRegulationSectionRow)
    (policyId : Uuid) : Option Policy :=
  (getPolicy policyId db).map fun policy =>
    distributor.dbBundleToProto (policyRows db policy (sections policyId))

variable {distributor db} {agentId : Uuid}

/-- Every choice of orders is resolved. -/
theorem resolves_of_orders {direct grouped : List Uuid}
    (directOrder : direct.Perm (directPolicies agentId db))
    (groupedOrder : grouped.Perm (groupedPolicies agentId db))
    {sections : Uuid -> List CheckRegulationSectionRow}
    (sectionsOrder : forall policyId,
      (sections policyId).Perm (regulationSections policyId db)) :
    Resolves distributor db agentId
      ((distinctOn id (direct ++ grouped)).filterMap
        (resolvedPolicy distributor db sections)) := by
  have loads : forall policyIds : List Uuid,
    List.Forall₂ (Loads db) policyIds (policyIds.map fun policyId =>
      (getPolicy policyId db).map fun policy =>
        policyRows db policy (sections policyId)) := by
    intro policyIds
    rw [List.forall₂_map_right_iff, List.forall₂_same]
    intro policyId _
    cases present : getPolicy policyId db with
    | none => exact .missing present
    | some policy => exact .found present (sectionsOrder policyId)
  have resolves : Resolves distributor db agentId _ :=
    .loaded directOrder groupedOrder (loads _)
  rw [List.filterMap_map, List.map_filterMap] at resolves
  have same :
      (fun policyId =>
        Option.map distributor.dbBundleToProto ((id ∘ fun policyId =>
          (getPolicy policyId db).map fun policy =>
            policyRows db policy (sections policyId)) policyId)) =
      resolvedPolicy distributor db sections := by
    funext policyId
    rw [Function.comp_apply, id_eq, Option.map_map]
    rfl
  rw [same] at resolves
  exact resolves

/-- Where the messages do not depend on the order of the sections, the policies
resolved are those of any order. -/
theorem loaded_eq_filterMap {policyIds : List Uuid}
    {bundles : List (Option DbPolicyBundle)}
    (loads : List.Forall₂ (Loads db) policyIds bundles)
    {sections : Uuid -> List CheckRegulationSectionRow}
    (same : forall policyId, policyId ∈ policyIds -> forall rows,
      Loads db policyId (some rows) ->
      some (distributor.dbBundleToProto rows) =
        resolvedPolicy distributor db sections policyId) :
    (bundles.filterMap id).map distributor.dbBundleToProto =
      policyIds.filterMap (resolvedPolicy distributor db sections) := by
  induction loads with
  | nil => rfl
  | cons first _ ih =>
      have later :=
        ih fun policyId member => same policyId (List.mem_cons_of_mem _ member)
      cases first with
      | missing absent =>
          simp only [List.filterMap_cons, id_eq, resolvedPolicy, absent,
            Option.map_none]
          exact later
      | found present order =>
          have here := same _ List.mem_cons_self _ (.found present order)
          simp only [List.filterMap_cons, id_eq, ← here, List.map_cons]
          exact congrArg (List.cons _) later

/-- The policies resolved depend on the existing ones alone. -/
theorem filterMap_existing {sections : Uuid -> List CheckRegulationSectionRow}
    (policyIds : List Uuid) :
    policyIds.filterMap (resolvedPolicy distributor db sections) =
      (db.existing policyIds).filterMap
        (resolvedPolicy distributor db sections) := by
  rw [Db.existing, List.filterMap_filter]
  congr 1
  funext policyId
  rw [resolvedPolicy]
  cases getPolicy policyId db <;> rfl

/-- The existing policies in the order of their resolution. -/
theorem existing_resolved {direct grouped : List Uuid}
    (directDistinct : direct.Nodup) (groupedDistinct : grouped.Nodup) :
    db.existing (distinctOn id (direct ++ grouped)) =
      db.existing direct ++ db.existing
        (grouped.filter fun policyId => policyId ∉ direct) := by
  rw [distinctOn_id_append directDistinct groupedDistinct, Db.existing,
    List.filter_append]
  rfl

theorem existing_perm {first second : List Uuid} (perm : first.Perm second) :
    (db.existing first).Perm (db.existing second) :=
  perm.filter _

theorem groupedOnly_eq (agentId : Uuid) (db : Db) : groupedOnly agentId db =
    db.existing ((groupedPolicies agentId db).filter fun policyId =>
      policyId ∉ directPolicies agentId db) := by
  simp only [groupedOnly, List.contains_eq_mem, decide_not]

/-- What is left of the grouped policies without the direct ones. -/
theorem groupedOnly_perm {direct grouped : List Uuid}
    (directOrder : direct.Perm (directPolicies agentId db))
    (groupedOrder : grouped.Perm (groupedPolicies agentId db)) :
    (db.existing (grouped.filter fun policyId => policyId ∉ direct)).Perm
      (groupedOnly agentId db) := by
  rw [groupedOnly_eq]
  simp only [directOrder.mem_iff]
  exact existing_perm (groupedOrder.filter _)

/-- Two orders of the sections give the same message exactly if each check has
its sections in the same order. -/
theorem dbBundleToProto_eq_iff {policy : PolicyRow}
    {first second : List CheckRegulationSectionRow} :
    distributor.dbBundleToProto (policyRows db policy first) =
      distributor.dbBundleToProto (policyRows db policy second) <->
      forall check, check ∈ getChecksForPolicy policy.id db ->
        distributor.sectionIds first check.id =
          distributor.sectionIds second check.id := by
  simp only [PolicyDistributor.dbBundleToProto, Policy.mk.injEq, true_and,
    policyRows, List.map_inj_left, PolicyDistributor.protoElement,
      PolicyElement.mk.injEq, PolicyDistributor.protoCheck,
      PolicyCheck.mk.injEq, and_true,
    List.mem_filter, decide_eq_true_eq]
  constructor
  · intro same check member
    rcases (mem_getChecksForPolicy.mp member).2 with
      ⟨element, present, inElement, inPolicy⟩
    exact same element (mem_getElementsForPolicy.mpr ⟨present, inPolicy⟩) check
      ⟨member, inElement⟩
  · intro same element _ check member
    exact same check member.1

end Orders

/-! ## One order, one resolution -/

section Unique

variable {distributor : PolicyDistributor} {db : Db} {agentId : Uuid}

/-- The policies resolved with every query in the order of the rows stored. -/
def storedOrder (distributor : PolicyDistributor) (db : Db)
    (agentId : Uuid) : List Policy :=
  (distinctOn id
    (directPolicies agentId db ++ groupedPolicies agentId db)).filterMap
    (resolvedPolicy distributor db fun policyId => regulationSections policyId db)

theorem resolves_storedOrder (distributor : PolicyDistributor) (db : Db)
    (agentId : Uuid) :
    Resolves distributor db agentId (storedOrder distributor db agentId) :=
  resolves_of_orders (List.Perm.refl _) (List.Perm.refl _) fun _ =>
    List.Perm.refl _

/-- The checks of the message of an assigned policy are distributed. -/
theorem distributed_of_mem {policyId : Uuid}
    (assigned : db.policyAssigned agentId policyId = true) {policy : PolicyRow}
    (present : getPolicy policyId db = some policy) {check : PolicyCheckRow}
    (member : check ∈ getChecksForPolicy policy.id db) :
    db.Distributed agentId check := by
  rcases (mem_getChecksForPolicy.mp member).2 with
    ⟨element, elementMember, inElement, inPolicy⟩
  rw [(getPolicy_id present).2] at inPolicy
  subst inPolicy
  refine ⟨element, elementMember, inElement.symm, assigned, ?_⟩
  rw [present]
  rfl

/-- With one order of the sections of each check, a policy has one message. -/
theorem OneOrder.message (distributor : PolicyDistributor)
    (one : OneOrder db agentId) {policyId : Uuid}
    (assigned : db.policyAssigned agentId policyId = true) {rows : DbPolicyBundle}
    (loads : Loads db policyId (some rows)) :
    some (distributor.dbBundleToProto rows) =
      resolvedPolicy distributor db
        (fun policyId => regulationSections policyId db) policyId := by
  cases loads with
  | found present order =>
      rw [resolvedPolicy, present, Option.map_some, Option.some.injEq,
        dbBundleToProto_eq_iff]
      intro check member
      have distributed := distributed_of_mem assigned present member
      have short :
          ((regulationSections policyId db).filter fun row =>
            row.checkId = check.id).length ≤ 1 := by
        refine (short_iff_alike
          ((regulationSections_nodup db policyId).filter _)).mpr ?_
        intro first firstMember second secondMember
        rcases List.mem_filter.mp firstMember with ⟨firstPresent, firstCheck⟩
        rcases List.mem_filter.mp secondMember with ⟨secondPresent, secondCheck⟩
        have checkMember := (mem_getChecksForPolicy.mp member).1
        exact one.sections check checkMember distributed
          first ((mem_regulationSections db policyId).mp firstPresent).1
          (of_decide_eq_true firstCheck) second
            ((mem_regulationSections db policyId).mp secondPresent).1
          (of_decide_eq_true secondCheck)
      rw [PolicyDistributor.sectionIds, PolicyDistributor.sectionIds,
        eq_of_perm_short (order.filter _) short]

/-- With one order there is one resolution. -/
theorem OneOrder.resolved (one : OneOrder db agentId) {policies : List Policy}
    (resolves : Resolves distributor db agentId policies) :
    policies = storedOrder distributor db agentId := by
  cases resolves with
  | loaded directOrder groupedOrder loads =>
      next direct grouped bundles =>
      have messages := loaded_eq_filterMap loads fun policyId member rows =>
        one.message distributor
          ((mem_resolvedIds directOrder groupedOrder policyId).mp member)
      have directDistinct := directPolicies_nodup db agentId
      have groupedDistinct := groupedPolicies_nodup db agentId
      have sameDirect :
          db.existing direct = db.existing (directPolicies agentId db) :=
        eq_of_perm_short (existing_perm directOrder) one.direct
      have sameGrouped :
          db.existing (grouped.filter fun policyId => policyId ∉ direct) =
            groupedOnly agentId db :=
        eq_of_perm_short (groupedOnly_perm directOrder groupedOrder) one.grouped
      rw [messages, storedOrder, filterMap_existing,
        filterMap_existing (distinctOn id (directPolicies agentId db ++ _)),
        existing_resolved (directOrder.nodup_iff.mpr directDistinct)
          (groupedOrder.nodup_iff.mpr groupedDistinct),
        existing_resolved directDistinct groupedDistinct, sameDirect, sameGrouped,
          groupedOnly_eq]

/-- The identifiers of the policies resolved are those of the existing ones. -/
theorem resolvedPolicy_ids {sections : Uuid -> List CheckRegulationSectionRow}
    (policyIds : List Uuid) :
    (policyIds.filterMap (resolvedPolicy distributor db sections)).map Policy.id =
      (db.existing policyIds).map distributor.text.toText := by
  induction policyIds with
  | nil => rfl
  | cons policyId rest ih =>
      rw [Db.existing] at ih
      rw [List.filterMap_cons, Db.existing, List.filter_cons, resolvedPolicy]
      cases present : getPolicy policyId db with
      | none => exact ih
      | some policy =>
          rw [Option.map_some, Option.isSome_some, if_pos rfl, List.map_cons,
            List.map_cons, ih, ← (getPolicy_id present).2]
          rfl

/-- Lists of optional values, there for the same elements, are equal element by
element. -/
theorem filterMap_pointwise {α β : Type} {first second : α -> Option β}
    {values : List α}
    (alike : forall value, (first value).isSome = (second value).isSome)
    (same : values.filterMap first = values.filterMap second) {value : α}
    (member : value ∈ values) :
    first value = second value := by
  induction values with
  | nil => cases member
  | cons head rest ih =>
      have here := alike head
      rw [List.filterMap_cons, List.filterMap_cons] at same
      cases firstHead : first head with
      | none =>
          rw [firstHead, Option.isSome_none] at here
          have secondHead : second head = none := by
            rw [← Option.not_isSome_iff_eq_none, ← here]
            exact Bool.false_ne_true
          rw [firstHead, secondHead] at same
          rcases List.mem_cons.mp member with rfl | later
          · rw [firstHead, secondHead]
          · exact ih same later
      | some kept =>
          rw [firstHead, Option.isSome_some] at here
          rcases Option.isSome_iff_exists.mp here.symm with ⟨kept', secondHead⟩
          rw [firstHead, secondHead] at same
          rcases List.mem_cons.mp member with rfl | later
          · rw [firstHead, secondHead, (List.cons.inj same).1]
          · exact ih (List.cons.inj same).2 later

theorem sectionIds_nodup (policyId checkId : Uuid) :
    (distributor.sectionIds (regulationSections policyId db) checkId).Nodup := by
  refine ((regulationSections_nodup db policyId).filter _).map_on ?_
  intro first firstMember second secondMember sameText
  have firstCheck := of_decide_eq_true (List.mem_filter.mp firstMember).2
  have secondCheck := of_decide_eq_true (List.mem_filter.mp secondMember).2
  have sameSection := distributor.text.toText_injective sameText
  cases first
  cases second
  simp only at firstCheck secondCheck sameSection
  rw [firstCheck, secondCheck, sameSection]

/-- One resolution means one order of the existing policies. -/
theorem existing_resolved_alike (distributor : PolicyDistributor)
    (unique : forall policies, Resolves distributor db agentId policies ->
      policies = storedOrder distributor db agentId)
    {direct grouped : List Uuid}
    (directOrder : direct.Perm (directPolicies agentId db))
    (groupedOrder : grouped.Perm (groupedPolicies agentId db)) :
    db.existing direct ++ db.existing
      (grouped.filter fun policyId => policyId ∉ direct) =
      db.existing (directPolicies agentId db) ++ groupedOnly agentId db := by
  have directDistinct := directPolicies_nodup db agentId
  have groupedDistinct := groupedPolicies_nodup db agentId
  have same :=
    unique _ (resolves_of_orders directOrder groupedOrder fun _ =>
      List.Perm.refl _)
  have sameIds := congrArg (List.map Policy.id) same
  rw [storedOrder, resolvedPolicy_ids, resolvedPolicy_ids] at sameIds
  have ids := List.map_injective_iff.mpr distributor.text.toText_injective sameIds
  rw [existing_resolved (directOrder.nodup_iff.mpr directDistinct)
    (groupedOrder.nodup_iff.mpr groupedDistinct),
      existing_resolved directDistinct groupedDistinct, ← groupedOnly_eq] at ids
  exact ids

/-- One resolution means one order of the sections of a check. -/
theorem sectionIds_alike (distributor : PolicyDistributor)
    (unique : forall policies, Resolves distributor db agentId policies ->
      policies = storedOrder distributor db agentId)
    {policyId : Uuid} (assigned : db.policyAssigned agentId policyId = true)
    {policy : PolicyRow} (present : getPolicy policyId db = some policy)
    {check : PolicyCheckRow} (member : check ∈ getChecksForPolicy policy.id db) :
    distributor.sectionIds (regulationSections policyId db).reverse check.id =
      distributor.sectionIds (regulationSections policyId db) check.id := by
  have alike : forall policyId,
      (resolvedPolicy distributor db
        (fun policyId => (regulationSections policyId db).reverse)
        policyId).isSome =
        (resolvedPolicy distributor db
            (fun policyId => regulationSections policyId db)
            policyId).isSome := by
    intro policyId
    rw [resolvedPolicy, resolvedPolicy, Option.isSome_map, Option.isSome_map]
  have reversed :=
    unique _ (resolves_of_orders (List.Perm.refl _) (List.Perm.refl _)
        fun policyId => List.reverse_perm (regulationSections policyId db))
  have resolved :=
    (mem_resolvedIds (List.Perm.refl (directPolicies agentId db))
      (List.Perm.refl _)
        policyId).mpr assigned
  have message := filterMap_pointwise alike reversed resolved
  rw [resolvedPolicy, resolvedPolicy, present, Option.map_some, Option.map_some,
    Option.some.injEq, dbBundleToProto_eq_iff] at message
  exact message check member

/-- One resolution leaves nothing to order: what is resolved in either direction
has at most one row. -/
theorem oneOrder_of_resolved (distributor : PolicyDistributor)
    (unique : forall policies, Resolves distributor db agentId policies ->
      policies = storedOrder distributor db agentId) :
    OneOrder db agentId := by
  have directDistinct := directPolicies_nodup db agentId
  have groupedDistinct := groupedPolicies_nodup db agentId
  refine ⟨?_, ?_, ?_⟩
  · have reversed :=
      existing_resolved_alike distributor unique (List.reverse_perm _)
        (List.Perm.refl _)
    have direct :=
      (List.append_inj reversed (existing_perm (List.reverse_perm _)).length_eq).1
    rw [Db.existing, List.filter_reverse] at direct
    exact short_of_reverse_eq (directDistinct.filter _) direct
  · have reversed :=
      existing_resolved_alike distributor unique (List.Perm.refl _)
        (List.reverse_perm _)
    have grouped := List.append_cancel_left reversed
    rw [groupedOnly_eq, Db.existing, List.filter_reverse,
      List.filter_reverse] at grouped
    rw [groupedOnly_eq]
    exact short_of_reverse_eq ((groupedDistinct.filter _).filter _) grouped
  · intro check checkMember distributed first firstPresent firstCheck second
      secondPresent secondCheck
    rcases distributed with
      ⟨element, elementMember, inElement, assigned, existing⟩
    rcases Option.isSome_iff_exists.mp existing with ⟨policy, present⟩
    have inPolicy := (getPolicy_id present).2
    have member : check ∈ getChecksForPolicy policy.id db :=
      mem_getChecksForPolicy.mpr
        ⟨checkMember, element, elementMember, inElement.symm, inPolicy.symm⟩
    have ordered := sectionIds_alike distributor unique assigned present member
    rw [PolicyDistributor.sectionIds, List.filter_reverse,
      List.map_reverse] at ordered
    have short :=
      short_of_reverse_eq (sectionIds_nodup element.policyId check.id) ordered
    rw [PolicyDistributor.sectionIds, List.length_map] at short
    have listed : forall row, row ∈ db.checkRegulationSections.rows ->
      row.checkId = check.id ->
        row ∈ (regulationSections element.policyId db).filter fun row =>
          row.checkId = check.id := by
      intro row rowPresent sameCheck
      refine List.mem_filter.mpr
        ⟨(mem_regulationSections db element.policyId).mpr ⟨rowPresent, ?_⟩,
          decide_eq_true sameCheck⟩
      exact ⟨check, checkMember, sameCheck, element, elementMember,
        inElement.symm, rfl⟩
    have alike :=
      (short_iff_alike
        ((regulationSections_nodup db element.policyId).filter _)).mp short
    exact alike first (listed first firstPresent firstCheck) second
      (listed second secondPresent secondCheck)

end Unique

end Complyx
