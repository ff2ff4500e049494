import Complyx.Distribution.Accepted
import Complyx.Relational.Index

namespace Complyx

open Relational

/-!
# Regrouping rows by hash indexes

`db_bundle_to_proto` fills three maps, each in one pass over one list of rows,
and looks them up for every element and every check.  The message it builds is
the one that searching the lists gives, so it loses no check row whose element
is there, and of the remediations of a check it keeps the last.
-/

namespace PolicyDistributor

variable (distributor : PolicyDistributor)

/-! ## As the indexes build it -/

def remByCheck (remediations : List PolicyRemediationRow) :
    Std.HashMap Uuid PolicyRemediationRow :=
  collectRows PolicyRemediationRow.policyCheckId remediations

def sectionsByCheck (sections : List CheckRegulationSectionRow) :
    Std.HashMap Uuid (List String) :=
  groupRows CheckRegulationSectionRow.checkId
    (fun row => distributor.text.toText row.regulationSectionId) sections

def checksByElement (checks : List PolicyCheckRow) :
    Std.HashMap Uuid (List PolicyCheckRow) :=
  groupRows PolicyCheckRow.policyElementId id checks

/-- The message of a remediation. -/
def protoRemediation (row : PolicyRemediationRow) : PolicyRemediation where
  id := distributor.text.toText row.id
  remediationType := distributor.remediationTypeFromJson row.remediationCommand
  remediationParamsJson := row.remediationCommand

def indexedCheck (remByCheck : Std.HashMap Uuid PolicyRemediationRow)
    (sectionsByCheck : Std.HashMap Uuid (List String))
    (check : PolicyCheckRow) : PolicyCheck where
  id := distributor.text.toText check.id
  name := check.name
  checkType := distributor.checkTypeFromJson check.checkCommand
  checkParamsJson := check.checkCommand
  regulationSectionIds := sectionsByCheck.getD check.id []
  remediation := remByCheck[check.id]?.map distributor.protoRemediation

/-- `db_bundle_to_proto`, with its indexes. -/
def indexedToProto (bundle : DbPolicyBundle) : Policy :=
  let remByCheck := remByCheck bundle.remediations
  let sectionsByCheck :=
    distributor.sectionsByCheck bundle.checkRegulationSections
  let checksByElement := checksByElement bundle.checks
  { id := distributor.text.toText bundle.policy.id
    name := bundle.policy.name
    version := bundle.policy.version
    severity := bundle.policy.severity.getD ""
    elements := bundle.elements.map fun element =>
      { id := distributor.text.toText element.id
        name := element.name.getD ""
        checks :=
          (checksByElement.getD element.id []).map
            (distributor.indexedCheck remByCheck sectionsByCheck) } }

theorem indexedCheck_eq (bundle : DbPolicyBundle) (check : PolicyCheckRow) :
    distributor.indexedCheck (remByCheck bundle.remediations)
        (distributor.sectionsByCheck bundle.checkRegulationSections) check =
      distributor.protoCheck bundle check := by
  rw [indexedCheck, remByCheck, sectionsByCheck, groupRows_getD, collectRows_get]
  rfl

/-- The indexes give what searching the rows gives. -/
theorem indexedToProto_eq (bundle : DbPolicyBundle) :
    distributor.indexedToProto bundle = distributor.dbBundleToProto bundle := by
  have elements : forall element : PolicyElementRow,
      ((checksByElement bundle.checks).getD element.id []).map
          (distributor.indexedCheck (remByCheck bundle.remediations)
            (distributor.sectionsByCheck bundle.checkRegulationSections)) =
        (distributor.protoElement bundle element).checks := by
    intro element
    rw [checksByElement, groupRows_getD, List.map_id, protoElement]
    exact List.map_congr_left fun check _ =>
      distributor.indexedCheck_eq bundle check
  rw [indexedToProto, dbBundleToProto]
  congr 1
  apply List.map_congr_left
  intro element _
  rw [elements element]
  rfl

/-! ## What the message holds -/

/-- The message of a check: its own fields, its sections in the order of their
rows, and the last remediation that names it. -/
structure CheckMessage (bundle : DbPolicyBundle) (check : PolicyCheckRow)
    (message : PolicyCheck) : Prop where
  id : message.id = distributor.text.toText check.id
  name : message.name = check.name
  checkType : message.checkType = distributor.checkTypeFromJson check.checkCommand
  checkParamsJson : message.checkParamsJson = check.checkCommand
  sections : message.regulationSectionIds =
    (bundle.checkRegulationSections.filter fun row => row.checkId = check.id).map
        fun row =>
      distributor.text.toText row.regulationSectionId
  remedied : message.remediation.isSome = true <->
    Exists fun row => row ∈ bundle.remediations ∧ row.policyCheckId = check.id
  last : forall remediation, message.remediation = some remediation <->
      Exists fun row =>
    IsLast (fun row => decide (row.policyCheckId = check.id))
      bundle.remediations row ∧
      remediation = distributor.protoRemediation row

/-- The message of an element: its own fields, and its checks in their order. -/
structure ElementMessage (bundle : DbPolicyBundle) (element : PolicyElementRow)
    (message : PolicyElement) : Prop where
  id : message.id = distributor.text.toText element.id
  name : message.name = element.name.getD ""
  checks : List.Forall₂ (distributor.CheckMessage bundle)
    (bundle.checks.filter fun check => check.policyElementId = element.id)
      message.checks

/-- The message of a policy: its own fields, its elements in their order, and
each check of an element there exactly once. -/
structure PolicyMessage (bundle : DbPolicyBundle) (message : Policy) : Prop where
  id : message.id = distributor.text.toText bundle.policy.id
  name : message.name = bundle.policy.name
  version : message.version = bundle.policy.version
  severity : message.severity = bundle.policy.severity.getD ""
  elements :
    List.Forall₂ (distributor.ElementMessage bundle) bundle.elements
      message.elements
  once : forall check, check ∈ bundle.checks ->
    (Exists fun element => element ∈ bundle.elements ∧
      element.id = check.policyElementId) ->
      ((message.elements.flatMap PolicyElement.checks).map PolicyCheck.id).count
        (distributor.text.toText check.id) = 1

variable {distributor}

theorem protoCheck_message (bundle : DbPolicyBundle) (check : PolicyCheckRow) :
    distributor.CheckMessage bundle check
      (distributor.protoCheck bundle check) := by
  refine ⟨rfl, rfl, rfl, rfl, rfl, ?_, ?_⟩
  · rw [protoCheck, remediation, Option.isSome_map, List.find?_isSome]
    constructor
    · rintro ⟨row, member, names⟩
      exact ⟨row, List.mem_reverse.mp member, of_decide_eq_true names⟩
    · rintro ⟨row, member, names⟩
      exact ⟨row, List.mem_reverse.mpr member, decide_eq_true names⟩
  · intro message
    rw [protoCheck, remediation, Option.map_eq_some_iff]
    constructor
    · rintro ⟨row, found, same⟩
      exact ⟨row, find?_reverse_iff.mp found, same.symm⟩
    · rintro ⟨row, last, same⟩
      exact ⟨row, find?_reverse_iff.mpr last, same.symm⟩

theorem protoElement_message (bundle : DbPolicyBundle)
    (element : PolicyElementRow) :
    distributor.ElementMessage bundle element
      (distributor.protoElement bundle element) := by
  refine ⟨rfl, rfl, ?_⟩
  rw [protoElement, List.forall₂_map_right_iff, List.forall₂_same]
  exact fun check _ => protoCheck_message bundle check

/-- The check rows in the order of the message. -/
def groupedChecks (bundle : DbPolicyBundle) : List PolicyCheckRow :=
  bundle.elements.flatMap fun element => bundle.checks.filter fun check =>
    check.policyElementId = element.id

theorem groupedChecks_nodup {bundle : DbPolicyBundle}
    (elements : (bundle.elements.map PolicyElementRow.id).Nodup)
    (checks : (bundle.checks.map PolicyCheckRow.id).Nodup) :
    ((groupedChecks bundle).map PolicyCheckRow.id).Nodup := by
  have apart : bundle.elements.Pairwise fun first second =>
    first.id ≠ second.id := List.pairwise_map.mp elements
  rw [groupedChecks, List.map_flatMap, List.nodup_flatMap]
  constructor
  · intro element _
    exact checks.sublist (List.filter_sublist.map _)
  · apply apart.imp
    intro first second different id inFirst inSecond
    rcases List.mem_map.mp inFirst with ⟨check, member, rfl⟩
    rcases List.mem_map.mp inSecond with ⟨other, member', same⟩
    rw [List.mem_filter, decide_eq_true_eq] at member member'
    have sameCheck := List.inj_on_of_nodup_map checks member'.1 member.1 same
    rw [sameCheck] at member'
    exact different (member.2.symm.trans member'.2)

theorem message_checkIds (bundle : DbPolicyBundle) :
    ((distributor.dbBundleToProto bundle).elements.flatMap
      PolicyElement.checks).map PolicyCheck.id =
      (groupedChecks bundle).map fun check => distributor.text.toText check.id := by
  rw [dbBundleToProto, groupedChecks]
  dsimp only
  rw [List.flatMap_map, List.map_flatMap, List.map_flatMap]
  apply List.flatMap_congr
  intro element _
  rw [protoElement, List.map_map]
  rfl

/-- Of any rows with distinct identifiers, the message has one element for each
element row and in it exactly the checks of the element, each with its sections
and the last of its remediations. -/
theorem indexedToProto_message (distributor : PolicyDistributor)
    (bundle : DbPolicyBundle)
    (elements : (bundle.elements.map PolicyElementRow.id).Nodup)
    (checks : (bundle.checks.map PolicyCheckRow.id).Nodup) :
    distributor.PolicyMessage bundle (distributor.indexedToProto bundle) := by
  rw [indexedToProto_eq]
  refine ⟨rfl, rfl, rfl, rfl, ?_, ?_⟩
  · rw [dbBundleToProto, List.forall₂_map_right_iff, List.forall₂_same]
    exact fun element _ => protoElement_message bundle element
  · rintro check member ⟨element, elementMember, sameElement⟩
    rw [message_checkIds]
    apply List.count_eq_one_of_mem
    · have distinct :=
        (groupedChecks_nodup elements checks).map distributor.text.toText_injective
      rw [List.map_map] at distinct
      exact distinct
    · apply List.mem_map_of_mem
      exact List.mem_flatMap.mpr
        ⟨element, elementMember,
          List.mem_filter.mpr ⟨member, decide_eq_true sameElement.symm⟩⟩

/-- One element with two checks, the first of them named by two remediations. -/
def sshRows : DbPolicyBundle where
  policy := ⟨21, "SSH", "1.0", none, some "high"⟩
  elements := [⟨11, 21, some "sshd"⟩]
  checks :=
    [⟨13, 11, "root login", none, sshdCommand⟩,
      ⟨14, 11, "protocol", none, sshdCommand⟩]
  remediations :=
    [⟨15, 13, "deny", none, sshdCommand⟩, ⟨17, 13, "warn", none, sshdCommand⟩]
  checkRegulationSections := [⟨14, 18⟩, ⟨13, 16⟩, ⟨13, 19⟩]

theorem indexedToProto_message_ssh :
    officeDistributor.PolicyMessage sshRows
      (officeDistributor.indexedToProto sshRows) :=
  indexedToProto_message officeDistributor sshRows (by decide) (by decide)

end PolicyDistributor

end Complyx
