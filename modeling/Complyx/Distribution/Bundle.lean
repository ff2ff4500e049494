import Complyx.Encoding.Json

namespace Complyx

open Encoding

/-!
# Policy bundles and their hash

The messages of the protocol that carry policies, their compact JSON with the
members in the order of the fields, and the hash an agent and the server compare
instead of bundles.  Bundles that are written the same are the same, so as long
as the digests of two texts differ whenever the texts do, equal hashes mean
equal policies.
-/

structure PolicyRemediation where
  id : String
  remediationType : String
  remediationParamsJson : String
  deriving DecidableEq

structure PolicyCheck where
  id : String
  name : String
  checkType : String
  checkParamsJson : String
  regulationSectionIds : List String
  remediation : Option PolicyRemediation
  deriving DecidableEq

structure PolicyElement where
  id : String
  name : String
  checks : List PolicyCheck
  deriving DecidableEq

structure Policy where
  id : String
  name : String
  version : String
  severity : String
  elements : List PolicyElement
  deriving DecidableEq

structure PolicyBundle where
  policies : List Policy
  bundleHash : String
  deriving DecidableEq

/-! ## Their JSON -/

def PolicyRemediation.toJson (remediation : PolicyRemediation) : Json :=
  .object [("id", .string remediation.id),
    ("remediation_type", .string remediation.remediationType),
      ("remediation_params_json", .string remediation.remediationParamsJson)]

/-- An absent message is null. -/
def optionJson {α : Type} (toJson : α -> Json) : Option α -> Json
  | some value => toJson value
  | none => .null

def PolicyCheck.toJson (check : PolicyCheck) : Json :=
  .object [("id", .string check.id), ("name", .string check.name),
    ("check_type", .string check.checkType),
      ("check_params_json", .string check.checkParamsJson),
    ("regulation_section_ids", .array (check.regulationSectionIds.map .string)),
    ("remediation", optionJson PolicyRemediation.toJson check.remediation)]

def PolicyElement.toJson (element : PolicyElement) : Json :=
  .object [("id", .string element.id), ("name", .string element.name),
    ("checks", .array (element.checks.map PolicyCheck.toJson))]

def Policy.toJson (policy : Policy) : Json :=
  .object [("id", .string policy.id), ("name", .string policy.name),
    ("version", .string policy.version), ("severity", .string policy.severity),
      ("elements", .array (policy.elements.map PolicyElement.toJson))]

def PolicyBundle.toJson (bundle : PolicyBundle) : Json :=
  .object [("policies", .array (bundle.policies.map Policy.toJson)),
    ("bundle_hash", .string bundle.bundleHash)]

theorem PolicyRemediation.toJson_injective :
    Function.Injective PolicyRemediation.toJson := by
  rintro ⟨id, remediationType, params⟩ ⟨id', remediationType', params'⟩ same
  simp only [toJson, Json.object.injEq, List.cons.injEq, Prod.mk.injEq,
    Json.string.injEq, true_and, and_true] at same
  rcases same with ⟨rfl, rfl, rfl⟩
  rfl

theorem optionJson_injective {α : Type} {toJson : α -> Json}
    (injective : Function.Injective toJson)
    (present : forall value, toJson value ≠ .null) :
    Function.Injective (optionJson toJson) := by
  intro first second same
  cases first with
  | none =>
      cases second with
      | none => rfl
      | some value => exact absurd same.symm (present value)
  | some value =>
      cases second with
      | none => exact absurd same (present value)
      | some value' => rw [injective same]

theorem PolicyCheck.toJson_injective : Function.Injective PolicyCheck.toJson := by
  rintro ⟨id, name, checkType, params, sections, remediation⟩
    ⟨id', name', checkType', params', sections', remediation'⟩ same
  simp only [toJson, Json.object.injEq, List.cons.injEq, Prod.mk.injEq,
    Json.string.injEq, Json.array.injEq, true_and, and_true] at same
  rcases same with ⟨rfl, rfl, rfl, rfl, sameSections, sameRemediation⟩
  have strings : Function.Injective Json.string :=
    fun first second same => Json.string.inj same
  rw [List.map_injective_iff.mpr strings sameSections,
    optionJson_injective PolicyRemediation.toJson_injective
      (fun value impossible => nomatch impossible)
      sameRemediation]

theorem PolicyElement.toJson_injective :
    Function.Injective PolicyElement.toJson := by
  rintro ⟨id, name, checks⟩ ⟨id', name', checks'⟩ same
  simp only [toJson, Json.object.injEq, List.cons.injEq, Prod.mk.injEq,
    Json.string.injEq, Json.array.injEq, true_and, and_true] at same
  rcases same with ⟨rfl, rfl, sameChecks⟩
  rw [List.map_injective_iff.mpr PolicyCheck.toJson_injective sameChecks]

theorem Policy.toJson_injective : Function.Injective Policy.toJson := by
  rintro ⟨id, name, version, severity, elements⟩
    ⟨id', name', version', severity', elements'⟩ same
  simp only [toJson, Json.object.injEq, List.cons.injEq, Prod.mk.injEq,
    Json.string.injEq, Json.array.injEq, true_and, and_true] at same
  rcases same with ⟨rfl, rfl, rfl, rfl, sameElements⟩
  rw [List.map_injective_iff.mpr PolicyElement.toJson_injective sameElements]

theorem PolicyBundle.toJson_injective :
    Function.Injective PolicyBundle.toJson := by
  rintro ⟨policies, bundleHash⟩ ⟨policies', bundleHash'⟩ same
  simp only [toJson, Json.object.injEq, List.cons.injEq, Prod.mk.injEq,
    Json.string.injEq, Json.array.injEq, true_and, and_true] at same
  rcases same with ⟨samePolicies, rfl⟩
  rw [List.map_injective_iff.mpr Policy.toJson_injective samePolicies]

/-! ## The hash -/

/-- A digest of 256 bits. -/
structure Digest where
  bytes : List UInt8
  full : bytes.length = 32
  deriving DecidableEq

def Digest.toHex (digest : Digest) : String :=
  String.ofList (hexEncode digest.bytes)

theorem Digest.toHex_injective : Function.Injective Digest.toHex := by
  rintro ⟨bytes, full⟩ ⟨bytes', full'⟩ same
  have texts := congrArg hexDecode (String.ofList_inj.mp same)
  rw [hexDecode_hexEncode, hexDecode_hexEncode, Option.some.injEq] at texts
  subst texts
  rfl

theorem Digest.toHex_length (digest : Digest) :
    digest.toHex.toList.length = 64 := by
  rw [toHex, String.toList_ofList, hexEncode_length, digest.full]

/-- `bundle_hash`.  Writing these messages never fails. -/
def bundleHash (sha256 : String -> Digest) (bundle : PolicyBundle) : String :=
  (sha256 bundle.toJson.toText).toHex

/-- The text whose digest is the hash of a bundle with the policies. -/
def hashedText (policies : List Policy) : String :=
  (PolicyBundle.toJson ⟨policies, ""⟩).toText

/-- The policies with the hash of the bundle that has them and no hash. -/
def sealed (sha256 : String -> Digest) (policies : List Policy) : PolicyBundle :=
  ⟨policies, bundleHash sha256 ⟨policies, ""⟩⟩

/-- The texts have different digests where they differ. -/
def CollisionFree (sha256 : String -> Digest) (texts : Set String) : Prop :=
  Set.InjOn sha256 texts

theorem hashedText_injective : Function.Injective hashedText := by
  intro first second same
  exact congrArg PolicyBundle.policies
    (PolicyBundle.toJson_injective (Json.toText_inj same))

/-- Without a collision bundles with the same hash have the same policies. -/
theorem sealed_hash_inj {sha256 : String -> Digest} {texts : Set String}
    (free : CollisionFree sha256 texts) {first second : List Policy}
    (firstIn : hashedText first ∈ texts) (secondIn : hashedText second ∈ texts) :
    (sealed sha256 first).bundleHash = (sealed sha256 second).bundleHash <->
      first = second := by
  constructor
  · intro same
    exact hashedText_injective
      (free firstIn secondIn (Digest.toHex_injective same))
  · intro same
    rw [same]

theorem sealed_hash_ne_empty (sha256 : String -> Digest)
    (policies : List Policy) :
    (sealed sha256 policies).bundleHash ≠ "" := by
  intro empty
  have length : (sealed sha256 policies).bundleHash.toList.length = 64 :=
    Digest.toHex_length _
  rw [empty] at length
  cases length

end Complyx
