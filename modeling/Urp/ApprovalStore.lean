import Urp.Schema

/-!
# Approvals

`ApprovalStore`: signed records that a policy's approval requirement is
checked against.
-/

namespace Urp

open Python

structure ApprovalRecord where
  approvalId : String
  tenant : String
  actor : String
  contract : String
  policyBundleId : String
  createdAt : String
  expiresAt : String
  workUnitId : Option String
  reason : String
  signature : String := ""

namespace ApprovalRecord

/-- Every field but the signature. -/
def payload (record : ApprovalRecord) : Value :=
  .dict [("approval_id", .str record.approvalId),
    ("tenant", .str record.tenant), ("actor", .str record.actor),
    ("contract", .str record.contract),
    ("policy_bundle_id", .str record.policyBundleId),
    ("created_at", .str record.createdAt),
    ("expires_at", .str record.expiresAt),
    ("work_unit_id", optionalText record.workUnitId),
    ("reason", .str record.reason)]

end ApprovalRecord

/-- The approval files by identifier, and the supply. -/
structure ApprovalState where
  files : Dict String ApprovalRecord := ∅
  supply : Supply := {}

namespace ApprovalState

def supplyLens : Lens ApprovalState Supply where
  get state := state.supply
  set state supply := { state with supply }
  get_set _ _ := rfl

end ApprovalState

namespace ApprovalStore

def missingApproval (approvalId : String) : PyException :=
  .fileNotFound ("approvals/" ++ approvalId ++ ".json")

section Operations

variable (host : Host)

/-- `_sign`. -/
def sign (payload : Value) : Except PyException String := do
  let key ← host.approvalKey
  .ok (hmacSha256 key (utf8 (stableJsonHash payload).toList))

def get (approvalId : String) :
    Program ApprovalState PyException ApprovalRecord := do
  let approvalId ← Program.lift
    (validateIdentifier approvalId "approval id" "appr_")
  let state ← Program.get
  match state.files.lookup approvalId with
  | none => Program.raise (missingApproval approvalId)
  | some record => do
      let signature ← Program.lift (sign host record.payload)
      if record.signature = signature then return record
      else Program.raise (.valueError "approval signature verification failed")

def checkRecord (record : ApprovalRecord) (now : ℚ) (workUnit : WorkUnit)
    (contract : Contract) (policyBundleId : String) :
    Except PyException ApprovalRecord :=
  match host.fromIsoformat record.expiresAt with
  | none => .error .libraryValueError
  | some expiry =>
      if expiry ≤ now then .error (.valueError "approval has expired")
      else if record.tenant ≠ workUnit.tenant then
        .error (.valueError "approval tenant does not match work unit")
      else if textOr record.workUnitId "" ≠ "" ∧
          record.workUnitId ≠ some workUnit.id then
        .error (.valueError "approval is bound to another work unit")
      else if record.contract ≠ contract.value then
        .error (.valueError "approval contract does not match policy decision")
      else if record.policyBundleId ≠ policyBundleId then
        .error (.valueError
          "approval policy bundle does not match policy decision")
      else .ok record

def verify (approvalId : String) (workUnit : WorkUnit) (contract : Contract)
    (policyBundleId : String) :
    Program ApprovalState PyException ApprovalRecord := do
  let record ← get host approvalId
  let now ← Program.focus ApprovalState.supplyLens host.now
  Program.lift (checkRecord host record now workUnit contract policyBundleId)

end Operations

end ApprovalStore

end Urp
