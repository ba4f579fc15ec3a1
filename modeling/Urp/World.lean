import Urp.ApprovalStore
import Urp.ManifestStore
import Urp.PolicyStore

/-!
# The state directory

Everything that the stores under one state directory hold, with a view for
each store, and the events and plans that every execution writes.
-/

namespace Urp

open Python

structure World where
  ledger : LedgerState := {}
  policies : PolicyFiles := {}
  approvals : Dict String ApprovalRecord := ∅
  plans : Dict String Plan := ∅
  chunks : ChunkFiles := {}
  manifests : ManifestFiles := ∅

namespace World

def supply (world : World) : Supply := world.ledger.supply

def ledgerLens : Lens World LedgerState where
  get world := world.ledger
  set world ledger := { world with ledger }
  get_set _ _ := rfl

def supplyLens : Lens World Supply where
  get world := world.ledger.supply
  set world supply := { world with ledger := { world.ledger with supply } }
  get_set _ _ := rfl

def policiesLens : Lens World PolicyFiles where
  get world := world.policies
  set world policies := { world with policies }
  get_set _ _ := rfl

def approvalsLens : Lens World ApprovalState where
  get world := ⟨world.approvals, world.ledger.supply⟩
  set world state := { world with
    approvals := state.files
    ledger := { world.ledger with supply := state.supply } }
  get_set _ _ := rfl

def chunksLens : Lens World ChunkFiles where
  get world := world.chunks
  set world chunks := { world with chunks }
  get_set _ _ := rfl

def manifestsLens : Lens World ManifestFiles where
  get world := world.manifests
  set world manifests := { world with manifests }
  get_set _ _ := rfl

end World

section Operations

variable (host : Host) (session : Session)

/-- `default_ledger(state).append(event)`. -/
def record (event : LedgerEvent) : Program World PyException Unit := do
  let _ ← Program.focus World.ledgerLens
    (JSONLLedger.record host session event)
  return ()

def enforcePlanTenant (plan : Plan) : Except PyException Unit :=
  requireTenant session plan.tenant

/-- `FilePlanStore.put`. -/
def putPlan (plan : Plan) : Program World PyException Unit := do
  Program.lift (enforcePlanTenant session plan)
  let planId ← Program.lift (validateIdentifier plan.planId "plan id" "pl_")
  Program.modify fun world =>
    { world with plans := world.plans.insert planId plan }

def storePlanWithAudit (plan : Plan) (workUnit : WorkUnit) :
    Program World PyException Unit := do
  putPlan session plan
  record host session {
    eventType := "plan.created"
    tenant := workUnit.tenant
    workUnitId := some workUnit.id
    policyBundleId := some plan.policyBundleId
    details := .ofList [("plan", plan.toDict)]
    traceId := textOr (some plan.traceId) workUnit.traceId }

/-- The approval is checked, with every failure of the check a denial. -/
def verifyApproval (approvalId : String) (workUnit : WorkUnit)
    (policy : PolicyDecision) : Program World PyException Unit := do
  let denied := fun error : PyException =>
    if error.isApprovalFailure then
      policyDenied ("approval verification failed: " ++ error.text)
        (some workUnit.id) (some policy.policyBundleId)
    else error
  let _ ← Program.rethrow (Program.focus World.approvalsLens
    (ApprovalStore.verify host approvalId workUnit policy.contract
      policy.policyBundleId)) denied
  return ()

end Operations

end Urp
