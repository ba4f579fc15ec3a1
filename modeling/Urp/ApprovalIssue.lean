import Urp.ApprovalStore
import Urp.Policy

/-!
# Issued approvals

`ApprovalStore.issue`, and for which decisions an issued approval passes
`ApprovalStore.verify`.
-/

namespace Urp

open Python Program

structure ApprovalRequest where
  tenant : String
  actor : String
  contract : String
  policyBundleId : String
  reason : String
  workUnitId : Option String := none
  ttlSeconds : Int := 900

namespace ApprovalRequest

/-- What `issue` checks of its arguments. -/
def check (request : ApprovalRequest) : Except PyException Unit := do
  if request.ttlSeconds ≤ 0 ∨ request.ttlSeconds > 86400 then
    .error (.valueError "approval ttl_seconds must be between 1 and 86400")
  else if strip request.tenant = "" ∨ strip request.actor = "" ∨
      strip request.reason = "" then
    .error (.valueError "approval tenant, actor, and reason are required")
  else if request.reason.length > 2048 then
    .error (.valueError "approval reason must be at most 2048 characters")
  else do
    let _ ← validateIdentifier request.policyBundleId "policy bundle id"
    if textOr request.workUnitId "" ≠ "" then do
      let _ ← validateIdentifier (textOr request.workUnitId "") "work unit id"
        "wu_"
      .ok ()
    else .ok ()

/-- The record before it is signed. -/
def unsigned (host : Host) (request : ApprovalRequest) (created : ℚ)
    (approvalId : String) (contract : Contract) : ApprovalRecord where
  approvalId
  tenant := request.tenant
  actor := request.actor
  contract := contract.value
  policyBundleId := request.policyBundleId
  createdAt := host.isoformat created
  expiresAt := host.isoformat (created + request.ttlSeconds)
  workUnitId := request.workUnitId
  reason := request.reason

end ApprovalRequest

namespace ApprovalStore

section Issue

variable (host : Host) (session : Session) (request : ApprovalRequest)

def issue : Program ApprovalState PyException ApprovalRecord := do
  Program.lift request.check
  Program.lift (requireTenant session request.tenant)
  let created ← Program.focus ApprovalState.supplyLens host.now
  let approvalId ← Program.focus ApprovalState.supplyLens (host.newId "appr")
  let contract ← Program.lift (contractOf request.contract)
  let unsigned := request.unsigned host created approvalId contract
  let signature ← Program.lift (sign host unsigned.payload)
  let record := { unsigned with signature }
  let approvalId ← Program.lift
    (validateIdentifier approvalId "approval id" "appr_")
  Program.modify fun state =>
    { state with files := state.files.insert approvalId record }
  return record

end Issue

/-! ## What an issued approval says -/

/-- The record was issued on the request at this time. -/
structure Issued (host : Host) (request : ApprovalRequest) (created : ℚ)
    (record : ApprovalRecord) : Prop where
  checked : request.check = .ok ()
  accepted : validateIdentifier record.approvalId "approval id" "appr_" =
    .ok record.approvalId
  signed : sign host record.payload = .ok record.signature
  same : ∃ contract, contractOf request.contract = .ok contract ∧
    record = { request.unsigned host created record.approvalId contract with
      signature := record.signature }

/-- The approval covers the decision on the work unit now. -/
structure Covers (request : ApprovalRequest) (created : ℚ)
    (workUnit : WorkUnit) (contract : Contract) (policyBundleId : String)
    (now : ℚ) : Prop where
  unexpired : now < created + request.ttlSeconds
  tenant : request.tenant = workUnit.tenant
  bound : textOr request.workUnitId "" ≠ "" →
    request.workUnitId = some workUnit.id
  contract : request.contract = contract.value
  bundle : request.policyBundleId = policyBundleId

section Records

variable {host : Host} {session : Session} {request : ApprovalRequest}

theorem value_of_contractOf {name : String} {contract : Contract}
    (found : contractOf name = .ok contract) : contract.value = name := by
  unfold contractOf Contract.ofValue? at found
  cases search : Contract.all.find? fun contract => contract.value == name with
  | none =>
      rw [search] at found
      cases found
  | some first =>
      rw [search] at found
      cases found
      simpa using List.find?_some search

theorem ensures_issue (state : ApprovalState) :
    Ensures (issue host session request) state
      (fun record later =>
        Issued host request (host.clock state.supply.tick) record ∧
        record.approvalId = host.idText "appr" state.supply.nextId ∧
        later.files = state.files.insert record.approvalId record ∧
        later.supply.nextId = state.supply.nextId + 1)
      (fun _ later => later.files = state.files ∧
        state.supply.Before later.supply) := by
  have still : state.files = state.files ∧
      state.supply.Before state.supply := ⟨rfl, .refl _⟩
  unfold issue
  rw [ensures_bind, ensures_lift]
  refine ⟨fun _ checked => ?_, fun _ _ => still⟩
  rw [ensures_bind, ensures_lift]
  refine ⟨fun _ _ => ?_, fun _ _ => still⟩
  rw [ensures_bind, ensures_focus]
  apply (host.ensures_now _).mono _ (fun _ _ impossible => impossible.elim)
  rintro created supply ⟨rfl, rfl⟩
  rw [ensures_bind, ensures_focus]
  apply (host.ensures_newId _ "appr").mono _
    (fun _ _ impossible => impossible.elim)
  rintro approvalId supply ⟨rfl, rfl⟩
  have drawn : state.supply.Before
      ⟨state.supply.nextId + 1, state.supply.tick + 1⟩ :=
    ⟨Nat.le_succ _, Nat.le_succ _⟩
  rw [ensures_bind, ensures_lift]
  refine ⟨fun contract known => ?_, fun _ _ => ⟨rfl, drawn⟩⟩
  rw [ensures_bind, ensures_lift]
  refine ⟨fun signature signed => ?_, fun _ _ => ⟨rfl, drawn⟩⟩
  rw [ensures_bind, ensures_lift]
  refine ⟨fun approvalId accepted => ?_, fun _ _ => ⟨rfl, drawn⟩⟩
  obtain ⟨rfl, -⟩ := validateIdentifier_eq_ok accepted
  rw [ensures_bind, ensures_modify]
  exact ⟨⟨checked, accepted, signed, contract, known, rfl⟩, rfl, rfl, rfl⟩

/-- An issued record passes the check exactly for what it covers. -/
theorem checkRecord_ok_iff {created now : ℚ} {record : ApprovalRecord}
    (issued : Issued host request created record)
    (reads : host.fromIsoformat
      (host.isoformat (created + request.ttlSeconds)) =
        some (created + request.ttlSeconds))
    (workUnit : WorkUnit) (contract : Contract) (policyBundleId : String) :
    checkRecord host record now workUnit contract policyBundleId = .ok record ↔
      Covers request created workUnit contract policyBundleId now := by
  obtain ⟨known, named, same⟩ := issued.same
  have value := value_of_contractOf named
  rw [same]
  simp only [checkRecord, ApprovalRequest.unsigned, reads, value]
  constructor
  · intro passes
    split at passes
    · cases passes
    · rename_i unexpired
      split at passes
      · cases passes
      · rename_i tenant
        split at passes
        · cases passes
        · rename_i bound
          split at passes
          · cases passes
          · rename_i agreed
            split at passes
            · cases passes
            · rename_i bundle
              exact ⟨not_le.mp unexpired, not_not.mp tenant,
                fun named => by_contra fun other => bound ⟨named, other⟩,
                not_not.mp agreed, not_not.mp bundle⟩
  · rintro ⟨unexpired, tenant, bound, agreed, bundle⟩
    rw [if_neg (not_le.mpr unexpired), if_neg (not_not_intro tenant),
      if_neg (fun both => both.2 (bound both.1)),
      if_neg (not_not_intro agreed), if_neg (not_not_intro bundle)]

end Records

end ApprovalStore

end Urp
