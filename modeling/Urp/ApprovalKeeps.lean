import Urp.ApprovalIssue
import Urp.DenialAudit
import Urp.ManifestWrites
import Urp.GatewayRuns
import Urp.PlanRecords

/-!
# Calls keep the approvals

No call that a policy may hold for an approval writes the approvals, and
identifiers are only drawn.
-/

namespace Urp

open Python Program

/-- The approvals are the same, and identifiers are only drawn. -/
structure World.KeepsApprovals (world later : World) : Prop where
  approvals : later.approvals = world.approvals
  supply : world.supply.Before later.supply

instance : IsPreorder World World.KeepsApprovals where
  refl world := ⟨rfl, .refl world.supply⟩
  trans _ _ _ early late := ⟨late.approvals.trans early.approvals,
    early.supply.trans late.supply⟩

def Gateway.KeepsApprovals (gateway later : Gateway) : Prop :=
  gateway.world.KeepsApprovals later.world

instance : IsPreorder Gateway Gateway.KeepsApprovals where
  refl gateway := refl_of World.KeepsApprovals gateway.world
  trans _ _ _ early late := trans_of World.KeepsApprovals early late

section Worlds

variable {host : Host}

theorem keeps_supply {α : Type} {body : Program Supply PyException α}
    (drawn : Within Supply.Before body) :
    Within World.KeepsApprovals (focus World.supplyLens body) :=
  within_focus drawn fun _ _ drawn => ⟨rfl, drawn⟩

/-- A store of its own keeps the approvals. -/
theorem keeps_focus {τ α : Type} {lens : Lens World τ}
    {body : Program τ PyException α}
    (apart : ∀ world part, (lens.set world part).approvals = world.approvals ∧
      (lens.set world part).supply = world.supply) :
    Within World.KeepsApprovals (focus lens body) := by
  intro world
  have same := apart world (body (lens.get world)).2
  refine ⟨same.1, ?_⟩
  change world.supply.Before (lens.set world _).supply
  rw [same.2]
  exact .refl _

theorem keeps_record (session : Session) (event : LedgerEvent) :
    Within World.KeepsApprovals (record host session event) := by
  refine within_bind ?_ fun _ => within_ret _
  exact within_focus (JSONLLedger.drawn_record host session event)
    fun _ _ drawn => ⟨rfl, drawn⟩

/-- The files are the same, and identifiers are only drawn. -/
def ApprovalState.Keeps (state later : ApprovalState) : Prop :=
  later.files = state.files ∧ state.supply.Before later.supply

instance : IsPreorder ApprovalState ApprovalState.Keeps where
  refl state := ⟨rfl, .refl state.supply⟩
  trans _ _ _ early late := ⟨late.1.trans early.1, early.2.trans late.2⟩

theorem keeps_verify (approvalId : String) (workUnit : WorkUnit)
    (contract : Contract) (policyBundleId : String) :
    Within ApprovalState.Keeps (ApprovalStore.verify host approvalId workUnit
      contract policyBundleId) := by
  have got : Within ApprovalState.Keeps (ApprovalStore.get host approvalId) := by
    refine within_bind (within_lift _) fun approvalId => ?_
    refine within_bind within_get fun state => ?_
    split
    · exact within_raise _
    · refine within_bind (within_lift _) fun signature => ?_
      exact within_ite (within_ret _) (within_raise _)
  refine within_bind got fun record => ?_
  refine within_bind ?_ fun now => within_lift _
  exact within_focus host.within_now fun _ _ drawn => ⟨rfl, drawn⟩

theorem keeps_verifyApproval (approvalId : String) (workUnit : WorkUnit)
    (policy : PolicyDecision) :
    Within World.KeepsApprovals
      (verifyApproval host approvalId workUnit policy) := by
  refine within_bind ?_ fun _ => within_ret _
  apply within_rethrow
  exact within_focus (keeps_verify _ _ _ _)
    fun _ _ keeps => ⟨keeps.1, keeps.2⟩

theorem keeps_storePlanWithAudit (session : Session) (plan : Plan)
    (workUnit : WorkUnit) :
    Within World.KeepsApprovals
      (storePlanWithAudit host session plan workUnit) := by
  refine within_bind ?_ fun _ => keeps_record session _
  refine within_bind (within_lift _) fun _ => ?_
  refine within_bind (within_lift _) fun planId => ?_
  exact within_modify fun world => ⟨rfl, .refl world.supply⟩

/-! ## Executions -/

section Execution

variable (execution : Execution) (prepared : Prepared)

theorem keeps_requirePolicyApproval :
    Within World.KeepsApprovals
      (requirePolicyApproval host execution prepared) := by
  refine within_ite (within_ret _) ?_
  refine within_ite (keeps_verifyApproval _ _ _) ?_
  exact within_bind (keeps_record _ _) fun _ => within_raise _

theorem keeps_writeManifest (state : ManifestState) (physical : Physical)
    (verification : VerificationResult) (lineage telemetry details : Object) :
    Within World.KeepsApprovals (writeManifest host execution prepared state
      physical verification lineage telemetry details) := by
  refine within_bind (keeps_supply ?_) fun manifest => ?_
  · refine within_bind (host.within_newId "mf") fun manifestId => ?_
    exact within_bind host.within_utcNow fun createdAt => within_ret _
  refine within_bind (keeps_focus fun _ _ => ⟨rfl, rfl⟩) fun _ => ?_
  exact within_bind (keeps_record _ _) fun _ => within_ret _

theorem keeps_storeObject :
    Within World.KeepsApprovals (storeObject host execution prepared) := by
  refine within_bind (within_lift _) fun chunks => ?_
  refine within_bind ?_ fun segments => ?_
  · refine within_bind (keeps_focus fun _ _ => ⟨rfl, rfl⟩) fun stored => ?_
    refine within_bind (within_forEach fun segment => ?_) fun _ => within_ret _
    exact keeps_record _ _
  refine within_bind ?_ fun verification => ?_
  · refine within_bind (keeps_focus fun _ _ => ⟨rfl, rfl⟩) fun restored => ?_
    refine within_ite ?_ ?_
    · exact within_bind (within_lift _) fun _ => within_ret _
    · exact within_bind (keeps_record _ _) fun _ => within_raise _
  refine within_bind (keeps_writeManifest _ _ _ _ _ _ _ _) fun manifest => ?_
  refine within_bind ?_ fun _ => within_ret _
  unfold recordAdapter
  split
  · exact within_ret _
  · exact keeps_record _ _

theorem keeps_executeExactObject :
    Within World.KeepsApprovals (executeExactObject host execution) := by
  refine within_bind (within_lift _) fun prepared => ?_
  refine within_bind ?_ fun _ => ?_
  · refine within_bind (keeps_requirePolicyApproval execution prepared)
      fun _ => ?_
    refine within_bind (keeps_record _ _) fun _ => ?_
    refine within_bind (keeps_record _ _) fun _ => ?_
    exact keeps_storePlanWithAudit _ _ _
  · refine within_ite ?_ (keeps_storeObject execution prepared)
    refine within_bind ?_ fun _ => within_ret _
    exact keeps_writeManifest _ _ _ _ _ _ _ _

end Execution

/-! ## AI requests -/

theorem keeps_decideAi (request : AiRequest) :
    Within World.KeepsApprovals (decideAi host request) := by
  refine within_bind (keeps_supply (within_newWorkUnit host request))
    fun workUnit => ?_
  refine within_bind (keeps_focus fun _ _ => ⟨rfl, rfl⟩) fun bundle => ?_
  refine within_bind (within_lift _) fun policy => ?_
  exact within_bind (within_lift _) fun plan => within_ret _

theorem keeps_intake (request : AiRequest) :
    Within World.KeepsApprovals (intake host request) := by
  refine within_bind (keeps_decideAi request) fun admission => ?_
  refine within_bind ?_ fun _ => within_ret _
  refine within_bind ?_ fun _ => ?_
  · refine within_ite (within_ret _) ?_
    exact within_ite (keeps_verifyApproval _ _ _) (within_raise _)
  · refine within_bind (keeps_record _ _) fun _ => ?_
    refine within_bind (keeps_record _ _) fun _ => ?_
    exact keeps_storePlanWithAudit _ _ _

theorem keeps_putManifest (session : Session) (admission : Admission)
    (manifest : Manifest) :
    Within World.KeepsApprovals
      (putManifest host session admission manifest) := by
  refine within_bind (keeps_focus fun _ _ => ⟨rfl, rfl⟩) fun _ => ?_
  exact keeps_record _ _

theorem keeps_gateway {α : Type} {body : Program World PyException α}
    (keeps : Within World.KeepsApprovals body) :
    Within Gateway.KeepsApprovals (focus Gateway.worldLens body) :=
  within_focus keeps fun _ _ kept => kept

/-- The gateway's view of the approvals reads neither a cache nor the
ledger. -/
theorem unlogged_approvals :
    Unlogged fun gateway : Gateway => gateway.world.approvals :=
  ⟨fun _ _ => rfl, fun _ _ => rfl, fun _ _ => rfl, fun _ _ _ => rfl⟩

theorem keeps_handleChatCompletion (provider : ChatProvider)
    (call : ChatCall) :
    Within Gateway.KeepsApprovals
      (handleChatCompletion host provider call) := by
  refine within_bind ?_ fun chat => ?_
  · refine within_bind (within_lift _) fun setup => ?_
    refine within_bind (keeps_gateway (keeps_intake _)) fun admission => ?_
    exact within_lift _
  refine within_bind ?_ fun served => ?_
  · intro gateway
    refine ⟨unlogged_approvals.serve host provider chat (fun _ _ => rfl)
      gateway, ?_⟩
    let draws := fun later : Gateway => gateway.supply.Before later.supply
    change draws (serve host provider chat gateway).2
    apply ensures_state_iff.mp
    apply (@ensures_serve host provider chat gateway).mono
    · rintro _ later ⟨-, -, -, stores⟩
      exact stores.supply
    · rintro _ later (shrinks | ⟨_, -, -, stores, -⟩)
      · exact shrinks.supply
      · exact stores.supply
  · refine within_bind (within_lift _) fun _ => ?_
    refine within_bind (keeps_gateway ?_) fun manifest => within_ret _
    refine within_bind (keeps_supply (within_cacheableUntil host _ _))
      fun cacheable => ?_
    refine within_bind (within_lift _) fun _ => ?_
    refine within_bind (keeps_supply (host.within_newId "mf"))
      fun manifestId => ?_
    refine within_bind (keeps_supply host.within_utcNow) fun createdAt => ?_
    exact within_bind (keeps_putManifest _ _ _) fun _ => within_ret _

theorem keeps_handleEmbeddings (call : EmbeddingCall) :
    Within Gateway.KeepsApprovals (handleEmbeddings host call) := by
  intro gateway
  refine ⟨?_, (grows_handleEmbeddings host call gateway).supply⟩
  have world : ∀ {α : Type} {body : Program World PyException α},
      Within World.KeepsApprovals body →
        Frames (fun gateway : Gateway => gateway.world.approvals)
          (focus Gateway.worldLens body) :=
    fun keeps gateway => (keeps gateway.world).approvals
  have whole : Frames (fun gateway : Gateway => gateway.world.approvals)
      (handleEmbeddings host call) := by
    refine frames_bind ?_ fun embedding => ?_
    · refine frames_bind (frames_lift _) fun setup => ?_
      refine frames_bind (world (keeps_intake _)) fun admission => ?_
      exact frames_bind (frames_lift _) fun ttl => frames_ret _
    refine frames_bind (unlogged_approvals.serveEmbedding host embedding)
      fun served => ?_
    refine frames_bind (frames_lift _) fun embeddings => ?_
    refine frames_bind (frames_lift _) fun _ => ?_
    refine frames_bind (world ?_) fun manifest => frames_ret _
    refine within_bind (keeps_supply (within_cacheableUntil host _ _))
      fun cacheable => ?_
    refine within_bind (within_lift _) fun _ => ?_
    refine within_bind (keeps_supply (host.within_newId "mf"))
      fun manifestId => ?_
    refine within_bind (keeps_supply host.within_utcNow) fun createdAt => ?_
    exact within_bind (keeps_putManifest _ _ _) fun _ => within_ret _
  exact whole gateway

/-- No governed call writes the approvals. -/
theorem keeps_governed (call : GovernedCall) :
    Within Gateway.KeepsApprovals (call.run host) := by
  cases call with
  | object execution =>
      exact within_bind (keeps_gateway (keeps_executeExactObject execution))
        fun _ => within_ret _
  | mock execution =>
      exact within_bind (keeps_gateway (keeps_executeExactObject _))
        fun _ => within_ret _
  | chat provider call =>
      exact within_bind (keeps_handleChatCompletion provider call)
        fun _ => within_ret _
  | embedding call =>
      exact within_bind (keeps_handleEmbeddings call) fun _ => within_ret _

/-- Nor does the decision on it. -/
theorem keeps_rule (call : GovernedCall) :
    Within Gateway.KeepsApprovals (call.rule host) := by
  cases call with
  | object execution | mock execution =>
      exact within_bind (within_lift _) fun prepared => within_ret _
  | chat provider call =>
      refine within_bind (within_lift _) fun setup => ?_
      exact within_bind (keeps_gateway (keeps_decideAi _)) fun _ => within_ret _
  | embedding call =>
      refine within_bind (within_lift _) fun setup => ?_
      exact within_bind (keeps_gateway (keeps_decideAi _)) fun _ => within_ret _

end Worlds

end Urp
