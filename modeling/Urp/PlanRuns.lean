import Urp.PlanRecords
import Urp.StoredRepresentation

/-!
# Runs and their plans

Executions, chat and embedding requests and changes of the policy against one
state directory.  The record of a plan stays the one that the manifests carry
as long as no call plans under an identifier that a manifest has for another
plan.
-/

namespace Urp

open Python Program

/-! ## The machine -/

inductive PlannedCall where
  | object (execution : Execution)
  | mock (execution : Execution)
  | workUnit (call : WorkUnitCall)
  | gateway (call : GatewayCall)

section Machine

variable (host : Host) (provider : ChatProvider)

def PlannedCall.run : PlannedCall → Program Gateway PyException Unit
  | .object execution => do
      let _ ← Program.focus Gateway.worldLens
        (executeExactObject host execution)
      return ()
  | .mock execution => do
      let _ ← Program.focus Gateway.worldLens
        (executeMockAdapter host execution)
      return ()
  | .workUnit call => do
      let _ ← executeWorkUnit host call
      return ()
  | .gateway call => do
      let _ ← call.run host provider
      return ()

def plannedStep (gateway : Gateway) (call : PlannedCall) :
    Except PyException Unit × Gateway :=
  call.run host provider gateway

end Machine

/-! ## The plan of a call -/

section Plans

variable (host : Host)

def Execution.plans (execution : Execution) :
    Program Gateway PyException Plan := do
  let prepared ← Program.lift (execution.prepare host)
  return prepared.plan

def AiRequest.plans (request : AiRequest) :
    Program Gateway PyException Plan := do
  let admission ← Program.focus Gateway.worldLens (decideAi host request)
  return admission.plan

def ChatCall.plans (call : ChatCall) : Program Gateway PyException Plan := do
  let setup ← Program.lift (call.setup host)
  (call.aiRequest host setup).plans host

def EmbeddingCall.plans (call : EmbeddingCall) :
    Program Gateway PyException Plan := do
  let setup ← Program.lift (call.setup host)
  (call.aiRequest setup).plans host

def WorkUnitCall.plans (call : WorkUnitCall) :
    Program Gateway PyException Plan := do
  let mode ← Program.lift (call.checked host)
  let bundle ← Program.focus Gateway.worldLens
    (Program.focus World.policiesLens (resolveActivePolicyBundle call.session
      (policyName host call.workUnit)))
  if call.workUnit.kind = .promptRequest then
    (call.chatCall host mode bundle).plans host
  else (call.execution mode bundle).plans host

/-- What the call plans, up to the approval and the storing of the plan. -/
def PlannedCall.plans : PlannedCall → Program Gateway PyException (Option Plan)
  | .object execution | .mock execution => do
      let plan ← execution.plans host
      return some plan
  | .workUnit call => do
      let plan ← call.plans host
      return some plan
  | .gateway (.chat call) => do
      let plan ← call.plans host
      return some plan
  | .gateway (.embedding call) => do
      let plan ← call.plans host
      return some plan
  | .gateway (.policy _ _) => return none

/-- No manifest has another plan under the identifier of the plan that the
call makes. -/
def PlannedCall.PlansAnew (call : PlannedCall) (gateway : Gateway) : Prop :=
  ∀ plan, (call.plans host gateway).1 = .ok (some plan) →
    gateway.world.Unclaimed plan

end Plans

/-! ## What each call leaves -/

/-- The two stores are as they were, or the call's plan and manifests of it
were stored. -/
def Gateway.Leaves (gateway : Gateway) (plans : Program Gateway PyException Plan)
    (later : Gateway) : Prop :=
  later.evidence = gateway.evidence ∨ ∃ plan,
    (plans gateway).1 = .ok plan ∧ gateway.world.Follows plan later.world

section Calls

variable (host : Host)

theorem leaves_execution (execution : Execution) (gateway : Gateway) :
    gateway.Leaves (execution.plans host)
      (focus Gateway.worldLens (executeExactObject host execution) gateway).2 := by
  cases ready : execution.prepare host with
  | error error =>
      left
      have run : executeExactObject host execution
          (Gateway.worldLens.get gateway) = (.error error, gateway.world) :=
        execute_of_unprepared host ready gateway.world
      rw [focus_of_run run]
      rfl
  | ok prepared =>
      apply ensures_state_iff.mp
      rw [ensures_focus]
      have plans : (execution.plans host gateway).1 = .ok prepared.plan := by
        unfold Execution.plans
        rw [ready]
        rfl
      apply (follows_executeExactObject host ready gateway.world).mono
      · exact fun _ later follows => .inr ⟨prepared.plan, plans, follows⟩
      · rintro _ later (same | follows)
        · exact .inl same
        · exact .inr ⟨prepared.plan, plans, follows⟩

/-- A mock adapter's name does not change the plan. -/
theorem leaves_mock (execution : Execution) (gateway : Gateway) :
    gateway.Leaves (execution.plans host)
      (focus Gateway.worldLens (executeMockAdapter host execution) gateway).2 := by
  let adapter := execution.workUnit.metadata.get "adapter"
  let name := host.str
    (if adapter.isTruthy then adapter else .str "local_mock")
  let named : Execution := { execution with adapterName := some name }
  have same : named.plans host = execution.plans host := rfl
  rw [← same]
  exact leaves_execution host named gateway

/-- After its intake, a request only has to store nothing under another
plan. -/
theorem leaves_intake (request : AiRequest) (gateway : Gateway) :
    Ensures (focus Gateway.worldLens (intake host request)) gateway
      (fun admission later => ∀ final, later.Stays admission.plan final →
        gateway.Leaves (request.plans host) final)
      (fun _ later => gateway.Leaves (request.plans host) later) := by
  have plans : ∀ {admission : Admission},
      (decideAi host request gateway.world).1 = .ok admission →
        (request.plans host gateway).1 = .ok admission.plan := by
    intro admission decided
    have run : decideAi host request (Gateway.worldLens.get gateway) =
        (.ok admission, (decideAi host request gateway.world).2) :=
      Prod.ext decided rfl
    unfold AiRequest.plans
    rw [bind_ok (focus_of_run run)]
    rfl
  rw [ensures_focus]
  apply (planned_intake host request gateway.world).mono
  · rintro admission admitted ⟨decided, planned⟩ final stays
    exact .inr ⟨admission.plan, plans decided, planned.follows stays⟩
  · rintro _ later (same | ⟨admission, decided, planned⟩)
    · exact .inl same
    · exact .inr ⟨admission.plan, plans decided,
        planned.follows (refl_of (World.Stays · admission.plan ·) later)⟩

theorem leaves_chat (provider : ChatProvider) (call : ChatCall)
    (gateway : Gateway) :
    gateway.Leaves (call.plans host)
      (handleChatCompletion host provider call gateway).2 := by
  apply ensures_state_iff.mp
  unfold handleChatCompletion prepareChat
  rw [ensures_bind, ensures_bind, ensures_lift]
  refine ⟨fun setup ready => ?_, fun _ _ => .inl rfl⟩
  have plans : call.plans host = (call.aiRequest host setup).plans host := by
    unfold ChatCall.plans
    rw [ready, lift_ok_bind]
  rw [ensures_bind, plans]
  apply (leaves_intake host (call.aiRequest host setup) gateway).mono
  · intro admission admitted leaves
    rw [ensures_lift]
    refine ⟨fun chat made => ?_, fun _ _ =>
      leaves _ (refl_of (Gateway.Stays · admission.plan ·) admitted)⟩
    have same : chat.admission = admission := by
      obtain ⟨maxTokens, -, made⟩ := except_bind_eq_ok_iff.mp made
      obtain ⟨ttl, -, made⟩ := except_bind_eq_ok_iff.mp made
      cases made
      rfl
    have rest : Within (Gateway.Stays · chat.admission.plan ·)
        (serve host provider chat >>= finish host chat) := by
      refine within_bind (stays_of_evidence ?_) fun served => ?_
      · exact unlogged_evidence.serve host provider chat fun _ _ => rfl
      · exact stays_finish host chat served
    rw [same] at rest
    apply (rest.ensures admitted).mono
    · exact fun _ _ stays => leaves _ stays
    · exact fun _ _ stays => leaves _ stays
  · exact fun _ _ leaves => leaves

theorem leaves_embedding (call : EmbeddingCall) (gateway : Gateway) :
    gateway.Leaves (call.plans host) (handleEmbeddings host call gateway).2 := by
  apply ensures_state_iff.mp
  unfold handleEmbeddings prepareEmbedding
  rw [ensures_bind, ensures_bind, ensures_lift]
  refine ⟨fun setup ready => ?_, fun _ _ => .inl rfl⟩
  have plans : call.plans host = (call.aiRequest setup).plans host := by
    unfold EmbeddingCall.plans
    rw [ready, lift_ok_bind]
  rw [ensures_bind, plans]
  apply (leaves_intake host (call.aiRequest setup) gateway).mono
  · intro admission admitted leaves
    rw [ensures_bind, ensures_lift]
    refine ⟨fun ttl bounded => ?_, fun _ _ =>
      leaves _ (refl_of (Gateway.Stays · admission.plan ·) admitted)⟩
    let embedding : Embedding := { call, setup, admission, ttl }
    have rest : Within (Gateway.Stays · admission.plan ·)
        (serveEmbedding host embedding >>= finishEmbedding host embedding) := by
      refine within_bind (stays_of_evidence ?_) fun served => ?_
      · exact evidence_serveEmbedding host embedding
      · exact stays_finishEmbedding host embedding served
    apply (rest.ensures admitted).mono
    · exact fun _ _ stays => leaves _ stays
    · exact fun _ _ stays => leaves _ stays
  · exact fun _ _ leaves => leaves

theorem Gateway.Leaves.of_evidence {gateway middle later : Gateway}
    {plans rest : Program Gateway PyException Plan}
    (same : middle.evidence = gateway.evidence)
    (run : plans gateway = rest middle) (leaves : middle.Leaves rest later) :
    gateway.Leaves plans later := by
  rcases leaves with unchanged | ⟨plan, planned, follows⟩
  · exact .inl (unchanged.trans same)
  · refine .inr ⟨plan, ?_, follows.of_evidence same⟩
    rw [run]
    exact planned

/-- A work unit goes to the gateway or to an execution, under the active
bundle. -/
theorem leaves_workUnit (call : WorkUnitCall) (gateway : Gateway) :
    gateway.Leaves (call.plans host) (executeWorkUnit host call gateway).2 := by
  cases checked : call.checked host with
  | error error =>
      left
      unfold executeWorkUnit
      rw [checked]
      rfl
  | ok mode =>
      let resolving := focus Gateway.worldLens (focus World.policiesLens
        (resolveActivePolicyBundle call.session
          (policyName host call.workUnit)))
      have framed : Frames Gateway.evidence resolving :=
        fun gateway => rfl
      rcases resolved : resolving gateway with ⟨error | bundle, middle⟩
      · left
        unfold executeWorkUnit
        rw [checked, lift_ok_bind, bind_error resolved]
        exact framed.of_run resolved
      · unfold executeWorkUnit
        rw [checked, lift_ok_bind, bind_ok resolved]
        by_cases prompt : call.workUnit.kind = .promptRequest
        · have same : (executePrompt host call mode bundle middle).2 =
              (handleChatCompletion host (mockProvider host)
                (call.chatCall host mode bundle) middle).2 :=
            congrArg Prod.snd (bind_ret_run _ _ _)
          rw [if_pos prompt, same]
          apply Gateway.Leaves.of_evidence (framed.of_run resolved) ?_
            (leaves_chat host _ (call.chatCall host mode bundle) middle)
          unfold WorkUnitCall.plans
          rw [checked, lift_ok_bind, bind_ok resolved, if_pos prompt]
        · rw [if_neg prompt]
          apply Gateway.Leaves.of_evidence (framed.of_run resolved) ?_
            (?_ : middle.Leaves ((call.execution mode bundle).plans host) _)
          · unfold WorkUnitCall.plans
            rw [checked, lift_ok_bind, bind_ok resolved, if_neg prompt]
          · unfold executeObject
            split
            · exact leaves_execution host _ middle
            · exact leaves_mock host _ middle

end Calls

/-! ## Runs -/

section Runs

variable {host : Host} {provider : ChatProvider}

/-- A call that plans anew keeps the records. -/
theorem plansStand_step {gateway : Gateway} {call : PlannedCall}
    (stand : gateway.world.PlansStand) (anew : call.PlansAnew host gateway) :
    (plannedStep host provider gateway call).2.world.PlansStand := by
  have kept : ∀ {plans : Program Gateway PyException Plan} {later : Gateway},
      (∀ plan, (plans gateway).1 = .ok plan → gateway.world.Unclaimed plan) →
        gateway.Leaves plans later → later.world.PlansStand := by
    rintro plans later unclaimed (same | ⟨plan, planned, follows⟩)
    · exact stand.of_evidence same
    · exact stand.of_follows (unclaimed plan planned) follows
  have unclaimed : ∀ {plans : Program Gateway PyException Plan},
      call.plans host = (do return some (← plans)) →
        ∀ plan, (plans gateway).1 = .ok plan → gateway.world.Unclaimed plan := by
    intro plans same plan planned
    apply anew plan
    rw [same]
    change ((plans >>= fun plan => ret (some plan)) gateway).1 = _
    rw [bind_ret_run, planned]
    rfl
  unfold plannedStep
  cases call with
  | object execution =>
      change ((focus Gateway.worldLens (executeExactObject host execution) >>=
        fun _ => ret ()) gateway).2.world.PlansStand
      rw [bind_ret_run]
      exact kept (unclaimed rfl) (leaves_execution host execution gateway)
  | mock execution =>
      change ((focus Gateway.worldLens (executeMockAdapter host execution) >>=
        fun _ => ret ()) gateway).2.world.PlansStand
      rw [bind_ret_run]
      exact kept (unclaimed rfl) (leaves_mock host execution gateway)
  | workUnit call =>
      change ((executeWorkUnit host call >>= fun _ => ret ())
        gateway).2.world.PlansStand
      rw [bind_ret_run]
      exact kept (unclaimed rfl) (leaves_workUnit host call gateway)
  | gateway call =>
      change ((call.run host provider >>= fun _ => ret ())
        gateway).2.world.PlansStand
      rw [bind_ret_run]
      cases call with
      | chat call =>
          change (gatewayStep host provider gateway
            (.chat call)).2.world.PlansStand
          rw [gatewayStep_chat]
          exact kept (unclaimed rfl) (leaves_chat host provider call gateway)
      | embedding call =>
          change (gatewayStep host provider gateway
            (.embedding call)).2.world.PlansStand
          rw [gatewayStep_embedding]
          exact kept (unclaimed rfl) (leaves_embedding host call gateway)
      | policy session command =>
          change (gatewayStep host provider gateway
            (.policy session command)).2.world.PlansStand
          rw [gatewayStep_policy]
          exact stand.of_evidence rfl

/-- In a run whose calls all plan anew, every manifest's plan stays the record
under its identifier. -/
theorem plansStand_of_plansAnew {start : Gateway} {calls : List PlannedCall}
    (noManifests : start.world.manifests = ∅)
    (anew : ∀ v ∈ Run.visits (plannedStep host provider) start calls,
      v.input.PlansAnew host v.before) :
    ∀ v ∈ Run.visits (plannedStep host provider) start calls,
      v.before.world.PlansStand ∧ v.after.world.PlansStand := by
  have stand : start.world.PlansStand := by
    intro manifestId manifest found
    rw [noManifests] at found
    cases found
  exact @Run.visits_guarded _ _ _ _
    (fun gateway : Gateway => gateway.world.PlansStand) _ _ _ stand
    (fun gateway call guard before => plansStand_step before guard) anew

end Runs

/-- An execution, and a bundle published after it. -/
def revisedCalls : List PlannedCall :=
  [.object (sampleExecution "acme" "default" "enforce"),
    .gateway (.policy {} (.publish undedupedBundle "admin"))]

theorem plansStand_of_plansAnew_sample :
    (Run.visits (plannedStep Host.counting (mockProvider Host.counting)) {}
        revisedCalls).length = 2 ∧
      ∀ v ∈ Run.visits (plannedStep Host.counting (mockProvider Host.counting))
        {} revisedCalls,
          v.before.world.PlansStand ∧ v.after.world.PlansStand := by
  refine ⟨rfl, plansStand_of_plansAnew rfl ?_⟩
  intro v member plan planned
  rcases List.mem_cons.mp member with rfl | later
  · intro manifestId manifest found
    cases found
  · rcases List.mem_cons.mp later with rfl | none
    · cases planned
    · cases none

/-! ## A record that is overwritten -/

section Overwritten

variable {provider : ChatProvider}

theorem plannedStep_object {host : Host} {gateway : Gateway}
    {execution : Execution} {result : ExecutionResult} {later : World}
    (run : executeExactObject host execution gateway.world =
      (.ok result, later)) :
    (plannedStep host provider gateway (.object execution)).2 =
      Gateway.worldLens.set gateway later := by
  have inside : focus Gateway.worldLens (executeExactObject host execution)
      gateway = (.ok result, Gateway.worldLens.set gateway later) :=
    focus_of_run run
  exact congrArg Prod.snd (bind_ok inside)

theorem Written.plan {host : Host} {execution : Execution} {prepared : Prepared}
    {world later : World} {manifest : Manifest}
    (written : Written host execution prepared world later manifest) :
    manifest.plan = prepared.plan := by
  obtain ⟨state, physical, verification, lineage, telemetry, createdAt, made⟩ :=
    written.made
  rw [made]
  rfl

/-- A second execution whose plan has the identifier of the first one's leaves
the first manifest with another plan than the record. -/
theorem not_plansStand_of_planId {first second : Execution}
    {prepared again : Prepared} {chunk last : Chunk}
    (admissible : first.Admissible Host.counting prepared [chunk])
    (againAdmissible : second.Admissible Host.counting again [last])
    (mode : prepared.mode ≠ .observe) (againMode : again.mode ≠ .observe)
    (keyText : (onlyPut second again last).keyText =
      (onlyPut first prepared chunk).keyText)
    (data : last.data = chunk.data)
    (planId : again.plan.planId = prepared.plan.planId)
    (bundles : again.plan.policyBundleId ≠ prepared.plan.policyBundleId) :
    ¬ ∀ v ∈ Run.visits (plannedStep Host.counting provider) {}
      [.object first, .object second], v.after.world.PlansStand := by
  have collisionFree : CollisionFree
      (first.puts Host.counting ++ second.puts Host.counting) := by
    apply @collisionFree_of_alike _ (onlyPut first prepared chunk)
    intro put member
    rw [Execution.puts_eq admissible.ready mode admissible.cut,
      Execution.puts_eq againAdmissible.ready againMode againAdmissible.cut]
      at member
    rcases List.mem_append.mp member with early | late
    · rw [List.mem_singleton.mp early]
      exact ⟨rfl, rfl⟩
    · rw [List.mem_singleton.mp late]
      exact ⟨keyText, data⟩
  have own : onlyPut first prepared chunk ∈
      first.puts Host.counting ++ second.puts Host.counting := by
    apply List.mem_append_left
    rw [Execution.puts_eq admissible.ready mode admissible.cut]
    exact List.mem_cons_self
  obtain ⟨_, middle, manifest, run, -, healthy, drawn, one⟩ :=
    admissible.storesFirst mode collisionFree
      fun _ member => List.mem_append_left _ member
  obtain ⟨_, later, other, rerun, two⟩ := againAdmissible.storesAgain againMode
    collisionFree (fun _ member => List.mem_append_right _ member) own keyText
    healthy drawn one.chunks
  intro stands
  have begun := @plannedStep_object provider _ {} _ _ _ run
  have ended := @plannedStep_object provider _
    (Gateway.worldLens.set {} middle) _ _ _ rerun
  have stand : later.PlansStand := by
    have visited := stands _ (List.mem_cons_of_mem _ List.mem_cons_self)
    have after : (Run.visit (plannedStep Host.counting provider)
        (plannedStep Host.counting provider {} (.object first)).2
        (.object second)).after.world = later := by
      rw [begun]
      exact congrArg Gateway.world ended
    rw [← after]
    exact visited
  have fresh : other.manifestId ≠ manifest.manifestId := by
    intro same
    obtain ⟨j, -, high, named⟩ := one.written.identifier
    obtain ⟨k, low, -, renamed⟩ := two.written.identifier
    have equal := idText_injective Host.counting_fresh
      (renamed.symm.trans (same.trans named))
    omega
  have kept : later.manifests.lookup manifest.manifestId =
      some manifest.reloaded := by
    rw [two.written.manifests, Dict.lookup_insert_ne _ _ fresh]
    exact one.written.found
  have follows := (follows_executeExactObject Host.counting
    againAdmissible.ready middle).of_ok rerun
  have record := stand _ _ kept
  have name : manifest.reloaded.plan.planId = again.plan.planId := by
    rw [planId, Manifest.plan_reloaded, one.written.plan]
    rfl
  unfold World.planRecord at record
  rw [follows.plans, name, Dict.lookup_insert_self] at record
  have same := congrArg Plan.policyBundleId (Option.some.inj record)
  rw [Manifest.plan_reloaded, one.written.plan] at same
  exact bundles same

end Overwritten

/-- Both plans have one identifier, and they name different bundles. -/
def sharesPlanId (first second : Execution) : Bool :=
  Passes (fun prepared : Prepared => Passes (fun again : Prepared =>
      again.plan.planId == prepared.plan.planId &&
        again.plan.policyBundleId != prepared.plan.policyBundleId)
    (second.prepare Host.counting)) (first.prepare Host.counting)

def greetsEnforced (prepared : Prepared) : Bool :=
  prepared.mode == .enforce && decide (prepared.payload = [104, 105])

/-- A work unit that is executed again under another bundle. -/
theorem undedupedExecution_overwrites :
    ¬ ∀ v ∈ Run.visits (plannedStep Host.counting (mockProvider Host.counting))
      {} [.object (sampleExecution "acme" "default" "enforce"),
        .object undedupedExecution], v.after.world.PlansStand := by
  have shares : sharesPlanId (sampleExecution "acme" "default" "enforce")
      undedupedExecution = true := by
    decide +kernel
  have passes : (sampleExecution "acme" "default" "enforce").passesWith
      Host.counting greetsEnforced = true := by
    decide +kernel
  have againPasses : undedupedExecution.passesWith Host.counting
      greetsEnforced = true := by
    decide +kernel
  obtain ⟨prepared, chunk, admissible, checked⟩ :=
    Execution.admissible_of_passes passes
  obtain ⟨again, last, againAdmissible, againChecked⟩ :=
    Execution.admissible_of_passes againPasses
  simp only [greetsEnforced, Bool.and_eq_true, beq_iff_eq, decide_eq_true_eq]
    at checked againChecked
  simp only [sharesPlanId, admissible.ready, againAdmissible.ready, Passes,
    Bool.and_eq_true, beq_iff_eq, bne_iff_ne, ne_eq] at shares
  have mode : ∀ {prepared : Prepared}, prepared.mode = .enforce →
      prepared.mode ≠ .observe := by
    intro prepared enforced
    rw [enforced]
    decide
  have data : last.data = chunk.data := by
    rw [data_of_payload admissible.cut checked.2,
      data_of_payload againAdmissible.cut againChecked.2]
  have keyText : (onlyPut undedupedExecution again last).keyText =
      (onlyPut (sampleExecution "acme" "default" "enforce") prepared
        chunk).keyText := by
    apply keyText_of_data
    · rfl
    · rw [checked.1, againChecked.1]
      rfl
    · exact data
  apply not_plansStand_of_planId admissible againAdmissible (mode checked.1)
    (mode againChecked.1) keyText data shares.1 shares.2

end Urp
