import Urp.Dispatch
import Urp.PolicyAtomicity
import Urp.VerifierErrors

/-!
# The audit of refusals

Two gates stop a call whose decision requires an approval that it does not
have.  Only the gate of the object executions records a refusal, and only
where no approval is named.
-/

namespace Urp

open Python Program

/-- A call that its policy may hold for an approval. -/
inductive GovernedCall where
  | object (execution : Execution)
  | mock (execution : Execution)
  | chat (provider : ChatProvider) (call : ChatCall)
  | embedding (call : EmbeddingCall)

/-- What a policy decides about the work unit of a call. -/
structure Ruling where
  workUnit : WorkUnit
  policy : PolicyDecision

namespace Ruling

variable (ruling : Ruling)

def approvalId : Value := ruling.workUnit.policyContext.get "approval_id"

/-- The decision requires an approval.  None is named, or the named one is
unknown, malformed, expired or bound to something else. -/
def Unapproved (host : Host) (world : World) : Prop :=
  ruling.policy.requireApproval = true ∧
    (ruling.approvalId.isTruthy = true → ∃ error later,
      ApprovalStore.verify host (host.str ruling.approvalId) ruling.workUnit
          ruling.policy.contract ruling.policy.policyBundleId
          (World.approvalsLens.get world) = (.error error, later) ∧
        error.isApprovalFailure = true)

end Ruling

namespace GovernedCall

variable (host : Host)

/-- What a call does up to its decision. -/
def rule : GovernedCall → Program Gateway PyException Ruling
  | object execution | mock execution => do
      let prepared ← Program.lift (execution.prepare host)
      return ⟨execution.workUnit, prepared.policy⟩
  | chat _ call => do
      let setup ← Program.lift (call.setup host)
      let admission ← Program.focus Gateway.worldLens
        (decideAi host (call.aiRequest host setup))
      return ⟨admission.workUnit, admission.policy⟩
  | embedding call => do
      let setup ← Program.lift (call.setup host)
      let admission ← Program.focus Gateway.worldLens
        (decideAi host (call.aiRequest setup))
      return ⟨admission.workUnit, admission.policy⟩

def run : GovernedCall → Program Gateway PyException Unit
  | object execution => do
      let _ ← Program.focus Gateway.worldLens
        (executeExactObject host execution)
      return ()
  | mock execution => do
      let _ ← Program.focus Gateway.worldLens
        (executeMockAdapter host execution)
      return ()
  | chat provider call => do
      let _ ← handleChatCompletion host provider call
      return ()
  | embedding call => do
      let _ ← handleEmbeddings host call
      return ()

/-- The call goes through `execute_exact_object`. -/
def isExecution : GovernedCall → Bool
  | object _ | mock _ => true
  | chat _ _ | embedding _ => false

/-- From here the call comes to this ruling and is denied for want of an
approval. -/
structure Refused (call : GovernedCall) (gateway : Gateway)
    (ruling : Ruling) : Prop where
  unapproved : ∃ ruled, call.rule host gateway = (.ok ruling, ruled) ∧
    ruling.Unapproved host ruled.world
  denied : ∃ error final, call.run host gateway = (.error error, final) ∧
    error.hasCode "policy_denied"

end GovernedCall

/-- Exactly one denial of the work unit was recorded, and nothing else of it
was written. -/
structure Audited (workUnitId : String) (before after : World) : Prop where
  events : ∃ events : List LedgerEvent,
    after.ledger.file = before.ledger.file ++ ledgerFile events ∧
      (events.countP fun event => event.eventType = "policy.denied" &&
        event.workUnitId = some workUnitId) = 1 ∧
      ∀ event ∈ events, ¬ (event.eventType = "work_unit.received" ∧
        event.workUnitId = some workUnitId)
  plans : after.plans = before.plans
  manifests : after.manifests = before.manifests

/-! ## What is recorded -/

/-- The ledger, the plans and the manifests. -/
def World.records (world : World) :
    Bytes × Dict String Plan × ManifestFiles :=
  (world.ledger.file, world.plans, world.manifests)

theorem ledgerFile_eq_nil {events : List LedgerEvent}
    (nothing : ledgerFile events = []) : events = [] := by
  induction events using List.reverseRecOn with
  | nil => rfl
  | append_singleton earlier last _ =>
      rw [ledgerFile_append, List.append_eq_nil_iff] at nothing
      have newline : (10 : UInt8) ∈ utf8 (last.line ++ ['\n']) := by
        rw [utf8_append]
        exact List.mem_append_right _ (by decide)
      rw [nothing.2] at newline
      cases newline

/-- Nothing recorded is no audit. -/
theorem not_audited {workUnitId : String} {before after : World}
    (same : after.records = before.records) :
    ¬ Audited workUnitId before after := by
  rintro ⟨⟨events, file, once, -⟩, -, -⟩
  have unchanged : after.ledger.file = before.ledger.file :=
    congrArg Prod.fst same
  rw [unchanged] at file
  have nothing : ledgerFile events = [] := by
    have lengths := congrArg List.length file
    rw [List.length_append] at lengths
    exact List.eq_nil_of_length_eq_zero (by omega)
  rw [ledgerFile_eq_nil nothing] at once
  cases once

section Recording

variable (host : Host) (session : Session)

/-- An event is appended, or the ledger's own error is raised. -/
theorem ensures_journal (event : LedgerEvent) (ledger : LedgerState) :
    Ensures (JSONLLedger.record host session event) ledger
      (fun recorded later => event.Records recorded ∧
        later.file = ledger.file ++ ledgerFile [recorded])
      (fun error later => later.file = ledger.file ∧ error.IsStoreError) := by
  have file : Ensures (JSONLLedger.record host session event) ledger
      (fun recorded later => event.Records recorded ∧
        later.file = ledger.file ++ ledgerFile [recorded])
      (fun _ later => later.file = ledger.file) := by
    unfold JSONLLedger.record
    rw [ensures_bind, ensures_focus]
    apply (ensures_of_run (stamp_run host event ledger.supply)).mpr
    unfold JSONLLedger.append
    rw [ensures_bind, ensures_lift]
    refine ⟨fun _ _ => ?_, fun _ _ => rfl⟩
    rw [ensures_bind]
    apply (ensures_lastEventUnlocked host _).mono
    · rintro last later ⟨-, same⟩
      rw [ensures_bind, ensures_lift]
      refine ⟨fun _ _ => ?_, fun _ _ => same⟩
      split
      · exact same
      · rw [ensures_bind, ensures_modify]
        refine ⟨⟨_, _, _, rfl⟩, ?_⟩
        rw [same, ledgerFile_singleton]
        rfl
    · rintro _ later ⟨-, same⟩
      exact same
  exact (file.and (raises_journal host session event ledger)).mono
    (fun _ _ both => both.1) (fun _ _ both => both)

end Recording

/-! ## The gates -/

section Gates

variable {host : Host}

theorem records_verifyApproval (approvalId : String) (workUnit : WorkUnit)
    (policy : PolicyDecision) :
    Frames World.records (verifyApproval host approvalId workUnit policy) :=
  frames_bind (frames_rethrow (frames_focus fun _ _ => rfl))
    fun _ => frames_ret _

/-- A named approval that does not pass is denied, and nothing is recorded. -/
theorem verifyApproval_denied {ruling : Ruling} {world : World}
    (unapproved : ruling.Unapproved host world)
    (named : ruling.approvalId.isTruthy = true) :
    ∃ error later, verifyApproval host (host.str ruling.approvalId)
        ruling.workUnit ruling.policy world = (.error error, later) ∧
      error.hasCode "policy_denied" ∧ later.records = world.records := by
  obtain ⟨error, approvals, failed, failure⟩ := unapproved.2 named
  have refused : ∃ denial later, verifyApproval host
      (host.str ruling.approvalId) ruling.workUnit ruling.policy world =
        (.error denial, later) ∧ denial.hasCode "policy_denied" := by
    refine ⟨_, _, bind_error (rethrow_error (focus_of_run failed) _), ?_⟩
    rw [if_pos failure]
    rfl
  obtain ⟨denial, later, run, denied⟩ := refused
  exact ⟨denial, later, run, denied, (records_verifyApproval _ _ _).of_run run⟩

/-- The gate of the AI requests refuses and records nothing. -/
theorem requireAiApproval_denied {admission : Admission} {world : World}
    (unapproved :
      (⟨admission.workUnit, admission.policy⟩ : Ruling).Unapproved host world) :
    ∃ error later, requireAiApproval host admission world =
        (.error error, later) ∧ later.records = world.records := by
  obtain ⟨ruling, eq⟩ : ∃ ruling : Ruling,
    ruling = ⟨admission.workUnit, admission.policy⟩ := ⟨_, rfl⟩
  rw [← eq] at unapproved
  have gate : requireAiApproval host admission =
      if ruling.approvalId.isTruthy then
        verifyApproval host (host.str ruling.approvalId) ruling.workUnit
          ruling.policy
      else raise (policyDenied "policy requires an approved approval_id"
        (some ruling.workUnit.id) (some ruling.policy.policyBundleId)) := by
    have required : admission.policy.requireApproval = true := by
      rw [eq] at unapproved
      exact unapproved.1
    rw [eq]
    simp only [requireAiApproval, required, Bool.not_true, Bool.false_eq_true,
      if_false]
    rfl
  rw [gate]
  split
  · rename_i named
    obtain ⟨error, later, refused, -, same⟩ :=
      verifyApproval_denied unapproved named
    exact ⟨error, later, refused, same⟩
  · exact ⟨_, world, rfl, rfl⟩

/-- Nothing is recorded before the decision. -/
theorem records_decideAi (request : AiRequest) :
    Frames World.records (decideAi host request) := by
  refine frames_bind (frames_focus fun _ _ => rfl) fun workUnit => ?_
  refine frames_bind (frames_focus fun _ _ => rfl) fun bundle => ?_
  refine frames_bind (frames_lift _) fun policy => ?_
  exact frames_bind (frames_lift _) fun plan => frames_ret _

/-- An AI request that its gate refuses ends there. -/
theorem intake_denied {request : AiRequest} {admission : Admission}
    {world decided : World}
    (decides : decideAi host request world = (.ok admission, decided))
    (unapproved :
      (⟨admission.workUnit, admission.policy⟩ : Ruling).Unapproved host
        decided) :
    ∃ error later, intake host request world = (.error error, later) ∧
      later.records = world.records := by
  obtain ⟨error, later, refused, same⟩ := requireAiApproval_denied unapproved
  refine ⟨error, later, ?_, same.trans
    ((records_decideAi request).of_run decides)⟩
  unfold intake
  rw [bind_ok decides]
  exact bind_error (bind_error refused)

/-- The gate of the executions refuses.  It records a denial exactly if no
approval is named, unless the ledger raises an error of its own. -/
theorem requirePolicyApproval_denied {execution : Execution}
    {prepared : Prepared} {ruling : Ruling} {world : World}
    (ruled : ruling = ⟨execution.workUnit, prepared.policy⟩)
    (unapproved : ruling.Unapproved host world) :
    ∃ error later, requirePolicyApproval host execution prepared world =
        (.error error, later) ∧
      ((ruling.approvalId.isTruthy = true ∧ later.records = world.records) ∨
        (ruling.approvalId.isTruthy = false ∧
          (error.hasCode "policy_denied" →
            Audited ruling.workUnit.id world later))) := by
  obtain ⟨event, eventEq⟩ : ∃ event : LedgerEvent, event =
    { executionEvent execution prepared "policy.denied" with
      decision := some "approval_required" } := ⟨_, rfl⟩
  have gate : requirePolicyApproval host execution prepared =
      if ruling.approvalId.isTruthy then
        verifyApproval host (host.str ruling.approvalId) ruling.workUnit
          ruling.policy
      else record host execution.session event >>= fun _ =>
        raise (policyDenied "policy requires an approved approval_id"
          (some ruling.workUnit.id) (some ruling.policy.policyBundleId)) := by
    have required : prepared.policy.requireApproval = true := by
      rw [ruled] at unapproved
      exact unapproved.1
    rw [ruled, eventEq]
    simp only [requirePolicyApproval, required, Bool.not_true,
      Bool.false_eq_true, if_false]
    rfl
  rw [gate]
  split
  · rename_i named
    obtain ⟨error, later, refused, -, same⟩ :=
      verifyApproval_denied unapproved named
    exact ⟨error, later, refused, .inl ⟨named, same⟩⟩
  · rename_i unnamed
    rw [Bool.not_eq_true] at unnamed
    have journal := ensures_journal host execution.session event world.ledger
    rcases run : JSONLLedger.record host execution.session event
      world.ledger with ⟨error | recorded, ledger⟩
    · have failed := journal.of_error run
      refine ⟨error, World.ledgerLens.set world ledger,
        bind_error (bind_error (focus_of_run run)), .inr ⟨unnamed, ?_⟩⟩
      intro denied
      exact absurd denied (failed.2.not_hasCode (by decide))
    · obtain ⟨⟨eventId, createdAt, previous, same⟩, file⟩ :=
        journal.of_ok run
      refine ⟨_, World.ledgerLens.set world ledger,
        bind_ok (bind_ok (focus_of_run run)), .inr ⟨unnamed, fun _ => ?_⟩⟩
      refine ⟨⟨[recorded], file, ?_, ?_⟩, rfl, rfl⟩
      · rw [same, ruled, eventEq]
        simp [executionEvent, LedgerEvent.withChainHash]
      · have denial : event.eventType = "policy.denied" := by
          rw [eventEq]
          rfl
        intro other member received
        rw [List.mem_singleton.mp member, same] at received
        exact absurd (denial.symm.trans received.1) (by decide)

end Gates

/-! ## Refused calls -/

section Refusals

variable {host : Host} {gateway : Gateway} {ruling : Ruling}

/-- An execution ends where its gate refuses. -/
theorem executeExactObject_refused {execution : Execution} {prepared : Prepared}
    (ready : execution.prepare host = .ok prepared) {world later : World}
    {error : PyException}
    (gate : requirePolicyApproval host execution prepared world =
      (.error error, later)) :
    executeExactObject host execution world = (.error error, later) := by
  unfold executeExactObject
  rw [ready, lift_ok_bind]
  exact bind_error (bind_error gate)

/-- A refused execution is audited exactly if it names no approval. -/
theorem execution_audited_iff {execution : Execution} {prepared : Prepared}
    (ready : execution.prepare host = .ok prepared)
    (ruled : ruling = ⟨execution.workUnit, prepared.policy⟩)
    {world : World} (unapproved : ruling.Unapproved host world)
    {error : PyException} {final : World}
    (refused : executeExactObject host execution world = (.error error, final))
    (denied : error.hasCode "policy_denied") :
    Audited ruling.workUnit.id world final ↔
      ruling.approvalId.isTruthy = false := by
  obtain ⟨own, later, gate, outcome⟩ :=
    requirePolicyApproval_denied ruled unapproved
  rw [executeExactObject_refused ready gate] at refused
  cases refused
  rcases outcome with ⟨named, same⟩ | ⟨unnamed, audited⟩
  · apply iff_of_false (not_audited same)
    rw [named]
    decide
  · exact iff_of_true (audited denied) unnamed

/-- The failure of an execution is that of the call. -/
theorem world_of_run {α : Type} {body : Program World PyException α}
    {error : PyException} {final : Gateway}
    (run : (focus Gateway.worldLens body >>= fun _ => ret ()) gateway =
      (.error error, final)) :
    body gateway.world = (.error error, final.world) := by
  rcases inner : body gateway.world with ⟨own | value, world⟩
  · rw [bind_error (focus_of_run inner)] at run
    cases run
    rfl
  · rw [bind_ok (focus_of_run inner)] at run
    cases run

/-- The decision of an AI request is the admission's. -/
theorem ruling_of_decideAi {request : AiRequest} {ruled : Gateway}
    (rules : (focus Gateway.worldLens (decideAi host request) >>=
      fun admission => ret (⟨admission.workUnit, admission.policy⟩ : Ruling))
        gateway = (.ok ruling, ruled)) :
    ∃ admission, decideAi host request gateway.world =
        (.ok admission, ruled.world) ∧
      ruling = ⟨admission.workUnit, admission.policy⟩ := by
  obtain ⟨admission, decided, focused, made⟩ := bind_eq_ok_iff.mp rules
  have decides := run_of_focus focused
  cases made
  exact ⟨admission, decides, rfl⟩

/-- A call that is refused for want of an approval is audited exactly if it is
an execution that names none. -/
theorem refusal_audited_iff {call : GovernedCall}
    (refused : call.Refused host gateway ruling) :
    Audited ruling.workUnit.id gateway.world (call.run host gateway).2.world ↔
      call.isExecution = true ∧ ruling.approvalId.isTruthy = false := by
  obtain ⟨⟨ruled, rules, unapproved⟩, error, final, run, denied⟩ := refused
  cases call with
  | object execution =>
      obtain ⟨prepared, started, lifted, made⟩ := bind_eq_ok_iff.mp rules
      have ready : execution.prepare host = .ok prepared :=
        congrArg Prod.fst lifted
      obtain rfl : gateway = started := congrArg Prod.snd lifted
      cases made
      have failed := world_of_run run
      rw [run]
      simpa [GovernedCall.isExecution] using
        execution_audited_iff ready rfl unapproved failed denied
  | mock execution =>
      obtain ⟨prepared, started, lifted, made⟩ := bind_eq_ok_iff.mp rules
      have ready : execution.prepare host = .ok prepared :=
        congrArg Prod.fst lifted
      obtain rfl : gateway = started := congrArg Prod.snd lifted
      cases made
      have failed := world_of_run run
      rw [run]
      have exact := fun adapterName => @execution_audited_iff host
        ⟨execution.workUnit, prepared.policy⟩ { execution with adapterName }
        prepared ready rfl _ unapproved
      simpa [GovernedCall.isExecution] using exact _ failed denied
  | chat provider call =>
      obtain ⟨setup, started, lifted, rules⟩ := bind_eq_ok_iff.mp rules
      have ready : call.setup host = .ok setup := congrArg Prod.fst lifted
      obtain rfl : gateway = started := congrArg Prod.snd lifted
      obtain ⟨admission, decides, rfl⟩ := ruling_of_decideAi rules
      obtain ⟨own, later, stops, same⟩ := intake_denied decides unapproved
      have whole : GovernedCall.run host (.chat provider call) gateway =
          (.error own, Gateway.worldLens.set gateway later) := by
        apply bind_error
        apply bind_error
        unfold prepareChat
        rw [ready, lift_ok_bind]
        exact bind_error (focus_of_run stops)
      rw [whole]
      exact iff_of_false (not_audited same) fun both => nomatch both.1
  | embedding call =>
      obtain ⟨setup, started, lifted, rules⟩ := bind_eq_ok_iff.mp rules
      have ready : call.setup host = .ok setup := congrArg Prod.fst lifted
      obtain rfl : gateway = started := congrArg Prod.snd lifted
      obtain ⟨admission, decides, rfl⟩ := ruling_of_decideAi rules
      obtain ⟨own, later, stops, same⟩ := intake_denied decides unapproved
      have whole : GovernedCall.run host (.embedding call) gateway =
          (.error own, Gateway.worldLens.set gateway later) := by
        apply bind_error
        apply bind_error
        unfold prepareEmbedding
        rw [ready, lift_ok_bind]
        exact bind_error (focus_of_run stops)
      rw [whole]
      exact iff_of_false (not_audited same) fun both => nomatch both.1

end Refusals

/-! ## Two executions that need an approval -/

/-- A file that `approvalBundle` governs, with this policy context. -/
def heldExecution (policyContext : Object) : Execution where
  session := {}
  workUnit := { sampleFile with policyContext }
  bundle := some approvalBundle

theorem heldExecution_ruled {policyContext : Object}
    (computed : Passes (fun prepared : Prepared =>
      prepared.policy.requireApproval)
      ((heldExecution policyContext).prepare Host.counting) = true)
    (gateway : Gateway) :
    ∃ prepared, (heldExecution policyContext).prepare Host.counting =
        .ok prepared ∧ prepared.policy.requireApproval = true ∧
      GovernedCall.rule Host.counting (.object (heldExecution policyContext))
        gateway = (.ok ⟨(heldExecution policyContext).workUnit,
          prepared.policy⟩, gateway) := by
  obtain ⟨prepared, ready, required⟩ := exists_of_passes computed
  refine ⟨prepared, ready, required, ?_⟩
  simp only [GovernedCall.rule, ready, lift_ok_bind]
  rfl

/-- Refused without an approval, the file's execution is audited. -/
theorem unnamedApproval_audited :
    ∃ ruling, GovernedCall.Refused Host.counting (.object (heldExecution ∅)) {}
        ruling ∧
      Audited ruling.workUnit.id {} (GovernedCall.run Host.counting
        (.object (heldExecution ∅)) {}).2.world := by
  obtain ⟨prepared, ready, required, rules⟩ :=
    @heldExecution_ruled ∅ (by decide +kernel) {}
  let ruling : Ruling := ⟨(heldExecution ∅).workUnit, prepared.policy⟩
  have unapproved : ruling.Unapproved Host.counting {} :=
    ⟨required, fun named => nomatch named⟩
  have recordable : LedgerEvent.Recordable {}
      { executionEvent (heldExecution ∅) prepared "policy.denied" with
        decision := some "approval_required" } := by
    have tenant : "acme" ≠ "" := by decide
    exact ⟨rfl, tenant, ⟨rfl, rfl⟩⟩
  obtain ⟨recorded, ledger, run, -⟩ := record_readable Host.counting_reliable
    recordable (⟨[], by simp, rfl⟩ : LedgerState.Healthy {})
  have gate : ∃ error later, requirePolicyApproval Host.counting
      (heldExecution ∅) prepared {} = (.error error, later) ∧
        error.hasCode "policy_denied" := by
    simp only [requirePolicyApproval, required, Bool.not_true,
      Bool.false_eq_true, if_false]
    exact ⟨_, _, bind_ok (bind_ok (focus_of_run run)), rfl⟩
  obtain ⟨error, later, gate, denied⟩ := gate
  have stops := executeExactObject_refused ready gate
  have refused : GovernedCall.Refused Host.counting
      (.object (heldExecution ∅)) {} ruling :=
    ⟨⟨{}, rules, unapproved⟩, error, _,
      bind_error (focus_of_run stops), denied⟩
  exact ⟨ruling, refused, (refusal_audited_iff refused).mpr ⟨rfl, rfl⟩⟩

def unknownApproval : Object :=
  .ofList [("approval_id", .str "appr_unknown")]

/-- Refused with an approval that does not exist, it leaves no trace. -/
theorem unknownApproval_unaudited :
    ∃ ruling, GovernedCall.Refused Host.counting
        (.object (heldExecution unknownApproval)) {} ruling ∧
      ¬ Audited ruling.workUnit.id {} (GovernedCall.run Host.counting
        (.object (heldExecution unknownApproval)) {}).2.world := by
  obtain ⟨prepared, ready, required, rules⟩ :=
    @heldExecution_ruled unknownApproval (by decide +kernel) {}
  let ruling : Ruling :=
    ⟨(heldExecution unknownApproval).workUnit, prepared.policy⟩
  have named : ruling.approvalId = .str "appr_unknown" := rfl
  have unapproved : ruling.Unapproved Host.counting {} := by
    refine ⟨required, fun _ => ?_⟩
    rw [named]
    exact ⟨_, _, rfl, rfl⟩
  have truthy : ruling.approvalId.isTruthy = true := rfl
  obtain ⟨error, later, verified, denied, same⟩ :=
    verifyApproval_denied unapproved truthy
  have gate : requirePolicyApproval Host.counting
      (heldExecution unknownApproval) prepared {} = (.error error, later) := by
    simp only [requirePolicyApproval, required, Bool.not_true,
      Bool.false_eq_true, if_false]
    exact (congrFun (if_pos truthy) _).trans verified
  have stops := executeExactObject_refused ready gate
  have whole : GovernedCall.run Host.counting
      (.object (heldExecution unknownApproval)) {} =
        (.error error, Gateway.worldLens.set {} later) :=
    bind_error (focus_of_run stops)
  refine ⟨ruling, ⟨⟨{}, rules, unapproved⟩, error, _, whole, denied⟩, ?_⟩
  rw [whole]
  exact not_audited same

end Urp
