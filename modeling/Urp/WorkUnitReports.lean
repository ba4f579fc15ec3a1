import Urp.ChatProgress

/-!
# The manifest that an execution reports

An object execution reports a manifest of its own work unit.  A prompt request
reports the manifest of the work unit that the gateway makes of it.
-/

namespace Urp

open Python Program

/-! ## Object executions -/

section Objects

variable {host : Host} {execution : Execution}

/-- The execution's own manifest with the decision on its work unit. -/
structure OwnManifest (workUnit : WorkUnit) (bundle : Option PolicyBundle)
    (manifests : ManifestFiles) (result : ExecutionResult) : Prop where
  own : ∃ decision manifest, evaluatePolicy workUnit bundle = .ok decision ∧
    manifests.lookup result.manifestId = some manifest ∧
    manifest.workUnitId = workUnit.id ∧
    manifest.traceId = workUnit.traceId ∧
    manifest.contract = decision.contract ∧
    (decision.requireApproval = true →
      (workUnit.policyContext.get "approval_id").isTruthy = true)

/-- An execution that passes its approval check supplies what the decision
requires. -/
theorem approval_supplied {prepared : Prepared} {world admitted : World}
    (passed : requirePolicyApproval host execution prepared world =
      (.ok (), admitted)) (required : prepared.policy.requireApproval = true) :
    (execution.workUnit.policyContext.get "approval_id").isTruthy = true := by
  by_contra missing
  simp only [requirePolicyApproval, required, Bool.not_true,
    Bool.false_eq_true, if_false, if_neg missing] at passed
  obtain ⟨_, _, -, raised⟩ := bind_eq_ok_iff.mp passed
  cases raised

theorem prepare_eq_ok {prepared : Prepared}
    (ready : execution.prepare host = .ok prepared) :
    evaluatePolicy execution.workUnit execution.bundle =
      .ok prepared.policy := by
  obtain ⟨mode, -, ready⟩ := except_bind_eq_ok_iff.mp ready
  obtain ⟨payload, -, ready⟩ := except_bind_eq_ok_iff.mp ready
  obtain ⟨policy, evaluated, ready⟩ := except_bind_eq_ok_iff.mp ready
  obtain ⟨plan, -, ready⟩ := except_bind_eq_ok_iff.mp ready
  cases ready
  exact evaluated

theorem executeExactObject_own {world later : World} {result : ExecutionResult}
    (returned : executeExactObject host execution world = (.ok result, later)) :
    OwnManifest execution.workUnit execution.bundle later.manifests result := by
  have started := returned
  unfold executeExactObject at started
  obtain ⟨prepared, _, lifted, started⟩ := bind_eq_ok_iff.mp started
  have ready : execution.prepare host = .ok prepared :=
    congrArg Prod.fst lifted
  obtain ⟨_, admitted, passed, -⟩ := bind_eq_ok_iff.mp started
  obtain ⟨_, approved, passed, -⟩ := bind_eq_ok_iff.mp passed
  obtain ⟨manifest, outcome, same⟩ :=
    (ensures_executeExactObject host ready world).of_ok returned
  have written := outcome.written
  obtain ⟨_, _, _, _, _, _, made⟩ := written.made
  refine ⟨prepared.policy, manifest.reloaded, prepare_eq_ok ready, ?_, ?_, ?_,
    ?_, approval_supplied passed⟩
  · rw [same, written.manifests, Dict.lookup_insert_self]
  · rw [made]
    rfl
  · rw [made]
    rfl
  · rw [made]
    rfl

theorem executeObject_own {world later : World} {result : ExecutionResult}
    (returned : executeObject host execution world = (.ok result, later)) :
    OwnManifest execution.workUnit execution.bundle later.manifests result := by
  unfold executeObject at returned
  split at returned
  · exact executeExactObject_own returned
  · simp only [executeMockAdapter] at returned
    have own := executeExactObject_own returned
    exact own

end Objects

/-! ## Chat requests -/

section Chat

variable (host : Host) (chat : Chat) (served : Served)

/-- The manifest of the answer was put. -/
def PutsChatManifest (before after : ManifestFiles) (manifest : Manifest) :
    Prop :=
  (∃ record manifestId createdAt, manifest =
      chatManifest host chat served record manifestId createdAt) ∧
    after = before.insert manifest.manifestId manifest.reloaded

theorem ensures_putManifest (session : Session) (admission : Admission)
    (manifest : Manifest) (world : World) :
    Ensures (putManifest host session admission manifest) world
      (fun _ later => later.manifests =
        world.manifests.insert manifest.manifestId manifest.reloaded)
      (fun _ _ => True) := by
  unfold putManifest
  rw [ensures_bind, ensures_focus]
  apply (FileManifestStore.ensures_put host session manifest
    world.manifests).mono
  · rintro _ files ⟨-, rfl⟩
    apply ((quiet_record host session _).ensures _).mono
    · exact fun _ _ quiet => quiet.manifests
    · exact fun _ _ _ => trivial
  · exact fun _ _ _ => trivial

theorem ensures_writeChatManifest (world : World) :
    Ensures (writeChatManifest host chat served) world
      (fun manifest later => PutsChatManifest host chat served world.manifests
        later.manifests manifest)
      (fun _ _ => True) := by
  unfold writeChatManifest
  have draws : ∀ {α : Type} (body : Program Supply PyException α) world,
      Ensures (focus World.supplyLens body) world
        (fun _ later => later.manifests = world.manifests)
        (fun _ _ => True) := by
    intro α body world
    have framed : Frames World.manifests (focus World.supplyLens body) :=
      frames_focus fun _ _ => rfl
    exact (framed.ensures world).mono (fun _ _ same => same)
      (fun _ _ _ => trivial)
  rw [ensures_bind]
  apply (draws _ world).mono ?_ (fun _ _ _ => trivial)
  intro cacheable first same
  rw [← same, ensures_bind, ensures_lift]
  refine ⟨fun _ _ => ?_, fun _ _ => trivial⟩
  rw [ensures_bind]
  apply (draws _ first).mono ?_ (fun _ _ _ => trivial)
  intro manifestId second same
  rw [← same, ensures_bind]
  apply (draws _ second).mono ?_ (fun _ _ _ => trivial)
  intro createdAt third same
  rw [← same, ensures_bind]
  apply (ensures_putManifest host _ _ _ third).mono ?_ (fun _ _ _ => trivial)
  intro _ later put
  exact ⟨⟨_, manifestId, createdAt, rfl⟩, put⟩

end Chat

/-- A chat request that returns reports a manifest of a new work unit. -/
theorem handleChatCompletion_reports {host : Host} {provider : ChatProvider}
    {call : ChatCall} {gateway later : Gateway} {reply : Value}
    (returned : handleChatCompletion host provider call gateway =
      (.ok reply, later)) :
    ∃ manifestId manifest k, replyText reply "manifest_id" = some manifestId ∧
      later.world.manifests.lookup manifestId = some manifest ∧
      manifest.workUnitId = host.idText "wu" k ∧ gateway.supply.nextId ≤ k := by
  obtain ⟨chat, admitted, prepared, returned⟩ := bind_eq_ok_iff.mp returned
  obtain ⟨served, answered, -, returned⟩ := bind_eq_ok_iff.mp returned
  obtain ⟨_, verified, lifted, returned⟩ := bind_eq_ok_iff.mp returned
  obtain ⟨manifest, written, wrote, returned⟩ := bind_eq_ok_iff.mp returned
  cases returned
  obtain ⟨_, k, _, made, low⟩ :=
    ((ensures_prepareChat host call gateway).of_ok prepared).admitted.workUnit
  have put : PutsChatManifest host chat served verified.world.manifests
      later.world.manifests manifest := by
    have spec : Ensures (focus Gateway.worldLens
        (writeChatManifest host chat served)) verified
        (fun manifest later => PutsChatManifest host chat served
          verified.world.manifests later.world.manifests manifest)
        (fun _ _ => True) := by
      rw [ensures_focus]
      exact ensures_writeChatManifest host chat served verified.world
    exact spec.of_ok wrote
  obtain ⟨⟨_, _, _, manifestMade⟩, manifests⟩ := put
  refine ⟨manifest.manifestId, manifest.reloaded, k,
    replyText_withUrp served rfl, ?_, ?_, low⟩
  · rw [manifests, Dict.lookup_insert_self]
  · rw [manifestMade]
    change chat.admission.workUnit.id = _
    rw [made]
    rfl

/-! ## Work units -/

section WorkUnits

variable {host : Host} {call : WorkUnitCall} {gateway later : Gateway}
  {result : ExecutionResult}

/-- The reported manifest is the work unit's own, with the contract of the
decision on it, whose approval was supplied. -/
def ReportsOwn (call : WorkUnitCall) (host : Host) (gateway later : Gateway)
    (result : ExecutionResult) : Prop :=
  ∃ bundle, (resolveActivePolicyBundle call.session
      (policyName host call.workUnit) gateway.world.policies).1 = .ok bundle ∧
    OwnManifest call.workUnit bundle later.world.manifests result

/-- What an execution that returns ran after it resolved its bundle. -/
theorem executeWorkUnit_eq_ok
    (returned : executeWorkUnit host call gateway = (.ok result, later)) :
    ∃ mode bundle resolved, (resolveActivePolicyBundle call.session
        (policyName host call.workUnit) gateway.world.policies).1 =
          .ok bundle ∧
      resolved.supply = gateway.supply ∧
      (if call.workUnit.kind = .promptRequest then
        executePrompt host call mode bundle
      else focus Gateway.worldLens
        (executeObject host (call.execution mode bundle))) resolved =
          (.ok result, later) := by
  obtain ⟨mode, _, lifted, returned⟩ := bind_eq_ok_iff.mp returned
  obtain ⟨-, rfl⟩ := Prod.mk.inj lifted
  obtain ⟨bundle, resolved, found, returned⟩ := bind_eq_ok_iff.mp returned
  refine ⟨mode, bundle, resolved, congrArg Prod.fst found, ?_, returned⟩
  exact (congrArg (fun run => Gateway.supply run.2) found).symm

theorem reportsOwn_of_object (object : call.workUnit.kind ≠ .promptRequest)
    (returned : executeWorkUnit host call gateway = (.ok result, later)) :
    ReportsOwn call host gateway later result := by
  obtain ⟨mode, bundle, resolved, found, -, ran⟩ :=
    executeWorkUnit_eq_ok returned
  rw [if_neg object] at ran
  exact ⟨bundle, found, executeObject_own (run_of_focus ran)⟩

theorem not_reportsOwn_of_prompt (prompt : call.workUnit.kind = .promptRequest)
    (unborn : ∀ k, gateway.supply.nextId ≤ k →
      call.workUnit.id ≠ host.idText "wu" k)
    (returned : executeWorkUnit host call gateway = (.ok result, later)) :
    ¬ ReportsOwn call host gateway later result := by
  obtain ⟨mode, bundle, resolved, -, sameSupply, ran⟩ :=
    executeWorkUnit_eq_ok returned
  rw [if_pos prompt] at ran
  obtain ⟨reply, answered, chatted, ran⟩ := bind_eq_ok_iff.mp ran
  cases ran
  obtain ⟨manifestId, manifest, k, named, stored, unit, low⟩ :=
    handleChatCompletion_reports chatted
  rintro ⟨_, -, ⟨_, own, -, found, sameUnit, -⟩⟩
  simp only [named, Option.getD_some] at found
  rw [stored] at found
  cases found
  rw [sameSupply] at low
  exact unborn k low (sameUnit.symm.trans unit)

/-- An execution that returns reports its own manifest exactly if it is not a
prompt request. -/
theorem reportsOwn_iff
    (unborn : ∀ k, gateway.supply.nextId ≤ k →
      call.workUnit.id ≠ host.idText "wu" k)
    (returned : executeWorkUnit host call gateway = (.ok result, later)) :
    ReportsOwn call host gateway later result ↔
      call.workUnit.kind ≠ .promptRequest := by
  constructor
  · intro own prompt
    exact not_reportsOwn_of_prompt prompt unborn returned own
  · intro object
    exact reportsOwn_of_object object returned

end WorkUnits

/-! ## A prompt request -/

/-- A prompt request with an identifier of its own. -/
def ownedPrompt : WorkUnitCall where
  workUnit := {
    kind := .promptRequest
    tenant := "local"
    logicalRef := "prompt"
    payload := .str "hi"
    id := "wu_own"
    traceId := "tr_own"
    createdAt := "2024-01-01T00:00:00+00:00" }
  requestedMode := some "observe"

theorem ownedPrompt_unborn (k : Nat) :
    ownedPrompt.workUnit.id ≠ Host.counting.idText "wu" k := by
  intro same
  have letters : "own".toList = (Host.counting.uuid4 k).toList := by
    have whole := congrArg String.toList same
    simpa [ownedPrompt, Host.idText, String.toList_append] using whole
  have digit := Host.counting_digits k 'o' (by rw [← letters]; decide)
  revert digit
  decide

/-- What observing the prompt computes. -/
def ownedPromptChecks (forecast : Forecast) : Bool :=
  let host := Host.counting
  let data := forecast.setup.normalized.data
  !forecast.policy.requireApproval && forecast.setup.mode = .observe &&
    !(forecast.setup.normalized.options.get "policy_bundle_id").isTruthy &&
    forecast.policy.requiredVerifiers = ["non_empty_text"] &&
    Passes (· = "frontier")
      (baselineModel host data forecast.policy.modelAllowlist) &&
    Passes (fun response => (verifyChatResponse host response).accepted)
      (mockProvider host [] data "frontier") &&
    forecast.setup.isManifestable

theorem ownedPrompt_returns :
    Returns (executeWorkUnit Host.counting ownedPrompt) {}
      fun _ _ => True := by
  let host := Host.counting
  let call := ownedPrompt.chatCall host .observe none
  have computed : Passes ownedPromptChecks (call.forecast host none) = true := by
    decide +kernel
  have checkedMode : Passes (fun mode => mode = .observe)
      (ownedPrompt.checked host) = true := by decide +kernel
  obtain ⟨forecast, made, checked⟩ := exists_of_passes computed
  obtain ⟨mode, ready, observe⟩ := exists_of_passes checkedMode
  rw [decide_eq_true_eq] at observe
  subst observe
  simp only [ownedPromptChecks, Bool.and_eq_true, Bool.not_eq_true',
    decide_eq_true_eq] at checked
  obtain ⟨⟨⟨⟨⟨⟨unapproved, observed⟩, unnamed⟩, verifiers⟩, baseline⟩,
    verified⟩, manifestable⟩ := checked
  obtain ⟨_, chosen, frontier⟩ := exists_of_passes baseline
  rw [decide_eq_true_eq] at frontier
  subst frontier
  obtain ⟨response, replied, accepted⟩ := exists_of_passes verified
  have admissible := ChatCall.admissible_of_forecast made unapproved rfl
    (by decide)
  have healthy : ({} : Gateway).world.Healthy := ⟨[], by simp, rfl⟩
  have prepares := admissible.prepareChat Host.counting_reliable healthy
    (governingBundle_unpublished rfl unnamed)
  have chats : Returns (handleChatCompletion host (mockProvider host) call) {}
      fun _ _ => True := by
    apply prepares.bind
    intro chat admitted ⟨on, decided⟩
    have recordable := decided.recordable (by decide) rfl
    have mode : chat.setup.mode ≠ .enforce := by
      rw [decided.setup_eq, observed]
      decide
    have required : chat.verifyRequired host response = .ok () := by
      apply verifyRequired_nonEmptyText _ accepted
      rw [Chat.policy, decided.admission.policy_eq]
      exact verifiers
    obtain ⟨first, second⟩ := lookups_unenforced host chat mode
    obtain ⟨route, routed⟩ := exists_routeModel host chat.policy.modelAllowlist
      (chat.routingText host)
    have served : serve host (mockProvider host) chat admitted =
        answer host (mockProvider host) chat route admitted :=
      serve_missed host _ chat (by rw [first]; rfl) (by rw [second]; rfl) routed
    have idle : ∀ action, chat.performs action = false := by
      intro action
      simp [Chat.performs, mode]
    have unrouted : chat.firstModel host route = .ok "frontier" := by
      unfold Chat.firstModel
      rw [idle, decided.setup_eq, Chat.policy, decided.admission.policy_eq]
      exact chosen
    have asked : mockProvider host admitted.calls chat.providerRequest
        "frontier" = .ok response := by
      unfold Chat.providerRequest Chat.contextApplied
      rw [idle, decided.setup_eq]
      exact replied
    have model : ∀ default, Served.getD ⟨response, .miss, none, none⟩ "model"
        default = .str "frontier" := by
      intro default
      cases replied
      rfl
    have plain : IsPlain (Served.getD ⟨response, .miss, none, none⟩ "model"
        .none) := by
      rw [model]
      exact isPlain_str _
    have unchanged : ∀ calls, Returns (acceptAnswer host chat response)
        { admitted with calls }
        fun _ later => Gateway.GoesOn { admitted with calls } 0 {} later := by
      intro calls
      rw [acceptAnswer_unenforced mode accepted required]
      exact returns_ret ⟨⟨on.world.healthy, rfl, rfl⟩, on.caches_eq⟩
    have answers := (recordable.answer Host.counting_reliable unrouted asked
      accepted plain unchanged).of_run served
    apply answers.bind
    rintro _ answered ⟨rfl, answeredOn⟩
    have sixth : answered.supply.nextId = 7 := (on.trans answeredOn).world.nextId
    have finishes := recordable.finish Host.counting_reliable
      answeredOn.world.healthy required
      (validateComputeManifest_of_manifestable
        (by rw [decided.setup_eq]; exact manifestable) (by rw [model]; rfl))
      (by rw [sixth]; rfl)
    exact finishes.mono fun _ _ _ => trivial
  have unpublished : Returns (focus Gateway.worldLens (focus World.policiesLens
      (resolveActivePolicyBundle ownedPrompt.session
        (policyName host ownedPrompt.workUnit)))) {}
      fun bundle later => bundle = none ∧ later = {} := by
    refine ⟨none, {}, ?_, rfl, rfl⟩
    simp only [focus]
    rw [show World.policiesLens.get (Gateway.worldLens.get {}) = {} from rfl,
      resolveActivePolicyBundle_unpublished]
    rfl
  unfold executeWorkUnit
  rw [ready, lift_ok_bind]
  apply unpublished.bind
  rintro _ _ ⟨rfl, rfl⟩
  have prompt : ownedPrompt.workUnit.kind = .promptRequest := rfl
  rw [if_pos prompt]
  apply chats.bind
  intro reply later _
  exact returns_ret trivial

/-- The prompt's manifest is another work unit's. -/
theorem ownedPrompt_reports_foreign :
    ¬ ∀ result later,
      executeWorkUnit Host.counting ownedPrompt {} = (.ok result, later) →
        ReportsOwn ownedPrompt Host.counting {} later result := by
  intro reports
  obtain ⟨result, later, returned, -⟩ := ownedPrompt_returns
  exact not_reportsOwn_of_prompt rfl (fun k _ => ownedPrompt_unborn k) returned
    (reports result later returned)

/-- The equivalence at an execution that returns. -/
theorem reportsOwn_iff_ownedPrompt :
    ∃ result later,
      executeWorkUnit Host.counting ownedPrompt {} = (.ok result, later) ∧
        (ReportsOwn ownedPrompt Host.counting {} later result ↔
          ownedPrompt.workUnit.kind ≠ .promptRequest) := by
  obtain ⟨result, later, returned, -⟩ := ownedPrompt_returns
  exact ⟨result, later, returned,
    reportsOwn_iff (fun k _ => ownedPrompt_unborn k) returned⟩

end Urp
