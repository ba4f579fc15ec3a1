import Urp.ChatProgress

/-!
# Which models the provider is asked for

A route and a fallback come from the decision's allowlist.  Without routing,
the first call goes to the model that the client names.
-/

namespace Urp

open Python Program

section Calls

variable (host : Host) (provider : ChatProvider) (chat : Chat)

/-- Neither cache answers. -/
def ReachesProvider (gateway : Gateway) : Prop :=
  ∃ missed later, exactLookup host chat gateway = (.ok none, missed) ∧
    semanticLookup host chat missed = (.ok none, later)

theorem answer_calls (route : ModelRoute) (gateway : Gateway) :
    ∃ asked, Asked host provider chat route gateway.calls asked ∧
      (answer host provider chat route gateway).2.calls =
        gateway.calls ++ asked := by
  let asks := fun later : Gateway => ∃ asked,
    Asked host provider chat route gateway.calls asked ∧
      later.calls = gateway.calls ++ asked
  apply (@ensures_state_iff _ _ _ gateway
    (answer host provider chat route) asks).mp
  unfold answer
  rw [ensures_bind]
  apply (ensures_askWithFallback host provider chat route gateway).mono
  · rintro ⟨response, fallback⟩ answered ⟨early, last, asked, -, calls⟩
    apply ((uncached_calls.unlogged.settle host chat route response fallback).ensures
      answered).mono
    · exact fun _ settled same => ⟨_, asked, same.trans calls⟩
    · exact fun _ settled same => ⟨_, asked, same.trans calls⟩
  · rintro _ failed ⟨asked, made, calls⟩
    exact ⟨asked, made, calls⟩

/-- The calls of a request whose lookups end this way. -/
def ServedCalls (gateway later : Gateway) : Prop :=
  ∃ asked, later.calls = gateway.calls ++ asked ∧
    (¬ ReachesProvider host chat gateway ∧ asked = [] ∨
      ReachesProvider host chat gateway ∧ ∃ route,
        routeModel host chat.policy.modelAllowlist (chat.routingText host) =
            .ok route ∧
          Asked host provider chat route gateway.calls asked)

/-- The provider is asked when neither cache answers, and only then. -/
theorem serve_calls (gateway : Gateway) :
    ServedCalls host provider chat gateway
      (serve host provider chat gateway).2 := by
  have exactCalls := uncached_calls.unlogged.exactLookup host chat
  have semanticCalls := uncached_calls.unlogged.semanticLookup host chat
  have answered : ∀ {later : Gateway}, later.calls = gateway.calls →
      ¬ ReachesProvider host chat gateway →
        ServedCalls host provider chat gateway later := by
    intro later same unreached
    exact ⟨[], by rw [same, List.append_nil], .inl ⟨unreached, rfl⟩⟩
  have ended := serving host provider chat gateway
  generalize serve host provider chat gateway = run at ended
  cases ended with
  | exactFailed first =>
      apply answered (exactCalls.of_run first)
      rintro ⟨_, _, other, -⟩
      rw [first] at other
      cases other
  | exactHit first =>
      apply answered
      · exact (uncached_calls.unlogged.exactAnswer host chat _ _).trans
          (exactCalls.of_run first)
      · rintro ⟨_, _, other, -⟩
        rw [first] at other
        cases other
  | semanticFailed first second =>
      apply answered
      · exact (semanticCalls.of_run second).trans (exactCalls.of_run first)
      · rintro ⟨_, _, firstRun, secondRun⟩
        rw [first] at firstRun
        cases firstRun
        rw [second] at secondRun
        cases secondRun
  | semanticHit first second =>
      apply answered
      · exact (uncached_calls.unlogged.semanticAnswer host chat _ _).trans
          ((semanticCalls.of_run second).trans (exactCalls.of_run first))
      · rintro ⟨_, _, firstRun, secondRun⟩
        rw [first] at firstRun
        cases firstRun
        rw [second] at secondRun
        cases secondRun
  | @missed missed later route first second routed =>
      have same : later.calls = gateway.calls :=
        (semanticCalls.of_run second).trans (exactCalls.of_run first)
      obtain ⟨asked, made, calls⟩ := answer_calls host provider chat route later
      rw [same] at made calls
      exact ⟨asked, calls, .inr ⟨⟨missed, later, first, second⟩, route, routed,
        made⟩⟩

/-- The calls after `before`. -/
def newCalls (before after : Gateway) : List ProviderCall :=
  after.calls.drop before.calls.length

/-- The calls of a whole request are those of its answer. -/
theorem handleChatCompletion_calls (call : ChatCall) (gateway : Gateway) :
    (∃ error refused, prepareChat host call gateway = (.error error, refused) ∧
        newCalls gateway (handleChatCompletion host provider call gateway).2 =
          []) ∨
      ∃ chat admitted, prepareChat host call gateway = (.ok chat, admitted) ∧
        admitted.calls = gateway.calls ∧
        (handleChatCompletion host provider call gateway).2.calls =
          (serve host provider chat admitted).2.calls := by
  have same := (outside_calls.prepareChat host call)
  unfold handleChatCompletion
  rcases prepared : prepareChat host call gateway with ⟨error | chat, admitted⟩
  · refine .inl ⟨error, admitted, rfl, ?_⟩
    rw [bind_error prepared, newCalls, same.of_run prepared, List.drop_length]
  · refine .inr ⟨chat, admitted, rfl, same.of_run prepared, ?_⟩
    rw [bind_ok prepared]
    rcases served : serve host provider chat admitted with ⟨error | served, later⟩
    · rw [bind_error served]
    · rw [bind_ok served]
      exact outside_calls.finish host chat _ later

end Calls

/-! ## The allowlist -/

section Allowed

variable (host : Host) (provider : ChatProvider) (call : ChatCall)

/-- Every model that the request hands to the provider is in the allowlist of
its decision. -/
def AsksAllowed (gateway : Gateway) : Prop :=
  ∀ asked ∈ newCalls gateway (handleChatCompletion host provider call gateway).2,
    ∃ chat admitted, prepareChat host call gateway = (.ok chat, admitted) ∧
      asked.model ∈ chat.policy.modelAllowlist

/-- The request is routed, or names no model outside the allowlist. -/
def Chat.ModelGoverned (chat : Chat) : Prop :=
  chat.performs "model_route" = true ∨
    requestedModel host chat.setup.normalized.data ∈
      "" :: "auto" :: chat.policy.modelAllowlist

variable {host provider}

/-- A governed first call and every fallback stay in the allowlist. -/
theorem Asked.models_mem {chat : Chat} {route : ModelRoute}
    {history asked : List ProviderCall}
    (nonempty : chat.policy.modelAllowlist ≠ [])
    (routed : routeModel host chat.policy.modelAllowlist
      (chat.routingText host) = .ok route)
    (made : Asked host provider chat route history asked)
    (governed : chat.ModelGoverned host) :
    ∀ made ∈ asked, made.model ∈ chat.policy.modelAllowlist := by
  have first : ∀ {model}, chat.firstModel host route = .ok model →
      model ∈ chat.policy.modelAllowlist := by
    intro model chosen
    unfold Chat.firstModel at chosen
    split at chosen
    · cases chosen
      exact routeModel_mem routed nonempty
    · rename_i unrouted
      have named := governed.resolve_left unrouted
      simp only [baselineModel] at chosen
      split at chosen
      · rename_i proper
        cases chosen
        have kept : requestedModel host chat.setup.normalized.data ∉
            ["", "auto"] := proper
        exact (List.mem_append.mp
          (show _ ∈ ["", "auto"] ++ chat.policy.modelAllowlist from
            named)).resolve_left kept
      · exact strongestModel_mem chosen
  have fallback : ∀ {model}, fallbackModel route.fallbackModel
        chat.policy.modelAllowlist = .ok model →
      model ∈ chat.policy.modelAllowlist := by
    intro model chosen
    unfold fallbackModel at chosen
    split at chosen
    · rename_i member
      cases chosen
      exact member
    · exact strongestModel_mem chosen
  cases made with
  | unnamed failed => exact fun _ impossible => absurd impossible List.not_mem_nil
  | once chosen =>
      intro made member
      rw [List.mem_singleton.mp member]
      exact first chosen
  | twice chosen second =>
      intro made member
      rcases List.mem_pair.mp member with rfl | rfl
      · exact first chosen
      · exact fallback second

/-- The first call of an ungoverned request leaves the allowlist. -/
theorem Asked.exists_not_mem {chat : Chat} {route : ModelRoute}
    {history asked : List ProviderCall}
    (made : Asked host provider chat route history asked)
    (ungoverned : ¬ chat.ModelGoverned host) :
    ∃ made ∈ asked, made.model ∉ chat.policy.modelAllowlist := by
  obtain ⟨unrouted, unnamed⟩ := not_or.mp ungoverned
  have chosen : chat.firstModel host route =
      .ok (requestedModel host chat.setup.normalized.data) := by
    unfold Chat.firstModel baselineModel
    rw [if_neg unrouted, if_pos]
    intro member
    apply unnamed
    simp only [List.mem_cons, List.not_mem_nil, or_false] at member ⊢
    rcases member with same | same
    · exact .inl same
    · exact .inr (.inl same)
  have outside : requestedModel host chat.setup.normalized.data ∉
      chat.policy.modelAllowlist := fun member =>
    unnamed (List.mem_cons_of_mem _ (List.mem_cons_of_mem _ member))
  cases made with
  | unnamed failed =>
      rw [chosen] at failed
      cases failed
  | once first =>
      rw [chosen] at first
      cases first
      exact ⟨_, List.mem_cons_self, outside⟩
  | twice first fallback =>
      rw [chosen] at first
      cases first
      exact ⟨_, List.mem_cons_self, outside⟩

variable (host provider)

/-- The new calls of a prepared request are those of its answer. -/
theorem newCalls_prepared {gateway admitted : Gateway} {chat : Chat}
    (prepared : prepareChat host call gateway = (.ok chat, admitted)) :
    ∃ asked, newCalls gateway
        (handleChatCompletion host provider call gateway).2 = asked ∧
      (¬ ReachesProvider host chat admitted ∧ asked = [] ∨
        ReachesProvider host chat admitted ∧ ∃ route,
          routeModel host chat.policy.modelAllowlist (chat.routingText host) =
              .ok route ∧
            Asked host provider chat route admitted.calls asked) := by
  obtain ⟨_, _, refused, -⟩ | ⟨_, _, again, before, after⟩ :=
    handleChatCompletion_calls host provider call gateway
  · rw [prepared] at refused
    cases refused
  · rw [prepared] at again
    cases again
    obtain ⟨asked, calls, made⟩ := serve_calls host provider chat admitted
    refine ⟨asked, ?_, made⟩
    rw [newCalls, after, calls, before, List.drop_left]

/-- A new call was made for a prepared request that reached the provider. -/
theorem asked_of_mem_newCalls {gateway : Gateway} {made : ProviderCall}
    (member : made ∈ newCalls gateway
      (handleChatCompletion host provider call gateway).2) :
    ∃ chat admitted route asked,
      prepareChat host call gateway = (.ok chat, admitted) ∧
        ReachesProvider host chat admitted ∧
        routeModel host chat.policy.modelAllowlist (chat.routingText host) =
          .ok route ∧
        Asked host provider chat route admitted.calls asked ∧ made ∈ asked := by
  obtain ⟨_, _, -, none⟩ | ⟨chat, admitted, prepared, -, -⟩ :=
    handleChatCompletion_calls host provider call gateway
  · rw [none] at member
    cases member
  · obtain ⟨asked, new, ⟨-, rfl⟩ | ⟨reaches, route, routed, calls⟩⟩ :=
      newCalls_prepared host provider call prepared
    · rw [new] at member
      cases member
    · rw [new] at member
      exact ⟨chat, admitted, route, asked, prepared, reaches, routed, calls,
        member⟩

theorem not_asksAllowed {gateway admitted : Gateway} {chat : Chat}
    (prepared : prepareChat host call gateway = (.ok chat, admitted))
    (reaches : ReachesProvider host chat admitted)
    (ungoverned : ¬ chat.ModelGoverned host) :
    ¬ AsksAllowed host provider call gateway := by
  intro allowed
  obtain ⟨asked, new, ⟨unreached, -⟩ | ⟨-, route, -, made⟩⟩ :=
    newCalls_prepared host provider call prepared
  · exact unreached reaches
  · obtain ⟨ask, member, outside⟩ := made.exists_not_mem ungoverned
    obtain ⟨_, _, same, inside⟩ := allowed ask (by rw [new]; exact member)
    rw [prepared] at same
    cases same
    exact outside inside

/-- A request asks for models of its allowlist exactly if it is governed
whenever it reaches the provider. -/
theorem asksAllowed_iff (gateway : Gateway) :
    AsksAllowed host provider call gateway ↔
      ∀ chat admitted, prepareChat host call gateway = (.ok chat, admitted) →
        ReachesProvider host chat admitted → chat.ModelGoverned host := by
  constructor
  · intro allowed chat admitted prepared reaches
    by_contra ungoverned
    exact not_asksAllowed host provider call prepared reaches ungoverned allowed
  · intro governed ask member
    obtain ⟨chat, admitted, route, asked, prepared, reaches, routed, made,
      inside⟩ := asked_of_mem_newCalls host provider call member
    have nonempty : chat.policy.modelAllowlist ≠ [] :=
      modelAllowlist_ne_nil ((ensures_prepareChat host call gateway).of_ok
        prepared).admitted.policy
    exact ⟨chat, admitted, prepared, made.models_mem nonempty routed
      (governed chat admitted prepared reaches) ask inside⟩

end Allowed

/-- A request that names a model outside the default allowlist. -/
def namedModelCall : ChatCall where
  request := .ofList [("model", .str "gpt-4o"), ("messages", .list
    [.dict [("role", .str "user"), ("content", .str "hi")]])]
  requestedMode := some "observe"

/-- Observed, the request goes to the model that it names. -/
theorem namedModelCall_asks_outside :
    ¬ AsksAllowed Host.counting (mockProvider Host.counting) namedModelCall
      {} := by
  let host := Host.counting
  have computed : Passes (fun forecast : Forecast =>
      !forecast.policy.requireApproval && forecast.setup.mode = .observe &&
        !(forecast.setup.normalized.options.get "policy_bundle_id").isTruthy &&
        requestedModel host forecast.setup.normalized.data = "gpt-4o" &&
        "gpt-4o" ∉ forecast.policy.modelAllowlist)
      (namedModelCall.forecast host none) = true := by decide +kernel
  obtain ⟨forecast, made, checked⟩ := exists_of_passes computed
  simp only [Bool.and_eq_true, Bool.not_eq_true', decide_eq_true_eq] at checked
  obtain ⟨⟨⟨⟨unapproved, observed⟩, unnamed⟩, named⟩, outside⟩ := checked
  have admissible := ChatCall.admissible_of_forecast made unapproved rfl
    (by decide)
  have healthy : ({} : Gateway).world.Healthy := ⟨[], by simp, rfl⟩
  obtain ⟨chat, admitted, prepared, -, decided⟩ :=
    admissible.prepareChat Host.counting_reliable healthy
      (governingBundle_unpublished rfl unnamed)
  have mode : chat.setup.mode ≠ .enforce := by
    rw [decided.setup_eq, observed]
    decide
  have unguided : ¬ chat.ModelGoverned host := by
    unfold Chat.ModelGoverned
    rw [decided.setup_eq, named, Chat.policy, decided.admission.policy_eq]
    simp [Chat.performs, mode, outside]
  obtain ⟨first, second⟩ := lookups_unenforced host chat mode
  have reaches : ReachesProvider host chat admitted :=
    ⟨admitted, admitted, by rw [first]; rfl, by rw [second]; rfl⟩
  exact not_asksAllowed host _ _ prepared reaches unguided

end Urp
