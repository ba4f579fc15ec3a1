import Urp.GatewayRuns
import Urp.Library.Ignores
import Urp.ModelAllowlist

/-!
# Requests in observe and shadow mode

A trial request runs alike whatever the caches hold and leaves them as they
are, and its first call of the provider is the one that the client made.
-/

namespace Urp

open Python Program

/-- The same gateway with these caches. -/
def Gateway.withCaches (caches : Caches) (gateway : Gateway) : Gateway :=
  { gateway with caches }

section Handlers

variable (host : Host) (provider : ChatProvider) (caches : Caches)

theorem ignores_world {α : Type} (body : Program World PyException α) :
    Ignores (Gateway.withCaches caches) (focus Gateway.worldLens body) :=
  ignores_focus (fun _ => rfl) fun _ _ => rfl

theorem ignores_recordFeedback (workUnit : WorkUnit) (route : ModelRoute)
    (passed : Bool) :
    Ignores (Gateway.withCaches caches)
      (recordFeedback host workUnit route passed) := by
  refine ignores_bind (ignores_world caches _) fun _ _ _ _ => ?_
  exact ignores_modify fun _ => rfl

section Chat

variable {chat : Chat}

theorem ignores_askProvider (request : Object) (model : String) :
    Ignores (Gateway.withCaches caches)
      (askProvider provider request model) := fun _ => rfl

theorem ignores_askWithFallback (route : ModelRoute) :
    Ignores (Gateway.withCaches caches)
      (askWithFallback host provider chat route) := by
  refine ignores_bind (ignores_lift _) fun _ model _ _ => ?_
  refine ignores_bind (ignores_askProvider provider caches _ _)
    fun _ response _ _ => ?_
  apply ignores_ite
  · exact ignores_ret _
  · refine ignores_bind (ignores_world caches _) fun _ _ _ _ => ?_
    refine ignores_bind (ignores_lift _) fun _ model _ _ => ?_
    exact ignores_bind (ignores_askProvider provider caches _ _)
      fun _ _ _ _ => ignores_ret _

/-- Off the enforce mode nothing is stored. -/
theorem stores_unenforced (mode : chat.setup.mode ≠ .enforce)
    (response : Value) :
    storeExact host chat response = ret () ∧
      storeSemantic host chat response = ret () := by
  have idle : ∀ action, chat.performs action = false := by
    intro action
    simp [Chat.performs, mode]
  constructor
  · unfold storeExact
    cases chat.positiveTtl <;> simp [idle]
  · unfold storeSemantic
    cases chat.positiveTtl <;> simp [Chat.semanticCacheEnabled, idle]

variable (mode : chat.setup.mode ≠ .enforce)

include mode

theorem ignores_acceptAnswer (response : Value) :
    Ignores (Gateway.withCaches caches) (acceptAnswer host chat response) := by
  obtain ⟨exact, semantic⟩ := stores_unenforced host mode response
  unfold acceptAnswer
  rw [exact, semantic]
  apply ignores_ite
  · refine ignores_bind (ignores_lift _) fun _ _ _ _ => ?_
    exact ignores_bind (ignores_ret _) fun _ _ _ _ => ignores_ret _
  · refine ignores_bind (ignores_world caches _) fun _ _ _ _ => ?_
    exact ignores_raise _

theorem ignores_settle (route : ModelRoute) (response : Value)
    (fallback : Option String) :
    Ignores (Gateway.withCaches caches)
      (settle host chat route response fallback) := by
  refine ignores_bind (ignores_acceptAnswer host caches mode response)
    fun _ _ _ _ => ?_
  refine ignores_bind (ignores_world caches _) fun _ _ _ _ => ?_
  refine ignores_bind (ignores_world caches _) fun _ _ _ _ => ?_
  refine ignores_bind (ignores_recordFeedback host caches _ _ _)
    fun _ _ _ _ => ?_
  exact ignores_ret _

theorem ignores_serve :
    Ignores (Gateway.withCaches caches) (serve host provider chat) := by
  obtain ⟨exact, semantic⟩ := lookups_unenforced host chat mode
  unfold serve
  rw [exact, semantic]
  refine ignores_bind (ignores_ret _) fun _ cached _ found => ?_
  cases found
  refine ignores_bind (ignores_lift _) fun _ route _ _ => ?_
  refine ignores_bind (ignores_ret _) fun _ hit _ found => ?_
  cases found
  refine ignores_bind (ignores_askWithFallback host provider caches route)
    fun _ answered _ _ => ?_
  exact ignores_settle host caches mode route _ _

end Chat

theorem ChatCall.mode_of_setup {call : ChatCall} {setup : ChatSetup}
    (ready : call.setup host = .ok setup) :
    executionMode call.session call.requestedMode = .ok setup.mode := by
  obtain ⟨mode, read, ready⟩ := except_bind_eq_ok_iff.mp ready
  obtain ⟨_, -, ready⟩ := except_bind_eq_ok_iff.mp ready
  obtain ⟨_, -, ready⟩ := except_bind_eq_ok_iff.mp ready
  obtain ⟨_, -, ready⟩ := except_bind_eq_ok_iff.mp ready
  obtain ⟨_, -, ready⟩ := except_bind_eq_ok_iff.mp ready
  cases ready
  exact read

/-- A trial chat request ignores the caches. -/
theorem ignores_handleChatCompletion {call : ChatCall}
    (trial : executionMode call.session call.requestedMode ≠ .ok .enforce) :
    Ignores (Gateway.withCaches caches)
      (handleChatCompletion host provider call) := by
  refine ignores_bind ?_ fun gateway chat admitted prepared => ?_
  · refine ignores_bind (ignores_lift _) fun _ setup _ _ => ?_
    exact ignores_bind (ignores_world caches _) fun _ _ _ _ => ignores_lift _
  · have setup := ((ensures_prepareChat host call gateway).of_ok prepared).setup
    have mode : chat.setup.mode ≠ .enforce := by
      intro enforced
      apply trial
      rw [ChatCall.mode_of_setup host setup, enforced]
    refine ignores_bind (ignores_serve host provider caches mode)
      fun _ served _ _ => ?_
    refine ignores_bind (ignores_lift _) fun _ _ _ _ => ?_
    exact ignores_bind (ignores_world caches _) fun _ _ _ _ => ignores_ret _

/-! ## Embeddings -/

theorem EmbeddingCall.mode_of_setup {call : EmbeddingCall}
    {setup : EmbeddingSetup} (ready : call.setup host = .ok setup) :
    executionMode call.session call.requestedMode = .ok setup.mode := by
  obtain ⟨mode, read, ready⟩ := except_bind_eq_ok_iff.mp ready
  obtain ⟨_, -, ready⟩ := except_bind_eq_ok_iff.mp ready
  obtain ⟨_, -, ready⟩ := except_bind_eq_ok_iff.mp ready
  obtain ⟨_, -, ready⟩ := except_bind_eq_ok_iff.mp ready
  obtain ⟨_, -, ready⟩ := except_bind_eq_ok_iff.mp ready
  cases ready
  exact read

section Embedding

variable {embedding : Embedding} (mode : embedding.setup.mode ≠ .enforce)

include mode

theorem embedding_unenforced (response : Value) :
    embeddingLookup host embedding = ret none ∧
      storeEmbedding host embedding response = ret () := by
  have idle : ∀ action, embedding.performs action = false := by
    intro action
    simp [Embedding.performs, mode]
  constructor
  · simp [embeddingLookup, idle]
  · unfold storeEmbedding
    cases embedding.positiveTtl <;> simp [idle]

theorem ignores_serveEmbedding :
    Ignores (Gateway.withCaches caches) (serveEmbedding host embedding) := by
  unfold serveEmbedding
  rw [(embedding_unenforced host mode .none).1]
  refine ignores_bind (ignores_ret _) fun _ cached _ found => ?_
  cases found
  unfold answerEmbedding
  refine ignores_bind (ignores_lift _) fun _ route _ _ => ?_
  refine ignores_bind ?_ fun _ computed _ _ => ?_
  · unfold computeVectors
    apply ignores_ite
    · exact ignores_ret _
    · exact ignores_bind (ignores_world caches _) fun _ _ _ _ => ignores_ret _
  · obtain ⟨response, vectors, fallback⟩ := computed
    have stored := (embedding_unenforced host mode response).2
    simp only [stored]
    apply ignores_ite
    · refine ignores_bind (ignores_lift _) fun _ _ _ _ => ?_
      refine ignores_bind (ignores_ret _) fun _ _ _ _ => ?_
      refine ignores_bind (ignores_world caches _) fun _ _ _ _ => ?_
      refine ignores_bind (ignores_world caches _) fun _ _ _ _ => ?_
      exact ignores_bind (ignores_recordFeedback host caches _ _ _)
        fun _ _ _ _ => ignores_ret _
    · refine ignores_bind (ignores_world caches _) fun _ _ _ _ => ?_
      exact ignores_raise _

end Embedding

/-- A trial embedding request ignores the caches. -/
theorem ignores_handleEmbeddings {call : EmbeddingCall}
    (trial : executionMode call.session call.requestedMode ≠ .ok .enforce) :
    Ignores (Gateway.withCaches caches) (handleEmbeddings host call) := by
  refine ignores_bind ?_ fun gateway embedding admitted prepared => ?_
  · refine ignores_bind (ignores_lift _) fun _ setup _ _ => ?_
    refine ignores_bind (ignores_world caches _) fun _ _ _ _ => ?_
    exact ignores_bind (ignores_lift _) fun _ _ _ _ => ignores_ret _
  · have setup := ((ensures_prepareEmbedding host call gateway).of_ok prepared).2.2
    have mode : embedding.setup.mode ≠ .enforce := by
      intro enforced
      apply trial
      rw [EmbeddingCall.mode_of_setup host setup, enforced]
    refine ignores_bind (ignores_serveEmbedding host caches mode)
      fun _ served _ _ => ?_
    refine ignores_bind (ignores_lift _) fun _ _ _ _ => ?_
    refine ignores_bind (ignores_lift _) fun _ _ _ _ => ?_
    exact ignores_bind (ignores_world caches _) fun _ _ _ _ => ignores_ret _

end Handlers

/-! ## Trial requests of a run -/

/-- The request is in observe or in shadow mode. -/
def GatewayCall.IsTrial : GatewayCall → Prop
  | .chat call =>
      executionMode call.session call.requestedMode ∈
        [.ok .observe, .ok .shadow]
  | .embedding call =>
      executionMode call.session call.requestedMode ∈
        [.ok .observe, .ok .shadow]
  | .policy .. => False

section Visits

variable (host : Host) (provider : ChatProvider)

/-- The caches are as before, and every other content of theirs gives the same
answer. -/
structure GatewayVisit.IgnoresCaches (visit : GatewayVisit) : Prop where
  kept : visit.after.caches = visit.before.caches
  independent : ∀ caches,
    gatewayStep host provider (visit.before.withCaches caches) visit.input =
      (visit.output, visit.after.withCaches caches)

/-- A first call of the provider is the normalized request, for the baseline
model. -/
def GatewayVisit.AsksPlainly (visit : GatewayVisit) : Prop :=
  ∀ call, visit.input = .chat call →
    ∀ first ∈ (newCalls visit.before visit.after).head?,
      ∃ chat admitted,
        prepareChat host call visit.before = (.ok chat, admitted) ∧
          normalizeOpenaiRequest host call.request =
            .ok chat.setup.normalized ∧
          first.request = chat.setup.normalized.data ∧
          baselineModel host chat.setup.normalized.data
            chat.policy.modelAllowlist = .ok first.model

theorem ne_enforce_of_trial {mode : Except PyException Mode}
    (trial : mode ∈ [.ok .observe, .ok .shadow]) : mode ≠ .ok .enforce := by
  rintro rfl
  simp at trial

theorem ignores_gatewayStep {call : GatewayCall} (trial : call.IsTrial)
    (caches : Caches) :
    Ignores (Gateway.withCaches caches) (call.run host provider) := by
  cases call with
  | chat call =>
      exact ignores_bind (ignores_handleChatCompletion host provider caches
        (ne_enforce_of_trial trial)) fun _ _ _ _ => ignores_ret _
  | embedding call =>
      exact ignores_bind (ignores_handleEmbeddings host caches
        (ne_enforce_of_trial trial)) fun _ _ _ _ => ignores_ret _
  | policy session command => exact trial.elim

theorem ignoresCaches_visit {call : GatewayCall} (trial : call.IsTrial)
    (gateway : Gateway) :
    GatewayVisit.IgnoresCaches host provider
      (Run.visit (gatewayStep host provider) gateway call) := by
  have alike := fun caches =>
    ignores_gatewayStep host provider trial caches gateway
  refine ⟨?_, alike⟩
  have same := alike gateway.caches
  have own : gateway.withCaches gateway.caches = gateway := rfl
  rw [own] at same
  exact congrArg (fun run => run.2.caches) same

variable {host provider}

theorem normalized_of_setup {call : ChatCall} {setup : ChatSetup}
    (ready : call.setup host = .ok setup) :
    normalizeOpenaiRequest host call.request = .ok setup.normalized := by
  obtain ⟨_, -, ready⟩ := except_bind_eq_ok_iff.mp ready
  obtain ⟨_, -, ready⟩ := except_bind_eq_ok_iff.mp ready
  obtain ⟨normalized, read, ready⟩ := except_bind_eq_ok_iff.mp ready
  obtain ⟨_, -, ready⟩ := except_bind_eq_ok_iff.mp ready
  obtain ⟨_, -, ready⟩ := except_bind_eq_ok_iff.mp ready
  cases ready
  exact read

/-- Neither a compiled context nor a route changes a trial's first call. -/
theorem firstCall_unenforced {chat : Chat} {route : ModelRoute}
    {history asked : List ProviderCall} (mode : chat.setup.mode ≠ .enforce)
    (made : Asked host provider chat route history asked) :
    ∀ first ∈ asked.head?, first.request = chat.setup.normalized.data ∧
      baselineModel host chat.setup.normalized.data
        chat.policy.modelAllowlist = .ok first.model := by
  have idle : ∀ action, chat.performs action = false := by
    intro action
    simp [Chat.performs, mode]
  have request : chat.providerRequest = chat.setup.normalized.data := by
    simp [Chat.providerRequest, Chat.contextApplied, idle]
  have baseline : ∀ {model}, chat.firstModel host route = .ok model →
      baselineModel host chat.setup.normalized.data
        chat.policy.modelAllowlist = .ok model := by
    intro model chosen
    simpa [Chat.firstModel, idle] using chosen
  intro first member
  cases made with
  | unnamed failed => cases member
  | once chosen =>
      cases member
      exact ⟨request, baseline chosen⟩
  | twice chosen second =>
      cases member
      exact ⟨request, baseline chosen⟩

theorem asksPlainly_visit {call : GatewayCall} (trial : call.IsTrial)
    (gateway : Gateway) :
    GatewayVisit.AsksPlainly host
      (Run.visit (gatewayStep host provider) gateway call) := by
  rintro request same first member
  cases same
  have after : (gatewayStep host provider gateway (.chat request)).2 =
      (handleChatCompletion host provider request gateway).2 := by
    rw [gatewayStep_chat]
  simp only [Run.visit, after] at member
  obtain ⟨_, _, -, none⟩ | ⟨chat, admitted, prepared, -, -⟩ :=
    handleChatCompletion_calls host provider request gateway
  · rw [none] at member
    cases member
  · have setup := ((ensures_prepareChat host request gateway).of_ok prepared).setup
    have mode : chat.setup.mode ≠ .enforce := by
      intro enforced
      apply ne_enforce_of_trial trial
      rw [ChatCall.mode_of_setup host setup, enforced]
    obtain ⟨asked, new, ⟨-, rfl⟩ | ⟨-, route, -, made⟩⟩ :=
      newCalls_prepared host provider request prepared
    · rw [new] at member
      cases member
    · rw [new] at member
      exact ⟨chat, admitted, prepared, normalized_of_setup setup,
        firstCall_unenforced mode made first member⟩

/-- In every run, a request in observe or shadow mode neither reads nor
changes the caches, and asks the provider as the client asked. -/
theorem trialRequests_passive (start : Gateway) (calls : List GatewayCall) :
    ∀ visit ∈ Run.visits (gatewayStep host provider) start calls,
      visit.input.IsTrial →
        GatewayVisit.IgnoresCaches host provider visit ∧
          GatewayVisit.AsksPlainly host visit := by
  intro visit member trial
  obtain ⟨-, made⟩ := Run.visit_of_mem member
  rw [made]
  exact ⟨ignoresCaches_visit host provider trial visit.before,
    asksPlainly_visit trial visit.before⟩

end Visits

/-- A greeting in observe mode. -/
def observedGreeting : ChatCall where
  request := .ofList [("messages", .list
    [.dict [("role", .str "user"), ("content", .str "hi")]])]
  requestedMode := some "observe"

theorem observedGreeting_isTrial :
    (GatewayCall.chat observedGreeting).IsTrial := by
  have text : (strip (textOr (some "observe") "enforce")).toLower =
      "observe" := by
    decide +kernel
  have mode : executionMode {} (some "observe") = .ok .observe := by
    simp only [executionMode, Option.getD_none, text]
  exact List.mem_cons.mpr (.inl mode)

theorem trialRequests_passive_greeting :
    let host := Host.counting
    let visit := Run.visit (gatewayStep host (mockProvider host)) {}
      (.chat observedGreeting)
    GatewayVisit.IgnoresCaches host (mockProvider host) visit ∧
      GatewayVisit.AsksPlainly host visit :=
  trialRequests_passive {} [.chat observedGreeting] _ List.mem_cons_self
    observedGreeting_isTrial

end Urp
