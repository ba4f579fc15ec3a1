import Urp.GatewayServers

/-!
# The tenant that a handler acts for

Authorization and execution resolve the tenant of a request separately.  Each
resolution is read off its inputs, and the two are compared.
-/

namespace Urp

open Python Program

/-! ## The tenant of each resolution -/

theorem Value.isTruthy_ofText {tenant : Option String} :
    (Value.ofText tenant).isTruthy = true ↔
      ∃ text, tenant = some text ∧ text ≠ "" := by
  cases tenant with
  | none => simp [Value.ofText, Value.isTruthy]
  | some text => simp [Value.ofText, Value.isTruthy]

@[simp] theorem urpOptions_empty : urpOptions ∅ = ∅ := rfl

@[simp] theorem Object.get_empty (key : String) :
    Object.get ∅ key = .none := rfl

/-- A payload without entries names no tenant of its own. -/
theorem namedTenant_empty (tenant : Option String) :
    namedTenant ∅ tenant = Value.ofText tenant := by
  simp [namedTenant, Value.orElse, Value.isTruthy]

/-- A handler is called under the options' tenant, or else the principal's, or
else the local one. -/
theorem endpoint_spec {handler : Handler} {session : Session}
    {payload : Object} {call : HandlerCall}
    (ran : endpoint handler session payload = .ok call) :
    call.request = payload ∧
      call.tenant = ((urpOptions payload).get "tenant").orElse
        ((Value.ofText session.currentTenant).orElse (.str "local")) := by
  unfold endpoint at ran
  unfold urpOptions Object.get Object.getD at *
  cases stored : payload.lookup "urp" with
  | none =>
      rw [stored] at ran
      cases ran
      exact ⟨rfl, rfl⟩
  | some options =>
      rw [stored] at ran
      simp only [Option.getD_some] at ran ⊢
      split at ran
      · cases ran
        exact ⟨rfl, rfl⟩
      · cases ran

/-- The three paths lie under `/v1/`, which both servers authorize. -/
theorem endpointAt_spec {path : String}
    {run : Session → Object → Except PyException HandlerCall}
    (found : endpointAt path = some run) :
    hasStart "/v1/" path = true ∧ path ∉ ["/healthz", "/readyz"] ∧
      ∃ handler, run = endpoint handler := by
  unfold endpointAt at found
  split at found
  · rename_i same
    cases found
    subst same
    exact ⟨by decide, by decide, _, rfl⟩
  · split at found
    · rename_i same
      cases found
      subst same
      exact ⟨by decide, by decide, _, rfl⟩
    · split at found
      · rename_i same
        cases found
        subst same
        exact ⟨by decide, by decide, _, rfl⟩
      · cases found

theorem runEndpoint_spec {path : String} {session : Session}
    {required : Option String} {payload : Value} {handled : Handled}
    (ran : runEndpoint path session required payload = .ok (some handled)) :
    hasStart "/v1/" path = true ∧ path ∉ ["/healthz", "/readyz"] ∧
      ∃ entries, payload = .dict entries ∧ handled.required = required ∧
        handled.call.tenant =
          ((urpOptions (Object.ofList entries)).get "tenant").orElse
            ((Value.ofText session.currentTenant).orElse (.str "local")) := by
  unfold runEndpoint at ran
  split at ran
  · cases ran
  · rename_i run found
    obtain ⟨under, served, handler, rfl⟩ := endpointAt_spec found
    refine ⟨under, served, ?_⟩
    split at ran
    · rename_i entries
      obtain ⟨call, called, ran⟩ := except_bind_eq_ok_iff.mp ran
      cases ran
      exact ⟨entries, rfl, rfl, (endpoint_spec called).2⟩
    · cases ran

/-! ## Both servers -/

inductive GatewayServer where
  | service (server : ServiceServer)
  | api (server : ApiServer)

namespace GatewayServer

def config : GatewayServer → ServerConfig
  | service server => server.config
  | api server => server.config

def serve : GatewayServer → HttpRequest →
    Except PyException (Option Handled)
  | service server => server.serve
  | api server => server.serve

/-- The JSON body that a server reads. -/
def payload : GatewayServer → HttpRequest → Except PyException Value
  | service server => server.payload
  | api server => fun request => server.config.loads request.body

/-- The tenant that a request names outside its body. -/
def outerTenant : GatewayServer → HttpRequest → Option String
  | service _ => fun request => request.header "x-urp-tenant"
  | api _ => ApiServer.outerTenant

/-- What a handler's run comes from: the principal of the request's key, its
JSON body, and a check of the tenant that these name. -/
structure Runs (server : GatewayServer) (request : HttpRequest)
    (principal : Principal) (payload : Object) (handled : Handled) :
    Prop where
  principal_eq : server.config.principal request = .ok principal
  payload_eq : ∃ entries, server.payload request = .ok (.dict entries) ∧
    payload = Object.ofList entries
  required_eq : handled.required = requiredTenant server.config.host
    (namedTenant payload (server.outerTenant request))
  admitted : ∃ action, server.config.authorizer.require principal action
    handled.required = .ok ()
  tenant_eq : handled.call.tenant = ((urpOptions payload).get "tenant").orElse
    ((Value.ofText principal.session.currentTenant).orElse (.str "local"))

end GatewayServer

theorem ServiceServer.payloadTenant_dict
    {entries : List (String × Value)} {tenant : Option String} {named : Value}
    (read : payloadTenant (.dict entries) tenant = .ok named) :
    named = namedTenant (Object.ofList entries) tenant := by
  unfold payloadTenant at read
  split at read
  · cases read
    rfl
  · rename_i empty
    cases read
    have none : entries = [] := by
      simpa [Value.isTruthy] using empty
    rw [none]
    exact (namedTenant_empty tenant).symm

theorem ServiceServer.runs {server : ServiceServer} {request : HttpRequest}
    {handled : Handled}
    (served : server.serve request = .ok (some handled)) :
    ∃ principal payload,
      (GatewayServer.service server).Runs request principal payload handled := by
  unfold serve at served
  split at served
  · unfold doPost at served
    obtain ⟨payload, read, served⟩ := except_bind_eq_ok_iff.mp served
    obtain ⟨⟨principal, required⟩, authenticated, served⟩ :=
      except_bind_eq_ok_iff.mp served
    simp only at served
    split at served
    · obtain ⟨-, authorized, entries, rfl, same, tenant⟩ :=
        runEndpoint_spec served
      unfold authenticate at authenticated
      rw [if_neg authorized] at authenticated
      obtain ⟨owner, keyed, authenticated⟩ :=
        except_bind_eq_ok_iff.mp authenticated
      obtain ⟨named, resolved, authenticated⟩ :=
        except_bind_eq_ok_iff.mp authenticated
      obtain ⟨⟨⟩, admitted, authenticated⟩ :=
        except_bind_eq_ok_iff.mp authenticated
      cases authenticated
      rw [payloadTenant_dict resolved] at same admitted
      have checked : server.config.authorizer.require principal
          (actionForRequest "POST" request.path) handled.required = .ok () := by
        rw [same]
        exact admitted
      exact ⟨principal, _, keyed, ⟨entries, read, rfl⟩, same, ⟨_, checked⟩,
        tenant⟩
    · cases served
  · cases served

theorem ApiServer.callNext_spec {server : ApiServer} {request : HttpRequest}
    {session : Session} {required : Option String} {handled : Handled}
    (ran : server.callNext request session required = .ok (some handled)) :
    request.method = "POST" ∧ request.body ≠ [] ∧
      ∃ entries, server.config.loads request.body = .ok (.dict entries) ∧
        runEndpoint request.path session required (.dict entries) =
          .ok (some handled) := by
  unfold callNext at ran
  split at ran
  · rename_i taken
    refine ⟨taken.1, taken.2.1, ?_⟩
    split at ran
    · rename_i entries read
      exact ⟨entries, read, ran⟩
    · cases ran
  · cases ran

/-- A body that reads as a dictionary counts for the middleware too. -/
theorem ApiServer.bodyTenant_dict {server : ApiServer} {request : HttpRequest}
    {maximum : Int} {tenant : Option String} {named : Value}
    {entries : List (String × Value)}
    (posted : request.method = "POST") (nonempty : request.body ≠ [])
    (read : server.config.loads request.body = .ok (.dict entries))
    (resolved : server.bodyTenant request maximum tenant = .ok named) :
    named = namedTenant (Object.ofList entries) tenant := by
  unfold bodyTenant at resolved
  have method : request.method.toUpper ∈ ["POST", "PUT", "PATCH", "DELETE"] := by
    rw [posted]
    decide +kernel
  rw [if_pos method] at resolved
  split at resolved
  · cases resolved
  · unfold ServerConfig.loads at read
    cases decoded : server.config.decodeBody request.body with
    | none =>
        rw [decoded] at resolved
        cases resolved
    | some text =>
        rw [decoded] at resolved read
        simp only [Option.bind_some] at resolved read
        cases parsed : Json.loads text with
        | none =>
            rw [parsed] at read
            cases read
        | some value =>
            rw [parsed] at read resolved
            cases read
            cases resolved
            rfl

theorem ApiServer.runs {server : ApiServer} {request : HttpRequest}
    {handled : Handled}
    (served : server.serve request = .ok (some handled)) :
    ∃ principal payload,
      (GatewayServer.api server).Runs request principal payload handled := by
  unfold serve at served
  split at served
  · rename_i health
    obtain ⟨-, -, entries, -, ran⟩ := callNext_spec served
    exact absurd health (runEndpoint_spec ran).2.1
  · split at served
    · obtain ⟨maximum, bound, served⟩ := except_bind_eq_ok_iff.mp served
      obtain ⟨length, declared, served⟩ := except_bind_eq_ok_iff.mp served
      split at served
      · cases served
      · obtain ⟨principal, keyed, served⟩ := except_bind_eq_ok_iff.mp served
        obtain ⟨named, resolved, served⟩ := except_bind_eq_ok_iff.mp served
        obtain ⟨⟨⟩, admitted, served⟩ := except_bind_eq_ok_iff.mp served
        obtain ⟨posted, nonempty, entries, read, ran⟩ := callNext_spec served
        obtain ⟨-, -, _, same, required, tenant⟩ := runEndpoint_spec ran
        cases same
        rw [bodyTenant_dict posted nonempty read resolved]
          at required admitted
        have checked : server.config.authorizer.require principal
            (actionForRequest request.method request.path) handled.required =
              .ok () := by
          rw [required]
          exact admitted
        exact ⟨principal, _, keyed, ⟨entries, read, rfl⟩, required,
          ⟨_, checked⟩, tenant⟩
    · rename_i outside
      obtain ⟨-, -, entries, -, ran⟩ := callNext_spec served
      exact absurd (Or.inr (runEndpoint_spec ran).1) outside

theorem GatewayServer.runs {server : GatewayServer} {request : HttpRequest}
    {handled : Handled}
    (served : server.serve request = .ok (some handled)) :
    ∃ principal payload, server.Runs request principal payload handled := by
  cases server with
  | service server => exact server.runs served
  | api server => exact server.runs served

/-! ## Agreement -/

/-- The two resolutions meet.  A tenant of the options is a string that the
body gives no other tenant beside; without one the principal is bound to a
tenant, or the request names the local one. -/
def NamesOneTenant (host : Host) (principal : Principal) (payload : Object)
    (outer : Option String) : Prop :=
  let body := payload.get "tenant"
  let options := (urpOptions payload).get "tenant"
  if options.isTruthy then
    ∃ text, options = .str text ∧ (body.isTruthy → host.str body = text)
  else
    principal.tenant ≠ "*" ∨
      if body.isTruthy then host.str body = "local" else outer = some "local"

/-- The tenant that is required, by where it comes from. -/
theorem requiredTenant_spec {host : Host} {payload : Object}
    {outer : Option String} {tenant : String}
    (required : requiredTenant host (namedTenant payload outer) =
      some tenant) :
    tenant ≠ "" ∧
      if (payload.get "tenant").isTruthy then
        host.str (payload.get "tenant") = tenant
      else if ((urpOptions payload).get "tenant").isTruthy then
        host.str ((urpOptions payload).get "tenant") = tenant
      else outer = some tenant := by
  unfold requiredTenant at required
  split at required
  · rename_i truthy
    cases required
    refine ⟨str_ne_empty _ truthy, ?_⟩
    unfold namedTenant Value.orElse at *
    split
    · rfl
    · split
      · rfl
      · rename_i body options
        rw [if_neg options, if_neg body] at truthy
        obtain ⟨text, rfl, -⟩ := Value.isTruthy_ofText.mp truthy
        rfl
  · cases required

/-- The tenant of a handler that runs is the required one exactly when the
request names one tenant. -/
theorem tenant_eq_iff {host : Host} {principal : Principal} {payload : Object}
    {outer : Option String} {tenant : String}
    (required : requiredTenant host (namedTenant payload outer) = some tenant)
    (reaches : principal.tenant = tenant ∨ principal.tenant = "*") :
    ((urpOptions payload).get "tenant").orElse
        ((Value.ofText principal.session.currentTenant).orElse
          (.str "local")) = .str tenant ↔
      NamesOneTenant host principal payload outer := by
  obtain ⟨nonempty, source⟩ := requiredTenant_spec required
  unfold NamesOneTenant Value.orElse
  by_cases options : ((urpOptions payload).get "tenant").isTruthy
  · simp only [options, if_true] at source ⊢
    by_cases body : (payload.get "tenant").isTruthy
    · simp only [body, if_true] at source
      subst source
      constructor
      · intro same
        exact ⟨_, same, fun _ => rfl⟩
      · rintro ⟨text, same, agrees⟩
        rw [same, agrees body]
    · rw [if_neg body] at source
      constructor
      · intro same
        exact ⟨_, same, fun given => absurd given body⟩
      · rintro ⟨text, same, -⟩
        rw [same] at source
        rw [same, ← source]
        rfl
  · rw [if_neg options] at source ⊢
    rw [if_neg options]
    by_cases bound : principal.tenant = "*"
    · have anyone : principal.session.currentTenant = none := by
        simp [Principal.session, bound]
      have named : (if (payload.get "tenant").isTruthy then
          host.str (payload.get "tenant") = "local"
        else outer = some "local") ↔ tenant = "local" := by
        by_cases body : (payload.get "tenant").isTruthy
        · rw [if_pos body] at source ⊢
          rw [source]
        · rw [if_neg body] at source ⊢
          rw [source, Option.some_inj]
      rw [anyone, named]
      simp [Value.ofText, Value.isTruthy, bound, eq_comm]
    · have own : principal.session.currentTenant = some tenant := by
        rw [Principal.session, if_neg bound, reaches.resolve_right bound]
      rw [own, if_pos (Value.isTruthy_ofText.mpr ⟨tenant, rfl, nonempty⟩)]
      exact ⟨fun _ => Or.inl bound, fun _ => rfl⟩

section

variable {server : GatewayServer} {request : HttpRequest}
  {principal : Principal} {payload : Object} {handled : Handled}
  {tenant : String}

/-- The two resolutions of one run. -/
theorem GatewayServer.Runs.acts_iff
    (ran : server.Runs request principal payload handled)
    (required : handled.required = some tenant) :
    handled.call.tenant = .str tenant ↔
      NamesOneTenant server.config.host principal payload
        (server.outerTenant request) := by
  have named := ran.required_eq
  rw [required] at named
  have reaches : principal.tenant = tenant ∨ principal.tenant = "*" := by
    obtain ⟨action, admitted⟩ := ran.admitted
    rw [required] at admitted
    exact LocalAuthorizer.reaches_of_require
      (requiredTenant_spec named.symm).1 admitted
  rw [ran.tenant_eq, tenant_eq_iff named.symm reaches]

/-- The chat gateway works for the required tenant where the request names one
tenant. -/
theorem GatewayServer.Runs.chatCall_tenant {chat : ChatCall}
    (ran : server.Runs request principal payload handled)
    (required : handled.required = some tenant)
    (one : NamesOneTenant server.config.host principal payload
      (server.outerTenant request))
    (called : handled.call.chatCall? = some chat) : chat.tenant = tenant := by
  have acting := (ran.acts_iff required).mpr one
  unfold HandlerCall.chatCall? at called
  split at called
  · rename_i text nameSpace given _
    cases called
    rw [given] at acting
    exact Value.str.inj acting
  · cases called

end

/-- A request's own principal, body and outer tenant name one tenant. -/
def GatewayServer.NamesOneTenant (server : GatewayServer)
    (request : HttpRequest) : Prop :=
  ∃ principal entries,
    server.config.principal request = .ok principal ∧
      server.payload request = .ok (.dict entries) ∧
      Urp.NamesOneTenant server.config.host principal
        (Object.ofList entries) (server.outerTenant request)

/-- A handler acts for the tenant that was authorized exactly when the request
names one tenant. -/
theorem actsAsRequired_iff {server : GatewayServer} {request : HttpRequest}
    {handled : Handled} {tenant : String}
    (served : server.serve request = .ok (some handled))
    (required : handled.required = some tenant) :
    handled.call.tenant = .str tenant ↔ server.NamesOneTenant request := by
  obtain ⟨principal, payload, ran⟩ := server.runs served
  rw [ran.acts_iff required]
  obtain ⟨entries, read, rfl⟩ := ran.payload_eq
  constructor
  · intro one
    exact ⟨principal, entries, ran.principal_eq, read, one⟩
  · rintro ⟨other, others, keyed, again, one⟩
    rw [ran.principal_eq] at keyed
    rw [read] at again
    cases keyed
    cases again
    exact one

/-! ## Two requests -/

/-- The required tenant of a handler's run and the one that it is called
under. -/
def GatewayServer.tenants (server : GatewayServer) (request : HttpRequest) :
    Option (Option String × Option String) :=
  match server.serve request with
  | .ok (some handled) => some (handled.required, handled.call.tenant.string?)
  | _ => none

theorem GatewayServer.of_tenants {server : GatewayServer}
    {request : HttpRequest} {required acting : String}
    (both : server.tenants request = some (some required, some acting)) :
    ∃ handled, server.serve request = .ok (some handled) ∧
      handled.required = some required ∧
      handled.call.tenant = .str acting := by
  unfold tenants at both
  split at both
  · rename_i handled served
    simp only [Option.some.injEq, Prod.mk.injEq] at both
    refine ⟨handled, served, both.1, ?_⟩
    cases tenant : handled.call.tenant with
    | str text =>
        rw [tenant] at both
        cases both.2
        rfl
    | _ =>
        rw [tenant] at both
        cases both.2
  · cases both

/-- A configuration with one key, of a gateway that is bound to a tenant. -/
def acmeConfig : ServerConfig where
  host := { Host.counting with
    intOfText := fun text => some (Nat.ofDigitChars 10 text.toList 0) }
  authenticator := .create [("key", ⟨"gateway", "acme", ["gateway"]⟩)] false
  decodeBody := decodeUtf8

/-- A chat request with the key and a body. -/
def chatRequest (body : String) : HttpRequest where
  method := "POST"
  path := "/v1/chat/completions"
  query := []
  headers := [("Authorization", "Bearer key"),
    ("Content-Length", Nat.repr (utf8 body.toList).length)]
  body := utf8 body.toList

/-- The options name the principal's tenant. -/
def acmeBody : String := "\x7b\"urp\": \x7b\"tenant\": \"acme\"\x7d\x7d"

/-- The options name another tenant than the rest of the body. -/
def initechBody : String :=
  "\x7b\"tenant\": \"acme\", \"urp\": \x7b\"tenant\": \"initech\"\x7d\x7d"

theorem actsAsRequired_sample :
    (GatewayServer.service ⟨"gateway-ai", acmeConfig⟩).NamesOneTenant
      (chatRequest acmeBody) := by
  have both : (GatewayServer.service ⟨"gateway-ai", acmeConfig⟩).tenants
      (chatRequest acmeBody) = some (some "acme", some "acme") := by
    decide +kernel
  obtain ⟨handled, served, required, acting⟩ := GatewayServer.of_tenants both
  exact (actsAsRequired_iff served required).mp acting

/-- The tenant of the body is authorized, the handler acts for the one of the
options. -/
theorem optionsTenant_unauthorized :
    ¬ ∀ (server : GatewayServer) (request : HttpRequest) (handled : Handled)
      (tenant : String), server.serve request = .ok (some handled) →
        handled.required = some tenant → handled.call.tenant = .str tenant := by
  intro always
  have both : (GatewayServer.service ⟨"gateway-ai", acmeConfig⟩).tenants
      (chatRequest initechBody) = some (some "acme", some "initech") := by
    decide +kernel
  obtain ⟨handled, served, required, acting⟩ := GatewayServer.of_tenants both
  have same := always _ _ _ _ served required
  rw [acting] at same
  exact absurd (Value.str.inj same) (by decide)

example : (GatewayServer.api ⟨acmeConfig, fun _ => true⟩).tenants
    (chatRequest initechBody) = some (some "acme", some "initech") := by
  decide +kernel

end Urp
