import Urp.Host
import Urp.Python.Sha256

/-!
# Principals and their permissions

Who a request comes from, which tenant and which actions its principal may
use, and what action a request asks for.
-/

namespace Urp

open Python

structure Principal where
  actor : String
  tenant : String
  roles : List String

/-- What `current_tenant()` gives while the principal is bound. -/
def Principal.session (principal : Principal) : Session where
  currentTenant :=
    if principal.tenant = "*" then none else some principal.tenant

/-- The principal may act for the tenant. -/
def Principal.reaches (principal : Principal) (tenant : String) : Bool :=
  principal.tenant = tenant || principal.tenant = "*"

def authenticationRequired
    (message : String := "authentication is required") : PyException :=
  .urp { code := "authentication_required", message }

def authorizationDenied (principal : Principal) (action : String) :
    PyException :=
  .urp {
    code := "authorization_denied"
    message := principal.actor ++ " is not allowed to perform " ++ action }

/-! ## Roles -/

structure LocalAuthorizer where
  rolePermissions : Dict String (List String)

namespace LocalAuthorizer

/-- The roles that every authorizer starts with. -/
def builtInRoles : List (String × List String) :=
  [("admin", ["*"]),
   ("operator", ["work_unit:read", "work_unit:write", "manifest:read",
      "manifest:rehydrate", "manifest:sensitive", "ledger:query",
      "policy:evaluate", "cache:use", "object:read", "object:write",
      "scheduler:submit", "reports:read", "observability:read", "auth:self",
      "approval:read"]),
   ("viewer", ["work_unit:read", "manifest:read", "ledger:query",
      "reports:read", "observability:read", "auth:self"]),
   ("developer", ["work_unit:read", "work_unit:write", "manifest:read",
      "manifest:rehydrate", "manifest:sensitive", "cache:use", "object:read",
      "object:write", "auth:self"]),
   ("gateway", ["work_unit:write", "manifest:read", "cache:use",
      "object:read", "object:write", "auth:self"])]

/-- `LocalAuthorizer(role_permissions)`. -/
def create (rolePermissions : List (String × List String) := []) :
    LocalAuthorizer where
  rolePermissions := Dict.ofList (builtInRoles ++ rolePermissions)

variable (authorizer : LocalAuthorizer) (principal : Principal)
  (action : String)

def permissions (role : String) : List String :=
  (authorizer.rolePermissions.lookup role).getD []

-- No tenant and an empty one are the same to both checks.
def allowed (tenant : Option String) : Bool :=
  (tenant.all fun tenant => tenant = "" || principal.reaches tenant) &&
    principal.roles.any fun role =>
      (authorizer.permissions role).contains "*" ||
        (authorizer.permissions role).contains action

def require (tenant : Option String) : Except PyException Unit :=
  match tenant.filter fun tenant =>
      tenant != "" && !principal.reaches tenant with
  | some tenant => .error (tenantMismatch principal.tenant tenant)
  | none =>
      if authorizer.allowed principal action tenant then .ok ()
      else .error (authorizationDenied principal action)

variable {authorizer principal action}

/-- A principal that passes the check reaches the tenant it was checked for. -/
theorem reaches_of_require {tenant : String}
    (nonempty : tenant ≠ "")
    (required : authorizer.require principal action (some tenant) = .ok ()) :
    principal.tenant = tenant ∨ principal.tenant = "*" := by
  unfold require at required
  split at required
  · cases required
  · rename_i unrefused
    rw [or_iff_not_imp_left]
    simpa [nonempty, Principal.reaches] using unrefused

end LocalAuthorizer

/-! ## Keys -/

/-- `APIKeyAuthenticator`: its principals by the hash of their key. -/
structure ApiKeyAuthenticator where
  disabled : Bool := false
  records : Dict String Principal := ∅

namespace ApiKeyAuthenticator

def tokenHash (token : String) : String := sha256 (utf8 token.toList)

/-- `APIKeyAuthenticator(records, disabled=...)`. -/
def create (records : List (String × Principal)) (disabled : Bool) :
    ApiKeyAuthenticator where
  disabled := disabled
  records := Dict.ofList ((records.filter fun row => row.1 ≠ "").map
    fun row => (tokenHash row.1, row.2))

def authenticate (authenticator : ApiKeyAuthenticator)
    (apiKey : Option String) : Except PyException Principal :=
  if authenticator.disabled then .ok ⟨"anonymous-local", "*", ["admin"]⟩
  else
    match apiKey with
    | none | some "" => .error authenticationRequired
    | some key =>
        match authenticator.records.lookup (tokenHash key) with
        | none => .error (authenticationRequired "invalid API key")
        | some principal => .ok principal

end ApiKeyAuthenticator

/-- `text.partition(" ")` without the separator. -/
def partitionBlank (text : String) : String × String :=
  let chars := text.toList
  (String.ofList (chars.takeWhile (· ≠ ' ')),
    String.ofList ((chars.dropWhile (· ≠ ' ')).drop 1))

-- No letter outside ASCII has a letter of "bearer" as its lower case.
def bearerToken (authorization apiKeyHeader : Option String) :
    Except PyException (Option String) :=
  match apiKeyHeader.filter (· ≠ "") with
  | some header =>
      .ok (if strip header = "" then none else some (strip header))
  | none =>
      match authorization.filter (· ≠ "") with
      | none => .ok none
      | some authorization =>
          let (scheme, value) := partitionBlank authorization
          if scheme.toLower ≠ "bearer" ∨ strip value = "" then
            .error (authenticationRequired
              "expected Authorization: Bearer <token>")
          else .ok (some (strip value))

/-! ## Actions -/

/-- `path.startswith(start)`. -/
def hasStart (start path : String) : Bool :=
  start.toList.isPrefixOf path.toList

-- Upper case reaches the letters of "GET" from their own lower case alone.
def actionForRequest (method path : String) : String :=
  let isGet := method.toUpper = "GET"
  let under := fun start => hasStart start path
  let within := fun part => occursIn part path
  if path = "/metrics" then "admin:manage"
  else if under "/v1/admin/" || under "/v1/kms/" then "admin:manage"
  else if path = "/v1/auth/check" then "auth:self"
  else if under "/v1/approvals" then
    if isGet then "approval:read" else "approval:manage"
  else if under "/v1/plugins" then
    if isGet then "plugin:read" else "plugin:manage"
  else if under "/v1/policies/bundles" then
    if isGet then "policy:read" else "policy:manage"
  else if under "/v1/policies" then "policy:evaluate"
  else if under "/v1/ledger" then "ledger:query"
  else if under "/v1/manifests" then
    if "/rehydrate".toList.isSuffixOf path.toList then "manifest:rehydrate"
    else "manifest:read"
  else if under "/v1/work-units" || under "/v1/plans" then
    if isGet then "work_unit:read" else "work_unit:write"
  else if under "/v1/s3/objects/delete" then "object:delete"
  else if under "/v1/s3" then
    if ["/get", "/head", "/range", "/list"].any within then "object:read"
    else "object:write"
  else if under "/v1/cache" || under "/v1/chat" || under "/v1/completions" ||
      under "/v1/embeddings" then "cache:use"
  else if under "/v1/scheduler" then
    if isGet then "reports:read" else "scheduler:submit"
  else if under "/v1/reports" then "reports:read"
  else if under "/v1/traces" || under "/v1/logs" || under "/v1/routes" then
    "observability:read"
  else if under "/v1/platforms" || under "/v1/conformance" ||
      under "/v1/adapters" || under "/v1/benchmarks" then "admin:manage"
  else if path = "/v1/models" then "cache:use"
  else "admin:manage"

end Urp
