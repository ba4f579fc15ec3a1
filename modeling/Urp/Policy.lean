import Urp.Errors

/-!
# Policy bundles and their evaluation

A bundle mirrors the policy schema with every field optional, since
`evaluate_policy` is also called on bundles that were not validated.  The
loop over the matched rules is a fold over the controls it accumulates.
-/

namespace Urp

open Python

/-! ## Bundles -/

/-- One item of a rule's `match` dictionary, in the order of the items. -/
inductive MatchClause where
  | kind (value : String)
  | nameSpace (value : String)
  | tenant (value : String)
  | tags (value : Object)

/-- A rule's `allow` or `deny`. -/
structure TransformList where
  transforms : Option (List String) := none

/-- A rule's `require`. -/
structure RuleRequirements where
  verifiers : Option (List String) := none
  maxCacheAge : Option Value := none
  fallbackModel : Option String := none

structure PolicyRule where
  name : Option String := none
  matching : Option (List MatchClause) := none
  contract : Option String := none
  allow : Option TransformList := none
  deny : Option TransformList := none
  require : Option RuleRequirements := none
  requiresApproval : Option Bool := none
  modelAllowlist : Option (List String) := none

structure PolicyDefaults where
  contract : Option String := none
  semanticReduction : Option String := none
  approximateReduction : Option String := none
  crossTenantDedupe : Option String := none
  crossTenantCache : Option String := none
  dedupeDomain : Option String := none
  cacheDomain : Option String := none
  modelAllowlist : Option (List String) := none

structure PolicySpec where
  defaults : Option PolicyDefaults := none
  rules : Option (List PolicyRule) := none

structure PolicyMetadata where
  name : Option String := none
  version : Option String := none
  tenant : Option String := none
  labels : Option Object := none

structure PolicyBundle where
  apiVersion : Option String := none
  kind : Option String := none
  metadata : Option PolicyMetadata := none
  spec : Option PolicySpec := none

/-- The items of a dictionary whose values are present. -/
def present (fields : List (String × Option Value)) : Value :=
  .dict (fields.filterMap fun field => field.2.map fun value =>
    (field.1, value))

namespace MatchClause

def toPair : MatchClause → String × Value
  | kind value => ("kind", .str value)
  | nameSpace value => ("namespace", .str value)
  | tenant value => ("tenant", .str value)
  | tags value => ("tags", value.toValue)

end MatchClause

/-- `_canonical_actions`: the actions that a transform name stands for. -/
def canonicalActions (name : String) : List String :=
  match name with
  | "exact_cache" => ["exact_cache_lookup", "cache_store"]
  | "context_dedupe" => ["context_compile"]
  | "model_route_shadow" => ["model_route_shadow"]
  | "semantic_cache_shadow" => ["semantic_cache_shadow"]
  | "semantic_cache_enforce" => ["semantic_cache_lookup"]
  | "distillation_enforce" => ["distillation"]
  | name => [name]

namespace PolicyRule

def matchClauses (rule : PolicyRule) : List MatchClause :=
  rule.matching.getD []

/-- `rule.get("allow", {}).get("transforms", [])`. -/
def allowedTransforms (rule : PolicyRule) : List String :=
  (rule.allow.bind TransformList.transforms).getD []

def deniedTransforms (rule : PolicyRule) : List String :=
  (rule.deny.bind TransformList.transforms).getD []

def verifiers (rule : PolicyRule) : List String :=
  (rule.require.bind RuleRequirements.verifiers).getD []

/-- `rule["contract"]` when `rule.get("contract")` is truthy. -/
def contractName? (rule : PolicyRule) : Option String :=
  rule.contract.filter fun name => name != ""

def allowedActions (rule : PolicyRule) : List String :=
  rule.allowedTransforms.flatMap canonicalActions

def deniedActions (rule : PolicyRule) : List String :=
  rule.deniedTransforms.flatMap canonicalActions

def requires (rule : PolicyRule) : Bool := rule.requiresApproval.getD false

def toValue (rule : PolicyRule) : Value :=
  let transforms := fun list : TransformList =>
    present [("transforms", list.transforms.map texts)]
  present [("name", rule.name.map .str),
    ("match", rule.matching.map fun clauses =>
      .dict (clauses.map MatchClause.toPair)),
    ("contract", rule.contract.map .str),
    ("allow", rule.allow.map transforms), ("deny", rule.deny.map transforms),
    ("require", rule.require.map fun required =>
      present [("verifiers", required.verifiers.map texts),
        ("maxCacheAge", required.maxCacheAge),
        ("fallbackModel", required.fallbackModel.map .str)]),
    ("requires_approval", rule.requiresApproval.map .bool),
    ("modelAllowlist", rule.modelAllowlist.map texts)]

end PolicyRule

namespace PolicyDefaults

def fields (defaults : PolicyDefaults) : List (String × Option Value) :=
  [("contract", defaults.contract.map .str),
    ("semanticReduction", defaults.semanticReduction.map .str),
    ("approximateReduction", defaults.approximateReduction.map .str),
    ("crossTenantDedupe", defaults.crossTenantDedupe.map .str),
    ("crossTenantCache", defaults.crossTenantCache.map .str),
    ("dedupeDomain", defaults.dedupeDomain.map .str),
    ("cacheDomain", defaults.cacheDomain.map .str),
    ("modelAllowlist", defaults.modelAllowlist.map texts)]

/-- `bool(defaults)`. -/
def isTruthy (defaults : PolicyDefaults) : Bool :=
  defaults.fields.any fun field => field.2.isSome

end PolicyDefaults

namespace PolicyBundle

/-- `bundle.get("spec", {}).get("defaults", {})`. -/
def defaults (bundle : PolicyBundle) : PolicyDefaults :=
  (bundle.spec.bind PolicySpec.defaults).getD {}

def rules (bundle : PolicyBundle) : List PolicyRule :=
  (bundle.spec.bind PolicySpec.rules).getD []

/-- `bool(bundle)`. -/
def isTruthy (bundle : PolicyBundle) : Bool :=
  bundle.apiVersion.isSome || bundle.kind.isSome || bundle.metadata.isSome ||
    bundle.spec.isSome

/-- `bundle.get("metadata", {}).get("name")`. -/
def name? (bundle : PolicyBundle) : Option String :=
  bundle.metadata.bind PolicyMetadata.name

def toValue (bundle : PolicyBundle) : Value :=
  present [("apiVersion", bundle.apiVersion.map .str),
    ("kind", bundle.kind.map .str),
    ("metadata", bundle.metadata.map fun metadata =>
      present [("name", metadata.name.map .str),
        ("version", metadata.version.map .str),
        ("tenant", metadata.tenant.map .str),
        ("labels", metadata.labels.map Object.toValue)]),
    ("spec", bundle.spec.map fun spec =>
      present [("defaults", spec.defaults.map fun defaults =>
          present defaults.fields),
        ("rules", spec.rules.map fun rules =>
          .list (rules.map PolicyRule.toValue))])]

end PolicyBundle

/-! ## Decisions -/

structure PolicyDecision where
  contract : Contract
  allowedActions : List String
  deniedActions : List String
  policyBundleId : String := "default"
  reasons : List String := []
  cacheDomain : String := "tenant_namespace"
  dedupeDomain : String := "tenant"
  matchedRules : List String := []
  requiredVerifiers : List String := []
  modelAllowlist : List String := ["tiny", "small", "medium", "frontier"]
  requireApproval : Bool := false
  deriving DecidableEq

namespace PolicyDecision

def toDict (decision : PolicyDecision) : Object :=
  .ofList [("contract", .str decision.contract.value),
    ("allowed_actions", texts decision.allowedActions),
    ("denied_actions", texts decision.deniedActions),
    ("policy_bundle_id", .str decision.policyBundleId),
    ("reasons", texts decision.reasons),
    ("cache_domain", .str decision.cacheDomain),
    ("dedupe_domain", .str decision.dedupeDomain),
    ("matched_rules", texts decision.matchedRules),
    ("required_verifiers", texts decision.requiredVerifiers),
    ("model_allowlist", texts decision.modelAllowlist),
    ("require_approval", .bool decision.requireApproval)]

/-- Allowed and not denied. -/
def Executable (decision : PolicyDecision) (action : String) : Prop :=
  action ∈ decision.allowedActions ∧ action ∉ decision.deniedActions

instance (decision : PolicyDecision) (action : String) :
    Decidable (decision.Executable action) :=
  inferInstanceAs (Decidable (_ ∧ _))

end PolicyDecision

/-! ## Contracts in order of strictness -/

/-- The `order` table of `_stricter`. -/
def Contract.order : Contract → Nat
  | .exactBytes => 0
  | .exactLogical => 1
  | .boundedApprox => 2
  | .semantic => 3
  | .derived => 4
  | .tombstone => 5

theorem Contract.order_injective {left right : Contract}
    (same : left.order = right.order) : left = right := by
  cases left <;> cases right <;> first | rfl | cases same

def stricter (left right : Contract) : Contract :=
  if left.order ≤ right.order then left else right

/-- `Contract(name)`. -/
def contractOf (name : String) : Except PyException Contract :=
  match Contract.ofValue? name with
  | some contract => .ok contract
  | none => .error .libraryValueError

/-! ## Evaluation -/

def legalHold (workUnit : WorkUnit) : Bool :=
  (workUnit.policyContext.get "legal_hold").isTrue

/-- Whether the tags carry every item of `wanted`. -/
def tagsMatch (tags : Value) : List (String × Value) → Except PyException Bool
  | [] => .ok true
  | (key, value) :: rest =>
      match tags with
      | .dict entries =>
          if Value.pyEq (Value.get entries key) value then tagsMatch tags rest
          else .ok false
      | _ => .error .attributeError

def clauseMatches (workUnit : WorkUnit) :
    MatchClause → Except PyException Bool
  | .kind value => .ok (workUnit.kind.value == value)
  | .nameSpace value => .ok (workUnit.nameSpace == value)
  | .tenant value => .ok (workUnit.tenant == value)
  | .tags value =>
      tagsMatch (workUnit.metadata.getD "tags" workUnit.metadata.toValue)
        value.entries

/-- `_matches`. -/
def matchesAll (workUnit : WorkUnit) :
    List MatchClause → Except PyException Bool
  | [] => .ok true
  | clause :: rest => do
      if ← clauseMatches workUnit clause then matchesAll workUnit rest
      else .ok false

/-- The rules that match, in order. -/
def matchedRules (workUnit : WorkUnit) :
    List PolicyRule → Except PyException (List PolicyRule)
  | [] => .ok []
  | rule :: rest => do
      let hit ← matchesAll workUnit rule.matchClauses
      let matched ← matchedRules workUnit rest
      .ok (if hit then rule :: matched else matched)

/-- The contracts of the rules that name one. -/
def ruleContracts : List PolicyRule → Except PyException (List Contract)
  | [] => .ok []
  | rule :: rest =>
      match rule.contractName? with
      | none => ruleContracts rest
      | some name => do
          let contract ← contractOf name
          let contracts ← ruleContracts rest
          .ok (contract :: contracts)

/-- The strictest contract of the matched rules; without one, the default. -/
def bundleContract (requested : Contract) (defaults : PolicyDefaults)
    (matched : List PolicyRule) : Except PyException Contract := do
  match ← ruleContracts matched with
  | [] => contractOf (defaults.contract.getD requested.value)
  | first :: rest => .ok (rest.foldl stricter first)

/-- Allowed actions, denied actions and verifiers. -/
structure Controls where
  allowed : List String
  denied : List String
  requiredVerifiers : List String

def baselinePolicyControls (kind : WorkUnitKind) : Controls :=
  let denied := ["cross_tenant_cache", "cross_tenant_dedupe",
    "semantic_summary", "lossy_transcode", "delete"]
  if kind = .embeddingRequest then
    { allowed := ["normalize_prompt", "verify", "compute_manifest"]
      denied := denied ++ ["semantic_cache_lookup"]
      requiredVerifiers := ["embedding_shape"] }
  else if kind = .promptRequest ∨ kind = .completionResponse then
    { allowed := ["normalize_prompt", "verify", "compute_manifest"]
      denied := denied
      requiredVerifiers := ["non_empty_text"] }
  else
    { allowed := ["hash", "content_defined_chunk", "fixed_chunk",
        "dedupe_same_tenant", "zstd", "manifest", "verify_restore"]
      denied := denied ++ ["semantic_cache_lookup"]
      requiredVerifiers := ["sha256_restore"] }

/-- What the loop over the matched rules accumulates. -/
structure RuleControls extends Controls where
  requireApproval : Bool
  matchedNames : List String
  explicitlyAllowed : List String

def applyRule (controls : RuleControls) (rule : PolicyRule) :
    RuleControls where
  allowed := controls.allowed ++ rule.allowedActions
  denied := controls.denied ++ rule.deniedActions
  requiredVerifiers := controls.requiredVerifiers ++ rule.verifiers
  requireApproval := controls.requireApproval || rule.requires
  matchedNames := controls.matchedNames ++ [rule.name.getD "unnamed"]
  explicitlyAllowed := controls.explicitlyAllowed ++ rule.allowedActions

/-- The denials that the defaults add once the contract is known. -/
def defaultDenials (defaults : PolicyDefaults) (strict : Contract)
    (explicitlyAllowed : List String) : List String :=
  (if defaults.semanticReduction = some "deny" ∧ strict ≠ .semantic then
      ["semantic_cache_lookup", "semantic_summary"]
    else if defaults.semanticReduction = some "deny" ∧
        "semantic_cache_lookup" ∉ explicitlyAllowed then
      ["semantic_cache_lookup", "semantic_summary"]
    else []) ++
  (if defaults.approximateReduction = some "deny" ∧
        strict ≠ .boundedApprox then ["approximate_quantization"]
    else []) ++
  (if defaults.crossTenantDedupe = some "deny" then ["cross_tenant_dedupe"]
    else []) ++
  (if defaults.crossTenantCache = some "deny" then ["cross_tenant_cache"]
    else [])

/-- `list or default`: an empty list counts as missing. -/
def orElse (list : Option (List String)) (fallback : List String) :
    List String :=
  match list with
  | none | some [] => fallback
  | some items => items

theorem orElse_ne_nil {list : Option (List String)} {fallback : List String}
    (nonempty : fallback ≠ []) : orElse list fallback ≠ [] := by
  unfold orElse
  split
  · exact nonempty
  · exact nonempty
  · rename_i items notEmpty
    rintro rfl
    exact notEmpty rfl

/-- The last matched rule with an allowlist decides; then the defaults. -/
def bundleModels (defaults : PolicyDefaults) (matched : List PolicyRule) :
    List String :=
  matched.foldl (fun models rule => orElse rule.modelAllowlist models)
    (orElse defaults.modelAllowlist ["tiny", "small", "medium", "frontier"])

theorem bundleModels_ne_nil (defaults : PolicyDefaults)
    (matched : List PolicyRule) : bundleModels defaults matched ≠ [] := by
  have each : ∀ models : List String, models ≠ [] →
      matched.foldl (fun models rule => orElse rule.modelAllowlist models)
        models ≠ [] := by
    induction matched with
    | nil => exact fun _ nonempty => nonempty
    | cons rule rest ih =>
        intro models nonempty
        exact ih _ (orElse_ne_nil nonempty)
  apply each
  exact orElse_ne_nil (by simp)

def evaluateBundle (workUnit : WorkUnit) (requested : Contract)
    (bundle : PolicyBundle) : Except PyException (Option PolicyDecision) := do
  let defaults := bundle.defaults
  let matched ← matchedRules workUnit bundle.rules
  if matched.isEmpty && !defaults.isTruthy then
    return none
  let strict ← bundleContract requested defaults matched
  let controls := matched.foldl applyRule
    { baselinePolicyControls workUnit.kind with
      requireApproval := false
      matchedNames := if defaults.isTruthy then ["defaults"] else []
      explicitlyAllowed := [] }
  let denied := controls.denied ++
    defaultDenials defaults strict controls.explicitlyAllowed
  let modelAllowlist := bundleModels defaults matched
  if modelAllowlist.isEmpty then
    .error (.valueError "policy modelAllowlist cannot be empty")
  return some {
    contract := strict
    allowedActions := sortedSet (controls.allowed.filter (· ∉ denied))
    deniedActions := sortedSet denied
    policyBundleId := bundle.name?.getD "policy_bundle"
    reasons := ["policy_bundle_evaluated"]
    matchedRules := controls.matchedNames
    requiredVerifiers := sortedSet controls.requiredVerifiers
    cacheDomain := defaults.cacheDomain.getD "tenant_namespace"
    dedupeDomain := defaults.dedupeDomain.getD "tenant"
    modelAllowlist := modelAllowlist
    requireApproval := controls.requireApproval }

def legalHoldDecision : PolicyDecision where
  contract := .exactBytes
  allowedActions := ["hash", "content_defined_chunk", "dedupe_same_tenant",
    "zstd", "manifest", "verify_restore"]
  deniedActions := ["semantic_cache", "semantic_cache_lookup",
    "semantic_summary", "lossy_transcode", "delete", "tombstone"]
  reasons := ["legal_hold_forces_exact_bytes"]
  matchedRules := ["legal_hold"]
  requiredVerifiers := ["sha256_restore"]

/-- The requested contract, or the default of the kind. -/
def requestedContract (workUnit : WorkUnit) : Contract :=
  match workUnit.requestedContract with
  | some contract => contract
  | none => if workUnit.kind.isAi then .semantic else .exactBytes

def allowSemanticCache (workUnit : WorkUnit) : Bool :=
  (workUnit.policyContext.get "allow_semantic_cache").isTrue

/-- The decision for AI requests that no bundle decides. -/
def aiDefaultDecision (workUnit : WorkUnit) : PolicyDecision :=
  let isText : Bool :=
    workUnit.kind = .promptRequest || workUnit.kind = .completionResponse
  let lookup := allowSemanticCache workUnit && isText
  { contract := .semantic
    allowedActions := ["normalize_prompt", "exact_cache_lookup",
        "model_route", "verify", "cache_store", "compute_manifest"] ++
      (if isText then ["context_compile"] else []) ++
      (if lookup then ["semantic_cache_lookup"] else [])
    deniedActions := ["cross_tenant_cache", "semantic_summary",
        "lossy_transcode", "delete"] ++
      (if lookup then [] else ["semantic_cache_lookup"])
    reasons := ["ai_contract_with_semantic_reducers_disabled_by_default"]
    matchedRules := ["ai_request_default"]
    requiredVerifiers :=
      [if workUnit.kind = .embeddingRequest then "embedding_shape"
        else "non_empty_text"] }

def globalDefaultDecision (requested : Contract) : PolicyDecision where
  contract := requested
  allowedActions := ["hash", "content_defined_chunk", "fixed_chunk",
    "dedupe_same_tenant", "zstd", "manifest", "verify_restore"]
  deniedActions := ["semantic_cache", "semantic_cache_lookup",
    "semantic_summary", "lossy_transcode", "cross_tenant_dedupe", "delete"]
  reasons := ["safe_default_exact_or_requested_contract"]
  matchedRules := ["global_default"]
  requiredVerifiers := ["sha256_restore"]

/-- The decision without a bundle's. -/
def defaultDecision (workUnit : WorkUnit) : PolicyDecision :=
  if requestedContract workUnit = .semantic ∧ workUnit.kind.isAi then
    aiDefaultDecision workUnit
  else globalDefaultDecision (requestedContract workUnit)

def evaluatePolicy (workUnit : WorkUnit) (bundle : Option PolicyBundle) :
    Except PyException PolicyDecision :=
  if legalHold workUnit then .ok legalHoldDecision
  else
    match bundle with
    | none => .ok (defaultDecision workUnit)
    | some bundle =>
        if bundle.isTruthy then do
          match ← evaluateBundle workUnit (requestedContract workUnit)
              bundle with
          | some decision => .ok decision
          | none => .ok (defaultDecision workUnit)
        else .ok (defaultDecision workUnit)

/-! ## What an evaluation returns -/

theorem foldl_applyRule (controls : RuleControls) (rules : List PolicyRule) :
    rules.foldl applyRule controls =
      { allowed := controls.allowed ++ rules.flatMap PolicyRule.allowedActions
        denied := controls.denied ++ rules.flatMap PolicyRule.deniedActions
        requiredVerifiers := controls.requiredVerifiers ++
          rules.flatMap PolicyRule.verifiers
        requireApproval := controls.requireApproval ||
          rules.any PolicyRule.requires
        matchedNames := controls.matchedNames ++
          rules.map fun rule => rule.name.getD "unnamed"
        explicitlyAllowed := controls.explicitlyAllowed ++
          rules.flatMap PolicyRule.allowedActions } := by
  induction rules generalizing controls with
  | nil => simp
  | cons rule rest ih =>
      simp [ih, applyRule, Bool.or_assoc]

/-- The rule's `match` is satisfied. -/
def RuleMatches (workUnit : WorkUnit) (rule : PolicyRule) : Prop :=
  matchesAll workUnit rule.matchClauses = .ok true

theorem mem_matchedRules_iff {workUnit : WorkUnit}
    {rules matched : List PolicyRule}
    (evaluated : matchedRules workUnit rules = .ok matched)
    (rule : PolicyRule) :
    rule ∈ matched ↔ rule ∈ rules ∧ RuleMatches workUnit rule := by
  induction rules generalizing matched with
  | nil =>
      cases evaluated
      simp
  | cons head rest ih =>
      cases hit : matchesAll workUnit head.matchClauses with
      | error error => simp [matchedRules, hit, bind, Except.bind] at evaluated
      | ok hits =>
          cases tail : matchedRules workUnit rest with
          | error error =>
              simp [matchedRules, hit, tail, bind, Except.bind] at evaluated
          | ok others =>
              simp only [matchedRules, hit, tail, bind, Except.bind,
                Except.ok.injEq] at evaluated
              subst evaluated
              have induction := ih tail
              by_cases same : rule = head
              · subst same
                cases hits <;> simp [RuleMatches, hit, induction]
              · cases hits <;> simp [same, induction]

/-- A bundle's decision, from its matched rules and its contract. -/
def bundleDecision (workUnit : WorkUnit) (bundle : PolicyBundle)
    (matched : List PolicyRule) (strict : Contract) : PolicyDecision :=
  let defaults := bundle.defaults
  let baseline := baselinePolicyControls workUnit.kind
  let allowed := matched.flatMap PolicyRule.allowedActions
  let denied := baseline.denied ++ matched.flatMap PolicyRule.deniedActions ++
    defaultDenials defaults strict allowed
  { contract := strict
    allowedActions :=
      sortedSet ((baseline.allowed ++ allowed).filter (· ∉ denied))
    deniedActions := sortedSet denied
    policyBundleId := bundle.name?.getD "policy_bundle"
    reasons := ["policy_bundle_evaluated"]
    matchedRules := (if defaults.isTruthy then ["defaults"] else []) ++
      matched.map fun rule => rule.name.getD "unnamed"
    requiredVerifiers := sortedSet (baseline.requiredVerifiers ++
      matched.flatMap PolicyRule.verifiers)
    cacheDomain := defaults.cacheDomain.getD "tenant_namespace"
    dedupeDomain := defaults.dedupeDomain.getD "tenant"
    modelAllowlist := bundleModels defaults matched
    requireApproval := matched.any PolicyRule.requires }

/-- The two ways a bundle's evaluation returns. -/
theorem evaluateBundle_cases {workUnit : WorkUnit} {requested : Contract}
    {bundle : PolicyBundle} {result : Option PolicyDecision}
    (evaluated : evaluateBundle workUnit requested bundle = .ok result) :
    ∃ matched, matchedRules workUnit bundle.rules = .ok matched ∧
      (result = none ∧ matched = [] ∧ bundle.defaults.isTruthy = false ∨
        ∃ strict,
          bundleContract requested bundle.defaults matched = .ok strict ∧
            result = some (bundleDecision workUnit bundle matched strict)) := by
  unfold evaluateBundle at evaluated
  cases rules : matchedRules workUnit bundle.rules with
  | error error => simp [rules, bind, Except.bind] at evaluated
  | ok matched =>
      refine ⟨matched, rfl, ?_⟩
      simp only [rules, bind, Except.bind, pure, Except.pure] at evaluated
      split at evaluated
      · rename_i empty
        simp only [Bool.and_eq_true, List.isEmpty_iff, Bool.not_eq_true']
          at empty
        cases evaluated
        exact .inl ⟨rfl, empty⟩
      · right
        cases contract :
            bundleContract requested bundle.defaults matched with
        | error error => simp [contract] at evaluated
        | ok strict =>
            refine ⟨strict, rfl, ?_⟩
            simp only [contract, foldl_applyRule] at evaluated
            split at evaluated
            · simp at evaluated
            · cases evaluated
              simp [bundleDecision]

theorem stricter_order_le_iff (left right : Contract) (bound : Nat) :
    (stricter left right).order ≤ bound ↔
      left.order ≤ bound ∨ right.order ≤ bound := by
  unfold stricter
  split <;> omega

theorem foldl_stricter_order_le_iff (first : Contract) (rest : List Contract)
    (bound : Nat) :
    (rest.foldl stricter first).order ≤ bound ↔
      ∃ contract ∈ first :: rest, contract.order ≤ bound := by
  induction rest generalizing first with
  | nil => simp
  | cons next rest ih =>
      rw [List.foldl_cons, ih]
      simp only [List.mem_cons, exists_eq_or_imp, stricter_order_le_iff,
        or_assoc]

/-- The rule names this contract. -/
def NamesContract (rule : PolicyRule) (contract : Contract) : Prop :=
  ∃ name, rule.contractName? = some name ∧
    Contract.ofValue? name = some contract

theorem mem_ruleContracts_iff {rules : List PolicyRule}
    {contracts : List Contract} (evaluated : ruleContracts rules = .ok contracts)
    (contract : Contract) :
    contract ∈ contracts ↔ ∃ rule ∈ rules, NamesContract rule contract := by
  induction rules generalizing contracts with
  | nil =>
      cases evaluated
      simp
  | cons rule rest ih =>
      unfold ruleContracts at evaluated
      cases named : rule.contractName? with
      | none =>
          simp only [named] at evaluated
          simp [ih evaluated, NamesContract, named]
      | some name =>
          simp only [named, contractOf] at evaluated
          cases known : Contract.ofValue? name with
          | none => simp [known, bind, Except.bind] at evaluated
          | some first =>
              cases tail : ruleContracts rest with
              | error error =>
                  simp [known, tail, bind, Except.bind] at evaluated
              | ok others =>
                  simp only [known, tail, bind, Except.bind,
                    Except.ok.injEq] at evaluated
                  subst evaluated
                  simp [ih tail, NamesContract, named, known, eq_comm]

theorem ruleContracts_eq_nil_iff {rules : List PolicyRule}
    {contracts : List Contract}
    (evaluated : ruleContracts rules = .ok contracts) :
    contracts = [] ↔ ∀ rule ∈ rules, rule.contractName? = none := by
  induction rules generalizing contracts with
  | nil =>
      cases evaluated
      simp
  | cons rule rest ih =>
      unfold ruleContracts at evaluated
      cases named : rule.contractName? with
      | none =>
          simp only [named] at evaluated
          simp [ih evaluated, named]
      | some name =>
          simp only [named] at evaluated
          cases known : contractOf name with
          | error error => simp [known, bind, Except.bind] at evaluated
          | ok first =>
              cases tail : ruleContracts rest with
              | error error =>
                  simp [known, tail, bind, Except.bind] at evaluated
              | ok others =>
                  simp only [known, tail, bind, Except.bind,
                    Except.ok.injEq] at evaluated
                  subst evaluated
                  simp [named]

/-- How strict a bundle's contract is: the strictest that a matched rule
names; the default's, or else the requested one, if none names any. -/
theorem bundleContract_order_le_iff {requested strict : Contract}
    {defaults : PolicyDefaults} {matched : List PolicyRule}
    (evaluated : bundleContract requested defaults matched = .ok strict)
    (bound : Nat) :
    strict.order ≤ bound ↔
      (∃ rule ∈ matched, ∃ contract, NamesContract rule contract ∧
          contract.order ≤ bound) ∨
        (∀ rule ∈ matched, rule.contractName? = none) ∧
          ∃ contract, Contract.ofValue?
              (defaults.contract.getD requested.value) = some contract ∧
            contract.order ≤ bound := by
  unfold bundleContract at evaluated
  cases named : ruleContracts matched with
  | error error => simp [named, bind, Except.bind] at evaluated
  | ok contracts =>
      have members := mem_ruleContracts_iff named
      have empty := ruleContracts_eq_nil_iff named
      simp only [named, bind, Except.bind] at evaluated
      cases contracts with
      | nil =>
          have unnamed := empty.mp rfl
          have noneNames : ¬ ∃ rule ∈ matched, ∃ contract,
              NamesContract rule contract ∧ contract.order ≤ bound := by
            rintro ⟨rule, member, contract, ⟨name, same, -⟩, -⟩
            rw [unnamed rule member] at same
            cases same
          simp only [contractOf] at evaluated
          cases known : Contract.ofValue?
              (defaults.contract.getD requested.value) with
          | none => simp [known] at evaluated
          | some contract =>
              simp only [known, Except.ok.injEq] at evaluated
              subst evaluated
              constructor
              · exact fun small => .inr ⟨unnamed, contract, rfl, small⟩
              · rintro (named | ⟨-, other, same, small⟩)
                · exact absurd named noneNames
                · cases same
                  exact small
      | cons first rest =>
          have notAll : ¬ ∀ rule ∈ matched, rule.contractName? = none :=
            fun unnamed => absurd (empty.mpr unnamed) (by simp)
          simp only [Except.ok.injEq] at evaluated
          subst evaluated
          rw [foldl_stricter_order_le_iff]
          simp only [members]
          constructor
          · rintro ⟨contract, ⟨rule, member, names⟩, small⟩
            exact .inl ⟨rule, member, contract, names, small⟩
          · rintro (⟨rule, member, contract, names, small⟩ | ⟨unnamed, -⟩)
            · exact ⟨contract, ⟨rule, member, names⟩, small⟩
            · exact absurd unnamed notAll

/-- The three ways an evaluation returns: the legal hold, a bundle's decision,
or the default. -/
theorem evaluatePolicy_cases {workUnit : WorkUnit}
    {bundle : Option PolicyBundle} {decision : PolicyDecision}
    (evaluated : evaluatePolicy workUnit bundle = .ok decision) :
    legalHold workUnit = true ∧ decision = legalHoldDecision ∨
      legalHold workUnit = false ∧
        ((∃ given matched strict, bundle = some given ∧
            given.isTruthy = true ∧
            matchedRules workUnit given.rules = .ok matched ∧
            bundleContract (requestedContract workUnit) given.defaults matched =
              .ok strict ∧
            decision = bundleDecision workUnit given matched strict) ∨
          decision = defaultDecision workUnit ∧
            ∀ given, bundle = some given → given.isTruthy = true →
              matchedRules workUnit given.rules = .ok [] ∧
                given.defaults.isTruthy = false) := by
  unfold evaluatePolicy at evaluated
  cases held : legalHold workUnit with
  | true =>
      simp only [held, if_true, Except.ok.injEq] at evaluated
      exact .inl ⟨rfl, evaluated.symm⟩
  | false =>
      refine .inr ⟨rfl, ?_⟩
      simp only [held, Bool.false_eq_true, if_false] at evaluated
      cases bundle with
      | none =>
          simp only [Except.ok.injEq] at evaluated
          exact .inr ⟨evaluated.symm, by simp⟩
      | some given =>
          simp only at evaluated
          split at evaluated
          · rename_i truthy
            cases result : evaluateBundle workUnit (requestedContract workUnit)
                given with
            | error error => simp [result, bind, Except.bind] at evaluated
            | ok found =>
                obtain ⟨matched, rules, outcome⟩ := evaluateBundle_cases result
                simp only [result, bind, Except.bind] at evaluated
                rcases outcome with ⟨rfl, rfl, empty⟩ | ⟨strict, contract, rfl⟩
                · simp only [Except.ok.injEq] at evaluated
                  refine .inr ⟨evaluated.symm, ?_⟩
                  rintro other ⟨⟩ -
                  exact ⟨rules, empty⟩
                · simp only [Except.ok.injEq] at evaluated
                  exact .inl ⟨given, matched, strict, rfl, truthy, rules,
                    contract, evaluated.symm⟩
          · rename_i falsy
            simp only [Except.ok.injEq] at evaluated
            refine .inr ⟨evaluated.symm, ?_⟩
            rintro other ⟨⟩ truthy
            exact absurd truthy falsy

theorem modelAllowlist_ne_nil {workUnit : WorkUnit}
    {bundle : Option PolicyBundle} {decision : PolicyDecision}
    (evaluated : evaluatePolicy workUnit bundle = .ok decision) :
    decision.modelAllowlist ≠ [] := by
  obtain ⟨-, rfl⟩ | ⟨-, ⟨given, matched, strict, -, -, -, -, rfl⟩ | ⟨rfl, -⟩⟩ :=
    evaluatePolicy_cases evaluated
  · simp [legalHoldDecision]
  · exact bundleModels_ne_nil given.defaults matched
  · unfold defaultDecision
    split <;> simp [aiDefaultDecision, globalDefaultDecision]

theorem rules_of_not_truthy {bundle : PolicyBundle}
    (falsy : bundle.isTruthy = false) : bundle.rules = [] := by
  simp only [PolicyBundle.isTruthy, Bool.or_eq_false_iff,
    Option.isSome_eq_false_iff, Option.isNone_iff_eq_none] at falsy
  simp [PolicyBundle.rules, falsy.2]

theorem defaults_of_not_truthy {bundle : PolicyBundle}
    (falsy : bundle.isTruthy = false) : bundle.defaults = {} := by
  simp only [PolicyBundle.isTruthy, Bool.or_eq_false_iff,
    Option.isSome_eq_false_iff, Option.isNone_iff_eq_none] at falsy
  simp [PolicyBundle.defaults, falsy.2]

/-- No rule matches when the default decides. -/
theorem not_ruleMatches_of_default {workUnit : WorkUnit}
    {given : PolicyBundle}
    (undecided : given.isTruthy = true →
      matchedRules workUnit given.rules = .ok [] ∧
        given.defaults.isTruthy = false)
    {rule : PolicyRule} (member : rule ∈ given.rules) :
    ¬ RuleMatches workUnit rule := by
  intro hit
  cases truthy : given.isTruthy with
  | false => simp [rules_of_not_truthy truthy] at member
  | true =>
      have listed := (mem_matchedRules_iff (undecided truthy).1 rule).mpr
        ⟨member, hit⟩
      cases listed

theorem PolicyDefaults.eq_empty_of_not_truthy {defaults : PolicyDefaults}
    (falsy : defaults.isTruthy = false) : defaults = {} := by
  cases defaults
  simp_all [PolicyDefaults.isTruthy, PolicyDefaults.fields]

/-- When the default decides, the bundle has no defaults. -/
theorem defaults_of_default {workUnit : WorkUnit} {given : PolicyBundle}
    (undecided : given.isTruthy = true →
      matchedRules workUnit given.rules = .ok [] ∧
        given.defaults.isTruthy = false) :
    given.defaults = {} := by
  cases truthy : given.isTruthy with
  | false => exact defaults_of_not_truthy truthy
  | true => exact PolicyDefaults.eq_empty_of_not_truthy (undecided truthy).2

theorem defaultDenials_subset {defaults : PolicyDefaults} {strict : Contract}
    {explicitlyAllowed : List String} {action : String}
    (member : action ∈ defaultDenials defaults strict explicitlyAllowed) :
    action ∈ ["semantic_cache_lookup", "semantic_summary",
      "approximate_quantization", "cross_tenant_dedupe",
      "cross_tenant_cache"] := by
  simp only [defaultDenials, List.mem_append] at member
  rcases member with ((first | second) | third) | fourth
  · split_ifs at first <;> simp at first ⊢ <;> tauto
  · split_ifs at second <;> simp_all
  · split_ifs at third <;> simp_all
  · split_ifs at fourth <;> simp_all

section BundleDecision

variable (workUnit : WorkUnit) (bundle : PolicyBundle)
variable (matched : List PolicyRule) (strict : Contract)

theorem mem_deniedActions_bundleDecision (action : String) :
    action ∈ (bundleDecision workUnit bundle matched strict).deniedActions ↔
      action ∈ (baselinePolicyControls workUnit.kind).denied ∨
        (∃ rule ∈ matched, action ∈ rule.deniedActions) ∨
          action ∈ defaultDenials bundle.defaults strict
            (matched.flatMap PolicyRule.allowedActions) := by
  simp [bundleDecision]

theorem executable_bundleDecision_iff (action : String) :
    (bundleDecision workUnit bundle matched strict).Executable action ↔
      (action ∈ (baselinePolicyControls workUnit.kind).allowed ∨
          ∃ rule ∈ matched, action ∈ rule.allowedActions) ∧
        action ∉
          (bundleDecision workUnit bundle matched strict).deniedActions := by
  simp only [PolicyDecision.Executable]
  simp only [bundleDecision, mem_sortedSet, List.mem_filter,
    List.mem_append, List.mem_flatMap, decide_eq_true_eq]
  tauto

theorem requireApproval_bundleDecision :
    (bundleDecision workUnit bundle matched strict).requireApproval = true ↔
      ∃ rule ∈ matched, rule.requires = true := by
  simp [bundleDecision]

end BundleDecision

/-! ## What a decision reads -/

/-- The fields of a work unit that a policy reads. -/
structure SamePolicyInputs (left right : WorkUnit) : Prop where
  kind : left.kind = right.kind
  tenant : left.tenant = right.tenant
  nameSpace : left.nameSpace = right.nameSpace
  metadata : left.metadata = right.metadata
  policyContext : left.policyContext = right.policyContext
  requestedContract : left.requestedContract = right.requestedContract

theorem matchesAll_congr {left right : WorkUnit}
    (same : SamePolicyInputs left right) (clauses : List MatchClause) :
    matchesAll left clauses = matchesAll right clauses := by
  induction clauses with
  | nil => rfl
  | cons clause rest ih =>
      have head : clauseMatches left clause = clauseMatches right clause := by
        cases clause <;>
          simp only [clauseMatches, same.kind, same.nameSpace, same.tenant,
            same.metadata]
      simp only [matchesAll, head, ih]

theorem matchedRules_congr {left right : WorkUnit}
    (same : SamePolicyInputs left right) (rules : List PolicyRule) :
    matchedRules left rules = matchedRules right rules := by
  induction rules with
  | nil => rfl
  | cons rule rest ih =>
      simp only [matchedRules, matchesAll_congr same, ih]

/-- A decision reads no other field. -/
theorem evaluatePolicy_congr {left right : WorkUnit}
    (same : SamePolicyInputs left right) (bundle : Option PolicyBundle) :
    evaluatePolicy left bundle = evaluatePolicy right bundle := by
  have requested : requestedContract left = requestedContract right := by
    simp only [requestedContract, same.requestedContract, same.kind]
  have default : defaultDecision left = defaultDecision right := by
    cases left
    cases right
    obtain ⟨⟨⟩, ⟨⟩, ⟨⟩, ⟨⟩, ⟨⟩, ⟨⟩⟩ := same
    rfl
  have held : legalHold left = legalHold right := by
    rw [legalHold, legalHold, same.policyContext]
  have evaluated : ∀ contract bundle, evaluateBundle left contract bundle =
      evaluateBundle right contract bundle := by
    intro contract bundle
    simp only [evaluateBundle, matchedRules_congr same, same.kind]
  unfold evaluatePolicy
  rw [held, default, requested]
  cases bundle with
  | none => rfl
  | some bundle => simp only [evaluated]

end Urp
