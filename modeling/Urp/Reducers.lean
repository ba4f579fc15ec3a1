import Urp.PolicyNaming

/-!
# Advanced reducers

A reducer is enabled by the work unit alone: its kind, its contract, a flag of
its policy context and an accepted verification.  The gate asks neither for a
legal hold nor for the active bundle, so its answer can contradict the policy
decision; the main theorem says which decisions deny an enabled reducer.
-/

namespace Urp

open Python

structure ReducerSpec where
  name : String
  requiredContract : Contract
  policyFlag : String
  requiredVerifier : String
  action : String
  benchmarkSuite : String
  rollback : String
  eligibleKinds : List WorkUnitKind
  enabledByDefault : Bool := false

structure ReducerDecision where
  name : String
  enabled : Bool
  reason : String
  details : Object
  action : String := ""
  requiredVerifier : String := ""
  benchmarkSuite : String := ""
  rollback : String := ""

def advancedReducerSpecs : List (String × ReducerSpec) :=
  [("semantic_cache", {
      name := "semantic_cache"
      requiredContract := .semantic
      policyFlag := "allow_semantic_cache"
      requiredVerifier := "source_fingerprint_match"
      action := "semantic_cache_lookup"
      benchmarkSuite := "prompt-cache-v1"
      rollback := "disable allow_semantic_cache and fall back to exact " ++
        "cache/provider call"
      eligibleKinds := [.promptRequest, .ragContextPack] }),
    ("bounded_approximation", {
      name := "bounded_approximation"
      requiredContract := .boundedApprox
      policyFlag := "allow_bounded_approximation"
      requiredVerifier := "error_bound"
      action := "approximate_quantization"
      benchmarkSuite := "advanced-local-v1"
      rollback := "restore exact source manifest and disable " ++
        "allow_bounded_approximation"
      eligibleKinds := [.mediaAsset, .metricSeries, .vectorIndexSegment] }),
    ("lakehouse_optimizer", {
      name := "lakehouse_optimizer"
      requiredContract := .exactLogical
      policyFlag := "allow_lakehouse_optimization"
      requiredVerifier := "snapshot_equivalence"
      action := "lakehouse_compaction_plan"
      benchmarkSuite := "advanced-local-v1"
      rollback := "restore previous table snapshot pointer and retain " ++
        "compacted files until audit expiry"
      eligibleKinds := [.tableSnapshot, .tableRowGroup, .structuredFile] }),
    ("training_reducer", {
      name := "training_reducer"
      requiredContract := .semantic
      policyFlag := "allow_training_reducer"
      requiredVerifier := "dataset_lineage"
      action := "training_dataset_dedupe"
      benchmarkSuite := "advanced-local-v1"
      rollback := "reconstruct original sample order from duplicate map"
      eligibleKinds := [.trainingDataset, .fineTuneJob] }),
    ("checkpoint_delta", {
      name := "checkpoint_delta"
      requiredContract := .exactBytes
      policyFlag := "allow_checkpoint_delta"
      requiredVerifier := "sha256_restore"
      action := "checkpoint_delta_store"
      benchmarkSuite := "advanced-local-v1"
      rollback := "materialize full checkpoint bytes from base plus delta " ++
        "blocks"
      eligibleKinds := [.modelCheckpoint, .backupSnapshot] }),
    ("distillation", {
      name := "distillation"
      requiredContract := .semantic
      policyFlag := "allow_distillation"
      requiredVerifier := "eval_regression_gate"
      action := "distillation_dataset_build"
      benchmarkSuite := "advanced-local-v1"
      rollback := "route traffic to original model and discard distilled " ++
        "artifact"
      eligibleKinds := [.promptRequest, .evaluationJob, .syntheticDataJob] })]

/-- The verification results: none, the values of a mapping, or an
iterable. -/
inductive Evidence where
  | absent
  | mapping (entries : List (String × VerificationResult))
  | iterable (results : List VerificationResult)

def Evidence.values : Evidence → List VerificationResult
  | absent => []
  | mapping entries => entries.map Prod.snd
  | iterable results => results

/-- `verifier_id.split("@", 1)[0]`. -/
def VerificationResult.base (result : VerificationResult) : String :=
  String.ofList (result.verifierId.toList.takeWhile (· ≠ '@'))

/-- `_verification_map`: of two results of a verifier the last one wins. -/
def verificationMap (evidence : Evidence) : Dict String VerificationResult :=
  .ofList (evidence.values.map fun result => (result.base, result))

def effectiveContract (workUnit : WorkUnit) : Contract :=
  match workUnit.requestedContract with
  | some contract => contract
  | none =>
      if workUnit.kind = .promptRequest ∨
          workUnit.kind = .completionResponse ∨
            workUnit.kind = .trainingDataset then .semantic
      else .exactBytes

namespace ReducerSpec

/-- `_decision`. -/
def decide (spec : ReducerSpec) (enabled : Bool) (reason : String)
    (details : Object) : ReducerDecision where
  name := spec.name
  enabled := enabled
  reason := reason
  details := details
  action := spec.action
  requiredVerifier := spec.requiredVerifier
  benchmarkSuite := spec.benchmarkSuite
  rollback := spec.rollback

/-- `{**base, ...}`. -/
def details (spec : ReducerSpec) (more : List (String × Value)) : Object :=
  .ofList ([("policy_flag", .str spec.policyFlag),
    ("eligible_kinds", texts (spec.eligibleKinds.map WorkUnitKind.value)),
    ("enabled_by_default", .bool spec.enabledByDefault)] ++ more)

end ReducerSpec

def policyGate (workUnit : WorkUnit) (spec : ReducerSpec)
    (evidence : Evidence) : ReducerDecision :=
  if workUnit.kind ∉ spec.eligibleKinds then
    spec.decide false "kind_not_eligible" (spec.details
      [("actual_kind", .str workUnit.kind.value)])
  else if effectiveContract workUnit ≠ spec.requiredContract then
    spec.decide false "contract_not_eligible" (spec.details
      [("required_contract", .str spec.requiredContract.value),
        ("actual_contract", .str (effectiveContract workUnit).value)])
  else if (workUnit.policyContext.get spec.policyFlag).isTrue = false then
    spec.decide false "policy_flag_required" (spec.details
      [("required_flag", .str spec.policyFlag)])
  else
    match (verificationMap evidence).lookup spec.requiredVerifier with
    | none =>
        spec.decide false "accepted_verification_required" (spec.details
          [("required_verifier", .str spec.requiredVerifier)])
    | some verification =>
        if verification.accepted then
          spec.decide true "policy_and_verifier_accepted" (spec.details
            [("verification", verification.toDict.toValue),
              ("rollback_required", .bool true)])
        else
          spec.decide false "verifier_failed" (spec.details
            [("required_verifier", .str spec.requiredVerifier),
              ("verification", verification.toDict.toValue)])

def evaluateReducer (workUnit : WorkUnit) (reducerName : String)
    (evidence : Evidence) : Except PyException ReducerDecision :=
  match advancedReducerSpecs.lookup reducerName with
  | none => .error (.keyError reducerName)
  | some spec => .ok (policyGate workUnit spec evidence)

/-! ## What the gate asks for -/

/-- The work unit opts into the reducer. -/
structure OptsInto (workUnit : WorkUnit) (spec : ReducerSpec) : Prop where
  kind : workUnit.kind ∈ spec.eligibleKinds
  contract : effectiveContract workUnit = spec.requiredContract
  flag : (workUnit.policyContext.get spec.policyFlag).isTrue = true

theorem enabled_policyGate_iff {workUnit : WorkUnit} {spec : ReducerSpec}
    {evidence : Evidence} :
    (policyGate workUnit spec evidence).enabled = true ↔
      OptsInto workUnit spec ∧ ∃ verification,
        (verificationMap evidence).lookup spec.requiredVerifier = some verification ∧
          verification.accepted = true := by
  unfold policyGate
  by_cases kind : workUnit.kind ∈ spec.eligibleKinds
  · by_cases contract : effectiveContract workUnit = spec.requiredContract
    · cases flag : (workUnit.policyContext.get spec.policyFlag).isTrue with
      | false =>
          simp only [kind, contract, not_true, ne_eq, if_false, if_true]
          refine iff_of_false Bool.false_ne_true fun enabled => ?_
          have opted := enabled.1.flag
          rw [flag] at opted
          cases opted
      | true =>
          have opted : OptsInto workUnit spec := ⟨kind, contract, flag⟩
          simp only [kind, contract, not_true, ne_eq, if_false, opted, true_and,
            Bool.true_eq_false]
          cases (verificationMap evidence).lookup spec.requiredVerifier with
          | none => simp [ReducerSpec.decide]
          | some verification =>
              cases accepted : verification.accepted with
              | false => simp [ReducerSpec.decide, accepted]
              | true => simp [ReducerSpec.decide, accepted]
    · simp only [kind, contract, not_true, not_false_iff, ne_eq, if_false,
        if_true]
      exact iff_of_false Bool.false_ne_true fun enabled =>
        contract enabled.1.contract
  · simp only [kind, not_false_iff, if_true]
    exact iff_of_false Bool.false_ne_true fun enabled => kind enabled.1.kind

theorem action_policyGate (workUnit : WorkUnit) (spec : ReducerSpec)
    (evidence : Evidence) :
    (policyGate workUnit spec evidence).action = spec.action := by
  unfold policyGate
  iterate 3
    split
    · rfl
  split
  · rfl
  · split <;> rfl

/-- The reducers' actions but the semantic lookup. -/
def otherReducerActions : List String :=
  ["approximate_quantization", "lakehouse_compaction_plan",
    "training_dataset_dedupe", "checkpoint_delta_store",
    "distillation_dataset_build"]

/-- The semantic cache, or a reducer whose action is another one. -/
theorem reducer_cases {name : String} {spec : ReducerSpec}
    (listed : advancedReducerSpecs.lookup name = some spec) :
    (spec.action = "semantic_cache_lookup" ∧
        spec.eligibleKinds = [.promptRequest, .ragContextPack] ∧
        spec.requiredContract = .semantic ∧
        spec.policyFlag = "allow_semantic_cache") ∨
      spec.action ∈ otherReducerActions := by
  obtain ⟨front, back, split, -⟩ := List.lookup_eq_some_iff.mp listed
  have member : (name, spec) ∈ advancedReducerSpecs := by
    rw [split]
    exact List.mem_append_right _ List.mem_cons_self
  simp only [advancedReducerSpecs, List.mem_cons, Prod.mk.injEq,
    List.not_mem_nil, or_false] at member
  rcases member with ⟨-, rfl⟩ | ⟨-, rfl⟩ | ⟨-, rfl⟩ | ⟨-, rfl⟩ | ⟨-, rfl⟩ |
    ⟨-, rfl⟩
  · exact .inl ⟨rfl, rfl, rfl, rfl⟩
  all_goals
    right
    decide

/-! ## What the policy leaves to a reducer -/

/-- What keeps a decision from denying the reducer's action: no legal hold
and no context pack for the semantic lookup, no matching rule that denies the
action, and no default denial. -/
structure PolicyLeaves (workUnit : WorkUnit) (bundle : Option PolicyBundle)
    (spec : ReducerSpec) : Prop where
  lookup : spec.action = "semantic_cache_lookup" →
    legalHold workUnit = false ∧ workUnit.kind = .promptRequest
  rules : legalHold workUnit = false → ∀ given, bundle = some given →
    ∀ rule ∈ given.rules, RuleMatches workUnit rule →
      spec.action ∉ rule.deniedActions
  semantic : legalHold workUnit = false → ∀ given, bundle = some given →
    spec.action = "semantic_cache_lookup" →
      given.defaults.semanticReduction = some "deny" →
        StrictestIs workUnit given .semantic ∧
          ∃ rule ∈ given.rules, RuleMatches workUnit rule ∧
            "semantic_cache_lookup" ∈ rule.allowedActions
  approximate : legalHold workUnit = false → ∀ given, bundle = some given →
    spec.action = "approximate_quantization" →
      given.defaults.approximateReduction = some "deny" →
        StrictestIs workUnit given .boundedApprox

theorem approximate_defaultDenials_iff {defaults : PolicyDefaults}
    {strict : Contract} {allowed : List String} :
    "approximate_quantization" ∈ defaultDenials defaults strict allowed ↔
      defaults.approximateReduction = some "deny" ∧
        strict ≠ .boundedApprox := by
  simp only [defaultDenials, List.mem_append]
  constructor
  · rintro (((first | second) | third) | fourth)
    · split_ifs at first
      all_goals exact absurd first (by decide)
    · split_ifs at second with denies
      · exact denies
      · cases second
    · split_ifs at third
      all_goals exact absurd third (by decide)
    · split_ifs at fourth
      all_goals exact absurd fourth (by decide)
  · intro denies
    rw [if_pos denies]
    exact .inl (.inl (.inr List.mem_cons_self))

section Bundle

variable {workUnit : WorkUnit} {given : PolicyBundle} {strict : Contract}
variable {matched : List PolicyRule}

theorem lookup_undenied_iff
    (rules : matchedRules workUnit given.rules = .ok matched)
    (contract : bundleContract (requestedContract workUnit) given.defaults
      matched = .ok strict) :
    "semantic_cache_lookup" ∉ defaultDenials given.defaults strict
        (matched.flatMap PolicyRule.allowedActions) ↔
      (given.defaults.semanticReduction = some "deny" →
        StrictestIs workUnit given .semantic ∧
          ∃ rule ∈ given.rules, RuleMatches workUnit rule ∧
            "semantic_cache_lookup" ∈ rule.allowedActions) := by
  have members := mem_matchedRules_iff rules
  have strictest := strictestIs_bundleContract rules contract
  rw [semanticLookup_defaultDenials_iff, not_and, not_not]
  refine forall_congr' fun _ => and_congr ?_ ?_
  · exact ⟨fun same => same ▸ strictest, strictest.unique⟩
  · simp only [List.mem_flatMap, members, and_assoc]

theorem approximate_undenied_iff {allowed : List String}
    (rules : matchedRules workUnit given.rules = .ok matched)
    (contract : bundleContract (requestedContract workUnit) given.defaults
      matched = .ok strict) :
    "approximate_quantization" ∉ defaultDenials given.defaults strict allowed ↔
      (given.defaults.approximateReduction = some "deny" →
        StrictestIs workUnit given .boundedApprox) := by
  have strictest := strictestIs_bundleContract rules contract
  rw [approximate_defaultDenials_iff, not_and, not_not]
  refine forall_congr' fun _ => ?_
  exact ⟨fun same => same ▸ strictest, strictest.unique⟩

/-- A bundle leaves an action that the kind's baseline leaves, unless a
matching rule or a default denies it. -/
theorem undenied_bundleDecision_iff {action : String}
    (rules : matchedRules workUnit given.rules = .ok matched)
    (contract : bundleContract (requestedContract workUnit) given.defaults
      matched = .ok strict)
    (known : action = "semantic_cache_lookup" ∨ action ∈ otherReducerActions)
    (baseline : action ∉ (baselinePolicyControls workUnit.kind).denied) :
    action ∉ (bundleDecision workUnit given matched strict).deniedActions ↔
      (∀ rule ∈ given.rules, RuleMatches workUnit rule →
        action ∉ rule.deniedActions) ∧
      (action = "semantic_cache_lookup" →
        given.defaults.semanticReduction = some "deny" →
          StrictestIs workUnit given .semantic ∧
            ∃ rule ∈ given.rules, RuleMatches workUnit rule ∧
              "semantic_cache_lookup" ∈ rule.allowedActions) ∧
      (action = "approximate_quantization" →
        given.defaults.approximateReduction = some "deny" →
          StrictestIs workUnit given .boundedApprox) := by
  have members := mem_matchedRules_iff rules
  rw [mem_deniedActions_bundleDecision, not_or, not_or]
  simp only [baseline, not_false_iff, true_and]
  refine and_congr ?_ ?_
  · simp only [not_exists, not_and, members, and_imp]
  · rcases known with rfl | other
    · rw [lookup_undenied_iff rules contract]
      simp
    · have notLookup : action ≠ "semantic_cache_lookup" := by
        rintro rfl
        revert other
        decide
      by_cases approximate : action = "approximate_quantization"
      · subst approximate
        rw [approximate_undenied_iff rules contract]
        simp
      · have free : action ∉ defaultDenials given.defaults strict
            (matched.flatMap PolicyRule.allowedActions) := by
          intro denied
          have listed := defaultDenials_subset denied
          clear denied baseline members
          revert action
          decide
        simp [free, notLookup, approximate]

end Bundle

theorem other_not_defaultDecision {workUnit : WorkUnit} {action : String}
    (other : action ∈ otherReducerActions) :
    action ∉ (defaultDecision workUnit).deniedActions := by
  intro denied
  have absent : ∀ action ∈ otherReducerActions,
      action ∉ ["cross_tenant_cache", "semantic_summary", "lossy_transcode",
        "delete"] ∧ action ∉ ["semantic_cache_lookup"] ∧
      action ∉ (globalDefaultDecision .exactBytes).deniedActions := by
    decide
  unfold defaultDecision at denied
  split at denied
  · simp only [aiDefaultDecision, List.mem_append] at denied
    rcases denied with listed | lookup
    · exact (absent action other).1 listed
    · split at lookup
      · cases lookup
      · exact (absent action other).2.1 lookup
  · exact (absent action other).2.2 denied

theorem other_not_baseline {kind : WorkUnitKind} {action : String}
    (other : action ∈ otherReducerActions) :
    action ∉ (baselinePolicyControls kind).denied := by
  have absent : ∀ kind, ∀ action ∈ otherReducerActions,
      action ∉ (baselinePolicyControls kind).denied := by
    intro kind
    cases kind <;> decide
  exact absent kind action other

/-- The kinds of the semantic cache: a context pack never looks up. -/
theorem lookup_not_baseline_iff {kind : WorkUnitKind}
    (eligible : kind ∈ [WorkUnitKind.promptRequest, .ragContextPack]) :
    "semantic_cache_lookup" ∉ (baselinePolicyControls kind).denied ↔
      kind = .promptRequest := by
  simp only [List.mem_cons, List.not_mem_nil, or_false] at eligible
  rcases eligible with rfl | rfl <;> decide

theorem lookup_not_defaultDecision_iff {workUnit : WorkUnit}
    (eligible : workUnit.kind ∈ [WorkUnitKind.promptRequest, .ragContextPack])
    (semantic : effectiveContract workUnit = .semantic)
    (allowed : allowSemanticCache workUnit = true) :
    "semantic_cache_lookup" ∉ (defaultDecision workUnit).deniedActions ↔
      workUnit.kind = .promptRequest := by
  simp only [List.mem_cons, List.not_mem_nil, or_false] at eligible
  rcases eligible with prompt | pack
  · refine iff_of_true (semanticLookup_not_denied ⟨?_, ?_, allowed⟩) prompt
    · rw [← semantic]
      unfold requestedContract effectiveContract
      cases workUnit.requestedContract with
      | some contract => rfl
      | none => simp [prompt, WorkUnitKind.isAi]
    · simp [prompt, WorkUnitKind.isText]
  · refine iff_of_false (not_not.mpr ?_) (by simp [pack])
    simp [defaultDecision, pack, WorkUnitKind.isAi, globalDefaultDecision]

/-- An enabled reducer is left by the policy decision exactly when no legal
hold, no kind's baseline, no matching rule and no default denies it. -/
theorem reducer_undenied_iff {workUnit : WorkUnit}
    {bundle : Option PolicyBundle} {name : String} {spec : ReducerSpec}
    {evidence : Evidence} {gate : ReducerDecision} {decision : PolicyDecision}
    (listed : advancedReducerSpecs.lookup name = some spec)
    (gated : evaluateReducer workUnit name evidence = .ok gate)
    (enabled : gate.enabled = true)
    (evaluated : evaluatePolicy workUnit bundle = .ok decision) :
    gate.action ∉ decision.deniedActions ↔
      PolicyLeaves workUnit bundle spec := by
  simp only [evaluateReducer, listed, Except.ok.injEq] at gated
  subst gated
  rw [action_policyGate]
  obtain ⟨opted, -⟩ := enabled_policyGate_iff.mp enabled
  have cases := reducer_cases listed
  have known : spec.action = "semantic_cache_lookup" ∨
      spec.action ∈ otherReducerActions := cases.imp_left And.left
  have notLookup : spec.action ∈ otherReducerActions →
      spec.action ≠ "semantic_cache_lookup" := by
    intro other same
    rw [same] at other
    revert other
    decide
  rcases evaluatePolicy_cases evaluated with ⟨held, rfl⟩ | ⟨free, decided⟩
  · -- A legal hold denies the semantic lookup and no other reducer's action.
    have away : ¬ legalHold workUnit = false := by
      simp [held]
    rcases cases with ⟨lookup, -⟩ | other
    · refine iff_of_false (not_not.mpr ?_) fun leaves =>
        away (leaves.lookup lookup).1
      rw [lookup]
      decide
    · refine iff_of_true ?_ ⟨fun same => absurd same (notLookup other),
        fun free => absurd free away, fun free => absurd free away,
        fun free => absurd free away⟩
      revert other
      generalize spec.action = action
      revert action
      decide
  have eligible : spec.action = "semantic_cache_lookup" →
      workUnit.kind ∈ [WorkUnitKind.promptRequest, .ragContextPack] ∧
        effectiveContract workUnit = .semantic ∧
        allowSemanticCache workUnit = true := by
    intro lookup
    rcases cases with ⟨-, kinds, semantic, flag⟩ | other
    · rw [← kinds, ← semantic, allowSemanticCache, ← flag]
      exact ⟨opted.kind, opted.contract, opted.flag⟩
    · exact absurd lookup (notLookup other)
  rcases decided with
    ⟨given, matched, strict, rfl, -, rules, contract, rfl⟩ | ⟨rfl, undecided⟩
  · by_cases baseline :
        spec.action ∉ (baselinePolicyControls workUnit.kind).denied
    · rw [undenied_bundleDecision_iff rules contract known baseline]
      constructor
      · rintro ⟨undenied, semantic, approximate⟩
        refine ⟨fun lookup => ⟨free, ?_⟩, ?_, ?_, ?_⟩
        · rw [lookup] at baseline
          exact (lookup_not_baseline_iff (eligible lookup).1).mp baseline
        · rintro - other ⟨⟩
          exact undenied
        · rintro - other ⟨⟩
          exact semantic
        · rintro - other ⟨⟩
          exact approximate
      · intro leaves
        exact ⟨leaves.rules free given rfl, leaves.semantic free given rfl,
          leaves.approximate free given rfl⟩
    · refine iff_of_false (fun undenied => baseline fun denied => ?_) ?_
      · exact undenied ((mem_deniedActions_bundleDecision workUnit given
          matched strict spec.action).mpr (.inl denied))
      · intro leaves
        rcases known with lookup | other
        · rw [lookup, lookup_not_baseline_iff (eligible lookup).1] at baseline
          exact baseline (leaves.lookup lookup).2
        · exact baseline (other_not_baseline other)
  · have leaves : (spec.action = "semantic_cache_lookup" →
        workUnit.kind = .promptRequest) → PolicyLeaves workUnit bundle spec := by
      intro prompt
      refine ⟨fun lookup => ⟨free, prompt lookup⟩, ?_, ?_, ?_⟩
      · intro _ given same rule member hit
        exact absurd hit
          (not_ruleMatches_of_default (undecided given same) member)
      · intro _ given same _ denies
        rw [defaults_of_default (undecided given same)] at denies
        cases denies
      · intro _ given same _ denies
        rw [defaults_of_default (undecided given same)] at denies
        cases denies
    rcases known with lookup | other
    · obtain ⟨kind, semantic, allowed⟩ := eligible lookup
      rw [lookup, lookup_not_defaultDecision_iff kind semantic allowed]
      exact ⟨fun prompt => leaves fun _ => prompt,
        fun left => (left.lookup lookup).2⟩
    · exact iff_of_true (other_not_defaultDecision other)
        (leaves fun lookup => absurd lookup (notLookup other))

/-- A prompt that may look up the semantic cache. -/
def cachedPrompt (hold : Bool) : WorkUnit where
  kind := .promptRequest
  tenant := "acme"
  logicalRef := "app://question"
  traceId := "tr_1"
  id := "wu_1"
  createdAt := "2024-01-01T00:00:00+00:00"
  requestedContract := some .semantic
  policyContext := .ofList [("allow_semantic_cache", .bool true),
    ("legal_hold", .bool hold)]

def sourcesMatch : Evidence :=
  .iterable [{
    accepted := true
    verifierId := "source_fingerprint_match@1"
    reason := "sources_match" }]

/-- Without a hold and a bundle the enabled lookup is not denied. -/
theorem reducer_undenied_sample :
    ∃ gate decision,
      evaluateReducer (cachedPrompt false) "semantic_cache" sourcesMatch =
          .ok gate ∧
        gate.enabled = true ∧
        evaluatePolicy (cachedPrompt false) none = .ok decision ∧
        gate.action ∉ decision.deniedActions := by
  have gated : ∃ gate, evaluateReducer (cachedPrompt false) "semantic_cache"
      sourcesMatch = .ok gate ∧ gate.enabled = true :=
    ⟨_, rfl, by decide⟩
  have evaluated : evaluatePolicy (cachedPrompt false) none =
      .ok (defaultDecision (cachedPrompt false)) := rfl
  obtain ⟨gate, gated, enabled⟩ := gated
  refine ⟨gate, _, gated, enabled, evaluated, ?_⟩
  refine (reducer_undenied_iff rfl gated enabled evaluated).mpr
    ⟨?_, ?_, ?_, ?_⟩
  · exact fun _ => ⟨by decide, rfl⟩
  · rintro - given ⟨⟩
  · rintro - given ⟨⟩
  · rintro - given ⟨⟩

/-- Under a legal hold the lookup is enabled and denied. -/
theorem heldReducer_denied :
    ∃ gate decision,
      evaluateReducer (cachedPrompt true) "semantic_cache" sourcesMatch =
          .ok gate ∧
        gate.enabled = true ∧
        evaluatePolicy (cachedPrompt true) none = .ok decision ∧
        gate.action ∈ decision.deniedActions := by
  refine ⟨_, _, rfl, by decide, rfl, by decide⟩

end Urp
