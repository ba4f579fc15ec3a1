import Urp.Policy

/-!
# How strict a decision is

Two comparisons of decisions.  A legal hold replaces the rules by a fixed
decision, so it tightens the decision exactly when no matching rule demands
more than that decision does.  A bundle's contract replaces the requested one,
so the request is kept exactly when the bundle's contract is as strict.
-/

namespace Urp

open Python

/-! ## Legal hold -/

/-- The later decision drops no approval, makes no further action executable
and has no looser contract. -/
structure PolicyDecision.Tightens (later earlier : PolicyDecision) : Prop where
  approval : earlier.requireApproval = true → later.requireApproval = true
  executable : ∀ action, later.Executable action → earlier.Executable action
  contract : later.contract.order ≤ earlier.contract.order

/-- The work unit with `legal_hold` set to `True`. -/
def WorkUnit.underHold (workUnit : WorkUnit) : WorkUnit :=
  { workUnit with
    policyContext := workUnit.policyContext.insert "legal_hold" (.bool true) }

/-- No matching rule requires an approval or denies an action that stays
allowed under a legal hold. -/
def HoldCoversRules (workUnit : WorkUnit) (bundle : Option PolicyBundle) :
    Prop :=
  ∀ given, bundle = some given → ∀ rule ∈ given.rules,
    RuleMatches workUnit rule →
      rule.requires = false ∧
        ∀ action ∈ legalHoldDecision.allowedActions,
          action ∉ rule.deniedActions

theorem legalHold_underHold (workUnit : WorkUnit) :
    legalHold workUnit.underHold = true := by
  simp [legalHold, WorkUnit.underHold, Object.get, Object.getD, Value.isTrue]

theorem evaluatePolicy_underHold (workUnit : WorkUnit)
    (bundle : Option PolicyBundle) :
    evaluatePolicy workUnit.underHold bundle = .ok legalHoldDecision := by
  simp [evaluatePolicy, legalHold_underHold]

theorem legalHold_of_absent {workUnit : WorkUnit}
    (absent : workUnit.policyContext.lookup "legal_hold" = none) :
    legalHold workUnit = false := by
  simp [legalHold, Object.get, Object.getD, absent, Value.isTrue]

/-- The actions of a legal hold are in the baseline of every other kind. -/
theorem heldActions_baseline {kind : WorkUnitKind} (nonAi : kind.isAi = false)
    {action : String} (member : action ∈ legalHoldDecision.allowedActions) :
    action ∈ (baselinePolicyControls kind).allowed ∧
      action ∉ (baselinePolicyControls kind).denied := by
  simp only [WorkUnitKind.isAi, Bool.or_eq_false_iff,
    decide_eq_false_iff_not] at nonAi
  simp only [baselinePolicyControls, nonAi, or_self, if_false]
  revert action
  decide

theorem heldActions_not_defaultDenials {defaults : PolicyDefaults}
    {strict : Contract} {explicitlyAllowed : List String} {action : String}
    (member : action ∈ legalHoldDecision.allowedActions) :
    action ∉ defaultDenials defaults strict explicitlyAllowed := by
  intro denied
  have disjoint : ∀ action ∈ legalHoldDecision.allowedActions,
      action ∉ ["semantic_cache_lookup", "semantic_summary",
        "approximate_quantization", "cross_tenant_dedupe",
        "cross_tenant_cache"] := by decide
  exact disjoint action member (defaultDenials_subset denied)

theorem executable_legalHold_iff (action : String) :
    legalHoldDecision.Executable action ↔
      action ∈ legalHoldDecision.allowedActions := by
  constructor
  · exact fun executable => executable.1
  · intro member
    refine ⟨member, ?_⟩
    revert member action
    decide

theorem tightens_bundleDecision_iff {workUnit : WorkUnit}
    (nonAi : workUnit.kind.isAi = false) (bundle : PolicyBundle)
    (matched : List PolicyRule) (strict : Contract) :
    legalHoldDecision.Tightens
        (bundleDecision workUnit bundle matched strict) ↔
      ∀ rule ∈ matched, rule.requires = false ∧
        ∀ action ∈ legalHoldDecision.allowedActions,
          action ∉ rule.deniedActions := by
  constructor
  · rintro ⟨approval, executable, -⟩ rule member
    constructor
    · by_contra requires
      have dropped := approval ((requireApproval_bundleDecision workUnit bundle
        matched strict).mpr ⟨rule, member, by simpa using requires⟩)
      cases dropped
    · intro action held denied
      have kept := executable action ((executable_legalHold_iff action).mpr held)
      apply kept.2
      rw [mem_deniedActions_bundleDecision]
      exact .inr (.inl ⟨rule, member, denied⟩)
  · intro covered
    constructor
    · intro required
      obtain ⟨rule, member, requires⟩ := (requireApproval_bundleDecision
        workUnit bundle matched strict).mp required
      rw [(covered rule member).1] at requires
      cases requires
    · intro action executable
      have held := executable.1
      have baseline := heldActions_baseline nonAi held
      rw [executable_bundleDecision_iff, mem_deniedActions_bundleDecision]
      refine ⟨.inl baseline.1, ?_⟩
      rintro (denied | ⟨rule, member, denied⟩ | denied)
      · exact baseline.2 denied
      · exact (covered rule member).2 action held denied
      · exact heldActions_not_defaultDenials held denied
    · exact Nat.zero_le _

theorem tightens_defaultDecision {workUnit : WorkUnit}
    (nonAi : workUnit.kind.isAi = false) :
    legalHoldDecision.Tightens (defaultDecision workUnit) := by
  have decision : defaultDecision workUnit =
      globalDefaultDecision (requestedContract workUnit) := by
    simp [defaultDecision, nonAi]
  rw [decision]
  constructor
  · intro required
    cases required
  · intro action executable
    have kept : ∀ action ∈ legalHoldDecision.allowedActions,
        action ∈ (globalDefaultDecision .exactBytes).allowedActions ∧
          action ∉ (globalDefaultDecision .exactBytes).deniedActions := by
      decide
    exact kept action executable.1
  · exact Nat.zero_le _

/-- A legal hold tightens the decision exactly when no matching rule requires
an approval or denies what stays allowed under the hold. -/
theorem legalHold_tightens_iff {workUnit : WorkUnit}
    {bundle : Option PolicyBundle} {free held : PolicyDecision}
    (nonAi : workUnit.kind.isAi = false)
    (absent : workUnit.policyContext.lookup "legal_hold" = none)
    (evaluated : evaluatePolicy workUnit bundle = .ok free)
    (evaluatedHeld : evaluatePolicy workUnit.underHold bundle = .ok held) :
    held.Tightens free ↔ HoldCoversRules workUnit bundle := by
  rw [evaluatePolicy_underHold, Except.ok.injEq] at evaluatedHeld
  subst evaluatedHeld
  rcases evaluatePolicy_cases evaluated with ⟨hold, -⟩ | ⟨-, decided⟩
  · rw [legalHold_of_absent absent] at hold
    cases hold
  rcases decided with
    ⟨given, matched, strict, rfl, -, rules, -, rfl⟩ | ⟨rfl, undecided⟩
  · rw [tightens_bundleDecision_iff nonAi]
    have members := mem_matchedRules_iff rules
    constructor
    · rintro covered other ⟨⟩ rule member hit
      exact covered rule ((members rule).mpr ⟨member, hit⟩)
    · intro covered rule member
      have listed := (members rule).mp member
      exact covered given rfl rule listed.1 listed.2
  · constructor
    · rintro - given same rule member hit
      exact absurd hit (not_ruleMatches_of_default (undecided given same) member)
    · exact fun _ => tightens_defaultDecision nonAi

/-- A file of tenant `acme`. -/
def sampleFile : WorkUnit where
  kind := .file
  tenant := "acme"
  logicalRef := "file://ledger.csv"
  traceId := "tr_1"
  id := "wu_1"
  createdAt := "2024-01-01T00:00:00+00:00"

/-- Every file needs an approval and may not be compressed. -/
def approvalBundle : PolicyBundle where
  apiVersion := some "urp.dev/v1"
  kind := some "ReductionPolicy"
  metadata := some { name := some "default-safe" }
  spec := some {
    defaults := some { contract := some "exact_bytes" }
    rules := some [{
      name := some "files-need-approval"
      matching := some [.kind "file"]
      contract := some "exact_bytes"
      deny := some { transforms := some ["zstd"] }
      requiresApproval := some true }] }

/-- The approval that the rule requires is dropped under a legal hold, and
the compression that it denies becomes executable. -/
theorem legalHold_loosens :
    ∃ free held, evaluatePolicy sampleFile (some approvalBundle) = .ok free ∧
      evaluatePolicy sampleFile.underHold (some approvalBundle) = .ok held ∧
      free.requireApproval = true ∧ held.requireApproval = false ∧
      held.Executable "zstd" ∧ ¬ free.Executable "zstd" ∧
      ¬ held.Tightens free := by
  refine ⟨_, _, rfl, rfl, rfl, rfl, by decide, by decide, ?_⟩
  intro tightens
  have kept := tightens.approval rfl
  cases kept

/-- Without a bundle a legal hold tightens the decision on the same file. -/
theorem legalHold_tightens_sample :
    legalHoldDecision.Tightens (defaultDecision sampleFile) :=
  (legalHold_tightens_iff (by decide) (by decide)
    (rfl : evaluatePolicy sampleFile none = .ok (defaultDecision sampleFile))
    rfl).mpr (by rintro given ⟨⟩)

/-! ## Requested contract -/

/-- The bundle leaves the requested contract or a stricter one: a matching
rule names one as strict, or none names any and the default is as strict. -/
def KeepsRequest (workUnit : WorkUnit) (bundle : Option PolicyBundle)
    (requested : Contract) : Prop :=
  ∀ given, bundle = some given →
    (∃ rule ∈ given.rules, RuleMatches workUnit rule ∧
        ∃ contract, NamesContract rule contract ∧
          contract.order ≤ requested.order) ∨
      (∀ rule ∈ given.rules, RuleMatches workUnit rule →
          rule.contractName? = none) ∧
        ∀ name, given.defaults.contract = some name →
          ∃ contract, Contract.ofValue? name = some contract ∧
            contract.order ≤ requested.order

theorem defaultDecision_contract (workUnit : WorkUnit) :
    (defaultDecision workUnit).contract = requestedContract workUnit := by
  unfold defaultDecision
  split
  · rename_i ai
    exact ai.1.symm
  · rfl

theorem keepsRequest_of_default {workUnit : WorkUnit}
    {bundle : Option PolicyBundle} (requested : Contract)
    (undecided : ∀ given, bundle = some given → given.isTruthy = true →
      matchedRules workUnit given.rules = .ok [] ∧
        given.defaults.isTruthy = false) :
    KeepsRequest workUnit bundle requested := by
  intro given same
  have silent := undecided given same
  refine .inr ⟨fun rule member hit =>
    absurd hit (not_ruleMatches_of_default silent member), ?_⟩
  intro name named
  have unnamed : given.defaults.contract = none := by
    rw [defaults_of_default silent]
  rw [unnamed] at named
  cases named

theorem bundleContract_keeps_iff {workUnit : WorkUnit} {given : PolicyBundle}
    {requested strict : Contract} {matched : List PolicyRule}
    (rules : matchedRules workUnit given.rules = .ok matched)
    (contract : bundleContract requested given.defaults matched =
      .ok strict) :
    strict.order ≤ requested.order ↔
      KeepsRequest workUnit (some given) requested := by
  have members := mem_matchedRules_iff rules
  rw [bundleContract_order_le_iff contract]
  constructor
  · rintro (⟨rule, member, named⟩ | ⟨unnamed, kept⟩) other ⟨⟩
    · have listed := (members rule).mp member
      exact .inl ⟨rule, listed.1, listed.2, named⟩
    · refine .inr ⟨fun rule member hit =>
        unnamed rule ((members rule).mpr ⟨member, hit⟩), ?_⟩
      intro name named
      simpa [named] using kept
  · intro keeps
    rcases keeps given rfl with ⟨rule, member, hit, named⟩ | ⟨unnamed, kept⟩
    · exact .inl ⟨rule, (members rule).mpr ⟨member, hit⟩, named⟩
    · refine .inr ⟨fun rule member => ?_, ?_⟩
      · have listed := (members rule).mp member
        exact unnamed rule listed.1 listed.2
      · cases named : given.defaults.contract with
        | none => exact ⟨requested, by simp, Nat.le_refl _⟩
        | some name => exact kept name named

/-- The decision keeps an explicit request exactly under a legal hold or when
the bundle's contract is as strict. -/
theorem requestedContract_kept_iff {workUnit : WorkUnit}
    {bundle : Option PolicyBundle} {requested : Contract}
    {decision : PolicyDecision}
    (explicit : workUnit.requestedContract = some requested)
    (evaluated : evaluatePolicy workUnit bundle = .ok decision) :
    decision.contract.order ≤ requested.order ↔
      legalHold workUnit = true ∨ KeepsRequest workUnit bundle requested := by
  have same : requestedContract workUnit = requested := by
    simp [requestedContract, explicit]
  rcases evaluatePolicy_cases evaluated with ⟨held, rfl⟩ | ⟨free, decided⟩
  · exact ⟨fun _ => .inl held, fun _ => Nat.zero_le _⟩
  rcases decided with
    ⟨given, matched, strict, rfl, -, rules, contract, rfl⟩ | ⟨rfl, undecided⟩
  · rw [same] at contract
    have keeps := bundleContract_keeps_iff rules contract
    simpa [free, bundleDecision] using keeps
  · rw [defaultDecision_contract, same]
    exact ⟨fun _ => .inr (keepsRequest_of_default requested undecided),
      fun _ => Nat.le_refl _⟩

/-- A bundle that makes everything semantic by default. -/
def semanticBundle : PolicyBundle where
  apiVersion := some "urp.dev/v1"
  kind := some "ReductionPolicy"
  metadata := some { name := some "semantic-default" }
  spec := some {
    defaults := some { contract := some "semantic" }
    rules := some [] }

/-- The default contract of a bundle replaces an explicit request for exact
bytes. -/
theorem requestedContract_loosened :
    ∃ decision,
      evaluatePolicy { sampleFile with requestedContract := some .exactBytes }
          (some semanticBundle) = .ok decision ∧
        decision.contract = .semantic ∧
          ¬ decision.contract.order ≤ Contract.exactBytes.order := by
  refine ⟨_, rfl, rfl, by decide⟩

def semanticRequest : WorkUnit :=
  { sampleFile with requestedContract := some .semantic }

/-- The same bundle keeps a request for a semantic result. -/
theorem requestedContract_kept_sample :
    ∃ decision,
      evaluatePolicy semanticRequest (some semanticBundle) = .ok decision ∧
        decision.contract.order ≤ Contract.semantic.order := by
  have returns : ∃ decision,
      evaluatePolicy semanticRequest (some semanticBundle) = .ok decision :=
    ⟨_, rfl⟩
  obtain ⟨decision, evaluated⟩ := returns
  refine ⟨decision, evaluated,
    (requestedContract_kept_iff rfl evaluated).mpr (.inr ?_)⟩
  rintro given ⟨⟩
  refine .inr ⟨by rintro rule ⟨⟩, ?_⟩
  rintro name ⟨⟩
  exact ⟨.semantic, by decide, Nat.le_refl _⟩

end Urp
