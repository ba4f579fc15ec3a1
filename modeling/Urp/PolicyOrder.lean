import Mathlib.Data.List.Induction
import Mathlib.Data.List.Perm.Basic
import Urp.PolicyStrictness

/-!
# The order of the rules

A bundle's rules are merged by a minimum, by unions and by a disjunction, which
no order changes.  The model allowlist alone is overwritten: the last matching
rule that has one decides.
-/

namespace Urp

open Python Program

/-- The outcomes agree, with actions, verifiers and models taken as sets. -/
structure PolicyDecision.SameOutcome (left right : PolicyDecision) : Prop where
  contract : left.contract = right.contract
  allowed : ∀ action,
    action ∈ left.allowedActions ↔ action ∈ right.allowedActions
  denied : ∀ action,
    action ∈ left.deniedActions ↔ action ∈ right.deniedActions
  verifiers : ∀ verifier,
    verifier ∈ left.requiredVerifiers ↔ verifier ∈ right.requiredVerifiers
  approval : left.requireApproval = right.requireApproval
  models : ∀ model,
    model ∈ left.modelAllowlist ↔ model ∈ right.modelAllowlist

theorem PolicyDecision.SameOutcome.refl (decision : PolicyDecision) :
    decision.SameOutcome decision :=
  ⟨rfl, fun _ => Iff.rfl, fun _ => Iff.rfl, fun _ => Iff.rfl, rfl,
    fun _ => Iff.rfl⟩

/-- The bundle with other rules. -/
def PolicyBundle.withRules (bundle : PolicyBundle) (rules : List PolicyRule) :
    PolicyBundle :=
  { bundle with
    spec := bundle.spec.map fun spec => { spec with rules := some rules } }

/-- The rule's models where it lists any. -/
def PolicyRule.models? (rule : PolicyRule) : Option (List String) :=
  rule.modelAllowlist.filter fun models => models ≠ []

/-- The matching rules that list models list the same ones. -/
def AllowlistsAgree (workUnit : WorkUnit) (bundle : PolicyBundle) : Prop :=
  ∀ first ∈ bundle.rules, ∀ second ∈ bundle.rules,
    RuleMatches workUnit first → RuleMatches workUnit second →
      ∀ left right, first.models? = some left → second.models? = some right →
        ∀ model, model ∈ left ↔ model ∈ right

/-! ## The parts of an evaluation -/

section Parts

variable {workUnit : WorkUnit}

/-- `_matches` where it does not raise. -/
def hits (workUnit : WorkUnit) (rule : PolicyRule) : Bool :=
  match matchesAll workUnit rule.matchClauses with
  | .ok hit => hit
  | .error _ => false

theorem matchedRules_eq_ok_iff {rules matched : List PolicyRule} :
    matchedRules workUnit rules = .ok matched ↔
      (∀ rule ∈ rules, (matchesAll workUnit rule.matchClauses).isOk = true) ∧
        matched = rules.filter (hits workUnit) := by
  induction rules generalizing matched with
  | nil =>
      constructor
      · rintro ⟨⟩
        exact ⟨fun rule none => (nomatch none), rfl⟩
      · rintro ⟨-, rfl⟩
        rfl
  | cons rule rest ih =>
      unfold matchedRules
      constructor
      · intro evaluated
        obtain ⟨hit, found, evaluated⟩ := except_bind_eq_ok_iff.mp evaluated
        obtain ⟨others, tail, evaluated⟩ := except_bind_eq_ok_iff.mp evaluated
        obtain ⟨returned, rfl⟩ := ih.mp tail
        cases evaluated
        have same : hits workUnit rule = hit := by
          rw [hits, found]
        refine ⟨List.forall_mem_cons.mpr ⟨by rw [found]; rfl, returned⟩, ?_⟩
        rw [List.filter_cons, same]
      · rintro ⟨returned, rfl⟩
        obtain ⟨own, others⟩ := List.forall_mem_cons.mp returned
        cases found : matchesAll workUnit rule.matchClauses with
        | error error =>
            rw [found] at own
            cases own
        | ok hit =>
            have same : hits workUnit rule = hit := by
              rw [hits, found]
            have tail := ih.mpr ⟨others, rfl⟩
            rw [except_bind_eq_ok_iff]
            refine ⟨hit, rfl, ?_⟩
            rw [except_bind_eq_ok_iff]
            refine ⟨_, tail, ?_⟩
            rw [List.filter_cons, same]

/-- The rules that match are found in every order. -/
theorem matchedRules_of_perm {rules permuted matched : List PolicyRule}
    (evaluated : matchedRules workUnit rules = .ok matched)
    (perm : permuted.Perm rules) :
    matchedRules workUnit permuted =
        .ok (permuted.filter (hits workUnit)) ∧
      (permuted.filter (hits workUnit)).Perm matched := by
  obtain ⟨returned, rfl⟩ := matchedRules_eq_ok_iff.mp evaluated
  refine ⟨matchedRules_eq_ok_iff.mpr ⟨fun rule member => ?_, rfl⟩,
    perm.filter _⟩
  exact returned rule (perm.mem_iff.mp member)

theorem exists_ruleContracts_iff {rules : List PolicyRule} :
    (∃ contracts, ruleContracts rules = .ok contracts) ↔
      ∀ rule ∈ rules, ∀ name, rule.contractName? = some name →
        ∃ contract, contractOf name = .ok contract := by
  induction rules with
  | nil => exact iff_of_true ⟨[], rfl⟩ fun rule none => (nomatch none)
  | cons rule rest ih =>
      rw [List.forall_mem_cons, ← ih, ruleContracts]
      cases named : rule.contractName? with
      | none => simp
      | some name =>
          constructor
          · rintro ⟨contracts, evaluated⟩
            obtain ⟨contract, known, evaluated⟩ :=
              except_bind_eq_ok_iff.mp evaluated
            obtain ⟨others, tail, -⟩ := except_bind_eq_ok_iff.mp evaluated
            refine ⟨?_, others, tail⟩
            rintro other ⟨⟩
            exact ⟨contract, known⟩
          · rintro ⟨own, others, tail⟩
            obtain ⟨contract, known⟩ := own name rfl
            exact ⟨contract :: others, except_bind_eq_ok_iff.mpr
              ⟨contract, known, except_bind_eq_ok_iff.mpr
                ⟨others, tail, rfl⟩⟩⟩

/-- A bundle has a contract where its matched rules name contracts; without a
name the default counts. -/
theorem exists_bundleContract_iff {requested : Contract}
    {defaults : PolicyDefaults} {matched : List PolicyRule} :
    (∃ strict, bundleContract requested defaults matched = .ok strict) ↔
      (∀ rule ∈ matched, ∀ name, rule.contractName? = some name →
        ∃ contract, contractOf name = .ok contract) ∧
      ((∀ rule ∈ matched, rule.contractName? = none) →
        ∃ contract, contractOf (defaults.contract.getD requested.value) =
          .ok contract) := by
  rw [← exists_ruleContracts_iff]
  unfold bundleContract
  constructor
  · rintro ⟨strict, evaluated⟩
    obtain ⟨contracts, named, evaluated⟩ := except_bind_eq_ok_iff.mp evaluated
    refine ⟨⟨contracts, named⟩, fun unnamed => ?_⟩
    rw [(ruleContracts_eq_nil_iff named).mpr unnamed] at evaluated
    exact ⟨strict, evaluated⟩
  · rintro ⟨⟨contracts, named⟩, default⟩
    cases contracts with
    | nil =>
        obtain ⟨strict, known⟩ :=
          default ((ruleContracts_eq_nil_iff named).mp rfl)
        exact ⟨strict, except_bind_eq_ok_iff.mpr ⟨[], named, known⟩⟩
    | cons first rest =>
        exact ⟨_, except_bind_eq_ok_iff.mpr ⟨first :: rest, named, rfl⟩⟩

/-- The contract is the same in every order. -/
theorem bundleContract_of_perm {requested strict : Contract}
    {defaults : PolicyDefaults} {matched permuted : List PolicyRule}
    (evaluated : bundleContract requested defaults matched = .ok strict)
    (perm : permuted.Perm matched) :
    bundleContract requested defaults permuted = .ok strict := by
  have members : ∀ {holds : PolicyRule → Prop},
      (∀ rule ∈ permuted, holds rule) ↔ ∀ rule ∈ matched, holds rule :=
    forall_congr' fun rule => by rw [perm.mem_iff]
  obtain ⟨other, again⟩ : ∃ other,
      bundleContract requested defaults permuted = .ok other := by
    rw [exists_bundleContract_iff, members, members,
      ← exists_bundleContract_iff]
    exact ⟨strict, evaluated⟩
  have order : ∀ bound, other.order ≤ bound ↔ strict.order ≤ bound := by
    intro bound
    rw [bundleContract_order_le_iff again, members,
      bundleContract_order_le_iff evaluated]
    simp only [perm.mem_iff]
  rw [again, Contract.order_injective (Nat.le_antisymm
    ((order _).mpr (Nat.le_refl _)) ((order _).mp (Nat.le_refl _)))]

theorem orElse_models (rule : PolicyRule) (fallback : List String) :
    orElse rule.modelAllowlist fallback = rule.models?.getD fallback := by
  unfold PolicyRule.models?
  cases rule.modelAllowlist with
  | none => rfl
  | some models => cases models <;> rfl

/-- The models of the last rule that lists any. -/
theorem bundleModels_eq (defaults : PolicyDefaults)
    (matched : List PolicyRule) :
    bundleModels defaults matched =
      ((matched.filterMap PolicyRule.models?).getLast?).getD
        (orElse defaults.modelAllowlist
          ["tiny", "small", "medium", "frontier"]) := by
  unfold bundleModels
  induction matched using List.reverseRecOn with
  | nil => rfl
  | append_singleton rules rule ih =>
      rw [List.foldl_append, ih, List.filterMap_append, List.foldl_cons,
        List.foldl_nil, orElse_models]
      cases listed : rule.models? with
      | none => simp [listed]
      | some models => simp [listed]

theorem evaluateBundle_of_matched {requested : Contract}
    {bundle : PolicyBundle} {matched : List PolicyRule}
    (rules : matchedRules workUnit bundle.rules = .ok matched) :
    evaluateBundle workUnit requested bundle =
      if matched.isEmpty && !bundle.defaults.isTruthy then .ok none
      else (bundleContract requested bundle.defaults matched).map fun strict =>
        some (bundleDecision workUnit bundle matched strict) := by
  simp only [evaluateBundle, rules, bind, Except.bind, pure, Except.pure]
  split
  · rfl
  · cases bundleContract requested bundle.defaults matched with
    | error error => rfl
    | ok strict =>
        simp [foldl_applyRule, bundleDecision, Except.map,
          bundleModels_ne_nil]

/-- A bundle's decision allows what it executes. -/
theorem mem_allowedActions_bundleDecision {bundle : PolicyBundle}
    {matched : List PolicyRule} {strict : Contract} (action : String) :
    action ∈ (bundleDecision workUnit bundle matched strict).allowedActions ↔
      (action ∈ (baselinePolicyControls workUnit.kind).allowed ∨
          ∃ rule ∈ matched, action ∈ rule.allowedActions) ∧
        action ∉
          (bundleDecision workUnit bundle matched strict).deniedActions := by
  simp only [bundleDecision, mem_sortedSet, List.mem_filter,
    List.mem_append, List.mem_flatMap, decide_eq_true_eq]

section Permuted

variable {bundle : PolicyBundle} {permuted : List PolicyRule}

theorem withRules_rules (perm : permuted.Perm bundle.rules) :
    (bundle.withRules permuted).rules = permuted := by
  unfold PolicyBundle.withRules PolicyBundle.rules at *
  cases spec : bundle.spec with
  | none =>
      rw [spec] at perm
      exact perm.eq_nil.symm
  | some spec => rfl

theorem withRules_defaults :
    (bundle.withRules permuted).defaults = bundle.defaults := by
  unfold PolicyBundle.withRules PolicyBundle.defaults
  cases bundle.spec <;> rfl

theorem withRules_isTruthy :
    (bundle.withRules permuted).isTruthy = bundle.isTruthy := by
  unfold PolicyBundle.withRules PolicyBundle.isTruthy
  cases bundle.spec <;> rfl

/-- Decisions of permuted rules can differ in their models alone. -/
theorem sameOutcome_of_perm {matched others : List PolicyRule}
    (perm : others.Perm matched) (strict : Contract)
    (models : ∀ model, model ∈ bundleModels bundle.defaults matched ↔
      model ∈ bundleModels bundle.defaults others) :
    (bundleDecision workUnit bundle matched strict).SameOutcome
      (bundleDecision workUnit (bundle.withRules permuted) others strict) := by
  have lookup : "semantic_cache_lookup" ∈
        matched.flatMap PolicyRule.allowedActions ↔
      "semantic_cache_lookup" ∈ others.flatMap PolicyRule.allowedActions := by
    simp only [List.mem_flatMap, perm.mem_iff]
  have denials : defaultDenials bundle.defaults strict
        (others.flatMap PolicyRule.allowedActions) =
      defaultDenials bundle.defaults strict
        (matched.flatMap PolicyRule.allowedActions) := by
    simp only [defaultDenials, lookup]
  have denied : ∀ action,
      action ∈ (bundleDecision workUnit bundle matched strict).deniedActions ↔
        action ∈ (bundleDecision workUnit (bundle.withRules permuted) others
          strict).deniedActions := by
    intro action
    rw [mem_deniedActions_bundleDecision, mem_deniedActions_bundleDecision,
      withRules_defaults, denials]
    simp only [perm.mem_iff]
  constructor
  · rfl
  · intro action
    rw [mem_allowedActions_bundleDecision, mem_allowedActions_bundleDecision,
      denied]
    simp only [perm.mem_iff]
  · exact denied
  · intro verifier
    simp only [bundleDecision, mem_sortedSet, List.mem_append,
      List.mem_flatMap, perm.mem_iff]
  · rw [Bool.eq_iff_iff, requireApproval_bundleDecision,
      requireApproval_bundleDecision]
    simp only [perm.mem_iff]
  · intro model
    simp only [bundleDecision, withRules_defaults]
    exact models model

theorem evaluatePolicy_of_free (free : legalHold workUnit = false)
    (given : PolicyBundle) :
    evaluatePolicy workUnit (some given) =
      if given.isTruthy then
        (evaluateBundle workUnit (requestedContract workUnit) given).map
          fun decided => decided.getD (defaultDecision workUnit)
      else .ok (defaultDecision workUnit) := by
  simp only [evaluatePolicy, free, Bool.false_eq_true, if_false]
  split
  · cases evaluateBundle workUnit (requestedContract workUnit) given with
    | error error => rfl
    | ok decided => cases decided <;> rfl
  · rfl

/-- What permuted rules decide: the default again, or the bundle's decision
over the permuted rules that match. -/
theorem evaluatePolicy_of_perm {decision : PolicyDecision}
    (free : legalHold workUnit = false)
    (evaluated : evaluatePolicy workUnit (some bundle) = .ok decision)
    (perm : permuted.Perm bundle.rules) :
    bundle.rules.filter (hits workUnit) = [] ∧
        evaluatePolicy workUnit (some (bundle.withRules permuted)) =
          .ok decision ∨
      ∃ strict,
        decision = bundleDecision workUnit bundle
          (bundle.rules.filter (hits workUnit)) strict ∧
        evaluatePolicy workUnit (some (bundle.withRules permuted)) =
          .ok (bundleDecision workUnit (bundle.withRules permuted)
            (permuted.filter (hits workUnit)) strict) := by
  rw [evaluatePolicy_of_free free] at evaluated
  rw [evaluatePolicy_of_free free, withRules_isTruthy]
  by_cases truthy : bundle.isTruthy = true
  · rw [if_pos truthy] at evaluated ⊢
    obtain ⟨matched, rules⟩ : ∃ matched,
        matchedRules workUnit bundle.rules = .ok matched := by
      cases rules : matchedRules workUnit bundle.rules with
      | error error =>
          simp [evaluateBundle, rules, bind, Except.bind, Except.map]
            at evaluated
      | ok matched => exact ⟨matched, rfl⟩
    obtain ⟨again, others⟩ := matchedRules_of_perm rules perm
    obtain ⟨-, rfl⟩ := matchedRules_eq_ok_iff.mp rules
    have empty : (permuted.filter (hits workUnit)).isEmpty =
        (bundle.rules.filter (hits workUnit)).isEmpty := by
      rw [Bool.eq_iff_iff, List.isEmpty_iff, List.isEmpty_iff]
      exact ⟨fun none => (none ▸ others).nil_eq.symm,
        fun none => (none ▸ others).eq_nil⟩
    have listed : matchedRules workUnit (bundle.withRules permuted).rules =
        .ok (permuted.filter (hits workUnit)) := by
      rw [withRules_rules perm, again]
    rw [evaluateBundle_of_matched rules] at evaluated
    rw [evaluateBundle_of_matched listed, withRules_defaults, empty]
    by_cases undecided : ((bundle.rules.filter (hits workUnit)).isEmpty &&
        !bundle.defaults.isTruthy) = true
    · rw [if_pos undecided] at evaluated ⊢
      rw [Bool.and_eq_true, List.isEmpty_iff] at undecided
      exact .inl ⟨undecided.1, evaluated⟩
    · rw [if_neg undecided] at evaluated ⊢
      cases contract : bundleContract (requestedContract workUnit)
          bundle.defaults (bundle.rules.filter (hits workUnit)) with
      | error error =>
          rw [contract] at evaluated
          cases evaluated
      | ok strict =>
          rw [contract] at evaluated
          cases evaluated
          rw [bundleContract_of_perm contract others]
          exact .inr ⟨strict, rfl, rfl⟩
  · rw [if_neg truthy] at evaluated ⊢
    refine .inl ⟨?_, evaluated⟩
    have bare : bundle.spec = none := by
      simp only [PolicyBundle.isTruthy, Bool.or_eq_true, not_or] at truthy
      simpa using truthy.2
    rw [PolicyBundle.rules, bare]
    rfl

end Permuted

theorem hits_iff {rule : PolicyRule} :
    hits workUnit rule = true ↔ RuleMatches workUnit rule := by
  unfold hits RuleMatches
  cases matchesAll workUnit rule.matchClauses with
  | error error => simp
  | ok hit => simp

/-- Some order makes the rule the last one. -/
theorem exists_perm_models {defaults : PolicyDefaults}
    {rules : List PolicyRule} {rule : PolicyRule} {models : List String}
    (member : rule ∈ rules) (hit : RuleMatches workUnit rule)
    (listed : rule.models? = some models) :
    ∃ permuted : List PolicyRule, permuted.Perm rules ∧
      bundleModels defaults (permuted.filter (hits workUnit)) = models := by
  obtain ⟨front, back, rfl⟩ := List.append_of_mem member
  refine ⟨(front ++ back) ++ [rule], ?_, ?_⟩
  · have moved : (rule :: (front ++ back)).Perm (front ++ rule :: back) :=
      List.perm_middle.symm
    exact List.perm_append_comm.trans moved
  · have last : [rule].filter (hits workUnit) = [rule] := by
      rw [List.filter_singleton, hits_iff.mpr hit]
      rfl
    rw [bundleModels_eq, List.filter_append, last, List.filterMap_append,
      List.filterMap_cons_some listed, List.filterMap_nil,
      List.getLast?_append_cons]
    rfl

/-- Allowlists that agree leave the models of every order. -/
theorem mem_bundleModels_of_perm {defaults : PolicyDefaults}
    {matched others : List PolicyRule} (perm : others.Perm matched)
    (agree : ∀ first ∈ matched, ∀ second ∈ matched, ∀ left right,
      first.models? = some left → second.models? = some right →
        ∀ model, model ∈ left ↔ model ∈ right) (model : String) :
    model ∈ bundleModels defaults matched ↔
      model ∈ bundleModels defaults others := by
  have lists := perm.filterMap PolicyRule.models?
  rw [bundleModels_eq, bundleModels_eq]
  cases last : (matched.filterMap PolicyRule.models?).getLast? with
  | none =>
      rw [List.getLast?_eq_none_iff] at last
      rw [last] at lists
      rw [lists.eq_nil]
      rfl
  | some left =>
      cases final : (others.filterMap PolicyRule.models?).getLast? with
      | none =>
          rw [List.getLast?_eq_none_iff] at final
          rw [final] at lists
          rw [lists.nil_eq.symm] at last
          cases last
      | some right =>
          obtain ⟨first, firstIn, firstList⟩ :=
            List.mem_filterMap.mp (List.mem_of_getLast? last)
          obtain ⟨second, secondIn, secondList⟩ :=
            List.mem_filterMap.mp (List.mem_of_getLast? final)
          exact agree first firstIn second (perm.mem_iff.mp secondIn) left
            right firstList secondList model

end Parts

/-- Every order of the rules decides the same exactly under a legal hold or
when the matching rules list the same models. -/
theorem ruleOrder_irrelevant_iff {workUnit : WorkUnit} {bundle : PolicyBundle}
    {decision : PolicyDecision}
    (evaluated : evaluatePolicy workUnit (some bundle) = .ok decision) :
    (∀ permuted : List PolicyRule, permuted.Perm bundle.rules →
        ∃ other,
          evaluatePolicy workUnit (some (bundle.withRules permuted)) =
            .ok other ∧
          decision.SameOutcome other) ↔
      legalHold workUnit = true ∨ AllowlistsAgree workUnit bundle := by
  by_cases held : legalHold workUnit = true
  · refine iff_of_true (fun permuted _ => ?_) (.inl held)
    have decided : ∀ given, evaluatePolicy workUnit given =
        .ok legalHoldDecision := fun given => by
      unfold evaluatePolicy
      rw [if_pos held]
    rw [decided, Except.ok.injEq] at evaluated
    exact ⟨_, decided _, evaluated ▸ .refl _⟩
  have free : legalHold workUnit = false := by
    simpa using held
  constructor
  · intro irrelevant
    -- Either rule can be made the last of the permuted ones.
    have models : ∀ rule ∈ bundle.rules, RuleMatches workUnit rule →
        ∀ list, rule.models? = some list →
          ∀ model, model ∈ decision.modelAllowlist ↔ model ∈ list := by
      intro rule member hit list listed model
      obtain ⟨permuted, perm, last⟩ :=
        @exists_perm_models _ bundle.defaults _ _ _ member hit listed
      obtain ⟨other, again, same⟩ := irrelevant permuted perm
      rcases evaluatePolicy_of_perm free evaluated perm with
        ⟨unmatched, -⟩ | ⟨strict, -, decided⟩
      · have hitting : rule ∈ bundle.rules.filter (hits workUnit) :=
          List.mem_filter.mpr ⟨member, hits_iff.mpr hit⟩
        rw [unmatched] at hitting
        cases hitting
      · rw [decided, Except.ok.injEq] at again
        subst again
        rw [same.models model, ← last]
        simp only [bundleDecision, withRules_defaults]
    refine .inr fun first firstIn second secondIn firstHit secondHit left right
      firstList secondList model => ?_
    exact (models first firstIn firstHit left firstList model).symm.trans
      (models second secondIn secondHit right secondList model)
  · rintro (hold | agree) permuted perm
    · exact absurd hold held
    rcases evaluatePolicy_of_perm free evaluated perm with
      ⟨-, decided⟩ | ⟨strict, rfl, decided⟩
    · exact ⟨decision, decided, .refl _⟩
    refine ⟨_, decided, sameOutcome_of_perm (perm.filter _) strict ?_⟩
    refine mem_bundleModels_of_perm (perm.filter _) ?_
    intro first firstIn second secondIn left right
    have firstHit := List.mem_filter.mp firstIn
    have secondHit := List.mem_filter.mp secondIn
    exact agree first firstHit.1 second secondHit.1
      (hits_iff.mp firstHit.2) (hits_iff.mp secondHit.2) left right

/-- A rule for files that lists one model. -/
def fileModelRule (model : String) : PolicyRule where
  name := some model
  matching := some [.kind "file"]
  modelAllowlist := some [model]

def modelsBundle (models : List String) : PolicyBundle where
  apiVersion := some "urp.dev/v1"
  kind := some "ReductionPolicy"
  metadata := some { name := some "models" }
  spec := some {
    defaults := some { contract := some "exact_bytes" }
    rules := some (models.map fileModelRule) }

/-- Two rules that list the same model can be exchanged. -/
theorem ruleOrder_irrelevant_sample :
    ∃ decision, evaluatePolicy sampleFile
        (some (modelsBundle ["tiny", "tiny"])) = .ok decision ∧
      ∃ other, evaluatePolicy sampleFile
          (some ((modelsBundle ["tiny", "tiny"]).withRules
            (["tiny", "tiny"].map fileModelRule).reverse)) = .ok other ∧
        decision.SameOutcome other := by
  refine ⟨_, rfl, (ruleOrder_irrelevant_iff rfl).mpr (.inr ?_) _
    (List.reverse_perm _)⟩
  have listed : ∀ rule ∈ (modelsBundle ["tiny", "tiny"]).rules,
      rule.models? = some ["tiny"] := by
    intro rule member
    obtain ⟨model, tiny, rfl⟩ := List.mem_map.mp member
    simp only [List.mem_cons, List.not_mem_nil, or_false, or_self] at tiny
    subst tiny
    rfl
  intro first firstIn second secondIn _ _ left right firstList secondList model
  rw [listed first firstIn, Option.some.injEq] at firstList
  rw [listed second secondIn, Option.some.injEq] at secondList
  rw [← firstList, ← secondList]

/-- Of two rules with different models the last one wins. -/
theorem ruleOrder_matters :
    ∃ decision other,
      evaluatePolicy sampleFile
          (some (modelsBundle ["tiny", "frontier"])) = .ok decision ∧
        evaluatePolicy sampleFile
            (some ((modelsBundle ["tiny", "frontier"]).withRules
              [fileModelRule "frontier", fileModelRule "tiny"])) =
          .ok other ∧
        [fileModelRule "frontier", fileModelRule "tiny"].Perm
          (modelsBundle ["tiny", "frontier"]).rules ∧
        decision.modelAllowlist = ["frontier"] ∧
        other.modelAllowlist = ["tiny"] ∧ ¬ decision.SameOutcome other := by
  refine ⟨_, _, rfl, rfl, List.Perm.swap _ _ _, rfl, rfl, ?_⟩
  intro same
  have listed := (same.models "tiny").mpr List.mem_cons_self
  revert listed
  decide

end Urp
