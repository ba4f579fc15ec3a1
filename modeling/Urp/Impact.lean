import Mathlib.Tactic.GCongr
import Mathlib.Tactic.Linarith
import Mathlib.Tactic.NormNum
import Mathlib.Tactic.Positivity
import Mathlib.Tactic.Ring
import Urp.Errors
import Urp.Library.Program
import Urp.Python.Value

/-!
# The impact model

`model_impact` before its figures are rounded, in exact arithmetic.  The cache
answers some requests and the context compiler shortens some of the others, so
that what the two save together is a share of the baseline.
-/

namespace Urp

open Python Program

/-! ## Scenarios -/

structure ImpactScenario where
  name : String
  currency : String
  storageGib : ℚ
  storageReductionRate : ℚ
  storageCostPerGibMonth : ℚ
  monthlyDataTransferGib : ℚ
  dataTransferReductionRate : ℚ
  dataTransferCostPerGib : ℚ
  monthlyAiRequests : Int
  averageInputTokens : ℚ
  averageOutputTokens : ℚ
  exactCacheHitRate : ℚ
  contextCompilerCoverage : ℚ
  contextInputReductionRate : ℚ
  aiInputCostPerMillionTokens : ℚ
  aiOutputCostPerMillionTokens : ℚ
  monthlyUrpOperatingCost : ℚ
  implementationCost : ℚ
  analysisHorizonMonths : Int
  energyKwhPerAvoidedModelCall : Option ℚ := none
  gridKgCo2ePerKwh : Option ℚ := none

namespace ImpactScenario

/-- The fields that may not be negative. -/
def quantities (row : ImpactScenario) : List (String × ℚ) :=
  [("storage_gib", row.storageGib),
    ("storage_cost_per_gib_month", row.storageCostPerGibMonth),
    ("monthly_data_transfer_gib", row.monthlyDataTransferGib),
    ("data_transfer_cost_per_gib", row.dataTransferCostPerGib),
    ("average_input_tokens", row.averageInputTokens),
    ("average_output_tokens", row.averageOutputTokens),
    ("ai_input_cost_per_million_tokens", row.aiInputCostPerMillionTokens),
    ("ai_output_cost_per_million_tokens", row.aiOutputCostPerMillionTokens),
    ("monthly_urp_operating_cost", row.monthlyUrpOperatingCost),
    ("implementation_cost", row.implementationCost)]

/-- The fields that lie between 0 and 1. -/
def rates (row : ImpactScenario) : List (String × ℚ) :=
  [("storage_reduction_rate", row.storageReductionRate),
    ("data_transfer_reduction_rate", row.dataTransferReductionRate),
    ("exact_cache_hit_rate", row.exactCacheHitRate),
    ("context_compiler_coverage", row.contextCompilerCoverage),
    ("context_input_reduction_rate", row.contextInputReductionRate)]

/-- `if not passes: raise ImpactModelError(message)`. -/
def require (passes : Bool) (message : String) : Except PyException Unit :=
  if passes then .ok () else .error (.valueError message)

def requireAll (fields : List (String × ℚ)) (passes : ℚ → Bool)
    (message : String) : Except PyException Unit :=
  match fields with
  | [] => .ok ()
  | (fieldName, value) :: rest => do
      require (passes value) (fieldName ++ message)
      requireAll rest passes message

def validate (row : ImpactScenario) : Except PyException Unit := do
  require (strip row.name != "") "scenario name cannot be empty"
  require (strip row.currency != "") "currency cannot be empty"
  requireAll row.quantities (fun value => 0 ≤ value) " must be non-negative"
  requireAll row.rates (fun value => decide (0 ≤ value ∧ value ≤ 1))
    " must be between 0 and 1"
  require (decide (0 ≤ row.monthlyAiRequests))
    "monthly_ai_requests must be non-negative"
  require (decide (0 < row.analysisHorizonMonths))
    "analysis_horizon_months must be positive"
  require (row.energyKwhPerAvoidedModelCall.all fun kwh => decide (0 ≤ kwh))
    "energy_kwh_per_avoided_model_call must be non-negative"
  require (row.gridKgCo2ePerKwh.all fun kg => decide (0 ≤ kg))
    "grid_kg_co2e_per_kwh must be non-negative"
  require (row.gridKgCo2ePerKwh.isNone ||
      row.energyKwhPerAvoidedModelCall.isSome)
    "grid_kg_co2e_per_kwh requires energy_kwh_per_avoided_model_call"

end ImpactScenario

/-! ## The model -/

/-- `numerator / denominator if denominator else 0.0`. -/
def ratio (numerator denominator : ℚ) : ℚ :=
  if denominator = 0 then 0 else numerator / denominator

structure MonthlyBaseline where
  storageCost : ℚ
  dataTransferCost : ℚ
  aiTokenCost : ℚ
  directCost : ℚ
  aiRequests : Int
  inputTokens : ℚ
  outputTokens : ℚ

structure MonthlyAvoidedWork where
  storageGib : ℚ
  dataTransferGib : ℚ
  modelCalls : ℚ
  inputTokens : ℚ
  outputTokens : ℚ
  contextInputTokens : ℚ
  modelCallAvoidanceRate : ℚ
  totalTokenAvoidanceRate : ℚ

structure FinancialImpact where
  monthlyStorageCostAvoided : ℚ
  monthlyDataTransferCostAvoided : ℚ
  monthlyAiCostAvoided : ℚ
  grossMonthlySavings : ℚ
  monthlyUrpOperatingCost : ℚ
  netMonthlySavings : ℚ
  annualizedNetSavings : ℚ
  grossDirectCostReductionRate : ℚ
  implementationCost : ℚ
  paybackMonths : Option ℚ
  analysisHorizonMonths : Int
  horizonNetValue : ℚ
  horizonRoi : Option ℚ

structure EnvironmentalImpact where
  monthlyKwhAvoided : ℚ
  annualKwhAvoided : ℚ
  monthlyKgCo2eAvoided : Option ℚ
  annualKgCo2eAvoided : Option ℚ

/-- The figures of `model_impact`, unrounded. -/
structure Impact where
  monthlyBaseline : MonthlyBaseline
  monthlyAvoidedWork : MonthlyAvoidedWork
  financialImpact : FinancialImpact
  environmentalImpact : Option EnvironmentalImpact

def modelImpact (row : ImpactScenario) : Except PyException Impact := do
  row.validate
  let baselineStorageCost := row.storageGib * row.storageCostPerGibMonth
  let storageGibAvoided := row.storageGib * row.storageReductionRate
  let storageCostAvoided := storageGibAvoided * row.storageCostPerGibMonth
  let baselineTransferCost :=
    row.monthlyDataTransferGib * row.dataTransferCostPerGib
  let transferGibAvoided :=
    row.monthlyDataTransferGib * row.dataTransferReductionRate
  let transferCostAvoided := transferGibAvoided * row.dataTransferCostPerGib
  let baselineInputTokens := row.monthlyAiRequests * row.averageInputTokens
  let baselineOutputTokens := row.monthlyAiRequests * row.averageOutputTokens
  let modelCallsAvoided := row.monthlyAiRequests * row.exactCacheHitRate
  let cachedInputTokensAvoided := modelCallsAvoided * row.averageInputTokens
  let cachedOutputTokensAvoided := modelCallsAvoided * row.averageOutputTokens
  let uncachedRequests := row.monthlyAiRequests - modelCallsAvoided
  let contextInputTokensAvoided := uncachedRequests *
    row.contextCompilerCoverage * row.averageInputTokens *
      row.contextInputReductionRate
  let totalInputTokensAvoided :=
    cachedInputTokensAvoided + contextInputTokensAvoided
  let baselineAiCost :=
    baselineInputTokens / 1000000 * row.aiInputCostPerMillionTokens +
      baselineOutputTokens / 1000000 * row.aiOutputCostPerMillionTokens
  let aiCostAvoided :=
    totalInputTokensAvoided / 1000000 * row.aiInputCostPerMillionTokens +
      cachedOutputTokensAvoided / 1000000 * row.aiOutputCostPerMillionTokens
  let baselineDirectCost :=
    baselineStorageCost + baselineTransferCost + baselineAiCost
  let grossMonthlySavings :=
    storageCostAvoided + transferCostAvoided + aiCostAvoided
  let netMonthlySavings := grossMonthlySavings - row.monthlyUrpOperatingCost
  let horizonNetValue :=
    netMonthlySavings * row.analysisHorizonMonths - row.implementationCost
  let paybackMonths :=
    if 0 < netMonthlySavings then
      some (row.implementationCost / netMonthlySavings)
    else none
  let roi :=
    if 0 < row.implementationCost then
      some (horizonNetValue / row.implementationCost)
    else none
  let energy := row.energyKwhPerAvoidedModelCall.map fun kwh =>
    let monthlyKwhAvoided := modelCallsAvoided * kwh
    { monthlyKwhAvoided
      annualKwhAvoided := monthlyKwhAvoided * 12
      monthlyKgCo2eAvoided :=
        row.gridKgCo2ePerKwh.map fun kg => monthlyKwhAvoided * kg
      annualKgCo2eAvoided :=
        row.gridKgCo2ePerKwh.map fun kg => monthlyKwhAvoided * kg * 12 }
  let baselineTokens := baselineInputTokens + baselineOutputTokens
  let avoidedTokens := totalInputTokensAvoided + cachedOutputTokensAvoided
  return {
    monthlyBaseline := {
      storageCost := baselineStorageCost
      dataTransferCost := baselineTransferCost
      aiTokenCost := baselineAiCost
      directCost := baselineDirectCost
      aiRequests := row.monthlyAiRequests
      inputTokens := baselineInputTokens
      outputTokens := baselineOutputTokens }
    monthlyAvoidedWork := {
      storageGib := storageGibAvoided
      dataTransferGib := transferGibAvoided
      modelCalls := modelCallsAvoided
      inputTokens := totalInputTokensAvoided
      outputTokens := cachedOutputTokensAvoided
      contextInputTokens := contextInputTokensAvoided
      modelCallAvoidanceRate := ratio modelCallsAvoided row.monthlyAiRequests
      totalTokenAvoidanceRate := ratio avoidedTokens baselineTokens }
    financialImpact := {
      monthlyStorageCostAvoided := storageCostAvoided
      monthlyDataTransferCostAvoided := transferCostAvoided
      monthlyAiCostAvoided := aiCostAvoided
      grossMonthlySavings
      monthlyUrpOperatingCost := row.monthlyUrpOperatingCost
      netMonthlySavings
      annualizedNetSavings := netMonthlySavings * 12
      grossDirectCostReductionRate :=
        ratio grossMonthlySavings baselineDirectCost
      implementationCost := row.implementationCost
      paybackMonths
      analysisHorizonMonths := row.analysisHorizonMonths
      horizonNetValue
      horizonRoi := roi }
    environmentalImpact := energy }

/-! ## Valid scenarios -/

namespace ImpactScenario

theorem require_eq_ok_iff {passes : Bool} {message : String} :
    require passes message = .ok () ↔ passes = true := by
  cases passes <;> simp [require]

theorem requireAll_eq_ok_iff {fields : List (String × ℚ)} {passes : ℚ → Bool}
    {message : String} :
    requireAll fields passes message = .ok () ↔
      ∀ field ∈ fields, passes field.2 = true := by
  induction fields with
  | nil => simp [requireAll]
  | cons field rest ih =>
      obtain ⟨fieldName, value⟩ := field
      rw [requireAll, except_bind_eq_ok_iff, List.forall_mem_cons, ← ih]
      constructor
      · intro ⟨_, passed, others⟩
        exact ⟨require_eq_ok_iff.mp passed, others⟩
      · intro ⟨passed, others⟩
        exact ⟨(), require_eq_ok_iff.mpr passed, others⟩

/-- What validation leaves of the quantities and the rates. -/
structure InRange (row : ImpactScenario) : Prop where
  quantities : ∀ field ∈ row.quantities, 0 ≤ field.2
  rates : ∀ field ∈ row.rates, 0 ≤ field.2 ∧ field.2 ≤ 1
  monthlyAiRequests : 0 ≤ row.monthlyAiRequests

theorem inRange_of_validate {row : ImpactScenario}
    (valid : row.validate = .ok ()) : row.InRange := by
  obtain ⟨_, -, valid⟩ := except_bind_eq_ok_iff.mp valid
  obtain ⟨_, -, valid⟩ := except_bind_eq_ok_iff.mp valid
  obtain ⟨_, quantities, valid⟩ := except_bind_eq_ok_iff.mp valid
  obtain ⟨_, rates, valid⟩ := except_bind_eq_ok_iff.mp valid
  obtain ⟨_, requests, -⟩ := except_bind_eq_ok_iff.mp valid
  constructor
  · intro field member
    simpa using requireAll_eq_ok_iff.mp quantities field member
  · intro field member
    simpa using requireAll_eq_ok_iff.mp rates field member
  · simpa using require_eq_ok_iff.mp requests

end ImpactScenario

/-! ## Shares of the baseline -/

section Shares

variable {hit coverage reduction : ℚ}

/-- The share of the input tokens that the cache or the compiler avoids. -/
def avoidedShare (hit coverage reduction : ℚ) : ℚ :=
  hit + (1 - hit) * (coverage * reduction)

theorem avoidedShare_nonneg (hitNonneg : 0 ≤ hit) (hitLe : hit ≤ 1)
    (coverageNonneg : 0 ≤ coverage) (reductionNonneg : 0 ≤ reduction) :
    0 ≤ avoidedShare hit coverage reduction := by
  have missed : 0 ≤ 1 - hit := by linarith
  unfold avoidedShare
  positivity

theorem avoidedShare_le_one (hitLe : hit ≤ 1) (coverageLe : coverage ≤ 1)
    (reductionNonneg : 0 ≤ reduction) (reductionLe : reduction ≤ 1) :
    avoidedShare hit coverage reduction ≤ 1 := by
  have missed : 0 ≤ 1 - hit := by linarith
  have both : coverage * reduction ≤ 1 := by
    calc coverage * reduction ≤ 1 * reduction := by gcongr
      _ ≤ 1 := by linarith
  calc avoidedShare hit coverage reduction
      ≤ hit + (1 - hit) * 1 := by
        unfold avoidedShare
        gcongr
    _ = 1 := by ring

/-- A hit saves at least what the compiler would have saved. -/
theorem avoidedShare_mono {higher : ℚ} (raised : hit ≤ higher)
    (coverageLe : coverage ≤ 1) (reductionNonneg : 0 ≤ reduction)
    (reductionLe : reduction ≤ 1) :
    avoidedShare hit coverage reduction ≤
      avoidedShare higher coverage reduction := by
  have both : coverage * reduction ≤ 1 := by
    calc coverage * reduction ≤ 1 * reduction := by gcongr
      _ ≤ 1 := by linarith
  have gain : 0 ≤ (higher - hit) * (1 - coverage * reduction) := by
    apply mul_nonneg <;> linarith
  unfold avoidedShare
  linarith

theorem share_between {whole share : ℚ} (wholeNonneg : 0 ≤ whole)
    (shareNonneg : 0 ≤ share) (shareLe : share ≤ 1) :
    0 ≤ whole * share ∧ whole * share ≤ whole :=
  ⟨mul_nonneg wholeNonneg shareNonneg,
    mul_le_of_le_one_right wholeNonneg shareLe⟩

theorem ratio_nonneg {part whole : ℚ} (partNonneg : 0 ≤ part)
    (le : part ≤ whole) : 0 ≤ ratio part whole := by
  unfold ratio
  split
  · exact le_refl 0
  · exact div_nonneg partNonneg (partNonneg.trans le)

theorem ratio_le_one {part whole : ℚ} (partNonneg : 0 ≤ part)
    (le : part ≤ whole) : ratio part whole ≤ 1 := by
  unfold ratio
  split
  · exact zero_le_one
  · exact div_le_one_of_le₀ le (partNonneg.trans le)

end Shares

/-! ## Consistency -/

section Model

variable {row : ImpactScenario} {impact : Impact}

/-- The figures in terms of shares of the baseline. -/
structure Impact.SharesOf (row : ImpactScenario) (impact : Impact) : Prop where
  inRange : row.InRange
  baselineInput : impact.monthlyBaseline.inputTokens =
    row.monthlyAiRequests * row.averageInputTokens
  baselineOutput : impact.monthlyBaseline.outputTokens =
    row.monthlyAiRequests * row.averageOutputTokens
  modelCallRate : impact.monthlyAvoidedWork.modelCallAvoidanceRate =
    ratio (row.monthlyAiRequests * row.exactCacheHitRate)
      row.monthlyAiRequests
  inputTokens : impact.monthlyAvoidedWork.inputTokens =
    impact.monthlyBaseline.inputTokens *
      avoidedShare row.exactCacheHitRate row.contextCompilerCoverage
        row.contextInputReductionRate
  outputTokens : impact.monthlyAvoidedWork.outputTokens =
    impact.monthlyBaseline.outputTokens * row.exactCacheHitRate
  tokenRate : impact.monthlyAvoidedWork.totalTokenAvoidanceRate =
    ratio (impact.monthlyAvoidedWork.inputTokens +
        impact.monthlyAvoidedWork.outputTokens)
      (impact.monthlyBaseline.inputTokens +
        impact.monthlyBaseline.outputTokens)
  baselineCost : impact.monthlyBaseline.directCost =
    row.storageGib * row.storageCostPerGibMonth +
      row.monthlyDataTransferGib * row.dataTransferCostPerGib +
      (impact.monthlyBaseline.inputTokens / 1000000 *
          row.aiInputCostPerMillionTokens +
        impact.monthlyBaseline.outputTokens / 1000000 *
          row.aiOutputCostPerMillionTokens)
  aiCost : impact.financialImpact.monthlyAiCostAvoided =
    impact.monthlyAvoidedWork.inputTokens / 1000000 *
        row.aiInputCostPerMillionTokens +
      impact.monthlyAvoidedWork.outputTokens / 1000000 *
        row.aiOutputCostPerMillionTokens
  savings : impact.financialImpact.grossMonthlySavings =
    row.storageGib * row.storageCostPerGibMonth * row.storageReductionRate +
      row.monthlyDataTransferGib * row.dataTransferCostPerGib *
        row.dataTransferReductionRate +
      impact.financialImpact.monthlyAiCostAvoided
  costRate : impact.financialImpact.grossDirectCostReductionRate =
    ratio impact.financialImpact.grossMonthlySavings
      impact.monthlyBaseline.directCost

theorem sharesOf_of_run (run : modelImpact row = .ok impact) :
    impact.SharesOf row := by
  obtain ⟨_, valid, computed⟩ := except_bind_eq_ok_iff.mp run
  cases computed
  constructor
  · exact ImpactScenario.inRange_of_validate valid
  · rfl
  · rfl
  · rfl
  · simp only [avoidedShare]
    ring
  · ring
  · rfl
  · rfl
  · rfl
  · ring
  · rfl

namespace Impact.SharesOf

variable (shares : impact.SharesOf row)

include shares

theorem quantity {value : ℚ} (member : value ∈ row.quantities.map Prod.snd) :
    0 ≤ value := by
  obtain ⟨field, listed, rfl⟩ := List.mem_map.mp member
  exact shares.inRange.quantities field listed

theorem rate {value : ℚ} (member : value ∈ row.rates.map Prod.snd) :
    0 ≤ value ∧ value ≤ 1 := by
  obtain ⟨field, listed, rfl⟩ := List.mem_map.mp member
  exact shares.inRange.rates field listed

theorem requests_nonneg : 0 ≤ (row.monthlyAiRequests : ℚ) :=
  Int.cast_nonneg shares.inRange.monthlyAiRequests

theorem hit : 0 ≤ row.exactCacheHitRate ∧ row.exactCacheHitRate ≤ 1 :=
  shares.rate (by simp [ImpactScenario.rates])

theorem coverage :
    0 ≤ row.contextCompilerCoverage ∧ row.contextCompilerCoverage ≤ 1 :=
  shares.rate (by simp [ImpactScenario.rates])

theorem reduction :
    0 ≤ row.contextInputReductionRate ∧ row.contextInputReductionRate ≤ 1 :=
  shares.rate (by simp [ImpactScenario.rates])

theorem inputPrice : 0 ≤ row.aiInputCostPerMillionTokens :=
  shares.quantity (by simp [ImpactScenario.quantities])

theorem outputPrice : 0 ≤ row.aiOutputCostPerMillionTokens :=
  shares.quantity (by simp [ImpactScenario.quantities])

theorem baselineInput_nonneg : 0 ≤ impact.monthlyBaseline.inputTokens := by
  rw [shares.baselineInput]
  apply mul_nonneg shares.requests_nonneg
  exact shares.quantity (by simp [ImpactScenario.quantities])

theorem baselineOutput_nonneg : 0 ≤ impact.monthlyBaseline.outputTokens := by
  rw [shares.baselineOutput]
  apply mul_nonneg shares.requests_nonneg
  exact shares.quantity (by simp [ImpactScenario.quantities])

theorem inputTokens_between :
    0 ≤ impact.monthlyAvoidedWork.inputTokens ∧
      impact.monthlyAvoidedWork.inputTokens ≤
        impact.monthlyBaseline.inputTokens := by
  rw [shares.inputTokens]
  apply share_between shares.baselineInput_nonneg
  · exact avoidedShare_nonneg shares.hit.1 shares.hit.2 shares.coverage.1
      shares.reduction.1
  · exact avoidedShare_le_one shares.hit.2 shares.coverage.2
      shares.reduction.1 shares.reduction.2

theorem outputTokens_between :
    0 ≤ impact.monthlyAvoidedWork.outputTokens ∧
      impact.monthlyAvoidedWork.outputTokens ≤
        impact.monthlyBaseline.outputTokens := by
  rw [shares.outputTokens]
  exact share_between shares.baselineOutput_nonneg shares.hit.1 shares.hit.2

theorem savings_between :
    0 ≤ impact.financialImpact.grossMonthlySavings ∧
      impact.financialImpact.grossMonthlySavings ≤
        impact.monthlyBaseline.directCost := by
  have storage : 0 ≤ row.storageGib * row.storageCostPerGibMonth := by
    apply mul_nonneg
    · exact shares.quantity (by simp [ImpactScenario.quantities])
    · exact shares.quantity (by simp [ImpactScenario.quantities])
  have transfer :
      0 ≤ row.monthlyDataTransferGib * row.dataTransferCostPerGib := by
    apply mul_nonneg
    · exact shares.quantity (by simp [ImpactScenario.quantities])
    · exact shares.quantity (by simp [ImpactScenario.quantities])
  have storageRate : 0 ≤ row.storageReductionRate ∧
      row.storageReductionRate ≤ 1 :=
    shares.rate (by simp [ImpactScenario.rates])
  have transferRate : 0 ≤ row.dataTransferReductionRate ∧
      row.dataTransferReductionRate ≤ 1 :=
    shares.rate (by simp [ImpactScenario.rates])
  have stored := share_between storage storageRate.1 storageRate.2
  have transferred := share_between transfer transferRate.1 transferRate.2
  have input := shares.inputTokens_between
  have output := shares.outputTokens_between
  have inputPrice := shares.inputPrice
  have outputPrice := shares.outputPrice
  have aiNonneg : 0 ≤ impact.financialImpact.monthlyAiCostAvoided := by
    rw [shares.aiCost]
    have inputNonneg := input.1
    have outputNonneg := output.1
    positivity
  have aiLe : impact.financialImpact.monthlyAiCostAvoided ≤
      impact.monthlyBaseline.inputTokens / 1000000 *
          row.aiInputCostPerMillionTokens +
        impact.monthlyBaseline.outputTokens / 1000000 *
          row.aiOutputCostPerMillionTokens := by
    rw [shares.aiCost]
    gcongr
    · exact input.2
    · exact output.2
  rw [shares.savings, shares.baselineCost]
  constructor <;> linarith

theorem modelCallRate_between :
    0 ≤ impact.monthlyAvoidedWork.modelCallAvoidanceRate ∧
      impact.monthlyAvoidedWork.modelCallAvoidanceRate ≤ 1 := by
  have calls := share_between shares.requests_nonneg shares.hit.1 shares.hit.2
  rw [shares.modelCallRate]
  exact ⟨ratio_nonneg calls.1 calls.2, ratio_le_one calls.1 calls.2⟩

theorem tokenRate_between :
    0 ≤ impact.monthlyAvoidedWork.totalTokenAvoidanceRate ∧
      impact.monthlyAvoidedWork.totalTokenAvoidanceRate ≤ 1 := by
  have input := shares.inputTokens_between
  have output := shares.outputTokens_between
  have nonneg := add_nonneg input.1 output.1
  have le := add_le_add input.2 output.2
  rw [shares.tokenRate]
  exact ⟨ratio_nonneg nonneg le, ratio_le_one nonneg le⟩

theorem costRate_between :
    0 ≤ impact.financialImpact.grossDirectCostReductionRate ∧
      impact.financialImpact.grossDirectCostReductionRate ≤ 1 := by
  have savings := shares.savings_between
  rw [shares.costRate]
  exact ⟨ratio_nonneg savings.1 savings.2, ratio_le_one savings.1 savings.2⟩

/-- More hits avoid no less cost. -/
theorem aiCost_mono {rate : ℚ} {raised : Impact}
    (higher : raised.SharesOf { row with exactCacheHitRate := rate })
    (le : row.exactCacheHitRate ≤ rate) :
    impact.financialImpact.monthlyAiCostAvoided ≤
      raised.financialImpact.monthlyAiCostAvoided := by
  have share := avoidedShare_mono le shares.coverage.2 shares.reduction.1
    shares.reduction.2
  have sameInput : raised.monthlyBaseline.inputTokens =
      impact.monthlyBaseline.inputTokens :=
    higher.baselineInput.trans shares.baselineInput.symm
  have sameOutput : raised.monthlyBaseline.outputTokens =
      impact.monthlyBaseline.outputTokens :=
    higher.baselineOutput.trans shares.baselineOutput.symm
  have inputNonneg := shares.baselineInput_nonneg
  have outputNonneg := shares.baselineOutput_nonneg
  have inputPrice := shares.inputPrice
  have outputPrice := shares.outputPrice
  rw [shares.aiCost, higher.aiCost, shares.inputTokens, higher.inputTokens,
    shares.outputTokens, higher.outputTokens, sameInput, sameOutput]
  gcongr

end Impact.SharesOf

end Model

/-- The avoided work and cost lie within the baseline's, and the rates between
0 and 1. -/
structure Impact.IsConsistent (impact : Impact) : Prop where
  inputTokens : 0 ≤ impact.monthlyAvoidedWork.inputTokens ∧
    impact.monthlyAvoidedWork.inputTokens ≤ impact.monthlyBaseline.inputTokens
  grossMonthlySavings : 0 ≤ impact.financialImpact.grossMonthlySavings ∧
    impact.financialImpact.grossMonthlySavings ≤
      impact.monthlyBaseline.directCost
  modelCallAvoidanceRate :
    0 ≤ impact.monthlyAvoidedWork.modelCallAvoidanceRate ∧
      impact.monthlyAvoidedWork.modelCallAvoidanceRate ≤ 1
  totalTokenAvoidanceRate :
    0 ≤ impact.monthlyAvoidedWork.totalTokenAvoidanceRate ∧
      impact.monthlyAvoidedWork.totalTokenAvoidanceRate ≤ 1
  grossDirectCostReductionRate :
    0 ≤ impact.financialImpact.grossDirectCostReductionRate ∧
      impact.financialImpact.grossDirectCostReductionRate ≤ 1

theorem modelImpact_of_validate {row : ImpactScenario}
    (valid : row.validate = .ok ()) : ∃ impact, modelImpact row = .ok impact :=
  ⟨_, except_bind_eq_ok_iff.mpr ⟨(), valid, rfl⟩⟩

/-- Every valid scenario has a consistent impact, and with a higher hit rate
the avoided cost is no lower. -/
theorem impact_consistent {row : ImpactScenario}
    (valid : row.validate = .ok ()) :
    ∃ impact, modelImpact row = .ok impact ∧ impact.IsConsistent ∧
      ∀ rate raised, row.exactCacheHitRate ≤ rate →
        modelImpact { row with exactCacheHitRate := rate } = .ok raised →
          impact.financialImpact.monthlyAiCostAvoided ≤
            raised.financialImpact.monthlyAiCostAvoided := by
  obtain ⟨impact, run⟩ := modelImpact_of_validate valid
  have shares := sharesOf_of_run run
  refine ⟨impact, run, ?_, ?_⟩
  · exact {
      inputTokens := shares.inputTokens_between
      grossMonthlySavings := shares.savings_between
      modelCallAvoidanceRate := shares.modelCallRate_between
      totalTokenAvoidanceRate := shares.tokenRate_between
      grossDirectCostReductionRate := shares.costRate_between }
  · intro rate raised le rerun
    exact shares.aiCost_mono (sharesOf_of_run rerun) le

/-- A company with 500 GiB and 120000 requests a month. -/
def sampleScenario : ImpactScenario where
  name := "mixed"
  currency := "USD"
  storageGib := 500
  storageReductionRate := 4 / 10
  storageCostPerGibMonth := 2 / 100
  monthlyDataTransferGib := 80
  dataTransferReductionRate := 1 / 4
  dataTransferCostPerGib := 9 / 100
  monthlyAiRequests := 120000
  averageInputTokens := 1800
  averageOutputTokens := 350
  exactCacheHitRate := 9 / 10
  contextCompilerCoverage := 1
  contextInputReductionRate := 8 / 10
  aiInputCostPerMillionTokens := 3
  aiOutputCostPerMillionTokens := 15
  monthlyUrpOperatingCost := 250
  implementationCost := 4000
  analysisHorizonMonths := 12

theorem validate_sampleScenario : sampleScenario.validate = .ok () := by
  have named : (strip "mixed" != "") = true ∧ (strip "USD" != "") = true := by
    decide +kernel
  have quantities : ∀ field ∈ sampleScenario.quantities, 0 ≤ field.2 := by
    simp only [ImpactScenario.quantities, sampleScenario, List.forall_mem_cons]
    norm_num
  have rates : ∀ field ∈ sampleScenario.rates,
      0 ≤ field.2 ∧ field.2 ≤ 1 := by
    simp only [ImpactScenario.rates, sampleScenario, List.forall_mem_cons]
    norm_num
  have nonNegative := @ImpactScenario.requireAll_eq_ok_iff
    sampleScenario.quantities (fun value => 0 ≤ value) " must be non-negative"
  have between := @ImpactScenario.requireAll_eq_ok_iff sampleScenario.rates
    (fun value => decide (0 ≤ value ∧ value ≤ 1)) " must be between 0 and 1"
  unfold ImpactScenario.validate
  rw [nonNegative.mpr (by simpa using quantities),
    between.mpr (by simpa using rates)]
  simp only [sampleScenario, named, ImpactScenario.require]
  rfl

theorem impact_consistent_mixed :
    ∃ impact, modelImpact sampleScenario = .ok impact ∧ impact.IsConsistent ∧
      ∀ rate raised, sampleScenario.exactCacheHitRate ≤ rate →
        modelImpact { sampleScenario with exactCacheHitRate := rate } =
            .ok raised →
          impact.financialImpact.monthlyAiCostAvoided ≤
            raised.financialImpact.monthlyAiCostAvoided :=
  impact_consistent validate_sampleScenario

end Urp
