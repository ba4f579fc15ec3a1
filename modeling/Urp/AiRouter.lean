import Urp.Policy
import Urp.Host

/-!
# Model routing

`route_model` picks a model of the allowlist by phrases of the prompt.
-/

namespace Urp

open Python

structure ModelRoute where
  model : String
  reason : String
  fallbackModel : String := "frontier"
  score : ℚ

def highRiskPhrases : List String :=
  ["legal", "medical", "diagnosis", "medication", "financial advice",
    "investment advice", "safety critical", "self-harm", "emergency"]

def structuredWords : List String := ["classify", "label", "extract"]

/-- `wanted if wanted in models else other`. -/
def preferred (wanted other : String) (models : List String) : String :=
  if wanted ∈ models then wanted else other

def routeModel (host : Host) (allowedModels : List String)
    (promptText : String) : Except PyException ModelRoute :=
  match orElse (some allowedModels) ["tiny", "small", "medium", "frontier"] with
  | [] => .error (.valueError "policy model allowlist cannot be empty")
  | first :: rest =>
      let models := first :: rest
      let last := rest.getLastD first
      let text := host.casefold promptText
      if highRiskPhrases.any fun phrase => occursIn phrase text then
        .ok { model := preferred "frontier" last models
              reason := "high_risk_task_uses_strongest_allowed"
              score := 19 / 20 }
      else if structuredWords.any fun word => occursIn word text then
        .ok { model := preferred "small" first models
              reason := "structured_easy_task"
              score := 3 / 4 }
      else
        .ok { model := preferred "medium" last models
              reason := "general_task_default"
              score := 3 / 5 }

/-- A row of `RouteFeedbackStore`. -/
structure RouteFeedback where
  createdAt : String
  workUnitId : String
  tenant : String
  nameSpace : String
  model : String
  reason : String
  score : ℚ
  verifierPassed : Bool

/-- A route stays in a non-empty allowlist. -/
theorem routeModel_mem {host : Host} {models : List String}
    {promptText : String} {route : ModelRoute}
    (routed : routeModel host models promptText = .ok route)
    (nonempty : models ≠ []) : route.model ∈ models := by
  have preferred_mem : ∀ {wanted other : String}, other ∈ models →
      preferred wanted other models ∈ models := by
    intro wanted other member
    unfold preferred
    split
    · assumption
    · exact member
  obtain ⟨first, rest, rfl⟩ := List.exists_cons_of_ne_nil nonempty
  have last_mem : rest.getLastD first ∈ first :: rest := by
    rw [List.getLastD_eq_getLast?]
    cases found : rest.getLast? with
    | none => exact List.mem_cons_self
    | some last =>
        exact List.mem_cons_of_mem _ (List.mem_of_getLast? found)
  simp only [routeModel, orElse] at routed
  split at routed
  · cases routed
    exact preferred_mem last_mem
  · split at routed
    · cases routed
      exact preferred_mem List.mem_cons_self
    · cases routed
      exact preferred_mem last_mem

/-- Every prompt is routed. -/
theorem exists_routeModel (host : Host) (models : List String)
    (promptText : String) :
    ∃ route, routeModel host models promptText = .ok route := by
  have nonempty : orElse (some models)
      ["tiny", "small", "medium", "frontier"] ≠ [] :=
    orElse_ne_nil (by simp)
  obtain ⟨first, rest, same⟩ := List.exists_cons_of_ne_nil nonempty
  unfold routeModel
  rw [same]
  simp only
  split
  · exact ⟨_, rfl⟩
  · split <;> exact ⟨_, rfl⟩

end Urp
