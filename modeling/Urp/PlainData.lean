import Urp.Objects
import Urp.Policy

/-!
# Plain data

JSON values without NaN, the only data that the ledger reads back as it was.
The dictionaries that the program writes for its own records are plain.
-/

namespace Urp

open Python

/-- JSON with distinct keys, no byte string and no NaN. -/
def IsPlain (value : Value) : Prop :=
  value.isJson = true ∧ value.isNanFree = true

@[simp] theorem isPlain_none : IsPlain .none := ⟨rfl, rfl⟩

@[simp] theorem isPlain_str (text : String) : IsPlain (.str text) := ⟨rfl, rfl⟩

@[simp] theorem isPlain_bool (b : Bool) : IsPlain (.bool b) := ⟨rfl, rfl⟩

@[simp] theorem isPlain_int (n : Int) : IsPlain (.int n) := ⟨rfl, rfl⟩

@[simp] theorem isPlain_optionalText (text : Option String) :
    IsPlain (optionalText text) := by
  cases text <;> exact ⟨rfl, rfl⟩

theorem isPlain_list {items : List Value}
    (each : ∀ item ∈ items, IsPlain item) : IsPlain (.list items) := by
  induction items with
  | nil => exact ⟨rfl, rfl⟩
  | cons item rest ih =>
      have head := each item List.mem_cons_self
      have tail := ih fun other member =>
        each other (List.mem_cons_of_mem _ member)
      constructor
      · have json := tail.1
        simp only [Value.isJson] at json
        simp only [Value.isJson, Value.isJsonList, head.1, json, Bool.and_self]
      · have nanFree := tail.2
        simp only [Value.isNanFree] at nanFree
        simp only [Value.isNanFree, Value.isNanFreeList, head.2, nanFree,
          Bool.and_self]

@[simp] theorem isPlain_texts (items : List String) : IsPlain (texts items) := by
  apply isPlain_list
  intro item member
  obtain ⟨text, -, rfl⟩ := List.mem_map.mp member
  exact isPlain_str text

theorem isPlain_dict {entries : List (String × Value)}
    (distinct : (entries.map Prod.fst).Nodup)
    (each : ∀ entry ∈ entries, IsPlain entry.2) : IsPlain (.dict entries) := by
  have json : Value.isJsonEntries entries = true := by
    rw [Value.isJsonEntries_iff]
    exact fun entry member => (each entry member).1
  have nanFree : Value.isNanFreeEntries entries = true := by
    clear distinct json
    induction entries with
    | nil => rfl
    | cons entry rest ih =>
        have head := (each entry List.mem_cons_self).2
        have tail := ih fun other member =>
          each other (List.mem_cons_of_mem _ member)
        obtain ⟨key, value⟩ := entry
        simp only [Value.isNanFreeEntries, head, tail, Bool.and_self]
  constructor
  · simp only [Value.isJson, distinct, json, decide_true, Bool.and_self]
  · simp only [Value.isNanFree, nanFree]

/-- A dictionary of plain values is plain. -/
theorem isPlain_ofList {pairs : List (String × Value)}
    (each : ∀ pair ∈ pairs, IsPlain pair.2) :
    IsPlain (Object.ofList pairs).toValue := by
  apply isPlain_dict (Object.ofList pairs).distinct
  exact fun entry member => each entry (Dict.mem_of_mem_ofList member)

theorem PolicyDecision.isPlain_toDict (decision : PolicyDecision) :
    IsPlain decision.toDict.toValue := by
  apply isPlain_ofList
  simp

theorem VerificationResult.isPlain_toDict {result : VerificationResult}
    (details : IsPlain result.details.toValue) :
    IsPlain result.toDict.toValue := by
  apply isPlain_ofList
  simp [details]

theorem Plan.isPlain_toDict {plan : Plan}
    (expected : IsPlain plan.expected.toValue) : IsPlain plan.toDict := by
  have actions : IsPlain (.list (plan.actions.map PlanAction.toDict)) := by
    apply isPlain_list
    intro item member
    obtain ⟨action, -, rfl⟩ := List.mem_map.mp member
    apply isPlain_dict
    · simp only [List.map_cons, List.map_nil]
      decide
    · simp [isPlain_dict]
  apply isPlain_dict
  · simp only [List.map_cons, List.map_nil]
    decide
  · simp [actions, expected]

end Urp
