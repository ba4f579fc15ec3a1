import Urp.PolicyStrictness
import Urp.Planner

/-!
# What a plan may contain

The filter keeps no denied action and drops no mandatory one.  The exact store
that is inserted after it is not filtered.
-/

namespace Urp

open Python Program

/-! ## The filter and the registry -/

/-- The filter keeps an action that it does not refuse. -/
def keeps (decision : PolicyDecision) (mode : Mode) (action : PlanAction) :
    Bool :=
  action.type ∉ decision.deniedActions &&
    (action.type ∈ frameworkActions || action.type ∈ decision.allowedActions ||
      (mode = .shadow && action.type ++ "_shadow" ∈ decision.allowedActions))

theorem filterActions_eq_ok_iff {decision : PolicyDecision} {mode : Mode}
    {actions kept : List PlanAction} :
    filterActions decision mode actions = .ok kept ↔
      (∀ action ∈ actions, action.type ∈ frameworkActions →
        action.type ∉ decision.deniedActions) ∧
      kept = actions.filter (keeps decision mode) := by
  induction actions generalizing kept with
  | nil =>
      constructor
      · intro run
        cases run
        exact ⟨nofun, rfl⟩
      · rintro ⟨-, rfl⟩
        rfl
  | cons action rest ih =>
      rw [List.forall_mem_cons, filterActions]
      by_cases denied : action.type ∈ decision.deniedActions
      · have dropped : keeps decision mode action = false := by
          simp [keeps, denied]
        rw [if_pos denied, List.filter_cons_of_neg (by simp [dropped])]
        by_cases mandatory : action.type ∈ frameworkActions
        · rw [if_pos mandatory]
          constructor
          · intro run
            cases run
          · rintro ⟨⟨first, -⟩, -⟩
            exact (first mandatory denied).elim
        · rw [if_neg mandatory, ih]
          exact ⟨fun ⟨others, same⟩ =>
            ⟨⟨fun member => (mandatory member).elim, others⟩, same⟩,
            fun ⟨⟨_, others⟩, same⟩ => ⟨others, same⟩⟩
      · have kept_iff : keeps decision mode action = true ↔
            (action.type ∈ frameworkActions ∨
              action.type ∈ decision.allowedActions ∨
              (mode = .shadow ∧
                action.type ++ "_shadow" ∈ decision.allowedActions)) := by
          simp [keeps, denied, or_assoc]
        rw [if_neg denied, except_bind_eq_ok_iff]
        by_cases accepted : keeps decision mode action = true
        · rw [List.filter_cons_of_pos accepted]
          simp only [if_pos (kept_iff.mp accepted), ih]
          constructor
          · rintro ⟨later, ⟨others, rfl⟩, same⟩
            cases same
            exact ⟨⟨fun _ => denied, others⟩, rfl⟩
          · rintro ⟨⟨-, others⟩, rfl⟩
            exact ⟨_, ⟨others, rfl⟩, rfl⟩
        · rw [List.filter_cons_of_neg accepted]
          simp only [if_neg fun holds => accepted (kept_iff.mpr holds), ih]
          constructor
          · rintro ⟨later, ⟨others, rfl⟩, same⟩
            cases same
            exact ⟨⟨fun _ => denied, others⟩, rfl⟩
          · rintro ⟨⟨-, others⟩, rfl⟩
            exact ⟨_, ⟨others, rfl⟩, rfl⟩

theorem undenied_of_keeps {decision : PolicyDecision} {mode : Mode}
    {action : PlanAction} (kept : keeps decision mode action = true) :
    action.type ∉ decision.deniedActions := by
  simp only [keeps, Bool.and_eq_true, decide_eq_true_eq] at kept
  exact kept.1

/-- The action is registered for the contract. -/
def IsSupported (contract : Contract) (action : String) : Prop :=
  ∃ contracts, supportedContracts action = some contracts ∧
    contract ∈ contracts

theorem validatePlanActions_eq_ok_iff {contract : Contract}
    {denied : List String} {actions : List PlanAction} :
    validatePlanActions contract denied actions = .ok () ↔
      ∀ action ∈ actions, action.type ∉ denied ∧
        IsSupported contract action.type := by
  induction actions with
  | nil => exact ⟨fun _ => nofun, fun _ => rfl⟩
  | cons action rest ih =>
      rw [List.forall_mem_cons, ← ih, validatePlanActions]
      by_cases refused : action.type ∈ denied
      · rw [if_pos refused]
        exact ⟨nofun, fun holds => (holds.1.1 refused).elim⟩
      · rw [if_neg refused]
        unfold IsSupported
        cases registered : supportedContracts action.type with
        | none => exact ⟨nofun, fun ⟨⟨_, _, found, _⟩, _⟩ => nomatch found⟩
        | some contracts =>
            by_cases supported : contract ∈ contracts
            · simp only [if_pos supported]
              exact ⟨fun run => ⟨⟨refused, contracts, rfl, supported⟩, run⟩,
                And.right⟩
            · simp only [if_neg supported]
              constructor
              · nofun
              · rintro ⟨⟨-, _, ⟨⟩, member⟩, -⟩
                exact (supported member).elim

/-! ## Plans of objects -/

/-- The action that stores the payload, by its classification. -/
def storeAction (classification : Classification) : PlanAction :=
  if classification.likelyEncrypted then
    ⟨"store_exact_ciphertext", true, .low,
      "payload high entropy; exact fallback"⟩
  else ⟨"content_defined_chunk", true, .low, "partial duplicate detection"⟩

/-- The action that may reduce it. -/
def reduceAction (classification : Classification) : PlanAction :=
  if (classification.entropyBitsPerByte.any fun entropy =>
        isBelow entropy (157 / 20)) && !classification.likelyCompressed then
    ⟨"zstd", false, .low, "sample entropy suggests compressibility"⟩
  else
    ⟨"dedupe_only_or_exact_store", true, .low,
      "compression unlikely or unsafe"⟩

def hashAction : PlanAction :=
  ⟨"hash", true, .low, "identity and exact duplicate detection"⟩

def exactStoreAction : PlanAction :=
  ⟨"store_exact_bytes", true, .low, "policy-safe exact fallback"⟩

/-- The two actions that end an object's plan. -/
def closingActions : List PlanAction :=
  [⟨"manifest", true, .low, "record restoration and audit path"⟩,
    ⟨"verify_restore", true, .low, "exact contract requires restore proof"⟩]

theorem objectActions_eq (classification : Classification) :
    objectActions classification =
      hashAction :: storeAction classification :: reduceAction classification ::
        closingActions := rfl

def storageActions : List String :=
  ["content_defined_chunk", "fixed_chunk", "store_exact_ciphertext",
    "store_exact_bytes"]

def mandatoryActions : List String := ["hash", "manifest", "verify_restore"]

/-- No mandatory action is denied. -/
def KeepsMandatory (decision : PolicyDecision) : Prop :=
  ∀ action ∈ mandatoryActions, action ∉ decision.deniedActions

theorem storeAction_cases (classification : Classification) :
    (storeAction classification).type ∈ storageActions ∧
      (storeAction classification).type ∉ frameworkActions := by
  unfold storeAction
  split <;> decide

theorem reduceAction_cases (classification : Classification) :
    (reduceAction classification).type ∉ storageActions ∧
      (reduceAction classification).type ∉ frameworkActions := by
  unfold reduceAction
  split <;> decide

/-- An object's plan before the exact store is inserted. -/
theorem filterActions_object {decision : PolicyDecision} {mode : Mode}
    {classification : Classification} {kept : List PlanAction} :
    filterActions decision mode (objectActions classification) = .ok kept ↔
      KeepsMandatory decision ∧
        kept = hashAction ::
          ([storeAction classification, reduceAction classification].filter
            (keeps decision mode) ++ closingActions) := by
  rw [filterActions_eq_ok_iff, objectActions_eq]
  have mandatory : (∀ action ∈ hashAction :: storeAction classification ::
        reduceAction classification :: closingActions,
      action.type ∈ frameworkActions → action.type ∉ decision.deniedActions) ↔
        KeepsMandatory decision := by
    have store := (storeAction_cases classification).2
    have reduce := (reduceAction_cases classification).2
    simp [KeepsMandatory, mandatoryActions, closingActions, store, reduce]
    simp [hashAction, frameworkActions]
  rw [mandatory]
  apply and_congr_right
  intro undenied
  have always : ∀ action : PlanAction, action.type ∈ mandatoryActions →
      keeps decision mode action = true := by
    intro action member
    have framework : action.type ∈ frameworkActions := by
      revert member
      simp only [mandatoryActions, frameworkActions, List.mem_cons]
      tauto
    simp [keeps, undenied _ member, framework]
  have closing : closingActions.filter (keeps decision mode) =
      closingActions := by
    apply List.filter_eq_self.mpr
    intro action member
    apply always
    revert member
    simp only [closingActions, List.mem_cons, List.not_mem_nil, or_false]
    rintro (rfl | rfl) <;> decide
  have first : keeps decision mode hashAction = true :=
    always hashAction (by decide)
  rw [List.filter_cons_of_pos first]
  have split : storeAction classification :: reduceAction classification ::
      closingActions = [storeAction classification,
        reduceAction classification] ++ closingActions := rfl
  rw [split, List.filter_append, closing]

/-- The exact store is inserted unless the payload's own store was kept. -/
theorem withExactFallback_object (decision : PolicyDecision) (mode : Mode)
    (classification : Classification) :
    withExactFallback (hashAction ::
        ([storeAction classification, reduceAction classification].filter
          (keeps decision mode) ++ closingActions)) =
      hashAction ::
        ((if keeps decision mode (storeAction classification) then []
          else [exactStoreAction]) ++
        ([storeAction classification, reduceAction classification].filter
          (keeps decision mode) ++ closingActions)) := by
  have store := (storeAction_cases classification).1
  have reduce := (reduceAction_cases classification).1
  have others : (closingActions.any fun action =>
      action.type ∈ storageActions) = false := by decide
  have hash : hashAction.type ∉ storageActions := by decide
  have inserted : ∀ first rest, withExactFallback (first :: rest) =
      if (first :: rest).any fun action => action.type ∈ storageActions then
        first :: rest
      else first :: exactStoreAction :: rest := fun _ _ => rfl
  rw [inserted]
  by_cases kept : keeps decision mode (storeAction classification) = true
  · rw [if_pos kept, if_pos]
    · rfl
    · simp [kept, store]
  · rw [if_neg kept, if_neg]
    · rfl
    · rw [List.filter_cons_of_neg kept, List.any_cons, List.any_append, others]
      simp [hash, reduce]

/-! ## Conformance -/

/-- Starts with the hash, and keeps what restores the payload. -/
structure IsExactPlan (actions : List String) : Prop where
  starts : actions.head? = some "hash"
  manifest : "manifest" ∈ actions
  verifies : "verify_restore" ∈ actions
  stores : ∃ action ∈ actions, action ∈ storageActions

structure Plan.Conforms (plan : Plan) (kind : WorkUnitKind)
    (decision : PolicyDecision) : Prop where
  undenied : ∀ action ∈ plan.actionNames, action ∉ decision.deniedActions
  supported : ∀ action ∈ plan.actionNames, IsSupported plan.contract action
  exact : kind ∉ [.promptRequest, .embeddingRequest] →
    IsExactPlan plan.actionNames

section Plans

variable (host : Host) (workUnit : WorkUnit) (mode : Mode)
  (bundle : Option PolicyBundle) (given : Option PolicyDecision)

/-- `policy_decision or evaluate_policy(work_unit, policy_bundle)`. -/
def planDecision : Except PyException PolicyDecision :=
  match given with
  | some decision => .ok decision
  | none => evaluatePolicy workUnit bundle

/-- Whatever plan is returned conforms to its decision. -/
def PlansConform : Prop :=
  ∀ decision plan, planDecision workUnit bundle given = .ok decision →
    planWorkUnit host workUnit mode bundle given = .ok plan →
      plan.Conforms workUnit.kind decision

/-- The planner refuses to plan an object under the decision. -/
def RefusesObject (decision : PolicyDecision) : Prop :=
  (∃ action ∈ mandatoryActions, action ∈ decision.deniedActions) ∨
    decision.contract ∉
      [.exactBytes, .exactLogical, .boundedApprox, .semantic]

/-- The exact store is allowed, or it is not inserted. -/
def FallbackGoverned (decision : PolicyDecision) : Prop :=
  workUnit.kind ∈ [.promptRequest, .embeddingRequest] ∨
    "store_exact_bytes" ∉ decision.deniedActions ∨
    keeps decision mode (storeAction (classify host workUnit)) = true ∨
    RefusesObject decision

variable {host workUnit mode bundle given} {decision : PolicyDecision}
  {plan : Plan}

theorem planWorkUnit_given
    (decided : planDecision workUnit bundle given = .ok decision) :
    planWorkUnit host workUnit mode bundle given =
      planWorkUnit host workUnit mode bundle (some decision) := by
  cases given with
  | some other =>
      cases decided
      rfl
  | none =>
      change evaluatePolicy workUnit bundle = .ok decision at decided
      simp only [planWorkUnit, decided]

/-- The plan of an AI request conforms. -/
theorem conforms_planRequest {classification : Classification}
    {actions : List PlanAction} {expectation : List (String × Value)}
    {fallback : String}
    (ai : workUnit.kind ∈ [.promptRequest, .embeddingRequest])
    (planned : planRequest host workUnit mode classification decision actions
      expectation fallback = .ok plan) :
    plan.Conforms workUnit.kind decision := by
  obtain ⟨kept, filtered, rest⟩ := except_bind_eq_ok_iff.mp planned
  obtain ⟨_, valid, made⟩ := except_bind_eq_ok_iff.mp rest
  cases made
  have accepted := validatePlanActions_eq_ok_iff.mp valid
  refine ⟨?_, ?_, fun object => (object ai).elim⟩
  · intro name member
    obtain ⟨action, own, rfl⟩ := List.mem_map.mp member
    have remains : action ∈ actions.filter (keeps decision mode) :=
      (filterActions_eq_ok_iff.mp filtered).2 ▸ own
    exact undenied_of_keeps (List.mem_filter.mp remains).2
  · intro name member
    obtain ⟨action, own, rfl⟩ := List.mem_map.mp member
    exact (accepted action own).2

/-- The contracts that the object actions support. -/
def exactContracts : List Contract :=
  [.exactBytes, .exactLogical, .boundedApprox, .semantic]

theorem isSupported_exact {contract : Contract} {action : String}
    (exact : action ∈ exactActions) :
    IsSupported contract action ↔ contract ∈ exactContracts := by
  simp [IsSupported, supportedContracts, exact, exactContracts]

/-- The actions of an object's plan. -/
def plannedActions (decision : PolicyDecision) (mode : Mode)
    (classification : Classification) : List PlanAction :=
  hashAction ::
    ((if keeps decision mode (storeAction classification) then []
      else [exactStoreAction]) ++
    ([storeAction classification, reduceAction classification].filter
      (keeps decision mode) ++ closingActions))

theorem mem_plannedActions {classification : Classification}
    {action : PlanAction} :
    action ∈ plannedActions decision mode classification ↔
      action = hashAction ∨ action ∈ closingActions ∨
        (action = exactStoreAction ∧
          keeps decision mode (storeAction classification) = false) ∨
        ((action = storeAction classification ∨
            action = reduceAction classification) ∧
          keeps decision mode action = true) := by
  simp only [plannedActions, List.mem_cons, List.mem_append, List.mem_filter,
    List.not_mem_nil, or_false]
  cases kept : keeps decision mode (storeAction classification) <;>
    simp <;> tauto

theorem exact_of_mem_planned {classification : Classification}
    {action : PlanAction}
    (member : action ∈ plannedActions decision mode classification) :
    action.type ∈ exactActions := by
  have closing : ∀ action ∈ closingActions, action.type ∈ exactActions := by
    decide
  rcases mem_plannedActions.mp member with rfl | last | ⟨rfl, -⟩ |
    ⟨rfl | rfl, -⟩
  · decide
  · exact closing action last
  · decide
  · unfold storeAction
    split <;> decide
  · unfold reduceAction
    split <;> decide

/-- The plan of an object, and when there is one. -/
theorem planWorkUnit_object
    (object : workUnit.kind ∉ [.promptRequest, .embeddingRequest])
    (decided : planDecision workUnit bundle given = .ok decision) :
    planWorkUnit host workUnit mode bundle given = .ok plan ↔
      (KeepsMandatory decision ∧ decision.contract ∈ exactContracts) ∧
        plan = planOf host workUnit mode (classify host workUnit) decision
          (plannedActions decision mode (classify host workUnit)) .low
          [("stored_bytes_reduction_possible",
            .bool !(classify host workUnit).likelyEncrypted)]
          "store_exact_bytes" := by
  let classification := classify host workUnit
  have valid : validatePlanActions decision.contract []
      (plannedActions decision mode classification) = .ok () ↔
        decision.contract ∈ exactContracts := by
    rw [validatePlanActions_eq_ok_iff]
    constructor
    · intro every
      have first := every hashAction (mem_plannedActions.mpr (.inl rfl))
      exact (isSupported_exact (by decide)).mp first.2
    · intro contract action member
      exact ⟨List.not_mem_nil,
        (isSupported_exact (exact_of_mem_planned member)).mpr contract⟩
  have unfolded : planWorkUnit host workUnit mode bundle given = (do
      let filtered ← filterActions decision mode
        (objectActions classification)
      let actions := withExactFallback filtered
      validatePlanActions decision.contract [] actions
      .ok (planOf host workUnit mode classification decision actions .low
        [("stored_bytes_reduction_possible",
          .bool !classification.likelyEncrypted)]
        "store_exact_bytes")) := by
    rw [planWorkUnit_given decided]
    unfold planWorkUnit
    cases kind : workUnit.kind <;> simp [kind] at object ⊢ <;> rfl
  rw [unfolded, except_bind_eq_ok_iff]
  simp only [filterActions_object, except_bind_eq_ok_iff]
  constructor
  · rintro ⟨kept, ⟨mandatory, rfl⟩, _, checked, made⟩
    rw [withExactFallback_object] at checked made
    exact ⟨⟨mandatory, valid.mp checked⟩, (Except.ok.inj made).symm⟩
  · rintro ⟨⟨mandatory, contract⟩, rfl⟩
    refine ⟨_, ⟨mandatory, rfl⟩, (), ?_, ?_⟩
    · rw [withExactFallback_object]
      exact valid.mpr contract
    · rw [withExactFallback_object]
      rfl

/-- An object's plan conforms unless the exact store is inserted and denied. -/
theorem conforms_object (mandatory : KeepsMandatory decision)
    (contract : decision.contract ∈ exactContracts)
    (actions : plan.actions =
      plannedActions decision mode (classify host workUnit))
    (same : plan.contract = decision.contract) :
    plan.Conforms workUnit.kind decision ↔
      "store_exact_bytes" ∉ decision.deniedActions ∨
        keeps decision mode (storeAction (classify host workUnit)) = true := by
  let classification := classify host workUnit
  have named : ∀ action, action ∈ plannedActions decision mode classification →
      action.type ∈ plan.actionNames := by
    intro action member
    rw [Plan.actionNames, actions]
    exact List.mem_map_of_mem member
  constructor
  · intro conforms
    by_contra governed
    obtain ⟨denied, dropped⟩ := not_or.mp governed
    apply denied
    apply conforms.undenied
    apply named exactStoreAction
    exact mem_plannedActions.mpr
      (.inr (.inr (.inl ⟨rfl, by simpa using dropped⟩)))
  · intro governed
    refine ⟨?_, ?_, fun _ => ⟨?_, ?_, ?_, ?_⟩⟩
    · intro name member
      rw [Plan.actionNames, actions] at member
      obtain ⟨action, own, rfl⟩ := List.mem_map.mp member
      rcases mem_plannedActions.mp own with rfl | last | ⟨rfl, dropped⟩ |
        ⟨-, kept⟩
      · exact mandatory _ (by decide)
      · simp only [closingActions, List.mem_cons, List.not_mem_nil, or_false]
          at last
        rcases last with rfl | rfl <;> exact mandatory _ (by decide)
      · rcases governed with undenied | kept
        · exact undenied
        · rw [dropped] at kept
          cases kept
      · exact undenied_of_keeps kept
    · intro name member
      rw [Plan.actionNames, actions] at member
      obtain ⟨action, own, rfl⟩ := List.mem_map.mp member
      rw [same]
      exact (isSupported_exact (exact_of_mem_planned own)).mpr contract
    · rw [Plan.actionNames, actions]
      rfl
    · exact named ⟨"manifest", _, _, _⟩
        (mem_plannedActions.mpr (.inr (.inl List.mem_cons_self)))
    · exact named ⟨"verify_restore", _, _, _⟩ (mem_plannedActions.mpr
        (.inr (.inl (List.mem_cons_of_mem _ List.mem_cons_self))))
    · cases kept : keeps decision mode (storeAction classification) with
      | true =>
          exact ⟨_, named _ (mem_plannedActions.mpr
            (.inr (.inr (.inr ⟨.inl rfl, kept⟩)))),
            (storeAction_cases classification).1⟩
      | false =>
          exact ⟨_, named exactStoreAction (mem_plannedActions.mpr
            (.inr (.inr (.inl ⟨rfl, kept⟩)))), by decide⟩

variable (host workUnit mode bundle given)

/-- A decision that the planner does not refuse gets its plan. -/
theorem exists_plan
    (object : workUnit.kind ∉ [.promptRequest, .embeddingRequest])
    (decided : planDecision workUnit bundle given = .ok decision)
    (mandatory : KeepsMandatory decision)
    (contract : decision.contract ∈ exactContracts) :
    ∃ plan, planWorkUnit host workUnit mode bundle given = .ok plan ∧
      plan.contract = decision.contract ∧ plan.actions =
        plannedActions decision mode (classify host workUnit) :=
  ⟨_, (planWorkUnit_object object decided).mpr ⟨⟨mandatory, contract⟩, rfl⟩,
    rfl, rfl⟩

/-- The plans conform exactly where the exact store is allowed or not
inserted. -/
theorem plansConform_iff :
    PlansConform host workUnit mode bundle given ↔
      ∀ decision, planDecision workUnit bundle given = .ok decision →
        FallbackGoverned host workUnit mode decision := by
  by_cases ai : workUnit.kind ∈ [.promptRequest, .embeddingRequest]
  · refine ⟨fun _ _ _ => .inl ai, fun _ decision plan decided planned => ?_⟩
    rw [planWorkUnit_given decided] at planned
    unfold planWorkUnit at planned
    obtain ⟨_, ⟨⟩, planned⟩ := except_bind_eq_ok_iff.mp planned
    split at planned
    · exact conforms_planRequest ai planned
    · exact conforms_planRequest ai planned
    · rename_i kind embedding prompt
      rcases List.mem_pair.mp ai with request | request
      · exact (prompt request).elim
      · exact (embedding request).elim
  · constructor
    · intro conform decision decided
      by_contra governed
      unfold FallbackGoverned RefusesObject at governed
      simp only [not_or, not_exists, not_and, not_not] at governed
      obtain ⟨-, denied, dropped, mandatory, contract⟩ := governed
      obtain ⟨plan, planned, same, actions⟩ := exists_plan host workUnit mode
        bundle given ai decided mandatory contract
      have conforms := conform decision plan decided planned
      rcases (conforms_object mandatory contract actions same).mp conforms with
        undenied | kept
      · exact undenied denied
      · exact dropped kept
    · intro governed decision plan decided planned
      obtain ⟨⟨mandatory, contract⟩, rfl⟩ :=
        (planWorkUnit_object ai decided).mp planned
      apply (conforms_object mandatory contract rfl rfl).mpr
      rcases governed decision decided with request | undenied | kept |
        ⟨action, member, denied⟩ | unsupported
      · exact (ai request).elim
      · exact .inl undenied
      · exact .inr kept
      · exact (mandatory action member denied).elim
      · exact (unsupported contract).elim

end Plans

/-- A bundle that denies every way to store a file. -/
def storelessBundle : PolicyBundle where
  apiVersion := some "urp.dev/v1"
  kind := some "ReductionPolicy"
  metadata := some { name := some "storeless" }
  spec := some {
    defaults := some { contract := some "exact_bytes" }
    rules := some [{
      name := some "store-nothing"
      matching := some [.kind "file"]
      contract := some "exact_bytes"
      deny := some {
        transforms := some ["content_defined_chunk", "store_exact_bytes"] }
    }] }

/-- The planner plans the exact store that the bundle denies. -/
theorem storelessBundle_plansDenied :
    ∃ decision plan,
      evaluatePolicy sampleFile (some storelessBundle) = .ok decision ∧
        planWorkUnit Host.counting sampleFile .enforce (some storelessBundle)
          none = .ok plan ∧
        "store_exact_bytes" ∈ decision.deniedActions ∧
        "store_exact_bytes" ∈ plan.actionNames ∧
        ¬ PlansConform Host.counting sampleFile .enforce
          (some storelessBundle) none := by
  have decided : ∃ decision,
      evaluatePolicy sampleFile (some storelessBundle) = .ok decision ∧
        "store_exact_bytes" ∈ decision.deniedActions ∧
        "content_defined_chunk" ∈ decision.deniedActions ∧
        (∀ action ∈ mandatoryActions, action ∉ decision.deniedActions) ∧
        decision.contract ∈ exactContracts :=
    ⟨_, rfl, by decide, by decide, by decide, by decide⟩
  obtain ⟨decision, evaluated, denied, chunkless, mandatory, contract⟩ := decided
  obtain ⟨plan, planned, -, actions⟩ := exists_plan Host.counting sampleFile
    .enforce (some storelessBundle) none (by decide) evaluated mandatory contract
  have store : storeAction (classify Host.counting sampleFile) =
      ⟨"content_defined_chunk", true, .low,
        "partial duplicate detection"⟩ := rfl
  have dropped : keeps decision .enforce
      (storeAction (classify Host.counting sampleFile)) = false := by
    rw [store]
    simp [keeps, chunkless]
  have inserted : "store_exact_bytes" ∈ plan.actionNames := by
    rw [Plan.actionNames, actions]
    exact List.mem_map.mpr ⟨exactStoreAction,
      mem_plannedActions.mpr (.inr (.inr (.inl ⟨rfl, dropped⟩))), rfl⟩
  refine ⟨decision, plan, evaluated, planned, denied, inserted, ?_⟩
  intro conform
  exact (conform decision plan evaluated planned).undenied _ inserted denied

end Urp
