import Urp.Library.Run
import Urp.PolicyStore
import Urp.PolicyStrictness

/-!
# Naming a bundle that is not active

In every reachable store the active version of a name has an intact record.
A work unit that names an inactive bundle is decided without any bundle; the
main theorem says when that decision is as strong as the active one.
-/

namespace Urp

open Python

/-! ## The hash of a record that was read back -/

theorem sorted_present (fields : List (String × Option Value)) :
    (present fields).sorted =
      (present (fields.map fun field =>
        (field.1, field.2.map Value.sorted))).sorted := by
  have entries : ∀ fields : List (String × Option Value),
      Value.sortedEntries (fields.filterMap fun field =>
          field.2.map fun value => (field.1, value)) =
        (fields.map fun field => (field.1, field.2.map Value.sorted)).filterMap
          fun field => field.2.map fun value => (field.1, value) := by
    intro fields
    induction fields with
    | nil => rfl
    | cons field rest ih =>
        obtain ⟨key, value⟩ := field
        cases value with
        | none => simpa using ih
        | some value => simpa [Value.sortedEntries] using ih
  have twice := entries (fields.map fun field =>
    (field.1, field.2.map Value.sorted))
  simp only [present, Value.sorted, entries fields]
  rw [twice]
  simp [Function.comp_def, Option.map_map, Value.sorted_sorted]

/-- Two records of fields whose values sort alike sort alike. -/
theorem sorted_present_congr {fields others : List (String × Option Value)}
    (same : fields.map (fun field => (field.1, field.2.map Value.sorted)) =
      others.map fun field => (field.1, field.2.map Value.sorted)) :
    (present fields).sorted = (present others).sorted := by
  rw [sorted_present fields, sorted_present others, same]

theorem sorted_clauses (clauses : List MatchClause) :
    (Value.dict ((((clauses.map MatchClause.sorted).insertionSort
        fun left right => left.toPair.1 ≤ right.toPair.1)).map
          MatchClause.toPair)).sorted =
      (Value.dict (clauses.map MatchClause.toPair)).sorted := by
  have pairs : (clauses.map MatchClause.sorted).map MatchClause.toPair =
      Value.sortedEntries (clauses.map MatchClause.toPair) := by
    simp only [Value.sortedEntries_eq_map, List.map_map]
    exact List.map_congr_left fun clause _ => clause.toPair_sorted
  have inOrder : ((clauses.map MatchClause.sorted).insertionSort
        fun left right => left.toPair.1 ≤ right.toPair.1).map
          MatchClause.toPair =
      ((clauses.map MatchClause.sorted).map
        MatchClause.toPair).insertionSort fun p q => p.1 ≤ q.1 :=
    List.map_insertionSort _ _ _ _ fun _ _ _ _ => Iff.rfl
  rw [inOrder, pairs]
  exact Value.sorted_sorted (.dict (clauses.map MatchClause.toPair))

theorem sorted_toValue_rule (rule : PolicyRule) :
    rule.sorted.toValue.sorted = rule.toValue.sorted := by
  unfold PolicyRule.toValue
  apply sorted_present_congr
  have clauses : rule.sorted.matching.map (fun clauses =>
        (Value.dict (clauses.map MatchClause.toPair)).sorted) =
      rule.matching.map fun clauses =>
        (Value.dict (clauses.map MatchClause.toPair)).sorted := by
    cases written : rule.matching with
    | none => simp [PolicyRule.sorted, written]
    | some clauses =>
        simp [PolicyRule.sorted, written, sorted_clauses]
  have required : rule.sorted.require.map (fun required =>
        (present [("verifiers", required.verifiers.map texts),
          ("maxCacheAge", required.maxCacheAge),
          ("fallbackModel", required.fallbackModel.map .str)]).sorted) =
      rule.require.map fun required =>
        (present [("verifiers", required.verifiers.map texts),
          ("maxCacheAge", required.maxCacheAge),
          ("fallbackModel", required.fallbackModel.map .str)]).sorted := by
    cases written : rule.require with
    | none => simp [PolicyRule.sorted, written]
    | some required =>
        simp only [PolicyRule.sorted, written, Option.map_some,
          Option.some.injEq]
        apply sorted_present_congr
        simp [Function.comp_def, Value.sorted_sorted]
  simp only [List.map_cons, List.map_nil, Option.map_map, Function.comp_def,
    clauses, required]
  simp [PolicyRule.sorted]

theorem sortedList_toValue_rules (rules : List PolicyRule) :
    Value.sortedList (rules.map fun rule => rule.sorted.toValue) =
      Value.sortedList (rules.map PolicyRule.toValue) := by
  induction rules with
  | nil => rfl
  | cons rule rest ih =>
      simp only [List.map_cons, Value.sortedList, sorted_toValue_rule, ih]

theorem sorted_toValue_bundle (bundle : PolicyBundle) :
    bundle.sorted.toValue.sorted = bundle.toValue.sorted := by
  unfold PolicyBundle.toValue
  apply sorted_present_congr
  have metadata : ∀ metadata : PolicyMetadata,
      (present [("name", metadata.name.map .str),
          ("version", metadata.version.map .str),
          ("tenant", metadata.tenant.map .str),
          ("labels", metadata.labels.map fun labels =>
            labels.sorted.toValue)]).sorted =
        (present [("name", metadata.name.map .str),
          ("version", metadata.version.map .str),
          ("tenant", metadata.tenant.map .str),
          ("labels", metadata.labels.map Object.toValue)]).sorted := by
    intro metadata
    apply sorted_present_congr
    simp [Function.comp_def, Object.toValue_sorted, Value.sorted_sorted]
  have spec : ∀ spec : PolicySpec,
      (present [("defaults", spec.defaults.map fun defaults =>
            present defaults.fields),
          ("rules", spec.rules.map fun rules =>
            .list (rules.map fun rule => rule.sorted.toValue))]).sorted =
        (present [("defaults", spec.defaults.map fun defaults =>
            present defaults.fields),
          ("rules", spec.rules.map fun rules =>
            .list (rules.map PolicyRule.toValue))]).sorted := by
    intro spec
    apply sorted_present_congr
    simp [Function.comp_def, Value.sorted, sortedList_toValue_rules]
  simp only [PolicyBundle.sorted, List.map_cons, List.map_nil,
    Option.map_map, Function.comp_def, List.map_map, metadata, spec]

/-- Reading a bundle back leaves its hash the same. -/
theorem bundleHash_sorted (bundle : PolicyBundle) :
    PolicyBundleStore.bundleHash bundle.sorted =
      PolicyBundleStore.bundleHash bundle := by
  simp only [PolicyBundleStore.bundleHash, stableJsonHash, Json.dumps,
    sorted_toValue_bundle]

/-! ## Reachable stores -/

namespace PolicyFiles

/-- The version is in `active.json`. -/
def IsActiveVersion (files : PolicyFiles) (name version : String) : Prop :=
  ∃ versions, files.activeFile = .file versions ∧
    versions.lookup name = some version

/-- Some version of the name is active. -/
def IsActive (files : PolicyFiles) (name : String) : Prop :=
  ∃ version, files.IsActiveVersion name version

structure Consistent (files : PolicyFiles) : Prop where
  intact : ∀ key record, files.records.lookup key = some record →
    PolicyBundleStore.bundleHash record.bundle = record.bundleHash
  recorded : ∀ name version, files.IsActiveVersion name version →
    isIdentifier name = true ∧ isIdentifier version = true ∧
      ∃ record, files.records.lookup (name, version) = some record

theorem consistent_empty : Consistent {} := by
  constructor
  · intro key record found
    simp at found
  · rintro name version ⟨versions, file, -⟩
    cases file

end PolicyFiles

namespace PolicyBundleStore

open Program PolicyFiles

/-- Getting an intact record under identifiers returns it. -/
theorem get_of_lookup {files : PolicyFiles} (consistent : files.Consistent)
    {name version : String} (nameValid : isIdentifier name = true)
    (versionValid : isIdentifier version = true) {record : PolicyRecord}
    (found : files.records.lookup (name, version) = some record) :
    get name version files = (.ok record, files) := by
  have intact := consistent.intact _ _ found
  unfold get
  simp only [validateIdentifier_of_isIdentifier nameValid,
    validateIdentifier_of_isIdentifier versionValid, lift_ok_bind, get_bind,
    found, intact, if_true]
  rfl

/-- Getting a record changes nothing and checks both identifiers. -/
theorem ensures_get {files : PolicyFiles} (name version : String) :
    Ensures (get name version) files
      (fun record later => later = files ∧ isIdentifier name = true ∧
        isIdentifier version = true ∧
          files.records.lookup (name, version) = some record)
      (fun _ later => later = files) := by
  unfold get
  simp only [ensures_bind, ensures_lift, Program.ensures_get]
  refine ⟨?_, fun _ _ => trivial⟩
  intro _ nameChecked
  refine ⟨?_, fun _ _ => trivial⟩
  intro _ versionChecked
  have nameValid := (validateIdentifier_eq_ok nameChecked).2
  have versionValid := (validateIdentifier_eq_ok versionChecked).2
  cases found : files.records.lookup (name, version) with
  | none => simp
  | some record =>
      simp only [ensures_ite, pure_eq_ret, ensures_ret, ensures_raise]
      exact ⟨fun _ => ⟨trivial, nameValid, versionValid, trivial⟩,
        fun _ => trivial⟩

theorem ensures_readActive (files : PolicyFiles) :
    Ensures readActive files
      (fun versions later => later = files ∧
        ∀ name version, versions.lookup name = some version →
          files.IsActiveVersion name version)
      (fun _ later => later = files) := by
  unfold readActive
  simp only [ensures_bind, Program.ensures_get]
  cases file : files.activeFile with
  | absent => simp
  | file versions =>
      simp only [pure_eq_ret, ensures_ret, true_and]
      exact fun name version found => ⟨versions, file, found⟩
  | directory => simp

theorem ensures_makeDirectory {files : PolicyFiles}
    (consistent : files.Consistent) (name : String) :
    Ensures (makeDirectory name) files (fun _ later => later.Consistent)
      (fun _ later => later.Consistent) := by
  have asDirectory :
      PolicyFiles.Consistent { files with activeFile := .directory } := by
    constructor
    · exact consistent.intact
    · rintro other version ⟨versions, file, -⟩
      cases file
  unfold makeDirectory
  simp only [ensures_bind, Program.ensures_get, ensures_ite, pure_eq_ret,
    ensures_ret]
  refine ⟨fun _ => ?_, fun _ => consistent⟩
  cases file : files.activeFile with
  | absent => exact asDirectory
  | file versions => exact consistent
  | directory => exact asDirectory

/-- Writing a record keeps the store consistent and leaves the record. -/
theorem ensures_writeRecord {files : PolicyFiles}
    (consistent : files.Consistent) {record : PolicyRecord}
    (hashed : record.bundleHash = bundleHash record.bundle) :
    Ensures (writeRecord record) files
      (fun _ later => later.Consistent ∧ ∃ stored,
        later.records.lookup (record.name, record.version) = some stored)
      (fun _ later => later.Consistent) := by
  unfold writeRecord
  rw [ensures_bind]
  apply (ensures_makeDirectory consistent record.name).mono
  · intro _ later before
    rw [ensures_modify]
    refine ⟨⟨?_, ?_⟩, _, Dict.lookup_insert_self _ _ _⟩
    · intro key stored found
      simp only [Dict.lookup_insert] at found
      split at found
      · cases found
        simp [bundleHash_sorted, hashed]
      · exact before.intact key stored found
    · intro name version active
      obtain ⟨nameValid, versionValid, stored, found⟩ :=
        before.recorded name version active
      refine ⟨nameValid, versionValid, ?_⟩
      simp only [Dict.lookup_insert]
      split
      · exact ⟨_, rfl⟩
      · exact ⟨stored, found⟩
  · exact fun _ _ kept => kept

theorem ensures_writeActive {files : PolicyFiles}
    (consistent : files.Consistent) {name version : String}
    {record : PolicyRecord}
    (recorded : files.records.lookup (name, version) = some record) :
    Ensures (writeActive name version) files (fun _ later => later.Consistent)
      (fun _ later => later.Consistent) := by
  unfold writeActive
  simp only [ensures_bind, ensures_lift]
  refine ⟨?_, fun _ _ => consistent⟩
  intro _ nameChecked
  refine ⟨?_, fun _ _ => consistent⟩
  intro _ versionChecked
  have nameValid := (validateIdentifier_eq_ok nameChecked).2
  have versionValid := (validateIdentifier_eq_ok versionChecked).2
  apply (ensures_readActive files).mono
  · rintro versions later ⟨rfl, active⟩
    rw [ensures_modify]
    constructor
    · exact consistent.intact
    · rintro other current ⟨_, ⟨⟩, found⟩
      rw [Dict.lookup_insert] at found
      split at found
      · rename_i same
        cases found
        subst same
        exact ⟨nameValid, versionValid, record, recorded⟩
      · exact consistent.recorded other current (active other current found)
  · rintro _ _ rfl
    exact consistent

end PolicyBundleStore

section Steps

open Program PolicyBundleStore

variable {host : Host} {session : Session} {state : PolicyState}

/-- The ledger's part of a step leaves the files. -/
theorem ensures_focus_ledger {α : Type} {state : PolicyState}
    (body : Program LedgerState PyException α) {holds : PolicyFiles → Prop}
    (before : holds state.files) :
    Ensures (focus PolicyState.ledgerLens body) state
      (fun _ later => holds later.files) (fun _ later => holds later.files) := by
  rw [ensures_focus]
  exact ensures_state_iff.mpr before

theorem ensures_publish (consistent : state.files.Consistent)
    (bundle : PolicyBundle) (actor : String) :
    Ensures (publish host session bundle actor) state
      (fun _ later => later.files.Consistent)
      (fun _ later => later.files.Consistent) := by
  unfold publish
  simp only [ensures_bind, ensures_lift]
  refine ⟨fun _ _ => ⟨?_, fun _ _ => consistent⟩, fun _ _ => consistent⟩
  intro name nameChecked
  refine ⟨?_, fun _ _ => consistent⟩
  intro version versionChecked
  apply (ensures_focus_ledger _ consistent).mono
  · intro publishedAt drawn drawnConsistent
    rw [ensures_focus]
    apply (ensures_writeRecord drawnConsistent rfl).mono
    · rintro _ files ⟨written, record, recorded⟩
      rw [ensures_focus]
      apply (ensures_writeActive written recorded).mono
      · intro _ later active
        apply (ensures_focus_ledger _ active).mono
        · exact fun _ _ kept => kept
        · exact fun _ _ kept => kept
      · exact fun _ _ kept => kept
    · exact fun _ _ kept => kept
  · exact fun _ _ kept => kept

theorem ensures_rollback (consistent : state.files.Consistent)
    (name version actor : String) :
    Ensures (rollback host session name version actor) state
      (fun _ later => later.files.Consistent)
      (fun _ later => later.files.Consistent) := by
  unfold rollback
  rw [ensures_bind, ensures_focus]
  apply (ensures_get name version).mono
  · rintro record _ ⟨rfl, -, -, recorded⟩
    rw [ensures_bind, ensures_focus]
    apply (ensures_readActive state.files).mono
    · rintro previous _ ⟨rfl, -⟩
      rw [ensures_bind, ensures_focus]
      apply (ensures_writeActive consistent recorded).mono
      · intro _ later active
        rw [ensures_bind]
        apply (ensures_focus_ledger _ active).mono
        · exact fun _ _ kept => kept
        · exact fun _ _ kept => kept
      · exact fun _ _ kept => kept
    · rintro _ _ rfl
      exact consistent
  · rintro _ _ rfl
    exact consistent

/-- Every publish and every rollback keeps the store consistent, also when it
fails. -/
theorem consistent_policyStep (consistent : state.files.Consistent)
    (command : Session × PolicyCommand) :
    (policyStep host state command).2.files.Consistent := by
  obtain ⟨session, command⟩ := command
  cases command with
  | publish bundle actor =>
      exact ensures_state_iff.mp (ensures_publish consistent bundle actor)
  | rollback name version actor =>
      exact ensures_state_iff.mp (ensures_rollback consistent name version actor)

/-- The stores that publishes and rollbacks reach from an empty one. -/
def ReachableStore (host : Host) (state : PolicyState) : Prop :=
  ∃ supply commands,
    state = Run.final (policyStep host) { ledger := { supply } } commands

theorem consistent_of_reachable (reachable : ReachableStore host state) :
    state.files.Consistent := by
  obtain ⟨supply, commands, rfl⟩ := reachable
  apply @Run.final_induction _ _ _ (policyStep host)
    (fun state => state.files.Consistent)
  · exact PolicyFiles.consistent_empty
  · exact fun state command _ before => consistent_policyStep before command

end Steps

namespace PolicyBundleStore

theorem readActive_of_file {files : PolicyFiles}
    {versions : Dict String String} (file : files.activeFile = .file versions) :
    readActive files = (.ok versions, files) := by
  unfold readActive
  rw [Program.get_bind, file]
  rfl

theorem active_of_lookup {files : PolicyFiles}
    (consistent : files.Consistent) {name version : String}
    (isActive : files.IsActiveVersion name version) {record : PolicyRecord}
    (found : files.records.lookup (name, version) = some record) :
    active name files = (.ok record, files) := by
  obtain ⟨nameValid, versionValid, -⟩ :=
    consistent.recorded name version isActive
  obtain ⟨versions, file, current⟩ := isActive
  unfold active
  simp only [validateIdentifier_of_isIdentifier nameValid,
    Program.lift_ok_bind]
  rw [Program.bind_ok (readActive_of_file file)]
  simp only [current]
  exact get_of_lookup consistent nameValid versionValid found

/-- An active version of a consistent store can be loaded. -/
theorem active_of_isActive {files : PolicyFiles}
    (consistent : files.Consistent) {name : String}
    (isActive : files.IsActive name) :
    ∃ record, active name files = (.ok record, files) := by
  obtain ⟨version, active⟩ := isActive
  obtain ⟨-, -, record, found⟩ := consistent.recorded name version active
  exact ⟨record, active_of_lookup consistent active found⟩

/-- A name without an active version resolves to no bundle. -/
theorem resolve_of_inactive (session : Session) {files : PolicyFiles}
    {other name : String} (isActive : files.IsActive other) (named : name ≠ "")
    (inactive : ¬ files.IsActive name) :
    resolveActivePolicyBundle session (some name) files = (.ok none, files) := by
  obtain ⟨-, versions, file, -⟩ := isActive
  have selected : selectedName session (some name) = name := by
    simp [selectedName, textOr, named]
  have absent : versions.contains name = false := by
    cases found : versions.lookup name with
    | none => simp [Dict.contains, found]
    | some version => exact absurd ⟨version, versions, file, found⟩ inactive
  have unresolved :
      activeForWorkUnit session (some name) files = (.ok none, files) := by
    unfold activeForWorkUnit
    rw [Program.bind_ok (readActive_of_file file)]
    simp [selected, named, absent]
    rfl
  unfold resolveActivePolicyBundle
  rw [Program.bind_ok unresolved]
  rfl

end PolicyBundleStore

/-! ## The decision without a bundle -/

/-- The kinds whose requests may look up the semantic cache. -/
def WorkUnitKind.isText (kind : WorkUnitKind) : Bool :=
  kind = promptRequest || kind = completionResponse

/-- Without a bundle, the work unit may look up the semantic cache. -/
def LooksUp (workUnit : WorkUnit) : Prop :=
  requestedContract workUnit = .semantic ∧ workUnit.kind.isText = true ∧
    allowSemanticCache workUnit = true

instance (workUnit : WorkUnit) : Decidable (LooksUp workUnit) :=
  inferInstanceAs (Decidable (_ ∧ _))

/-- The actions that are executable without a bundle. -/
def fallbackActions (workUnit : WorkUnit) : List String :=
  if requestedContract workUnit = .semantic ∧ workUnit.kind.isAi then
    ["normalize_prompt", "exact_cache_lookup", "model_route", "verify",
        "cache_store", "compute_manifest"] ++
      (if workUnit.kind.isText then ["context_compile"] else []) ++
      (if LooksUp workUnit then ["semantic_cache_lookup"] else [])
  else
    ["hash", "content_defined_chunk", "fixed_chunk", "dedupe_same_tenant",
      "zstd", "manifest", "verify_restore"]

theorem allowedActions_defaultDecision (workUnit : WorkUnit) :
    (defaultDecision workUnit).allowedActions = fallbackActions workUnit := by
  unfold defaultDecision fallbackActions
  split
  · rename_i semantic
    have looksUp : LooksUp workUnit ↔
        (allowSemanticCache workUnit && workUnit.kind.isText) = true := by
      simp [LooksUp, semantic.1, and_comm]
    simp only [looksUp]
    rfl
  · rfl

/-- Every fallback action but the semantic lookup. -/
def plainActions : List String :=
  ["normalize_prompt", "exact_cache_lookup", "model_route", "verify",
    "cache_store", "compute_manifest", "context_compile", "hash",
    "content_defined_chunk", "fixed_chunk", "dedupe_same_tenant", "zstd",
    "manifest", "verify_restore"]

theorem aiActions_cases : ∀ text lookup : Bool, ∀ action ∈
    ["normalize_prompt", "exact_cache_lookup", "model_route", "verify",
        "cache_store", "compute_manifest"] ++
      (if text then ["context_compile"] else []) ++
      (if lookup then ["semantic_cache_lookup"] else []),
    action ∈ plainActions ∨
      action = "semantic_cache_lookup" ∧ lookup = true := by
  decide

theorem globalActions_subset : ∀ action ∈ ["hash", "content_defined_chunk",
    "fixed_chunk", "dedupe_same_tenant", "zstd", "manifest", "verify_restore"],
    action ∈ plainActions := by
  decide

theorem fallbackActions_cases {workUnit : WorkUnit} {action : String}
    (member : action ∈ fallbackActions workUnit) :
    action ∈ plainActions ∨
      action = "semantic_cache_lookup" ∧ LooksUp workUnit := by
  unfold fallbackActions at member
  split at member
  · have cases := aiActions_cases workUnit.kind.isText
      (decide (LooksUp workUnit)) action (by simpa using member)
    simpa using cases
  · exact .inl (globalActions_subset action member)

theorem plain_not_denied : ∀ action ∈ plainActions, action ∉
    ["cross_tenant_cache", "cross_tenant_dedupe", "semantic_cache",
      "semantic_summary", "lossy_transcode", "delete", "semantic_cache_lookup",
      "approximate_quantization"] := by
  decide

theorem deniedActions_defaultDecision_subset {workUnit : WorkUnit}
    {action : String}
    (denied : action ∈ (defaultDecision workUnit).deniedActions) :
    action ∈ ["cross_tenant_cache", "cross_tenant_dedupe", "semantic_cache",
      "semantic_summary", "lossy_transcode", "delete", "semantic_cache_lookup",
      "approximate_quantization"] := by
  unfold defaultDecision at denied
  split at denied
  · simp only [aiDefaultDecision, List.mem_append] at denied
    rcases denied with listed | lookup
    · revert action
      decide
    · split at lookup
      · cases lookup
      · revert action
        decide
  · simp only [globalDefaultDecision] at denied
    revert action
    decide

theorem semanticLookup_not_denied {workUnit : WorkUnit}
    (looksUp : LooksUp workUnit) :
    "semantic_cache_lookup" ∉ (defaultDecision workUnit).deniedActions := by
  obtain ⟨semantic, text, allowed⟩ := looksUp
  have ai : workUnit.kind.isAi = true := by
    simp only [WorkUnitKind.isText, Bool.or_eq_true, decide_eq_true_eq] at text
    simp [WorkUnitKind.isAi, text]
  have lookup : (allowSemanticCache workUnit &&
      (decide (workUnit.kind = .promptRequest) ||
        decide (workUnit.kind = .completionResponse))) = true := by
    simpa [WorkUnitKind.isText] using And.intro allowed text
  simp only [defaultDecision, semantic, ai, and_self, if_true,
    aiDefaultDecision, lookup]
  decide

theorem executable_defaultDecision_iff (workUnit : WorkUnit)
    (action : String) :
    (defaultDecision workUnit).Executable action ↔
      action ∈ fallbackActions workUnit := by
  rw [PolicyDecision.Executable, allowedActions_defaultDecision]
  constructor
  · exact fun executable => executable.1
  · intro member
    refine ⟨member, fun denied => ?_⟩
    rcases fallbackActions_cases member with plain | ⟨rfl, looksUp⟩
    · exact plain_not_denied action plain
        (deniedActions_defaultDecision_subset denied)
    · exact semanticLookup_not_denied looksUp denied

theorem baseline_denied_subset {kind : WorkUnitKind} {action : String}
    (denied : action ∈ (baselinePolicyControls kind).denied) :
    action ∈ ["cross_tenant_cache", "cross_tenant_dedupe", "semantic_cache",
      "semantic_summary", "lossy_transcode", "delete", "semantic_cache_lookup",
      "approximate_quantization"] := by
  unfold baselinePolicyControls at denied
  split_ifs at denied
  all_goals
    revert action
    decide

theorem semanticLookup_not_baseline {kind : WorkUnitKind}
    (text : kind.isText = true) :
    "semantic_cache_lookup" ∉ (baselinePolicyControls kind).denied := by
  revert text
  cases kind <;> decide

/-- No bundle denies a fallback action by its baseline. -/
theorem not_baseline_of_fallback {workUnit : WorkUnit} {action : String}
    (member : action ∈ fallbackActions workUnit) :
    action ∉ (baselinePolicyControls workUnit.kind).denied := by
  intro denied
  rcases fallbackActions_cases member with plain | ⟨rfl, looksUp⟩
  · exact plain_not_denied action plain (baseline_denied_subset denied)
  · exact semanticLookup_not_baseline looksUp.2.1 denied

/-- Of the denials that defaults add, only one can be a fallback action. -/
theorem fallback_defaultDenials {workUnit : WorkUnit} {action : String}
    {defaults : PolicyDefaults} {strict : Contract} {allowed : List String}
    (member : action ∈ fallbackActions workUnit)
    (denied : action ∈ defaultDenials defaults strict allowed) :
    action = "semantic_cache_lookup" ∧ LooksUp workUnit := by
  have listed := defaultDenials_subset denied
  rcases fallbackActions_cases member with plain | lookup
  · exfalso
    apply plain_not_denied action plain
    clear member denied plain
    revert action
    decide
  · exact lookup

theorem semanticLookup_defaultDenials_iff {defaults : PolicyDefaults}
    {strict : Contract} {allowed : List String} :
    "semantic_cache_lookup" ∈ defaultDenials defaults strict allowed ↔
      defaults.semanticReduction = some "deny" ∧
        ¬ (strict = .semantic ∧ "semantic_cache_lookup" ∈ allowed) := by
  unfold defaultDenials
  by_cases denies : defaults.semanticReduction = some "deny"
  · by_cases semantic : strict = .semantic
    · by_cases listed : "semantic_cache_lookup" ∈ allowed
      · simp [denies, semantic, listed]
      · simp [denies, semantic, listed]
    · simp [denies, semantic]
  · simp [denies]

/-! ## The contract that a bundle resolves to -/

/-- The contract is the strictest that a matching rule names; or no matching
rule names one, and it is the default's. -/
def StrictestIs (workUnit : WorkUnit) (bundle : PolicyBundle)
    (contract : Contract) : Prop :=
  (∃ rule ∈ bundle.rules, RuleMatches workUnit rule ∧
      NamesContract rule contract) ∧
    (∀ rule ∈ bundle.rules, RuleMatches workUnit rule →
      ∀ other, NamesContract rule other → contract.order ≤ other.order) ∨
  (∀ rule ∈ bundle.rules, RuleMatches workUnit rule →
      rule.contractName? = none) ∧
    Contract.ofValue? (bundle.defaults.contract.getD
      (requestedContract workUnit).value) = some contract

section Strictest

variable {workUnit : WorkUnit} {bundle : PolicyBundle} {strict : Contract}
variable {matched : List PolicyRule}

theorem strictestIs_bundleContract
    (rules : matchedRules workUnit bundle.rules = .ok matched)
    (contract : bundleContract (requestedContract workUnit) bundle.defaults
      matched = .ok strict) :
    StrictestIs workUnit bundle strict := by
  have members := mem_matchedRules_iff rules
  have bounds := bundleContract_order_le_iff contract
  rcases (bounds strict.order).mp (Nat.le_refl _) with
    ⟨rule, member, named, names, small⟩ | ⟨unnamed, named, known, small⟩
  · have least : ∀ rule ∈ matched, ∀ other, NamesContract rule other →
        strict.order ≤ other.order := fun rule member other names =>
      (bounds other.order).mpr (.inl ⟨rule, member, other, names, Nat.le_refl _⟩)
    have same : named = strict := Contract.order_injective
      (Nat.le_antisymm small (least rule member named names))
    subst same
    have listed := (members rule).mp member
    refine .inl ⟨⟨rule, listed.1, listed.2, names⟩, ?_⟩
    intro rule member hit
    exact least rule ((members rule).mpr ⟨member, hit⟩)
  · have least := (bounds named.order).mpr
      (.inr ⟨unnamed, named, known, Nat.le_refl _⟩)
    have same : named = strict :=
      Contract.order_injective (Nat.le_antisymm small least)
    subst same
    refine .inr ⟨fun rule member hit => ?_, known⟩
    exact unnamed rule ((members rule).mpr ⟨member, hit⟩)

/-- Only one contract is the strictest. -/
theorem StrictestIs.unique {left right : Contract}
    (leftStrict : StrictestIs workUnit bundle left)
    (rightStrict : StrictestIs workUnit bundle right) : left = right := by
  have clash : ∀ {contract : Contract} {rule : PolicyRule},
      rule.contractName? = none → ¬ NamesContract rule contract := by
    rintro contract rule unnamed ⟨name, named, -⟩
    rw [unnamed] at named
    cases named
  rcases leftStrict with ⟨⟨rule, member, hit, names⟩, least⟩ | ⟨unnamed, known⟩
  · rcases rightStrict with
      ⟨⟨other, otherMember, otherHit, otherNames⟩, otherLeast⟩ | ⟨silent, -⟩
    · apply Contract.order_injective
      exact Nat.le_antisymm (least other otherMember otherHit right otherNames)
        (otherLeast rule member hit left names)
    · exact absurd names (clash (silent rule member hit))
  · rcases rightStrict with ⟨⟨other, member, hit, names⟩, -⟩ | ⟨-, otherKnown⟩
    · exact absurd names (clash (unnamed other member hit))
    · rw [known] at otherKnown
      exact Option.some.inj otherKnown

end Strictest

/-! ## Escaping the active bundle -/

/-- No approval is dropped, and nothing that `governing` denies is
executable. -/
structure PolicyDecision.NoWeaker (decision governing : PolicyDecision) :
    Prop where
  approval : governing.requireApproval = true → decision.requireApproval = true
  denied : ∀ action, decision.Executable action →
    action ∉ governing.deniedActions

/-- The bundle asks for nothing that the decision without it lacks: no
matching rule requires an approval or denies a fallback action, and the
default for semantic reduction leaves a semantic lookup of the fallback. -/
def FallbackKept (workUnit : WorkUnit) (bundle : PolicyBundle) : Prop :=
  (∀ rule ∈ bundle.rules, RuleMatches workUnit rule →
    rule.requires = false ∧
      ∀ action ∈ rule.deniedActions, action ∉ fallbackActions workUnit) ∧
  (LooksUp workUnit → bundle.defaults.semanticReduction = some "deny" →
    StrictestIs workUnit bundle .semantic ∧
      ∃ rule ∈ bundle.rules, RuleMatches workUnit rule ∧
        "semantic_cache_lookup" ∈ rule.allowedActions)

theorem mem_fallbackActions_of_looksUp {workUnit : WorkUnit}
    (looksUp : LooksUp workUnit) :
    "semantic_cache_lookup" ∈ fallbackActions workUnit := by
  have text := looksUp.2.1
  simp only [WorkUnitKind.isText, Bool.or_eq_true, decide_eq_true_eq] at text
  have ai : workUnit.kind.isAi = true := by
    simp [WorkUnitKind.isAi, text]
  simp [fallbackActions, looksUp, looksUp.1, ai]

section Escape

variable {workUnit : WorkUnit} {bundle : PolicyBundle} {strict : Contract}
variable {matched : List PolicyRule}

theorem noWeaker_bundleDecision_iff
    (rules : matchedRules workUnit bundle.rules = .ok matched)
    (contract : bundleContract (requestedContract workUnit) bundle.defaults
      matched = .ok strict) :
    (defaultDecision workUnit).NoWeaker
        (bundleDecision workUnit bundle matched strict) ↔
      FallbackKept workUnit bundle := by
  have members := mem_matchedRules_iff rules
  have strictest := strictestIs_bundleContract rules contract
  have unapproved : (defaultDecision workUnit).requireApproval = false := by
    unfold defaultDecision
    split <;> rfl
  constructor
  · intro noWeaker
    have notDenied : ∀ action ∈ fallbackActions workUnit, action ∉
        (bundleDecision workUnit bundle matched strict).deniedActions :=
      fun action member => noWeaker.denied action
        ((executable_defaultDecision_iff workUnit action).mpr member)
    constructor
    · intro rule member hit
      have listed := (members rule).mpr ⟨member, hit⟩
      constructor
      · cases requires : rule.requires with
        | false => rfl
        | true =>
            have approved := noWeaker.approval
              ((requireApproval_bundleDecision workUnit bundle matched
                strict).mpr ⟨rule, listed, requires⟩)
            rw [unapproved] at approved
            cases approved
      · intro action denied fallback
        apply notDenied action fallback
        rw [mem_deniedActions_bundleDecision]
        exact .inr (.inl ⟨rule, listed, denied⟩)
    · intro looksUp denies
      have kept := notDenied _ (mem_fallbackActions_of_looksUp looksUp)
      rw [mem_deniedActions_bundleDecision, semanticLookup_defaultDenials_iff]
        at kept
      have allowed : strict = .semantic ∧ "semantic_cache_lookup" ∈
          matched.flatMap PolicyRule.allowedActions := by
        by_contra missing
        exact kept (.inr (.inr ⟨denies, missing⟩))
      refine ⟨allowed.1 ▸ strictest, ?_⟩
      obtain ⟨rule, listed, named⟩ := List.mem_flatMap.mp allowed.2
      have hit := (members rule).mp listed
      exact ⟨rule, hit.1, hit.2, named⟩
  · intro kept
    constructor
    · intro required
      obtain ⟨rule, listed, requires⟩ := (requireApproval_bundleDecision
        workUnit bundle matched strict).mp required
      have hit := (members rule).mp listed
      rw [(kept.1 rule hit.1 hit.2).1] at requires
      cases requires
    · intro action executable denied
      have fallback :=
        (executable_defaultDecision_iff workUnit action).mp executable
      rw [mem_deniedActions_bundleDecision] at denied
      rcases denied with baseline | ⟨rule, listed, denied⟩ | byDefault
      · exact not_baseline_of_fallback fallback baseline
      · have hit := (members rule).mp listed
        exact (kept.1 rule hit.1 hit.2).2 action denied fallback
      · obtain ⟨rfl, looksUp⟩ := fallback_defaultDenials fallback byDefault
        obtain ⟨denies, missing⟩ :=
          semanticLookup_defaultDenials_iff.mp byDefault
        obtain ⟨semantic, rule, member, hit, allowed⟩ := kept.2 looksUp denies
        apply missing
        refine ⟨strictest.unique semantic, List.mem_flatMap.mpr ⟨rule, ?_, allowed⟩⟩
        exact (members rule).mpr ⟨member, hit⟩

theorem fallbackKept_of_default
    (undecided : bundle.isTruthy = true →
      matchedRules workUnit bundle.rules = .ok [] ∧
        bundle.defaults.isTruthy = false) :
    FallbackKept workUnit bundle := by
  constructor
  · intro rule member hit
    exact absurd hit (not_ruleMatches_of_default undecided member)
  · intro looksUp denies
    rw [defaults_of_default undecided] at denies
    cases denies

end Escape

/-- The work unit with a bundle named in its policy context. -/
def WorkUnit.naming (workUnit : WorkUnit) (name : Value) : WorkUnit :=
  { workUnit with
    policyContext := workUnit.policyContext.insert "policy_bundle_id" name }

section Naming

variable {workUnit : WorkUnit} {name : Value}

theorem policyName_naming (host : Host) (truthy : name.isTruthy = true) :
    policyName host (workUnit.naming name) = some (host.str name) := by
  simp [policyName, WorkUnit.naming, Object.get, Object.getD, truthy]

/-- The name is not part of the decision without a bundle. -/
theorem evaluatePolicy_naming :
    evaluatePolicy (workUnit.naming name) none =
      evaluatePolicy workUnit none := by
  have hold : legalHold (workUnit.naming name) = legalHold workUnit := by
    simp [legalHold, WorkUnit.naming, Object.get, Object.getD,
      Dict.lookup_insert_ne]
  have lookup : allowSemanticCache (workUnit.naming name) =
      allowSemanticCache workUnit := by
    simp [allowSemanticCache, WorkUnit.naming, Object.get, Object.getD,
      Dict.lookup_insert_ne]
  have default : defaultDecision (workUnit.naming name) =
      defaultDecision workUnit := by
    unfold defaultDecision aiDefaultDecision
    rw [lookup]
    rfl
  simp only [evaluatePolicy, hold, default]

/-- A work unit that names an inactive bundle is decided without any. -/
theorem resolvedDecision_of_inactive {host : Host} {files : PolicyFiles}
    {other : String} (session : Session) (isActive : files.IsActive other)
    (truthy : name.isTruthy = true)
    (inactive : ¬ files.IsActive (host.str name)) :
    resolvedDecision host session (workUnit.naming name) files =
      (.ok (if legalHold workUnit then legalHoldDecision
        else defaultDecision workUnit), files) := by
  have unresolved : resolveActivePolicyBundle session
      (policyName host (workUnit.naming name)) files = (.ok none, files) := by
    rw [policyName_naming host truthy]
    exact PolicyBundleStore.resolve_of_inactive session isActive
      (str_ne_empty host.isPrintable truthy) inactive
  unfold resolvedDecision
  rw [Program.bind_ok unresolved, evaluatePolicy_naming]
  unfold evaluatePolicy Program.lift
  split <;> rfl

end Naming

open PolicyBundleStore in
/-- A name without an active version yields a decision no weaker than the
active bundle's exactly under a legal hold or when the bundle asks for nothing
that the decision without it lacks. -/
theorem namedBundle_noWeaker_iff {host : Host} {state : PolicyState}
    (reachable : ReachableStore host state)
    (isActive : state.files.IsActive "default-safe") (session : Session)
    (workUnit : WorkUnit) {name : Value} (truthy : name.isTruthy = true)
    (inactive : ¬ state.files.IsActive (host.str name)) :
    ∃ record, active "default-safe" state.files = (.ok record, state.files) ∧
      ∀ governing named,
        evaluatePolicy workUnit (some record.bundle) = .ok governing →
        (resolvedDecision host session (workUnit.naming name)
          state.files).1 = .ok named →
        (named.NoWeaker governing ↔
          legalHold workUnit = true ∨ FallbackKept workUnit record.bundle) := by
  have consistent := consistent_of_reachable reachable
  obtain ⟨record, loaded⟩ := active_of_isActive consistent isActive
  refine ⟨record, loaded, ?_⟩
  intro governing named governs evaluated
  rw [resolvedDecision_of_inactive session isActive truthy inactive]
    at evaluated
  have fallback := (Except.ok.inj evaluated).symm
  rcases evaluatePolicy_cases governs with ⟨hold, rfl⟩ | ⟨free, decided⟩
  · simp only [hold, if_true] at fallback
    subst fallback
    refine ⟨fun _ => .inl hold, fun _ => ⟨fun required => required, ?_⟩⟩
    exact fun action executable => executable.2
  · simp only [free, Bool.false_eq_true, if_false] at fallback
    subst fallback
    simp only [free, Bool.false_eq_true, false_or]
    rcases decided with
      ⟨bundle, matched, strict, same, -, rules, contract, rfl⟩ |
        ⟨rfl, undecided⟩
    · cases same
      exact noWeaker_bundleDecision_iff rules contract
    · refine ⟨fun _ => fallbackKept_of_default (undecided record.bundle rfl),
        fun _ => ⟨fun required => required, ?_⟩⟩
      exact fun action executable => executable.2

/-! ## A published bundle -/

section Published

open Program PolicyBundleStore

variable {host : Host} {bundle : PolicyBundle} {version : String}

/-- The checks of such a publish pass. -/
theorem publish_checks (valid : isValidBundle bundle = true)
    (versioned : bundle.version? = some version)
    (identifier : isIdentifier version = true) :
    validatePolicyBundle bundle = .ok () ∧
      (∀ label, validateIdentifier "default-safe" label = .ok "default-safe") ∧
      ∀ hash label,
        validateIdentifier (textOr bundle.version? hash) label = .ok version := by
  have nonempty : version ≠ "" := by
    rintro rfl
    cases identifier
  have chosen : ∀ hash, textOr bundle.version? hash = version := by
    simp [versioned, textOr, nonempty]
  refine ⟨?_, fun label => validateIdentifier_of_isIdentifier (by decide), ?_⟩
  · simp [validatePolicyBundle, validateNamedSchema, valid]
  · intro hash label
    rw [chosen]
    exact validateIdentifier_of_isIdentifier identifier

/-- Publishing a valid bundle into an empty store makes it active, whatever
becomes of the ledger's event. -/
theorem ensures_publish_empty (valid : isValidBundle bundle = true)
    (named : bundle.name? = some "default-safe")
    (versioned : bundle.version? = some version)
    (identifier : isIdentifier version = true) (session : Session)
    (actor : String) (ledger : LedgerState) :
    let published := fun files : PolicyFiles =>
      (∃ versions, files.activeFile = .file versions ∧
          versions.entries = [("default-safe", version)]) ∧
        ∃ record, files.records.lookup ("default-safe", version) =
          some record ∧ record.bundle = bundle.sorted
    Ensures (publish host session bundle actor) { ledger }
      (fun _ later => published later.files)
      (fun _ later => published later.files) := by
  intro published
  obtain ⟨checked, nameChecked, versionChecked⟩ :=
    publish_checks valid versioned identifier
  unfold publish
  simp only [checked, named, Option.getD_some, nameChecked, versionChecked,
    lift_ok_bind]
  rw [ensures_bind, ensures_focus, ensures_focus]
  apply (host.ensures_utcNow _).mono
  · rintro publishedAt _ rfl
    have written : ∀ record : PolicyRecord, record.name = "default-safe" →
        writeRecord record {} = (.ok (),
          { records := (∅ : Dict (String × String) PolicyRecord).insert
              (record.name, record.version)
              { record with bundle := record.bundle.sorted } }) := by
      intro record same
      unfold writeRecord makeDirectory
      simp only [same]
      rfl
    have activated : ∀ records : Dict (String × String) PolicyRecord,
        writeActive "default-safe" version { records } = (.ok (),
          { records
            activeFile := .file
              ((∅ : Dict String String).insert "default-safe" version) }) := by
      intro records
      unfold writeActive
      simp only [nameChecked, validateIdentifier_of_isIdentifier identifier,
        lift_ok_bind]
      rfl
    rw [ensures_bind, ensures_focus]
    refine (ensures_of_run (written _ rfl)).mpr ?_
    rw [ensures_bind, ensures_focus]
    refine (ensures_of_run (activated _)).mpr ?_
    rw [ensures_bind]
    apply @Ensures.mono _ _ _ _ _ _ _ _ _
      (ensures_focus_ledger _ (?_ : published _))
    · exact fun _ _ kept => kept
    · exact fun _ _ kept => kept
    · exact ⟨⟨_, rfl, rfl⟩, _, Dict.lookup_insert_self _ _ _, rfl⟩
  · exact fun _ _ impossible => impossible.elim

/-- A store in which only the bundle is active. -/
theorem exists_store (host : Host) {bundle : PolicyBundle} {version : String}
    (valid : isValidBundle bundle = true)
    (named : bundle.name? = some "default-safe")
    (versioned : bundle.version? = some version)
    (identifier : isIdentifier version = true) :
    ∃ state, ReachableStore host state ∧
      state.files.IsActive "default-safe" ∧
      (∀ name, name ≠ "default-safe" → ¬ state.files.IsActive name) ∧
      ∃ record, active "default-safe" state.files = (.ok record, state.files) ∧
        record.bundle = bundle.sorted := by
  let command : Session × PolicyCommand := ({}, .publish bundle "system")
  have reachable : ReachableStore host (policyStep host {} command).2 :=
    ⟨{}, [command], rfl⟩
  have published := ensures_state_iff.mp (@ensures_publish_empty host _ _
    valid named versioned identifier {} "system" {})
  obtain ⟨⟨versions, file, only⟩, record, found, same⟩ := published
  have current : versions.lookup "default-safe" = some version := by
    simp [Dict.lookup, only, Entries.lookup]
  have isActive : (policyStep host {} command).2.files.IsActive "default-safe" :=
    ⟨version, versions, file, current⟩
  refine ⟨_, reachable, isActive, ?_, record, ?_, same⟩
  · rintro name different ⟨_, others, otherFile, activeVersion⟩
    have sameFile := file.symm.trans otherFile
    cases sameFile
    simp [Dict.lookup, only, Entries.lookup, Ne.symm different]
      at activeVersion
  · exact active_of_lookup (consistent_of_reachable reachable)
      ⟨versions, file, current⟩ found

end Published

/-- `approvalBundle` as its first version. -/
def publishedApproval : PolicyBundle :=
  { approvalBundle with
    metadata := some { name := some "default-safe", version := some "1" } }

open PolicyBundleStore in
/-- Naming a bundle that was never published drops the approval that the
active bundle requires and makes what it denies executable. -/
theorem namedBundle_escapes :
    ∃ state record governing named,
      ReachableStore Host.counting state ∧
      state.files.IsActive "default-safe" ∧
      ¬ state.files.IsActive "unpublished" ∧
      active "default-safe" state.files = (.ok record, state.files) ∧
      evaluatePolicy sampleFile (some record.bundle) = .ok governing ∧
      (resolvedDecision Host.counting {}
        (sampleFile.naming (.str "unpublished")) state.files).1 = .ok named ∧
      governing.requireApproval = true ∧ named.requireApproval = false ∧
      named.Executable "zstd" ∧ "zstd" ∈ governing.deniedActions ∧
      ¬ named.NoWeaker governing := by
  obtain ⟨state, reachable, isActive, others, record, loaded, same⟩ :=
    @exists_store Host.counting publishedApproval "1" (by decide) rfl rfl
      (by decide)
  have inactive := others "unpublished" (by decide)
  have resolved := @resolvedDecision_of_inactive sampleFile
    (.str "unpublished") Host.counting _ _ {} isActive rfl inactive
  have governs : ∃ governing,
      evaluatePolicy sampleFile (some publishedApproval.sorted) =
        .ok governing ∧
      governing.requireApproval = true ∧ "zstd" ∈ governing.deniedActions :=
    ⟨_, rfl, rfl, by decide⟩
  obtain ⟨governing, governs, required, denied⟩ := governs
  refine ⟨state, record, governing, _, reachable, isActive, inactive, loaded,
    same ▸ governs, congrArg Prod.fst resolved, required, rfl, by decide,
    denied, ?_⟩
  intro noWeaker
  have approved := noWeaker.approval required
  cases approved

/-- Exact bytes, and no rules. -/
def exactBundle : PolicyBundle where
  apiVersion := some "urp.dev/v1"
  kind := some "ReductionPolicy"
  metadata := some { name := some "default-safe", version := some "1" }
  spec := some {
    defaults := some { contract := some "exact_bytes" }
    rules := some [] }

/-- A bundle without rules is not escaped. -/
theorem namedBundle_noWeaker_sample :
    ∃ state governing named, ReachableStore Host.counting state ∧
      evaluatePolicy sampleFile (some exactBundle.sorted) = .ok governing ∧
      (resolvedDecision Host.counting {}
        (sampleFile.naming (.str "unpublished")) state.files).1 = .ok named ∧
      named.NoWeaker governing := by
  obtain ⟨state, reachable, isActive, others, published, found, same⟩ :=
    @exists_store Host.counting exactBundle "1" (by decide) rfl rfl (by decide)
  have inactive := others "unpublished" (by decide)
  have resolved := @resolvedDecision_of_inactive sampleFile
    (.str "unpublished") Host.counting _ _ {} isActive rfl inactive
  have governs : ∃ governing,
      evaluatePolicy sampleFile (some exactBundle.sorted) = .ok governing :=
    ⟨_, rfl⟩
  obtain ⟨governing, governs⟩ := governs
  obtain ⟨record, loaded, decided⟩ := @namedBundle_noWeaker_iff Host.counting
    _ reachable isActive {} sampleFile (.str "unpublished") rfl inactive
  have sameRecord : record = published := by
    rw [loaded] at found
    exact Except.ok.inj (congrArg Prod.fst found)
  rw [sameRecord, same] at decided
  refine ⟨state, governing, _, reachable, governs, congrArg Prod.fst resolved,
    (decided governing _ governs (congrArg Prod.fst resolved)).mpr (.inr ?_)⟩
  constructor
  · rintro rule ⟨⟩
  · intro looksUp
    exact absurd looksUp (by decide)

end Urp
