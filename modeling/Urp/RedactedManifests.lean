import Urp.ManifestStores
import Urp.ObjectProgress
import Urp.Redaction

/-!
# Redacted manifests

`redact_manifest`, which hides the logical reference of a manifest, the
references of its chunks, and what stands under a sensitive key.  Neither
`bucket` nor `key` is one, so the redacted manifest of a put still tells where
its object is.
-/

namespace Urp

open Python Program

/-! ## Manifests as dictionaries -/

/-- The items of `to_dict()`. -/
def Records.Manifest.fields (manifest : Records.Manifest) :
    List (String × Value) :=
  [("manifest_version", .str manifest.manifestVersion),
    ("manifest_id", .str manifest.manifestId),
    ("work_unit_id", .str manifest.workUnitId),
    ("tenant", .str manifest.tenant), ("kind", .str manifest.kind.value),
    ("contract", .str manifest.contract.value),
    ("logical_ref", .str manifest.logicalRef),
    ("namespace", .str manifest.nameSpace),
    ("trace_id", optionalText manifest.traceId),
    ("state", .str manifest.state), ("created_at", .str manifest.createdAt),
    ("policy", manifest.policy.toValue),
    ("classification", manifest.classification.toValue),
    ("physical", manifest.physical.toValue), ("plan", manifest.plan.toValue),
    ("verification", manifest.verification.toValue),
    ("lineage", manifest.lineage.toValue),
    ("telemetry", manifest.telemetry.toValue),
    ("signatures", .list (manifest.signatures.map Object.toValue))]

section Records

/- A computed float. -/
variable (number : ℚ → Value)

/-- The `compute_manifest` of a chat request. -/
def ComputeManifest.toDict (record : ComputeManifest) : Value :=
  .dict [
    ("request", .dict [("request_hash", .str record.requestHash),
      ("tenant", .str record.tenant), ("task_type", .str record.taskType),
      ("input_tokens", .int record.inputTokens)]),
    ("contract", .dict [("quality_required", record.qualityRequired),
      ("latency_budget_ms", record.latencyBudgetMs),
      ("freshness_required_seconds", record.freshnessRequiredSeconds),
      ("privacy_scope", .str record.privacyScope)]),
    ("plan", .dict [("cache_checked", .bool record.cacheChecked),
      ("tools_checked", texts record.toolsChecked),
      ("context_tokens_before", .int record.contextTokensBefore),
      ("context_tokens_after", .int record.contextTokensAfter),
      ("context_applied", .bool record.contextApplied),
      ("selected_model", record.selectedModel),
      ("fallback_model", .str record.fallbackModel),
      ("mode", .str record.mode.value)]),
    ("result", .dict [
      ("accepted_by_verifier", .bool record.acceptedByVerifier),
      ("fallback_used", .bool record.fallbackUsed),
      ("fallback_reason", .str record.fallbackReason),
      ("large_model_called", .bool record.largeModelCalled),
      ("cacheable_until", optionalText record.cacheableUntil),
      ("estimated_joules_avoided", number record.estimatedJoulesAvoided)])]

/-- The `compute_manifest` of an embedding request. -/
def EmbeddingManifest.toDict (record : EmbeddingManifest) : Value :=
  .dict [
    ("request", .dict [("request_hash", .str record.requestHash),
      ("input_hash", .str record.inputHash), ("tenant", .str record.tenant),
      ("task_type", .str record.taskType),
      ("input_count", .int record.inputCount),
      ("input_tokens", .int record.inputTokens)]),
    ("contract", .dict [("quality_required", record.qualityRequired),
      ("privacy_scope", .str record.privacyScope)]),
    ("plan", .dict [("cache_checked", .bool record.cacheChecked),
      ("selected_model", record.selectedModel),
      ("vector_dimensions", .int record.vectorDimensions)]),
    ("result", .dict [
      ("accepted_by_verifier", .bool record.acceptedByVerifier),
      ("fallback_used", .bool record.fallbackUsed),
      ("fallback_reason", .str record.fallbackReason),
      ("large_model_called", .bool record.largeModelCalled),
      ("cacheable_until", optionalText record.cacheableUntil),
      ("estimated_joules_avoided", number record.estimatedJoulesAvoided)])]

/-- The `physical` dictionary. -/
def Physical.toDict : Physical → Object
  | .exact adapter wholeSha256 logicalSize storedSize segments => .ofList <|
      (match adapter with
        | none => []
        | some name => [("adapter", .str name),
            ("external_integrations_required", .bool false)]) ++
        [("whole_sha256", .str wholeSha256), ("logical_size", .int logicalSize),
          ("stored_size", .int storedSize),
          ("segments", .list (segments.map Segment.toValue))]
  | .observed adapter wholeSha256 logicalSize => .ofList <|
      [("mode", .str Mode.observe.value), ("whole_sha256", .str wholeSha256),
        ("logical_size", .int logicalSize), ("stored_size", .int 0),
        ("segments", .list []), ("rehydratable", .bool false)] ++
        (match adapter with
          | none => []
          | some name => [("adapter", .str name)])
  | .compute record requestHash cacheKey cacheResult semanticHitScore =>
      .ofList [("compute_manifest", record.toDict number),
        ("request_hash", .str requestHash), ("cache_key", .str cacheKey),
        ("cache_result", .str cacheResult),
        ("semantic_hit_score", (semanticHitScore.map number).getD .none)]
  | .embedding record requestHash cacheKey cacheResult =>
      .ofList [("compute_manifest", record.toDict number),
        ("request_hash", .str requestHash), ("cache_key", .str cacheKey),
        ("cache_result", .str cacheResult)]

/-- The manifest with its dictionaries, as the store reads it back. -/
def Manifest.record (manifest : Manifest) : Records.Manifest :=
  Records.Manifest.reloaded {
    workUnitId := manifest.workUnitId
    tenant := manifest.tenant
    kind := manifest.kind
    contract := manifest.contract
    logicalRef := manifest.logicalRef
    state := manifest.state.value
    nameSpace := manifest.nameSpace
    traceId := some manifest.traceId
    policy := manifest.policy.toDict
    classification := manifest.classification
    physical := manifest.physical.toDict number
    plan := .ofList (manifest.plan.toDict.entries?.getD [])
    verification := manifest.verification.toDict
    lineage := manifest.lineage
    telemetry := manifest.telemetry
    manifestId := manifest.manifestId
    createdAt := manifest.createdAt }

end Records

/-! ## Redaction of a manifest -/

/-- `segment.pop("ref", None)`. -/
def withoutRef : Value → Value
  | .dict entries => .dict (Entries.erase entries "ref")
  | value => value

/-- What `redact_manifest` takes out of `physical`. -/
def redactPhysical : Value → Value
  | .dict entries =>
      let entries := Entries.erase entries "cache_key"
      match Entries.lookup entries "segments" with
      | some (.list segments) =>
          .dict (Entries.insert entries "segments"
            (.list (segments.map withoutRef)))
      | _ => .dict entries
  | value => value

section Redact

/- `lower` is `str.lower`. -/
variable (lower : String → String)

def redactManifest (manifest : Records.Manifest) : List (String × Value) :=
  let data := Entries.insert (redactEntries lower manifest.fields)
    "logical_ref" redacted
  match Entries.lookup data "physical" with
  | some physical => Entries.insert data "physical" (redactPhysical physical)
  | none => data

variable {lower}

theorem lookup_redactEntries (entries : List (String × Value)) (key : String) :
    Entries.lookup (redactEntries lower entries) key =
      (Entries.lookup entries key).map (redactValue lower (some key)) := by
  induction entries with
  | nil => rfl
  | cons entry rest ih =>
      obtain ⟨name, value⟩ := entry
      simp only [redactEntries, Entries.lookup, ih]
      by_cases same : name = key
      · subst same
        simp
      · simp [same]

/-- A dictionary under a key that is not sensitive stays one. -/
theorem redactValue_dict {key : String}
    (shown : isSensitiveKey lower key = false)
    (entries : List (String × Value)) :
    redactValue lower (some key) (.dict entries) =
      .dict (redactEntries lower entries) := by
  simp [redactValue, shown]

/-- So does a string. -/
theorem redactValue_str {key : String}
    (shown : isSensitiveKey lower key = false) (text : String) :
    redactValue lower (some key) (.str text) = .str text := by
  simp [redactValue, shown]

/-- Only three entries of a manifest are redacted in another way than by their
keys. -/
theorem lookup_redactManifest (manifest : Records.Manifest) {key : String}
    (location : key ≠ "logical_ref") (physical : key ≠ "physical") :
    Entries.lookup (redactManifest lower manifest) key =
      (Entries.lookup manifest.fields key).map
        (redactValue lower (some key)) := by
  have data : Entries.lookup (Entries.insert
      (redactEntries lower manifest.fields) "logical_ref" redacted) key =
        (Entries.lookup manifest.fields key).map
          (redactValue lower (some key)) := by
    rw [Entries.lookup_insert, if_neg (Ne.symm location),
      lookup_redactEntries]
  unfold redactManifest
  simp only
  split
  · rw [Entries.lookup_insert, if_neg (Ne.symm physical)]
    exact data
  · exact data

/-! ## What a redacted put shows -/

/-- Lower-case ASCII text is its own lower case. -/
def KeepsLower (lower : String → String) : Prop :=
  ∀ text : String, (text.toList.all fun c => c.isLower || c == '_') = true →
    lower text = text

/-- `data.get(key)` of a dictionary. -/
def entryOf (value : Value) (key : String) : Value :=
  match value with
  | .dict entries => Value.get entries key
  | _ => .none

/-- The bucket and the key in the lineage of a redacted manifest. -/
def shownLocation (data : List (String × Value)) : Value × Value :=
  let source := entryOf (Value.get data "lineage") "work_unit_metadata"
  (entryOf source "bucket", entryOf source "key")

theorem KeepsLower.shown (keeps : KeepsLower lower) {key : String}
    (ascii : (key.toList.all fun c => c.isLower || c == '_') = true)
    (apart : isSensitiveKey id key = false) :
    isSensitiveKey lower key = false := by
  unfold isSensitiveKey at apart ⊢
  rw [keeps key ascii]
  exact apart

/-- An entry of a dictionary that was read back twice and redacted. -/
theorem entryOf_redacted {name key : String}
    (named : isSensitiveKey lower name = false) {data : Object} {value : Value}
    (found : data.lookup key = some value) :
    entryOf (redactValue lower (some name) data.reloaded.reloaded.toValue) key =
      redactValue lower (some key)
        value.withText.sorted.withText.sorted := by
  have entry : data.reloaded.reloaded.lookup key =
      some value.withText.sorted.withText.sorted := by
    rw [Object.lookup_reloaded, Object.lookup_reloaded, found]
    rfl
  unfold Object.toValue
  rw [redactValue_dict named]
  unfold entryOf Value.get Value.getD
  simp only [lookup_redactEntries]
  change ((data.reloaded.reloaded.lookup key).map _).getD _ = _
  rw [entry]
  rfl

/-- The redacted manifest of a put shows its bucket and key. -/
theorem shownLocation_of_put (keeps : KeepsLower lower) (number : ℚ → Value)
    {put : ObjectPut} {manifest : Manifest}
    (lineage : manifest.lineage = (LocalS3Adapter.putLineage put).reloaded) :
    shownLocation (redactManifest lower (manifest.record number)) =
      put.location := by
  have shown : ∀ key ∈ ["lineage", "work_unit_metadata", "bucket", "key"],
      isSensitiveKey lower key = false := by
    intro key member
    apply keeps.shown
    · revert key
      decide
    · revert key
      decide +kernel
  have field : Entries.lookup (manifest.record number).fields "lineage" =
      some manifest.lineage.reloaded.toValue := by
    simp [Records.Manifest.fields, Entries.lookup, Manifest.record,
      Records.Manifest.reloaded, Records.Manifest.mapData]
  have data : Value.get (redactManifest lower (manifest.record number))
      "lineage" = redactValue lower (some "lineage")
        (LocalS3Adapter.putLineage put).reloaded.reloaded.toValue := by
    unfold Value.get Value.getD
    rw [lookup_redactManifest _ (by decide) (by decide), field, lineage]
    rfl
  have source : entryOf (Value.get (redactManifest lower
      (manifest.record number)) "lineage") "work_unit_metadata" =
        redactValue lower (some "work_unit_metadata")
          (LocalS3Adapter.putMetadata put).reloaded.reloaded.toValue := by
    rw [data, entryOf_redacted (shown _ (by simp))
      (LocalS3Adapter.lookup_putLineage put)]
    rfl
  have entry : ∀ key text, (key, Value.str text) ∈
      [("bucket", .str put.bucket), ("key", .str put.key),
        ("object_metadata", put.metadata.toValue),
        ("tags", put.tags.toValue)] → isSensitiveKey lower key = false →
      entryOf (redactValue lower (some "work_unit_metadata")
        (LocalS3Adapter.putMetadata put).reloaded.reloaded.toValue) key =
          .str text := by
    intro key text member plain
    rw [entryOf_redacted (shown _ (by simp))
      (LocalS3Adapter.lookup_putMetadata put member)]
    exact redactValue_str plain text
  unfold shownLocation
  simp only [source]
  rw [entry "bucket" put.bucket (by simp) (shown _ (by simp)),
    entry "key" put.key (by simp) (shown _ (by simp))]
  rfl

/-- A put that returns wrote a manifest that shows its bucket and key. -/
theorem shownLocation_of_run (keeps : KeepsLower lower) (number : ℚ → Value)
    {host : Host} {session : Session} {tenant : String} {put : ObjectPut}
    {gateway later : Gateway} {stored : StoredObject}
    (wrote : LocalS3Adapter.putObject host session tenant put gateway =
      (.ok stored, later)) :
    ∃ manifest, later.world.manifests.lookup stored.manifestId =
        some manifest ∧
      shownLocation (redactManifest lower (manifest.record number)) =
        put.location := by
  obtain ⟨manifest, writes, same⟩ :=
    (LocalS3Adapter.ensures_putObject host session tenant put gateway).of_ok
      wrote
  refine ⟨manifest.reloaded, ?_, ?_⟩
  · rw [writes.manifests, same]
    exact Dict.lookup_insert_self _ _ _
  · exact shownLocation_of_put keeps number
      (congrArg Object.reloaded writes.lineage)

/-- Two puts that differ in bucket and key at most have equal redacted
manifests exactly if they differ in neither. -/
theorem redactManifest_eq_iff (keeps : KeepsLower lower) (number : ℚ → Value)
    {host : Host} {session : Session} {tenant : String} {put : ObjectPut}
    {bucket key : String} {gateway later otherLater : Gateway}
    {stored otherStored : StoredObject}
    (wrote : LocalS3Adapter.putObject host session tenant put gateway =
      (.ok stored, later))
    (wroteOther : LocalS3Adapter.putObject host session tenant
      { put with bucket, key } gateway = (.ok otherStored, otherLater)) :
    ∃ manifest other,
      later.world.manifests.lookup stored.manifestId = some manifest ∧
        otherLater.world.manifests.lookup otherStored.manifestId = some other ∧
        (redactManifest lower (manifest.record number) =
            redactManifest lower (other.record number) ↔
          put.bucket = bucket ∧ put.key = key) := by
  obtain ⟨manifest, found, shown⟩ := shownLocation_of_run keeps number wrote
  obtain ⟨other, otherFound, otherShown⟩ :=
    shownLocation_of_run keeps number wroteOther
  refine ⟨manifest, other, found, otherFound, ?_⟩
  constructor
  · intro same
    rw [same, otherShown] at shown
    simp only [ObjectPut.location, Prod.mk.injEq, Value.str.injEq] at shown
    exact ⟨shown.1.symm, shown.2.symm⟩
  · rintro ⟨rfl, rfl⟩
    rw [wrote] at wroteOther
    cases wroteOther
    rw [found] at otherFound
    cases otherFound
    rfl

end Redact

/-! ## One object in two buckets -/

theorem keepsLower_toLower : KeepsLower String.toLower := by
  intro text ascii
  have same : ∀ c ∈ text.toList, Char.toLower c = c := by
    intro c member
    have lower := List.all_eq_true.mp ascii c member
    have above : ¬ c.val ≤ 'Z'.val := by
      simp only [Bool.or_eq_true, isLower_iff, beq_iff_eq,
        UInt32.le_iff_toNat_le] at lower ⊢
      rcases lower with ⟨low, -⟩ | rfl
      · have top : 'Z'.val.toNat = 90 := rfl
        change ¬ c.toNat ≤ 'Z'.val.toNat
        omega
      · decide
    unfold Char.toLower
    exact dif_neg fun both => above both.2
  apply String.toList_inj.mp
  change (text.map Char.toLower).toList = _
  rw [String.toList_map, List.map_congr_left same, List.map_id']

/-- The same bytes put under one key into two buckets. -/
theorem redactManifest_eq_iff_sample :
    ∃ stored later otherStored otherLater,
      LocalS3Adapter.putObject Host.counting {} "acme"
          (LocalS3Adapter.samplePut "docs") {} = (.ok stored, later) ∧
        LocalS3Adapter.putObject Host.counting {} "acme"
          (LocalS3Adapter.samplePut "logs") {} = (.ok otherStored, otherLater) ∧
        ∃ manifest other,
          later.world.manifests.lookup stored.manifestId = some manifest ∧
            otherLater.world.manifests.lookup otherStored.manifestId =
              some other ∧
            (redactManifest String.toLower (manifest.record fun _ => .none) =
                redactManifest String.toLower
                  (other.record fun _ => .none) ↔
              "docs" = "logs" ∧ "a" = "a") := by
  obtain ⟨stored, later, run, -⟩ := LocalS3Adapter.samplePut_returns_first
    "docs" (by decide)
  obtain ⟨otherStored, otherLater, otherRun, -⟩ :=
    LocalS3Adapter.samplePut_returns_first "logs" (by decide)
  refine ⟨stored, later, otherStored, otherLater, run, otherRun, ?_⟩
  exact redactManifest_eq_iff keepsLower_toLower (fun _ => .none) run otherRun

/-- They have different redacted manifests. -/
theorem redactManifest_shows_bucket :
    ∃ stored later otherStored otherLater,
      LocalS3Adapter.putObject Host.counting {} "acme"
          (LocalS3Adapter.samplePut "docs") {} = (.ok stored, later) ∧
        LocalS3Adapter.putObject Host.counting {} "acme"
          { LocalS3Adapter.samplePut "docs" with bucket := "logs" } {} =
            (.ok otherStored, otherLater) ∧
        ∃ manifest other,
          later.world.manifests.lookup stored.manifestId = some manifest ∧
            otherLater.world.manifests.lookup otherStored.manifestId =
              some other ∧
            redactManifest String.toLower (manifest.record fun _ => .none) ≠
              redactManifest String.toLower (other.record fun _ => .none) := by
  obtain ⟨stored, later, run, -⟩ := LocalS3Adapter.samplePut_returns_first
    "docs" (by decide)
  obtain ⟨otherStored, otherLater, otherRun, -⟩ :=
    LocalS3Adapter.samplePut_returns_first "logs" (by decide)
  obtain ⟨manifest, found, shown⟩ :=
    shownLocation_of_run keepsLower_toLower (fun _ => .none) run
  obtain ⟨other, otherFound, otherShown⟩ :=
    shownLocation_of_run keepsLower_toLower (fun _ => .none) otherRun
  refine ⟨stored, later, otherStored, otherLater, run, otherRun, manifest,
    other, found, otherFound, fun same => ?_⟩
  rw [same, otherShown] at shown
  have buckets : Value.str "logs" = .str "docs" := congrArg Prod.fst shown
  exact absurd (Value.str.inj buckets) (by decide)

end Urp
