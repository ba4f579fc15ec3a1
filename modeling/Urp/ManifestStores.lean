import Urp.ManifestStore
import Urp.WorkUnitStore

/-!
# The manifest stores

The stores keep any manifest that its schema accepts, with the dictionaries
of the `Manifest` dataclass; the executor's own manifests have types for most
of them.  `InMemoryManifestStore` keeps the manifests and an index by work
unit, `FileManifestStore` searches its files, and `SQLiteManifestStore`
queries a table.
-/

namespace Urp

open Python

theorem mem_sortedFiles {α : Type} {files : Dict String α} {value : α} :
    value ∈ sortedFiles files ↔ ∃ key, files.lookup key = some value := by
  rw [← Dict.mem_values_iff]
  exact ((List.perm_insertionSort _ files.entries).map Prod.snd).mem_iff

/-- `list`. -/
def FileManifestStore.list (session : Session) (tenant : Option String) :
    Program ManifestFiles PyException (List Manifest) := do
  let files ← Program.get
  match session.tenantOr tenant with
  | none => return sortedFiles files
  | some tenant =>
      return (sortedFiles files).filter fun manifest => manifest.tenant = tenant

namespace Records

structure Manifest where
  workUnitId : String
  tenant : String
  kind : WorkUnitKind
  contract : Contract
  logicalRef : String
  state : String := "active"
  nameSpace : String := "default"
  traceId : Option String := none
  policy : Object := ∅
  classification : Object := ∅
  physical : Object := ∅
  plan : Object := ∅
  verification : Object := ∅
  lineage : Object := ∅
  telemetry : Object := ∅
  signatures : List Object := []
  manifestVersion : String := "urp.manifest.v1"
  manifestId : String
  createdAt : String

namespace Manifest

/-- The manifest with its dictionaries changed. -/
def mapData (change : Object → Object) (manifest : Manifest) : Manifest :=
  { manifest with
    policy := change manifest.policy
    classification := change manifest.classification
    physical := change manifest.physical
    plan := change manifest.plan
    verification := change manifest.verification
    lineage := change manifest.lineage
    telemetry := change manifest.telemetry
    signatures := manifest.signatures.map change }

/-- The manifest as it reads back from its JSON text. -/
def reloaded (manifest : Manifest) : Manifest :=
  { manifest.mapData Object.reloaded with
    nameSpace := textOr (some manifest.nameSpace) "default" }

/-- The dictionaries of the manifest. -/
def data (manifest : Manifest) : List Object :=
  [manifest.policy, manifest.classification, manifest.physical, manifest.plan,
    manifest.verification, manifest.lineage, manifest.telemetry] ++
    manifest.signatures

/-- Some dictionary has a byte string. -/
def hasBytes (manifest : Manifest) : Bool :=
  manifest.data.any fun object => object.toValue.hasBytes

end Manifest

/-! ## Validation -/

/-- A property of an object schema. -/
structure Property where
  key : String
  required : Bool
  valid : Value → Bool

/-- An object with these properties and no others. -/
def isObjectOf (properties : List Property) : Value → Bool
  | .dict entries =>
      (properties.all fun property =>
        match Entries.lookup entries property.key with
        | none => !property.required
        | some value => property.valid value) &&
      entries.all fun entry =>
        properties.any fun property => property.key = entry.1
  | _ => false

def isBoolean : Value → Bool
  | .bool _ => true
  | _ => false

def isNumber : Value → Bool
  | .int _ | .float _ => true
  | _ => false

def isStringOrNull : Value → Bool
  | .str _ | .none => true
  | _ => false

def isStringArray : Value → Bool
  | .list items => items.all isString
  | _ => false

def isModeName : Value → Bool
  | .str text => text ∈ ["observe", "shadow", "enforce"]
  | _ => false

/-- The schema `compute_manifest`. -/
def isComputeManifest : Value → Bool :=
  isObjectOf [
    ⟨"request", true, isObjectOf [
      ⟨"request_hash", true, isString⟩, ⟨"tenant", true, isString⟩,
      ⟨"task_type", true, isString⟩, ⟨"input_tokens", true, isInteger⟩,
      ⟨"input_hash", false, isString⟩, ⟨"input_count", false, isInteger⟩]⟩,
    ⟨"contract", true, isObjectOf [
      ⟨"quality_required", true, isString⟩,
      ⟨"latency_budget_ms", false, isInteger⟩,
      ⟨"freshness_required_seconds", false, isInteger⟩,
      ⟨"privacy_scope", true, isString⟩]⟩,
    ⟨"plan", true, isObjectOf [
      ⟨"cache_checked", true, isBoolean⟩,
      ⟨"tools_checked", false, isStringArray⟩,
      ⟨"context_tokens_before", false, isInteger⟩,
      ⟨"context_tokens_after", false, isInteger⟩,
      ⟨"context_applied", false, isBoolean⟩,
      ⟨"selected_model", true, isString⟩, ⟨"fallback_model", false, isString⟩,
      ⟨"vector_dimensions", false, isInteger⟩, ⟨"mode", false, isModeName⟩]⟩,
    ⟨"result", true, isObjectOf [
      ⟨"accepted_by_verifier", true, isBoolean⟩,
      ⟨"fallback_used", true, isBoolean⟩,
      ⟨"fallback_reason", false, isString⟩,
      ⟨"large_model_called", false, isBoolean⟩,
      ⟨"cacheable_until", true, isStringOrNull⟩,
      ⟨"estimated_joules_avoided", true, isNumber⟩]⟩]

def isManifestState (state : String) : Bool :=
  state ∈ ["planned", "executing", "active", "superseded", "rehydrating",
    "failed", "quarantined", "expired", "tombstoned"]

/-- The schema `manifest`; the types give its other conditions. -/
def isValidManifest (host : Host) (manifest : Manifest) : Bool :=
  manifest.manifestVersion == "urp.manifest.v1" &&
    matchesIdPattern "mf_" manifest.manifestId &&
    isManifestState manifest.state && passesDateTime host manifest.createdAt

/-- `_validate_manifest`. -/
def validateManifest (host : Host) (manifest : Manifest) :
    Except PyException Unit := do
  validateNamedSchema "manifest" (isValidManifest host manifest)
  match manifest.physical.get "compute_manifest" with
  | .none => .ok ()
  | compute =>
      validateNamedSchema "compute_manifest" (isComputeManifest compute)

/-- `_enforce_request_tenant`. -/
def enforceRequestTenant (session : Session) (manifest : Manifest) :
    Except PyException Unit :=
  requireTenant session manifest.tenant

/-- `_require_manifest_tenant`. -/
def requireManifestTenant (manifest : Manifest) (tenant : String) :
    Except PyException Unit :=
  if manifest.tenant = tenant then .ok ()
  else .error (tenantMismatch tenant manifest.tenant)

/-- The operations of a manifest store, each under a session. -/
structure ManifestStore (σ : Type) where
  put : Session → Manifest → Program σ PyException Unit
  get : Session → String → Program σ PyException Manifest
  getByWorkUnit : Session → String → Program σ PyException Manifest
  list : Session → Option String → Program σ PyException (List Manifest)
  findByLogicalRef : Session → String → Program σ PyException (List Manifest)

/-- `get_for_tenant`, which the stores have in common. -/
def ManifestStore.getForTenant {σ : Type} (store : ManifestStore σ)
    (session : Session) (manifestId tenant : String) :
    Program σ PyException Manifest := do
  let manifest ← store.get session manifestId
  Program.lift (requireManifestTenant manifest tenant)
  return manifest

/-- The manifests of a logical reference. -/
def withLogicalRef (logicalRef : String) (manifests : List Manifest) :
    List Manifest :=
  manifests.filter fun m => m.logicalRef = logicalRef

/-! ## In memory -/

structure InMemoryManifests where
  byId : Dict String Manifest := ∅
  byWorkUnit : Dict String String := ∅

namespace InMemoryManifestStore

section Operations

variable (host : Host) (session : Session)

def put (manifest : Manifest) :
    Program InMemoryManifests PyException Unit := do
  Program.lift (enforceRequestTenant session manifest)
  Program.lift (validateManifest host manifest)
  Program.modify fun store => {
    byId := store.byId.insert manifest.manifestId manifest
    byWorkUnit :=
      store.byWorkUnit.insert manifest.workUnitId manifest.manifestId }

def get (manifestId : String) :
    Program InMemoryManifests PyException Manifest := do
  let store ← Program.get
  match store.byId.lookup manifestId with
  | none => Program.raise (.keyError manifestId)
  | some manifest => do
      Program.lift (enforceRequestTenant session manifest)
      return manifest

def getByWorkUnit (workUnitId : String) :
    Program InMemoryManifests PyException Manifest := do
  let store ← Program.get
  match store.byWorkUnit.lookup workUnitId with
  | none => Program.raise (.keyError workUnitId)
  | some manifestId =>
      match store.byId.lookup manifestId with
      | none => Program.raise (.keyError manifestId)
      | some manifest => do
          Program.lift (enforceRequestTenant session manifest)
          return manifest

def list (tenant : Option String) :
    Program InMemoryManifests PyException (List Manifest) := do
  let store ← Program.get
  return rowsOf Manifest.tenant (session.tenantOr tenant) store.byId.values

def findByLogicalRef (logicalRef : String) :
    Program InMemoryManifests PyException (List Manifest) := do
  let manifests ← list session none
  return withLogicalRef logicalRef manifests

end Operations

def store (host : Host) : ManifestStore InMemoryManifests where
  put := put host
  get := get
  getByWorkUnit := getByWorkUnit
  list := list
  findByLogicalRef := findByLogicalRef

end InMemoryManifestStore

/-! ## Files -/

/-- The manifest files by identifier, as they read back. -/
abbrev ManifestFiles : Type := Dict String Manifest

namespace FileManifestStore

section Operations

variable (host : Host) (session : Session)

/-- `_path`. -/
def path (manifestId : String) : Except PyException String :=
  validateIdentifier manifestId "manifest id" "mf_"

def put (manifest : Manifest) : Program ManifestFiles PyException Unit := do
  Program.lift (enforceRequestTenant session manifest)
  Program.lift (validateManifest host manifest)
  let manifestId ← Program.lift (path manifest.manifestId)
  Program.modify fun files => files.insert manifestId manifest.reloaded

def get (manifestId : String) : Program ManifestFiles PyException Manifest := do
  let manifestId ← Program.lift (path manifestId)
  let files ← Program.get
  match files.lookup manifestId with
  | none =>
      Program.raise (Urp.FileManifestStore.missingManifest manifestId)
  | some manifest => do
      Program.lift (enforceRequestTenant session manifest)
      return manifest

/-- An empty tenant is a tenant here. -/
def list (tenant : Option String) :
    Program ManifestFiles PyException (List Manifest) := do
  let files ← Program.get
  match session.tenantOr tenant with
  | none => return sortedFiles files
  | some tenant =>
      return (sortedFiles files).filter fun manifest =>
        manifest.tenant = tenant

def getByWorkUnit (workUnitId : String) :
    Program ManifestFiles PyException Manifest := do
  let manifests ← list session none
  match manifests.find? fun manifest => manifest.workUnitId = workUnitId with
  | some manifest => return manifest
  | none => Program.raise (.keyError workUnitId)

def findByLogicalRef (logicalRef : String) :
    Program ManifestFiles PyException (List Manifest) := do
  let manifests ← list session none
  return withLogicalRef logicalRef manifests

end Operations

def store (host : Host) : ManifestStore ManifestFiles where
  put := put host
  get := get
  getByWorkUnit := getByWorkUnit
  list := list
  findByLogicalRef := findByLogicalRef

end FileManifestStore

/-! ## SQLite -/

/-- The payloads of the rows, as they read back, in the order of the rowids.
The other columns of a row are fields of its payload. -/
abbrev ManifestTable : Type := List Manifest

/-- `insert or replace`: the new row is the last. -/
def ManifestTable.replace (table : ManifestTable) (manifest : Manifest) :
    ManifestTable :=
  table.filter (fun row => row.manifestId ≠ manifest.manifestId) ++ [manifest]

/-- `order by created_at desc, rowid desc limit 1`. -/
def newest : List Manifest → Option Manifest
  | [] => none
  | row :: rest =>
      match newest rest with
      | none => some row
      | some found =>
          if row.createdAt ≤ found.createdAt then some found else some row

theorem newest_eq_none_iff {rows : List Manifest} :
    newest rows = none ↔ rows = [] := by
  cases rows with
  | nil => exact iff_of_true rfl rfl
  | cons row rest =>
      refine iff_of_false ?_ (List.cons_ne_nil _ _)
      intro absent
      unfold newest at absent
      split at absent
      · cases absent
      · split at absent <;> cases absent

theorem newest_spec {rows : List Manifest} {found : Manifest}
    (newer : newest rows = some found) :
    found ∈ rows ∧ ∀ row ∈ rows, row.createdAt ≤ found.createdAt := by
  induction rows generalizing found with
  | nil => cases newer
  | cons row rest ih =>
      unfold newest at newer
      split at newer
      · next absent =>
          cases newer
          cases newest_eq_none_iff.mp absent
          exact ⟨List.mem_cons_self, by simp⟩
      · next last same =>
          obtain ⟨inside, latest⟩ := ih same
          split at newer
          · next before =>
              cases newer
              refine ⟨List.mem_cons_of_mem _ inside, ?_⟩
              intro other member
              rcases List.mem_cons.mp member with rfl | later
              · exact before
              · exact latest other later
          · next after =>
              cases newer
              refine ⟨List.mem_cons_self, ?_⟩
              intro other member
              rcases List.mem_cons.mp member with rfl | later
              · exact le_refl _
              · exact (latest other later).trans (not_le.mp after).le

/-- The last row is the newest when no row is later. -/
theorem newest_append_singleton {rows : List Manifest} {last : Manifest}
    (latest : ∀ row ∈ rows, row.createdAt ≤ last.createdAt) :
    newest (rows ++ [last]) = some last := by
  induction rows with
  | nil => rfl
  | cons row rest ih =>
      have tail := ih fun other member =>
        latest other (List.mem_cons_of_mem _ member)
      rw [List.cons_append]
      unfold newest
      rw [tail]
      exact if_pos (latest row List.mem_cons_self)

namespace SQLiteManifestStore

section Operations

variable (host : Host) (session : Session)

def put (manifest : Manifest) : Program ManifestTable PyException Unit := do
  Program.lift (enforceRequestTenant session manifest)
  let _ ← Program.lift
    (validateIdentifier manifest.manifestId "manifest id" "mf_")
  Program.lift (validateManifest host manifest)
  -- `json.dumps` without `default` refuses byte strings.
  if manifest.hasBytes then
    Program.raise .typeError
  else
    Program.modify fun table => table.replace manifest.reloaded

def get (manifestId : String) : Program ManifestTable PyException Manifest := do
  let manifestId ← Program.lift
    (validateIdentifier manifestId "manifest id" "mf_")
  let table ← Program.get
  match table.find? fun row => row.manifestId = manifestId with
  | none => Program.raise (.keyError manifestId)
  | some manifest => do
      Program.lift (enforceRequestTenant session manifest)
      return manifest

def getByWorkUnit (workUnitId : String) :
    Program ManifestTable PyException Manifest := do
  let table ← Program.get
  match newest (rowsOf Manifest.tenant session.currentTenant
    (table.filter fun row => row.workUnitId = workUnitId)) with
  | none => Program.raise (.keyError workUnitId)
  | some manifest => return manifest

def list (tenant : Option String) :
    Program ManifestTable PyException (List Manifest) := do
  let table ← Program.get
  return (rowsOf Manifest.tenant (session.tenantOr tenant) table).insertionSort
    fun p q => p.createdAt ≤ q.createdAt

def findByLogicalRef (logicalRef : String) :
    Program ManifestTable PyException (List Manifest) := do
  let table ← Program.get
  return (rowsOf Manifest.tenant session.currentTenant
    (withLogicalRef logicalRef table)).insertionSort
      fun p q => p.manifestId ≤ q.manifestId

end Operations

def store (host : Host) : ManifestStore ManifestTable where
  put := put host
  get := get
  getByWorkUnit := getByWorkUnit
  list := list
  findByLogicalRef := findByLogicalRef

end SQLiteManifestStore

end Records

end Urp
