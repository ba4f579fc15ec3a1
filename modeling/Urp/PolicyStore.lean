import Urp.Ledger
import Urp.Objects

/-!
# The policy store

`PolicyBundleStore` over its record files and the file of active versions.
Publishing writes a record, makes its version the active one and appends to
the ledger; a rollback only changes the active version.
-/

namespace Urp

open Python

structure PolicyRecord where
  name : String
  version : String
  publishedAt : String
  bundle : PolicyBundle
  bundleHash : String

/-- What stands at `active.json`: a bundle of that name has its directory
there. -/
inductive ActiveFile where
  | absent
  | file (active : Dict String String)
  | directory

/-- The record files by name and version, as they read back. -/
structure PolicyFiles where
  records : Dict (String × String) PolicyRecord := ∅
  activeFile : ActiveFile := .absent

structure PolicyState where
  files : PolicyFiles := {}
  ledger : LedgerState := {}

namespace PolicyState

def filesLens : Lens PolicyState PolicyFiles where
  get state := state.files
  set state files := { state with files }
  get_set _ _ := rfl

def ledgerLens : Lens PolicyState LedgerState where
  get state := state.ledger
  set state ledger := { state with ledger }
  get_set _ _ := rfl

end PolicyState

/-! ## Records after a round trip -/

namespace MatchClause

def sorted : MatchClause → MatchClause
  | tags value => tags value.sorted
  | clause => clause

theorem toPair_sorted (clause : MatchClause) :
    clause.sorted.toPair = (clause.toPair.1, clause.toPair.2.sorted) := by
  cases clause <;> rfl

end MatchClause

namespace PolicyRule

def sorted (rule : PolicyRule) : PolicyRule :=
  { rule with
    matching := rule.matching.map fun clauses =>
      (clauses.map MatchClause.sorted).insertionSort
        fun left right => left.toPair.1 ≤ right.toPair.1
    require := rule.require.map fun required =>
      { required with maxCacheAge := required.maxCacheAge.map Value.sorted } }

end PolicyRule

namespace PolicyBundle

def version? (bundle : PolicyBundle) : Option String :=
  bundle.metadata.bind PolicyMetadata.version

/-- `bundle.get("metadata", {}).get("tenant", "system")`. -/
def tenant (bundle : PolicyBundle) : String :=
  (bundle.metadata.bind PolicyMetadata.tenant).getD "system"

def sorted (bundle : PolicyBundle) : PolicyBundle :=
  { bundle with
    metadata := bundle.metadata.map fun metadata =>
      { metadata with labels := metadata.labels.map Object.sorted }
    spec := bundle.spec.map fun spec =>
      { spec with rules := spec.rules.map (List.map PolicyRule.sorted) } }

end PolicyBundle

/-! ## Operations -/

namespace PolicyBundleStore

def missingRecord (name version : String) : PyException :=
  .fileNotFound ("policies/" ++ name ++ "/" ++ version ++ ".json")

def activeIsDirectory : PyException :=
  .osError "[Errno 21] Is a directory: 'policies/active.json'"

def activeIsFile : PyException :=
  .osError "[Errno 17] File exists: 'policies/active.json'"

/-- `_read_active`. -/
def readActive : Program PolicyFiles PyException (Dict String String) := do
  let files ← Program.get
  match files.activeFile with
  | .absent => return ∅
  | .file active => return active
  | .directory => Program.raise activeIsDirectory

/-- `_write_active`. -/
def writeActive (name version : String) :
    Program PolicyFiles PyException Unit := do
  let _ ← Program.lift (validateIdentifier name "policy name")
  let _ ← Program.lift (validateIdentifier version "policy version")
  let active ← readActive
  Program.modify fun files =>
    { files with activeFile := .file (active.insert name version) }

/-- `policy_dir.mkdir(parents=True, exist_ok=True)`. -/
def makeDirectory (name : String) : Program PolicyFiles PyException Unit := do
  let files ← Program.get
  if name = "active.json" then
    match files.activeFile with
    | .file _ => Program.raise activeIsFile
    | _ => Program.modify fun files => { files with activeFile := .directory }
  else return ()

/-- Write the record's file. -/
def writeRecord (record : PolicyRecord) :
    Program PolicyFiles PyException Unit := do
  makeDirectory record.name
  Program.modify fun files =>
    { files with
      records := files.records.insert (record.name, record.version)
        { record with bundle := record.bundle.sorted } }

/-- `stable_json_hash(bundle)`. -/
def bundleHash (bundle : PolicyBundle) : String :=
  stableJsonHash bundle.toValue

def get (name version : String) :
    Program PolicyFiles PyException PolicyRecord := do
  let _ ← Program.lift (validateIdentifier name "policy name")
  let _ ← Program.lift (validateIdentifier version "policy version")
  let files ← Program.get
  match files.records.lookup (name, version) with
  | none => Program.raise (missingRecord name version)
  | some record =>
      if bundleHash record.bundle = record.bundleHash then
        return record
      else
        Program.raise (.valueError
          ("policy bundle integrity check failed: " ++ name ++ "@" ++ version))

def active (name : String) : Program PolicyFiles PyException PolicyRecord := do
  let _ ← Program.lift (validateIdentifier name "policy name")
  let active ← readActive
  match active.lookup name with
  | none => Program.raise (.keyError name)
  | some version => get name version

section Commands

variable (host : Host) (session : Session)

/-- `publish` of a bundle that is already loaded. -/
def publish (bundle : PolicyBundle) (actor : String) :
    Program PolicyState PyException PolicyRecord := do
  Program.lift (validatePolicyBundle bundle)
  let name ← Program.lift
    (validateIdentifier (bundle.name?.getD "default") "policy name")
  let version ← Program.lift (validateIdentifier
    (textOr bundle.version?
      (String.ofList ((bundleHash bundle).toList.take 16))) "policy version")
  let publishedAt ← Program.focus PolicyState.ledgerLens
    (Program.focus LedgerState.supplyLens host.utcNow)
  let record : PolicyRecord :=
    { name, version, publishedAt, bundle, bundleHash := bundleHash bundle }
  Program.focus PolicyState.filesLens (writeRecord record)
  Program.focus PolicyState.filesLens (writeActive name version)
  let _ ← Program.focus PolicyState.ledgerLens (JSONLLedger.record host session
    { eventType := "policy.bundle.published"
      tenant := bundle.tenant
      policyBundleId := some name
      actor := some actor
      decision := some version
      details := .ofList [("bundle_hash", .str record.bundleHash)] })
  return record

def rollback (name version actor : String) :
    Program PolicyState PyException PolicyRecord := do
  let record ← Program.focus PolicyState.filesLens (get name version)
  let previous ← Program.focus PolicyState.filesLens readActive
  Program.focus PolicyState.filesLens (writeActive name version)
  let _ ← Program.focus PolicyState.ledgerLens (JSONLLedger.record host session
    { eventType := "policy.bundle.rolled_back"
      tenant := record.bundle.tenant
      policyBundleId := some name
      actor := some actor
      decision := some version
      details := .ofList
        [("previous_version", optionalText (previous.lookup name))] })
  return record

/-- `policy_name or os.environ.get("URP_ACTIVE_POLICY")`. -/
def selectedName (policyName : Option String) : String :=
  textOr policyName (session.activePolicy.getD "")

def activeForWorkUnit (policyName : Option String) :
    Program PolicyFiles PyException (Option PolicyRecord) := do
  let versions ← readActive
  let selected := selectedName session policyName
  if selected ≠ "" then
    if versions.contains selected then do
      let name ← Program.lift (validateIdentifier selected "policy name")
      let record ← active name
      return some record
    else return none
  else if versions.contains "default-safe" then do
    let record ← active "default-safe"
    return some record
  else
    match versions.entries with
    | [(name, _)] => do
        let record ← active name
        return some record
    | _ => return none

end Commands

end PolicyBundleStore

/-- `resolve_active_policy_bundle`. -/
def resolveActivePolicyBundle (session : Session)
    (policyName : Option String) :
    Program PolicyFiles PyException (Option PolicyBundle) := do
  let record ← PolicyBundleStore.activeForWorkUnit session policyName
  return record.map PolicyRecord.bundle

/-- The name that `execute_work_unit` asks the store for. -/
def policyName (host : Host) (workUnit : WorkUnit) : Option String :=
  let identifier := workUnit.policyContext.get "policy_bundle_id"
  let named := if identifier.isTruthy then identifier
    else workUnit.policyContext.get "policy_bundle"
  if named.isTruthy then some (host.str named) else none

/-- The decision on a work unit under the bundle that the store resolves. -/
def resolvedDecision (host : Host) (session : Session) (workUnit : WorkUnit) :
    Program PolicyFiles PyException PolicyDecision := do
  let bundle ← resolveActivePolicyBundle session (policyName host workUnit)
  Program.lift (evaluatePolicy workUnit bundle)

/-! ## Runs of publishes and rollbacks -/

inductive PolicyCommand where
  | publish (bundle : PolicyBundle) (actor : String)
  | rollback (name version actor : String)

def policyStep (host : Host) (state : PolicyState)
    (command : Session × PolicyCommand) :
    Except PyException PolicyRecord × PolicyState :=
  match command with
  | (session, .publish bundle actor) =>
      PolicyBundleStore.publish host session bundle actor state
  | (session, .rollback name version actor) =>
      PolicyBundleStore.rollback host session name version actor state

end Urp
