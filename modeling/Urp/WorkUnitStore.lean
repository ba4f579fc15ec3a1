import Urp.Encoding
import Urp.Ledger
import Urp.Objects

/-!
# The work-unit stores

`InMemoryWorkUnitStore` keeps the work units themselves.  `FileWorkUnitStore`
keeps one JSON file for each identifier, with the payload encoded.
-/

namespace Urp

open Python

/-- `json_safe_work_unit`. -/
def jsonSafeWorkUnit (workUnit : WorkUnit) : WorkUnit :=
  { workUnit with payload := encodeJsonValue workUnit.payload }

/-- The record as it reads back from its file. -/
def WorkUnit.reloaded (workUnit : WorkUnit) : WorkUnit :=
  { workUnit with
    payload := workUnit.payload.withText.sorted
    metadata := workUnit.metadata.reloaded
    policyContext := workUnit.policyContext.reloaded
    payloadRef := workUnit.payloadRef.withText.sorted }

/-- `work_unit_from_json_safe`. -/
def workUnitFromJsonSafe (host : Host) (row : WorkUnit) :
    Program Supply PyException WorkUnit := do
  let payload ← Program.lift (decodeJsonValue host row.payload)
  let traceId ← orDraw (some row.traceId) (host.newId "tr")
  let id ← orDraw (some row.id) (host.newId "wu")
  let createdAt ← orDraw (some row.createdAt) host.utcNow
  return { row with payload, traceId, id, createdAt }

/-- `_enforce_tenant`. -/
def enforceWorkUnitTenant (session : Session) (workUnit : WorkUnit) :
    Except PyException Unit :=
  requireTenant session workUnit.tenant

namespace InMemoryWorkUnitStore

section Operations

variable (host : Host) (session : Session)

def put (workUnit : WorkUnit) :
    Program (Dict String WorkUnit) PyException WorkUnit := do
  Program.lift (enforceWorkUnitTenant session workUnit)
  Program.lift (validateWorkUnit host (jsonSafeWorkUnit workUnit))
  Program.modify fun rows => rows.insert workUnit.id workUnit
  return workUnit

def get (workUnitId : String) :
    Program (Dict String WorkUnit) PyException WorkUnit := do
  let rows ← Program.get
  match rows.lookup workUnitId with
  | none => Program.raise (.keyError workUnitId)
  | some row => do
      Program.lift (enforceWorkUnitTenant session row)
      return row

def list (tenant : Option String) :
    Program (Dict String WorkUnit) PyException (List WorkUnit) := do
  let rows ← Program.get
  return rowsOf WorkUnit.tenant (session.tenantOr tenant) rows.values

end Operations

end InMemoryWorkUnitStore

/-- The files by identifier, as they read back. -/
structure WorkUnitFiles where
  rows : Dict String WorkUnit := ∅
  supply : Supply := {}

namespace WorkUnitFiles

def supplyLens : Lens WorkUnitFiles Supply where
  get files := files.supply
  set files supply := { files with supply }
  get_set _ _ := rfl

end WorkUnitFiles

/-- The files of a store under `root.glob(...)`, sorted by their names. -/
def sortedFiles {α : Type} (files : Dict String α) : List α :=
  (files.entries.insertionSort fun p q =>
    p.1 ++ ".json" ≤ q.1 ++ ".json").map Prod.snd

namespace FileWorkUnitStore

def missingWorkUnit (workUnitId : String) : PyException :=
  .fileNotFound ("work_units/" ++ workUnitId ++ ".json")

section Operations

variable (host : Host) (session : Session)

/-- `_path`. -/
def path (workUnitId : String) : Except PyException String :=
  validateIdentifier workUnitId "work unit id" "wu_"

def put (workUnit : WorkUnit) :
    Program WorkUnitFiles PyException WorkUnit := do
  Program.lift (enforceWorkUnitTenant session workUnit)
  let data := jsonSafeWorkUnit workUnit
  Program.lift (validateWorkUnit host data)
  let workUnitId ← Program.lift (path workUnit.id)
  Program.modify fun files =>
    { files with rows := files.rows.insert workUnitId data.reloaded }
  return workUnit

def get (workUnitId : String) :
    Program WorkUnitFiles PyException WorkUnit := do
  let workUnitId ← Program.lift (path workUnitId)
  let files ← Program.get
  match files.rows.lookup workUnitId with
  | none => Program.raise (missingWorkUnit workUnitId)
  | some data => do
      let row ← Program.focus WorkUnitFiles.supplyLens
        (workUnitFromJsonSafe host data)
      Program.lift (enforceWorkUnitTenant session row)
      return row

/-- An empty tenant is a tenant here. -/
def list (tenant : Option String) :
    Program WorkUnitFiles PyException (List WorkUnit) := do
  let files ← Program.get
  let rows ← Program.forEach (sortedFiles files.rows) fun data =>
    Program.focus WorkUnitFiles.supplyLens (workUnitFromJsonSafe host data)
  match session.tenantOr tenant with
  | none => return rows
  | some tenant => return rows.filter fun row => row.tenant = tenant

end Operations

end FileWorkUnitStore

end Urp
