import Urp.Ledger
import Urp.ManifestStores

/-!
# The PostgreSQL stores

`PostgresManifestStore` and `PostgresLedger`, and the query of the ledgers.
The server is a parameter: it may refuse a row, and it sorts by a time that it
parses itself.
-/

namespace Urp

open Python

/-! ## Queries of a ledger -/

/-- The arguments of `query`. -/
structure LedgerQuery where
  tenant : Option String := none
  workUnitId : Option String := none
  manifestId : Option String := none
  eventTypes : List String := []
  limit : Option Int := none

namespace LedgerQuery

variable (query : LedgerQuery)

/-- An empty argument asks for nothing. -/
def asks (wanted : Option String) (found : Option String) : Bool :=
  match wanted with
  | none | some "" => true
  | some text => found = some text

/-- The event passes what the query asks of it besides its tenant. -/
def selects (event : LedgerEvent) : Bool :=
  asks query.workUnitId event.workUnitId &&
    asks query.manifestId event.manifestId &&
    (query.eventTypes.isEmpty || query.eventTypes.contains event.eventType)

/-- `rows[-limit:] if limit else rows`. -/
def lastRows (limit : Option Int) (rows : List LedgerEvent) :
    List LedgerEvent :=
  match limit with
  | none | some 0 => rows
  | some (.ofNat n) => rows.drop (rows.length - n)
  | some (.negSucc n) => rows.drop (n + 1)

theorem mem_of_mem_lastRows {limit : Option Int} {rows : List LedgerEvent}
    {event : LedgerEvent} (member : event ∈ lastRows limit rows) :
    event ∈ rows := by
  unfold lastRows at member
  split at member
  · exact member
  · exact member
  · exact List.mem_of_mem_drop member
  · exact List.mem_of_mem_drop member

theorem lastRows_ne_nil {limit : Option Int} {rows : List LedgerEvent}
    (sized : ∀ size, limit = some size → 0 ≤ size) (some : rows ≠ []) :
    lastRows limit rows ≠ [] := by
  unfold lastRows
  split
  · exact some
  · exact some
  · next n positive =>
      have counted : n ≠ 0 := fun zero => positive (by rw [zero])
      have long := List.length_pos_iff.mpr some
      rw [Ne, List.drop_eq_nil_iff]
      omega
  · next n =>
      have negative := sized _ rfl
      omega

end LedgerQuery

/-- `JSONLLedger.query`, which starts from what `read` lets the session see. -/
def JSONLLedger.query (host : Host) (session : Session) (query : LedgerQuery) :
    Program LedgerState PyException (List LedgerEvent) := do
  let events ← JSONLLedger.read host session
  return LedgerQuery.lastRows query.limit
    ((rowsOf LedgerEvent.tenant (session.tenantOr query.tenant) events).filter
      query.selects)

/-! ## The server -/

/-- What the server and its driver decide. -/
structure PostgresServer where
  takesManifest : Records.Manifest → Bool
  takesEvent : LedgerEvent → Bool
  /-- `ORDER BY created_at`. -/
  byTime : List Records.Manifest → List Records.Manifest
  byTime_perm : ∀ rows, (byTime rows).Perm rows

/-! ## Manifests -/

namespace Records

/-- The rows of `urp_manifests` by their primary key, as they read back. -/
abbrev PostgresManifests : Type := Dict String Manifest

namespace PostgresManifestStore

section Operations

variable (host : Host) (server : PostgresServer) (session : Session)

/-- The `compute_manifest` is not validated here. -/
def put (manifest : Manifest) : Program PostgresManifests PyException Unit := do
  Program.lift (enforceRequestTenant session manifest)
  let manifestId ← Program.lift
    (validateIdentifier manifest.manifestId "manifest id" "mf_")
  Program.lift (validateNamedSchema "manifest" (isValidManifest host manifest))
  -- `json.dumps` without `default` refuses byte strings.
  if manifest.hasBytes then Program.raise .typeError
  else if server.takesManifest manifest then
    Program.modify fun rows => rows.insert manifestId manifest.reloaded
  else Program.raise .databaseError

/-- The row is looked for among those of the session's tenant. -/
def get (manifestId : String) :
    Program PostgresManifests PyException Manifest := do
  let manifestId ← Program.lift
    (validateIdentifier manifestId "manifest id" "mf_")
  let rows ← Program.get
  match (rows.lookup manifestId).filter fun row =>
    inTenant session.currentTenant row.tenant with
  | none => Program.raise (.keyError manifestId)
  | some manifest => return manifest

def getByWorkUnit (workUnitId : String) :
    Program PostgresManifests PyException Manifest := do
  let workUnitId ← Program.lift
    (validateIdentifier workUnitId "work unit id" "wu_")
  let rows ← Program.get
  let found := (rowsOf Manifest.tenant session.currentTenant rows.values).filter
    fun row => row.workUnitId = workUnitId
  match (server.byTime found).getLast? with
  | none => Program.raise (.keyError workUnitId)
  | some manifest => return manifest

def list (tenant : Option String) :
    Program PostgresManifests PyException (List Manifest) := do
  let rows ← Program.get
  return server.byTime
    (rowsOf Manifest.tenant (session.tenantOr tenant) rows.values)

def findByLogicalRef (logicalRef : String) :
    Program PostgresManifests PyException (List Manifest) := do
  let rows ← Program.get
  return server.byTime (rowsOf Manifest.tenant session.currentTenant
    (withLogicalRef logicalRef rows.values))

end Operations

def store (host : Host) (server : PostgresServer) :
    ManifestStore PostgresManifests where
  put := put host server
  get := get
  getByWorkUnit := getByWorkUnit server
  list := list server
  findByLogicalRef := findByLogicalRef server

end PostgresManifestStore

end Records

/-! ## Events -/

/-- The rows of `urp_ledger` in the order of their sequence, as they read
back. -/
structure PostgresEvents where
  rows : List LedgerEvent := []
  supply : Supply := {}

namespace PostgresLedger

def supplyLens : Lens PostgresEvents Supply where
  get table := table.supply
  set table supply := { table with supply }
  get_set _ _ := rfl

variable (host : Host) (server : PostgresServer) (session : Session)

/-- `append`; the identifiers and hashes of the rows are unique. -/
def append (event : LedgerEvent) :
    Program PostgresEvents PyException LedgerEvent := do
  Program.lift (requireTenant session event.tenant)
  let table ← Program.get
  let chained := event.withChainHash
    (table.rows.getLast?.bind LedgerEvent.eventHash)
  Program.lift (validateLedgerEvent host chained)
  if chained.details.toValue.hasBytes then Program.raise .typeError
  else if server.takesEvent chained ∧ ∀ row ∈ table.rows,
      row.eventId ≠ chained.eventId ∧ row.eventHash ≠ chained.eventHash then do
    let row := { chained with details := chained.details.reloaded }
    Program.modify fun table => { table with rows := table.rows ++ [row] }
    return chained
  else Program.raise .databaseError

/-- `ledger.append(LedgerEvent(...))`. -/
def record (event : LedgerEvent) :
    Program PostgresEvents PyException LedgerEvent := do
  let event ← Program.focus supplyLens (JSONLLedger.stamp host event)
  append host server session event

def read : Program PostgresEvents PyException (List LedgerEvent) := do
  let table ← Program.get
  return rowsOf LedgerEvent.tenant session.currentTenant table.rows

/-- The rows that a query selects. -/
def selected (query : LedgerQuery) (table : PostgresEvents) :
    List LedgerEvent :=
  (rowsOf LedgerEvent.tenant (session.tenantOr query.tenant)
    table.rows).filter query.selects

/-- A negative limit is an error of the server. -/
def query (query : LedgerQuery) :
    Program PostgresEvents PyException (List LedgerEvent) := do
  let table ← Program.get
  match query.limit with
  | some (.negSucc _) => Program.raise .databaseError
  | limit => return LedgerQuery.lastRows limit (selected session query table)

theorem query_of_sized {query : LedgerQuery} (table : PostgresEvents)
    (sized : ∀ limit, query.limit = some limit → 0 ≤ limit) :
    PostgresLedger.query session query table =
      (.ok (LedgerQuery.lastRows query.limit (selected session query table)),
        table) := by
  unfold PostgresLedger.query
  rw [Program.get_bind]
  cases limit : query.limit with
  | none => rfl
  | some size =>
      cases size with
      | ofNat n => rfl
      | negSucc n => exact absurd (sized _ limit) (by omega)

theorem sized_of_query {query : LedgerQuery} {table later : PostgresEvents}
    {events : List LedgerEvent}
    (run : PostgresLedger.query session query table = (.ok events, later)) :
    ∀ limit, query.limit = some limit → 0 ≤ limit := by
  unfold PostgresLedger.query at run
  rw [Program.get_bind] at run
  intro limit asked
  rw [asked] at run
  cases limit with
  | ofNat n => exact Int.natCast_nonneg n
  | negSucc n => cases run

end PostgresLedger

end Urp
