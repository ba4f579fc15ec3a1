import Urp.Library.Run
import Urp.PayloadEncoding
import Urp.PostgresStores

/-!
# Tenants of the stores

Every store and ledger side by side, the puts that fill them, and the reads of
a principal that is bound to a tenant.  A read that takes a tenant of its own
follows it in place of the principal's.
-/

namespace Urp

open Python Program

/-! ## Stores and ledgers -/

/-- The operations of a work-unit store, each under a session. -/
structure WorkUnitStore (σ : Type) where
  put : Session → WorkUnit → Program σ PyException WorkUnit
  get : Session → String → Program σ PyException WorkUnit
  list : Session → Option String → Program σ PyException (List WorkUnit)

/-- The operations of a ledger, each under a session. -/
structure LedgerStore (σ : Type) where
  record : Session → LedgerEvent → Program σ PyException LedgerEvent
  read : Session → Program σ PyException (List LedgerEvent)
  query : Session → LedgerQuery → Program σ PyException (List LedgerEvent)

def InMemoryWorkUnitStore.store (host : Host) :
    WorkUnitStore (Dict String WorkUnit) where
  put := put host
  get := get
  list := list

def FileWorkUnitStore.store (host : Host) : WorkUnitStore WorkUnitFiles where
  put := put host
  get := get host
  list := list host

def JSONLLedger.store (host : Host) : LedgerStore LedgerState where
  record := record host
  read := read host
  query := query host

def PostgresLedger.store (host : Host) (server : PostgresServer) :
    LedgerStore PostgresEvents where
  record := record host server
  read := read
  query := query

/-- One state for each back end. -/
structure Stores where
  memoryManifests : Records.InMemoryManifests := {}
  fileManifests : Records.ManifestFiles := ∅
  sqliteManifests : Records.ManifestTable := []
  postgresManifests : Records.PostgresManifests := ∅
  memoryWorkUnits : Dict String WorkUnit := ∅
  fileWorkUnits : WorkUnitFiles := {}
  jsonlLedger : LedgerState := {}
  postgresLedger : PostgresEvents := {}

namespace Stores

def memoryManifestsLens : Lens Stores Records.InMemoryManifests where
  get stores := stores.memoryManifests
  set stores part := { stores with memoryManifests := part }
  get_set _ _ := rfl

def fileManifestsLens : Lens Stores Records.ManifestFiles where
  get stores := stores.fileManifests
  set stores part := { stores with fileManifests := part }
  get_set _ _ := rfl

def sqliteManifestsLens : Lens Stores Records.ManifestTable where
  get stores := stores.sqliteManifests
  set stores part := { stores with sqliteManifests := part }
  get_set _ _ := rfl

def postgresManifestsLens : Lens Stores Records.PostgresManifests where
  get stores := stores.postgresManifests
  set stores part := { stores with postgresManifests := part }
  get_set _ _ := rfl

def memoryWorkUnitsLens : Lens Stores (Dict String WorkUnit) where
  get stores := stores.memoryWorkUnits
  set stores part := { stores with memoryWorkUnits := part }
  get_set _ _ := rfl

def fileWorkUnitsLens : Lens Stores WorkUnitFiles where
  get stores := stores.fileWorkUnits
  set stores part := { stores with fileWorkUnits := part }
  get_set _ _ := rfl

def jsonlLedgerLens : Lens Stores LedgerState where
  get stores := stores.jsonlLedger
  set stores part := { stores with jsonlLedger := part }
  get_set _ _ := rfl

def postgresLedgerLens : Lens Stores PostgresEvents where
  get stores := stores.postgresLedger
  set stores part := { stores with postgresLedger := part }
  get_set _ _ := rfl

end Stores

/-! ## Puts -/

inductive ManifestBackend
  | memory
  | file
  | sqlite
  | postgres

inductive WorkUnitBackend
  | memory
  | file

inductive LedgerBackend
  | jsonl
  | postgres

inductive StorePut
  | manifest (backend : ManifestBackend) (row : Records.Manifest)
  | workUnit (backend : WorkUnitBackend) (row : WorkUnit)
  | event (backend : LedgerBackend) (row : LedgerEvent)

section Operations

variable (host : Host) (server : PostgresServer)

open Records in
def StorePut.run (session : Session) : StorePut → Program Stores PyException Unit
  | .manifest .memory row =>
      focus Stores.memoryManifestsLens
        ((InMemoryManifestStore.store host).put session row)
  | .manifest .file row =>
      focus Stores.fileManifestsLens
        ((FileManifestStore.store host).put session row)
  | .manifest .sqlite row =>
      focus Stores.sqliteManifestsLens
        ((SQLiteManifestStore.store host).put session row)
  | .manifest .postgres row =>
      focus Stores.postgresManifestsLens
        ((PostgresManifestStore.store host server).put session row)
  | .workUnit .memory row => do
      let _ ← focus Stores.memoryWorkUnitsLens
        ((InMemoryWorkUnitStore.store host).put session row)
  | .workUnit .file row => do
      let _ ← focus Stores.fileWorkUnitsLens
        ((FileWorkUnitStore.store host).put session row)
  | .event .jsonl row => do
      let _ ← focus Stores.jsonlLedgerLens
        ((JSONLLedger.store host).record session row)
  | .event .postgres row => do
      let _ ← focus Stores.postgresLedgerLens
        ((PostgresLedger.store host server).record session row)

/-- A put under the session of whoever puts it. -/
def StorePut.step (stores : Stores) (input : Session × StorePut) :
    Except PyException Unit × Stores :=
  StorePut.run host server input.1 input.2 stores

/-! ## Reads -/

inductive ManifestRead
  | get (manifestId : String)
  | getForTenant (manifestId tenant : String)
  | getByWorkUnit (workUnitId : String)
  | list (tenant : Option String)
  | findByLogicalRef (logicalRef : String)

inductive WorkUnitRead
  | get (workUnitId : String)
  | list (tenant : Option String)

inductive LedgerRead
  | read
  | query (asked : LedgerQuery)

inductive StoreRead
  | manifests (backend : ManifestBackend) (asked : ManifestRead)
  | workUnits (backend : WorkUnitBackend) (asked : WorkUnitRead)
  | events (backend : LedgerBackend) (asked : LedgerRead)

def ManifestRead.run {σ : Type} (store : Records.ManifestStore σ)
    (session : Session) :
    ManifestRead → Program σ PyException (List Records.Manifest)
  | .get manifestId => do
      let manifest ← store.get session manifestId
      return [manifest]
  | .getForTenant manifestId tenant => do
      let manifest ← store.getForTenant session manifestId tenant
      return [manifest]
  | .getByWorkUnit workUnitId => do
      let manifest ← store.getByWorkUnit session workUnitId
      return [manifest]
  | .list tenant => store.list session tenant
  | .findByLogicalRef logicalRef => store.findByLogicalRef session logicalRef

def WorkUnitRead.run {σ : Type} (store : WorkUnitStore σ) (session : Session) :
    WorkUnitRead → Program σ PyException (List WorkUnit)
  | .get workUnitId => do
      let workUnit ← store.get session workUnitId
      return [workUnit]
  | .list tenant => store.list session tenant

def LedgerRead.run {σ : Type} (store : LedgerStore σ) (session : Session) :
    LedgerRead → Program σ PyException (List LedgerEvent)
  | .read => store.read session
  | .query asked => store.query session asked

/-- A row that a read returns. -/
inductive StoreRow
  | manifest (row : Records.Manifest)
  | workUnit (row : WorkUnit)
  | event (row : LedgerEvent)

def StoreRow.tenant : StoreRow → String
  | .manifest row => row.tenant
  | .workUnit row => row.tenant
  | .event row => row.tenant

/-- The rows of one kind that a back end returns. -/
def StoreRead.rows {σ α : Type} (lens : Lens Stores σ) (row : α → StoreRow)
    (body : Program σ PyException (List α)) :
    Program Stores PyException (List StoreRow) := do
  let found ← focus lens body
  return found.map row

open Records in
def StoreRead.run (session : Session) :
    StoreRead → Program Stores PyException (List StoreRow)
  | .manifests .memory asked =>
      rows Stores.memoryManifestsLens .manifest
        (asked.run (InMemoryManifestStore.store host) session)
  | .manifests .file asked =>
      rows Stores.fileManifestsLens .manifest
        (asked.run (FileManifestStore.store host) session)
  | .manifests .sqlite asked =>
      rows Stores.sqliteManifestsLens .manifest
        (asked.run (SQLiteManifestStore.store host) session)
  | .manifests .postgres asked =>
      rows Stores.postgresManifestsLens .manifest
        (asked.run (PostgresManifestStore.store host server) session)
  | .workUnits .memory asked =>
      rows Stores.memoryWorkUnitsLens .workUnit
        (asked.run (InMemoryWorkUnitStore.store host) session)
  | .workUnits .file asked =>
      rows Stores.fileWorkUnitsLens .workUnit
        (asked.run (FileWorkUnitStore.store host) session)
  | .events .jsonl asked =>
      rows Stores.jsonlLedgerLens .event
        (asked.run (JSONLLedger.store host) session)
  | .events .postgres asked =>
      rows Stores.postgresLedgerLens .event
        (asked.run (PostgresLedger.store host server) session)

end Operations

/-! ## Named tenants -/

def ManifestRead.named : ManifestRead → Option String
  | .list tenant => tenant
  | _ => none

def WorkUnitRead.named : WorkUnitRead → Option String
  | .list tenant => tenant
  | .get _ => none

def LedgerRead.named : LedgerRead → Option String
  | .query asked => asked.tenant
  | .read => none

/-- The tenant that an argument of the read names in place of the
principal's.  A query of the file goes through `read`, which keeps the
principal's. -/
def StoreRead.named : StoreRead → Option String
  | .manifests _ asked => asked.named
  | .workUnits _ asked => asked.named
  | .events .jsonl _ => none
  | .events .postgres asked => asked.named

/-- The manifests of a back end. -/
def Stores.manifests (stores : Stores) :
    ManifestBackend → List Records.Manifest
  | .memory => stores.memoryManifests.byId.values
  | .file => stores.fileManifests.values
  | .sqlite => stores.sqliteManifests
  | .postgres => stores.postgresManifests.values

/-- A ledger has an event of the tenant for the query. -/
def LedgerRead.Reveals (rows : List LedgerEvent) (tenant : String) :
    LedgerRead → Prop
  | .query asked =>
      -- The server refuses a negative limit.
      (∀ limit, asked.limit = some limit → 0 ≤ limit) ∧
      ∃ row ∈ rows, row.tenant = tenant ∧ asked.selects row = true
  | .read => False

/-- The stores have a row of the tenant for a read that names it. -/
def StoreRead.Reveals (host : Host) (stores : Stores) (tenant : String) :
    StoreRead → Prop
  | .manifests backend _ =>
      ∃ row ∈ stores.manifests backend, row.tenant = tenant
  | .workUnits .memory _ =>
      ∃ row ∈ stores.memoryWorkUnits.values, row.tenant = tenant
  | .workUnits .file _ =>
      -- A payload that does not decode fails the whole list.
      (∀ row ∈ stores.fileWorkUnits.rows.values,
        (decodeJsonValue host row.payload).isOk) ∧
      ∃ row ∈ stores.fileWorkUnits.rows.values, row.tenant = tenant
  | .events .jsonl _ => False
  | .events .postgres asked => asked.Reveals stores.postgresLedger.rows tenant

/-! ## Principals -/

/-- The principal of the session is bound to the tenant. -/
structure Session.BoundTo (session : Session) (tenant : String) : Prop where
  current : session.currentTenant = some tenant
  named : tenant ≠ ""

theorem textOr_ne_empty {asked : Option String} {fallback : String}
    (named : fallback ≠ "") : textOr asked fallback ≠ "" := by
  unfold textOr
  split
  · exact named
  · split
    · exact named
    · assumption

theorem mem_rowsOf_iff {α : Type} {owner : α → String} {tenant : String}
    (named : tenant ≠ "") {rows : List α} {row : α} :
    row ∈ rowsOf owner (some tenant) rows ↔ row ∈ rows ∧ owner row = tenant := by
  rw [rowsOf_eq_filter, List.mem_filter, inTenant_some named,
    decide_eq_true_iff]

namespace Session.BoundTo

variable {session : Session} {tenant : String}

theorem requireTenant_iff (bound : session.BoundTo tenant) {owner : String} :
    requireTenant session owner = .ok () ↔ owner = tenant := by
  rw [requireTenant_eq_ok_iff, bound.current, inTenant_some bound.named,
    decide_eq_true_iff]

/-- An argument that names a tenant is followed. -/
theorem tenantOr_eq (bound : session.BoundTo tenant) (asked : Option String) :
    session.tenantOr asked = some (textOr asked tenant) := by
  unfold Session.tenantOr textOr
  split
  · exact bound.current
  · simpa using bound.current
  · next other named =>
      have nonempty : other ≠ "" := named
      simp [nonempty]

theorem mem_rowsOf_current (bound : session.BoundTo tenant) {α : Type}
    {owner : α → String} {rows : List α} {row : α} :
    row ∈ rowsOf owner session.currentTenant rows ↔
      row ∈ rows ∧ owner row = tenant := by
  rw [bound.current, mem_rowsOf_iff bound.named]

theorem mem_rowsOf_asked (bound : session.BoundTo tenant) {α : Type}
    {owner : α → String} {asked : Option String} {rows : List α} {row : α} :
    row ∈ rowsOf owner (session.tenantOr asked) rows ↔
      row ∈ rows ∧ owner row = textOr asked tenant := by
  rw [bound.tenantOr_eq, mem_rowsOf_iff (textOr_ne_empty bound.named)]

end Session.BoundTo

/-- A read that follows its argument shows its own tenant's rows only, or
finds none of the tenant that the argument names. -/
theorem own_or_hidden_iff {asked : Option String} {tenant : String}
    {shown : String → Prop} :
    (shown (textOr asked tenant) → textOr asked tenant = tenant) ↔
      ∀ other, asked = some other → other ≠ "" → other ≠ tenant →
        ¬ shown other := by
  constructor
  · rintro own other rfl named foreign reveals
    have followed : textOr (some other) tenant = other := by
      simp [textOr, named]
    rw [followed] at own
    exact foreign (own reveals)
  · intro hidden reveals
    by_contra foreign
    cases asked with
    | none => exact foreign rfl
    | some other =>
        by_cases named : other = ""
        · exact foreign (by simp [textOr, named])
        · have followed : textOr (some other) tenant = other := by
            simp [textOr, named]
          rw [followed] at foreign reveals
          exact hidden other rfl named foreign reveals

/-- Every row that the body returns from the state is one of these. -/
def ReturnsOnly {σ ε α : Type} (body : Program σ ε (List α)) (state : σ)
    (holds : α → Prop) : Prop :=
  ∀ rows later, body state = (.ok rows, later) → ∀ row ∈ rows, holds row

section Rows

variable {σ α : Type} {body : Program σ PyException (List α)} {state : σ}

/-- A listing of the rows of the tenant that its argument names. -/
theorem returnsOnly_listing_iff {owner : α → String} {asked : Option String}
    {tenant : String} {shown : String → Prop} {rows : List α} {later : σ}
    (run : body state = (.ok rows, later))
    (listed : ∀ other, (∃ row ∈ rows, owner row = other) ↔
      shown other ∧ other = textOr asked tenant) :
    ReturnsOnly body state (fun row => owner row = tenant) ↔
      ∀ other, asked = some other → other ≠ "" → other ≠ tenant →
        ¬ shown other := by
  rw [← @own_or_hidden_iff asked tenant shown]
  constructor
  · intro own reveals
    obtain ⟨row, member, same⟩ := (listed _).mpr ⟨reveals, rfl⟩
    rw [← same]
    exact own rows later run row member
  · intro own found _ ran row member
    cases run.symm.trans ran
    obtain ⟨reveals, followed⟩ := (listed (owner row)).mp ⟨row, member, rfl⟩
    rw [followed] at reveals ⊢
    exact own reveals

end Rows

/-! ## Manifest stores -/

theorem mem_sorted_values {α : Type} {files : Dict String α} {value : α} :
    value ∈ sortedFiles files ↔ value ∈ files.values := by
  rw [mem_sortedFiles, ← Dict.mem_values_iff]

namespace Records

/-- What the reads of a store give to a principal that is bound to a tenant:
rows of the principal's tenant, or of the one that `list` is asked for. -/
structure ManifestStore.Scopes {σ : Type} (store : ManifestStore σ)
    (rows : σ → List Manifest) : Prop where
  get : ∀ {session : Session} {tenant : String}, session.BoundTo tenant →
    ∀ {manifestId state manifest later},
      store.get session manifestId state = (.ok manifest, later) →
        manifest.tenant = tenant
  getByWorkUnit : ∀ {session : Session} {tenant : String},
    session.BoundTo tenant → ∀ {workUnitId state manifest later},
      store.getByWorkUnit session workUnitId state = (.ok manifest, later) →
        manifest.tenant = tenant
  findByLogicalRef : ∀ {session : Session} {tenant : String},
    session.BoundTo tenant → ∀ {logicalRef state found later},
      store.findByLogicalRef session logicalRef state = (.ok found, later) →
        ∀ manifest ∈ found, manifest.tenant = tenant
  list : ∀ {session : Session} {tenant : String}, session.BoundTo tenant →
    ∀ asked state, ∃ found, store.list session asked state =
      (.ok found, state) ∧ ∀ manifest, manifest ∈ found ↔
        manifest ∈ rows state ∧ manifest.tenant = textOr asked tenant

/-- A manifest that passes the tenant check of the request. -/
theorem tenant_of_enforced {σ : Type} {session : Session} {tenant : String}
    (bound : session.BoundTo tenant) {manifest found : Manifest}
    {state later : σ}
    (run : (do
      Program.lift (enforceRequestTenant session manifest)
      return manifest : Program σ PyException Manifest) state =
        (.ok found, later)) : found.tenant = tenant := by
  obtain ⟨_, _, checked, ended⟩ := bind_eq_ok_iff.mp run
  have admitted := congrArg Prod.fst checked
  cases ended
  exact bound.requireTenant_iff.mp admitted

theorem InMemoryManifestStore.scopes (host : Host) :
    (store host).Scopes fun state => state.byId.values := by
  constructor
  · intro session tenant bound manifestId state manifest later run
    obtain ⟨_, _, got, run⟩ := bind_eq_ok_iff.mp run
    cases got
    cases looked : state.byId.lookup manifestId with
    | none => rw [looked] at run; cases run
    | some row => rw [looked] at run; exact tenant_of_enforced bound run
  · intro session tenant bound workUnitId state manifest later run
    obtain ⟨_, _, got, run⟩ := bind_eq_ok_iff.mp run
    cases got
    cases indexed : state.byWorkUnit.lookup workUnitId with
    | none => rw [indexed] at run; cases run
    | some manifestId =>
        rw [indexed] at run
        dsimp only at run
        cases looked : state.byId.lookup manifestId with
        | none => rw [looked] at run; cases run
        | some row => rw [looked] at run; exact tenant_of_enforced bound run
  · intro session tenant bound logicalRef state found later run manifest member
    cases run
    have listed := (List.mem_filter.mp member).1
    exact (bound.mem_rowsOf_asked.mp listed).2
  · intro session tenant bound asked state
    exact ⟨_, rfl, fun manifest => bound.mem_rowsOf_asked⟩

theorem FileManifestStore.mem_list_iff {session : Session} {tenant : String}
    (bound : session.BoundTo tenant) (asked : Option String)
    (files : ManifestFiles) : ∃ found, list session asked files =
      (.ok found, files) ∧ ∀ manifest, manifest ∈ found ↔
        manifest ∈ files.values ∧ manifest.tenant = textOr asked tenant := by
  refine ⟨(sortedFiles files).filter fun row =>
    row.tenant = textOr asked tenant, ?_, ?_⟩
  · unfold list
    rw [get_bind, bound.tenantOr_eq]
    rfl
  · intro manifest
    rw [List.mem_filter, decide_eq_true_iff, mem_sorted_values]

theorem FileManifestStore.scopes (host : Host) :
    (store host).Scopes fun files => files.values := by
  have own : ∀ {session : Session} {tenant : String},
      session.BoundTo tenant → ∀ {files : ManifestFiles} {found later},
        list session none files = (.ok found, later) →
          ∀ manifest ∈ found, manifest.tenant = tenant := by
    intro session tenant bound files found later run manifest member
    obtain ⟨rows, listed, inside⟩ := mem_list_iff bound none files
    cases listed.symm.trans run
    exact ((inside manifest).mp member).2
  constructor
  · intro session tenant bound manifestId files manifest later run
    obtain ⟨identifier, _, _, run⟩ := bind_eq_ok_iff.mp run
    obtain ⟨files, _, got, run⟩ := bind_eq_ok_iff.mp run
    cases looked : files.lookup identifier with
    | none => rw [looked] at run; cases run
    | some row => rw [looked] at run; exact tenant_of_enforced bound run
  · intro session tenant bound workUnitId files manifest later run
    obtain ⟨rows, _, listed, run⟩ := bind_eq_ok_iff.mp run
    cases sought : rows.find? fun row => row.workUnitId = workUnitId with
    | none => rw [sought] at run; cases run
    | some row =>
        rw [sought] at run
        cases run
        exact own bound listed _ (List.mem_of_find?_eq_some sought)
  · intro session tenant bound logicalRef files found later run manifest member
    obtain ⟨rows, _, listed, run⟩ := bind_eq_ok_iff.mp run
    cases run
    exact own bound listed _ (List.mem_filter.mp member).1
  · intro session tenant bound asked files
    exact mem_list_iff bound asked files

theorem SQLiteManifestStore.scopes (host : Host) :
    (store host).Scopes fun table => table := by
  constructor
  · intro session tenant bound manifestId table manifest later run
    obtain ⟨identifier, _, _, run⟩ := bind_eq_ok_iff.mp run
    obtain ⟨table, _, got, run⟩ := bind_eq_ok_iff.mp run
    cases sought : table.find? fun row => row.manifestId = identifier with
    | none => rw [sought] at run; cases run
    | some row => rw [sought] at run; exact tenant_of_enforced bound run
  · intro session tenant bound workUnitId table manifest later run
    obtain ⟨_, _, got, run⟩ := bind_eq_ok_iff.mp run
    cases got
    cases last : newest (rowsOf Manifest.tenant session.currentTenant
        (table.filter fun row => row.workUnitId = workUnitId)) with
    | none => rw [last] at run; cases run
    | some row =>
        rw [last] at run
        cases run
        exact (bound.mem_rowsOf_current.mp (newest_spec last).1).2
  · intro session tenant bound logicalRef table found later run manifest member
    cases run
    have listed := (List.mem_insertionSort _).mp member
    exact (bound.mem_rowsOf_current.mp listed).2
  · intro session tenant bound asked table
    refine ⟨_, rfl, fun manifest => ?_⟩
    rw [List.mem_insertionSort, bound.mem_rowsOf_asked]

theorem PostgresManifestStore.scopes (host : Host) (server : PostgresServer) :
    (store host server).Scopes fun rows => rows.values := by
  constructor
  · intro session tenant bound manifestId rows manifest later run
    obtain ⟨identifier, _, _, run⟩ := bind_eq_ok_iff.mp run
    obtain ⟨rows, _, got, run⟩ := bind_eq_ok_iff.mp run
    cases sought : (rows.lookup identifier).filter fun row =>
        inTenant session.currentTenant row.tenant with
    | none => rw [sought] at run; cases run
    | some row =>
        rw [sought] at run
        cases run
        have seen := (Option.filter_eq_some_iff.mp sought).2
        rw [← requireTenant_eq_ok_iff] at seen
        exact bound.requireTenant_iff.mp seen
  · intro session tenant bound workUnitId rows manifest later run
    obtain ⟨identifier, _, _, run⟩ := bind_eq_ok_iff.mp run
    obtain ⟨rows, _, got, run⟩ := bind_eq_ok_iff.mp run
    cases last : (server.byTime
        ((rowsOf Manifest.tenant session.currentTenant rows.values).filter
          fun row => row.workUnitId = identifier)).getLast? with
    | none => rw [last] at run; cases run
    | some row =>
        rw [last] at run
        cases run
        have sorted := List.mem_of_getLast? last
        have listed := (List.mem_filter.mp
          ((server.byTime_perm _).mem_iff.mp sorted)).1
        exact (bound.mem_rowsOf_current.mp listed).2
  · intro session tenant bound logicalRef rows found later run manifest member
    cases run
    have listed := (server.byTime_perm _).mem_iff.mp member
    exact (bound.mem_rowsOf_current.mp listed).2
  · intro session tenant bound asked rows
    refine ⟨_, rfl, fun manifest => ?_⟩
    rw [(server.byTime_perm _).mem_iff, bound.mem_rowsOf_asked]

/-- A manifest store shows its principal no other tenant's rows, except the
rows of a tenant that `list` is asked for. -/
theorem ManifestStore.Scopes.onlyOwn_iff {σ : Type}
    {store : ManifestStore σ} {rows : σ → List Manifest}
    (scopes : store.Scopes rows) {session : Session} {tenant : String}
    (bound : session.BoundTo tenant) (asked : ManifestRead) (state : σ) :
    ReturnsOnly (asked.run store session) state
        (fun row => row.tenant = tenant) ↔
      ∀ other, asked.named = some other → other ≠ "" → other ≠ tenant →
        ¬ ∃ row ∈ rows state, row.tenant = other := by
  cases asked with
  | get manifestId =>
      refine iff_of_true ?_ (fun _ named => nomatch named)
      intro found later run row member
      obtain ⟨manifest, _, got, ended⟩ := bind_eq_ok_iff.mp run
      cases ended
      cases List.mem_singleton.mp member
      exact scopes.get bound got
  | getForTenant manifestId asked =>
      refine iff_of_true ?_ (fun _ named => nomatch named)
      intro found later run row member
      obtain ⟨manifest, _, got, ended⟩ := bind_eq_ok_iff.mp run
      obtain ⟨row, _, first, checked⟩ := bind_eq_ok_iff.mp got
      obtain ⟨_, _, _, returned⟩ := bind_eq_ok_iff.mp checked
      cases returned
      cases ended
      cases List.mem_singleton.mp member
      exact scopes.get bound first
  | getByWorkUnit workUnitId =>
      refine iff_of_true ?_ (fun _ named => nomatch named)
      intro found later run row member
      obtain ⟨manifest, _, got, ended⟩ := bind_eq_ok_iff.mp run
      cases ended
      cases List.mem_singleton.mp member
      exact scopes.getByWorkUnit bound got
  | list asked =>
      obtain ⟨found, run, inside⟩ := scopes.list bound asked state
      apply returnsOnly_listing_iff run
      intro other
      constructor
      · rintro ⟨row, member, rfl⟩
        obtain ⟨stored, followed⟩ := (inside row).mp member
        exact ⟨⟨row, stored, rfl⟩, followed⟩
      · rintro ⟨⟨row, stored, rfl⟩, followed⟩
        exact ⟨row, (inside row).mpr ⟨stored, followed⟩, rfl⟩
  | findByLogicalRef logicalRef =>
      refine iff_of_true ?_ (fun _ named => nomatch named)
      intro found later run row member
      exact scopes.findByLogicalRef bound run row member

end Records

/-! ## Work-unit stores -/

section WorkUnits

variable {host : Host} {session : Session} {tenant : String}

/-- A work unit that passes the tenant check of the request. -/
theorem WorkUnit.tenant_of_enforced {σ : Type}
    (bound : session.BoundTo tenant) {workUnit found : WorkUnit}
    {state later : σ}
    (run : (do
      Program.lift (enforceWorkUnitTenant session workUnit)
      return workUnit : Program σ PyException WorkUnit) state =
        (.ok found, later)) : found.tenant = tenant := by
  obtain ⟨_, _, checked, ended⟩ := bind_eq_ok_iff.mp run
  have admitted := congrArg Prod.fst checked
  cases ended
  exact bound.requireTenant_iff.mp admitted

theorem InMemoryWorkUnitStore.onlyOwn_iff (bound : session.BoundTo tenant)
    (asked : WorkUnitRead) (rows : Dict String WorkUnit) :
    ReturnsOnly (asked.run (store host) session) rows
        (fun row => row.tenant = tenant) ↔
      ∀ other, asked.named = some other → other ≠ "" → other ≠ tenant →
        ¬ ∃ row ∈ rows.values, row.tenant = other := by
  cases asked with
  | get workUnitId =>
      refine iff_of_true ?_ (fun _ named => nomatch named)
      intro found later run row member
      obtain ⟨workUnit, _, got, ended⟩ := bind_eq_ok_iff.mp run
      cases ended
      cases List.mem_singleton.mp member
      obtain ⟨_, _, state, got⟩ := bind_eq_ok_iff.mp got
      cases state
      cases looked : rows.lookup workUnitId with
      | none => rw [looked] at got; cases got
      | some row =>
          rw [looked] at got
          exact WorkUnit.tenant_of_enforced bound got
  | list asked =>
      apply returnsOnly_listing_iff rfl
      intro other
      constructor
      · rintro ⟨row, member, rfl⟩
        obtain ⟨stored, followed⟩ := bound.mem_rowsOf_asked.mp member
        exact ⟨⟨row, stored, rfl⟩, followed⟩
      · rintro ⟨⟨row, stored, rfl⟩, followed⟩
        exact ⟨row, bound.mem_rowsOf_asked.mpr ⟨stored, followed⟩, rfl⟩

/-- A work unit that reads back has the tenant of its file, and its payload
decodes. -/
theorem workUnitFromJsonSafe_returned {row found : WorkUnit}
    {supply later : Supply}
    (run : workUnitFromJsonSafe host row supply = (.ok found, later)) :
    (decodeJsonValue host row.payload).isOk ∧ found.tenant = row.tenant := by
  obtain ⟨payload, _, decoded, run⟩ := bind_eq_ok_iff.mp run
  have decodes : decodeJsonValue host row.payload = .ok payload :=
    congrArg Prod.fst decoded
  obtain ⟨_, _, _, run⟩ := bind_eq_ok_iff.mp run
  obtain ⟨_, _, _, run⟩ := bind_eq_ok_iff.mp run
  obtain ⟨_, _, _, ended⟩ := bind_eq_ok_iff.mp run
  cases ended
  exact ⟨by rw [decodes]; rfl, rfl⟩

/-- `list` reads every file before it filters. -/
theorem FileWorkUnitStore.list_returned (bound : session.BoundTo tenant)
    {asked : Option String} {files later : WorkUnitFiles}
    {found : List WorkUnit}
    (run : list host session asked files = (.ok found, later)) :
    (∀ row ∈ files.rows.values, (decodeJsonValue host row.payload).isOk) ∧
      ∀ other, (∃ row ∈ found, row.tenant = other) ↔
        (∃ row ∈ files.rows.values, row.tenant = other) ∧
          other = textOr asked tenant := by
  unfold list at run
  rw [get_bind] at run
  obtain ⟨loaded, middle, read, run⟩ := bind_eq_ok_iff.mp run
  rw [bound.tenantOr_eq] at run
  cases run
  constructor
  · intro row member
    obtain ⟨before, _, _, ran⟩ :=
      forEach_returns read (mem_sorted_values.mpr member)
    exact (workUnitFromJsonSafe_returned (run_of_focus ran)).1
  · have each : List.Forall₂ (fun data row : WorkUnit =>
        data.tenant = row.tenant) (sortedFiles files.rows) loaded := by
      apply forEach_returned _ read
      intro data before row after ran
      exact (workUnitFromJsonSafe_returned (run_of_focus ran)).2.symm
    have owners : (sortedFiles files.rows).map WorkUnit.tenant =
        loaded.map WorkUnit.tenant := by
      rw [← List.forall₂_eq_eq_eq, List.forall₂_map_left_iff,
        List.forall₂_map_right_iff]
      exact each
    intro other
    have stored : (∃ row ∈ files.rows.values, row.tenant = other) ↔
        ∃ row ∈ loaded, row.tenant = other := by
      simp only [← mem_sorted_values, ← List.mem_map, owners]
    rw [stored]
    constructor
    · rintro ⟨row, member, rfl⟩
      obtain ⟨inside, followed⟩ := List.mem_filter.mp member
      exact ⟨⟨row, inside, rfl⟩, of_decide_eq_true followed⟩
    · rintro ⟨⟨row, inside, rfl⟩, followed⟩
      exact ⟨row, List.mem_filter.mpr ⟨inside, decide_eq_true followed⟩, rfl⟩

theorem FileWorkUnitStore.list_returns (bound : session.BoundTo tenant)
    (asked : Option String) {files : WorkUnitFiles}
    (decodes : ∀ row ∈ files.rows.values,
      (decodeJsonValue host row.payload).isOk) :
    ∃ found later, list host session asked files = (.ok found, later) := by
  have each : ∀ row ∈ sortedFiles files.rows, ∀ state : WorkUnitFiles,
      Returns (focus WorkUnitFiles.supplyLens (workUnitFromJsonSafe host row))
        state fun _ _ => True := by
    intro row member state
    have decoded := decodes row (mem_sorted_values.mp member)
    cases payload : decodeJsonValue host row.payload with
    | error error => rw [payload] at decoded; cases decoded
    | ok value =>
        exact (returns_workUnitFromJsonSafe host payload _).focus.mono
          fun _ _ _ => trivial
  obtain ⟨loaded, later, read, -⟩ := returns_forEach each files
  refine ⟨loaded.filter fun row => row.tenant = textOr asked tenant, later, ?_⟩
  unfold list
  rw [get_bind, bind_ok read, bound.tenantOr_eq]
  rfl

theorem FileWorkUnitStore.onlyOwn_iff (bound : session.BoundTo tenant)
    (asked : WorkUnitRead) (files : WorkUnitFiles) :
    ReturnsOnly (asked.run (store host) session) files
        (fun row => row.tenant = tenant) ↔
      ∀ other, asked.named = some other → other ≠ "" → other ≠ tenant →
        ¬ ((∀ row ∈ files.rows.values,
            (decodeJsonValue host row.payload).isOk) ∧
          ∃ row ∈ files.rows.values, row.tenant = other) := by
  cases asked with
  | get workUnitId =>
      refine iff_of_true ?_ (fun _ named => nomatch named)
      intro found later run row member
      obtain ⟨workUnit, _, got, ended⟩ := bind_eq_ok_iff.mp run
      cases ended
      cases List.mem_singleton.mp member
      obtain ⟨identifier, _, _, got⟩ := bind_eq_ok_iff.mp got
      obtain ⟨files, _, _, got⟩ := bind_eq_ok_iff.mp got
      cases looked : files.rows.lookup identifier with
      | none => rw [looked] at got; cases got
      | some data =>
          rw [looked] at got
          obtain ⟨loaded, _, _, got⟩ := bind_eq_ok_iff.mp got
          exact WorkUnit.tenant_of_enforced bound got
  | list asked =>
      by_cases decodes : ∀ row ∈ files.rows.values,
        (decodeJsonValue host row.payload).isOk
      · obtain ⟨found, later, run⟩ := list_returns bound asked decodes
        apply returnsOnly_listing_iff run
        intro other
        rw [(list_returned bound run).2, and_iff_right decodes]
        rfl
      · refine iff_of_true ?_ (fun _ _ _ _ shown => decodes shown.1)
        intro found later run
        exact absurd (list_returned bound run).1 decodes

end WorkUnits

/-! ## Ledgers -/

section Ledgers

variable {host : Host} {session : Session} {tenant : String}

theorem JSONLLedger.read_eq :
    read host session = (do
      let rows ← readUnlocked host
      return rowsOf LedgerEvent.tenant session.currentTenant rows) := by
  unfold read rowsOf
  congr 1
  funext rows
  split <;> simp_all

theorem JSONLLedger.tenant_of_read (bound : session.BoundTo tenant)
    {state later : LedgerState} {events : List LedgerEvent}
    (run : read host session state = (.ok events, later)) :
    ∀ event ∈ events, event.tenant = tenant := by
  rw [read_eq] at run
  obtain ⟨rows, _, _, ended⟩ := bind_eq_ok_iff.mp run
  cases ended
  exact fun event member => (bound.mem_rowsOf_current.mp member).2

/-- A query of the file filters what `read` shows. -/
theorem JSONLLedger.returnsOnly (bound : session.BoundTo tenant)
    (asked : LedgerRead) (state : LedgerState) :
    ReturnsOnly (asked.run (store host) session) state
      fun event => event.tenant = tenant := by
  intro events later run event member
  cases asked with
  | read => exact tenant_of_read bound run event member
  | query asked =>
      obtain ⟨rows, _, reading, ended⟩ := bind_eq_ok_iff.mp run
      cases ended
      have selected := LedgerQuery.mem_of_mem_lastRows member
      rw [rowsOf_eq_filter] at selected
      have listed := (List.mem_filter.mp (List.mem_filter.mp selected).1).1
      exact tenant_of_read bound reading event listed

theorem PostgresLedger.onlyOwn_iff {server : PostgresServer}
    (bound : session.BoundTo tenant) (asked : LedgerRead)
    (table : PostgresEvents) :
    ReturnsOnly (asked.run (store host server) session) table
        (fun event => event.tenant = tenant) ↔
      ∀ other, asked.named = some other → other ≠ "" → other ≠ tenant →
        ¬ asked.Reveals table.rows other := by
  cases asked with
  | read =>
      refine iff_of_true ?_ (fun _ named => nomatch named)
      intro events later run event member
      cases run
      exact (bound.mem_rowsOf_current.mp member).2
  | query asked =>
      by_cases sized : ∀ limit, asked.limit = some limit → 0 ≤ limit
      · apply returnsOnly_listing_iff (query_of_sized session table sized)
        intro other
        have inside : ∀ {event}, event ∈ selected session asked table ↔
            (event ∈ table.rows ∧
              event.tenant = textOr asked.tenant tenant) ∧
              asked.selects event = true := by
          intro event
          rw [selected, List.mem_filter, bound.mem_rowsOf_asked]
        constructor
        · rintro ⟨event, member, rfl⟩
          obtain ⟨⟨stored, followed⟩, chosen⟩ :=
            inside.mp (LedgerQuery.mem_of_mem_lastRows member)
          exact ⟨⟨sized, event, stored, rfl, chosen⟩, followed⟩
        · rintro ⟨⟨-, event, stored, rfl, chosen⟩, followed⟩
          have found := inside.mpr ⟨⟨stored, followed⟩, chosen⟩
          obtain ⟨last, member⟩ := List.exists_mem_of_ne_nil _
            (LedgerQuery.lastRows_ne_nil sized (List.ne_nil_of_mem found))
          have same := (inside.mp
            (LedgerQuery.mem_of_mem_lastRows member)).1.2
          exact ⟨last, member, same.trans followed.symm⟩
      · refine iff_of_true ?_ (fun _ _ _ _ shown => sized shown.1)
        intro events later run
        exact absurd (sized_of_query session run) sized

end Ledgers

/-! ## Every store -/

theorem StoreRead.returnsOnly_rows_iff {σ α : Type} {lens : Lens Stores σ}
    {row : α → StoreRow} {owner : α → String} {tenant : String}
    (owned : ∀ found, (row found).tenant = owner found)
    {body : Program σ PyException (List α)} {stores : Stores} :
    ReturnsOnly (rows lens row body) stores (fun row => row.tenant = tenant) ↔
      ReturnsOnly body (lens.get stores) fun found => owner found = tenant := by
  constructor
  · intro own found later run each member
    have ran : rows lens row body stores =
        (.ok (found.map row), lens.set stores later) := by
      unfold rows
      rw [bind_ok (focus_of_run run)]
      rfl
    rw [← owned]
    exact own _ _ ran _ (List.mem_map_of_mem member)
  · intro own found later run each member
    obtain ⟨listed, _, ran, ended⟩ := bind_eq_ok_iff.mp run
    cases ended
    obtain ⟨part, inside, rfl⟩ := List.mem_map.mp member
    rw [owned]
    exact own _ _ (run_of_focus ran) part inside

open Records in
/-- After any puts, a read of a principal that is bound to a tenant returns
that tenant's rows only, unless an argument names another tenant whose rows the
store has. -/
theorem StoreRead.returnsOnly_iff (host : Host) (server : PostgresServer)
    (puts : List (Session × StorePut)) (asked : StoreRead) {session : Session}
    {tenant : String} (bound : session.BoundTo tenant) :
    let stores := Run.final (StorePut.step host server) {} puts
    ReturnsOnly (asked.run host server session) stores
        (fun row => row.tenant = tenant) ↔
      ∀ other, asked.named = some other → other ≠ "" → other ≠ tenant →
        ¬ asked.Reveals host stores other := by
  intro stores
  cases asked with
  | manifests backend asked =>
      cases backend with
      | memory =>
          exact (returnsOnly_rows_iff fun _ => rfl).trans
            ((InMemoryManifestStore.scopes host).onlyOwn_iff bound asked _)
      | file =>
          exact (returnsOnly_rows_iff fun _ => rfl).trans
            ((FileManifestStore.scopes host).onlyOwn_iff bound asked _)
      | sqlite =>
          exact (returnsOnly_rows_iff fun _ => rfl).trans
            ((SQLiteManifestStore.scopes host).onlyOwn_iff bound asked _)
      | postgres =>
          exact (returnsOnly_rows_iff fun _ => rfl).trans
            ((PostgresManifestStore.scopes host server).onlyOwn_iff bound
              asked _)
  | workUnits backend asked =>
      cases backend with
      | memory =>
          exact (returnsOnly_rows_iff fun _ => rfl).trans
            (InMemoryWorkUnitStore.onlyOwn_iff bound asked _)
      | file =>
          exact (returnsOnly_rows_iff fun _ => rfl).trans
            (FileWorkUnitStore.onlyOwn_iff bound asked _)
  | events backend asked =>
      cases backend with
      | jsonl =>
          apply (returnsOnly_rows_iff fun _ => rfl).trans
          exact iff_of_true (JSONLLedger.returnsOnly bound asked _)
            (fun _ _ _ _ reveals => reveals)
      | postgres =>
          exact (returnsOnly_rows_iff fun _ => rfl).trans
            (PostgresLedger.onlyOwn_iff bound asked _)

/-! ## Another tenant's manifests -/

/-- A server that takes every row and keeps their order. -/
def PostgresServer.plain : PostgresServer where
  takesManifest _ := true
  takesEvent _ := true
  byTime rows := rows
  byTime_perm _ := .refl _

def globexManifest : Records.Manifest where
  workUnitId := "wu_1"
  tenant := "globex"
  kind := .byteObject
  contract := .exactBytes
  logicalRef := "s3://globex/a"
  manifestId := "mf_1"
  createdAt := "2024-01-01T00:00:00+00:00"

/-- A principal of `globex` puts a manifest. -/
def globexPuts : List (Session × StorePut) :=
  [({ currentTenant := some "globex" }, .manifest .file globexManifest)]

/-- What a principal of `acme` lists after those puts. -/
def acmeListing (tenant : String) :
    Program Stores PyException (List StoreRow) :=
  StoreRead.run Host.counting PostgresServer.plain
    { currentTenant := some "acme" }
    (.manifests .file (.list (some tenant)))

/-- The principal may list its own tenant by name. -/
theorem StoreRead.returnsOnly_iff_acme :
    Session.BoundTo { currentTenant := some "acme" } "acme" ∧
      ReturnsOnly (acmeListing "acme")
        (Run.final (StorePut.step Host.counting PostgresServer.plain) {}
          globexPuts)
        fun row => row.tenant = "acme" := by
  have bound : Session.BoundTo { currentTenant := some "acme" } "acme" :=
    ⟨rfl, by decide⟩
  refine ⟨bound, (StoreRead.returnsOnly_iff Host.counting PostgresServer.plain
    globexPuts _ bound).mpr ?_⟩
  rintro other same - foreign
  exact absurd (Option.some.inj same).symm foreign

theorem acmeListing_reveals :
    Passes (fun rows => rows.any fun row => row.tenant = "globex")
      (acmeListing "globex"
        (Run.final (StorePut.step Host.counting PostgresServer.plain) {}
          globexPuts)).1 = true := by
  decide +kernel

/-- A principal of `acme` lists the manifests of `globex`. -/
theorem acmeListing_not_returnsOnly :
    ¬ ReturnsOnly (acmeListing "globex")
      (Run.final (StorePut.step Host.counting PostgresServer.plain) {}
        globexPuts)
      fun row => row.tenant = "acme" := by
  intro own
  obtain ⟨rows, run, reveals⟩ := exists_of_passes acmeListing_reveals
  obtain ⟨row, member, same⟩ := List.any_eq_true.mp reveals
  have mine : row.tenant = "acme" := own rows _ (Prod.ext run rfl) row member
  have theirs : row.tenant = "globex" := of_decide_eq_true same
  rw [theirs] at mine
  exact absurd mine (by decide)

end Urp
