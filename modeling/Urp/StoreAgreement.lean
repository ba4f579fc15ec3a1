import Urp.Library.Latest
import Urp.Library.Run
import Urp.ManifestStores

/-!
# Agreement of the manifest stores

The in-memory, the file and the SQLite store take the same puts, and every
read of the three is compared.  Each holds the last manifest that was put under
an identifier; they find the manifest of a work unit by the last put, by the
file name, and by the time of creation.
-/

namespace Urp

open Python Program Latest

namespace Records

/-! ## What a store shows -/

namespace Manifest

/-- The manifest as Python compares it: dictionaries have no order. -/
def unordered (manifest : Manifest) : Manifest :=
  manifest.mapData Object.sorted

theorem unordered_unordered (manifest : Manifest) :
    manifest.unordered.unordered = manifest.unordered := by
  simp [unordered, mapData, Object.sorted_sorted, Function.comp_def]

theorem hasBytes_unordered (manifest : Manifest) :
    manifest.unordered.hasBytes = manifest.hasBytes := by
  simp [unordered, mapData, hasBytes, data, Object.hasBytes_sorted,
    Function.comp_def]

theorem hasBytes_reloaded (manifest : Manifest) :
    manifest.reloaded.hasBytes = false := by
  simp [reloaded, mapData, hasBytes, data, Object.hasBytes_reloaded]

/-- Without byte strings only the order of the keys is lost in a file. -/
theorem reloaded_eq_unordered {manifest : Manifest}
    (textual : manifest.hasBytes = false)
    (spaced : manifest.nameSpace ≠ "") :
    manifest.reloaded = manifest.unordered := by
  have each : ∀ object ∈ manifest.data, object.reloaded = object.sorted := by
    intro object member
    apply Object.reloaded_of_noBytes
    have clean := List.any_eq_false.mp textual object member
    simpa using clean
  have signatures : manifest.signatures.map Object.reloaded =
      manifest.signatures.map Object.sorted := by
    apply List.map_congr_left
    intro object member
    exact each object (by simp [data, member])
  have name : textOr (some manifest.nameSpace) "default" =
      manifest.nameSpace := by
    simp [textOr, spaced]
  simp only [reloaded, unordered, mapData, name, signatures,
    each manifest.policy (by simp [data]),
    each manifest.classification (by simp [data]),
    each manifest.physical (by simp [data]),
    each manifest.plan (by simp [data]),
    each manifest.verification (by simp [data]),
    each manifest.lineage (by simp [data]),
    each manifest.telemetry (by simp [data])]

end Manifest

/-- What the reads of a store give under a session; a read that raises gives
nothing. -/
@[ext] structure Observation where
  get : String → Option Manifest
  getByWorkUnit : String → Option Manifest
  list : Option String → Option (Set Manifest)
  findByLogicalRef : String → Option (Set Manifest)

/-- The manifests of a list as a set. -/
def shown (manifests : List Manifest) : Set Manifest :=
  {manifest | ∃ row ∈ manifests, row.unordered = manifest}

section Observed

variable {σ τ : Type}

def ManifestStore.observe (store : ManifestStore σ) (session : Session)
    (state : σ) : Observation where
  get manifestId :=
    (store.get session manifestId state).1.toOption.map Manifest.unordered
  getByWorkUnit workUnitId :=
    (store.getByWorkUnit session workUnitId state).1.toOption.map
      Manifest.unordered
  list tenant := (store.list session tenant state).1.toOption.map shown
  findByLogicalRef logicalRef :=
    (store.findByLogicalRef session logicalRef state).1.toOption.map shown

/-- The manifest is seen under the session. -/
def Sees (session : Session) (manifest : Manifest) : Prop :=
  inTenant session.currentTenant manifest.tenant = true

/-- The store has these rows, each under its own identifier. -/
structure ManifestStore.Exposes (store : ManifestStore σ) (session : Session)
    (state : σ) (rows : Set Manifest) : Prop where
  get : ∀ manifestId manifest,
    (store.get session manifestId state).1 = .ok manifest ↔
      manifest ∈ rows ∧ manifest.manifestId = manifestId ∧
        Sees session manifest
  list : ∀ tenant, ∃ found,
    (store.list session tenant state).1 = .ok found ∧ ∀ manifest,
      manifest ∈ found ↔ manifest ∈ rows ∧
        inTenant (session.tenantOr tenant) manifest.tenant = true
  findByLogicalRef : ∀ logicalRef, ∃ found,
    (store.findByLogicalRef session logicalRef state).1 = .ok found ∧
      ∀ manifest, manifest ∈ found ↔ manifest ∈ rows ∧
        manifest.logicalRef = logicalRef ∧ Sees session manifest

/-- The rows as they compare. -/
def compared (rows : Set Manifest) : Set Manifest := Manifest.unordered '' rows

theorem shown_eq_of_mem_iff {found : List Manifest} {rows : Set Manifest}
    {seen : Manifest → Prop}
    (blind : ∀ manifest, seen manifest.unordered ↔ seen manifest)
    (inside : ∀ manifest, manifest ∈ found ↔ manifest ∈ rows ∧ seen manifest) :
    shown found = compared rows ∩ {manifest | seen manifest} := by
  ext manifest
  constructor
  · rintro ⟨row, member, rfl⟩
    obtain ⟨stored, allowed⟩ := (inside row).mp member
    exact ⟨⟨row, stored, rfl⟩, (blind row).mpr allowed⟩
  · rintro ⟨⟨row, stored, rfl⟩, allowed⟩
    exact ⟨row, (inside row).mpr ⟨stored, (blind row).mp allowed⟩, rfl⟩

namespace ManifestStore.Exposes

variable {store : ManifestStore σ} {other : ManifestStore τ}
  {session : Session} {state : σ} {otherState : τ}
  {rows otherRows : Set Manifest}

theorem observe_list (exposes : store.Exposes session state rows)
    (tenant : Option String) :
    (store.observe session state).list tenant =
      some (compared rows ∩ {manifest |
        inTenant (session.tenantOr tenant) manifest.tenant = true}) := by
  obtain ⟨found, listed, inside⟩ := exposes.list tenant
  simp only [observe, listed, Except.toOption, Option.map_some]
  rw [shown_eq_of_mem_iff (fun _ => Iff.rfl) inside]

theorem observe_findByLogicalRef (exposes : store.Exposes session state rows)
    (logicalRef : String) :
    (store.observe session state).findByLogicalRef logicalRef =
      some (compared rows ∩ {manifest |
        manifest.logicalRef = logicalRef ∧ Sees session manifest}) := by
  obtain ⟨found, listed, inside⟩ := exposes.findByLogicalRef logicalRef
  simp only [observe, listed, Except.toOption, Option.map_some]
  rw [shown_eq_of_mem_iff (fun _ => Iff.rfl) inside]

theorem observe_get_eq_some_iff (exposes : store.Exposes session state rows)
    {manifestId : String} {manifest : Manifest} :
    (store.observe session state).get manifestId = some manifest ↔
      manifest ∈ compared rows ∧ manifest.manifestId = manifestId ∧
        Sees session manifest := by
  have returned : ∀ found,
      (store.get session manifestId state).1.toOption = some found ↔
        (store.get session manifestId state).1 = .ok found := by
    intro found
    cases (store.get session manifestId state).1 with
    | error error => simp [Except.toOption]
    | ok value => simp [Except.toOption]
  simp only [observe, Option.map_eq_some_iff, returned, exposes.get]
  constructor
  · rintro ⟨row, ⟨stored, named, seen⟩, rfl⟩
    exact ⟨⟨row, stored, rfl⟩, named, seen⟩
  · rintro ⟨⟨row, stored, rfl⟩, named, seen⟩
    exact ⟨row, ⟨stored, named, seen⟩, rfl⟩

/-- Stores agree when their rows compare equal and they find the same manifest
for every work unit. -/
theorem observe_eq_iff (exposes : store.Exposes session state rows)
    (others : other.Exposes session otherState otherRows)
    (same : compared rows = compared otherRows) :
    store.observe session state = other.observe session otherState ↔
      ∀ workUnitId, (store.observe session state).getByWorkUnit workUnitId =
        (other.observe session otherState).getByWorkUnit workUnitId := by
  constructor
  · intro equal workUnitId
    rw [equal]
  · intro equal
    apply Observation.ext
    · funext manifestId
      ext manifest
      rw [exposes.observe_get_eq_some_iff, others.observe_get_eq_some_iff, same]
    · exact funext equal
    · funext tenant
      rw [exposes.observe_list, others.observe_list, same]
    · funext logicalRef
      rw [exposes.observe_findByLogicalRef, others.observe_findByLogicalRef,
        same]

/-- Without a principal a store lists all its rows. -/
theorem compared_eq_of_observe_eq {session : Session}
    (exposes : store.Exposes session state rows)
    (others : other.Exposes session otherState otherRows)
    (free : session.currentTenant = none)
    (equal : store.observe session state = other.observe session otherState) :
    compared rows = compared otherRows := by
  have listed := congrFun (congrArg Observation.list equal) none
  rw [exposes.observe_list, others.observe_list] at listed
  simpa [Session.tenantOr, free, inTenant] using listed

end ManifestStore.Exposes

end Observed

/-! ## Histories of puts -/

structure ManifestPut where
  session : Session
  manifest : Manifest

/-- A manifest that its schema accepts, with a safe id and a namespace. -/
structure ManifestPut.IsProper (host : Host) (put : ManifestPut) : Prop where
  valid : validateManifest host put.manifest = .ok ()
  safe : validateIdentifier put.manifest.manifestId "manifest id" "mf_" =
    .ok put.manifest.manifestId
  spaced : put.manifest.nameSpace ≠ ""
  -- The schema's format, also where the optional check is not installed.
  dated : isDateTime put.manifest.createdAt = true

def ManifestStore.step {σ : Type} (store : ManifestStore σ) (state : σ)
    (put : ManifestPut) : Except PyException Unit × σ :=
  store.put put.session put.manifest state

/-- The three stores. -/
structure ManifestStores where
  memory : InMemoryManifests := {}
  files : ManifestFiles := ∅
  table : ManifestTable := []

/-- A put to each of the stores. -/
def ManifestStores.step (host : Host) (stores : ManifestStores)
    (put : ManifestPut) : Unit × ManifestStores :=
  ((), {
    memory := ((InMemoryManifestStore.store host).step stores.memory put).2
    files := ((FileManifestStore.store host).step stores.files put).2
    table := ((SQLiteManifestStore.store host).step stores.table put).2 })

def ManifestStores.after (host : Host) (puts : List ManifestPut) :
    ManifestStores :=
  Run.final (step host) {} puts

/-- The three stores give the same to every read. -/
def ManifestStores.Agree (host : Host) (stores : ManifestStores)
    (session : Session) : Prop :=
  (InMemoryManifestStore.store host).observe session stores.memory =
      (FileManifestStore.store host).observe session stores.files ∧
    (FileManifestStore.store host).observe session stores.files =
      (SQLiteManifestStore.store host).observe session stores.table

/-! ## The condition -/

/-- The manifests of the puts that the principals' tenants allow. -/
def allowedManifests (puts : List ManifestPut) : List Manifest :=
  (puts.filter fun put =>
    inTenant put.session.currentTenant put.manifest.tenant).map
      ManifestPut.manifest

/-- The name of a manifest's file. -/
def fileName (manifestId : String) : String := manifestId ++ ".json"

/-- The last manifest under each identifier has no byte strings.  The last one
of each work unit is the last under its identifier too, and leads every other
one of the work unit: it has the same tenant (or the other has none), the first
file name, and the latest time of creation. -/
structure Unambiguous (manifests : List Manifest) : Prop where
  textual : ∀ manifest, LastBy Manifest.manifestId manifests manifest →
    manifest.hasBytes = false
  kept : ∀ manifest, LastBy Manifest.workUnitId manifests manifest →
    LastBy Manifest.manifestId manifests manifest
  leads : ∀ manifest other, LastBy Manifest.workUnitId manifests manifest →
    LastBy Manifest.manifestId manifests other →
      other.workUnitId = manifest.workUnitId →
        other.manifestId ≠ manifest.manifestId →
          (other.tenant = manifest.tenant ∨ other.tenant = "") ∧
            fileName manifest.manifestId ≤ fileName other.manifestId ∧
              other.createdAt ≤ manifest.createdAt

/-! ## What the stores hold -/

/-- The manifests without byte strings. -/
def textual (manifests : List Manifest) : List Manifest :=
  manifests.filter fun manifest => !manifest.hasBytes

/-- The stores hold the last manifests under every identifier; the SQLite store
takes no byte strings, and has the later puts in the later rows. -/
structure ManifestStores.Mirrors (stores : ManifestStores)
    (manifests : List Manifest) : Prop where
  byId : Tabulates stores.memory.byId Manifest.manifestId id manifests
  byWorkUnit : Tabulates stores.memory.byWorkUnit Manifest.workUnitId
    Manifest.manifestId manifests
  files : Tabulates stores.files Manifest.manifestId Manifest.reloaded manifests
  rows : ∀ row, row ∈ stores.table ↔
    ∃ manifest, LastBy Manifest.manifestId (textual manifests) manifest ∧
      manifest.reloaded = row
  latest : ∀ manifest,
    LastBy Manifest.workUnitId (textual manifests) manifest →
      LastBy Manifest.manifestId (textual manifests) manifest →
        LastBy Manifest.workUnitId stores.table manifest.reloaded

theorem mirrors_nothing : ManifestStores.Mirrors {} [] where
  byId := tabulates_empty _ _
  byWorkUnit := tabulates_empty _ _
  files := tabulates_empty _ _
  rows row := by
    constructor
    · intro member
      cases member
    · intro ⟨manifest, is, _⟩
      exact absurd is not_lastBy_nil
  latest manifest is _ := absurd is not_lastBy_nil

section Steps

variable {host : Host} {put : ManifestPut} {manifests : List Manifest}

@[simp] theorem Manifest.manifestId_reloaded (manifest : Manifest) :
    manifest.reloaded.manifestId = manifest.manifestId := rfl

@[simp] theorem Manifest.workUnitId_reloaded (manifest : Manifest) :
    manifest.reloaded.workUnitId = manifest.workUnitId := rfl

theorem mem_replace_iff {table : ManifestTable} {manifest row : Manifest} :
    row ∈ table.replace manifest ↔
      row = manifest ∨ row ∈ table ∧ row.manifestId ≠ manifest.manifestId := by
  unfold ManifestTable.replace
  rw [List.mem_append, List.mem_filter, List.mem_singleton, or_comm]
  simp

/-- A new row leaves the others in their order. -/
theorem lastBy_replace {table : ManifestTable} {manifest row : Manifest}
    (is : LastBy Manifest.workUnitId table row)
    (kept : row.manifestId ≠ manifest.manifestId)
    (apart : manifest.workUnitId ≠ row.workUnitId) :
    LastBy Manifest.workUnitId (table.replace manifest) row := by
  unfold ManifestTable.replace
  apply lastBy_append_singleton_iff.mpr
  right
  exact ⟨apart, is.filter (by simpa using kept)⟩

theorem ManifestStores.Mirrors.mem_replace {stores : ManifestStores}
    (mirrors : stores.Mirrors manifests) (manifest : Manifest)
    (clean : manifest.hasBytes = false) (row : Manifest) :
    row ∈ stores.table.replace manifest.reloaded ↔
      ∃ last, LastBy Manifest.manifestId (textual (manifests ++ [manifest]))
        last ∧ last.reloaded = row := by
  have appended : textual (manifests ++ [manifest]) =
      textual manifests ++ [manifest] := by
    simp [textual, clean]
  rw [appended, mem_replace_iff, mirrors.rows]
  constructor
  · rintro (rfl | ⟨⟨last, is, rfl⟩, apart⟩)
    · exact ⟨manifest, lastBy_append_singleton_iff.mpr (.inl rfl), rfl⟩
    · refine ⟨last, lastBy_append_singleton_iff.mpr (.inr ⟨?_, is⟩), rfl⟩
      exact fun same => apart same.symm
  · intro ⟨last, is, given⟩
    rcases lastBy_append_singleton_iff.mp is with rfl | ⟨apart, before⟩
    · exact .inl given.symm
    · right
      refine ⟨⟨last, before, given⟩, ?_⟩
      rw [← given]
      exact fun same => apart same.symm

/-- A put that the principal's tenant does not allow changes nothing. -/
theorem step_refused {stores : ManifestStores}
    (refused : inTenant put.session.currentTenant put.manifest.tenant = false) :
    (stores.step host put).2 = stores := by
  have raises : ∃ error, enforceRequestTenant put.session put.manifest =
      .error error := by
    cases checked : enforceRequestTenant put.session put.manifest with
    | error error => exact ⟨error, rfl⟩
    | ok _ =>
        have allowed := requireTenant_eq_ok_iff.mp checked
        rw [refused] at allowed
        cases allowed
  obtain ⟨error, raises⟩ := raises
  simp only [ManifestStores.step, ManifestStore.step,
    InMemoryManifestStore.store, InMemoryManifestStore.put,
    FileManifestStore.store, FileManifestStore.put, SQLiteManifestStore.store,
    SQLiteManifestStore.put, raises, lift_error_bind]
  rfl

/-- What a put writes when the principal's tenant allows it. -/
theorem step_allowed {stores : ManifestStores} (proper : put.IsProper host)
    (allowed : inTenant put.session.currentTenant put.manifest.tenant = true) :
    (stores.step host put).2 = {
      memory := {
        byId := stores.memory.byId.insert put.manifest.manifestId put.manifest
        byWorkUnit := stores.memory.byWorkUnit.insert put.manifest.workUnitId
          put.manifest.manifestId }
      files := stores.files.insert put.manifest.manifestId put.manifest.reloaded
      table :=
        if put.manifest.hasBytes then stores.table
        else stores.table.replace put.manifest.reloaded } := by
  have passes : enforceRequestTenant put.session put.manifest = .ok () :=
    requireTenant_eq_ok_iff.mpr allowed
  simp only [ManifestStores.step, ManifestStore.step,
    InMemoryManifestStore.store, InMemoryManifestStore.put,
    FileManifestStore.store, FileManifestStore.put, FileManifestStore.path,
    SQLiteManifestStore.store, SQLiteManifestStore.put, passes, proper.valid,
    proper.safe, lift_ok_bind]
  cases put.manifest.hasBytes <;> rfl

/-- A put that is allowed appends its manifest to what the stores mirror. -/
theorem ManifestStores.Mirrors.step {stores : ManifestStores}
    (mirrors : stores.Mirrors manifests) (proper : put.IsProper host)
    (allowed : inTenant put.session.currentTenant put.manifest.tenant = true) :
    (stores.step host put).2.Mirrors (manifests ++ [put.manifest]) := by
  rw [step_allowed proper allowed]
  have byId := mirrors.byId.insert put.manifest
  have byWorkUnit := mirrors.byWorkUnit.insert put.manifest
  have files := mirrors.files.insert put.manifest
  by_cases clean : put.manifest.hasBytes = false
  · have appended : textual (manifests ++ [put.manifest]) =
        textual manifests ++ [put.manifest] := by
      simp [textual, clean]
    simp only [clean, Bool.false_eq_true, if_false]
    refine ⟨byId, byWorkUnit, files, mirrors.mem_replace _ clean, ?_⟩
    intro manifest ofWorkUnit ofId
    rw [appended] at ofWorkUnit ofId
    rcases lastBy_append_singleton_iff.mp ofWorkUnit with rfl | ⟨apart, before⟩
    · exact lastBy_append_singleton_iff.mpr (.inl rfl)
    · rcases lastBy_append_singleton_iff.mp ofId with rfl | ⟨other, beforeId⟩
      · exact absurd rfl apart
      · exact lastBy_replace (mirrors.latest manifest before beforeId)
          (fun same => other same.symm) apart
  · have bytes : put.manifest.hasBytes = true := by simpa using clean
    have appended : textual (manifests ++ [put.manifest]) =
        textual manifests := by
      simp [textual, bytes]
    simp only [bytes, if_true]
    refine ⟨byId, byWorkUnit, files, ?_, ?_⟩
    · rw [appended]
      exact mirrors.rows
    · rw [appended]
      exact mirrors.latest

theorem mirrors_after {puts : List ManifestPut}
    (proper : ∀ put ∈ puts, put.IsProper host) :
    (ManifestStores.after host puts).Mirrors (allowedManifests puts) := by
  induction puts using List.reverseRecOn with
  | nil => exact mirrors_nothing
  | append_singleton puts put ih =>
      have mirrors := ih fun other member =>
        proper other (List.mem_append_left _ member)
      have last := proper put (by simp)
      unfold ManifestStores.after at mirrors ⊢
      rw [Run.final_append]
      change ((Run.final (ManifestStores.step host) {} puts).step host
        put).2.Mirrors _
      cases allowed :
          inTenant put.session.currentTenant put.manifest.tenant with
      | true =>
          have appended : allowedManifests (puts ++ [put]) =
              allowedManifests puts ++ [put.manifest] := by
            simp [allowedManifests, allowed]
          rw [appended]
          exact mirrors.step last allowed
      | false =>
          have skipped : allowedManifests (puts ++ [put]) =
              allowedManifests puts := by
            simp [allowedManifests, allowed]
          rw [skipped, step_refused allowed]
          exact mirrors

end Steps

/-! ## Reads of the three stores -/

section Reads

variable {host : Host} {session : Session} {manifests : List Manifest}

/-- The last manifests under each identifier. -/
def lastById (manifests : List Manifest) : Set Manifest :=
  {manifest | LastBy Manifest.manifestId manifests manifest}

theorem lastById_unique {one two : Manifest} (first : one ∈ lastById manifests)
    (second : two ∈ lastById manifests)
    (same : one.manifestId = two.manifestId) : one = two :=
  LastBy.meet first second same.symm same

theorem enforced_eq_ok_iff {σ : Type} {manifest found : Manifest} {state : σ} :
    ((do
      Program.lift (enforceRequestTenant session manifest)
      return manifest : Program σ PyException Manifest) state).1 = .ok found ↔
      Sees session manifest ∧ manifest = found := by
  unfold Sees
  rw [← requireTenant_eq_ok_iff]
  unfold enforceRequestTenant
  cases checked : requireTenant session manifest.tenant with
  | error error =>
      rw [lift_error_bind]
      exact iff_of_false (fun run => nomatch run) (fun holds => nomatch holds.1)
  | ok _ =>
      rw [lift_ok_bind]
      constructor
      · intro run
        cases run
        exact ⟨rfl, rfl⟩
      · rintro ⟨-, rfl⟩
        rfl

/-- A row that a store finds under an identifier is the one that it
exposes. -/
theorem enforced_iff_mem {σ : Type} {rows : Set Manifest}
    (unique : ∀ one ∈ rows, ∀ two ∈ rows,
      one.manifestId = two.manifestId → one = two)
    {row : Manifest} (member : row ∈ rows) {manifestId : String}
    (same : row.manifestId = manifestId) {found : Manifest} {state : σ} :
    ((do
      Program.lift (enforceRequestTenant session row)
      return row : Program σ PyException Manifest) state).1 = .ok found ↔
      found ∈ rows ∧ found.manifestId = manifestId ∧ Sees session found := by
  refine enforced_eq_ok_iff.trans ?_
  constructor
  · rintro ⟨seen, rfl⟩
    exact ⟨member, same, seen⟩
  · rintro ⟨other, alsoSame, seen⟩
    obtain rfl := unique _ member _ other (same.trans alsoSame.symm)
    exact ⟨seen, rfl⟩

theorem reloaded_unique : ∀ one ∈ Manifest.reloaded '' lastById manifests,
    ∀ two ∈ Manifest.reloaded '' lastById manifests,
      one.manifestId = two.manifestId → one = two := by
  rintro _ ⟨one, first, rfl⟩ _ ⟨two, second, rfl⟩ same
  rw [lastById_unique first second same]

/-- No manifest has an identifier that is refused. -/
theorem manifestId_ne_of_refused
    (safe : ∀ manifest ∈ manifests,
      validateIdentifier manifest.manifestId "manifest id" "mf_" =
        .ok manifest.manifestId)
    {manifestId : String} {error : PyException}
    (refused : validateIdentifier manifestId "manifest id" "mf_" = .error error)
    {row : Manifest} (stored : row ∈ Manifest.reloaded '' lastById manifests) :
    row.manifestId ≠ manifestId := by
  obtain ⟨last, is, rfl⟩ := stored
  rintro rfl
  have allowed := safe last is.mem
  rw [Manifest.manifestId_reloaded] at refused
  rw [refused] at allowed
  cases allowed

theorem InMemoryManifestStore.exposes {state : InMemoryManifests}
    (byId : Tabulates state.byId Manifest.manifestId id manifests) :
    (store host).Exposes session state (lastById manifests) := by
  have stored : ∀ manifest, manifest ∈ state.byId.values ↔
      manifest ∈ lastById manifests := by
    intro manifest
    rw [Dict.mem_values_iff]
    constructor
    · rintro ⟨manifestId, held⟩
      obtain ⟨last, is, -, rfl⟩ := (byId _ _).mp held
      exact is
    · intro is
      exact ⟨_, (byId _ _).mpr ⟨manifest, is, rfl, rfl⟩⟩
  constructor
  · intro manifestId manifest
    change (InMemoryManifestStore.get session manifestId state).1 = _ ↔ _
    unfold InMemoryManifestStore.get
    rw [get_bind]
    cases held : state.byId.lookup manifestId with
    | none =>
        refine iff_of_false (fun run => nomatch run) ?_
        rintro ⟨is, named, -⟩
        have found := (byId manifestId manifest).mpr ⟨manifest, is, named, rfl⟩
        rw [held] at found
        cases found
    | some row =>
        obtain ⟨last, is, named, rfl⟩ := (byId _ _).mp held
        exact enforced_iff_mem (fun _ one _ two => lastById_unique one two) is
          named
  · intro tenant
    refine ⟨_, rfl, fun manifest => ?_⟩
    rw [rowsOf_eq_filter, List.mem_filter, stored]
  · intro logicalRef
    refine ⟨_, rfl, fun manifest => ?_⟩
    rw [withLogicalRef, List.mem_filter, rowsOf_eq_filter, List.mem_filter,
      stored, and_assoc, and_comm (a := inTenant _ _ = true), decide_eq_true_iff]
    rfl

/-- Without an empty tenant the file store filters as the others do. -/
theorem FileManifestStore.list_run {tenant : Option String}
    (named : session.currentTenant ≠ some "") (files : ManifestFiles) :
    list session tenant files =
      (.ok (rowsOf Manifest.tenant (session.tenantOr tenant)
        (sortedFiles files)), files) := by
  unfold list
  rw [get_bind]
  cases asked : session.tenantOr tenant with
  | none => rfl
  | some other =>
      have text : other ≠ "" := by
        rintro rfl
        unfold Session.tenantOr at asked
        split at asked
        · exact named asked
        · exact named asked
        · next given => exact given (Option.some.inj asked)
      rw [rowsOf_eq_filter]
      simp only [inTenant_some text]
      rfl

theorem FileManifestStore.exposes {files : ManifestFiles}
    (tabulated : Tabulates files Manifest.manifestId Manifest.reloaded manifests)
    (safe : ∀ manifest ∈ manifests,
      validateIdentifier manifest.manifestId "manifest id" "mf_" =
        .ok manifest.manifestId)
    (named : session.currentTenant ≠ some "") :
    (store host).Exposes session files
      (Manifest.reloaded '' lastById manifests) := by
  have stored : ∀ manifest, manifest ∈ sortedFiles files ↔
      manifest ∈ Manifest.reloaded '' lastById manifests := by
    intro manifest
    rw [mem_sortedFiles]
    constructor
    · rintro ⟨manifestId, held⟩
      obtain ⟨last, is, -, rfl⟩ := (tabulated _ _).mp held
      exact ⟨last, is, rfl⟩
    · rintro ⟨last, is, rfl⟩
      exact ⟨_, (tabulated _ _).mpr ⟨last, is, rfl, rfl⟩⟩
  constructor
  · intro manifestId manifest
    change (FileManifestStore.get session manifestId files).1 = _ ↔ _
    unfold FileManifestStore.get FileManifestStore.path
    cases valid : validateIdentifier manifestId "manifest id" "mf_" with
    | error error =>
        rw [lift_error_bind]
        refine iff_of_false (fun run => nomatch run) ?_
        rintro ⟨stored, same, -⟩
        exact manifestId_ne_of_refused safe valid stored same
    | ok identifier =>
        obtain ⟨rfl, -⟩ := validateIdentifier_eq_ok valid
        rw [lift_ok_bind, get_bind]
        cases held : files.lookup identifier with
        | none =>
            refine iff_of_false (fun run => nomatch run) ?_
            rintro ⟨⟨last, is, rfl⟩, same, -⟩
            have found := (tabulated identifier last.reloaded).mpr
              ⟨last, is, same, rfl⟩
            rw [held] at found
            cases found
        | some row =>
            obtain ⟨last, is, same, rfl⟩ := (tabulated _ _).mp held
            exact enforced_iff_mem reloaded_unique ⟨last, is, rfl⟩ same
  · intro tenant
    refine ⟨_, congrArg Prod.fst (list_run named files), fun manifest => ?_⟩
    rw [rowsOf_eq_filter, List.mem_filter, stored]
  · intro logicalRef
    have run : (findByLogicalRef session logicalRef files).1 =
        .ok (withLogicalRef logicalRef
          (rowsOf Manifest.tenant session.currentTenant (sortedFiles files))) := by
      unfold findByLogicalRef
      rw [bind_ok (list_run named files)]
      rfl
    refine ⟨_, run, fun manifest => ?_⟩
    rw [withLogicalRef, List.mem_filter, rowsOf_eq_filter, List.mem_filter,
      stored, and_assoc, and_comm (a := inTenant _ _ = true), decide_eq_true_iff]
    rfl

theorem SQLiteManifestStore.exposes {table : ManifestTable}
    (rows : ∀ row, row ∈ table ↔
      row ∈ Manifest.reloaded '' lastById (textual manifests))
    (safe : ∀ manifest ∈ manifests,
      validateIdentifier manifest.manifestId "manifest id" "mf_" =
        .ok manifest.manifestId) :
    (store host).Exposes session table
      (Manifest.reloaded '' lastById (textual manifests)) := by
  constructor
  · intro manifestId manifest
    change (SQLiteManifestStore.get session manifestId table).1 = _ ↔ _
    unfold SQLiteManifestStore.get
    cases valid : validateIdentifier manifestId "manifest id" "mf_" with
    | error error =>
        rw [lift_error_bind]
        refine iff_of_false (fun run => nomatch run) ?_
        rintro ⟨stored, same, -⟩
        exact manifestId_ne_of_refused
          (fun manifest member => safe manifest (List.mem_of_mem_filter member))
          valid stored same
    | ok identifier =>
        obtain ⟨rfl, -⟩ := validateIdentifier_eq_ok valid
        rw [lift_ok_bind, get_bind]
        cases sought : table.find? fun row => row.manifestId = identifier with
        | none =>
            refine iff_of_false (fun run => nomatch run) ?_
            rintro ⟨stored, same, -⟩
            have missing := List.find?_eq_none.mp sought _
              ((rows manifest).mpr stored)
            exact missing (decide_eq_true same)
        | some row =>
            have member := (rows row).mp (List.mem_of_find?_eq_some sought)
            have passes := List.find?_some sought
            have same : row.manifestId = identifier := by simpa using passes
            exact enforced_iff_mem reloaded_unique member same
  · intro tenant
    refine ⟨_, rfl, fun manifest => ?_⟩
    rw [List.mem_insertionSort, rowsOf_eq_filter, List.mem_filter, rows]
  · intro logicalRef
    refine ⟨_, rfl, fun manifest => ?_⟩
    rw [List.mem_insertionSort, rowsOf_eq_filter, List.mem_filter,
      withLogicalRef, List.mem_filter, rows, and_assoc, decide_eq_true_iff]
    rfl

/-! ## Manifests of a work unit -/

/-- A manifest that a store may find for the work unit. -/
structure Candidate (session : Session) (manifests : List Manifest)
    (workUnitId : String) (manifest : Manifest) : Prop where
  last : manifest ∈ lastById manifests
  sought : manifest.workUnitId = workUnitId
  seen : Sees session manifest

theorem toOption_map_eq_some_iff {ε α β : Type} {result : Except ε α}
    {change : α → β} {value : β} :
    result.toOption.map change = some value ↔
      ∃ found, result = .ok found ∧ change found = value := by
  cases result with
  | error error => simp [Except.toOption]
  | ok found => simp [Except.toOption]

theorem InMemoryManifestStore.getByWorkUnit_iff {state : InMemoryManifests}
    (byId : Tabulates state.byId Manifest.manifestId id manifests)
    (byWorkUnit : Tabulates state.byWorkUnit Manifest.workUnitId
      Manifest.manifestId manifests)
    {workUnitId : String} {found : Manifest} :
    ((store host).observe session state).getByWorkUnit workUnitId =
        some found ↔
      ∃ manifest last, LastBy Manifest.workUnitId manifests manifest ∧
        manifest.workUnitId = workUnitId ∧ last ∈ lastById manifests ∧
          last.manifestId = manifest.manifestId ∧ Sees session last ∧
            last.unordered = found := by
  refine toOption_map_eq_some_iff.trans ?_
  change (∃ row, (InMemoryManifestStore.getByWorkUnit session workUnitId
    state).1 = .ok row ∧ _) ↔ _
  unfold InMemoryManifestStore.getByWorkUnit
  rw [get_bind]
  constructor
  · rintro ⟨row, run, rfl⟩
    cases indexed : state.byWorkUnit.lookup workUnitId with
    | none => rw [indexed] at run; cases run
    | some manifestId =>
        rw [indexed] at run
        dsimp only at run
        obtain ⟨manifest, is, sought, rfl⟩ := (byWorkUnit _ _).mp indexed
        cases held : state.byId.lookup manifest.manifestId with
        | none => rw [held] at run; cases run
        | some row =>
            rw [held] at run
            obtain ⟨seen, rfl⟩ := enforced_eq_ok_iff.mp run
            obtain ⟨last, kept, same, rfl⟩ := (byId _ _).mp held
            exact ⟨manifest, last, is, sought, kept, same, seen, rfl⟩
  · rintro ⟨manifest, last, is, sought, kept, same, seen, rfl⟩
    refine ⟨last, ?_, rfl⟩
    have indexed := (byWorkUnit workUnitId manifest.manifestId).mpr
      ⟨manifest, is, sought, rfl⟩
    have held := (byId manifest.manifestId last).mpr ⟨last, kept, same, rfl⟩
    rw [indexed]
    dsimp only
    rw [held]
    exact enforced_eq_ok_iff.mpr ⟨seen, rfl⟩

/-- The files are found in the order of their names. -/
theorem FileManifestStore.ordered {files : ManifestFiles}
    (tabulated :
      Tabulates files Manifest.manifestId Manifest.reloaded manifests) :
    (sortedFiles files).Pairwise fun one two =>
      fileName one.manifestId ≤ fileName two.manifestId := by
  have keyed : ∀ entry ∈ files.entries, entry.2.manifestId = entry.1 := by
    rintro ⟨key, row⟩ member
    have held := (Dict.mem_entries_iff files key row).mp member
    obtain ⟨last, -, same, rfl⟩ := (tabulated _ _).mp held
    exact same
  have sorted := List.pairwise_insertionSort
    (fun p q : String × Manifest => p.1 ++ ".json" ≤ q.1 ++ ".json")
    files.entries
  refine List.pairwise_map.mpr (sorted.imp_of_mem ?_)
  intro one two first second before
  have inside : ∀ {entry}, entry ∈ files.entries.insertionSort
      (fun p q : String × Manifest => p.1 ++ ".json" ≤ q.1 ++ ".json") →
        entry ∈ files.entries := fun member =>
    (List.perm_insertionSort _ _).mem_iff.mp member
  rw [keyed one (inside first), keyed two (inside second)]
  exact before

/-- The item that a search finds stands before the others that it passes
over. -/
theorem find?_precedes {α : Type} {rel : α → α → Prop} {items : List α}
    {keep : α → Bool} {found other : α} (ordered : items.Pairwise rel)
    (sought : items.find? keep = some found) (member : other ∈ items)
    (kept : keep other = true) : other = found ∨ rel found other := by
  obtain ⟨-, before, after, rfl, skipped⟩ :=
    List.find?_eq_some_iff_append.mp sought
  rcases List.mem_append.mp member with early | late
  · have passed := skipped other early
    simp [kept] at passed
  · rcases List.mem_cons.mp late with here | later
    · exact .inl here
    · have tail := (List.pairwise_append.mp ordered).2.1
      exact .inr ((List.pairwise_cons.mp tail).1 other later)

namespace FileManifestStore

variable {files : ManifestFiles}

/-- The files that the session sees, in the order of their names. -/
def seenFiles (session : Session) (files : ManifestFiles) : List Manifest :=
  rowsOf Manifest.tenant session.currentTenant (sortedFiles files)

theorem mem_seenFiles_iff
    (tabulated : Tabulates files Manifest.manifestId Manifest.reloaded manifests)
    {row : Manifest} :
    row ∈ seenFiles session files ↔
      ∃ last ∈ lastById manifests, last.reloaded = row ∧ Sees session last := by
  rw [seenFiles, rowsOf_eq_filter, List.mem_filter, mem_sortedFiles]
  constructor
  · rintro ⟨⟨manifestId, held⟩, seen⟩
    obtain ⟨last, is, -, rfl⟩ := (tabulated _ _).mp held
    exact ⟨last, is, rfl, seen⟩
  · rintro ⟨last, is, rfl, seen⟩
    exact ⟨⟨_, (tabulated _ _).mpr ⟨last, is, rfl, rfl⟩⟩, seen⟩

theorem ordered_seenFiles
    (tabulated :
      Tabulates files Manifest.manifestId Manifest.reloaded manifests) :
    (seenFiles session files).Pairwise fun one two =>
      fileName one.manifestId ≤ fileName two.manifestId := by
  rw [seenFiles, rowsOf_eq_filter]
  exact (ordered tabulated).filter _

theorem getByWorkUnit_iff (named : session.currentTenant ≠ some "")
    {workUnitId : String} {row : Manifest} :
    (getByWorkUnit session workUnitId files).1 = .ok row ↔
      (seenFiles session files).find? (fun row =>
        row.workUnitId = workUnitId) = some row := by
  have all : rowsOf Manifest.tenant (session.tenantOr none)
    (sortedFiles files) = seenFiles session files := rfl
  unfold getByWorkUnit
  rw [bind_ok (list_run named files), all]
  cases (seenFiles session files).find? fun row =>
      row.workUnitId = workUnitId with
  | none =>
      exact iff_of_false (fun run => by cases run) (fun found => by cases found)
  | some first =>
      constructor
      · intro run
        cases run
        rfl
      · intro found
        cases found
        rfl

/-- The store finds the candidate with the first file name. -/
theorem first_of_getByWorkUnit
    (tabulated : Tabulates files Manifest.manifestId Manifest.reloaded manifests)
    (named : session.currentTenant ≠ some "") {workUnitId : String}
    {found : Manifest}
    (shown : ((store host).observe session files).getByWorkUnit workUnitId =
      some found) :
    ∃ manifest, Candidate session manifests workUnitId manifest ∧
      (∀ other, Candidate session manifests workUnitId other →
        fileName manifest.manifestId ≤ fileName other.manifestId) ∧
      manifest.reloaded.unordered = found := by
  obtain ⟨row, returned, rfl⟩ := toOption_map_eq_some_iff.mp shown
  have sought := (getByWorkUnit_iff named).mp returned
  obtain ⟨last, is, rfl, seen⟩ :=
    (mem_seenFiles_iff tabulated).mp (List.mem_of_find?_eq_some sought)
  have passes := List.find?_some sought
  have wanted : last.workUnitId = workUnitId := of_decide_eq_true passes
  refine ⟨last, ⟨is, wanted, seen⟩, ?_, rfl⟩
  intro other candidate
  have member := (mem_seenFiles_iff tabulated).mpr
    ⟨other, candidate.last, rfl, candidate.seen⟩
  rcases find?_precedes (ordered_seenFiles tabulated) sought member
    (decide_eq_true candidate.sought) with same | before
  · exact le_of_eq (congrArg (fun row => fileName row.manifestId) same.symm)
  · exact before

theorem exists_getByWorkUnit
    (tabulated : Tabulates files Manifest.manifestId Manifest.reloaded manifests)
    (named : session.currentTenant ≠ some "") {workUnitId : String}
    {manifest : Manifest}
    (candidate : Candidate session manifests workUnitId manifest) :
    ∃ found, ((store host).observe session files).getByWorkUnit workUnitId =
      some found := by
  have member := (mem_seenFiles_iff tabulated).mpr
    ⟨manifest, candidate.last, rfl, candidate.seen⟩
  cases sought : (seenFiles session files).find? fun row =>
      row.workUnitId = workUnitId with
  | none =>
      have missing := List.find?_eq_none.mp sought _ member
      exact absurd (decide_eq_true candidate.sought) missing
  | some first =>
      exact ⟨first.unordered, toOption_map_eq_some_iff.mpr
        ⟨first, (getByWorkUnit_iff named).mpr sought, rfl⟩⟩

end FileManifestStore

namespace SQLiteManifestStore

variable {table : ManifestTable} {workUnitId : String}

/-- The rows of the work unit that the session sees. -/
def seenRows (session : Session) (table : ManifestTable) (workUnitId : String) :
    List Manifest :=
  rowsOf Manifest.tenant session.currentTenant
    (table.filter fun row => row.workUnitId = workUnitId)

theorem mem_seenRows_iff
    (rows : ∀ row, row ∈ table ↔
      row ∈ Manifest.reloaded '' lastById (textual manifests))
    {row : Manifest} :
    row ∈ seenRows session table workUnitId ↔
      ∃ manifest, Candidate session (textual manifests) workUnitId manifest ∧
        manifest.reloaded = row := by
  rw [seenRows, rowsOf_eq_filter, List.mem_filter, List.mem_filter, rows,
    decide_eq_true_iff]
  constructor
  · rintro ⟨⟨⟨last, is, rfl⟩, sought⟩, seen⟩
    exact ⟨last, ⟨is, sought, seen⟩, rfl⟩
  · rintro ⟨last, candidate, rfl⟩
    exact ⟨⟨⟨last, candidate.last, rfl⟩, candidate.sought⟩, candidate.seen⟩

theorem getByWorkUnit_iff {row : Manifest} :
    (getByWorkUnit session workUnitId table).1 = .ok row ↔
      newest (seenRows session table workUnitId) = some row := by
  unfold getByWorkUnit
  rw [get_bind, ← seenRows]
  cases newest (seenRows session table workUnitId) with
  | none =>
      exact iff_of_false (fun run => by cases run) (fun found => by cases found)
  | some first =>
      constructor
      · intro run
        cases run
        rfl
      · intro found
        cases found
        rfl

/-- The store finds a candidate that no other one is newer than. -/
theorem newest_of_getByWorkUnit
    (rows : ∀ row, row ∈ table ↔
      row ∈ Manifest.reloaded '' lastById (textual manifests))
    {found : Manifest}
    (shown : ((store host).observe session table).getByWorkUnit workUnitId =
      some found) :
    ∃ manifest, Candidate session (textual manifests) workUnitId manifest ∧
      (∀ other, Candidate session (textual manifests) workUnitId other →
        other.createdAt ≤ manifest.createdAt) ∧
      manifest.reloaded.unordered = found := by
  obtain ⟨row, returned, rfl⟩ := toOption_map_eq_some_iff.mp shown
  obtain ⟨inside, latest⟩ := newest_spec (getByWorkUnit_iff.mp returned)
  obtain ⟨manifest, candidate, rfl⟩ := (mem_seenRows_iff rows).mp inside
  refine ⟨manifest, candidate, fun other alsoCandidate => ?_, rfl⟩
  have stored : other.reloaded ∈ seenRows session table workUnitId :=
    (mem_seenRows_iff rows).mpr ⟨other, alsoCandidate, rfl⟩
  exact latest other.reloaded stored

/-- A candidate in the last row of its work unit is found when no other one is
newer. -/
theorem getByWorkUnit_of_latest
    (rows : ∀ row, row ∈ table ↔
      row ∈ Manifest.reloaded '' lastById (textual manifests))
    {manifest : Manifest}
    (candidate : Candidate session (textual manifests) workUnitId manifest)
    (last : LastBy Manifest.workUnitId table manifest.reloaded)
    (latest : ∀ other, Candidate session (textual manifests) workUnitId other →
      other.createdAt ≤ manifest.createdAt) :
    ((store host).observe session table).getByWorkUnit workUnitId =
      some manifest.reloaded.unordered := by
  obtain ⟨early, late, split, after⟩ := last
  have none_late : late.filter (fun row => row.workUnitId = workUnitId) = [] := by
    rw [List.filter_eq_nil_iff]
    intro other member same
    have wanted := of_decide_eq_true same
    exact after other member (wanted.trans candidate.sought.symm)
  have own : manifest.reloaded.workUnitId = workUnitId := candidate.sought
  have shape : ∃ front, seenRows session table workUnitId =
      front ++ [manifest.reloaded] := by
    have seen : inTenant session.currentTenant manifest.reloaded.tenant = true :=
      candidate.seen
    refine ⟨rowsOf Manifest.tenant session.currentTenant
      (early.filter fun row => row.workUnitId = workUnitId), ?_⟩
    simp only [seenRows, split, rowsOf_eq_filter, List.filter_append,
      List.filter_cons, own, decide_true, none_late, List.filter_nil, if_true,
      seen]
  obtain ⟨front, shape⟩ := shape
  apply toOption_map_eq_some_iff.mpr
  refine ⟨manifest.reloaded, getByWorkUnit_iff.mpr ?_, rfl⟩
  rw [shape]
  apply newest_append_singleton
  intro row member
  obtain ⟨other, alsoCandidate, rfl⟩ := (mem_seenRows_iff rows).mp
    (shape ▸ List.mem_append_left _ member)
  exact latest other alsoCandidate

end SQLiteManifestStore

end Reads

/-! ## When the stores agree -/

section Agreement

variable {host : Host} {session : Session} {manifests : List Manifest}
  {stores : ManifestStores}

/-- What the histories of the stores guarantee. -/
structure ManifestStores.Follows (stores : ManifestStores)
    (manifests : List Manifest) : Prop where
  mirrors : stores.Mirrors manifests
  safe : ∀ manifest ∈ manifests,
    validateIdentifier manifest.manifestId "manifest id" "mf_" =
      .ok manifest.manifestId
  spaced : ∀ manifest ∈ manifests, manifest.nameSpace ≠ ""

theorem follows_after {puts : List ManifestPut}
    (proper : ∀ put ∈ puts, put.IsProper host) :
    (ManifestStores.after host puts).Follows (allowedManifests puts) := by
  have source : ∀ manifest ∈ allowedManifests puts,
      ∃ put ∈ puts, put.manifest = manifest := by
    intro manifest member
    obtain ⟨put, allowed, rfl⟩ := List.mem_map.mp member
    exact ⟨put, List.mem_of_mem_filter allowed, rfl⟩
  refine ⟨mirrors_after proper, ?_, ?_⟩
  · intro manifest member
    obtain ⟨put, given, rfl⟩ := source manifest member
    exact (proper put given).safe
  · intro manifest member
    obtain ⟨put, given, rfl⟩ := source manifest member
    exact (proper put given).spaced

/-- Reloading only matters to byte strings. -/
theorem compared_reloaded {rows : Set Manifest}
    (spaced : ∀ manifest ∈ rows, manifest.nameSpace ≠ "")
    (clean : ∀ manifest ∈ rows, manifest.hasBytes = false) :
    compared (Manifest.reloaded '' rows) = compared rows := by
  unfold compared
  rw [Set.image_image]
  apply Set.image_congr
  intro manifest member
  rw [Manifest.reloaded_eq_unordered (clean manifest member)
    (spaced manifest member), Manifest.unordered_unordered]

theorem lastById_textual
    (clean : ∀ manifest ∈ lastById manifests, manifest.hasBytes = false) :
    lastById (textual manifests) = lastById manifests := by
  have keep : ∀ {manifest}, manifest ∈ lastById manifests →
      manifest ∈ lastById (textual manifests) := fun is =>
    LastBy.filter is (by simp [clean _ is])
  ext manifest
  constructor
  · intro is
    obtain ⟨last, alsoIs, same⟩ :=
      exists_lastBy (List.mem_of_mem_filter is.mem)
    rw [lastById_unique is (keep alsoIs) same.symm]
    exact alsoIs
  · exact keep

theorem candidate_textual_iff
    (clean : ∀ manifest ∈ lastById manifests, manifest.hasBytes = false)
    {workUnitId : String} {manifest : Manifest} :
    Candidate session (textual manifests) workUnitId manifest ↔
      Candidate session manifests workUnitId manifest := by
  have same := lastById_textual clean
  constructor
  · intro candidate
    exact ⟨same ▸ candidate.last, candidate.sought, candidate.seen⟩
  · intro candidate
    exact ⟨same ▸ candidate.last, candidate.sought, candidate.seen⟩

theorem fileName_injective {one two : Manifest} (first : one ∈ lastById manifests)
    (second : two ∈ lastById manifests)
    (same : fileName one.manifestId = fileName two.manifestId) : one = two := by
  have named : one.manifestId = two.manifestId := by
    have texts := congrArg String.toList same
    simp only [fileName, String.toList_append] at texts
    exact String.toList_inj.mp (List.append_cancel_right texts)
  exact lastById_unique first second named

/-- Of the candidates for a work unit one leads the others. -/
theorem Unambiguous.exists_leader (unambiguous : Unambiguous manifests)
    {workUnitId : String}
    {manifest : Manifest}
    (candidate : Candidate session manifests workUnitId manifest) :
    ∃ leader, LastBy Manifest.workUnitId manifests leader ∧
      Candidate session manifests workUnitId leader ∧
      ∀ other, Candidate session manifests workUnitId other →
        fileName leader.manifestId ≤ fileName other.manifestId ∧
          other.createdAt ≤ leader.createdAt := by
  obtain ⟨leader, is, same⟩ := exists_lastBy candidate.last.mem
  have sought : leader.workUnitId = workUnitId := same.trans candidate.sought
  have kept := unambiguous.kept leader is
  have leads : ∀ other, Candidate session manifests workUnitId other →
      other = leader ∨ (other.tenant = leader.tenant ∨ other.tenant = "") ∧
        fileName leader.manifestId ≤ fileName other.manifestId ∧
          other.createdAt ≤ leader.createdAt := by
    intro other alsoCandidate
    by_cases identified : other.manifestId = leader.manifestId
    · exact .inl (lastById_unique alsoCandidate.last kept identified)
    · exact .inr (unambiguous.leads leader other is alsoCandidate.last
        (alsoCandidate.sought.trans sought.symm) identified)
  have seen : Sees session leader := by
    rcases leads manifest candidate with rfl | ⟨owned | unowned, -⟩
    · exact candidate.seen
    · have shown := candidate.seen
      unfold Sees at shown ⊢
      rwa [← owned]
    · have shown := candidate.seen
      unfold Sees inTenant at shown ⊢
      rw [unowned] at shown
      split at shown
      · rfl
      · rfl
      · next tenant given current =>
          exact absurd (of_decide_eq_true shown).symm given
  refine ⟨leader, is, ⟨kept, sought, seen⟩, ?_⟩
  intro other alsoCandidate
  rcases leads other alsoCandidate with rfl | ⟨-, before⟩
  · exact ⟨le_refl _, le_refl _⟩
  · exact before

namespace ManifestStores.Follows

theorem exposes (host : Host) (follows : stores.Follows manifests)
    (named : session.currentTenant ≠ some "") :
    (InMemoryManifestStore.store host).Exposes session stores.memory
        (lastById manifests) ∧
      (FileManifestStore.store host).Exposes session stores.files
        (Manifest.reloaded '' lastById manifests) ∧
      (SQLiteManifestStore.store host).Exposes session stores.table
        (Manifest.reloaded '' lastById (textual manifests)) :=
  ⟨InMemoryManifestStore.exposes follows.mirrors.byId,
    FileManifestStore.exposes follows.mirrors.files follows.safe named,
    SQLiteManifestStore.exposes follows.mirrors.rows follows.safe⟩

/-- Without ambiguity every store finds the leader of a work unit. -/
theorem getByWorkUnit_of_leader (host : Host)
    (follows : stores.Follows manifests) (unambiguous : Unambiguous manifests)
    (named : session.currentTenant ≠ some "") {workUnitId : String}
    {leader : Manifest} (is : LastBy Manifest.workUnitId manifests leader)
    (candidate : Candidate session manifests workUnitId leader)
    (leads : ∀ other, Candidate session manifests workUnitId other →
      fileName leader.manifestId ≤ fileName other.manifestId ∧
        other.createdAt ≤ leader.createdAt) :
    ((InMemoryManifestStore.store host).observe session
        stores.memory).getByWorkUnit workUnitId = some leader.unordered ∧
      ((FileManifestStore.store host).observe session
        stores.files).getByWorkUnit workUnitId = some leader.unordered ∧
      ((SQLiteManifestStore.store host).observe session
        stores.table).getByWorkUnit workUnitId = some leader.unordered := by
  have clean := unambiguous.textual leader candidate.last
  have same : leader.reloaded.unordered = leader.unordered := by
    rw [Manifest.reloaded_eq_unordered clean
      (follows.spaced leader candidate.last.mem), Manifest.unordered_unordered]
  have agrees := @candidate_textual_iff session manifests unambiguous.textual
    workUnitId
  refine ⟨?_, ?_, ?_⟩
  · exact (InMemoryManifestStore.getByWorkUnit_iff follows.mirrors.byId
      follows.mirrors.byWorkUnit).mpr ⟨leader, leader, is, candidate.sought,
        candidate.last, rfl, candidate.seen, rfl⟩
  · obtain ⟨found, shown⟩ := FileManifestStore.exists_getByWorkUnit
      follows.mirrors.files named candidate
    obtain ⟨first, alsoCandidate, precedes, rfl⟩ :=
      FileManifestStore.first_of_getByWorkUnit follows.mirrors.files named shown
    have equal := fileName_injective alsoCandidate.last candidate.last
      (le_antisymm (precedes leader candidate) (leads first alsoCandidate).1)
    rw [shown, equal, same]
  · have alsoIs : LastBy Manifest.workUnitId (textual manifests) leader :=
      is.filter (by simp [clean])
    have kept : leader ∈ lastById (textual manifests) :=
      (agrees.mpr candidate).last
    rw [← same]
    apply SQLiteManifestStore.getByWorkUnit_of_latest follows.mirrors.rows
      (agrees.mpr candidate) (follows.mirrors.latest leader alsoIs kept)
    intro other alsoCandidate
    exact (leads other (agrees.mp alsoCandidate)).2

theorem getByWorkUnit_eq (host : Host) (follows : stores.Follows manifests)
    (unambiguous : Unambiguous manifests)
    (named : session.currentTenant ≠ some "") (workUnitId : String) :
    ((InMemoryManifestStore.store host).observe session
        stores.memory).getByWorkUnit workUnitId =
      ((FileManifestStore.store host).observe session
        stores.files).getByWorkUnit workUnitId ∧
    ((FileManifestStore.store host).observe session
        stores.files).getByWorkUnit workUnitId =
      ((SQLiteManifestStore.store host).observe session
        stores.table).getByWorkUnit workUnitId := by
  by_cases any : ∃ manifest, Candidate session manifests workUnitId manifest
  · obtain ⟨manifest, candidate⟩ := any
    obtain ⟨leader, is, candidate, leads⟩ :=
      unambiguous.exists_leader candidate
    obtain ⟨memory, files, table⟩ := follows.getByWorkUnit_of_leader host
      unambiguous named is candidate leads
    exact ⟨memory.trans files.symm, files.trans table.symm⟩
  · have memory : ((InMemoryManifestStore.store host).observe session
        stores.memory).getByWorkUnit workUnitId = none := by
      rw [Option.eq_none_iff_forall_ne_some]
      intro found shown
      obtain ⟨manifest, last, is, sought, kept, same, seen, -⟩ :=
        (InMemoryManifestStore.getByWorkUnit_iff follows.mirrors.byId
          follows.mirrors.byWorkUnit).mp shown
      have one := lastById_unique kept (unambiguous.kept manifest is) same
      exact any ⟨last, kept, one ▸ sought, seen⟩
    have files : ((FileManifestStore.store host).observe session
        stores.files).getByWorkUnit workUnitId = none := by
      rw [Option.eq_none_iff_forall_ne_some]
      intro found shown
      obtain ⟨first, candidate, -⟩ := FileManifestStore.first_of_getByWorkUnit
        follows.mirrors.files named shown
      exact any ⟨first, candidate⟩
    have table : ((SQLiteManifestStore.store host).observe session
        stores.table).getByWorkUnit workUnitId = none := by
      rw [Option.eq_none_iff_forall_ne_some]
      intro found shown
      obtain ⟨first, candidate, -⟩ :=
        SQLiteManifestStore.newest_of_getByWorkUnit follows.mirrors.rows shown
      exact any ⟨first,
        (candidate_textual_iff unambiguous.textual).mp candidate⟩
    exact ⟨memory.trans files.symm, files.trans table.symm⟩

section Converse

variable (follows : stores.Follows manifests)
  (agree : ∀ session : Session, session.currentTenant ≠ some "" →
    stores.Agree host session)

include follows agree

theorem textual_of_agree {manifest : Manifest}
    (is : manifest ∈ lastById manifests) : manifest.hasBytes = false := by
  have free : ({} : Session).currentTenant ≠ some "" := fun same => nomatch same
  obtain ⟨memory, files, -⟩ := follows.exposes host free
  have same := memory.compared_eq_of_observe_eq files rfl (agree {} free).1
  have member : manifest.unordered ∈ compared (lastById manifests) :=
    ⟨manifest, is, rfl⟩
  rw [same] at member
  obtain ⟨_, ⟨other, -, rfl⟩, equal⟩ := member
  rw [← Manifest.hasBytes_unordered manifest, ← equal,
    Manifest.hasBytes_unordered, Manifest.hasBytes_reloaded]

/-- The file store finds what the memory finds for the last manifest of a work
unit. -/
theorem found_of_agree {session : Session}
    (named : session.currentTenant ≠ some "") {manifest last : Manifest}
    (is : LastBy Manifest.workUnitId manifests manifest)
    (kept : last ∈ lastById manifests)
    (same : last.manifestId = manifest.manifestId) (seen : Sees session last) :
    Candidate session manifests manifest.workUnitId last ∧
      ∀ other, Candidate session manifests manifest.workUnitId other →
        fileName last.manifestId ≤ fileName other.manifestId ∧
          other.createdAt ≤ last.createdAt := by
  have clean : ∀ manifest ∈ lastById manifests, manifest.hasBytes = false :=
    fun _ is => follows.textual_of_agree agree is
  have identified : ∀ {other : Manifest}, other ∈ lastById manifests →
      other.reloaded.unordered = last.unordered → other = last := by
    intro other alsoIs equal
    have id := congrArg Manifest.manifestId equal
    exact lastById_unique alsoIs kept id
  have memory := (@InMemoryManifestStore.getByWorkUnit_iff host session
    manifests _ follows.mirrors.byId follows.mirrors.byWorkUnit
    manifest.workUnitId last.unordered).mpr
      ⟨manifest, last, is, rfl, kept, same, seen, rfl⟩
  obtain ⟨files, table⟩ := agree session named
  rw [files] at memory
  obtain ⟨first, candidate, precedes, equal⟩ :=
    FileManifestStore.first_of_getByWorkUnit follows.mirrors.files named memory
  cases identified candidate.last equal
  rw [table] at memory
  obtain ⟨newest, alsoCandidate, latest, equal⟩ :=
    SQLiteManifestStore.newest_of_getByWorkUnit follows.mirrors.rows memory
  have alsoLast := ((candidate_textual_iff clean).mp alsoCandidate).last
  cases identified alsoLast equal
  refine ⟨candidate, fun other given => ⟨precedes other given, ?_⟩⟩
  exact latest other ((candidate_textual_iff clean).mpr given)

theorem unambiguous_of_agree : Unambiguous manifests := by
  have free : ({} : Session).currentTenant ≠ some "" := fun same => nomatch same
  have kept : ∀ manifest, LastBy Manifest.workUnitId manifests manifest →
      manifest ∈ lastById manifests := by
    intro manifest is
    obtain ⟨last, alsoIs, same⟩ := exists_lastBy is.mem
    obtain ⟨candidate, -⟩ :=
      follows.found_of_agree agree free is alsoIs same rfl
    rw [LastBy.meet is alsoIs candidate.sought same.symm]
    exact alsoIs
  refine ⟨fun _ is => follows.textual_of_agree agree is, kept, ?_⟩
  intro manifest other is alsoIs sought apart
  obtain ⟨-, leads⟩ :=
    follows.found_of_agree agree free is (kept manifest is) rfl rfl
  refine ⟨?_, leads other ⟨alsoIs, sought, rfl⟩⟩
  by_contra foreign
  obtain ⟨tenant, unowned⟩ := not_or.mp foreign
  -- A principal of the other manifest's tenant finds it in the files only.
  let session : Session := { currentTenant := some other.tenant }
  have named : session.currentTenant ≠ some "" := fun same =>
    unowned (Option.some.inj same)
  have seen : Sees session other := by
    rw [Sees, inTenant_some unowned]
    exact decide_eq_true rfl
  obtain ⟨found, shown⟩ := @FileManifestStore.exists_getByWorkUnit host session
    manifests _ follows.mirrors.files named _ _ ⟨alsoIs, sought, seen⟩
  rw [← (agree session named).1] at shown
  obtain ⟨newer, last, alsoNewer, same, latest, identified, visible, -⟩ :=
    (InMemoryManifestStore.getByWorkUnit_iff follows.mirrors.byId
      follows.mirrors.byWorkUnit).mp shown
  cases LastBy.meet alsoNewer is same.symm same
  cases lastById_unique latest (kept _ is) identified
  rw [Sees, inTenant_some unowned] at visible
  exact tenant (of_decide_eq_true visible).symm

end Converse

end ManifestStores.Follows

/-- After any puts of proper manifests the stores agree on every read exactly
when the puts are unambiguous. -/
theorem agree_iff {puts : List ManifestPut}
    (proper : ∀ put ∈ puts, put.IsProper host) :
    (∀ session : Session, session.currentTenant ≠ some "" →
      (ManifestStores.after host puts).Agree host session) ↔
      Unambiguous (allowedManifests puts) := by
  have follows := follows_after proper
  constructor
  · exact follows.unambiguous_of_agree
  · intro unambiguous session named
    obtain ⟨memory, files, table⟩ := follows.exposes host named
    have clean := unambiguous.textual
    have spaced : ∀ manifest ∈ lastById (allowedManifests puts),
        manifest.nameSpace ≠ "" := fun manifest is =>
      follows.spaced manifest is.mem
    have same := (compared_reloaded spaced clean).symm
    have found := follows.getByWorkUnit_eq host unambiguous named
    rw [lastById_textual clean] at table
    exact ⟨(memory.observe_eq_iff files same).mpr fun id => (found id).1,
      (files.observe_eq_iff table rfl).mpr fun id => (found id).2⟩

end Agreement

/-! ## Two manifests of a work unit -/

def sampleManifest (manifestId : String) : Manifest where
  workUnitId := "wu_1"
  tenant := "acme"
  kind := .byteObject
  contract := .exactBytes
  logicalRef := "s3://docs/a"
  manifestId := manifestId
  createdAt := "2024-01-01T00:00:00+00:00"

def samplePuts (manifestIds : List String) : List ManifestPut :=
  manifestIds.map fun manifestId => ⟨{}, sampleManifest manifestId⟩

theorem isProper_of_valid {manifestId : String}
    (valid : isValidManifest Host.counting (sampleManifest manifestId) = true)
    (safe : Passes (fun identifier => identifier = manifestId)
      (validateIdentifier manifestId "manifest id" "mf_") = true) :
    (ManifestPut.mk {} (sampleManifest manifestId)).IsProper Host.counting where
  valid := by
    unfold validateManifest
    rw [valid]
    rfl
  safe := by
    obtain ⟨identifier, checked, -⟩ := exists_of_passes safe
    obtain ⟨rfl, -⟩ := validateIdentifier_eq_ok checked
    exact checked
  spaced := by
    change "default" ≠ ""
    decide
  dated := by
    change isDateTime "2024-01-01T00:00:00+00:00" = true
    decide +kernel

theorem isProper_sample :
    ∀ put ∈ samplePuts ["mf_a", "mf_b"], put.IsProper Host.counting := by
  intro put member
  simp only [samplePuts, List.map_cons, List.map_nil, List.mem_cons,
    List.not_mem_nil, or_false] at member
  rcases member with rfl | rfl
  · exact isProper_of_valid (by decide +kernel) (by decide +kernel)
  · exact isProper_of_valid (by decide +kernel) (by decide +kernel)

/-- One manifest of a work unit is read alike from the three stores. -/
theorem agree_iff_sample :
    (∀ put ∈ samplePuts ["mf_a"], put.IsProper Host.counting) ∧
      ∀ session : Session, session.currentTenant ≠ some "" →
        (ManifestStores.after Host.counting (samplePuts ["mf_a"])).Agree
          Host.counting session := by
  have proper : ∀ put ∈ samplePuts ["mf_a"], put.IsProper Host.counting :=
    fun put member => isProper_sample put (List.mem_append_left _ member)
  have single : allowedManifests (samplePuts ["mf_a"]) =
      [sampleManifest "mf_a"] := rfl
  refine ⟨proper, (agree_iff proper).mpr ?_⟩
  rw [single]
  have only : ∀ {key : Manifest → String} {manifest : Manifest},
      LastBy key [sampleManifest "mf_a"] manifest →
        manifest = sampleManifest "mf_a" := fun is =>
    List.mem_singleton.mp is.mem
  constructor
  · intro manifest is
    rw [only is]
    decide
  · intro manifest is
    cases only is
    exact ⟨[], [], rfl, fun _ late => nomatch late⟩
  · intro manifest other is alsoIs _ apart
    rw [only is, only alsoIs] at apart
    exact absurd rfl apart

theorem memory_finds_last :
    Passes (fun manifest : Manifest => manifest.manifestId = "mf_b")
      (InMemoryManifestStore.getByWorkUnit {} "wu_1"
        (ManifestStores.after Host.counting
          (samplePuts ["mf_a", "mf_b"])).memory).1 = true := by
  decide +kernel

theorem files_find_first :
    Passes (fun manifest : Manifest => manifest.manifestId = "mf_a")
      (FileManifestStore.getByWorkUnit {} "wu_1"
        (ManifestStores.after Host.counting
          (samplePuts ["mf_a", "mf_b"])).files).1 = true := by
  decide +kernel

/-- With two manifests of one work unit the memory finds the later put and the
file store the first file name. -/
theorem not_agree_sample :
    (∀ put ∈ samplePuts ["mf_a", "mf_b"], put.IsProper Host.counting) ∧
      ¬ (ManifestStores.after Host.counting
        (samplePuts ["mf_a", "mf_b"])).Agree Host.counting {} := by
  refine ⟨isProper_sample, fun agree => ?_⟩
  obtain ⟨memory, held, last⟩ := exists_of_passes memory_finds_last
  obtain ⟨file, found, first⟩ := exists_of_passes files_find_first
  have same := congrFun (congrArg Observation.getByWorkUnit agree.1) "wu_1"
  have memoryFinds := toOption_map_eq_some_iff.mpr
    ⟨memory, held, @rfl _ memory.unordered⟩
  have filesFind := toOption_map_eq_some_iff.mpr
    ⟨file, found, @rfl _ file.unordered⟩
  have same := memoryFinds.symm.trans (same.trans filesFind)
  have identified : memory.unordered.manifestId = file.unordered.manifestId :=
    congrArg Manifest.manifestId (Option.some.inj same)
  change memory.manifestId = file.manifestId at identified
  rw [of_decide_eq_true last, of_decide_eq_true first] at identified
  exact absurd identified (by decide)

end Records

end Urp
