import Urp.Library.Run
import Urp.ManifestStores
import Urp.ObjectPuts

/-!
# The listing of a bucket

`list_objects`, which reads every manifest of the tenant, and what it shows
after puts and deletions.  A put writes a manifest of its own and leaves the
earlier ones of its key as they are, so the listing has one row for each key
exactly while no put names a key that is listed.
-/

namespace Urp

open Python Program

structure ObjectRow where
  bucket : Value
  key : Value
  manifestId : String
  state : ManifestState
  size : Nat
  metadata : Value
  tags : Value

def ObjectRow.location (row : ObjectRow) : Value × Value := (row.bucket, row.key)

namespace LocalS3Adapter

/-! ## The listing -/

/-- `key in value`. -/
def containsKey (value : Value) (key : String) : Except PyException Bool :=
  match value with
  | .dict entries => .ok (Entries.lookup entries key).isSome
  | .list items => .ok (items.any fun item => item.string? == some key)
  | .str text => .ok (decide (key.toList <:+: text.toList))
  | _ => .error .typeError

/-- The row of a manifest with this `work_unit_metadata`. -/
def objectRow (manifest : Manifest) (source : List (String × Value)) :
    ObjectRow where
  bucket := Value.get source "bucket"
  key := Value.getD source "key" (.str "")
  manifestId := manifest.manifestId
  state := manifest.state
  size := manifest.physical.logicalSize
  metadata := Value.getD source "object_metadata" (.dict [])
  tags := Value.getD source "tags" (.dict [])

/-- The row is of the bucket, and its key starts with the text; an empty text
asks for nothing. -/
def asked (host : Host) (bucket : Option String) (start : String)
    (row : ObjectRow) : Bool :=
  (match bucket with
    | none | some "" => true
    | some name => row.bucket.string? == some name) &&
  (start = "" || decide (start.toList <+: (host.str row.key).toList))

section Listing

variable (host : Host) (bucket : Option String) (start : String)

/-- The row that `list_objects` appends for a manifest, if any. -/
def listedRow (includeTombstoned : Bool) (manifest : Manifest) :
    Except PyException (Option ObjectRow) := do
  if manifest.state = .tombstoned && !includeTombstoned then .ok none
  else
    let source := manifest.lineage.getD "work_unit_metadata" (.dict [])
    let hasBucket ← containsKey source "bucket"
    let hasKey ← containsKey source "key"
    if !hasBucket || !hasKey then .ok none
    else
      match source with
      | .dict entries =>
          let row := objectRow manifest entries
          .ok (if asked host bucket start row then some row else none)
      | _ => .error .attributeError

def listObjects (session : Session) (tenant : String)
    (includeTombstoned : Bool) : Program World PyException (List ObjectRow) := do
  let manifests ← Program.focus World.manifestsLens
    (FileManifestStore.list session (some tenant))
  let rows ← Program.lift
    (manifests.mapM (listedRow host bucket start includeTombstoned))
  return rows.reduceOption

end Listing

/-! ## The rows of puts -/

/-- The row of a put whose manifest was read back. -/
def rowOf (put : ObjectPut) (manifest : Manifest) : ObjectRow where
  bucket := .str put.bucket
  key := .str put.key
  manifestId := manifest.manifestId
  state := manifest.state
  size := manifest.physical.logicalSize
  metadata := put.metadata.toValue.withText.sorted
  tags := put.tags.toValue.withText.sorted

/-- What the lineage of a put's manifest says where it was read back. -/
theorem source_of_putLineage (put : ObjectPut) :
    ∃ entries, (putLineage put).reloaded.getD "work_unit_metadata" (.dict []) =
        .dict entries ∧
      Entries.lookup entries "bucket" = some (.str put.bucket) ∧
      Entries.lookup entries "key" = some (.str put.key) ∧
      Entries.lookup entries "object_metadata" =
        some put.metadata.toValue.withText.sorted ∧
      Entries.lookup entries "tags" = some put.tags.toValue.withText.sorted := by
  have entry : ∀ key value, (key, value) ∈ [("bucket", Value.str put.bucket),
      ("key", .str put.key), ("object_metadata", put.metadata.toValue),
      ("tags", put.tags.toValue)] →
        (putMetadata put).reloaded.lookup key = some value.withText.sorted := by
    intro key value member
    rw [Object.lookup_reloaded, lookup_putMetadata put member]
    rfl
  refine ⟨(putMetadata put).reloaded.entries, ?_,
    entry "bucket" (.str put.bucket) (by simp),
    entry "key" (.str put.key) (by simp),
    entry "object_metadata" put.metadata.toValue (by simp),
    entry "tags" put.tags.toValue (by simp)⟩
  unfold Object.getD
  rw [Object.lookup_reloaded, lookup_putLineage]
  rfl

/-- The row does not depend on which put of a lineage it is taken from. -/
theorem rowOf_congr {put other : ObjectPut}
    (same : (putLineage put).reloaded = (putLineage other).reloaded)
    (manifest : Manifest) : rowOf put manifest = rowOf other manifest := by
  obtain ⟨entries, source, bucket, key, metadata, tags⟩ :=
    source_of_putLineage put
  obtain ⟨others, otherSource, otherBucket, otherKey, otherMetadata,
    otherTags⟩ := source_of_putLineage other
  rw [same, otherSource] at source
  cases source
  simp only [rowOf, Option.some.inj (bucket.symm.trans otherBucket),
    Option.some.inj (key.symm.trans otherKey),
    Option.some.inj (metadata.symm.trans otherMetadata),
    Option.some.inj (tags.symm.trans otherTags)]

section Rows

variable {host : Host} {bucket : Option String} {start : String}
variable {manifest : Manifest} {put : ObjectPut}

/-- A put's manifest has the put's row while it is not deleted. -/
theorem listedRow_of_put (live : manifest.state ≠ .tombstoned)
    (lineage : manifest.lineage = (putLineage put).reloaded) :
    listedRow host bucket start false manifest =
      .ok (if asked host bucket start (rowOf put manifest) then
        some (rowOf put manifest) else none) := by
  obtain ⟨entries, source, bucketEntry, keyEntry, metadata, tags⟩ :=
    source_of_putLineage put
  have row : objectRow manifest entries = rowOf put manifest := by
    simp [objectRow, rowOf, Value.get, Value.getD, bucketEntry, keyEntry,
      metadata, tags]
  unfold listedRow
  rw [lineage, source]
  simp only [live, decide_false, Bool.false_and, Bool.false_eq_true, if_false,
    containsKey, bucketEntry, keyEntry, Option.isSome_some, row]
  rfl

theorem listedRow_of_tombstoned (dead : manifest.state = .tombstoned) :
    listedRow host bucket start false manifest = .ok none := by
  unfold listedRow
  simp [dead]

end Rows

/-! ## What a listing shows -/

/-- The session's listing is of the adapter's own tenant. -/
def Shows (session : Session) (tenant : String) : Prop :=
  ∀ listed, session.tenantOr (some tenant) = some listed → listed = tenant

/-- The store has manifests of this tenant's puts and deleted ones. -/
structure OfPuts (tenant : String) (files : ManifestFiles) : Prop where
  keyed : ∀ {manifestId manifest},
    files.lookup manifestId = some manifest → manifest.manifestId = manifestId
  owner : ∀ {manifestId manifest},
    files.lookup manifestId = some manifest → manifest.tenant = tenant
  lineage : ∀ {manifestId manifest}, files.lookup manifestId = some manifest →
    manifest.state ≠ .tombstoned →
      ∃ put, manifest.lineage = (putLineage put).reloaded

/-- The store has this manifest of the put. -/
structure Live (files : ManifestFiles) (put : ObjectPut) (manifest : Manifest) :
    Prop where
  found : files.lookup manifest.manifestId = some manifest
  state : manifest.state ≠ .tombstoned
  lineage : manifest.lineage = (putLineage put).reloaded

section Spec

variable {session : Session} {tenant : String} {files : ManifestFiles}

theorem OfPuts.nodup_sortedFiles (puts : OfPuts tenant files) :
    ((sortedFiles files).map Manifest.manifestId).Nodup := by
  have permuted : ((sortedFiles files).map Manifest.manifestId).Perm
      ((files.entries.map Prod.snd).map Manifest.manifestId) :=
    ((List.perm_insertionSort _ files.entries).map Prod.snd).map _
  have ids : (files.entries.map Prod.snd).map Manifest.manifestId =
      files.entries.map Prod.fst := by
    rw [List.map_map]
    refine List.map_congr_left fun entry member => ?_
    exact puts.keyed ((files.mem_entries_iff entry.1 entry.2).mp member)
  rw [permuted.nodup_iff, ids]
  exact files.distinct

/-- The manifests that a listing reads: all of them, or none in a session of
another tenant. -/
theorem OfPuts.list_run (puts : OfPuts tenant files) :
    ∃ listed, FileManifestStore.list session (some tenant) files =
        (.ok listed, files) ∧
      (listed.map Manifest.manifestId).Nodup ∧
      ∀ manifest, manifest ∈ listed ↔ Shows session tenant ∧
        files.lookup manifest.manifestId = some manifest := by
  have stored : ∀ manifest, manifest ∈ sortedFiles files ↔
      files.lookup manifest.manifestId = some manifest := by
    intro manifest
    rw [mem_sortedFiles]
    constructor
    · rintro ⟨key, found⟩
      rwa [puts.keyed found]
    · exact fun found => ⟨_, found⟩
  cases asked : session.tenantOr (some tenant) with
  | none =>
      refine ⟨sortedFiles files, ?_, puts.nodup_sortedFiles, fun manifest => ?_⟩
      · unfold FileManifestStore.list
        rw [get_bind, asked]
        rfl
      · rw [stored manifest, and_iff_right]
        intro listed other
        rw [asked] at other
        cases other
  | some owner =>
      let own := fun manifest : Manifest => decide (manifest.tenant = owner)
      refine ⟨(sortedFiles files).filter own, ?_, ?_, fun manifest => ?_⟩
      · unfold FileManifestStore.list
        rw [get_bind, asked]
        rfl
      · exact puts.nodup_sortedFiles.sublist (List.filter_sublist.map _)
      · rw [List.mem_filter, stored manifest, and_comm]
        refine and_congr_left fun found => ?_
        rw [decide_eq_true_eq, puts.owner found]
        constructor
        · rintro rfl listed same
          rw [asked] at same
          exact (Option.some.inj same).symm
        · exact fun shows => (shows owner asked).symm

/-- The rows of a listing are those of the put's live manifests that were
asked for, each once. -/
theorem OfPuts.listObjects_spec {world : World}
    (puts : OfPuts tenant world.manifests) (host : Host)
    (bucket : Option String) (start : String) :
    ∃ rows, (listObjects host bucket start session tenant false world).1 =
        .ok rows ∧
      (rows.map ObjectRow.manifestId).Nodup ∧
      ∀ row, row ∈ rows ↔ Shows session tenant ∧ ∃ put manifest,
        Live world.manifests put manifest ∧ row = rowOf put manifest ∧
          asked host bucket start row = true := by
  obtain ⟨listed, run, distinct, member⟩ :=
    @OfPuts.list_run session tenant world.manifests puts
  let entry := listedRow host bucket start false
  let shown := fun manifest : Manifest =>
    (entry manifest).toOption.join
  have each : ∀ manifest ∈ listed, entry manifest = .ok (shown manifest) ∧
      ∀ row, shown manifest = some row ↔ ∃ put,
        Live world.manifests put manifest ∧ row = rowOf put manifest ∧
          asked host bucket start row = true := by
    intro manifest present
    have found := ((member manifest).mp present).2
    by_cases dead : manifest.state = .tombstoned
    · have run : entry manifest = .ok none := listedRow_of_tombstoned dead
      have hidden : shown manifest = none := by
        simp [shown, run, Except.toOption]
      refine ⟨by rw [run, hidden], fun row => ?_⟩
      rw [hidden]
      constructor
      · intro impossible
        cases impossible
      · rintro ⟨put, live, -, -⟩
        exact absurd dead live.state
    · have run := fun put lineage =>
        @listedRow_of_put host bucket start manifest put dead lineage
      obtain ⟨put, lineage⟩ := puts.lineage found dead
      have shows : ∀ other, manifest.lineage = (putLineage other).reloaded →
          shown manifest = if asked host bucket start (rowOf other manifest)
            then some (rowOf other manifest) else none := by
        intro other otherLineage
        simp [shown, entry, run other otherLineage, Except.toOption]
      refine ⟨by rw [shows put lineage]; exact run put lineage, fun row => ?_⟩
      constructor
      · rw [shows put lineage]
        intro same
        split at same
        · rename_i wanted
          cases same
          exact ⟨put, ⟨found, dead, lineage⟩, rfl, wanted⟩
        · cases same
      · rintro ⟨other, live, rfl, wanted⟩
        rw [shows other live.lineage, if_pos wanted]
  have named : ∀ manifest ∈ listed, ∀ row, shown manifest = some row →
      row.manifestId = manifest.manifestId := by
    intro manifest present row same
    obtain ⟨put, -, rfl, -⟩ := ((each manifest present).2 row).mp same
    rfl
  refine ⟨listed.filterMap shown, ?_, ?_, fun row => ?_⟩
  · have rows : listed.mapM entry = .ok (listed.map shown) :=
      mapM_of_ok fun manifest present => (each manifest present).1
    have manifests : focus World.manifestsLens
        (FileManifestStore.list session (some tenant)) world =
          (.ok listed, world) := focus_of_run run
    unfold listObjects
    rw [bind_ok manifests, rows, lift_ok_bind]
    change Except.ok ((listed.map shown).filterMap id) = _
    rw [List.filterMap_map]
    rfl
  · rw [List.Nodup, List.pairwise_map, List.pairwise_filterMap]
    have apart := List.pairwise_map.mp distinct
    refine apart.imp_of_mem fun first second differ row same other otherSame => ?_
    rw [named _ first row same, named _ second other otherSame]
    exact differ
  · rw [List.mem_filterMap]
    constructor
    · rintro ⟨manifest, present, same⟩
      obtain ⟨put, held⟩ := ((each manifest present).2 row).mp same
      exact ⟨((member manifest).mp present).1, put, manifest, held⟩
    · rintro ⟨shows, put, manifest, held⟩
      have present := (member manifest).mpr ⟨shows, held.1.found⟩
      exact ⟨manifest, present, ((each manifest present).2 row).mpr ⟨put, held⟩⟩

end Spec

end LocalS3Adapter

end Urp
