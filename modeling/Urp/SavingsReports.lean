import Mathlib.Algebra.BigOperators.Ring.Finset
import Mathlib.Algebra.Order.BigOperators.Group.List
import Urp.AiRequests
import Urp.ManifestStores
import Urp.StoredSizes
import Urp.WrittenManifests

/-!
# Reported savings

The storage numbers of `savings_report`, which adds up what every manifest
reports, and what the enforced chunks occupy.  A shadow execution stores its
chunks beside the exact ones, so that what it reports as avoided is no saving.
-/

namespace Urp

open Python Program

/-! ## The report -/

/-- `int(physical.get("stored_size", 0) or 0)`. -/
def Physical.storedSize : Physical → Nat
  | .exact _ _ _ size _ => size
  | .observed .. | .compute .. | .embedding .. => 0

/-- The storage numbers of `savings_report`; the ratio is not rounded. -/
structure SavingsReport where
  tenant : Option String
  manifestCount : Nat
  bytesIn : Int
  bytesStored : Int
  bytesAvoided : Int
  storageReductionRatio : ℚ

section Report

variable (host : Host)

/-- `int(telemetry.get(key, default) or 0)`. -/
def telemetryInt (key : String) (default : Manifest → Nat)
    (manifest : Manifest) : Except PyException Int :=
  let value := manifest.telemetry.getD key (.int (default manifest))
  if value.isTruthy then intOf host value else .ok 0

def telemetrySum (key : String) (default : Manifest → Nat)
    (manifests : List Manifest) : Except PyException Int := do
  let values ← manifests.mapM (telemetryInt host key default)
  .ok values.sum

/-- The manifests that a report is about. -/
def reportedManifests (session : Session) (tenant : Option String) :
    Program World PyException (List Manifest) := do
  let manifests ← Program.focus World.manifestsLens
    (FileManifestStore.list session none)
  return rowsOf Manifest.tenant tenant manifests

def savingsReport (session : Session) (tenant : Option String) :
    Program World PyException SavingsReport := do
  let manifests ← reportedManifests session tenant
  let bytesIn ← Program.lift (telemetrySum host "bytes_in"
    (fun manifest => manifest.physical.logicalSize) manifests)
  let bytesStored ← Program.lift (telemetrySum host "bytes_stored"
    (fun manifest => manifest.physical.storedSize) manifests)
  let bytesAvoided ← Program.lift (telemetrySum host "bytes_avoided"
    (fun manifest => manifest.physical.logicalSize -
      manifest.physical.storedSize) manifests)
  return {
    tenant
    manifestCount := manifests.length
    bytesIn, bytesStored, bytesAvoided
    storageReductionRatio :=
      if bytesIn = 0 then 0 else (bytesAvoided : ℚ) / bytesIn }

end Report

/-! ## What is enforced -/

/-- The manifest is of an enforce-mode work unit. -/
def Manifest.enforced (manifest : Manifest) : Bool :=
  (manifest.telemetry.get "mode").string? == some Mode.enforce.value

section Occupied

variable (host : Host) (state : ChunkFiles)

def fileSize (path : List String) : Nat :=
  ((state.files.lookup path).getD []).length

/-- The chunk files that segments name. -/
def chunkPaths (segments : List Segment) : List (List String) :=
  segments.filterMap fun segment =>
    (resolveUnder host.chunkRoot segment.stored.ref).toOption

/-- The bytes that the segments' chunks occupy, each file once. -/
def occupiedBytes (segments : List Segment) : Nat :=
  ((chunkPaths host segments).dedup.map (fileSize state)).sum

end Occupied

/-- Whatever a report is about, the bytes that it calls avoided are at most
the logical bytes of the enforced work units less what their chunks occupy. -/
def NeverOverstates (host : Host) (world : World) : Prop :=
  ∀ session tenant, ∃ manifests report,
    (reportedManifests session tenant world).1 = .ok manifests ∧
      (savingsReport host session tenant world).1 = .ok report ∧
      let enforced := manifests.filter Manifest.enforced
      report.bytesAvoided ≤
        ((enforced.map fun manifest => manifest.physical.logicalSize).sum : Nat) -
          (occupiedBytes host world.chunks
            (enforced.flatMap fun manifest => manifest.physical.segments) : Int)

/-! ## Manifests that add up -/

/-- The segment's file is there, with its stored size. -/
def Segment.Stands (host : Host) (state : ChunkFiles) (segment : Segment) :
    Prop :=
  ∃ path, resolveUnder host.chunkRoot segment.stored.ref = .ok path ∧
    ∃ raw, state.files.lookup path = some raw ∧
      raw.length = segment.stored.storedSize

/-- What a manifest reports: an enforced one what it saved, any other one
nothing. -/
structure Manifest.AddsUp (host : Host) (state : ChunkFiles)
    (manifest : Manifest) : Prop where
  bytesIn : ∃ size : Nat, manifest.telemetry.lookup "bytes_in" = some (.int size)
  bytesStored : ∃ size : Nat,
    manifest.telemetry.lookup "bytes_stored" = some (.int size)
  bytesAvoided : manifest.telemetry.lookup "bytes_avoided" = some (.int
    (if manifest.enforced then manifest.physical.logicalSize -
      storedSize manifest.physical.segments else 0 : Nat))
  sizes : manifest.enforced = true →
    storedSize manifest.physical.segments ≤ manifest.physical.logicalSize
  stands : manifest.enforced = true →
    ∀ segment ∈ manifest.physical.segments, segment.Stands host state

section Sums

variable {host : Host} {state later : ChunkFiles}

theorem Manifest.AddsUp.kept {manifest : Manifest}
    (addsUp : manifest.AddsUp host state) (kept : state.FilesKept later) :
    manifest.AddsUp host later where
  bytesIn := addsUp.bytesIn
  bytesStored := addsUp.bytesStored
  bytesAvoided := addsUp.bytesAvoided
  sizes := addsUp.sizes
  stands := by
    intro enforced segment member
    obtain ⟨path, resolved, raw, found, length⟩ :=
      addsUp.stands enforced segment member
    exact ⟨path, resolved, raw, kept path raw found, length⟩

/-- What segments occupy is at most what they store: a shared file counts
once. -/
theorem occupiedBytes_le {segments : List Segment}
    (stands : ∀ segment ∈ segments, segment.Stands host state) :
    occupiedBytes host state segments ≤ storedSize segments := by
  have all : (chunkPaths host segments).map (fileSize state) =
      segments.map fun segment => segment.stored.storedSize := by
    induction segments with
    | nil => rfl
    | cons segment rest ih =>
        obtain ⟨path, resolved, raw, found, length⟩ :=
          stands segment List.mem_cons_self
        have others := ih fun other member =>
          stands other (List.mem_cons_of_mem _ member)
        have first : chunkPaths host (segment :: rest) =
            path :: chunkPaths host rest := by
          simp [chunkPaths, resolved, Except.toOption]
        have size : fileSize state path = segment.stored.storedSize := by
          simp [fileSize, found, length]
        rw [first, List.map_cons, List.map_cons, others, size]
  unfold occupiedBytes storedSize
  rw [← all]
  exact ((List.dedup_sublist _).map _).sum_le_sum fun _ _ => Nat.zero_le _

theorem storedSize_flatMap (manifests : List Manifest) :
    storedSize (manifests.flatMap fun manifest => manifest.physical.segments) =
      (manifests.map fun manifest => storedSize manifest.physical.segments).sum := by
  induction manifests with
  | nil => rfl
  | cons manifest rest ih =>
      rw [List.flatMap_cons, List.map_cons, List.sum_cons, ← ih]
      unfold storedSize
      rw [List.map_append, List.sum_append]

theorem telemetryInt_of_lookup {manifest : Manifest} {key : String} {size : Nat}
    {default : Manifest → Nat}
    (found : manifest.telemetry.lookup key = some (.int size)) :
    telemetryInt host key default manifest = .ok size := by
  unfold telemetryInt Object.getD
  rw [found]
  simp only [Option.getD_some]
  split
  · rfl
  · rename_i none
    have zero : size = 0 := by
      simpa [Value.isTruthy] using none
    rw [zero]
    rfl

theorem telemetrySum_of_lookup {manifests : List Manifest} {key : String}
    {default size : Manifest → Nat}
    (each : ∀ manifest ∈ manifests,
      manifest.telemetry.lookup key = some (.int (size manifest))) :
    telemetrySum host key default manifests = .ok ((manifests.map size).sum : Nat) := by
  have run : manifests.mapM (telemetryInt host key default) =
      .ok (manifests.map fun manifest => (size manifest : Int)) :=
    mapM_of_ok fun manifest member =>
      telemetryInt_of_lookup (each manifest member)
  unfold telemetrySum
  rw [run]
  change Except.ok (manifests.map fun manifest => (size manifest : Int)).sum = _
  rw [Nat.cast_list_sum, List.map_map]
  rfl

/-- A sum over sizes that every manifest records is a size. -/
theorem telemetrySum_size {manifests : List Manifest} {key : String}
    (found : ∀ manifest ∈ manifests, ∃ size : Nat,
      manifest.telemetry.lookup key = some (.int size))
    (default : Manifest → Nat) :
    ∃ total : Nat, telemetrySum host key default manifests = .ok total := by
  choose! size lookup using found
  exact ⟨(manifests.map size).sum, telemetrySum_of_lookup lookup⟩

/-- The enforced manifests' savings are all that is reported. -/
theorem sum_avoided (manifests : List Manifest) (saved : Manifest → Nat) :
    (manifests.map fun manifest =>
        if manifest.enforced then saved manifest else 0).sum =
      ((manifests.filter Manifest.enforced).map saved).sum := by
  induction manifests with
  | nil => rfl
  | cons manifest rest ih =>
      by_cases enforced : manifest.enforced = true
      · simp [enforced, ih]
      · simp [enforced, ih]

/-- A report reads manifests of the store. -/
theorem reportedManifests_run (session : Session) (tenant : Option String)
    (world : World) :
    ∃ manifests, reportedManifests session tenant world = (.ok manifests, world) ∧
      ∀ manifest ∈ manifests, ∃ manifestId,
        world.manifests.lookup manifestId = some manifest := by
  have listed : ∃ manifests, FileManifestStore.list session none
      world.manifests = (.ok manifests, world.manifests) ∧
        ∀ manifest ∈ manifests, manifest ∈ sortedFiles world.manifests := by
    unfold FileManifestStore.list
    rw [get_bind]
    cases session.tenantOr none with
    | none => exact ⟨_, rfl, fun _ member => member⟩
    | some owner =>
        exact ⟨_, rfl, fun _ member => (List.mem_filter.mp member).1⟩
  obtain ⟨manifests, run, stored⟩ := listed
  refine ⟨rowsOf Manifest.tenant tenant manifests, ?_, fun manifest member => ?_⟩
  · have manifestsRun : focus World.manifestsLens
        (FileManifestStore.list session none) world = (.ok manifests, world) :=
      focus_of_run run
    unfold reportedManifests
    rw [bind_ok manifestsRun]
    rfl
  · apply mem_sortedFiles.mp (stored manifest ?_)
    unfold rowsOf at member
    split at member
    · exact member
    · exact member
    · exact (List.mem_filter.mp member).1

/-- Where every manifest adds up, no report overstates. -/
theorem neverOverstates_of_addsUp {world : World}
    (addsUp : ∀ manifestId manifest,
      world.manifests.lookup manifestId = some manifest →
        manifest.AddsUp host world.chunks) :
    NeverOverstates host world := by
  intro session tenant
  obtain ⟨manifests, run, stored⟩ := reportedManifests_run session tenant world
  have each : ∀ manifest ∈ manifests, manifest.AddsUp host world.chunks := by
    intro manifest member
    obtain ⟨manifestId, found⟩ := stored manifest member
    exact addsUp manifestId manifest found
  let saved := fun manifest : Manifest => manifest.physical.logicalSize -
    storedSize manifest.physical.segments
  let enforced := manifests.filter Manifest.enforced
  obtain ⟨bytesIn, inRun⟩ := @telemetrySum_size host _ _
    (fun manifest member => (each manifest member).bytesIn)
    fun manifest => manifest.physical.logicalSize
  obtain ⟨bytesStored, storedRun⟩ := @telemetrySum_size host _ _
    (fun manifest member => (each manifest member).bytesStored)
    fun manifest => manifest.physical.storedSize
  have avoidedRun := @telemetrySum_of_lookup host manifests "bytes_avoided"
    (fun manifest => manifest.physical.logicalSize - manifest.physical.storedSize)
    (fun manifest => if manifest.enforced then saved manifest else 0)
    fun manifest member => (each manifest member).bytesAvoided
  rw [sum_avoided] at avoidedRun
  let report : SavingsReport := {
    tenant
    manifestCount := manifests.length
    bytesIn, bytesStored
    bytesAvoided := ((enforced.map saved).sum : Nat)
    storageReductionRatio := if (bytesIn : Int) = 0 then 0
      else (((enforced.map saved).sum : Nat) : Int) / ((bytesIn : Int) : ℚ) }
  have reported : savingsReport host session tenant world = (.ok report, world) := by
    unfold savingsReport
    rw [bind_ok run, inRun, lift_ok_bind, storedRun, lift_ok_bind, avoidedRun,
      lift_ok_bind]
    rfl
  refine ⟨manifests, report, congrArg Prod.fst run, congrArg Prod.fst reported, ?_⟩
  have occupied : occupiedBytes host world.chunks
      (enforced.flatMap fun manifest => manifest.physical.segments) ≤
        (enforced.map fun manifest =>
          storedSize manifest.physical.segments).sum := by
    rw [← storedSize_flatMap]
    apply occupiedBytes_le
    intro segment member
    obtain ⟨manifest, listed, inside⟩ := List.mem_flatMap.mp member
    obtain ⟨here, flag⟩ := List.mem_filter.mp listed
    exact (each manifest here).stands flag segment inside
  have logical : (enforced.map saved).sum + (enforced.map fun manifest =>
      storedSize manifest.physical.segments).sum =
        (enforced.map fun manifest => manifest.physical.logicalSize).sum := by
    rw [← List.sum_map_add]
    congr 1
    apply List.map_congr_left
    intro manifest listed
    obtain ⟨here, flag⟩ := List.mem_filter.mp listed
    exact Nat.sub_add_cancel ((each manifest here).sizes flag)
  change (((enforced.map saved).sum : Nat) : Int) ≤
    ((enforced.map fun manifest => manifest.physical.logicalSize).sum : Nat) -
      (occupiedBytes host world.chunks
        (enforced.flatMap fun manifest => manifest.physical.segments) : Int)
  omega

end Sums

end Urp
