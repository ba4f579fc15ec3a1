import Urp.ObjectPuts
import Urp.RangeReads
import Urp.BucketListing
import Urp.ObjectProgress
import Urp.MultipartLives

/-!
# Reading objects

`get_object`, `range_read` and `head_object`, and what one call of the adapter
does to the objects that are stored.
-/

namespace Urp

open Python Program Slices

/-- `physical.get("whole_sha256")`. -/
def Physical.sha256? : Physical → Option String
  | exact _ hash _ _ _ | observed _ hash _ => some hash
  | compute .. | embedding .. => none

theorem Physical.sha256?_of_eq {physical : Physical} {data : Bytes}
    (hash : physical.wholeSha256 = sha256 data) :
    physical.sha256? = some (sha256 data) := by
  cases physical with
  | exact | observed => exact congrArg some hash
  | compute | embedding =>
      have length := length_sha256 data
      rw [← hash] at length
      cases length

structure ObjectHead where
  manifestId : String
  workUnitId : String
  contentLength : Nat
  sha256 : Option String
  metadata : Value
  tags : Value

namespace LocalS3Adapter

section Operations

variable (host : Host) (session : Session) (tenant manifestId : String)

def getObject : Program World PyException Bytes := do
  let _ ← Program.focus World.manifestsLens
    (FileManifestStore.getForTenant session manifestId tenant)
  rehydrateManifest host session manifestId

def rangeRead (start stop : Int) : Program World PyException Bytes := do
  let _ ← Program.focus World.manifestsLens
    (FileManifestStore.getForTenant session manifestId tenant)
  rehydrateManifestRange host session manifestId start stop

def headObject : Program World PyException ObjectHead := do
  let manifest ← Program.focus World.manifestsLens
    (FileManifestStore.getForTenant session manifestId tenant)
  match manifest.lineage.getD "work_unit_metadata" (.dict []) with
  | .dict source => return {
      manifestId := manifest.manifestId
      workUnitId := manifest.workUnitId
      contentLength := manifest.physical.logicalSize
      sha256 := manifest.physical.sha256?
      metadata := Value.getD source "object_metadata" (.dict [])
      tags := Value.getD source "tags" (.dict []) }
  | _ => Program.raise .attributeError

end Operations

/-! ## An object that is stored -/

/-- The manifest is of an object of the tenant with the put's body. -/
structure Stores (host : Host) (tenant : String) (put : ObjectPut)
    (manifestId : String) (world : World) : Prop where
  accepted : validateIdentifier manifestId "manifest id" "mf_" = .ok manifestId
  manifest : ∃ manifest, world.manifests.lookup manifestId = some manifest ∧
    manifest.manifestId = manifestId ∧ manifest.tenant = tenant ∧
      manifest.lineage = (putLineage put).reloaded ∧
        manifest.Spans host world.chunks put.body

/-- What the reads of a stored object return. -/
structure Reads (host : Host) (session : Session) (tenant : String)
    (put : ObjectPut) (manifestId : String) (world : World) : Prop where
  whole : getObject host session tenant manifestId world = (.ok put.body, world)
  range : ∀ start stop : Int, 0 ≤ start → start ≤ stop →
    rangeRead host session tenant manifestId start stop world =
      (.ok (slice start.toNat stop.toNat put.body), world)
  head : ∃ workUnitId,
    headObject session tenant manifestId world = (.ok {
      manifestId, workUnitId
      contentLength := put.body.length
      sha256 := some (sha256 put.body)
      metadata := put.metadata.toValue.withText.sorted
      tags := put.tags.toValue.withText.sorted }, world)

section Reads

variable {host : Host} {session : Session} {tenant manifestId : String}
variable {put : ObjectPut} {world : World}

theorem getForTenant_of_found {manifest : Manifest}
    (accepted : validateIdentifier manifestId "manifest id" "mf_" =
      .ok manifestId)
    (found : world.manifests.lookup manifestId = some manifest)
    (admitted : requireTenant session manifest.tenant = .ok ()) :
    focus World.manifestsLens
        (FileManifestStore.getForTenant session manifestId manifest.tenant)
        world = (.ok manifest, world) := by
  apply focus_of_run
  unfold FileManifestStore.getForTenant
  rw [bind_ok (run_of_focus (get_of_found accepted found admitted)),
    requireManifestTenant, if_pos rfl]
  rfl

theorem Stores.reads (stores : Stores host tenant put manifestId world)
    (admitted : requireTenant session tenant = .ok ()) :
    Reads host session tenant put manifestId world := by
  obtain ⟨accepted, manifest, found, named, rfl, lineage, spans⟩ := stores
  have own := getForTenant_of_found accepted found admitted
  constructor
  · rw [getObject, bind_ok own]
    exact rehydrateManifest_of_restores accepted found admitted spans.restores
  · intro start stop nonneg order
    obtain ⟨lower, rfl⟩ := Int.eq_ofNat_of_zero_le nonneg
    obtain ⟨upper, rfl⟩ := Int.eq_ofNat_of_zero_le (le_trans nonneg order)
    rw [rangeRead, bind_ok own]
    exact rehydrateManifestRange_of_spans accepted found admitted spans lower
      upper (Int.ofNat_le.mp order)
  · refine ⟨manifest.workUnitId, ?_⟩
    obtain ⟨entries, source, -, -, metadata, tags⟩ := source_of_putLineage put
    rw [headObject, bind_ok own, lineage, source, spans.size,
      Physical.sha256?_of_eq spans.restores.hash, named]
    simp only [Value.getD, metadata, tags]
    rfl

/-- A read that returns is of a manifest of the tenant. -/
theorem ensures_owned {α : Type} {next : Manifest → Program World PyException α} :
    Ensures (focus World.manifestsLens
        (FileManifestStore.getForTenant session manifestId tenant) >>= next) world
      (fun _ _ => requireTenant session tenant = .ok () ∧ ∃ manifest,
        world.manifests.lookup manifestId = some manifest ∧
          manifest.tenant = tenant)
      (fun _ _ => True) := by
  rw [ensures_bind, ensures_focus]
  apply (ensures_getForTenant session tenant manifestId _).mono
  · rintro manifest _ ⟨-, found, owned, admitted⟩
    apply (ensures_self _ _).mono
    · exact fun _ _ _ => ⟨admitted, manifest, found, owned⟩
    · exact fun _ _ _ => trivial
  · exact fun _ _ _ => trivial

end Reads

/-! ## What a deletion keeps -/

theorem frames_chunks_deleteObject (host : Host) (session : Session)
    (tenant manifestId actor : String) (allowDelete : Bool) :
    Frames World.chunks
      (deleteObject host session tenant manifestId actor allowDelete) := by
  have recorded : ∀ event, Frames World.chunks (record host session event) :=
    fun event world => (quiet_record host session event world).chunks
  unfold deleteObject
  refine frames_bind (frames_focus fun _ _ => rfl) fun manifest => ?_
  refine frames_bind (frames_lift _) fun held => ?_
  refine frames_ite (frames_bind (recorded _) fun _ => frames_ret _) ?_
  refine frames_bind (frames_focus fun _ _ => rfl) fun _ => ?_
  exact frames_bind (recorded _) fun _ => frames_ret _

theorem Stores.delete {host : Host} {tenant caller target actor : String}
    {session : Session} {allowDelete : Bool} {put : ObjectPut}
    {manifestId : String} {world : World}
    (named : ∀ {other found}, world.manifests.lookup other = some found →
      found.manifestId = other)
    (stores : Stores host tenant put manifestId world) :
    Stores host tenant put manifestId
      (deleteObject host session caller target actor allowDelete world).2 := by
  obtain ⟨accepted, manifest, found, same, owner, lineage, spans⟩ := stores
  have chunks := frames_chunks_deleteObject host session caller target actor
    allowDelete world
  rcases deleteObject_marks host session caller target actor allowDelete world
    with ⟨manifests, -⟩ | ⟨marked, taken, manifests, -⟩
  · refine ⟨accepted, manifest, ?_, same, owner, lineage, ?_⟩
    · rw [manifests]
      exact found
    · rw [chunks]
      exact spans
  · have key := named taken
    refine ⟨accepted, ?_⟩
    rw [manifests, chunks, key]
    by_cases other : target = manifestId
    · rw [other] at taken ⊢
      obtain rfl := Option.some.inj (taken.symm.trans found)
      refine ⟨_, Dict.lookup_insert_self _ _ _, rfl, owner, ?_,
        ⟨spans.restores.hash, spans.restores.segments⟩, spans.size,
        spans.segments⟩
      change marked.lineage.reloaded = _
      rw [lineage, Object.reloaded_reloaded]
    · exact ⟨manifest, (Dict.lookup_insert_ne _ _ other).trans found, same,
        owner, lineage, spans⟩

/-! ## What a put writes -/

/-- The execution that a put makes in this state. -/
def putExecution? (host : Host) (session : Session) (tenant : String)
    (put : ObjectPut) (gateway : Gateway) : Option Execution :=
  let call := putCall host session tenant put gateway.supply
  match (resolveActivePolicyBundle session (policyName host call.workUnit)
      gateway.world.policies).1 with
  | .error _ => none
  | .ok bundle => some (call.execution .enforce bundle)

section Puts

variable {host : Host} {session : Session} {tenant : String} {put : ObjectPut}
variable {gateway : Gateway}

/-- A put that reaches its execution has that execution's outcome; before it
nothing but the supply changes. -/
theorem ensures_putExecution :
    Ensures (putObject host session tenant put) gateway
      (fun stored later => ∃ execution prepared manifest,
        putExecution? host session tenant put gateway = some execution ∧
          execution.prepare host = .ok prepared ∧
            Outcome host execution prepared gateway.world later.world
              (some manifest) ∧ stored.manifestId = manifest.manifestId)
      (fun _ later => gateway.world.Quiet later.world ∨
        ∃ execution prepared wrote,
          putExecution? host session tenant put gateway = some execution ∧
            execution.prepare host = .ok prepared ∧
              Outcome host execution prepared gateway.world later.world
                wrote) := by
  let call := putCall host session tenant put gateway.supply
  let begun := Gateway.worldLens.set gateway (World.supplyLens.set gateway.world
    ⟨gateway.supply.nextId + 2, gateway.supply.tick + 1⟩)
  have start : gateway.world.Quiet begun.world :=
    ⟨rfl, rfl, Nat.le_add_right _ _, Nat.le_succ _⟩
  have drawn : focus Gateway.worldLens (focus World.supplyLens
      (putWorkUnit host tenant put)) gateway = (.ok call.workUnit, begun) := rfl
  rw [putObject, ensures_bind, ensures_of_run drawn, ensures_bind]
  change Ensures (executeWorkUnit host call) begun _ _
  unfold executeWorkUnit
  rw [ensures_bind, ensures_lift]
  refine ⟨fun mode checked => ?_, fun _ _ => .inl start⟩
  have enforce : mode = .enforce := by
    unfold WorkUnitCall.checked at checked
    obtain ⟨chosen, modeRun, checked⟩ := except_bind_eq_ok_iff.mp checked
    obtain ⟨-, -, checked⟩ := except_bind_eq_ok_iff.mp checked
    obtain ⟨-, -, checked⟩ := except_bind_eq_ok_iff.mp checked
    cases checked
    have asked : executionMode session (some "enforce") = .ok mode := modeRun
    rw [executionMode_enforce] at asked
    exact (Except.ok.inj asked).symm
  subst enforce
  rw [ensures_bind, ensures_focus, ensures_focus]
  apply (ensures_self _ _).mono
  · intro bundle policies resolved
    have own : putExecution? host session tenant put gateway =
        some (call.execution .enforce bundle) := by
      have found : (resolveActivePolicyBundle session
          (policyName host call.workUnit) gateway.world.policies).1 =
            .ok bundle := congrArg Prod.fst resolved
      simp only [putExecution?, found, call]
    have object : call.workUnit.kind ≠ .promptRequest := WorkUnitKind.noConfusion
    rw [if_neg object, ensures_focus]
    have quiet : gateway.world.Quiet
        (World.policiesLens.set begun.world policies) :=
      ⟨start.chunks, start.manifests, start.supply⟩
    unfold executeObject
    rw [if_pos (show (call.execution .enforce bundle).workUnit.kind ∈ exactKinds
      from List.mem_cons_self)]
    cases ready : (call.execution .enforce bundle).prepare host with
    | error error =>
        rw [ensures_of_raise (execute_of_unprepared host ready _)]
        exact .inl quiet
    | ok prepared =>
        apply (ensures_executeExactObject host ready _).mono
        · rintro result later ⟨manifest, outcome, same⟩
          exact ⟨_, prepared, manifest, own, ready, outcome.before quiet, same⟩
        · rintro _ later ⟨wrote, outcome⟩
          exact .inr ⟨_, prepared, wrote, own, ready, outcome.before quiet⟩
  · exact fun _ _ _ => .inl ⟨start.chunks, start.manifests, start.supply⟩

end Puts

end LocalS3Adapter

end Urp
