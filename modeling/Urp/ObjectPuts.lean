import Urp.Dispatch
import Urp.ExactRoundTrip
import Urp.WrittenManifests

/-!
# Puts and deletions of objects

What `put_object` and `delete_object` leave among the manifests.  A put
executes a work unit of its own under a new identifier, and a deletion marks
one manifest.
-/

namespace Urp

open Python Program

/-! ## Work units of an exact kind -/

/-- An enforced execution of the work unit, with the manifest it wrote. -/
structure WorkUnitCall.Executes (host : Host) (call : WorkUnitCall)
    (world later : World) (bundle : Option PolicyBundle) (prepared : Prepared)
    (wrote : Option Manifest) : Prop where
  ready : (call.execution .enforce bundle).prepare host = .ok prepared
  outcome : Outcome host (call.execution .enforce bundle) prepared world later
    wrote
  puts : world.PutsOnly ((call.execution .enforce bundle).Makes prepared) later

section Exact

variable {host : Host} {call : WorkUnitCall}
variable {world middle later : World} {bundle : Option PolicyBundle}
variable {prepared : Prepared} {wrote : Option Manifest}

theorem WorkUnitCall.Executes.before (quiet : world.Quiet middle)
    (executes : call.Executes host middle later bundle prepared wrote) :
    call.Executes host world later bundle prepared wrote where
  ready := executes.ready
  outcome := executes.outcome.before quiet
  puts := trans_of (World.PutsOnly _) (.of_eq quiet.manifests) executes.puts

theorem WorkUnitCall.Executes.enforced
    (executes : call.Executes host world later bundle prepared wrote) :
    prepared.mode = .enforce := by
  have modeRun := (Execution.prepare_eq_ok executes.ready).1
  have asked : executionMode call.session (some "enforce") =
      .ok prepared.mode := modeRun
  rw [executionMode_enforce] at asked
  exact (Except.ok.inj asked).symm

/-- An enforced work unit of an exact kind is an enforced execution. -/
theorem ensures_executeWorkUnit (exact : call.workUnit.kind ∈ exactKinds)
    (enforced : call.requestedMode = some "enforce") (gateway : Gateway) :
    Ensures (executeWorkUnit host call) gateway
      (fun result later => ∃ bundle prepared manifest,
        call.Executes host gateway.world later.world bundle prepared
            (some manifest) ∧
          result.manifestId = manifest.manifestId)
      (fun _ later => gateway.world.Quiet later.world ∨
        ∃ bundle prepared wrote,
          call.Executes host gateway.world later.world bundle prepared wrote) := by
  have object : call.workUnit.kind ≠ .promptRequest := by
    intro prompt
    rw [prompt] at exact
    simp [exactKinds] at exact
  have still := refl_of World.Quiet gateway.world
  unfold executeWorkUnit
  rw [ensures_bind, ensures_lift]
  refine ⟨fun mode checked => ?_, fun _ _ => .inl still⟩
  have enforce : mode = .enforce := by
    unfold WorkUnitCall.checked at checked
    obtain ⟨chosen, modeRun, checked⟩ := except_bind_eq_ok_iff.mp checked
    obtain ⟨-, -, checked⟩ := except_bind_eq_ok_iff.mp checked
    obtain ⟨-, -, checked⟩ := except_bind_eq_ok_iff.mp checked
    cases checked
    rw [enforced, executionMode_enforce] at modeRun
    exact (Except.ok.inj modeRun).symm
  subst enforce
  rw [ensures_bind, ensures_focus, ensures_focus]
  apply (ensures_self _ _).mono
  · intro bundle policies _
    rw [if_neg object, ensures_focus]
    have resolved : gateway.world.Quiet
        (World.policiesLens.set gateway.world policies) := ⟨rfl, rfl, .refl _⟩
    unfold executeObject
    rw [if_pos (show (call.execution .enforce bundle).workUnit.kind ∈
      exactKinds from exact)]
    cases ready : (call.execution .enforce bundle).prepare host with
    | error error =>
        rw [ensures_of_raise (execute_of_unprepared host ready _)]
        exact .inl resolved
    | ok prepared =>
        apply ((ensures_executeExactObject host ready _).and
          ((putsOnly_executeExactObject _ _ host ready).ensures _)).mono
        · rintro result later ⟨⟨manifest, outcome, same⟩, puts⟩
          have executes : call.Executes host _ later bundle prepared _ :=
            ⟨ready, outcome, puts⟩
          exact ⟨bundle, prepared, manifest, executes.before resolved, same⟩
        · rintro _ later ⟨⟨wrote, outcome⟩, puts⟩
          have executes : call.Executes host _ later bundle prepared _ :=
            ⟨ready, outcome, puts⟩
          exact .inr ⟨bundle, prepared, wrote, executes.before resolved⟩
  · exact fun _ _ _ => .inl ⟨rfl, rfl, .refl _⟩

end Exact


/-! ## Puts -/

def ObjectPut.location (put : ObjectPut) : Value × Value :=
  (.str put.bucket, .str put.key)

namespace LocalS3Adapter

/-- The `metadata` of a put's work unit. -/
def putMetadata (put : ObjectPut) : Object :=
  .ofList [("bucket", .str put.bucket), ("key", .str put.key),
    ("object_metadata", put.metadata.toValue), ("tags", put.tags.toValue)]

/-- The `lineage` of a put's manifest. -/
def putLineage (put : ObjectPut) : Object :=
  .ofList [("work_unit_metadata", (putMetadata put).toValue),
    ("policy_context", (policyContext put.tags).toValue)]

theorem lookup_putMetadata (put : ObjectPut) {key : String} {value : Value}
    (member : (key, value) ∈ [("bucket", Value.str put.bucket),
      ("key", .str put.key), ("object_metadata", put.metadata.toValue),
      ("tags", put.tags.toValue)]) :
    (putMetadata put).lookup key = some value := by
  rw [putMetadata, Object.ofList]
  exact (Dict.lookup_ofList (by simp)).mpr member

theorem lookup_putLineage (put : ObjectPut) :
    (putLineage put).lookup "work_unit_metadata" =
      some (putMetadata put).toValue := by
  rw [putLineage, Object.ofList, Dict.lookup_ofList (by simp)]
  exact List.mem_cons_self

/-- The put wrote this manifest under a new identifier. -/
structure Writes (host : Host) (tenant : String) (put : ObjectPut)
    (world later : World) (manifest : Manifest) : Prop where
  identifier : ∃ k, world.supply.nextId ≤ k ∧ k < later.supply.nextId ∧
    manifest.manifestId = host.idText "mf" k
  manifests : later.manifests =
    world.manifests.insert manifest.manifestId manifest.reloaded
  tenant : manifest.tenant = tenant
  lineage : manifest.lineage = putLineage put
  state : world.manifests.lookup manifest.manifestId = none →
    manifest.state = .active

/-- The manifests are as they were. -/
def Spares (world later : World) : Prop :=
  later.manifests = world.manifests ∧ world.supply.Before later.supply

section Outcome

variable {host : Host} {tenant : String} {put : ObjectPut}
variable {call : WorkUnitCall} {world later : World}
variable {bundle : Option PolicyBundle} {prepared : Prepared}

theorem Writes.of_executes {manifest : Manifest}
    (executes : call.Executes host world later bundle prepared (some manifest))
    (owner : call.workUnit.tenant = tenant)
    (lineage : storedLineage (call.execution .enforce bundle) =
      putLineage put) :
    Writes host tenant put world later manifest := by
  have enforced := executes.enforced
  have written := executes.outcome.written
  obtain ⟨_, _, _, _, _, _, made⟩ := written.made
  refine ⟨written.identifier, written.manifests, ?_, ?_, fun missing => ?_⟩
  · rw [made]
    exact owner
  · cases executes.outcome with
    | observed observes =>
        rw [enforced] at observes
        cases observes
    | stored _ _ _ _ stored => exact stored.trans lineage
  · have found : later.manifests.lookup manifest.manifestId =
        some manifest.reloaded := by
      rw [written.manifests, Dict.lookup_insert_self]
    obtain ⟨new, makes, -, same⟩ := executes.puts.of_new missing found
    have state : manifest.reloaded.state = new.reloaded.state :=
      congrArg Manifest.state same
    cases makes with
    | observed observes =>
        rw [enforced] at observes
        cases observes
    | stored => exact state.trans (if_pos enforced)

theorem Spares.of_executes
    (executes : call.Executes host world later bundle prepared none) :
    Spares world later := by
  cases executes.outcome with
  | unchanged quiet => exact ⟨quiet.manifests, quiet.supply⟩
  | failed _ _ _ manifests supply => exact ⟨manifests, supply⟩

end Outcome

section Put

variable (host : Host) (session : Session) (tenant : String) (put : ObjectPut)

theorem ensures_putWorkUnit (supply : Supply) :
    Ensures (putWorkUnit host tenant put) supply
      (fun workUnit later => supply.Before later ∧
        workUnit.kind = .byteObject ∧ workUnit.tenant = tenant ∧
        workUnit.metadata = putMetadata put ∧
        workUnit.policyContext = policyContext put.tags)
      (fun _ _ => False) := by
  unfold putWorkUnit
  rw [ensures_bind]
  apply (host.ensures_newId supply "tr").mono
  · rintro traceId traced ⟨-, rfl⟩
    rw [ensures_bind]
    apply (host.ensures_newId _ "wu").mono
    · rintro id named ⟨-, rfl⟩
      rw [ensures_bind]
      apply (host.ensures_utcNow _).mono
      · rintro createdAt later rfl
        refine ⟨⟨?_, Nat.le_succ _⟩, rfl, rfl, rfl, rfl⟩
        exact Nat.le_add_right supply.nextId 2
      · exact fun _ _ impossible => impossible
    · exact fun _ _ impossible => impossible
  · exact fun _ _ impossible => impossible

/-- A put writes the manifest that it names; a put that raises writes one or
none. -/
theorem ensures_putObject (gateway : Gateway) :
    Ensures (putObject host session tenant put) gateway
      (fun stored later => ∃ manifest,
        Writes host tenant put gateway.world later.world manifest ∧
          stored.manifestId = manifest.manifestId)
      (fun _ later => Spares gateway.world later.world ∨ ∃ manifest,
        Writes host tenant put gateway.world later.world manifest) := by
  unfold putObject
  rw [ensures_bind, ensures_focus, ensures_focus]
  apply (ensures_putWorkUnit host tenant put _).mono
  · rintro workUnit supply ⟨drawn, kind, owner, metadata, context⟩
    have quiet : gateway.world.Quiet
        (World.supplyLens.set gateway.world supply) := ⟨rfl, rfl, drawn⟩
    let call : WorkUnitCall :=
      { session, workUnit, requestedMode := some "enforce" }
    have lineage : ∀ bundle,
        storedLineage (call.execution .enforce bundle) = putLineage put := by
      intro bundle
      change Object.ofList [("work_unit_metadata", workUnit.metadata.toValue),
        ("policy_context", workUnit.policyContext.toValue)] = _
      rw [metadata, context]
      rfl
    have exact : workUnit.kind ∈ exactKinds := by
      rw [kind]
      exact List.mem_cons_self
    rw [ensures_bind]
    apply (@ensures_executeWorkUnit host call exact rfl _).mono
    · rintro result later ⟨bundle, prepared, manifest, executes, same⟩
      exact ⟨manifest,
        .of_executes (executes.before quiet) owner (lineage bundle), same⟩
    · rintro _ later (still | ⟨bundle, prepared, wrote, executes⟩)
      · exact .inl ⟨still.manifests, drawn.trans still.supply⟩
      · cases wrote with
        | none => exact .inl (.of_executes (executes.before quiet))
        | some manifest =>
            exact .inr ⟨manifest,
              .of_executes (executes.before quiet) owner (lineage bundle)⟩
  · exact fun _ _ impossible => impossible.elim

/-- What a put does to the manifests. -/
theorem putObject_writes (gateway : Gateway) :
    let later := (putObject host session tenant put gateway).2
    Spares gateway.world later.world ∨ ∃ manifest,
      Writes host tenant put gateway.world later.world manifest := by
  intro later
  let leaves := fun later : Gateway => Spares gateway.world later.world ∨
    ∃ manifest, Writes host tenant put gateway.world later.world manifest
  apply (@ensures_state_iff _ _ _ gateway _ leaves).mp
  apply (ensures_putObject host session tenant put gateway).mono
  · rintro _ later ⟨manifest, writes, -⟩
    exact .inr ⟨manifest, writes⟩
  · exact fun _ _ left => left

end Put

/-! ## Deletions -/

/-- The stored manifest was marked as deleted. -/
structure Tombstones (world later : World) (manifestId : String)
    (manifest : Manifest) : Prop where
  found : world.manifests.lookup manifestId = some manifest
  manifests : later.manifests = world.manifests.insert manifest.manifestId
    { manifest with state := .tombstoned }.reloaded
  supply : world.supply.Before later.supply

section Delete

variable (host : Host) (session : Session) (tenant : String)

theorem ensures_getForTenant (manifestId : String) (files : ManifestFiles) :
    Ensures (FileManifestStore.getForTenant session manifestId tenant) files
      (fun manifest later => later = files ∧
        files.lookup manifestId = some manifest ∧ manifest.tenant = tenant ∧
        requireTenant session tenant = .ok ())
      (fun _ later => later = files) := by
  unfold FileManifestStore.getForTenant FileManifestStore.get
  rw [ensures_bind, ensures_bind, ensures_lift]
  refine ⟨fun accepted valid => ?_, fun _ _ => rfl⟩
  rw [ensures_bind, ensures_get, (validateIdentifier_eq_ok valid).1]
  cases found : files.lookup manifestId with
  | none => exact rfl
  | some manifest =>
      rw [ensures_bind, ensures_lift]
      refine ⟨fun _ admitted => ?_, fun _ _ => rfl⟩
      change Ensures (lift _ >>= fun _ => pure manifest) files _ _
      rw [ensures_bind, ensures_lift]
      refine ⟨fun _ owned => ?_, fun _ _ => rfl⟩
      unfold requireManifestTenant at owned
      split at owned
      · rename_i same
        rw [← same]
        exact ⟨rfl, rfl, rfl, admitted⟩
      · cases owned

/-- A deletion marks the manifest, or leaves them all as they are. -/
theorem deleteObject_marks (manifestId actor : String) (allowDelete : Bool)
    (world : World) :
    let later :=
      (deleteObject host session tenant manifestId actor allowDelete world).2
    Spares world later ∨ ∃ manifest, Tombstones world later manifestId manifest := by
  intro later
  let marks := fun later : World =>
    Spares world later ∨ ∃ manifest, Tombstones world later manifestId manifest
  have still : marks world := .inl ⟨rfl, .refl _⟩
  have recorded : ∀ {middle : World} (event : LedgerEvent), marks middle →
      Ensures (record host session event) middle (fun _ => marks)
        (fun _ => marks) := by
    intro middle event marked
    refine ((quiet_record host session event).ensures middle).mono ?_ ?_ <;>
    · rintro _ after quiet
      rcases marked with spared | ⟨manifest, marked⟩
      · exact .inl ⟨quiet.manifests.trans spared.1,
          spared.2.trans quiet.supply⟩
      · exact .inr ⟨manifest, marked.found,
          quiet.manifests.trans marked.manifests,
          marked.supply.trans quiet.supply⟩
  apply (@ensures_state_iff _ _ _ world _ marks).mp
  unfold deleteObject
  rw [ensures_bind, ensures_focus]
  apply (ensures_getForTenant session tenant manifestId _).mono
  · rintro manifest _ ⟨rfl, found, -⟩
    rw [ensures_bind, ensures_lift]
    refine ⟨fun held _ => ?_, fun _ _ => still⟩
    rw [ensures_ite]
    constructor
    · intro _
      rw [ensures_bind]
      exact (recorded _ still).mono (fun _ _ marked => marked)
        (fun _ _ marked => marked)
    · intro _
      rw [ensures_bind, ensures_focus]
      apply (FileManifestStore.ensures_put host session _ _).mono
      · rintro _ files ⟨-, rfl⟩
        have marked : marks (World.manifestsLens.set world
            (world.manifests.insert manifest.manifestId
              { manifest with state := .tombstoned }.reloaded)) :=
          .inr ⟨manifest, found, rfl, .refl _⟩
        rw [ensures_bind]
        exact (recorded _ marked).mono (fun _ _ marked => marked)
          (fun _ _ marked => marked)
      · rintro _ files rfl
        exact still
  · rintro _ _ rfl
    exact still

end Delete

end LocalS3Adapter

end Urp
