import Urp.Executor

/-!
# What one execution does

Nothing, an observation's manifest, the chunks alone, or the chunks and their
manifest.  The events, plans and approvals around them leave the chunks and
the manifests as they are.
-/

namespace Urp

open Python Program

/-! ## Quiet steps -/

/-- The chunks and the manifests are the same, and identifiers are only
drawn. -/
structure World.Quiet (world later : World) : Prop where
  chunks : later.chunks = world.chunks
  manifests : later.manifests = world.manifests
  supply : world.supply.Before later.supply

instance : IsPreorder World World.Quiet where
  refl world := ⟨rfl, rfl, .refl world.supply⟩
  trans _ _ _ early late :=
    ⟨late.chunks.trans early.chunks, late.manifests.trans early.manifests,
      early.supply.trans late.supply⟩

section Quiet

variable (host : Host) (session : Session)

theorem quiet_supply {α : Type} {body : Program Supply PyException α}
    (drawn : Within Supply.Before body) :
    Within World.Quiet (focus World.supplyLens body) :=
  within_focus drawn fun _ _ drawn => ⟨rfl, rfl, drawn⟩

theorem quiet_record (event : LedgerEvent) :
    Within World.Quiet (record host session event) := by
  refine within_bind ?_ fun _ => within_ret _
  exact within_focus (JSONLLedger.drawn_record host session event)
    fun _ _ drawn => ⟨rfl, rfl, drawn⟩

theorem quiet_storePlanWithAudit (plan : Plan) (workUnit : WorkUnit) :
    Within World.Quiet (storePlanWithAudit host session plan workUnit) := by
  refine within_bind ?_ fun _ => quiet_record host session _
  refine within_bind (within_lift _) fun _ => ?_
  refine within_bind (within_lift _) fun planId => ?_
  exact within_modify fun world => ⟨rfl, rfl, .refl world.supply⟩

/-- The supply is only drawn from. -/
def ApprovalState.Drawn (state later : ApprovalState) : Prop :=
  state.supply.Before later.supply

instance : IsPreorder ApprovalState ApprovalState.Drawn where
  refl state := .refl state.supply
  trans _ _ _ := .trans

theorem ApprovalStore.drawn_get (approvalId : String) :
    Within ApprovalState.Drawn (ApprovalStore.get host approvalId) := by
  refine within_bind (within_lift _) fun approvalId => ?_
  refine within_bind within_get fun state => ?_
  split
  · exact within_raise _
  · refine within_bind (within_lift _) fun signature => ?_
    exact within_ite (within_ret _) (within_raise _)

theorem quiet_verifyApproval (approvalId : String) (workUnit : WorkUnit)
    (policy : PolicyDecision) :
    Within World.Quiet (verifyApproval host approvalId workUnit policy) := by
  have verified : Within ApprovalState.Drawn (ApprovalStore.verify host
      approvalId workUnit policy.contract policy.policyBundleId) := by
    refine within_bind (ApprovalStore.drawn_get host approvalId)
      fun record => ?_
    refine within_bind ?_ fun now => within_lift _
    exact within_focus host.within_now fun _ _ drawn => drawn
  refine within_bind ?_ fun _ => within_ret _
  apply within_rethrow
  exact within_focus verified fun _ _ drawn => ⟨rfl, rfl, drawn⟩

variable (execution : Execution) (prepared : Prepared)

theorem quiet_recordExecution (event : LedgerEvent) :
    Within World.Quiet (recordExecution host execution event) :=
  quiet_record host execution.session event

theorem quiet_requirePolicyApproval :
    Within World.Quiet (requirePolicyApproval host execution prepared) := by
  apply within_ite
  · exact within_ret _
  · apply within_ite
    · exact quiet_verifyApproval host _ _ _
    · exact within_bind (quiet_recordExecution host execution _)
        fun _ => within_raise _

theorem quiet_admitPrepared :
    Within World.Quiet (admitPrepared host execution prepared) := by
  refine within_bind (quiet_requirePolicyApproval host execution prepared)
    fun _ => ?_
  refine within_bind (quiet_recordExecution host execution _) fun _ => ?_
  refine within_bind (quiet_recordExecution host execution _) fun _ => ?_
  exact quiet_storePlanWithAudit host execution.session _ _

theorem quiet_recordAdapter (manifest : Manifest) :
    Within World.Quiet
      (recordAdapter host execution prepared manifest) := by
  unfold recordAdapter
  split
  · exact within_ret _
  · exact quiet_recordExecution host execution _

theorem frames_rehydrate (segments : List Segment) :
    Frames (fun state => state) (LocalChunkStore.rehydrate host segments) := by
  apply frames_bind
  · apply frames_forEach
    intro segment
    exact frames_readStored host segment.stored segment.sha256
  · intro parts
    exact frames_ret _

theorem quiet_rehydrate (segments : List Segment) :
    Within World.Quiet
      (focus World.chunksLens (LocalChunkStore.rehydrate host segments)) := by
  intro world
  exact ⟨frames_rehydrate host segments world.chunks, rfl,
    .refl world.supply⟩

theorem quiet_verifyRestore (segments : List Segment) :
    Within World.Quiet
      (verifyRestore host execution prepared segments) := by
  refine within_bind (quiet_rehydrate host segments) fun restored => ?_
  apply within_ite
  · exact within_bind (within_lift _) fun _ => within_ret _
  · exact within_bind (quiet_recordExecution host execution _)
      fun _ => within_raise _

end Quiet

/-! ## Views of the other stores -/

/-- The view reads neither the ledger nor the approvals, the chunks and the
manifests. -/
structure Beside {γ : Type} (view : World → γ) : Prop where
  ledger : ∀ world ledger, view { world with ledger } = view world
  approvals : ∀ world state,
    view (World.approvalsLens.set world state) = view world
  chunks : ∀ world chunks, view { world with chunks } = view world
  manifests : ∀ world manifests, view { world with manifests } = view world

theorem beside_policies : Beside World.policies :=
  ⟨fun _ _ => rfl, fun _ _ => rfl, fun _ _ => rfl, fun _ _ => rfl⟩

theorem beside_plans : Beside World.plans :=
  ⟨fun _ _ => rfl, fun _ _ => rfl, fun _ _ => rfl, fun _ _ => rfl⟩

section Beside

variable {γ : Type} {view : World → γ} (beside : Beside view)
variable (host : Host)

include beside

theorem Beside.record (session : Session) (event : LedgerEvent) :
    Frames view (record host session event) :=
  frames_bind (frames_focus beside.ledger) fun _ => frames_ret _

theorem Beside.supply {α : Type} (body : Program Supply PyException α) :
    Frames view (focus World.supplyLens body) :=
  frames_focus fun world _ => beside.ledger world _

theorem Beside.verifyApproval (approvalId : String) (workUnit : WorkUnit)
    (policy : PolicyDecision) :
    Frames view (verifyApproval host approvalId workUnit policy) := by
  refine frames_bind ?_ fun _ => frames_ret _
  exact frames_rethrow (frames_focus beside.approvals)

variable (execution : Execution) (prepared : Prepared)

theorem Beside.recordExecution (event : LedgerEvent) :
    Frames view (recordExecution host execution event) :=
  beside.record host execution.session event

theorem Beside.requirePolicyApproval :
    Frames view (requirePolicyApproval host execution prepared) := by
  apply frames_ite
  · exact frames_ret _
  · apply frames_ite
    · exact beside.verifyApproval host _ _ _
    · exact frames_bind (beside.recordExecution host execution _)
        fun _ => frames_raise _

theorem Beside.writeManifest (state : ManifestState) (physical : Physical)
    (verification : VerificationResult) (lineage telemetry details : Object) :
    Frames view (writeManifest host execution prepared state physical
      verification lineage telemetry details) := by
  refine frames_bind (beside.supply _) fun manifest => ?_
  refine frames_bind (frames_focus beside.manifests) fun _ => ?_
  exact frames_bind (beside.recordExecution host execution _)
    fun _ => frames_ret _

theorem Beside.recordObservation :
    Frames view (recordObservation host execution prepared) := by
  refine frames_bind ?_ fun _ => frames_ret _
  exact beside.writeManifest host execution prepared _ _ _ _ _ _

theorem Beside.storeChunks (chunks : List Chunk) :
    Frames view (storeChunks host execution prepared chunks) := by
  refine frames_bind (frames_focus beside.chunks) fun stored => ?_
  refine frames_bind (frames_forEach fun segment => ?_) fun _ => frames_ret _
  exact beside.recordExecution host execution _

theorem Beside.verifyRestore (segments : List Segment) :
    Frames view (verifyRestore host execution prepared segments) := by
  refine frames_bind (frames_focus beside.chunks) fun restored => ?_
  apply frames_ite
  · exact frames_bind (frames_lift _) fun _ => frames_ret _
  · exact frames_bind (beside.recordExecution host execution _)
      fun _ => frames_raise _

theorem Beside.recordAdapter (manifest : Manifest) :
    Frames view (recordAdapter host execution prepared manifest) := by
  unfold Urp.recordAdapter
  split
  · exact frames_ret _
  · exact beside.recordExecution host execution _

theorem Beside.storeObject :
    Frames view (storeObject host execution prepared) := by
  refine frames_bind (frames_lift _) fun chunks => ?_
  refine frames_bind (beside.storeChunks host execution prepared chunks)
    fun segments => ?_
  refine frames_bind (beside.verifyRestore host execution prepared segments)
    fun verification => ?_
  refine frames_bind (beside.writeManifest host execution prepared _ _ _ _ _ _)
    fun manifest => ?_
  exact frames_bind (beside.recordAdapter host execution prepared manifest)
    fun _ => frames_ret _

end Beside

/-! ## The outcome of an execution -/

/-- The execution wrote this manifest under a new identifier. -/
structure Written (host : Host) (execution : Execution) (prepared : Prepared)
    (world later : World) (manifest : Manifest) : Prop where
  identifier : ∃ k, world.supply.nextId ≤ k ∧ k < later.supply.nextId ∧
    manifest.manifestId = host.idText "mf" k
  accepted : validateIdentifier manifest.manifestId "manifest id" "mf_" =
    .ok manifest.manifestId
  manifests : later.manifests =
    world.manifests.insert manifest.manifestId manifest.reloaded
  made : ∃ state physical verification lineage telemetry createdAt,
    manifest = manifestOf execution prepared state physical verification
      lineage telemetry manifest.manifestId createdAt

/-- The `physical` entry of an execution that stored these segments. -/
def storedPhysical (execution : Execution) (prepared : Prepared)
    (segments : List Segment) : Physical :=
  .exact execution.adapter (sha256 prepared.payload) prepared.payload.length
    (storedSize segments) segments

/-- The `lineage` entry of an execution that stored its payload. -/
def storedLineage (execution : Execution) : Object :=
  .ofList [("work_unit_metadata", execution.workUnit.metadata.toValue),
    ("policy_context", execution.workUnit.policyContext.toValue)]

/-- What an execution leaves, and the manifest that it wrote. -/
inductive Outcome (host : Host) (execution : Execution) (prepared : Prepared)
    (world later : World) : Option Manifest → Prop where
  | unchanged (quiet : world.Quiet later) :
      Outcome host execution prepared world later none
  | observed {manifest : Manifest} (mode : prepared.mode = .observe)
      (chunks : later.chunks = world.chunks)
      (physical : manifest.physical = .observed execution.adapter
        (sha256 prepared.payload) prepared.payload.length)
      (lineage : manifest.lineage = ∅)
      (written : Written host execution prepared world later manifest) :
      Outcome host execution prepared world later (some manifest)
  | failed {chunks : List Chunk} (mode : prepared.mode ≠ .observe)
      (cut : planChunks prepared.plan prepared.payload = .ok chunks)
      (after : later.chunks = (forEach (chunkPuts execution prepared chunks)
        (Put.run host) world.chunks).2)
      (manifests : later.manifests = world.manifests)
      (supply : world.supply.Before later.supply) :
      Outcome host execution prepared world later none
  | stored {chunks : List Chunk} {rows : List StoredChunk}
      {manifest : Manifest} (mode : prepared.mode ≠ .observe)
      (cut : planChunks prepared.plan prepared.payload = .ok chunks)
      (run : forEach (chunkPuts execution prepared chunks) (Put.run host)
        world.chunks = (.ok rows, later.chunks))
      (physical : manifest.physical = storedPhysical execution prepared
        (List.zipWith segmentOf chunks rows))
      (lineage : manifest.lineage = storedLineage execution)
      (written : Written host execution prepared world later manifest) :
      Outcome host execution prepared world later (some manifest)

section Outcome

variable {host : Host} {execution : Execution} {prepared : Prepared}
variable {world middle later : World} {manifest : Manifest}

theorem Written.before (supply : world.supply.Before middle.supply)
    (manifests : middle.manifests = world.manifests)
    (written : Written host execution prepared middle later manifest) :
    Written host execution prepared world later manifest := by
  obtain ⟨k, low, high, same⟩ := written.identifier
  constructor
  · exact ⟨k, Nat.le_trans supply.1 low, high, same⟩
  · exact written.accepted
  · rw [written.manifests, manifests]
  · exact written.made

theorem Written.after
    (written : Written host execution prepared world middle manifest)
    (quiet : middle.Quiet later) :
    Written host execution prepared world later manifest := by
  obtain ⟨k, low, high, same⟩ := written.identifier
  constructor
  · exact ⟨k, low, Nat.lt_of_lt_of_le high quiet.supply.1, same⟩
  · exact written.accepted
  · rw [quiet.manifests, written.manifests]
  · exact written.made

theorem Written.drawn
    (written : Written host execution prepared world later manifest) :
    world.supply.nextId ≤ later.supply.nextId := by
  obtain ⟨k, low, high, -⟩ := written.identifier
  omega

/-- A new manifest is the one that was written. -/
theorem Written.eq_of_new {manifest new : Manifest} {manifestId : String}
    (written : Written host execution prepared world later manifest)
    (missing : world.manifests.lookup manifestId = none)
    (found : later.manifests.lookup manifestId = some new) :
    new = manifest.reloaded := by
  rw [written.manifests, Dict.lookup_insert] at found
  split at found
  · cases found
    rfl
  · rw [missing] at found
    cases found

theorem Outcome.written
    (outcome : Outcome host execution prepared world later (some manifest)) :
    Written host execution prepared world later manifest := by
  cases outcome with
  | observed _ _ _ _ written => exact written
  | stored _ _ _ _ _ written => exact written

theorem Outcome.before {wrote : Option Manifest} (quiet : world.Quiet middle)
    (outcome : Outcome host execution prepared middle later wrote) :
    Outcome host execution prepared world later wrote := by
  cases outcome with
  | unchanged rest => exact .unchanged (trans_of World.Quiet quiet rest)
  | observed mode chunks physical lineage written =>
      exact .observed mode (chunks.trans quiet.chunks) physical lineage
        (written.before quiet.supply quiet.manifests)
  | failed mode cut after manifests supply =>
      rw [quiet.chunks] at after
      exact .failed mode cut after (manifests.trans quiet.manifests)
        (quiet.supply.trans supply)
  | stored mode cut run physical lineage written =>
      rw [quiet.chunks] at run
      exact .stored mode cut run physical lineage
        (written.before quiet.supply quiet.manifests)

theorem Outcome.after {wrote : Option Manifest}
    (outcome : Outcome host execution prepared world middle wrote)
    (quiet : middle.Quiet later) :
    Outcome host execution prepared world later wrote := by
  cases outcome with
  | unchanged rest => exact .unchanged (trans_of World.Quiet rest quiet)
  | observed mode chunks physical lineage written =>
      exact .observed mode (quiet.chunks.trans chunks) physical lineage
        (written.after quiet)
  | failed mode cut after manifests supply =>
      exact .failed mode cut (quiet.chunks.trans after)
        (quiet.manifests.trans manifests) (supply.trans quiet.supply)
  | stored mode cut run physical lineage written =>
      rw [← quiet.chunks] at run
      exact .stored mode cut run physical lineage (written.after quiet)

end Outcome

section Spec

variable (host : Host) (execution : Execution) (prepared : Prepared)

/-- A new manifest takes the next identifier. -/
theorem ensures_newManifest (state : ManifestState) (physical : Physical)
    (verification : VerificationResult) (lineage telemetry : Object)
    (world : World) :
    Ensures (focus World.supplyLens (newManifest host execution prepared state
        physical verification lineage telemetry)) world
      (fun manifest later => world.Quiet later ∧
        later.supply.nextId = world.supply.nextId + 1 ∧
        ∃ createdAt, manifest = manifestOf execution prepared state physical
          verification lineage telemetry
          (host.idText "mf" world.supply.nextId) createdAt)
      (fun _ _ => False) := by
  rw [ensures_focus]
  unfold newManifest
  rw [ensures_bind]
  apply (host.ensures_newId _ "mf").mono
  · rintro manifestId drawn ⟨rfl, rfl⟩
    rw [ensures_bind]
    apply (host.ensures_utcNow _).mono
    · rintro createdAt later rfl
      refine ⟨⟨rfl, rfl, ?_⟩, rfl, createdAt, rfl⟩
      exact ⟨Nat.le_succ _, Nat.le_succ _⟩
    · exact fun _ _ impossible => impossible
  · exact fun _ _ impossible => impossible

/-- A put adds the manifest, or refuses it and changes nothing. -/
theorem FileManifestStore.ensures_put (session : Session)
    (manifest : Manifest) (files : ManifestFiles) :
    Ensures (FileManifestStore.put host session manifest) files
      (fun _ later => validateIdentifier manifest.manifestId "manifest id"
          "mf_" = .ok manifest.manifestId ∧
        later = files.insert manifest.manifestId manifest.reloaded)
      (fun _ later => later = files) := by
  unfold FileManifestStore.put
  rw [ensures_bind, ensures_lift]
  refine ⟨fun _ _ => ?_, fun _ _ => rfl⟩
  rw [ensures_bind, ensures_lift]
  refine ⟨fun _ _ => ?_, fun _ _ => rfl⟩
  rw [ensures_bind, ensures_lift]
  refine ⟨fun manifestId accepted => ?_, fun _ _ => rfl⟩
  have same := (validateIdentifier_eq_ok accepted).1
  subst same
  exact ⟨accepted, rfl⟩

/-- A manifest with these entries was added. -/
def Added (physical : Physical) (lineage : Object) (world later : World)
    (manifest : Manifest) : Prop :=
  later.chunks = world.chunks ∧ world.supply.Before later.supply ∧
    (manifest.physical = physical ∧ manifest.lineage = lineage) ∧
    Written host execution prepared world later manifest

/-- Writing a manifest adds it; a failure may come before or after. -/
theorem ensures_writeManifest (state : ManifestState) (physical : Physical)
    (verification : VerificationResult) (lineage telemetry details : Object)
    (world : World) :
    Ensures (writeManifest host execution prepared state physical verification
        lineage telemetry details) world
      (fun manifest later =>
        Added host execution prepared physical lineage world later manifest)
      (fun _ later => world.Quiet later ∨ ∃ manifest,
        Added host execution prepared physical lineage world later manifest) := by
  unfold writeManifest
  rw [ensures_bind]
  apply (ensures_newManifest host execution prepared state physical
    verification lineage telemetry world).mono
  · rintro manifest drawn ⟨quiet, nextId, createdAt, made⟩
    rw [ensures_bind, ensures_focus]
    apply (FileManifestStore.ensures_put host execution.session manifest
      drawn.manifests).mono
    · rintro _ files ⟨accepted, rfl⟩
      have added : ∀ later, World.Quiet (World.manifestsLens.set drawn
          (drawn.manifests.insert manifest.manifestId manifest.reloaded))
            later →
          Added host execution prepared physical lineage world later manifest := by
        intro later recorded
        have identifier : manifest.manifestId =
            host.idText "mf" world.supply.nextId := by
          rw [made]
          rfl
        refine ⟨recorded.chunks.trans quiet.chunks,
          quiet.supply.trans recorded.supply, by rw [made]; exact ⟨rfl, rfl⟩, ?_⟩
        constructor
        · refine ⟨world.supply.nextId, Nat.le_refl _, ?_, identifier⟩
          have bound : drawn.supply.nextId ≤ later.supply.nextId :=
            recorded.supply.1
          omega
        · exact accepted
        · rw [recorded.manifests, ← quiet.manifests]
          rfl
        · refine ⟨state, physical, verification, lineage, telemetry,
            createdAt, ?_⟩
          rw [identifier]
          exact made
      rw [ensures_bind]
      apply ((quiet_recordExecution host execution _).ensures _).mono
      · exact fun _ later recorded => added later recorded
      · exact fun _ later recorded => .inr ⟨manifest, added later recorded⟩
    · rintro _ files rfl
      exact .inl quiet
  · exact fun _ _ impossible => absurd impossible id

theorem ensures_storeChunks (chunks : List Chunk) (world : World) :
    let puts := forEach (chunkPuts execution prepared chunks) (Put.run host)
    Ensures (storeChunks host execution prepared chunks) world
      (fun segments later => world.supply.Before later.supply ∧
        later.manifests = world.manifests ∧
        ∃ rows, puts world.chunks = (.ok rows, later.chunks) ∧
          segments = List.zipWith segmentOf chunks rows)
      (fun _ later => world.supply.Before later.supply ∧
        later.manifests = world.manifests ∧
        later.chunks = (puts world.chunks).2) := by
  intro puts
  unfold storeChunks
  rw [ensures_bind, ensures_focus]
  apply (ensures_self puts world.chunks).mono
  · intro rows stored run
    let segments := List.zipWith segmentOf chunks rows
    let body := fun segment : Segment => recordExecution host execution
      (executionEvent execution prepared "action.executed"
        (.ofList [("action", .str "store_chunk"),
          ("digest", .str segment.sha256),
          ("dedupe_hit", .bool segment.stored.dedupeHit)]))
    have recorded : Within World.Quiet (Program.forEach segments body) :=
      within_forEach fun segment => quiet_recordExecution host execution _
    rw [ensures_bind]
    apply (recorded.ensures (World.chunksLens.set world stored)).mono
    · intro _ later quiet
      have chunks : later.chunks = stored := quiet.chunks
      rw [← chunks] at run
      exact ⟨quiet.supply, quiet.manifests, rows, run, rfl⟩
    · intro _ later quiet
      have chunks : later.chunks = stored := quiet.chunks
      rw [run, chunks]
      exact ⟨quiet.supply, quiet.manifests, rfl⟩
  · intro error stored run
    rw [run]
    exact ⟨.refl _, rfl, rfl⟩

/-- Store, verify and write the manifest, or fail on the way. -/
theorem ensures_storeObject (mode : prepared.mode ≠ .observe) (world : World) :
    Ensures (storeObject host execution prepared) world
      (fun result later => ∃ manifest,
        Outcome host execution prepared world later (some manifest) ∧
          result.manifestId = manifest.manifestId)
      (fun _ later => ∃ wrote,
        Outcome host execution prepared world later wrote) := by
  unfold storeObject
  rw [ensures_bind, ensures_lift]
  refine ⟨fun chunks cut => ?_,
    fun _ _ => ⟨none, .unchanged (refl_of World.Quiet world)⟩⟩
  rw [ensures_bind]
  apply (ensures_storeChunks host execution prepared chunks world).mono
  · rintro segments stored ⟨drawn, sameManifests, rows, run, rfl⟩
    have failed : ∀ later, World.Quiet stored later →
        Outcome host execution prepared world later none := by
      intro later quiet
      apply Outcome.failed mode cut
      · rw [run]
        exact quiet.chunks
      · exact quiet.manifests.trans sameManifests
      · exact drawn.trans quiet.supply
    rw [ensures_bind]
    apply ((quiet_verifyRestore host execution prepared _).ensures stored).mono
    · intro verification verified quiet
      have outcome : ∀ later manifest, Added host execution prepared
          (storedPhysical execution prepared
            (List.zipWith segmentOf chunks rows))
          (storedLineage execution) verified later manifest →
          Outcome host execution prepared world later (some manifest) := by
        rintro later manifest
          ⟨sameChunks, supply, ⟨physical, lineage⟩, written⟩
        have unchanged := sameChunks.trans quiet.chunks
        rw [← unchanged] at run
        apply Outcome.stored mode cut run physical lineage
        · exact written.before (drawn.trans quiet.supply)
            (quiet.manifests.trans sameManifests)
      rw [ensures_bind]
      apply (ensures_writeManifest host execution prepared _ _ _ _ _ _
        verified).mono
      · intro manifest written added
        rw [ensures_bind]
        apply ((quiet_recordAdapter host execution prepared _).ensures
          written).mono
        · intro _ final recorded
          exact ⟨_, (outcome _ _ added).after recorded, rfl⟩
        · intro _ final recorded
          exact ⟨_, (outcome _ _ added).after recorded⟩
      · rintro _ later (stopped | ⟨manifest, added⟩)
        · exact ⟨none, failed _ (trans_of World.Quiet quiet stopped)⟩
        · exact ⟨_, outcome _ _ added⟩
    · intro _ later quiet
      exact ⟨none, failed later quiet⟩
  · rintro _ later ⟨drawn, sameManifests, after⟩
    exact ⟨none, .failed mode cut after sameManifests drawn⟩

theorem ensures_recordObservation (mode : prepared.mode = .observe)
    (world : World) :
    Ensures (recordObservation host execution prepared) world
      (fun result later => ∃ manifest,
        Outcome host execution prepared world later (some manifest) ∧
          result.manifestId = manifest.manifestId)
      (fun _ later => ∃ wrote,
        Outcome host execution prepared world later wrote) := by
  have outcome : ∀ later manifest, Added host execution prepared
      (.observed execution.adapter (sha256 prepared.payload)
        prepared.payload.length) ∅ world later manifest →
      Outcome host execution prepared world later (some manifest) := by
    rintro later manifest ⟨chunks, -, ⟨physical, lineage⟩, written⟩
    exact Outcome.observed mode chunks physical lineage written
  unfold recordObservation
  rw [ensures_bind]
  apply (ensures_writeManifest host execution prepared _ _ _ _ _ _ world).mono
  · intro manifest later added
    exact ⟨manifest, outcome later manifest added, rfl⟩
  · rintro _ later (stopped | ⟨manifest, added⟩)
    · exact ⟨none, .unchanged stopped⟩
    · exact ⟨_, outcome later manifest added⟩

end Spec

/-- An execution whose arguments are refused changes nothing. -/
theorem execute_of_unprepared (host : Host) {execution : Execution}
    {error : PyException} (refused : execution.prepare host = .error error)
    (world : World) :
    executeExactObject host execution world = (.error error, world) := by
  unfold executeExactObject
  rw [refused]
  rfl

/-- Every execution has an outcome; one that returns wrote the manifest that
it names. -/
theorem ensures_executeExactObject (host : Host) {execution : Execution}
    {prepared : Prepared} (ready : execution.prepare host = .ok prepared)
    (world : World) :
    Ensures (executeExactObject host execution) world
      (fun result later => ∃ manifest,
        Outcome host execution prepared world later (some manifest) ∧
          result.manifestId = manifest.manifestId)
      (fun _ later => ∃ wrote,
        Outcome host execution prepared world later wrote) := by
  unfold executeExactObject
  rw [ready, lift_ok_bind, ensures_bind]
  apply ((quiet_admitPrepared host execution prepared).ensures world).mono
  · intro _ admitted quiet
    have returned : ∀ {result : ExecutionResult} {later : World},
        (∃ manifest, Outcome host execution prepared admitted later
            (some manifest) ∧ result.manifestId = manifest.manifestId) →
          ∃ manifest, Outcome host execution prepared world later
            (some manifest) ∧ result.manifestId = manifest.manifestId := by
      rintro result later ⟨manifest, outcome, same⟩
      exact ⟨manifest, outcome.before quiet, same⟩
    have raised : ∀ {later : World},
        (∃ wrote, Outcome host execution prepared admitted later wrote) →
          ∃ wrote, Outcome host execution prepared world later wrote := by
      rintro later ⟨wrote, outcome⟩
      exact ⟨wrote, outcome.before quiet⟩
    rw [ensures_ite]
    constructor
    · intro mode
      exact (ensures_recordObservation host execution prepared mode
        admitted).mono (fun _ _ => returned) (fun _ _ => raised)
    · intro mode
      exact (ensures_storeObject host execution prepared mode admitted).mono
        (fun _ _ => returned) (fun _ _ => raised)
  · intro _ later quiet
    exact ⟨none, .unchanged quiet⟩

theorem exists_outcome (host : Host) {execution : Execution}
    {prepared : Prepared} (ready : execution.prepare host = .ok prepared)
    (world : World) :
    ∃ wrote, Outcome host execution prepared world
      (executeExactObject host execution world).2 wrote := by
  let reaches := fun later : World =>
    ∃ wrote, Outcome host execution prepared world later wrote
  apply (@ensures_state_iff _ _ _ world (executeExactObject host execution)
    reaches).mp
  apply (ensures_executeExactObject host ready world).mono
  · rintro result later ⟨manifest, outcome, -⟩
    exact ⟨some manifest, outcome⟩
  · exact fun _ _ reached => reached

end Urp
