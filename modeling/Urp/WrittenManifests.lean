import Urp.Executions

/-!
# The manifests of executions

What the manifests that an execution writes say: an observed one about its
payload only, a stored one about its segments, with the telemetry of both.
-/

namespace Urp

open Python Program

/-- The store gained no manifests but these. -/
def World.PutsOnly (made : Manifest → Prop) (world later : World) : Prop :=
  ∀ manifestId manifest, later.manifests.lookup manifestId = some manifest →
    world.manifests.lookup manifestId = some manifest ∨
      ∃ written, made written ∧ written.manifestId = manifestId ∧
        manifest = written.reloaded

instance (made : Manifest → Prop) : IsPreorder World (World.PutsOnly made) where
  refl _ _ _ found := .inl found
  trans _ _ _ early late manifestId manifest found := by
    rcases late manifestId manifest found with before | written
    · exact early manifestId manifest before
    · exact .inr written

theorem World.PutsOnly.of_eq {made : Manifest → Prop} {world later : World}
    (same : later.manifests = world.manifests) : world.PutsOnly made later := by
  intro manifestId manifest found
  rw [same] at found
  exact .inl found

theorem World.PutsOnly.of_new {made : Manifest → Prop} {world later : World}
    (puts : world.PutsOnly made later) {manifestId : String}
    {manifest : Manifest} (missing : world.manifests.lookup manifestId = none)
    (found : later.manifests.lookup manifestId = some manifest) :
    ∃ written, made written ∧ written.manifestId = manifestId ∧
      manifest = written.reloaded := by
  rcases puts manifestId manifest found with before | written
  · rw [missing] at before
    cases before
  · exact written

section Manifests

variable (execution : Execution) (prepared : Prepared)

/-- The `telemetry` entry of an execution that stored its payload. -/
def storedTelemetry (segments : List Segment) : Object :=
  executionTelemetry prepared.mode prepared.payload.length (storedSize segments)
    (prepared.payload.length - storedSize segments) segments.length
    (segments.filter fun segment => segment.stored.dedupeHit).length

def observedManifest (manifestId createdAt : String) : Manifest :=
  manifestOf execution prepared .planned
    (.observed execution.adapter (sha256 prepared.payload)
      prepared.payload.length) observation ∅
    (executionTelemetry .observe prepared.payload.length 0 0 0 0) manifestId
    createdAt

def storedManifest (segments : List Segment)
    (verification : VerificationResult) (manifestId createdAt : String) :
    Manifest :=
  manifestOf execution prepared
    (if prepared.mode = .enforce then .active else .superseded)
    (storedPhysical execution prepared segments) verification
    (storedLineage execution) (storedTelemetry prepared segments) manifestId
    createdAt

/-- The manifests that an execution may write. -/
inductive Execution.Makes : Manifest → Prop where
  | observed (mode : prepared.mode = .observe) (manifestId createdAt : String) :
      Makes (observedManifest execution prepared manifestId createdAt)
  | stored (mode : prepared.mode ≠ .observe) (segments : List Segment)
      (verification : VerificationResult) (manifestId createdAt : String) :
      Makes (storedManifest execution prepared segments verification manifestId
        createdAt)

variable (host : Host)

theorem putsOnly_put {made : Manifest → Prop} (session : Session)
    {manifest : Manifest} (makes : made manifest) :
    Within (World.PutsOnly made)
      (focus World.manifestsLens (FileManifestStore.put host session manifest)) := by
  intro world
  apply ensures_state_iff.mp
  rw [ensures_focus]
  apply (FileManifestStore.ensures_put host session manifest
    world.manifests).mono
  · rintro _ files ⟨-, rfl⟩ manifestId found present
    change (world.manifests.insert _ _).lookup manifestId = _ at present
    rw [Dict.lookup_insert] at present
    split at present
    · rename_i same
      cases present
      exact .inr ⟨manifest, makes, same, rfl⟩
    · exact .inl present
  · rintro _ files rfl
    exact refl_of (World.PutsOnly made) world

/-- Writing a manifest puts manifests of its own kind only. -/
theorem putsOnly_writeManifest {made : Manifest → Prop} {state : ManifestState}
    {physical : Physical} {verification : VerificationResult}
    {lineage telemetry : Object} (details : Object)
    (makes : ∀ manifestId createdAt, made (manifestOf execution prepared state
      physical verification lineage telemetry manifestId createdAt)) :
    Within (World.PutsOnly made) (writeManifest host execution prepared state
      physical verification lineage telemetry details) := by
  intro world
  apply ensures_state_iff.mp
  unfold writeManifest
  rw [ensures_bind]
  apply (ensures_newManifest host execution prepared state physical verification
    lineage telemetry world).mono
  · rintro manifest drawn ⟨quiet, -, createdAt, rfl⟩
    have before : world.PutsOnly made drawn := .of_eq quiet.manifests
    refine Ensures.mono
      (Within.ensures (?_ : Within (World.PutsOnly made) _) drawn)
      (fun _ _ after => trans_of (World.PutsOnly made) before after)
      (fun _ _ after => trans_of (World.PutsOnly made) before after)
    refine within_bind (putsOnly_put host execution.session
      (makes _ createdAt)) fun _ => ?_
    refine within_bind ?_ fun _ => within_ret _
    exact fun world =>
      .of_eq (quiet_recordExecution host execution _ world).manifests
  · exact fun _ _ impossible => impossible.elim

/-- An execution puts its own manifests only. -/
theorem putsOnly_executeExactObject
    (ready : execution.prepare host = .ok prepared) :
    Within (World.PutsOnly (execution.Makes prepared))
      (executeExactObject host execution) := by
  have quietly : ∀ {α : Type} {body : Program World PyException α},
      Within World.Quiet body →
        Within (World.PutsOnly (execution.Makes prepared)) body :=
    fun quiet world => .of_eq (quiet world).manifests
  unfold executeExactObject
  rw [ready, lift_ok_bind]
  refine within_bind (quietly (quiet_admitPrepared host execution prepared))
    fun _ => ?_
  split
  · rename_i mode
    unfold recordObservation
    refine within_bind ?_ fun _ => within_ret _
    exact putsOnly_writeManifest execution prepared host _
      fun manifestId createdAt => .observed mode manifestId createdAt
  · rename_i mode
    unfold storeObject
    refine within_bind (within_lift _) fun chunks => ?_
    refine within_bind ?_ fun segments => ?_
    · intro world
      apply ensures_state_iff.mp
      apply (ensures_storeChunks host execution prepared chunks world).mono
      · rintro _ later ⟨-, same, -⟩
        exact .of_eq same
      · rintro _ later ⟨-, same, -⟩
        exact .of_eq same
    · refine within_bind (quietly (quiet_verifyRestore host execution prepared
        segments)) fun verification => ?_
      refine within_bind ?_ fun manifest => ?_
      · exact putsOnly_writeManifest execution prepared host _
          fun manifestId createdAt =>
            .stored mode segments verification manifestId createdAt
      · exact within_bind (quietly (quiet_recordAdapter host execution prepared
          manifest)) fun _ => within_ret _

end Manifests

end Urp
