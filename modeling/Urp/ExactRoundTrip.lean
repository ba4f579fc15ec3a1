import Urp.ChunkRuns
import Urp.Executions
import Urp.Library.Run

/-!
# Exact round trip over runs

Whatever executions a run makes, the manifest of each enforce or shadow
execution still rehydrates to the payload of its own execution at the end.
The chunk files stay sound, manifests stay where they are because identifiers
are fresh, and a row that decodes keeps decoding.
-/

namespace Urp

open Python Program

/-! ## Segments that decode -/

/-- The segments decode to parts of the payload, in order. -/
structure Manifest.Restores (host : Host) (state : ChunkFiles)
    (manifest : Manifest) (payload : Bytes) : Prop where
  hash : manifest.physical.wholeSha256 = sha256 payload
  segments : ∃ parts, List.Forall₂
      (fun segment part => segment.stored.Decodes host state part)
      manifest.physical.segments parts ∧ parts.flatten = payload

section Restores

variable {host : Host} {state : ChunkFiles}

theorem Manifest.Restores.kept {later : ChunkFiles} {manifest : Manifest}
    {payload : Bytes} (restores : manifest.Restores host state payload)
    (kept : state.FilesKept later) : manifest.Restores host later payload := by
  obtain ⟨parts, decodes, joined⟩ := restores.segments
  refine ⟨restores.hash, parts, ?_, joined⟩
  apply decodes.imp
  intro segment part decoded
  exact decoded.kept kept

/-- Reading segments that decode returns their parts. -/
theorem rehydrate_of_decodes {segments : List Segment} {parts : List Bytes}
    (decodes : List.Forall₂
      (fun segment part => segment.stored.Decodes host state part)
      segments parts) :
    LocalChunkStore.rehydrate host segments state =
      (.ok parts.flatten, state) := by
  have read : forEach segments (fun segment =>
        LocalChunkStore.readStored host segment.stored segment.sha256) state =
      (.ok parts, state) := by
    induction decodes with
    | nil => rfl
    | cons decoded rest ih =>
        rw [forEach, bind_ok (readStored_of_decodes decoded _), bind_ok ih]
        rfl
  unfold LocalChunkStore.rehydrate
  rw [bind_ok read]
  rfl

theorem get_of_found {session : Session} {world : World}
    {manifestId : String} {manifest : Manifest}
    (accepted : validateIdentifier manifestId "manifest id" "mf_" =
      .ok manifestId)
    (found : world.manifests.lookup manifestId = some manifest)
    (admitted : requireTenant session manifest.tenant = .ok ()) :
    focus World.manifestsLens (FileManifestStore.get session manifestId) world =
      (.ok manifest, world) := by
  simp only [focus, World.manifestsLens, FileManifestStore.get, accepted,
    lift_ok_bind, get_bind, found, enforceRequestTenant, admitted]
  rfl

/-- A manifest that restores rehydrates. -/
theorem rehydrateManifest_of_restores {session : Session} {world : World}
    {manifestId : String} {manifest : Manifest} {payload : Bytes}
    (accepted : validateIdentifier manifestId "manifest id" "mf_" =
      .ok manifestId)
    (found : world.manifests.lookup manifestId = some manifest)
    (admitted : requireTenant session manifest.tenant = .ok ())
    (restores : manifest.Restores host world.chunks payload) :
    rehydrateManifest host session manifestId world = (.ok payload, world) := by
  obtain ⟨parts, decodes, rfl⟩ := restores.segments
  have read : focus World.chunksLens
      (LocalChunkStore.rehydrate host manifest.physical.segments) world =
        (.ok parts.flatten, world) := by
    simp only [focus, World.chunksLens, rehydrate_of_decodes decodes]
  have verified : (verifySha256 parts.flatten
      manifest.physical.wholeSha256).accepted = true := by
    simp [verifySha256, restores.hash]
  unfold rehydrateManifest
  rw [bind_ok (get_of_found accepted found admitted),
    bind_ok (rethrow_ok read _)]
  simp only [verified, if_true]
  rfl

end Restores

/-! ## The chunks of an execution -/

theorem joined_planChunks {plan : Plan} {payload : Bytes}
    {chunks : List Chunk} (cut : planChunks plan payload = .ok chunks) :
    Chunk.joined chunks = payload := by
  unfold planChunks at cut
  split at cut
  · exact joined_contentDefinedChunks cut
  · split at cut
    · exact joined_fixedChunks cut
    · exact joined_fixedChunks cut

/-- The puts that the execution makes if it gets that far. -/
def Execution.puts (host : Host) (execution : Execution) : List Put :=
  match execution.prepare host with
  | .error _ => []
  | .ok prepared =>
      match planChunks prepared.plan prepared.payload with
      | .error _ => []
      | .ok chunks =>
          if prepared.mode = .observe then []
          else chunkPuts execution prepared chunks

theorem Execution.puts_eq {host : Host} {execution : Execution}
    {prepared : Prepared} {chunks : List Chunk}
    (ready : execution.prepare host = .ok prepared)
    (mode : prepared.mode ≠ .observe)
    (cut : planChunks prepared.plan prepared.payload = .ok chunks) :
    execution.puts host = chunkPuts execution prepared chunks := by
  simp only [puts, ready, cut, if_neg mode]

theorem decodes_zipWith {host : Host} {state : ChunkFiles}
    {execution : Execution} {prepared : Prepared} {chunks : List Chunk}
    {rows : List StoredChunk}
    (decodes : List.Forall₂
      (fun put row => row.Decodes host state put.data)
      (chunkPuts execution prepared chunks) rows) :
    List.Forall₂ (fun segment part => segment.stored.Decodes host state part)
      (List.zipWith segmentOf chunks rows) (chunks.map Chunk.data) := by
  induction chunks generalizing rows with
  | nil => exact .nil
  | cons chunk rest ih =>
      cases decodes with
      | cons decoded later => exact .cons decoded (ih later)

/-! ## What every execution keeps -/

theorem idText_injective {host : Host}
    (fresh : Function.Injective host.uuid4) {kind : String} {i j : Nat}
    (same : host.idText kind i = host.idText kind j) : i = j := by
  apply fresh
  have texts := congrArg String.toList same
  simp only [Host.idText, String.toList_append, List.append_cancel_left_eq]
    at texts
  exact String.toList_inj.mp texts

/-- The chunks are sound, and every manifest has an identifier drawn
before. -/
structure World.Restorable (host : Host) (puts : List Put) (world : World) :
    Prop where
  sound : world.chunks.Sound host puts
  identifiers : ∀ manifestId manifest,
    world.manifests.lookup manifestId = some manifest →
      ∃ k < world.supply.nextId, manifestId = host.idText "mf" k

theorem World.restorable_empty {host : Host} {puts : List Put} {world : World}
    (noChunks : world.chunks = {}) (noManifests : world.manifests = ∅) :
    world.Restorable host puts := by
  constructor
  · rw [noChunks]
    exact ChunkFiles.sound_empty
  · intro manifestId manifest found
    rw [noManifests] at found
    cases found

/-- The later world still has what the earlier one had. -/
structure World.Extends (world later : World) : Prop where
  chunks : world.chunks.FilesKept later.chunks
  manifests : ∀ manifestId manifest,
    world.manifests.lookup manifestId = some manifest →
      later.manifests.lookup manifestId = some manifest

/-- What is new in the later world is an enforce or shadow execution's
manifest that restores its payload, or an observation. -/
def World.Wrote (host : Host) (prepared : Prepared) (world later : World) :
    Prop :=
  ∀ manifestId manifest, world.manifests.lookup manifestId = none →
    later.manifests.lookup manifestId = some manifest →
      prepared.mode ≠ .observe →
        validateIdentifier manifestId "manifest id" "mf_" = .ok manifestId ∧
          manifest.Restores host later.chunks prepared.payload

section Step

variable {host : Host} (codecs : host.CodecsRoundTrip)
variable (fresh : Function.Injective host.uuid4)
variable {puts : List Put} (collisionFree : CollisionFree puts)
variable {execution : Execution} {prepared : Prepared}
variable {world later : World}

include fresh in
/-- A new identifier is not in the store. -/
theorem Written.absent {manifest : Manifest}
    (restorable : world.Restorable host puts)
    (written : Written host execution prepared world later manifest) :
    world.manifests.lookup manifest.manifestId = none := by
  cases found : world.manifests.lookup manifest.manifestId with
  | none => rfl
  | some old =>
      obtain ⟨k, drawn, same⟩ := restorable.identifiers _ _ found
      obtain ⟨new, low, -, identifier⟩ := written.identifier
      have equal := idText_injective fresh (identifier.symm.trans same)
      omega

/-- Manifests stay and keep their identifiers when one is added. -/
theorem Written.manifests_kept {manifest : Manifest}
    (restorable : world.Restorable host puts)
    (absent : world.manifests.lookup manifest.manifestId = none)
    (written : Written host execution prepared world later manifest) :
    (∀ manifestId old, world.manifests.lookup manifestId = some old →
        later.manifests.lookup manifestId = some old) ∧
      ∀ manifestId new, later.manifests.lookup manifestId = some new →
        (∃ k < later.supply.nextId, manifestId = host.idText "mf" k) ∧
          (world.manifests.lookup manifestId = none →
            manifestId = manifest.manifestId ∧ new = manifest.reloaded) := by
  rw [written.manifests]
  constructor
  · intro manifestId old found
    rw [Dict.lookup_insert_ne]
    · exact found
    · rintro rfl
      rw [absent] at found
      cases found
  · intro manifestId new found
    rw [Dict.lookup_insert] at found
    split at found
    · rename_i same
      cases found
      obtain ⟨k, -, high, identifier⟩ := written.identifier
      exact ⟨⟨k, high, same.symm.trans identifier⟩, fun _ => ⟨same.symm, rfl⟩⟩
    · obtain ⟨k, drawn, identifier⟩ :=
        restorable.identifiers _ _ found
      refine ⟨⟨k, Nat.lt_of_lt_of_le drawn written.drawn, identifier⟩, ?_⟩
      intro missing
      rw [missing] at found
      cases found

/-- What one execution does to a restorable world. -/
structure World.Step (host : Host) (puts : List Put) (prepared : Prepared)
    (world later : World) : Prop where
  restorable : later.Restorable host puts
  kept : world.Extends later
  wrote : World.Wrote host prepared world later

/-- A step that adds no manifest. -/
theorem World.Step.of_manifests (restorable : world.Restorable host puts)
    (sound : later.chunks.Sound host puts)
    (kept : world.chunks.FilesKept later.chunks)
    (manifests : later.manifests = world.manifests)
    (drawn : world.supply.nextId ≤ later.supply.nextId) :
    World.Step host puts prepared world later := by
  constructor
  · refine ⟨sound, ?_⟩
    intro manifestId manifest found
    rw [manifests] at found
    obtain ⟨k, low, same⟩ := restorable.identifiers _ _ found
    exact ⟨k, Nat.lt_of_lt_of_le low drawn, same⟩
  · refine ⟨kept, ?_⟩
    intro manifestId manifest found
    rw [manifests]
    exact found
  · intro manifestId manifest missing found
    rw [manifests, missing] at found
    cases found

/-- A step that adds one manifest. -/
theorem World.Step.of_written {manifest : Manifest}
    (restorable : world.Restorable host puts)
    (absent : world.manifests.lookup manifest.manifestId = none)
    (sound : later.chunks.Sound host puts)
    (kept : world.chunks.FilesKept later.chunks)
    (written : Written host execution prepared world later manifest)
    (restores : prepared.mode ≠ .observe →
      manifest.Restores host later.chunks prepared.payload) :
    World.Step host puts prepared world later := by
  obtain ⟨old, all⟩ := written.manifests_kept restorable absent
  constructor
  · exact ⟨sound, fun manifestId new found => (all _ _ found).1⟩
  · exact ⟨kept, old⟩
  · intro manifestId new missing found mode
    obtain ⟨rfl, rfl⟩ := (all _ _ found).2 missing
    have stored := restores mode
    exact ⟨written.accepted, stored.hash, stored.segments⟩

include codecs fresh collisionFree in
/-- Every outcome is a step. -/
theorem Outcome.step {wrote : Option Manifest}
    (ready : execution.prepare host = .ok prepared)
    (subset : ∀ put ∈ execution.puts host, put ∈ puts)
    (restorable : world.Restorable host puts)
    (outcome : Outcome host execution prepared world later wrote) :
    World.Step host puts prepared world later := by
  have ran : ∀ {chunks : List Chunk}, prepared.mode ≠ .observe →
      planChunks prepared.plan prepared.payload = .ok chunks → _ :=
    fun mode cut => restorable.sound.ensures_puts codecs collisionFree
      fun put member => subset put (by
        rw [Execution.puts_eq ready mode cut]
        exact member)
  cases outcome with
  | unchanged quiet =>
      apply World.Step.of_manifests restorable _ _ quiet.manifests
        quiet.supply.1
      · rw [quiet.chunks]
        exact restorable.sound
      · rw [quiet.chunks]
        exact .refl _
  | observed mode chunks physical lineage written =>
      apply World.Step.of_written restorable
        (written.absent fresh restorable) _ _ written
      · exact fun enforced => absurd mode enforced
      · rw [chunks]
        exact restorable.sound
      · rw [chunks]
        exact .refl _
  | failed mode cut after manifests supply =>
      have kept := ensures_state_iff.mp ((ran mode cut).mono
        (fun _ _ done => And.intro done.1 done.2.1)
        (fun _ _ impossible => absurd impossible id))
      rw [← after] at kept
      exact World.Step.of_manifests restorable kept.1 kept.2 manifests supply.1
  | stored mode cut run physical lineage written =>
      obtain ⟨sound, kept, decodes⟩ := (ran mode cut).of_ok run
      apply World.Step.of_written restorable
        (written.absent fresh restorable) sound kept written
      intro _
      refine ⟨by rw [physical]; rfl, _, ?_, joined_planChunks cut⟩
      rw [physical]
      exact decodes_zipWith decodes

end Step

/-! ## Runs -/

/-- One execution as a step of a machine. -/
def executionStep (host : Host) (world : World) (execution : Execution) :
    Except PyException ExecutionResult × World :=
  executeExactObject host execution world

/-- A visit of a run of executions. -/
abbrev ExecutionVisit : Type :=
  Run.Visit World Execution (Except PyException ExecutionResult)

/-- The visit wrote the manifest. -/
def WroteManifest (v : ExecutionVisit) (manifestId : String) : Prop :=
  v.before.manifests.lookup manifestId = none ∧
    ∃ manifest, v.after.manifests.lookup manifestId = some manifest

/-- The manifest rehydrates to the payload of the execution, for every session
that may read it. -/
def ReadsBack (host : Host) (execution : Execution) (world : World)
    (manifestId : String) : Prop :=
  ∃ payload manifest,
    payloadToBytes host execution.workUnit.payload = .ok payload ∧
      world.manifests.lookup manifestId = some manifest ∧
      ∀ session, requireTenant session manifest.tenant = .ok () →
        rehydrateManifest host session manifestId world = (.ok payload, world)

theorem Execution.prepare_eq_ok {host : Host} {execution : Execution}
    {prepared : Prepared} (ready : execution.prepare host = .ok prepared) :
    executionMode execution.session execution.requestedMode =
        .ok prepared.mode ∧
      payloadToBytes host execution.workUnit.payload = .ok prepared.payload ∧
      evaluatePolicy execution.workUnit execution.bundle =
        .ok prepared.policy ∧
      planWorkUnit host execution.workUnit prepared.mode execution.bundle
        (some prepared.policy) = .ok prepared.plan := by
  unfold prepare at ready
  obtain ⟨mode, modeRun, ready⟩ := except_bind_eq_ok_iff.mp ready
  obtain ⟨payload, payloadRun, ready⟩ := except_bind_eq_ok_iff.mp ready
  obtain ⟨policy, policyRun, ready⟩ := except_bind_eq_ok_iff.mp ready
  obtain ⟨plan, planRun, ready⟩ := except_bind_eq_ok_iff.mp ready
  cases ready
  exact ⟨modeRun, payloadRun, policyRun, planRun⟩

section Runs

variable {host : Host} (codecs : host.CodecsRoundTrip)
variable (fresh : Function.Injective host.uuid4)
variable {executions : List Execution}
variable (collisionFree : CollisionFree
  (executions.flatMap (Execution.puts host)))

include codecs fresh collisionFree

/-- Each execution of the run is a step, or is refused and changes nothing. -/
theorem executionStep_cases {world : World} {execution : Execution}
    (member : execution ∈ executions)
    (restorable : world.Restorable host
      (executions.flatMap (Execution.puts host))) :
    (executionStep host world execution).2 = world ∨
      ∃ prepared, execution.prepare host = .ok prepared ∧
        World.Step host (executions.flatMap (Execution.puts host)) prepared
          world (executionStep host world execution).2 := by
  cases ready : execution.prepare host with
  | error error =>
      rw [executionStep, execute_of_unprepared host ready]
      exact .inl rfl
  | ok prepared =>
      refine .inr ⟨prepared, rfl, ?_⟩
      have step : ∀ {wrote : Option Manifest} {later : World},
          Outcome host execution prepared world later wrote →
            World.Step host (executions.flatMap (Execution.puts host))
              prepared world later := fun outcome =>
        outcome.step codecs fresh collisionFree ready
          (fun put putMember => List.mem_flatMap.mpr
            ⟨execution, member, putMember⟩) restorable
      apply ensures_state_iff.mp
      apply (ensures_executeExactObject host ready world).mono
      · rintro result later ⟨manifest, outcome, -⟩
        exact step outcome
      · rintro error later ⟨wrote, outcome⟩
        exact step outcome

theorem restorable_executionStep {world : World} {execution : Execution}
    (member : execution ∈ executions)
    (restorable : world.Restorable host
      (executions.flatMap (Execution.puts host))) :
    (executionStep host world execution).2.Restorable host
      (executions.flatMap (Execution.puts host)) := by
  rcases executionStep_cases codecs fresh collisionFree member restorable with
    same | ⟨prepared, -, step⟩
  · rw [same]
    exact restorable
  · exact step.restorable

/-- A manifest that restores stays in the store and keeps restoring. -/
theorem restores_executionStep {world : World} {execution : Execution}
    (member : execution ∈ executions)
    (restorable : world.Restorable host
      (executions.flatMap (Execution.puts host)))
    {manifestId : String} {manifest : Manifest} {payload : Bytes}
    (holds : world.manifests.lookup manifestId = some manifest ∧
      manifest.Restores host world.chunks payload) :
    (executionStep host world execution).2.manifests.lookup manifestId =
        some manifest ∧
      manifest.Restores host (executionStep host world execution).2.chunks
        payload := by
  rcases executionStep_cases codecs fresh collisionFree member restorable with
    same | ⟨prepared, -, step⟩
  · rw [same]
    exact holds
  · exact ⟨step.kept.manifests _ _ holds.1, holds.2.kept step.kept.chunks⟩

variable {start : World} (noChunks : start.chunks = {})
variable (noManifests : start.manifests = ∅)
variable {v : Run.Visit World Execution (Except PyException ExecutionResult)}
variable (member : v ∈ Run.visits (executionStep host) start executions)

include noChunks noManifests member

/-- From empty stores, every execution of the run starts in a restorable
world. -/
theorem restorable_visit :
    v.before.Restorable host
      (executions.flatMap (Execution.puts host)) := by
  apply And.left
  apply Run.visits_induction (World.restorable_empty noChunks noManifests) ?_ v
    member
  exact fun world execution executionMember before =>
    restorable_executionStep codecs fresh collisionFree executionMember before

/-- What holds after an execution, and what every execution from a restorable
world keeps, holds at the end. -/
theorem holds_final {holds : World → Prop}
    (keeps : ∀ world, ∀ execution ∈ executions,
      world.Restorable host (executions.flatMap (Execution.puts host)) →
        holds world → holds (executionStep host world execution).2)
    (reached : holds v.after) :
    holds (Run.final (executionStep host) start executions) := by
  apply Run.final_of_visit (World.restorable_empty noChunks noManifests) ?_
    keeps member reached
  exact fun world execution executionMember before =>
    restorable_executionStep codecs fresh collisionFree executionMember before

end Runs

/-- Each manifest that an enforce or shadow execution of the run wrote
rehydrates at the end to the payload of that execution, and an execution that
returns wrote the manifest that it names. -/
def RoundTrips (host : Host) (start : World) (executions : List Execution) :
    Prop :=
  ∀ v ∈ Run.visits (executionStep host) start executions,
    executionMode v.input.session v.input.requestedMode ≠ .ok .observe →
      (∀ manifestId, WroteManifest v manifestId →
        ReadsBack host v.input
          (Run.final (executionStep host) start executions) manifestId) ∧
        ∀ result, v.output = .ok result → WroteManifest v result.manifestId

/-- Every run of executions from an empty chunk and manifest store round
trips. -/
theorem exact_roundTrip {host : Host} (codecs : host.CodecsRoundTrip)
    (fresh : Function.Injective host.uuid4) {executions : List Execution}
    (collisionFree : CollisionFree
      (executions.flatMap (Execution.puts host)))
    {start : World} (noChunks : start.chunks = {})
    (noManifests : start.manifests = ∅) :
    RoundTrips host start executions := by
  intro v member enforced
  have before := restorable_visit codecs fresh collisionFree noChunks
    noManifests member
  obtain ⟨input, visited⟩ := Run.visit_of_mem member
  have after : v.after = (executionStep host v.before v.input).2 :=
    congrArg Run.Visit.after visited
  have output : v.output = (executionStep host v.before v.input).1 :=
    congrArg Run.Visit.output visited
  rcases refused : v.input.prepare host with error | prepared
  · have run := execute_of_unprepared host refused v.before
    constructor
    · rintro manifestId ⟨missing, manifest, found⟩
      rw [after, executionStep, run, missing] at found
      cases found
    · intro result returned
      rw [output, executionStep, run] at returned
      cases returned
  · obtain ⟨modeRun, payloadRun, -⟩ := Execution.prepare_eq_ok refused
    have mode : prepared.mode ≠ .observe := by
      intro observed
      rw [modeRun, observed] at enforced
      exact enforced rfl
    constructor
    · rintro manifestId ⟨missing, manifest, found⟩
      have wrote : validateIdentifier manifestId "manifest id" "mf_" =
            .ok manifestId ∧
          manifest.Restores host v.after.chunks prepared.payload := by
        rcases executionStep_cases codecs fresh collisionFree input before with
          same | ⟨other, ready, step⟩
        · rw [after, same, missing] at found
          cases found
        · rw [refused] at ready
          cases ready
          rw [after] at found ⊢
          exact step.wrote manifestId manifest missing found mode
      let holds := fun world : World =>
        world.manifests.lookup manifestId = some manifest ∧
          manifest.Restores host world.chunks prepared.payload
      have atEnd : holds (Run.final (executionStep host) start executions) :=
        holds_final codecs fresh collisionFree noChunks noManifests member
          (fun world execution executionMember restorable holds =>
            restores_executionStep codecs fresh collisionFree executionMember
              restorable holds) ⟨found, wrote.2⟩
      exact ⟨prepared.payload, manifest, payloadRun, atEnd.1,
        fun session admitted => rehydrateManifest_of_restores wrote.1 atEnd.1
          admitted atEnd.2⟩
    · intro result returned
      rw [output] at returned
      obtain ⟨manifest, outcome, same⟩ :=
        (ensures_executeExactObject host refused v.before).of_fst_ok returned
      have written := outcome.written
      rw [same, WroteManifest, after]
      refine ⟨written.absent fresh before, manifest.reloaded, ?_⟩
      exact (congrArg (fun files => Dict.lookup files _)
        written.manifests).trans (Dict.lookup_insert_self _ _ _)

/-- A file of two bytes, in the given mode. -/
def sampleExecution (tenant nameSpace mode : String) : Execution where
  session := {}
  workUnit :=
    { kind := .file, tenant, nameSpace
      logicalRef := "file://greeting"
      payload := .bytes [104, 105]
      traceId := "tr_1", id := "wu_1"
      createdAt := "2024-01-01T00:00:00+00:00" }
  requestedMode := some mode

def sampleExecutions : List Execution :=
  [sampleExecution "acme" "default" "enforce",
    sampleExecution "acme" "default" "shadow",
    sampleExecution "initech" "default" "enforce"]

theorem collisionFree_sampleExecutions :
    CollisionFree (sampleExecutions.flatMap (Execution.puts Host.counting)) := by
  have sameData : ∀ put ∈ sampleExecutions.flatMap
      (Execution.puts Host.counting), put.data = [104, 105] := by
    decide +kernel
  constructor
  · intro put member other otherMember _
    exact (sameData put member).trans (sameData other otherMember).symm
  · decide +kernel
  · decide +kernel

theorem exact_roundTrip_sample :
    RoundTrips Host.counting {} sampleExecutions :=
  exact_roundTrip Host.counting_codecs Host.counting_fresh
    collisionFree_sampleExecutions rfl rfl

end Urp
