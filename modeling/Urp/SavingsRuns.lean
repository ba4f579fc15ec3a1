import Urp.SavingsReports
import Urp.ShadowIsolation

/-!
# Savings over runs

While no shadow execution stores anything smaller than its payload, every
manifest of a run adds up, and no report overstates what was saved.
-/

namespace Urp

open Python Program

/-- If the execution is a shadow one, each of its chunks is stored whole. -/
def Execution.ShadowsWhole (host : Host) (execution : Execution)
    (world : World) : Prop :=
  execution.HasMode .shadow → ∀ put ∈ execution.puts host,
    put.data.length ≤ put.sizeIn host world.chunks

/-- Every chunk has the size of its file, and every manifest adds up. -/
structure World.Accounted (host : Host) (puts : List Put) (world : World) :
    Prop where
  restorable : world.Restorable host puts
  measured : world.chunks.Measured host puts
  addsUp : ∀ manifestId manifest,
    world.manifests.lookup manifestId = some manifest →
      manifest.AddsUp host world.chunks

/-! ## New manifests -/

section New

variable {host : Host} {state before : ChunkFiles}
variable {execution : Execution} {prepared : Prepared}

/-- What the rows of the execution's puts are. -/
def RowsOccupy (host : Host) (before state : ChunkFiles)
    (puts : List Put) (rows : List StoredChunk) : Prop :=
  List.Forall₂ (fun put row => row.Occupies host state put.data ∧
    row.storedSize = put.sizeIn host before) puts rows

theorem compress_of_mem_chunkPuts {chunks : List Chunk} {put : Put}
    (member : put ∈ chunkPuts execution prepared chunks) :
    put.compress = decide ("zstd" ∈ prepared.plan.actionNames) := by
  obtain ⟨chunk, -, rfl⟩ := List.mem_map.mp member
  rfl

theorem storedSize_le {chunks : List Chunk} {rows : List StoredChunk}
    (occupy : RowsOccupy host before state
      (chunkPuts execution prepared chunks) rows) :
    storedSize (List.zipWith segmentOf chunks rows) ≤
      (Chunk.joined chunks).length := by
  induction chunks generalizing rows with
  | nil => exact Nat.zero_le _
  | cons chunk rest ih =>
      cases occupy with
      | cons head tail =>
          have others := ih tail
          have here := head.1.1
          simp only [storedSize, Chunk.joined, List.zipWith_cons_cons,
            List.map_cons, List.sum_cons, List.flatMap_cons,
            List.length_append] at others ⊢
          exact Nat.add_le_add here others

theorem le_storedSize {chunks : List Chunk} {rows : List StoredChunk}
    (occupy : RowsOccupy host before state
      (chunkPuts execution prepared chunks) rows)
    (whole : ∀ put ∈ chunkPuts execution prepared chunks,
      put.data.length ≤ put.sizeIn host before) :
    (Chunk.joined chunks).length ≤
      storedSize (List.zipWith segmentOf chunks rows) := by
  induction chunks generalizing rows with
  | nil => exact Nat.zero_le _
  | cons chunk rest ih =>
      cases occupy with
      | cons head tail =>
          have others := ih tail fun put member =>
            whole put (List.mem_cons_of_mem _ member)
          have here := whole _ List.mem_cons_self
          rw [← head.2] at here
          simp only [storedSize, Chunk.joined, List.zipWith_cons_cons,
            List.map_cons, List.sum_cons, List.flatMap_cons,
            List.length_append] at others ⊢
          exact Nat.add_le_add here others

theorem stands_zipWith {chunks : List Chunk} {rows : List StoredChunk}
    (occupy : RowsOccupy host before state
      (chunkPuts execution prepared chunks) rows) :
    ∀ segment ∈ List.zipWith segmentOf chunks rows,
      segment.Stands host state := by
  induction chunks generalizing rows with
  | nil => intro segment member; cases member
  | cons chunk rest ih =>
      cases occupy with
      | cons head tail =>
          intro segment member
          rcases List.mem_cons.mp member with rfl | later
          · obtain ⟨path, raw, resolved, found, length⟩ := head.1.2
            exact ⟨path, resolved, raw, found, length⟩
          · exact ih tail segment later

/-- What the telemetry of an execution says is what reads back. -/
theorem lookup_executionTelemetry {mode : Mode}
    {bytesIn bytesStored bytesAvoided chunkCount dedupeHits : Nat} :
    let telemetry := (executionTelemetry mode bytesIn bytesStored bytesAvoided
      chunkCount dedupeHits).reloaded
    telemetry.lookup "mode" = some (.str mode.value) ∧
      telemetry.lookup "bytes_in" = some (.int bytesIn) ∧
      telemetry.lookup "bytes_stored" = some (.int bytesStored) ∧
      telemetry.lookup "bytes_avoided" = some (.int bytesAvoided) := by
  have found : ∀ key value, (key, value) ∈
      [("mode", Value.str mode.value), ("bytes_in", .int bytesIn),
        ("bytes_stored", .int bytesStored), ("bytes_avoided", .int bytesAvoided),
        ("chunk_count", .int chunkCount), ("dedupe_hits", .int dedupeHits)] →
      (executionTelemetry mode bytesIn bytesStored bytesAvoided chunkCount
        dedupeHits).reloaded.lookup key = some value.withText.sorted := by
    intro key value member
    have written : (executionTelemetry mode bytesIn bytesStored bytesAvoided
        chunkCount dedupeHits).lookup key = some value :=
      (Dict.lookup_ofList (by simp)).mpr member
    rw [Object.lookup_reloaded, written]
    rfl
  exact ⟨found "mode" (.str mode.value) (by simp),
    found "bytes_in" (.int bytesIn) (by simp),
    found "bytes_stored" (.int bytesStored) (by simp),
    found "bytes_avoided" (.int bytesAvoided) (by simp)⟩

theorem enforced_iff {manifest : Manifest} {mode : Mode}
    (found : manifest.telemetry.lookup "mode" = some (.str mode.value)) :
    manifest.enforced = true ↔ mode = .enforce := by
  have text : (manifest.telemetry.get "mode").string? = some mode.value := by
    unfold Object.get Object.getD
    rw [found]
    rfl
  unfold Manifest.enforced
  rw [text]
  cases mode <;> decide

/-- A manifest with the telemetry of an execution adds up when what it avoided
is right. -/
theorem addsUp_of_telemetry {manifest : Manifest} {mode : Mode}
    {bytesIn bytesStored bytesAvoided chunkCount dedupeHits : Nat}
    (telemetry : manifest.telemetry = (executionTelemetry mode bytesIn
      bytesStored bytesAvoided chunkCount dedupeHits).reloaded)
    (avoided : bytesAvoided = if mode = .enforce then
      manifest.physical.logicalSize - storedSize manifest.physical.segments
      else 0)
    (sizes : mode = .enforce →
      storedSize manifest.physical.segments ≤ manifest.physical.logicalSize)
    (stands : mode = .enforce →
      ∀ segment ∈ manifest.physical.segments, segment.Stands host state) :
    manifest.AddsUp host state := by
  obtain ⟨modeIs, bytesInIs, bytesStoredIs, bytesAvoidedIs⟩ :=
    @lookup_executionTelemetry mode bytesIn bytesStored bytesAvoided chunkCount
      dedupeHits
  rw [← telemetry] at modeIs bytesInIs bytesStoredIs bytesAvoidedIs
  have enforced := enforced_iff modeIs
  refine ⟨⟨_, bytesInIs⟩, ⟨_, bytesStoredIs⟩, ?_, ?_, ?_⟩
  · rw [bytesAvoidedIs, avoided]
    simp only [enforced]
  · exact fun flag => sizes (enforced.mp flag)
  · exact fun flag => stands (enforced.mp flag)

theorem addsUp_observed (manifestId createdAt : String) :
    (observedManifest execution prepared manifestId createdAt).reloaded.AddsUp
      host state := by
  have telemetry : (observedManifest execution prepared manifestId
      createdAt).reloaded.telemetry = (executionTelemetry .observe
        prepared.payload.length 0 0 0 0).reloaded := rfl
  apply addsUp_of_telemetry telemetry
  · rfl
  · intro enforce
    cases enforce
  · intro enforce
    cases enforce

theorem addsUp_stored {chunks : List Chunk} {rows : List StoredChunk}
    {verification : VerificationResult}
    (cut : planChunks prepared.plan prepared.payload = .ok chunks)
    (occupy : RowsOccupy host before state
      (chunkPuts execution prepared chunks) rows)
    (whole : prepared.mode ≠ .enforce →
      ∀ put ∈ chunkPuts execution prepared chunks,
        put.data.length ≤ put.sizeIn host before)
    (manifestId createdAt : String) :
    (storedManifest execution prepared (List.zipWith segmentOf chunks rows)
      verification manifestId createdAt).reloaded.AddsUp host state := by
  let segments := List.zipWith segmentOf chunks rows
  have telemetry : (storedManifest execution prepared segments verification
      manifestId createdAt).reloaded.telemetry =
        (storedTelemetry prepared segments).reloaded := rfl
  have joined := joined_planChunks cut
  apply addsUp_of_telemetry telemetry
  · split
    · rfl
    · next other =>
        have least := le_storedSize occupy (whole other)
        rw [joined] at least
        exact Nat.sub_eq_zero_of_le least
  · intro _
    have most := storedSize_le occupy
    rw [joined] at most
    exact most
  · exact fun _ => stands_zipWith occupy

end New

/-! ## One execution -/

section Step

variable {host : Host} (codecs : host.CodecsRoundTrip)
variable (fresh : Function.Injective host.uuid4)
variable {puts : List Put} (collisionFree : CollisionFree puts)
variable {execution : Execution} {prepared : Prepared} {world later : World}

/-- A new manifest of an execution that stored these segments is a stored
one. -/
theorem exists_storedManifest {segments : List Segment} {manifest : Manifest}
    (mode : prepared.mode ≠ .observe)
    (putsOnly : world.PutsOnly (execution.Makes prepared) later)
    (listed : manifest.physical.segments = segments)
    (written : Written host execution prepared world later manifest)
    (absent : world.manifests.lookup manifest.manifestId = none) :
    ∃ verification manifestId createdAt, manifest.reloaded =
      (storedManifest execution prepared segments verification manifestId
        createdAt).reloaded := by
  obtain ⟨made, makes, -, same⟩ := putsOnly.of_new absent written.found
  cases makes with
  | observed observes _ _ => exact absurd observes mode
  | stored _ others verification manifestId createdAt =>
      have physical := congrArg Manifest.physical same
      rw [Manifest.physical_reloaded, Manifest.physical_reloaded] at physical
      rw [physical] at listed
      obtain rfl : others = segments := listed
      exact ⟨verification, manifestId, createdAt, same⟩

theorem exists_observedManifest {manifest : Manifest}
    (mode : prepared.mode = .observe)
    (putsOnly : world.PutsOnly (execution.Makes prepared) later)
    (written : Written host execution prepared world later manifest)
    (absent : world.manifests.lookup manifest.manifestId = none) :
    ∃ manifestId createdAt, manifest.reloaded =
      (observedManifest execution prepared manifestId createdAt).reloaded := by
  obtain ⟨made, makes, -, same⟩ := putsOnly.of_new absent written.found
  cases makes with
  | observed _ manifestId createdAt => exact ⟨manifestId, createdAt, same⟩
  | stored other _ _ _ _ => exact absurd mode other

/-- Where nothing but one manifest that adds up is new, every manifest adds
up. -/
theorem addsUp_insert {manifest : Manifest}
    (accounted : world.Accounted host puts)
    (kept : world.chunks.FilesKept later.chunks)
    (manifests : later.manifests =
      world.manifests.insert manifest.manifestId manifest.reloaded)
    (addsUp : manifest.reloaded.AddsUp host later.chunks) :
    ∀ manifestId manifest, later.manifests.lookup manifestId = some manifest →
      manifest.AddsUp host later.chunks := by
  intro manifestId other found
  rw [manifests, Dict.lookup_insert] at found
  split at found
  · cases found
    exact addsUp
  · exact (accounted.addsUp _ _ found).kept kept

include codecs fresh collisionFree in
/-- Every outcome keeps the accounts, if a shadow execution stores its chunks
whole. -/
theorem Outcome.accounted {wrote : Option Manifest}
    (ready : execution.prepare host = .ok prepared)
    (subset : ∀ put ∈ execution.puts host, put ∈ puts)
    (whole : execution.ShadowsWhole host world)
    (putsOnly : world.PutsOnly (execution.Makes prepared) later)
    (accounted : world.Accounted host puts)
    (outcome : Outcome host execution prepared world later wrote) :
    later.Accounted host puts := by
  have restorable := (outcome.step codecs fresh collisionFree ready subset
    accounted.restorable).restorable
  have ran : ∀ {chunks : List Chunk}, prepared.mode ≠ .observe →
      planChunks prepared.plan prepared.payload = .ok chunks → _ :=
    fun {chunks} mode cut => accounted.measured.ensures_puts codecs collisionFree
      (fun put member => subset put (by
        rw [Execution.puts_eq ready mode cut]
        exact member))
      (fun put member => (compress_of_mem_chunkPuts member :
        put.compress = decide ("zstd" ∈ prepared.plan.actionNames)))
  cases outcome with
  | unchanged quiet =>
      refine ⟨restorable, ?_, ?_⟩
      · rw [quiet.chunks]
        exact accounted.measured
      · rw [quiet.chunks, quiet.manifests]
        exact accounted.addsUp
  | observed mode chunks physical lineage written =>
      obtain ⟨manifestId, createdAt, same⟩ := exists_observedManifest mode
        putsOnly written (written.absent fresh accounted.restorable)
      refine ⟨restorable, ?_, addsUp_insert accounted ?_ written.manifests ?_⟩
      · rw [chunks]
        exact accounted.measured
      · rw [chunks]
        exact .refl _
      · rw [same]
        exact addsUp_observed manifestId createdAt
  | failed mode cut after manifests supply =>
      have kept := ensures_state_iff.mp ((ran mode cut).mono
        (fun _ _ done => And.intro done.1 done.2.1)
        (fun _ _ impossible => absurd impossible id))
      rw [← after] at kept
      refine ⟨restorable, kept.1, ?_⟩
      intro manifestId manifest found
      rw [manifests] at found
      exact (accounted.addsUp _ _ found).kept kept.2
  | stored mode cut run physical lineage written =>
      obtain ⟨measured, kept, occupy⟩ := (ran mode cut).of_ok run
      obtain ⟨verification, manifestId, createdAt, same⟩ :=
        exists_storedManifest mode putsOnly (congrArg Physical.segments physical)
          written (written.absent fresh accounted.restorable)
      refine ⟨restorable, measured,
        addsUp_insert accounted kept written.manifests ?_⟩
      rw [same]
      apply addsUp_stored cut occupy
      intro other put member
      have shadow : prepared.mode = .shadow := by
        cases mode' : prepared.mode with
        | observe => exact absurd mode' mode
        | shadow => rfl
        | enforce => exact absurd mode' other
      have hasMode : execution.HasMode .shadow := by
        rw [← shadow]
        exact (Execution.prepare_eq_ok ready).1
      apply whole hasMode put
      rw [Execution.puts_eq ready mode cut]
      exact member

end Step

/-! ## Runs -/

/-- No report overstates what was saved, in any state that the run reaches. -/
def SavingsHold (host : Host) (start : World) (executions : List Execution) :
    Prop :=
  ∀ v ∈ Run.visits (executionStep host) start executions,
    NeverOverstates host v.before ∧ NeverOverstates host v.after

section Runs

variable {host : Host} (codecs : host.CodecsRoundTrip)
variable (fresh : Function.Injective host.uuid4)
variable {executions : List Execution}
variable (collisionFree : CollisionFree
  (executions.flatMap (Execution.puts host)))

include codecs fresh collisionFree

theorem accounted_executionStep {world : World} {execution : Execution}
    (member : execution ∈ executions)
    (whole : execution.ShadowsWhole host world)
    (accounted : world.Accounted host
      (executions.flatMap (Execution.puts host))) :
    (executionStep host world execution).2.Accounted host
      (executions.flatMap (Execution.puts host)) := by
  cases ready : execution.prepare host with
  | error error =>
      rw [executionStep, execute_of_unprepared host ready]
      exact accounted
  | ok prepared =>
      have putsOnly :=
        (putsOnly_executeExactObject execution prepared host ready).ensures world
      have step : ∀ {wrote : Option Manifest} {later : World},
          world.PutsOnly (execution.Makes prepared) later →
            Outcome host execution prepared world later wrote →
              later.Accounted host
                (executions.flatMap (Execution.puts host)) :=
        fun putsOnly outcome =>
          outcome.accounted codecs fresh collisionFree ready
            (fun put putMember => List.mem_flatMap.mpr
              ⟨execution, member, putMember⟩) whole putsOnly accounted
      apply ensures_state_iff.mp
      apply (putsOnly.and
        (ensures_executeExactObject host ready world)).mono
      · rintro result later ⟨puts, manifest, outcome, -⟩
        exact step puts outcome
      · rintro error later ⟨puts, wrote, outcome⟩
        exact step puts outcome

/-- In a run from empty stores whose shadow executions store their chunks
whole, no report ever overstates what was saved. -/
theorem savingsHold_of_shadowsWhole {start : World}
    (noChunks : start.chunks = {}) (noManifests : start.manifests = ∅)
    (whole : ∀ v ∈ Run.visits (executionStep host) start executions,
      v.input.ShadowsWhole host v.before) :
    SavingsHold host start executions := by
  have accounted : start.Accounted host
      (executions.flatMap (Execution.puts host)) := by
    refine ⟨World.restorable_empty noChunks noManifests, ?_, ?_⟩
    · rw [noChunks]
      exact ChunkFiles.measured_empty
    · intro manifestId manifest found
      rw [noManifests] at found
      cases found
  have guarded : ∀ v ∈ Run.visits (executionStep host) start executions,
      v.input ∈ executions ∧ v.input.ShadowsWhole host v.before :=
    fun v member => ⟨(Run.visit_of_mem member).1, whole v member⟩
  intro v member
  have both := @Run.visits_guarded _ _ _ _ _
    (fun world execution =>
      execution ∈ executions ∧ execution.ShadowsWhole host world) _ _ accounted
    (fun world execution guard before =>
      accounted_executionStep codecs fresh collisionFree guard.1 guard.2 before)
    guarded v member
  exact ⟨neverOverstates_of_addsUp both.1.addsUp,
    neverOverstates_of_addsUp both.2.addsUp⟩

end Runs

/-- The counting host compresses nothing. -/
theorem Put.sizeIn_counting (put : Put) :
    put.sizeIn Host.counting {} = put.data.length := by
  change (LocalChunkStore.encode Host.counting put.data put.compress).1.length = _
  unfold LocalChunkStore.encode
  simp only
  split
  · rename_i useful
    have size : (compressed Host.counting put.data).2.length =
        put.data.length + 2 := rfl
    omega
  · rfl

def mixedExecutions : List Execution :=
  [sampleExecution "acme" "default" "shadow",
    sampleExecution "acme" "default" "enforce"]

theorem savingsHold_of_shadowsWhole_sample :
    SavingsHold Host.counting {} mixedExecutions := by
  have collisionFree : CollisionFree
      (mixedExecutions.flatMap (Execution.puts Host.counting)) :=
    collisionFree_sampleExecutions.subset fun put member => by
      obtain ⟨execution, listed, own⟩ := List.mem_flatMap.mp member
      refine List.mem_flatMap.mpr ⟨execution, ?_, own⟩
      rcases List.mem_cons.mp listed with rfl | listed
      · exact List.mem_cons_of_mem _ List.mem_cons_self
      · rcases List.mem_cons.mp listed with rfl | none
        · exact List.mem_cons_self
        · cases none
  apply savingsHold_of_shadowsWhole Host.counting_codecs Host.counting_fresh
    collisionFree rfl rfl
  intro v member shadow
  rcases List.mem_cons.mp member with rfl | later
  · exact fun put _ => Nat.le_of_eq (put.sizeIn_counting).symm
  · rcases List.mem_cons.mp later with rfl | none
    · have enforced : (sampleExecution "acme" "default" "enforce").HasMode
          .enforce := executionMode_enforce {}
      cases enforced.symm.trans shadow
    · cases none

/-! ## A shadow execution that saves -/

section Overstated

variable {host : Host}

/-- The report's avoided bytes are those of the manifests' telemetry. -/
theorem savingsReport_avoided {session : Session} {tenant : Option String}
    {world : World} {manifests : List Manifest} {report : SavingsReport}
    {avoided : Int}
    (listed : reportedManifests session tenant world = (.ok manifests, world))
    (summed : telemetrySum host "bytes_avoided"
      (fun manifest => manifest.physical.logicalSize -
        manifest.physical.storedSize) manifests = .ok avoided)
    (reported : (savingsReport host session tenant world).1 = .ok report) :
    report.bytesAvoided = avoided := by
  unfold savingsReport at reported
  rw [bind_ok listed] at reported
  cases bytesIn : telemetrySum host "bytes_in"
      (fun manifest => manifest.physical.logicalSize) manifests with
  | error error =>
      rw [bytesIn] at reported
      cases reported
  | ok size =>
      rw [bytesIn, lift_ok_bind] at reported
      cases bytesStored : telemetrySum host "bytes_stored"
          (fun manifest => manifest.physical.storedSize) manifests with
      | error error =>
          rw [bytesStored] at reported
          cases reported
      | ok stored =>
          rw [bytesStored, lift_ok_bind, summed, lift_ok_bind] at reported
          cases reported
          rfl

theorem reportedManifests_all (world : World) :
    reportedManifests {} none world =
      (.ok (sortedFiles world.manifests), world) := rfl

/-- A report on one manifest that is not enforced but avoided bytes
overstates. -/
theorem overstates_of_avoided {world : World} {manifest : Manifest}
    {avoided : Nat} (positive : 0 < avoided)
    (present : ∃ manifestId, world.manifests.lookup manifestId = some manifest)
    (only : ∀ manifestId other,
      world.manifests.lookup manifestId = some other → other = manifest)
    (idle : manifest.enforced = false)
    (lookup : manifest.telemetry.lookup "bytes_avoided" = some (.int avoided)) :
    ¬ NeverOverstates host world := by
  intro never
  obtain ⟨manifests, report, listed, reported, bound⟩ := never {} none
  rw [reportedManifests_all] at listed
  obtain rfl : sortedFiles world.manifests = manifests := Except.ok.inj listed
  have same : ∀ other ∈ sortedFiles world.manifests, other = manifest := by
    intro other member
    obtain ⟨manifestId, found⟩ := mem_sortedFiles.mp member
    exact only manifestId other found
  have summed := @telemetrySum_of_lookup host (sortedFiles world.manifests)
    "bytes_avoided" (fun manifest => manifest.physical.logicalSize -
      manifest.physical.storedSize) (fun _ => avoided)
    fun other member => by
      rw [same other member]
      exact lookup
  have total := savingsReport_avoided (reportedManifests_all world) summed
    reported
  have none : (sortedFiles world.manifests).filter Manifest.enforced = [] := by
    rw [List.filter_eq_nil_iff]
    intro other member
    rw [same other member, idle]
    exact Bool.false_ne_true
  have least : avoided ≤
      ((sortedFiles world.manifests).map fun _ => avoided).sum := by
    apply List.single_le_sum (fun _ _ => Nat.zero_le _)
    exact List.mem_map.mpr ⟨manifest, mem_sortedFiles.mpr present, rfl⟩
  rw [none, total] at bound
  simp only [List.map_nil, List.sum_nil, List.flatMap_nil] at bound
  omega

variable {execution : Execution} {prepared : Prepared} {chunk : Chunk}

/-- In an empty world, a shadow execution of one chunk that is stored smaller
than the payload makes the report overstate. -/
theorem Execution.Admissible.overstates (reliable : host.Reliable)
    (codecs : host.CodecsRoundTrip)
    (admissible : execution.Admissible host prepared [chunk])
    (shadow : prepared.mode = .shadow)
    (smaller : ((onlyPut execution prepared chunk).newRow host).storedSize <
      prepared.payload.length)
    (identifier : ∀ k ≤ 4,
      validateIdentifier (host.idText "mf" k) "manifest id" "mf_" =
        .ok (host.idText "mf" k)) :
    ¬ SavingsHold host {} [execution] := by
  intro hold
  have never := (hold _ List.mem_cons_self).2
  have mode : prepared.mode ≠ .observe := by
    rw [shadow]
    exact nofun
  obtain ⟨result, later, run, -, -, manifest, outcome, -⟩ :=
    admissible.returns reliable codecs admissible.collisionFree
      (fun _ member => member) World.healthy_empty ChunkFiles.sound_empty
      identifier
  have putsOnly : World.PutsOnly (execution.Makes prepared) {} later := by
    have within := putsOnly_executeExactObject execution prepared host
      admissible.ready {}
    rw [run] at within
    exact within
  have one := outcome.storedOne mode admissible.cut (run_of_absent host rfl)
  obtain ⟨verification, manifestId, createdAt, same⟩ :=
    exists_storedManifest mode putsOnly one.segments one.written rfl
  have stepped : (Run.visit (executionStep host) {} execution).after = later :=
    congrArg Prod.snd run
  rw [stepped] at never
  obtain ⟨telemetryMode, -, -, avoided⟩ :=
    @lookup_executionTelemetry prepared.mode prepared.payload.length
      (storedSize [segmentOf chunk
        ((onlyPut execution prepared chunk).newRow host)]) _ _ _
  have telemetry : manifest.reloaded.telemetry = (executionTelemetry
      prepared.mode prepared.payload.length (storedSize [segmentOf chunk
        ((onlyPut execution prepared chunk).newRow host)]) _ _ _).reloaded :=
    congrArg Manifest.telemetry same
  rw [← telemetry] at telemetryMode avoided
  have idle : manifest.reloaded.enforced = false := by
    apply Bool.eq_false_iff.mpr
    intro enforced
    have mode := (enforced_iff telemetryMode).mp enforced
    rw [shadow] at mode
    cases mode
  apply overstates_of_avoided (Nat.sub_pos_of_lt smaller)
    ⟨_, one.written.found⟩ ?_ idle ?_ never
  · intro id other found
    rw [one.written.manifests, Dict.lookup_insert] at found
    split at found
    · exact (Option.some.inj found).symm
    · cases found
  · exact avoided

end Overstated

/-- `zlib.compress(bytes(16), 3)`. -/
def packedZeros : Bytes :=
  [0x78, 0x5e, 0x63, 0x60, 0x40, 0x05, 0x00, 0x00, 0x10, 0x00, 0x01]

def sixteenZeros : Bytes := List.replicate 16 0

/-- The counting host, with a `zlib` that packs these zeros. -/
def Host.packing : Host :=
  { Host.counting with
    zlib := ⟨fun data =>
        if data = sixteenZeros then packedZeros
        else 0x78 :: 0x5e :: 0x01 :: data,
      fun data =>
        if data = packedZeros then some sixteenZeros
        else match data with
          | 0x78 :: 0x5e :: 0x01 :: data => some data
          | _ => none⟩ }

theorem Host.packing_codecs : Host.packing.CodecsRoundTrip := by
  constructor
  · intro data
    by_cases zeros : data = sixteenZeros
    · rw [zeros]
      rfl
    · simp [packing, zeros, packedZeros]
  · rintro codec ⟨⟩

def zerosExecution : Execution where
  session := {}
  workUnit :=
    { kind := .file, tenant := "acme", nameSpace := "default"
      logicalRef := "file://zeros"
      payload := .bytes sixteenZeros
      traceId := "tr_1", id := "wu_1"
      createdAt := "2024-01-01T00:00:00+00:00" }
  requestedMode := some "shadow"

/-- The execution is a shadow one whose row is smaller than the payload. -/
def packs (prepared : Prepared) : Bool :=
  prepared.mode == .shadow && decide ("zstd" ∈ prepared.plan.actionNames) &&
    decide (prepared.payload = sixteenZeros)

theorem zerosExecution_overstates :
    ¬ SavingsHold Host.packing {} [zerosExecution] := by
  have passes : zerosExecution.passesWith Host.packing packs = true := by
    decide +kernel
  obtain ⟨prepared, chunk, admissible, checked⟩ :=
    Execution.admissible_of_passes passes
  simp only [packs, Bool.and_eq_true, beq_iff_eq, decide_eq_true_eq] at checked
  obtain ⟨⟨shadow, compressed⟩, payload⟩ := checked
  have data := data_of_payload admissible.cut payload
  have reliable : Host.packing.Reliable :=
    ⟨Host.counting_reliable.dateTime, Host.counting_reliable.nonempty,
      Host.counting_reliable.alphanumeric, Host.counting_reliable.scores⟩
  apply admissible.overstates reliable Host.packing_codecs shadow ?_
    fun k bound => Host.counting_identifier
      (Nat.lt_of_le_of_lt bound (by decide : 4 < 10 ^ 32))
  rw [payload]
  change (LocalChunkStore.encode Host.packing chunk.data
    (decide ("zstd" ∈ prepared.plan.actionNames))).1.length < _
  rw [data, decide_eq_true compressed]
  decide

end Urp
