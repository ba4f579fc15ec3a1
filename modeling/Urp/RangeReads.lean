import Urp.ChunkCuts
import Urp.ExecutionProgress
import Urp.Library.Slices

/-!
# Range reads

`rehydrate_manifest_range` skips the segments outside the range and trims the
others.  Over every run of executions it returns the slice of what
`rehydrate_manifest` returns, because the chunks of a payload lie one after
another from its beginning.
-/

namespace Urp

open Python Program Slices

/-! ## The reader -/

section Reader

variable (host : Host)

/-- `data[start:stop]` with bounds that are not negative. -/
def sliceBytes (data : Bytes) (start stop : Int) : Bytes :=
  slice start.toNat stop.toNat data

/-- The part of one segment between `start` and `stop`; a segment outside
gives no bytes. -/
def readRangePart (start stop : Int) (segment : Segment) :
    Program ChunkFiles PyException Bytes :=
  if segment.logicalEnd ≤ start ∨ segment.logicalStart ≥ stop then return []
  else do
    let data ← LocalChunkStore.readStored host segment.stored segment.sha256
    if (data.length : Int) ≠ segment.logicalEnd - segment.logicalStart then
      Program.raise (.valueError
        "segment logical size does not match restored bytes")
    else
      return sliceBytes data
        (max start segment.logicalStart - segment.logicalStart)
        (min stop segment.logicalEnd - segment.logicalStart)

/-- `sorted(segments, key=lambda row: int(row["logical_start"]))`. -/
def segmentsInOrder (segments : List Segment) : List Segment :=
  segments.insertionSort fun p q => p.logicalStart ≤ q.logicalStart

def rehydrateManifestRange (session : Session) (manifestId : String)
    (start stop : Int) : Program World PyException Bytes :=
  if start < 0 ∨ stop < start then
    Program.raise (.valueError "invalid range")
  else do
    let manifest ← Program.focus World.manifestsLens
      (FileManifestStore.get session manifestId)
    let effectiveEnd : Int := min stop manifest.physical.logicalSize
    if start ≥ effectiveEnd then return []
    else do
      let unreadable := fun error : PyException =>
        if error.isLookupFailure then
          rehydrationFailed "range rehydration failed segment verification"
            manifest.workUnitId (.ofList [("reason", .str error.text)])
        else error
      let pieces ← Program.rethrow (Program.focus World.chunksLens
        (Program.forEach (segmentsInOrder manifest.physical.segments)
          (readRangePart host start effectiveEnd))) unreadable
      let result := pieces.flatten
      let expectedSize := effectiveEnd - start
      if (result.length : Int) ≠ expectedSize then
        Program.raise (rehydrationFailed
          "range rehydration encountered a segment gap" manifest.workUnitId
          (.ofList [("expected_bytes", .int expectedSize),
            ("actual_bytes", .int result.length), ("start", .int start),
            ("end", .int effectiveEnd)]))
      else return result

end Reader

/-! ## Chunks one after another -/

theorem adjacent_planChunks {plan : Plan} {payload : Bytes}
    {chunks : List Chunk} (cut : planChunks plan payload = .ok chunks) :
    Chunk.Adjacent 0 chunks := by
  have fixed : ∀ {size : Nat}, fixedChunks payload size = .ok chunks →
      Chunk.Adjacent 0 chunks := by
    intro size cut
    unfold fixedChunks at cut
    split at cut
    · cases cut
    · cases cut
      exact adjacent_fixedLoop _ _ _ _
  unfold planChunks at cut
  split at cut
  · unfold contentDefinedChunks at cut
    split at cut
    · cases cut
      trivial
    · split at cut
      · cases cut
      · cases cut
        exact adjacent_contentDefinedLoop _ _ _ _ _ _ _
  · split at cut
    · exact fixed cut
    · exact fixed cut

/-! ## Reading a range of adjacent segments -/

/-- The segment holds the chunk. -/
structure Segment.Holds (host : Host) (state : ChunkFiles) (segment : Segment)
    (chunk : Chunk) : Prop where
  decodes : segment.stored.Decodes host state chunk.data
  start : segment.logicalStart = chunk.start
  stop : segment.logicalEnd = chunk.stop

/-- The segments hold adjacent chunks of the payload. -/
structure Manifest.Spans (host : Host) (state : ChunkFiles)
    (manifest : Manifest) (payload : Bytes) : Prop where
  restores : manifest.Restores host state payload
  size : manifest.physical.logicalSize = payload.length
  segments : ∃ chunks, List.Forall₂ (Segment.Holds host state)
    manifest.physical.segments chunks ∧ Chunk.Adjacent 0 chunks ∧
      Chunk.joined chunks = payload

section Ranges

variable {host : Host} {state : ChunkFiles}

theorem Manifest.Spans.kept {later : ChunkFiles} {manifest : Manifest}
    {payload : Bytes} (spans : manifest.Spans host state payload)
    (kept : state.FilesKept later) : manifest.Spans host later payload := by
  obtain ⟨chunks, held, adjacent, joined⟩ := spans.segments
  refine ⟨spans.restores.kept kept, spans.size, chunks, ?_, adjacent, joined⟩
  apply held.imp
  intro segment chunk holds
  exact ⟨holds.decodes.kept kept, holds.start, holds.stop⟩

theorem readRangePart_of_holds {segment : Segment} {chunk : Chunk}
    (holds : segment.Holds host state chunk) (start stop : Nat) :
    readRangePart host start stop segment state =
      (.ok (slice (start - chunk.offset) (stop - chunk.offset) chunk.data),
        state) := by
  have first : segment.logicalStart = (chunk.offset : Int) := holds.start
  have last : segment.logicalEnd = (chunk.offset : Int) + chunk.data.length := by
    rw [holds.stop, Chunk.stop]
    omega
  unfold readRangePart
  by_cases outside : segment.logicalEnd ≤ start ∨ segment.logicalStart ≥ stop
  · have empty : slice (start - chunk.offset) (stop - chunk.offset)
        chunk.data = [] := by
      apply slice_eq_nil
      omega
    rw [if_pos outside, empty]
    rfl
  · have whole : ((chunk.data.length : Int) =
        segment.logicalEnd - segment.logicalStart) := by omega
    have begins : (max (start : Int) segment.logicalStart -
        segment.logicalStart).toNat = start - chunk.offset := by omega
    have ends : (min (stop : Int) segment.logicalEnd -
        segment.logicalStart).toNat =
          min (stop - chunk.offset) chunk.data.length := by omega
    rw [if_neg outside, bind_ok (readStored_of_decodes holds.decodes _),
      if_neg (not_not.mpr whole), sliceBytes, begins, ends, slice_min]
    rfl

/-- The pieces of adjacent segments are the slices of their chunks. -/
theorem readRange_of_holds {segments : List Segment} {chunks : List Chunk}
    (held : List.Forall₂ (Segment.Holds host state) segments chunks)
    {base : Nat} (adjacent : Chunk.Adjacent base chunks) (start stop : Nat) :
    forEach segments (readRangePart host start stop) state =
      (.ok (pieces start stop base (chunks.map Chunk.data)), state) := by
  induction held generalizing base with
  | nil => rfl
  | cons holds _ ih =>
      obtain ⟨rfl, later⟩ := adjacent
      rw [forEach, bind_ok (readRangePart_of_holds holds start stop),
        bind_ok (ih later)]
      rfl

/-- Adjacent segments are in order. -/
theorem segmentsInOrder_of_holds {segments : List Segment}
    {chunks : List Chunk}
    (held : List.Forall₂ (Segment.Holds host state) segments chunks)
    {base : Nat} (adjacent : Chunk.Adjacent base chunks) :
    segmentsInOrder segments = segments := by
  have ordered : segments.Pairwise
      (fun p q => p.logicalStart ≤ q.logicalStart) ∧
      ∀ segment ∈ segments, (base : Int) ≤ segment.logicalStart := by
    induction held generalizing base with
    | nil => exact ⟨.nil, by simp⟩
    | @cons segment chunk segments chunks holds _ ih =>
        obtain ⟨rfl, later⟩ := adjacent
        have first : segment.logicalStart = (chunk.offset : Int) := holds.start
        obtain ⟨ordered, above⟩ := ih later
        have after : ∀ other ∈ segments,
            (chunk.offset : Int) ≤ other.logicalStart := by
          intro other member
          have bound := above other member
          omega
        constructor
        · rw [List.pairwise_cons, first]
          exact ⟨after, ordered⟩
        · intro other member
          rcases List.mem_cons.mp member with rfl | member
          · exact le_of_eq first.symm
          · exact after other member
  exact List.Pairwise.insertionSort_eq ordered.1

/-- A manifest whose segments span the payload returns every range of it. -/
theorem rehydrateManifestRange_of_spans {session : Session} {world : World}
    {manifestId : String} {manifest : Manifest} {payload : Bytes}
    (accepted : validateIdentifier manifestId "manifest id" "mf_" =
      .ok manifestId)
    (found : world.manifests.lookup manifestId = some manifest)
    (admitted : requireTenant session manifest.tenant = .ok ())
    (spans : manifest.Spans host world.chunks payload) (start stop : Nat)
    (order : start ≤ stop) :
    rehydrateManifestRange host session manifestId start stop world =
      (.ok (slice start stop payload), world) := by
  obtain ⟨chunks, held, adjacent, joined⟩ := spans.segments
  have valid : ¬ ((start : Int) < 0 ∨ (stop : Int) < start) := by omega
  have effective : min (stop : Int) manifest.physical.logicalSize =
      ((min stop payload.length : Nat) : Int) := by
    rw [spans.size]
    omega
  unfold rehydrateManifestRange
  rw [if_neg valid, bind_ok (get_of_found accepted found admitted)]
  simp only [effective]
  by_cases empty : min stop payload.length ≤ start
  · rw [if_pos (by omega), slice_eq_nil empty]
    rfl
  · have read : focus World.chunksLens
        (forEach (segmentsInOrder manifest.physical.segments)
          (readRangePart host start (min stop payload.length : Nat))) world =
          (.ok (pieces start (min stop payload.length) 0
            (chunks.map Chunk.data)), world) := by
      rw [segmentsInOrder_of_holds held adjacent]
      simp only [focus, World.chunksLens, readRange_of_holds held adjacent]
    have result : (pieces start (min stop payload.length) 0
        (chunks.map Chunk.data)).flatten = slice start stop payload := by
      rw [flatten_pieces, Nat.sub_zero, Nat.sub_zero, ← List.flatMap_def]
      change slice _ _ (Chunk.joined chunks) = _
      rw [joined, slice_min]
    have length : ((slice start stop payload).length : Int) =
        ((min stop payload.length : Nat) : Int) - start := by
      rw [length_slice]
      omega
    rw [if_neg (by omega), bind_ok (rethrow_ok read _), result,
      if_neg (not_not.mpr length)]
    rfl

end Ranges

/-! ## Runs -/

theorem holds_zipWith {host : Host} {state : ChunkFiles}
    {execution : Execution} {prepared : Prepared} {chunks : List Chunk}
    {rows : List StoredChunk}
    (decodes : List.Forall₂
      (fun put row => row.Decodes host state put.data)
      (chunkPuts execution prepared chunks) rows) :
    List.Forall₂ (Segment.Holds host state)
      (List.zipWith segmentOf chunks rows) chunks := by
  induction chunks generalizing rows with
  | nil => exact .nil
  | cons chunk rest ih =>
      cases decodes with
      | cons decoded later => exact .cons ⟨decoded, rfl, rfl⟩ (ih later)

section Runs

variable {host : Host} (codecs : host.CodecsRoundTrip)
variable (fresh : Function.Injective host.uuid4)
variable {executions : List Execution}
variable (collisionFree : CollisionFree
  (executions.flatMap (Execution.puts host)))

include codecs fresh collisionFree

/-- A manifest that an enforce or shadow execution writes spans its payload. -/
theorem spans_of_outcome {execution : Execution} {prepared : Prepared}
    (member : execution ∈ executions)
    (ready : execution.prepare host = .ok prepared) {world later : World}
    (restorable : world.Restorable host
      (executions.flatMap (Execution.puts host)))
    {wrote : Option Manifest}
    (outcome : Outcome host execution prepared world later wrote)
    (mode : prepared.mode ≠ .observe) {manifestId : String}
    {manifest : Manifest}
    (missing : world.manifests.lookup manifestId = none)
    (found : later.manifests.lookup manifestId = some manifest) :
    manifest.Spans host later.chunks prepared.payload := by
  have subset : ∀ put ∈ execution.puts host,
      put ∈ executions.flatMap (Execution.puts host) :=
    fun put putMember => List.mem_flatMap.mpr ⟨execution, member, putMember⟩
  have step := outcome.step codecs fresh collisionFree ready subset restorable
  have restores := (step.wrote manifestId manifest missing found mode).2
  cases outcome with
  | unchanged quiet =>
      rw [quiet.manifests, missing] at found
      cases found
  | observed observed => exact absurd observed mode
  | failed _ _ _ manifests =>
      rw [manifests, missing] at found
      cases found
  | @stored chunks rows wrote _ cut run physical _ written =>
      obtain ⟨-, -, decodes⟩ := (restorable.sound.ensures_puts codecs
        collisionFree fun put putMember => subset put (by
          rw [Execution.puts_eq ready mode cut]
          exact putMember)).of_ok run
      have same : manifest.physical = storedPhysical execution prepared
          (List.zipWith segmentOf chunks rows) := by
        rw [written.eq_of_new missing found, Manifest.physical_reloaded,
          physical]
      refine ⟨restores, by rw [same]; rfl, _, ?_, adjacent_planChunks cut,
        joined_planChunks cut⟩
      rw [same]
      exact holds_zipWith decodes

/-- A manifest that spans its payload stays in the store and keeps spanning
it. -/
theorem spans_executionStep {world : World} {execution : Execution}
    (member : execution ∈ executions)
    (restorable : world.Restorable host
      (executions.flatMap (Execution.puts host)))
    {manifestId : String} {manifest : Manifest} {payload : Bytes}
    (holds : world.manifests.lookup manifestId = some manifest ∧
      manifest.Spans host world.chunks payload) :
    (executionStep host world execution).2.manifests.lookup manifestId =
        some manifest ∧
      manifest.Spans host (executionStep host world execution).2.chunks
        payload := by
  rcases executionStep_cases codecs fresh collisionFree member restorable with
    same | ⟨prepared, -, step⟩
  · rw [same]
    exact holds
  · exact ⟨step.kept.manifests _ _ holds.1, holds.2.kept step.kept.chunks⟩

end Runs

/-- Every range of the manifest is the slice of what it rehydrates to. -/
def RangesReadBack (host : Host) (world : World) (manifestId : String) :
    Prop :=
  ∃ manifest, world.manifests.lookup manifestId = some manifest ∧
    ∀ session, requireTenant session manifest.tenant = .ok () →
      ∃ payload,
        rehydrateManifest host session manifestId world =
          (.ok payload, world) ∧
        ∀ start stop : Int, 0 ≤ start → start ≤ stop →
          rehydrateManifestRange host session manifestId start stop world =
            (.ok (slice start.toNat stop.toNat payload), world)

/-- At the end of every run of executions, each manifest that an enforce or
shadow execution of it wrote returns every range of its payload. -/
theorem rangeReads_agree {host : Host} (codecs : host.CodecsRoundTrip)
    (fresh : Function.Injective host.uuid4) {executions : List Execution}
    (collisionFree : CollisionFree
      (executions.flatMap (Execution.puts host)))
    {start : World} (noChunks : start.chunks = {})
    (noManifests : start.manifests = ∅) :
    ∀ v ∈ Run.visits (executionStep host) start executions,
      executionMode v.input.session v.input.requestedMode ≠ .ok .observe →
        ∀ manifestId, WroteManifest v manifestId →
          RangesReadBack host
            (Run.final (executionStep host) start executions) manifestId := by
  rintro v member enforced manifestId ⟨missing, manifest, found⟩
  have before := restorable_visit codecs fresh collisionFree noChunks
    noManifests member
  obtain ⟨input, visited⟩ := Run.visit_of_mem member
  have after : v.after = (executionStep host v.before v.input).2 :=
    congrArg Run.Visit.after visited
  rw [after] at found
  cases ready : v.input.prepare host with
  | error error =>
      rw [executionStep, execute_of_unprepared host ready, missing] at found
      cases found
  | ok prepared =>
      have mode : prepared.mode ≠ .observe := by
        intro observed
        rw [(Execution.prepare_eq_ok ready).1, observed] at enforced
        exact enforced rfl
      have wrote : validateIdentifier manifestId "manifest id" "mf_" =
            .ok manifestId ∧
          manifest.Spans host v.after.chunks prepared.payload := by
        obtain ⟨wrote, outcome⟩ := exists_outcome host ready v.before
        rw [after]
        constructor
        · have step := outcome.step codecs fresh collisionFree ready
            (fun put putMember => List.mem_flatMap.mpr
              ⟨v.input, input, putMember⟩) before
          exact (step.wrote manifestId manifest missing found mode).1
        · exact spans_of_outcome codecs fresh collisionFree input ready before
            outcome mode missing found
      let holds := fun world : World =>
        world.manifests.lookup manifestId = some manifest ∧
          manifest.Spans host world.chunks prepared.payload
      have atEnd : holds (Run.final (executionStep host) start executions) :=
        holds_final codecs fresh collisionFree noChunks noManifests member
          (fun world execution executionMember restorable holds =>
            spans_executionStep codecs fresh collisionFree executionMember
              restorable holds) ⟨after ▸ found, wrote.2⟩
      refine ⟨manifest, atEnd.1, fun session admitted => ⟨prepared.payload,
        rehydrateManifest_of_restores wrote.1 atEnd.1 admitted
          atEnd.2.restores, ?_⟩⟩
      intro first last nonneg order
      obtain ⟨lower, rfl⟩ := Int.eq_ofNat_of_zero_le nonneg
      obtain ⟨upper, rfl⟩ := Int.eq_ofNat_of_zero_le (le_trans nonneg order)
      exact rehydrateManifestRange_of_spans wrote.1 atEnd.1 admitted atEnd.2
        lower upper (Int.ofNat_le.mp order)

theorem rangeReads_agree_sample :
    ∃ manifestId, RangesReadBack Host.counting
      (Run.final (executionStep Host.counting) {}
        [sampleExecution "acme" "default" "enforce"]) manifestId := by
  let execution := sampleExecution "acme" "default" "enforce"
  have passes : execution.passesWith Host.counting
      (fun prepared => prepared.mode = .enforce) = true := by
    decide +kernel
  obtain ⟨prepared, chunk, admissible, check⟩ :=
    Execution.admissible_of_passes passes
  have enforced : prepared.mode = .enforce := of_decide_eq_true check
  have mode : prepared.mode ≠ .observe := by
    rw [enforced]
    decide
  have collisionFree : CollisionFree
      ([execution].flatMap (Execution.puts Host.counting)) := by
    rw [List.flatMap_singleton]
    exact admissible.collisionFree
  obtain ⟨result, later, manifest, run, -, -, -, stored⟩ :=
    admissible.storesFirst mode collisionFree fun put member =>
      List.mem_flatMap.mpr ⟨execution, List.mem_cons_self, member⟩
  have unobserved : executionMode execution.session execution.requestedMode ≠
      .ok .observe := by
    rw [(Execution.prepare_eq_ok admissible.ready).1]
    exact fun same => mode (Except.ok.inj same)
  exact ⟨manifest.manifestId, rangeReads_agree Host.counting_codecs
    Host.counting_fresh collisionFree rfl rfl
    (Run.visit (executionStep Host.counting) {} execution)
    List.mem_cons_self unobserved manifest.manifestId
    (stored.written.wroteManifest run rfl)⟩

end Urp
