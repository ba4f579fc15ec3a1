import Urp.Progress

/-!
# Executions that return

From a healthy world with a sound chunk store, an execution that its decision
admits without an approval returns: the puts find nothing broken, what was
stored reads back, and the ledger takes every event.
-/

namespace Urp

open Python Program

/-- The execution is prepared and cut into these chunks, and nothing in its
decision or its session refuses it. -/
structure Execution.Admissible (host : Host) (execution : Execution)
    (prepared : Prepared) (chunks : List Chunk) : Prop where
  ready : execution.prepare host = .ok prepared
  cut : planChunks prepared.plan prepared.payload = .ok chunks
  unapproved : prepared.policy.requireApproval = false
  verifiers : requireExactVerifiers prepared.policy.requiredVerifiers true
    execution.workUnit.id = .ok ()
  tenant : execution.workUnit.tenant ≠ ""
  admitted : requireTenant execution.session execution.workUnit.tenant = .ok ()

/-- The execution is prepared, and neither its decision nor its session
refuses its events. -/
structure Execution.Admitted (host : Host) (execution : Execution)
    (prepared : Prepared) : Prop where
  ready : execution.prepare host = .ok prepared
  unapproved : prepared.policy.requireApproval = false
  tenant : execution.workUnit.tenant ≠ ""
  admitted : requireTenant execution.session execution.workUnit.tenant = .ok ()

theorem Execution.Admissible.toAdmitted {host : Host} {execution : Execution}
    {prepared : Prepared} {chunks : List Chunk}
    (admissible : execution.Admissible host prepared chunks) :
    execution.Admitted host prepared where
  ready := admissible.ready
  unapproved := admissible.unapproved
  tenant := admissible.tenant
  admitted := admissible.admitted

/-- A sequence of records proceeds. -/
theorem proceeds_forEach {α β : Type} {items : List α}
    {body : α → Program World PyException β}
    (each : ∀ item ∈ items, ∀ world : World, world.Healthy →
      Proceeds 1 (body item) world)
    {world : World} (healthy : world.Healthy) :
    Proceeds items.length (forEach items body) world := by
  induction items generalizing world with
  | nil => exact ⟨healthy, rfl⟩
  | cons item rest ih =>
      rw [List.length_cons, Nat.add_comm]
      apply proceeds_bind (each item List.mem_cons_self world healthy)
      intro value later laterHealthy _
      change Proceeds (rest.length + 0) _ later
      apply proceeds_bind (ih
        (fun other member => each other (List.mem_cons_of_mem _ member))
        laterHealthy)
      intro values final finalHealthy _
      exact ⟨finalHealthy, rfl⟩

section Returning

variable {host : Host} (reliable : host.Reliable)
variable {execution : Execution} {prepared : Prepared} {chunks : List Chunk}

theorem Execution.Admitted.recordable
    (admitted : execution.Admitted host prepared)
    {event : LedgerEvent} (tenant : event.tenant = execution.workUnit.tenant)
    (details : IsPlain event.details.toValue) :
    event.Recordable execution.session := by
  constructor
  · rw [tenant]
    exact admitted.admitted
  · rw [tenant]
    exact admitted.tenant
  · exact details

include reliable

theorem proceeds_admitPrepared
    (admitted : execution.Admitted host prepared) {world : World}
    (healthy : world.Healthy) :
    Proceeds 3 (admitPrepared host execution prepared) world := by
  have passes : requirePolicyApproval host execution prepared = ret () := by
    simp only [requirePolicyApproval, admitted.unapproved]
    rfl
  have received : (executionEvent execution prepared
      "work_unit.received").Recordable execution.session :=
    ⟨admitted.admitted, admitted.tenant, ⟨rfl, rfl⟩⟩
  have evaluated : LedgerEvent.Recordable execution.session
      { executionEvent execution prepared "policy.evaluated"
          prepared.policy.toDict with
        decision := some prepared.policy.contract.value } :=
    admitted.recordable rfl prepared.policy.isPlain_toDict
  have planned := (Execution.prepare_eq_ok admitted.ready).2.2.2
  unfold admitPrepared
  rw [passes, ret_bind]
  change Proceeds (1 + (1 + 1)) _ world
  apply proceeds_bind (proceeds_record reliable received healthy)
  intro _ _ healthy _
  apply proceeds_bind (proceeds_record reliable evaluated healthy)
  intro _ _ healthy _
  exact proceeds_storePlanWithAudit reliable planned admitted.admitted
    admitted.tenant healthy

/-- The puts' rows are recorded. -/
theorem proceeds_storeChunks
    (admissible : execution.Admissible host prepared chunks) {world : World}
    (healthy : world.Healthy) {rows : List StoredChunk} {stored : ChunkFiles}
    (run : forEach (chunkPuts execution prepared chunks) (Put.run host)
      world.chunks = (.ok rows, stored)) :
    Proceeds (List.zipWith segmentOf chunks rows).length
      (storeChunks host execution prepared chunks) world := by
  have put : focus World.chunksLens (forEach
      (chunkPuts execution prepared chunks) (Put.run host)) world =
        (.ok rows, World.chunksLens.set world stored) := focus_of_run run
  have stillHealthy : (World.chunksLens.set world stored).Healthy := healthy
  unfold storeChunks Proceeds
  rw [ensures_bind]
  apply (ensures_of_run put).mpr
  change Proceeds (_ + 0) _ (World.chunksLens.set world stored)
  apply proceeds_bind (proceeds_forEach ?_ stillHealthy) ?_
  · intro segment _ world healthy
    exact proceeds_record reliable
      (admissible.toAdmitted.recordable rfl (isPlain_ofList (by simp))) healthy
  · intro _ later laterHealthy _
    exact ⟨laterHealthy, rfl⟩

omit reliable in
/-- Segments that decode to the payload are verified. -/
theorem verifyRestore_run
    (admissible : execution.Admissible host prepared chunks) {world : World}
    {segments : List Segment} {parts : List Bytes}
    (decodes : List.Forall₂
      (fun segment part => segment.stored.Decodes host world.chunks part)
      segments parts) (joined : parts.flatten = prepared.payload) :
    ∃ verification, verifyRestore host execution prepared segments world =
      (.ok verification, world) := by
  have read : focus World.chunksLens
      (LocalChunkStore.rehydrate host segments) world =
        (.ok parts.flatten, world) := focus_of_run (rehydrate_of_decodes decodes)
  rw [joined] at read
  have accepted : (verifySha256 prepared.payload
      (sha256 prepared.payload)).accepted = true := by
    simp [verifySha256]
  refine ⟨verifySha256 prepared.payload (sha256 prepared.payload), ?_⟩
  unfold verifyRestore
  rw [bind_ok read]
  simp only [accepted, if_true, admissible.verifiers, lift_ok_bind]
  rfl

theorem proceeds_writeManifest
    (admitted : execution.Admitted host prepared) {world : World}
    (healthy : world.Healthy) {state : ManifestState} {physical : Physical}
    {verification : VerificationResult} {lineage telemetry details : Object}
    (valid : physical.validate = .ok ()) (plain : IsPlain details.toValue)
    (identifier : validateIdentifier (host.idText "mf" world.supply.nextId)
      "manifest id" "mf_" = .ok (host.idText "mf" world.supply.nextId)) :
    Proceeds 2 (writeManifest host execution prepared state physical
      verification lineage telemetry details) world := by
  let supply : Supply := ⟨world.supply.nextId + 1, world.supply.tick + 1⟩
  let drawn := World.supplyLens.set world supply
  obtain ⟨manifest, made, owner, described, identified, created⟩ :
      ∃ manifest, focus World.supplyLens (newManifest host execution prepared
          state physical verification lineage telemetry) world =
            (.ok manifest, drawn) ∧
        manifest.tenant = execution.workUnit.tenant ∧
        manifest.physical = physical ∧
        manifest.manifestId = host.idText "mf" world.supply.nextId ∧
        manifest.createdAt = host.isoformat (host.clock world.supply.tick) :=
    ⟨_, rfl, rfl, rfl, rfl, rfl⟩
  have allowed : requireTenant execution.session manifest.tenant = .ok () := by
    rw [owner]
    exact admitted.admitted
  rw [← described] at valid
  rw [← identified] at identifier
  let stored := World.manifestsLens.set drawn
    (drawn.manifests.insert manifest.manifestId manifest.reloaded)
  have placed : focus World.manifestsLens (FileManifestStore.put host
      execution.session manifest) drawn = (.ok (), stored) :=
    focus_of_run (FileManifestStore.put_run reliable allowed valid identified
      identifier created drawn.manifests)
  have stillHealthy : stored.Healthy := healthy
  have written : LedgerEvent.Recordable execution.session
      { executionEvent execution prepared "manifest.written" details with
        manifestId := some manifest.manifestId } :=
    admitted.recordable rfl plain
  unfold writeManifest Proceeds
  rw [ensures_bind]
  apply (ensures_of_run made).mpr
  rw [ensures_bind]
  apply (ensures_of_run placed).mpr
  rw [ensures_bind]
  apply (proceeds_record reliable written stillHealthy).mono
  · rintro _ later ⟨laterHealthy, nextId⟩
    refine ⟨laterHealthy, ?_⟩
    have start : stored.supply.nextId = world.supply.nextId + 1 := rfl
    omega
  · exact fun _ _ impossible => impossible

theorem healthy_recordAdapter
    (admitted : execution.Admitted host prepared) {world : World}
    (healthy : world.Healthy) (manifest : Manifest) :
    Ensures (recordAdapter host execution prepared manifest) world
      (fun _ later => later.Healthy ∧
        later.supply.nextId ≤ world.supply.nextId + 1) (fun _ _ => False) := by
  unfold recordAdapter
  cases execution.adapter with
  | none => exact ⟨healthy, Nat.le_succ _⟩
  | some name =>
      have recorded : LedgerEvent.Recordable execution.session
          { executionEvent execution prepared "adapter.mock.executed"
              (.ofList [("kind", .str execution.workUnit.kind.value),
                ("adapter", .str name)]) with
            manifestId := some manifest.manifestId } :=
        admitted.recordable rfl (isPlain_ofList (by simp))
      apply (proceeds_record reliable recorded healthy).mono
      · rintro _ later ⟨laterHealthy, nextId⟩
        exact ⟨laterHealthy, Nat.le_of_eq nextId⟩
      · exact fun _ _ impossible => impossible

/-- An observation is written. -/
theorem proceeds_recordObservation
    (admitted : execution.Admitted host prepared) {world : World}
    (healthy : world.Healthy)
    (identifier : validateIdentifier (host.idText "mf" world.supply.nextId)
      "manifest id" "mf_" = .ok (host.idText "mf" world.supply.nextId)) :
    Proceeds 2 (recordObservation host execution prepared) world := by
  unfold recordObservation
  change Proceeds (2 + 0) _ world
  apply proceeds_bind
  · exact proceeds_writeManifest reliable admitted healthy rfl
      (isPlain_ofList (by simp)) identifier
  · exact fun _ later laterHealthy _ => ⟨laterHealthy, rfl⟩

/-- The payload is stored and read back, and its manifest written. -/
theorem healthy_storeObject (codecs : host.CodecsRoundTrip) {puts : List Put}
    (collisionFree : CollisionFree puts)
    (admissible : execution.Admissible host prepared chunks)
    (subset : ∀ put ∈ chunkPuts execution prepared chunks, put ∈ puts)
    {world : World} (healthy : world.Healthy)
    (sound : world.chunks.Sound host puts)
    (identifier : ∀ k ≤ world.supply.nextId + chunks.length,
      validateIdentifier (host.idText "mf" k) "manifest id" "mf_" =
        .ok (host.idText "mf" k)) :
    Ensures (storeObject host execution prepared) world
      (fun _ later => later.Healthy ∧ later.supply.nextId ≤
        world.supply.nextId + chunks.length + 3) (fun _ _ => False) := by
  have ran := sound.ensures_puts codecs collisionFree subset
  obtain ⟨rows, files, run, -, -, decodes⟩ := (ran.mono
    (fun _ _ done => done) (fun _ _ impossible => impossible)).returns
  have size : (List.zipWith segmentOf chunks rows).length ≤ chunks.length := by
    rw [List.length_zipWith]
    exact Nat.min_le_left _ _
  unfold storeObject
  rw [admissible.cut, lift_ok_bind, ensures_bind]
  apply ((Ensures.and (proceeds_storeChunks reliable admissible healthy run)
    (ensures_storeChunks host execution prepared chunks world)).mono _
      (fun _ _ impossible => impossible.1))
  rintro segments stored ⟨⟨storedHealthy, nextId⟩, -, -, others, same, rfl⟩
  rw [run] at same
  cases same
  obtain ⟨verification, verified⟩ := verifyRestore_run admissible
    (decodes_zipWith decodes) (joined_planChunks admissible.cut)
  rw [ensures_bind]
  apply (ensures_of_run verified).mpr
  rw [ensures_bind]
  have wrote : Proceeds 2 (writeStored host execution prepared
      (List.zipWith segmentOf chunks rows) verification) stored :=
    proceeds_writeManifest reliable admissible.toAdmitted storedHealthy rfl
      (isPlain_ofList (by simp)) (identifier _ (by omega))
  apply Ensures.mono wrote
  · rintro manifest written ⟨writtenHealthy, writtenId⟩
    rw [ensures_bind]
    apply (healthy_recordAdapter reliable admissible.toAdmitted
      writtenHealthy manifest).mono
    · rintro _ later ⟨laterHealthy, bound⟩
      refine ⟨laterHealthy, ?_⟩
      omega
    · exact fun _ _ impossible => impossible
  · exact fun _ _ impossible => impossible

/-- An admitted execution that only observes returns. -/
theorem Execution.Admitted.observes
    (admitted : execution.Admitted host prepared)
    (mode : prepared.mode = .observe) {world : World} (healthy : world.Healthy)
    (identifier : validateIdentifier
      (host.idText "mf" (world.supply.nextId + 3)) "manifest id" "mf_" =
        .ok (host.idText "mf" (world.supply.nextId + 3))) :
    Proceeds (3 + 2) (executeExactObject host execution) world := by
  unfold executeExactObject
  rw [admitted.ready, lift_ok_bind]
  apply proceeds_bind (proceeds_admitPrepared reliable admitted healthy)
  intro _ begun begunHealthy nextId
  rw [← nextId] at identifier
  rw [if_pos mode]
  exact proceeds_recordObservation reliable admitted begunHealthy identifier

/-- An admissible execution returns, with the manifest that it names. -/
theorem Execution.Admissible.returns (codecs : host.CodecsRoundTrip)
    {puts : List Put} (collisionFree : CollisionFree puts)
    (admissible : execution.Admissible host prepared chunks)
    (subset : ∀ put ∈ execution.puts host, put ∈ puts)
    {world : World} (healthy : world.Healthy)
    (sound : world.chunks.Sound host puts)
    (identifier : ∀ k ≤ world.supply.nextId + chunks.length + 3,
      validateIdentifier (host.idText "mf" k) "manifest id" "mf_" =
        .ok (host.idText "mf" k)) :
    Returns (executeExactObject host execution) world fun result later =>
      later.Healthy ∧
        later.supply.nextId ≤ world.supply.nextId + chunks.length + 6 ∧
        ∃ manifest, Outcome host execution prepared world later
          (some manifest) ∧ result.manifestId = manifest.manifestId := by
  have returned : Ensures (executeExactObject host execution) world
      (fun _ later => later.Healthy ∧ later.supply.nextId ≤
        world.supply.nextId + chunks.length + 6) (fun _ _ => False) := by
    by_cases mode : prepared.mode = .observe
    · apply Ensures.mono (admissible.toAdmitted.observes reliable mode healthy
        (identifier _ (by omega)))
      · rintro _ later ⟨laterHealthy, laterId⟩
        refine ⟨laterHealthy, ?_⟩
        omega
      · exact fun _ _ impossible => impossible
    · unfold executeExactObject
      rw [admissible.ready, lift_ok_bind, ensures_bind]
      apply ((Ensures.and
        (proceeds_admitPrepared reliable admissible.toAdmitted healthy)
        ((quiet_admitPrepared host execution prepared).ensures world)).mono _
          (fun _ _ impossible => impossible.1))
      rintro _ begun ⟨⟨begunHealthy, nextId⟩, quiet⟩
      rw [if_neg mode]
      have begunSound : begun.chunks.Sound host puts := by
        rw [quiet.chunks]
        exact sound
      have stored := healthy_storeObject reliable codecs collisionFree
        admissible
        (fun put member => subset put (by
          rw [Execution.puts_eq admissible.ready mode admissible.cut]
          exact member))
        begunHealthy begunSound
        (fun k bound => identifier k (by omega))
      apply stored.mono
      · rintro _ later ⟨laterHealthy, bound⟩
        refine ⟨laterHealthy, ?_⟩
        omega
      · exact fun _ _ impossible => impossible
  apply (Ensures.and returned (ensures_executeExactObject host
    admissible.ready world)).mono (fun _ _ both => both)
      (fun _ _ both => both.1) |>.returns.mono
  rintro result later ⟨⟨laterHealthy, bound⟩, outcome⟩
  exact ⟨laterHealthy, bound, outcome⟩

end Returning

/-! ## Executions with one chunk -/

/-- The put of an execution's only chunk. -/
def onlyPut (execution : Execution) (prepared : Prepared) (chunk : Chunk) :
    Put where
  tenant := execution.workUnit.tenant
  nameSpace := storageNamespace execution.workUnit prepared.mode
  chunk := chunk
  compress := "zstd" ∈ prepared.plan.actionNames

theorem forEach_singleton {σ ε α β : Type} {item : α}
    {body : α → Program σ ε β} {s later : σ} {value : β}
    (run : body item s = (.ok value, later)) :
    forEach [item] body s = (.ok [value], later) := by
  rw [forEach, bind_ok run]
  rfl

/-- What the store holds, and what the manifest lists, after an execution
whose only put ran like this. -/
structure StoredOne (host : Host) (execution : Execution) (prepared : Prepared)
    (chunk : Chunk) (row : StoredChunk) (stored : ChunkFiles)
    (world later : World) (manifest : Manifest) : Prop where
  chunks : later.chunks = stored
  segments : manifest.physical.segments = [segmentOf chunk row]
  lineage : manifest.lineage = storedLineage execution
  written : Written host execution prepared world later manifest

theorem Outcome.storedOne {host : Host} {execution : Execution}
    {prepared : Prepared} {chunk : Chunk} {world later : World}
    {manifest : Manifest} (mode : prepared.mode ≠ .observe)
    (cut : planChunks prepared.plan prepared.payload = .ok [chunk])
    {row : StoredChunk} {stored : ChunkFiles}
    (run : (onlyPut execution prepared chunk).run host world.chunks =
      (.ok row, stored))
    (outcome : Outcome host execution prepared world later (some manifest)) :
    StoredOne host execution prepared chunk row stored world later manifest := by
  cases outcome with
  | observed observes _ _ _ _ => exact absurd observes mode
  | stored _ chunks ran physical lineage written =>
      rw [cut] at chunks
      cases chunks
      have puts : forEach (chunkPuts execution prepared [chunk])
          (Put.run host) world.chunks = (.ok [row], stored) :=
        forEach_singleton run
      rw [puts] at ran
      cases ran
      constructor
      · rfl
      · rw [physical]
        rfl
      · exact lineage
      · exact written

theorem Execution.Admissible.collisionFree {host : Host} {execution : Execution}
    {prepared : Prepared} {chunk : Chunk}
    (admissible : execution.Admissible host prepared [chunk]) :
    CollisionFree (execution.puts host) := by
  apply @collisionFree_of_alike _ (onlyPut execution prepared chunk)
  intro put member
  simp only [Execution.puts, admissible.ready, admissible.cut] at member
  split at member
  · cases member
  · rw [List.mem_singleton.mp member]
    exact ⟨rfl, rfl⟩

/-! ## Checking an execution -/

/-- The execution is admissible, with one chunk, and passes the check. -/
def Execution.passesWith (host : Host) (execution : Execution)
    (check : Prepared → Bool) : Bool :=
  execution.workUnit.tenant != "" &&
    (requireTenant execution.session execution.workUnit.tenant).isOk &&
    Passes (fun prepared : Prepared =>
      check prepared && !prepared.policy.requireApproval &&
        (requireExactVerifiers prepared.policy.requiredVerifiers true
          execution.workUnit.id).isOk &&
        Passes (fun chunks : List Chunk => chunks.length == 1)
          (planChunks prepared.plan prepared.payload))
      (execution.prepare host)

theorem ok_of_isOk {ε : Type} {result : Except ε Unit}
    (ok : result.isOk = true) : result = .ok () := by
  cases result with
  | error error => cases ok
  | ok value => rfl

theorem Execution.admissible_of_passes {host : Host} {execution : Execution}
    {check : Prepared → Bool}
    (passes : execution.passesWith host check = true) :
    ∃ prepared chunk, execution.Admissible host prepared [chunk] ∧
      check prepared = true := by
  simp only [passesWith, Bool.and_eq_true, bne_iff_ne, ne_eq] at passes
  obtain ⟨⟨tenant, admitted⟩, run⟩ := passes
  obtain ⟨prepared, ready, checks⟩ := exists_of_passes run
  simp only [Bool.and_eq_true, Bool.not_eq_eq_eq_not, Bool.not_true] at checks
  obtain ⟨⟨⟨own, unapproved⟩, verifiers⟩, cut⟩ := checks
  obtain ⟨chunks, cut, one⟩ := exists_of_passes cut
  obtain ⟨chunk, rfl⟩ := List.length_eq_one_iff.mp (beq_iff_eq.mp one)
  exact ⟨prepared, chunk, ⟨ready, cut, unapproved, ok_of_isOk verifiers, tenant,
    ok_of_isOk admitted⟩, own⟩

theorem Host.counting_identifier {k : Nat} (small : k < 10 ^ 32) :
    validateIdentifier (Host.counting.idText "mf" k) "manifest id" "mf_" =
      .ok (Host.counting.idText "mf" k) := by
  have shape : (Host.counting.idText "mf" k).toList =
      'm' :: 'f' :: '_' :: (Host.counting.uuid4 k).toList := by
    simp [Host.idText, String.toList_append]
  have size : (Host.counting.uuid4 k).toList.length = 32 := by
    have short := (@Nat.length_toDigits_le_iff 10 k 32 (by decide)
      (by decide)).mpr small
    simp only [Host.counting, String.toList_ofList, List.length_append,
      List.length_replicate]
    omega
  have digits : ∀ c ∈ (Host.counting.uuid4 k).toList,
      isIdentifierChar c = true := by
    intro c member
    simp [isIdentifierChar, Char.isAlphanum, Host.counting_digits k c member]
  have identifier : isIdentifier (Host.counting.idText "mf" k) = true := by
    unfold isIdentifier
    rw [shape]
    simp only [List.all_cons, List.length_cons, Bool.and_eq_true,
      List.all_eq_true, decide_eq_true_eq, size]
    exact ⟨⟨by decide, by decide, by decide, digits⟩, by decide⟩
  unfold validateIdentifier
  rw [identifier, shape]
  rfl

theorem World.healthy_empty : World.Healthy {} := by
  refine ⟨[], ?_, rfl⟩
  intro event member
  cases member

/-- In an empty world an admissible execution of one chunk stores it. -/
theorem Execution.Admissible.storesFirst {execution : Execution}
    {prepared : Prepared} {chunk : Chunk}
    (admissible : execution.Admissible Host.counting prepared [chunk])
    (mode : prepared.mode ≠ .observe) {puts : List Put}
    (collisionFree : CollisionFree puts)
    (subset : ∀ put ∈ execution.puts Host.counting, put ∈ puts) :
    let put := onlyPut execution prepared chunk
    ∃ result later manifest,
      executeExactObject Host.counting execution {} = (.ok result, later) ∧
        result.manifestId = manifest.manifestId ∧ later.Healthy ∧
        later.supply.nextId ≤ 7 ∧
        StoredOne Host.counting execution prepared chunk
          (put.newRow Host.counting) (ChunkFiles.store Host.counting {} put)
          {} later manifest := by
  intro put
  obtain ⟨result, later, run, healthy, drawn, manifest, outcome, named⟩ :=
    @Execution.Admissible.returns Host.counting Host.counting_reliable _ _ _
      Host.counting_codecs _ collisionFree admissible subset {}
      World.healthy_empty ChunkFiles.sound_empty fun k bound =>
        Host.counting_identifier
          (Nat.lt_of_le_of_lt bound (by decide : 4 < 10 ^ 32))
  exact ⟨result, later, manifest, run, named, healthy, drawn,
    outcome.storedOne mode admissible.cut (run_of_absent Host.counting rfl)⟩

/-- A manifest that was written is in the store, as it reads back. -/
theorem Written.found {host : Host} {execution : Execution}
    {prepared : Prepared} {world later : World} {manifest : Manifest}
    (written : Written host execution prepared world later manifest) :
    later.manifests.lookup manifest.manifestId = some manifest.reloaded := by
  rw [written.manifests]
  exact Dict.lookup_insert_self _ _ _

/-- A put whose key text is already stored reuses the row that is there. -/
theorem Put.run_of_stored {put first : Put}
    (same : put.keyText = first.keyText) :
    put.run Host.counting (ChunkFiles.store Host.counting {} first) =
      (.ok (put.reused (first.newRow Host.counting)),
        ChunkFiles.store Host.counting {} first) := by
  apply run_of_decodes
  · rw [(Put.path_of_keyText same).1]
    exact Dict.lookup_insert_self _ _ _
  · rw [Put.key_of_keyText same]
    exact Dict.lookup_insert_self _ _ _
  · exact decodes_newRow Host.counting_codecs {} first

/-- After that, an execution whose only chunk has the same key text returns
with the row that is there. -/
theorem Execution.Admissible.storesAgain {execution : Execution}
    {prepared : Prepared} {chunk : Chunk}
    (admissible : execution.Admissible Host.counting prepared [chunk])
    (mode : prepared.mode ≠ .observe) {puts : List Put}
    (collisionFree : CollisionFree puts)
    (subset : ∀ put ∈ execution.puts Host.counting, put ∈ puts)
    {first : Put} (member : first ∈ puts)
    (same : (onlyPut execution prepared chunk).keyText = first.keyText)
    {world : World} (healthy : world.Healthy)
    (drawn : world.supply.nextId ≤ 7)
    (chunks : world.chunks = ChunkFiles.store Host.counting {} first) :
    ∃ result later manifest,
      executeExactObject Host.counting execution world = (.ok result, later) ∧
        StoredOne Host.counting execution prepared chunk
          ((onlyPut execution prepared chunk).reused
            (first.newRow Host.counting)) world.chunks world later manifest := by
  have sound : world.chunks.Sound Host.counting puts := by
    rw [chunks]
    exact ChunkFiles.sound_empty.store Host.counting_codecs member rfl
  obtain ⟨result, later, run, -, -, manifest, outcome, -⟩ :=
    @Execution.Admissible.returns Host.counting Host.counting_reliable _ _ _
      Host.counting_codecs _ collisionFree admissible subset
      world healthy sound fun k bound =>
        Host.counting_identifier (Nat.lt_of_le_of_lt bound (by
          rw [List.length_singleton]
          omega))
  have hit := Put.run_of_stored same
  rw [← chunks] at hit
  exact ⟨result, later, manifest, run,
    outcome.storedOne mode admissible.cut hit⟩

/-- A run of one execution wrote its manifest. -/
theorem Written.wroteManifest {host : Host} {execution : Execution}
    {prepared : Prepared} {world later : World} {manifest : Manifest}
    {result : Except PyException ExecutionResult}
    (run : executeExactObject host execution world = (result, later))
    (missing : world.manifests.lookup manifest.manifestId = none)
    (written : Written host execution prepared world later manifest) :
    WroteManifest (Run.visit (executionStep host) world execution)
      manifest.manifestId := by
  have after : (Run.visit (executionStep host) world execution).after =
      later := congrArg Prod.snd run
  refine ⟨missing, manifest.reloaded, ?_⟩
  rw [after]
  exact written.found

end Urp
