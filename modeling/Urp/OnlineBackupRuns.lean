import Urp.OnlineBackup

/-!
# What an online backup restores

Running executions only add chunk files and manifests that restore from them.
An export is consistent if no file changes between the reads of its digest
and of its content, and every manifest that it reads has its chunk files among
the listed ones.
-/

namespace Urp

open Python LocalChunkStore

/-! ## Files after a write -/

namespace StateDirectory

variable {directory later : StateDirectory} {path : StatePath} {data : Bytes}

theorem lookup_of_write (written : directory.write path data = .ok later)
    (other : StatePath) :
    later.lookup other =
      if path = other then some data else directory.lookup other := by
  unfold write at written
  split at written
  · cases written
    exact Dict.lookup_insert _ _ _ _
  · cases written

theorem lookup_of_write_ne (written : directory.write path data = .ok later)
    {other : StatePath} (apart : path ≠ other) :
    later.lookup other = directory.lookup other := by
  rw [lookup_of_write written, if_neg apart]

theorem subset_of_write (written : directory.write path data = .ok later) :
    ∀ other ∈ directory.paths, other ∈ later.paths := by
  intro other member
  obtain ⟨held, found⟩ := mem_paths_iff.mp member
  refine mem_paths_iff.mpr ?_
  rw [lookup_of_write written]
  split
  · exact ⟨data, rfl⟩
  · exact ⟨held, found⟩

end StateDirectory

/-! ## The chunk store's files -/

/-- The path below `chunks` is neither the index nor a lock file. -/
def IsChunkPath (path : List String) : Prop :=
  path ≠ ["index.json"] ∧ isLockFile ("chunks" :: path) = false

theorem Put.isChunkPath (put : Put) : IsChunkPath put.path := by
  refine ⟨by simp [Put.path], ?_⟩
  have unlocked := (StoreFile.chunk put.tenant put.nameSpace
    put.chunk.data).not_isLockFile
  unfold Put.path
  rw [put.chunk.digested]
  exact unlocked

theorem OnlineState.lookup_chunks {state : OnlineState} {path : List String}
    (chunk : IsChunkPath path) :
    state.chunks.files.lookup path = state.directory.lookup ("chunks" :: path) := by
  unfold OnlineState.chunks
  rw [Dict.lookup_erase, if_neg (Ne.symm chunk.1),
    StateDirectory.lookup_filesIn, if_neg (by simp [chunk.2])]

theorem OnlineState.isChunkPath_of_lookup {state : OnlineState}
    {path : List String} {raw : Bytes}
    (found : state.chunks.files.lookup path = some raw) : IsChunkPath path := by
  unfold OnlineState.chunks at found
  rw [Dict.lookup_erase] at found
  split at found
  · cases found
  · rename_i apart
    rw [StateDirectory.lookup_filesIn] at found
    split at found
    · cases found
    · rename_i unlocked
      exact ⟨Ne.symm apart, by simpa using unlocked⟩

/-- The two stores have the same files. -/
def ChunkFiles.Same (state later : ChunkFiles) : Prop :=
  state.FilesKept later ∧ later.FilesKept state

theorem ChunkFiles.Sound.of_same {host : Host} {puts : List Put}
    {state later : ChunkFiles} (sound : state.Sound host puts)
    (same : state.Same later) (index : later.index = state.index) :
    later.Sound host puts := by
  constructor
  · intro key row found
    rw [index] at found
    obtain ⟨put, member, own, decodes⟩ := sound.rows key row found
    exact ⟨put, member, own, decodes.kept same.1⟩
  · intro path raw found
    rw [index]
    exact sound.files path raw (same.2 path raw found)

/-- Chunk files that a directory keeps, the store keeps. -/
theorem OnlineState.filesKept_of_lookup {state later : OnlineState}
    (kept : ∀ path, IsChunkPath path → ∀ raw,
      state.directory.lookup ("chunks" :: path) = some raw →
        later.directory.lookup ("chunks" :: path) = some raw) :
    state.chunks.FilesKept later.chunks := by
  intro path raw found
  have chunk := isChunkPath_of_lookup found
  rw [lookup_chunks chunk] at found ⊢
  exact kept path chunk raw found

theorem manifestPath_inj {manifestId other : String}
    (same : manifestPath manifestId = manifestPath other) :
    manifestId = other := by
  have names := congrArg String.toList (List.cons.inj (List.cons.inj same).2).1
  rw [String.toList_append, String.toList_append] at names
  exact String.toList_inj.mp (List.append_cancel_right names)

theorem not_isLockFile_manifestPath (manifestId : String) :
    isLockFile (manifestPath manifestId) = false := by
  rw [Bool.eq_false_iff]
  intro locks
  simp only [isLockFile, manifestPath, hasSuffix, List.isSuffixOf_iff_suffix,
    List.getLast?_cons_cons, List.getLast?_singleton, Option.getD_some] at locks
  obtain ⟨early, text⟩ := locks
  have last := congrArg List.getLast? text
  rw [String.toList_append, List.getLast?_append, List.getLast?_append] at last
  change some 'k' = some 'n' at last
  cases last

/-- The stores' other files. -/
theorem StoreFile.head_of_isPlain {file : StoreFile} {data : Bytes}
    (plain : (StateWrite.store file data).isPlain = true) :
    file.path.head? ≠ some "manifests" ∧
      (file.path.head? = some "chunks" → file.path = chunkIndex.path) := by
  cases file with
  | chunk tenant nameSpace data => cases plain
  | manifest id => cases plain
  | chunkIndex => exact ⟨by decide, fun _ => rfl⟩
  | _ => simp [path]

/-- A plain write is of no chunk file and of no manifest. -/
theorem StateWrite.apart_of_isPlain {write : StateWrite}
    (plain : write.isPlain = true) :
    (∀ rest, IsChunkPath rest → write.path ≠ "chunks" :: rest) ∧
      ∀ manifestId, write.path ≠ manifestPath manifestId := by
  cases write with
  | store file data =>
      obtain ⟨manifest, chunks⟩ := StoreFile.head_of_isPlain plain
      constructor
      · intro rest chunk same
        have index := chunks (congrArg List.head? same)
        exact chunk.1 (List.cons.inj (same.symm.trans index)).2
      · intro manifestId same
        exact manifest (congrArg List.head? same)
  | lock path locks =>
      constructor
      · rintro rest chunk rfl
        exact absurd (chunk.2.symm.trans locks) (by decide)
      · rintro manifestId rfl
        exact absurd ((not_isLockFile_manifestPath manifestId).symm.trans locks)
          (by decide)
  | other path data outside =>
      constructor
      · rintro rest _ rfl
        exact outside ⟨"chunks", by decide, rfl⟩
      · rintro manifestId rfl
        exact outside ⟨"manifests", by decide, rfl⟩

/-! ## Soundness -/

section Sound

variable (host : Host) (puts : List Put) (text : Manifest → Bytes)

/-- The stored segments decode, and the chunks to come are among the puts. -/
def RunningExecution.Sound (chunks : ChunkFiles)
    (running : RunningExecution) : Prop :=
  match running.phase with
  | .observing => True
  | .storing todo segments => (∀ chunk ∈ todo, running.put chunk ∈ puts) ∧
      ∃ parts, List.Forall₂
        (fun segment part => segment.stored.Decodes host chunks part)
        segments parts
  | .verified segments _ => ∃ parts, List.Forall₂
        (fun segment part => segment.stored.Decodes host chunks part)
        segments parts ∧
      sha256 parts.flatten = sha256 running.prepared.payload

/-- The file is the text of a manifest that restores. -/
structure IsManifestFile (chunks : ChunkFiles) (manifestId : String)
    (data : Bytes) (manifest : Manifest) (payload : Bytes) : Prop where
  text : data = text manifest
  accepted : validateIdentifier manifestId "manifest id" "mf_" = .ok manifestId
  restores : manifest.Restores host chunks payload

structure OnlineState.Sound (state : OnlineState) : Prop where
  chunks : state.chunks.Sound host puts
  running : ∀ process running, state.running.lookup process = some running →
    running.Sound host puts state.chunks
  manifests : ∀ manifestId data,
    state.directory.lookup (manifestPath manifestId) = some data →
      ∃ manifest payload,
        IsManifestFile host text state.chunks manifestId data manifest payload

end Sound

/-- No file goes, and no chunk file changes. -/
structure OnlineState.Extends (state later : OnlineState) : Prop where
  files : state.chunks.FilesKept later.chunks
  paths : ∀ path ∈ state.directory.paths, path ∈ later.directory.paths
  backup : later.backup = state.backup

section Steps

variable {host : Host} {puts : List Put} {text : Manifest → Bytes}
variable {state later : OnlineState}

theorem OnlineState.Extends.refl (state : OnlineState) : state.Extends state :=
  ⟨.refl _, fun _ member => member, rfl⟩

theorem OnlineState.extends_advance (state : OnlineState) (process : Nat)
    (running : RunningExecution) : state.Extends (state.advance process running) :=
  ⟨.refl _, fun _ member => member, rfl⟩

theorem OnlineState.extends_leave (state : OnlineState) (process : Nat) :
    state.Extends (state.leave process) :=
  ⟨.refl _, fun _ member => member, rfl⟩

theorem RunningExecution.Sound.kept {chunks more : ChunkFiles}
    {running : RunningExecution} (sound : running.Sound host puts chunks)
    (kept : chunks.FilesKept more) : running.Sound host puts more := by
  have decodes : ∀ {segments : List Segment} {parts : List Bytes},
      List.Forall₂ (fun segment part =>
        segment.stored.Decodes host chunks part) segments parts →
      List.Forall₂ (fun segment part =>
        segment.stored.Decodes host more part) segments parts :=
    fun all => all.imp fun _ _ decoded => decoded.kept kept
  obtain ⟨execution, prepared, phase⟩ := running
  cases phase with
  | observing => trivial
  | storing todo segments =>
      obtain ⟨members, parts, all⟩ := sound
      exact ⟨members, parts, decodes all⟩
  | verified segments verification =>
      obtain ⟨parts, all, digest⟩ := sound
      exact ⟨parts, decodes all, digest⟩

theorem IsManifestFile.kept {chunks more : ChunkFiles} {manifestId : String}
    {data payload : Bytes} {manifest : Manifest}
    (file : IsManifestFile host text chunks manifestId data manifest payload)
    (kept : chunks.FilesKept more) :
    IsManifestFile host text more manifestId data manifest payload :=
  { file with restores := file.restores.kept kept }

/-- Only the executions change. -/
theorem OnlineState.Sound.of_running (sound : state.Sound host puts text)
    {running : Dict Nat RunningExecution}
    (allSound : ∀ process one, running.lookup process = some one →
      one.Sound host puts state.chunks) :
    OnlineState.Sound host puts text { state with running } :=
  ⟨sound.chunks, allSound, sound.manifests⟩

theorem OnlineState.Sound.advance (sound : state.Sound host puts text)
    (process : Nat) {running : RunningExecution}
    (own : running.Sound host puts state.chunks) :
    (state.advance process running).Sound host puts text := by
  apply sound.of_running
  intro other one found
  rw [Dict.lookup_insert] at found
  split at found
  · cases found
    exact own
  · exact sound.running other one found

theorem OnlineState.Sound.leave (sound : state.Sound host puts text)
    (process : Nat) : (state.leave process).Sound host puts text := by
  apply sound.of_running
  intro other one found
  exact sound.running other one (Dict.lookup_of_lookup_erase found)

/-- What a new directory and index must keep. -/
theorem OnlineState.Sound.of_directory (sound : state.Sound host puts text)
    {directory : StateDirectory} {index : Dict String StoredChunk}
    (chunks : OnlineState.chunks { state with directory, index } |>.Sound host puts)
    (kept : state.chunks.FilesKept
      (OnlineState.chunks { state with directory, index }))
    (manifests : ∀ manifestId data,
      directory.lookup (manifestPath manifestId) = some data →
        state.directory.lookup (manifestPath manifestId) = some data ∨
          ∃ manifest payload, IsManifestFile host text state.chunks manifestId
            data manifest payload) :
    OnlineState.Sound host puts text { state with directory, index } := by
  refine ⟨chunks, ?_, ?_⟩
  · intro process running found
    exact (sound.running process running found).kept kept
  · intro manifestId data found
    rcases manifests manifestId data found with old | ⟨manifest, payload, file⟩
    · obtain ⟨manifest, payload, file⟩ := sound.manifests manifestId data old
      exact ⟨manifest, payload, file.kept kept⟩
    · exact ⟨manifest, payload, file.kept kept⟩

/-- A write of no chunk file, and of no manifest that does not restore. -/
theorem OnlineState.Sound.of_write (sound : state.Sound host puts text)
    {directory : StateDirectory} {path : StatePath} {data : Bytes}
    (written : state.directory.write path data = .ok directory)
    (apart : ∀ rest, IsChunkPath rest → path ≠ "chunks" :: rest)
    (manifest : ∀ manifestId, path = manifestPath manifestId →
      ∃ manifest payload, IsManifestFile host text state.chunks manifestId data
        manifest payload) :
    OnlineState.Sound host puts text { state with directory } ∧
      state.Extends { state with directory } := by
  let later : OnlineState := { state with directory }
  have lookup : ∀ rest, IsChunkPath rest →
      directory.lookup ("chunks" :: rest) =
        state.directory.lookup ("chunks" :: rest) := by
    intro rest chunk
    exact StateDirectory.lookup_of_write_ne written (apart rest chunk)
  have kept : state.chunks.FilesKept later.chunks :=
    filesKept_of_lookup fun rest chunk raw found =>
      (lookup rest chunk).trans found
  have same : state.chunks.Same later.chunks :=
    ⟨kept, filesKept_of_lookup fun rest chunk raw found =>
      (lookup rest chunk).symm.trans found⟩
  refine ⟨sound.of_directory (sound.chunks.of_same same rfl) kept ?_, kept,
    StateDirectory.subset_of_write written, rfl⟩
  intro manifestId held found
  rw [StateDirectory.lookup_of_write written] at found
  split at found
  · rename_i own
    cases found
    exact .inr (manifest manifestId own)
  · exact .inl found

/-- Starting an execution. -/
theorem sound_startExecution (sound : state.Sound host puts text) (process : Nat)
    (execution : Execution)
    (members : ∀ put ∈ execution.puts host, put ∈ puts) :
    (startExecution host state process execution).Sound host puts text ∧
      state.Extends (startExecution host state process execution) := by
  unfold startExecution
  split
  · rename_i prepared _ ready
    split
    · exact ⟨sound.advance process trivial, state.extends_advance _ _⟩
    · rename_i storing
      split
      · rename_i chunks cut
        refine ⟨sound.advance process ?_, state.extends_advance _ _⟩
        refine ⟨?_, [], .nil⟩
        intro chunk member
        apply members
        rw [Execution.puts_eq ready storing cut]
        exact List.mem_map_of_mem member
      · exact ⟨sound, .refl _⟩
  · exact ⟨sound, .refl _⟩

/-- The directory with the file of a new chunk is the chunk store with it. -/
theorem OnlineState.same_store {put : Put} {directory : StateDirectory}
    (written : state.directory.write ("chunks" :: put.path)
      (encode host put.data put.compress).1 = .ok directory)
    (index : Dict String StoredChunk) :
    (state.chunks.store host put).Same
      (OnlineState.chunks { state with directory, index }) := by
  let next : OnlineState := { state with directory, index }
  have lookup : ∀ path, IsChunkPath path → next.chunks.files.lookup path =
      (state.chunks.store host put).files.lookup path := by
    intro path chunk
    rw [lookup_chunks chunk, StateDirectory.lookup_of_write written]
    simp only [ChunkFiles.store, Dict.lookup_insert, List.cons.injEq, true_and,
      lookup_chunks chunk]
  constructor
  · intro path raw found
    have chunk : IsChunkPath path := by
      simp only [ChunkFiles.store, Dict.lookup_insert] at found
      split at found
      · rename_i same
        rw [← same]
        exact put.isChunkPath
      · exact isChunkPath_of_lookup found
    exact (lookup path chunk).trans found
  · intro path raw found
    have chunk := @isChunkPath_of_lookup next path raw found
    exact (lookup path chunk).symm.trans found

/-- Storing the next chunk. -/
theorem sound_putNextChunk (codecs : host.CodecsRoundTrip)
    (collisionFree : CollisionFree puts) (sound : state.Sound host puts text)
    (process : Nat) {running : RunningExecution} {chunk : Chunk}
    {todo : List Chunk} {segments : List Segment}
    (found : state.running.lookup process = some running)
    (phase : running.phase = .storing (chunk :: todo) segments) :
    let later := putNextChunk host state process running chunk todo segments
    later.Sound host puts text ∧ state.Extends later := by
  have own := sound.running process running found
  unfold RunningExecution.Sound at own
  rw [phase] at own
  obtain ⟨members, parts, decodes⟩ := own
  obtain ⟨member, others⟩ := List.forall_mem_cons.mp members
  let put := running.put chunk
  have left := And.intro (sound.leave process) (state.extends_leave process)
  have exits := (ensures_put host state.chunks put).and
    (sound.chunks.ensures_put codecs collisionFree member)
  intro later
  simp only [later, putNextChunk]
  rcases run : put.run host state.chunks with ⟨error | row, stored⟩
  · exact left
  · obtain ⟨outcome, storedSound, kept, rowDecodes⟩ := exits.of_ok run
    let next : RunningExecution := { running with
      phase := .storing todo (segments ++ [segmentOf chunk row]) }
    -- The new segment decodes wherever the stored files are.
    have nextSound : ∀ chunks : ChunkFiles, stored.FilesKept chunks →
        next.Sound host puts chunks := by
      intro chunks keptOn
      refine ⟨others, parts ++ [chunk.data], ?_⟩
      refine List.rel_append (decodes.imp ?_) (.cons ?_ .nil)
      · exact fun _ _ decoded => decoded.kept (kept.trans keptOn)
      · exact rowDecodes.kept keptOn
    dsimp only
    split
    · rename_i hit
      rcases outcome with ⟨_, _, _, -, rfl, -⟩ | ⟨-, rfl, -⟩
      · exact ⟨sound.advance process (nextSound _ (.refl _)),
          state.extends_advance _ _⟩
      · cases hit
    · rename_i missed
      rcases outcome with ⟨_, _, _, rfl, -, -⟩ | ⟨-, -, rfl⟩
      · exact absurd rfl missed
      · split
        · exact left
        · rename_i directory written
          have same := OnlineState.same_store written
            (state.chunks.store host put).index
          have keptOn := kept.trans same.1
          have whole := sound.of_directory
            (storedSound.of_same same rfl) keptOn (by
              intro manifestId data found
              rw [StateDirectory.lookup_of_write_ne written (by
                simp [manifestPath])] at found
              exact .inl found)
          refine ⟨whole.advance process (nextSound _ same.1), keptOn, ?_, rfl⟩
          exact StateDirectory.subset_of_write written

/-- Verifying what was stored. -/
theorem sound_verifySegments (sound : state.Sound host puts text)
    (process : Nat) {running : RunningExecution} {segments : List Segment}
    (found : state.running.lookup process = some running)
    (phase : running.phase = .storing [] segments) :
    let later := verifySegments host state process running segments
    later.Sound host puts text ∧ state.Extends later := by
  have own := sound.running process running found
  unfold RunningExecution.Sound at own
  rw [phase] at own
  obtain ⟨-, parts, decodes⟩ := own
  have read := congrArg Prod.fst (rehydrate_of_decodes decodes)
  intro later
  simp only [later, verifySegments, read]
  split
  · rename_i accepted
    refine ⟨sound.advance process ⟨parts, decodes, ?_⟩,
      state.extends_advance _ _⟩
    simp only [Bool.and_eq_true] at accepted
    simpa [verifySha256] using accepted.1
  · exact ⟨sound.leave process, state.extends_leave process⟩

/-- An observed payload is nothing to restore. -/
def RunningExecution.IsRestorable (running : RunningExecution) : Prop :=
  running.phase = .observing → running.prepared.payload = []

/-- The manifest of a sound execution restores. -/
theorem restores_of_sound {running : RunningExecution} {chunks : ChunkFiles}
    (sound : running.Sound host puts chunks)
    (restorable : running.IsRestorable) {manifestId createdAt : String}
    {manifest : Manifest}
    (made : running.manifest manifestId createdAt = some manifest) :
    manifest.manifestId = manifestId ∧
      ∃ payload, manifest.Restores host chunks payload := by
  obtain ⟨execution, prepared, phase⟩ := running
  cases phase with
  | observing =>
      have empty : prepared.payload = [] := restorable rfl
      cases made
      refine ⟨rfl, [], ?_, [], .nil, rfl⟩
      rw [← empty]
      rfl
  | storing todo segments => cases made
  | verified segments verification =>
      obtain ⟨parts, decodes, digest⟩ := sound
      cases made
      exact ⟨rfl, parts.flatten, digest.symm, parts, decodes, rfl⟩

/-- Writing the manifest. -/
theorem sound_putManifestFile (sound : state.Sound host puts text)
    (process : Nat) (running : RunningExecution) {manifest : Manifest}
    {payload : Bytes} (restores : manifest.Restores host state.chunks payload) :
    let later := putManifestFile host text state process running manifest
    later.Sound host puts text ∧ state.Extends later := by
  have left := And.intro (sound.leave process) (state.extends_leave process)
  have exits := @FileManifestStore.ensures_put host running.execution.session
    manifest ∅
  intro later
  simp only [later, putManifestFile]
  rcases run : FileManifestStore.put host running.execution.session manifest ∅
    with ⟨error | ⟨⟩, files⟩
  · exact left
  · obtain ⟨accepted, -⟩ := exits.of_ok run
    dsimp only
    split
    · exact left
    · rename_i directory written
      have whole : OnlineState.Sound host puts text { state with directory } ∧
          state.Extends { state with directory } := by
        apply sound.of_write written
        · intro path _ same
          exact absurd (congrArg List.head? same) (by simp [manifestPath])
        · intro manifestId same
          obtain rfl := manifestPath_inj same
          exact ⟨manifest, payload, rfl, accepted, restores⟩
      exact ⟨whole.1.leave process, whole.2.files, whole.2.paths, rfl⟩

/-- What every action but the exporter's keeps. -/
theorem sound_onlineStep {key : Option String} {generatedAt : String}
    {output : Option StatePath} (codecs : host.CodecsRoundTrip)
    (collisionFree : CollisionFree puts) (sound : state.Sound host puts text)
    {action : OnlineAction}
    (members : ∀ process execution, action = .start process execution →
      ∀ put ∈ execution.puts host, put ∈ puts)
    (restorable : ∀ process manifestId createdAt,
      action = .putManifest process manifestId createdAt →
        ∀ running, state.running.lookup process = some running →
          running.IsRestorable)
    (other : ∀ seen, action ≠ .backup seen) :
    let later := (onlineStep host key generatedAt output text state action).2
    later.Sound host puts text ∧ state.Extends later := by
  have stay := And.intro sound (OnlineState.Extends.refl state)
  cases action with
  | start process execution =>
      exact sound_startExecution sound process execution (members _ _ rfl)
  | putChunk process =>
      simp only [onlineStep]
      split
      · rename_i running found
        split
        · rename_i phase
          exact sound_putNextChunk codecs collisionFree sound process found phase
        · exact stay
      · exact stay
  | verify process =>
      simp only [onlineStep]
      split
      · rename_i running found
        split
        · rename_i phase
          exact sound_verifySegments sound process found phase
        · exact stay
      · exact stay
  | putManifest process manifestId createdAt =>
      simp only [onlineStep]
      split
      · rename_i running found
        split
        · rename_i manifest made
          obtain ⟨-, payload, restores⟩ := restores_of_sound
            (sound.running process running found)
            (restorable _ _ _ rfl running found) made
          exact sound_putManifestFile sound process running restores
        · exact stay
      · exact stay
  | write write plain =>
      obtain ⟨chunks, manifests⟩ := write.apart_of_isPlain plain
      simp only [onlineStep, stateStep]
      split
      · rename_i directory written
        exact sound.of_write written chunks fun manifestId same =>
          absurd same (manifests manifestId)
      · exact stay
  | backup seen => exact absurd rfl (other seen)

end Steps

end Urp
