import Urp.OnlineBackupRuns

/-!
# Consistency of online exports

The invariant of an export that runs beside executions: what it has archived
matches its records, its chunk files are still those of the store, and its
manifests restore from chunk files that it has listed.
-/

namespace Urp

open Python LocalChunkStore

/-! ## The property and its condition -/

section Property

variable (host : Host) (text : Manifest → Bytes)

/-- The import accepts the archive, and every manifest in it rehydrates from
the restored state, for every session that may read it. -/
def BackupArchive.RestoresAll (key : Option String) (archive : BackupArchive) :
    Prop :=
  ∃ restored, importState key archive ∅ = .ok restored ∧
    (∀ entry ∈ archive.entries, ∃ path, entry.filename = asPosix path ∧
      restored.lookup path = some entry.data) ∧
    ∀ manifestId data, restored.lookup (manifestPath manifestId) = some data →
      ∃ manifest, data = text manifest ∧
        ∀ formats supply session,
          formats.manifest data = some manifest.reloaded →
            requireTenant session manifest.tenant = .ok () →
              ∃ payload, (rehydrateManifest host session manifestId
                (restored.world formats supply)).1 = .ok payload

/-- The chunk files of the manifest are among the paths. -/
def Manifest.Covered (manifest : Manifest) (paths : List StatePath) : Prop :=
  ∀ segment ∈ manifest.physical.segments, ∀ path,
    resolveUnder host.chunkRoot segment.stored.ref = .ok path →
      "chunks" :: path ∈ paths

/-- The files of an export that are archived or still to be read. -/
def listed (files : List StatePath) (archived : List ArchivedFile) :
    List StatePath :=
  archived.map ArchivedFile.path ++ files

/-- The exporter has read the digest of the file and not yet its content. -/
def ExportPhase.Watches (path : StatePath) : ExportPhase → Prop
  | .hashed watched _ _ _ => watched = path
  | .measured watched _ _ _ => watched = path
  | _ => False

variable (key : Option String) (generatedAt : String)
variable (output : Option StatePath)

/-- No step changes the file between the reads of its digest and of its
content; a manifest whose content is read has its chunk files listed; the
archive is within the limits of the import; and what is observed only is
empty. -/
structure OnlineAction.Meets (state : OnlineState) (action : OnlineAction) :
    Prop where
  unchanged : ∀ path, state.backup.Watches path →
    (onlineStep host key generatedAt output text state
        action).2.directory.lookup path = state.directory.lookup path
  covered : ∀ seen, action = .backup seen →
    ∀ manifestId record files archived,
      state.backup = .measured (manifestPath manifestId) record files archived →
        ∀ manifest,
          state.directory.lookup (manifestPath manifestId) =
            some (text manifest) →
              manifest.Covered host
                (listed (manifestPath manifestId :: files) archived)
  limits : ∀ seen, action = .backup seen → ∀ archived,
    state.backup = .reading [] archived →
      (finishArchive key generatedAt archived).WithinLimits
  restorable : ∀ process manifestId createdAt,
    action = .putManifest process manifestId createdAt →
      ∀ running, state.running.lookup process = some running →
        running.IsRestorable

end Property

/-- The puts of the execution that the action starts. -/
def OnlineAction.puts (host : Host) : OnlineAction → List Put
  | .start _ execution => execution.puts host
  | _ => []

/-! ## The invariant -/

section Invariant

variable (host : Host) (text : Manifest → Bytes) (key : Option String)

structure OnlineState.Reading (state : OnlineState) (files : List StatePath)
    (archived : List ArchivedFile) : Prop where
  distinct : (listed files archived).Nodup
  inside : ∀ path ∈ listed files archived, path ∈ state.directory.paths
  included : ∀ path ∈ listed files archived, IsIncluded path
  intact : ∀ file ∈ archived, file.Matches
  chunks : ∀ file ∈ archived, ∀ rest, file.path = "chunks" :: rest →
    IsChunkPath rest → state.chunks.files.lookup rest = some file.data
  manifests : ∀ file ∈ archived, ∀ manifestId,
    file.path = manifestPath manifestId → ∃ manifest payload,
      IsManifestFile host text state.chunks manifestId file.data manifest
          payload ∧
        manifest.Covered host (listed files archived)

/-- The walks so far are of other items than the remaining ones. -/
structure OnlineState.Walking (state : OnlineState) (items : List String)
    (found : List StatePath) : Prop where
  remaining : ∃ early, includedStatePaths = early ++ items
  distinct : found.Nodup
  inside : ∀ path ∈ found, path ∈ state.directory.paths
  included : ∀ path ∈ found, IsIncluded path
  apart : ∀ path ∈ found, ∀ item ∈ items, path.head? ≠ some item

/-- The file still has the recorded digest and size. -/
def OnlineState.Holds (state : OnlineState) (path : StatePath)
    (digest : String) (size : Option Nat) : Prop :=
  ∃ data, state.directory.lookup path = some data ∧ sha256 data = digest ∧
    ∀ recorded, size = some recorded → data.length = recorded

def OnlineState.ExportSound (state : OnlineState) : Prop :=
  match state.backup with
  | .idle => True
  | .walking item rest _ found => state.Walking (item :: rest) found
  | .reading files archived => state.Reading host text files archived
  | .hashed path digest files archived =>
      state.Reading host text (path :: files) archived ∧
        state.Holds path digest none
  | .measured path record files archived =>
      state.Reading host text (path :: files) archived ∧
        state.Holds path record.sha256 (some record.size)
  | .finished archive => archive.RestoresAll host text key
  | .failed _ => True

end Invariant

section Steps

variable {host : Host} {puts : List Put} {text : Manifest → Bytes}
variable {key : Option String} {generatedAt : String}
variable {output : Option StatePath} {state later : OnlineState}

theorem OnlineState.Reading.kept {files : List StatePath}
    {archived : List ArchivedFile}
    (reading : state.Reading host text files archived)
    (extended : state.Extends later) :
    later.Reading host text files archived := by
  refine { reading with inside := ?_, chunks := ?_, manifests := ?_ }
  · intro path member
    exact extended.paths path (reading.inside path member)
  · intro file member rest below chunk
    exact extended.files rest _ (reading.chunks file member rest below chunk)
  · intro file member manifestId own
    obtain ⟨manifest, payload, holds, covered⟩ :=
      reading.manifests file member manifestId own
    exact ⟨manifest, payload, holds.kept extended.files, covered⟩

/-- What the other actions do leaves a sound export sound. -/
theorem OnlineState.ExportSound.kept (sound : state.ExportSound host text key)
    (extended : state.Extends later)
    (unchanged : ∀ path, state.backup.Watches path →
      later.directory.lookup path = state.directory.lookup path) :
    later.ExportSound host text key := by
  unfold ExportSound at sound ⊢
  rw [extended.backup]
  cases phase : state.backup with
  | idle => trivial
  | failed error => trivial
  | walking item rest before found =>
      rw [phase] at sound
      refine { sound with inside := ?_ }
      intro path member
      exact extended.paths path (sound.inside path member)
  | reading files archived =>
      rw [phase] at sound
      exact OnlineState.Reading.kept sound extended
  | hashed path digest files archived =>
      rw [phase] at sound unchanged
      obtain ⟨reading, data, found, holds⟩ := sound
      exact ⟨reading.kept extended, data, (unchanged path rfl).trans found, holds⟩
  | measured path record files archived =>
      rw [phase] at sound unchanged
      obtain ⟨reading, data, found, holds⟩ := sound
      exact ⟨reading.kept extended, data, (unchanged path rfl).trans found, holds⟩
  | finished archive =>
      rw [phase] at sound
      exact sound

/-! ## The exporter's own steps -/

theorem mem_keptFiles_iff {seen : List StatePath} {path : StatePath} :
    path ∈ keptFiles output seen ↔ path ∈ seen ∧ some path ≠ output ∧
      isSkipped (path.getLast?.getD "") = false := by
  simp [keptFiles, Bool.and_eq_true]

theorem mem_candidates_iff {paths : List StatePath} {item : String}
    {path : StatePath} :
    path ∈ candidates paths item ↔ path ∈ paths ∧ path.head? = some item := by
  simp [candidates]

/-- A walk that ends extends what was found. -/
theorem OnlineState.Walking.seen {item : String} {rest : List String}
    {before found seen : List StatePath}
    (walking : state.Walking (item :: rest) found)
    (sees : Sees state.directory item before seen) :
    state.Walking rest (found ++ keptFiles output seen) := by
  obtain ⟨seenDistinct, -, seenInside⟩ := sees
  have kept : ∀ path ∈ keptFiles output seen,
      path ∈ state.directory.paths ∧ path.head? = some item := by
    intro path member
    exact mem_candidates_iff.mp
      (seenInside path (mem_keptFiles_iff.mp member).1)
  obtain ⟨early, items⟩ := walking.remaining
  have included : item ∈ includedStatePaths := by
    rw [items]
    simp
  constructor
  · exact ⟨early ++ [item], by simpa using items⟩
  · rw [List.nodup_append]
    refine ⟨walking.distinct, ?_, ?_⟩
    · exact ((List.perm_insertionSort _ _).nodup_iff.mpr seenDistinct).filter _
    · rintro path inFound other inKept rfl
      exact walking.apart path inFound item List.mem_cons_self
        (kept path inKept).2
  · intro path member
    rcases List.mem_append.mp member with old | new
    · exact walking.inside path old
    · exact (kept path new).1
  · intro path member
    rcases List.mem_append.mp member with old | new
    · exact walking.included path old
    · exact ⟨item, included, (kept path new).2⟩
  · intro path member other remaining
    rcases List.mem_append.mp member with old | new
    · exact walking.apart path old other (List.mem_cons_of_mem _ remaining)
    · rw [(kept path new).2]
      rintro ⟨⟩
      have all : includedStatePaths.Nodup := by
        decide
      rw [items, List.nodup_append, List.nodup_cons] at all
      exact all.2.1.1 remaining

/-- The next walk, or the first file, is sound. -/
theorem OnlineState.Walking.exportSound {items : List String}
    {found : List StatePath} (walking : state.Walking items found) :
    OnlineState.ExportSound host text key
      { state with backup := nextWalk state.directory items found } := by
  cases items with
  | nil =>
      have all : ∀ path ∈ listed found [], path ∈ found := by
        intro path member
        exact member
      constructor
      · exact walking.distinct
      · exact fun path member => walking.inside path (all path member)
      · exact fun path member => walking.included path (all path member)
      · simp
      · simp
      · simp
  | cons item rest =>
      exact ⟨walking.remaining, walking.distinct, walking.inside,
        walking.included, walking.apart⟩

/-- The content of a file that still has its record is archived. -/
theorem OnlineState.Reading.archive (sound : state.Sound host puts text)
    {path : StatePath} {record : FileRecord} {files : List StatePath}
    {archived : List ArchivedFile}
    (reading : state.Reading host text (path :: files) archived)
    (covered : ∀ manifestId, path = manifestPath manifestId → ∀ manifest,
      state.directory.lookup path = some (text manifest) →
        manifest.Covered host (listed (path :: files) archived))
    {data : Bytes} (found : state.directory.lookup path = some data)
    (digest : sha256 data = record.sha256) (size : data.length = record.size) :
    state.Reading host text files (archived ++ [⟨path, record, data⟩]) := by
  have same : listed files (archived ++ [⟨path, record, data⟩]) =
      listed (path :: files) archived := by
    simp [listed]
  constructor
  · rw [same]
    exact reading.distinct
  · rw [same]
    exact reading.inside
  · rw [same]
    exact reading.included
  · rw [List.forall_mem_append, List.forall_mem_singleton]
    exact ⟨reading.intact, size, digest⟩
  · intro file member rest below chunk
    rcases List.mem_append.mp member with old | new
    · exact reading.chunks file old rest below chunk
    · rw [List.mem_singleton.mp new] at below ⊢
      rw [OnlineState.lookup_chunks chunk, ← below]
      exact found
  · intro file member manifestId own
    rw [same]
    rcases List.mem_append.mp member with old | new
    · exact reading.manifests file old manifestId own
    · rw [List.mem_singleton.mp new] at own ⊢
      cases own
      obtain ⟨manifest, payload, holds⟩ := sound.manifests manifestId data found
      refine ⟨manifest, payload, holds, covered manifestId rfl manifest ?_⟩
      rw [found, holds.text]

/-- Segments whose files are restored decode from them. -/
theorem decodes_of_restored {chunks restored : ChunkFiles}
    {segments : List Segment} {parts : List Bytes}
    (decodes : List.Forall₂ (fun segment part =>
      segment.stored.Decodes host chunks part) segments parts)
    (kept : ∀ segment ∈ segments, ∀ path,
      resolveUnder host.chunkRoot segment.stored.ref = .ok path → ∀ raw,
        chunks.files.lookup path = some raw →
          restored.files.lookup path = some raw) :
    List.Forall₂ (fun segment part =>
      segment.stored.Decodes host restored part) segments parts := by
  induction decodes with
  | nil => exact .nil
  | cons decoded _ ih =>
      obtain ⟨first, others⟩ := List.forall_mem_cons.mp kept
      obtain ⟨path, raw, resolved, found, undone⟩ := decoded.file
      exact .cons ⟨⟨path, raw, resolved, first path resolved raw found, undone⟩,
        decoded.digest⟩ (ih others)

/-- A finished export is consistent. -/
theorem OnlineState.Reading.restoresAll {archived : List ArchivedFile}
    (reading : state.Reading host text [] archived)
    (fits : (finishArchive key generatedAt archived).WithinLimits) :
    (finishArchive key generatedAt archived).RestoresAll host text key := by
  have every : listed [] archived = archived.map ArchivedFile.path :=
    List.append_nil _
  have archivable : Archivable state.directory archived := by
    have mem : ∀ file ∈ archived, file.path ∈ listed [] archived := by
      intro file member
      rw [every]
      exact List.mem_map_of_mem member
    exact ⟨every ▸ reading.distinct,
      fun file member => reading.inside _ (mem file member),
      fun file member => reading.included _ (mem file member)⟩
  obtain ⟨restored, imported, lookup, -⟩ :=
    archivable.restores key generatedAt fits reading.intact
  refine ⟨restored, imported, ?_, ?_⟩
  · intro entry member
    obtain ⟨file, inArchive, rfl⟩ := List.mem_map.mp member
    exact ⟨file.path, rfl, (lookup _ _).mpr ⟨file, inArchive, rfl, rfl⟩⟩
  · intro manifestId data found
    obtain ⟨file, member, own, rfl⟩ := (lookup _ _).mp found
    obtain ⟨manifest, payload, holds, covered⟩ :=
      reading.manifests file member manifestId own
    refine ⟨manifest, holds.text, ?_⟩
    intro formats supply session reads admitted
    have kept : ∀ segment ∈ manifest.physical.segments, ∀ path,
        resolveUnder host.chunkRoot segment.stored.ref = .ok path → ∀ raw,
          state.chunks.files.lookup path = some raw →
            (restored.chunkFiles formats).files.lookup path = some raw := by
      intro segment inManifest path resolved raw stored
      have chunk := isChunkPath_of_lookup stored
      have inList := covered segment inManifest path resolved
      rw [every] at inList
      obtain ⟨chunkFile, chunkMember, below⟩ := List.mem_map.mp inList
      have same := reading.chunks chunkFile chunkMember path below chunk
      rw [stored] at same
      cases same
      change (restored.filesIn "chunks").lookup path = _
      rw [StateDirectory.lookup_filesIn, if_neg (by simp [chunk.2])]
      exact (lookup _ _).mpr ⟨chunkFile, chunkMember, below, rfl⟩
    obtain ⟨parts, decodes, joined⟩ := holds.restores.segments
    have restores : manifest.reloaded.Restores host
        (restored.chunkFiles formats) payload :=
      ⟨holds.restores.hash, parts, decodes_of_restored decodes kept, joined⟩
    have identifier := (validateIdentifier_eq_ok holds.accepted).2
    have record := @StateDirectory.lookup_records _ restored "manifests"
      formats.manifest ⟨manifestId, identifier⟩ _ _ found reads
    have whole := @rehydrateManifest_of_restores host session
      (restored.world formats supply) manifestId manifest.reloaded payload
      holds.accepted record admitted restores
    exact ⟨payload, congrArg Prod.fst whole⟩

end Steps

/-! ## Runs -/

section Runs

variable {host : Host} {text : Manifest → Bytes} {key : Option String}
variable {generatedAt : String} {output : Option StatePath}

/-- The exporter's own step. -/
theorem exportSound_exportStep {puts : List Put} {state : OnlineState}
    (sound : state.Sound host puts text)
    (exportSound : state.ExportSound host text key) {seen : List StatePath}
    (meets : OnlineAction.Meets host text key generatedAt output state
      (.backup seen)) :
    (onlineStep host key generatedAt output text state
      (.backup seen)).2.ExportSound host text key := by
  have again : OnlineState.ExportSound host text key { state with
      backup := nextWalk state.directory includedStatePaths [] } := by
    apply OnlineState.Walking.exportSound
    exact ⟨⟨[], rfl⟩, List.nodup_nil, by simp, by simp, by simp⟩
  unfold OnlineState.ExportSound at exportSound
  simp only [onlineStep]
  cases phase : state.backup with
  | idle => exact again
  | failed error => exact again
  | finished archive => exact again
  | walking item rest before found =>
      rw [phase] at exportSound
      simp only [exportStep]
      split
      · rename_i sees
        exact (exportSound.seen sees).exportSound
      · exact ⟨exportSound.remaining, exportSound.distinct, exportSound.inside,
          exportSound.included, exportSound.apart⟩
  | reading files archived =>
      rw [phase] at exportSound
      cases files with
      | nil =>
          exact OnlineState.Reading.restoresAll exportSound
            (meets.limits seen rfl archived phase)
      | cons path files =>
          have member : path ∈ listed (path :: files) archived := by
            simp [listed]
          obtain ⟨data, found⟩ := StateDirectory.mem_paths_iff.mp
            (exportSound.inside path member)
          simp only [exportStep, found]
          exact ⟨{ exportSound with }, data, found, rfl, by simp⟩
  | hashed path digest files archived =>
      rw [phase] at exportSound
      obtain ⟨reading, data, found, holds, -⟩ := exportSound
      simp only [exportStep, found]
      exact ⟨{ reading with }, data, found, holds, fun _ same =>
        Option.some.inj same⟩
  | measured path record files archived =>
      rw [phase] at exportSound
      obtain ⟨reading, data, found, digest, size⟩ := exportSound
      simp only [exportStep, found]
      refine { reading.archive sound ?_ found digest (size _ rfl) with }
      rintro manifestId rfl
      exact meets.covered seen rfl manifestId record files archived phase

/-- Nothing is stored before the run. -/
theorem sound_start_online (puts : List Put) :
    OnlineState.Sound host puts text {} := by
  refine ⟨ChunkFiles.sound_empty.of_same ?_ rfl, ?_, ?_⟩
  · exact ⟨fun _ _ found => (nomatch found), fun _ _ found => (nomatch found)⟩
  · intro process running found
    cases found
  · intro manifestId data found
    cases found

/-- In every run whose steps meet the condition, every archive that an export
finishes is accepted by the import, and its manifests rehydrate. -/
theorem finished_export_restores (codecs : host.CodecsRoundTrip)
    {actions : List OnlineAction}
    (collisionFree : CollisionFree (actions.flatMap (OnlineAction.puts host)))
    (meets : ∀ v ∈ Run.visits (onlineStep host key generatedAt output text) {}
      actions, v.input.Meets host text key generatedAt output v.before) :
    ∀ v ∈ Run.visits (onlineStep host key generatedAt output text) {} actions,
      ∀ archive, v.after.backup = .finished archive →
        archive.RestoresAll host text key := by
  let puts := actions.flatMap (OnlineAction.puts host)
  let step := onlineStep host key generatedAt output text
  let sound := fun state : OnlineState =>
    state.Sound host puts text ∧ state.ExportSound host text key
  have guarded : ∀ v ∈ Run.visits step {} actions,
      v.input.Meets host text key generatedAt output v.before ∧
        v.input ∈ actions :=
    fun v member => ⟨meets v member, (Run.visit_of_mem member).1⟩
  have keeps : ∀ state action,
      action.Meets host text key generatedAt output state ∧ action ∈ actions →
        sound state → sound (step state action).2 := by
    rintro state action ⟨met, inRun⟩ ⟨before, exporting⟩
    by_cases own : ∃ seen, action = .backup seen
    · obtain ⟨seen, rfl⟩ := own
      exact ⟨⟨before.chunks, before.running, before.manifests⟩,
        exportSound_exportStep before exporting met⟩
    · have members : ∀ process execution, action = .start process execution →
          ∀ put ∈ execution.puts host, put ∈ puts := by
        rintro process execution rfl put member
        exact List.mem_flatMap.mpr ⟨_, inRun, member⟩
      obtain ⟨after, extended⟩ := @sound_onlineStep host puts text state key
        generatedAt output codecs collisionFree before action members
        met.restorable fun seen same => own ⟨seen, same⟩
      exact ⟨after, exporting.kept extended met.unchanged⟩
  have all := @Run.visits_guarded _ _ _ step sound _ actions {}
    ⟨sound_start_online puts, trivial⟩ keeps guarded
  intro v member archive finished
  have after := (all v member).2.2
  unfold OnlineState.ExportSound at after
  rw [finished] at after
  exact after

end Runs

/-! ## An export of two files -/

/-- An export that nothing else runs beside, with no manifest to read. -/
def OnlineAction.isQuiet (key : Option String) (generatedAt : String)
    (state : OnlineState) : OnlineAction → Bool
  | .putManifest _ _ _ => false
  | .backup _ =>
      match state.backup with
      | .measured path _ _ _ => path.head? != some "manifests"
      | .reading [] archived =>
          let archive := finishArchive key generatedAt archived
          archive.names.length ≤ maxArchiveFiles &&
            archive.totalSize ≤ maxArchiveBytes
      | _ => true
  | _ =>
      match state.backup with
      | .idle => true
      | _ => false

theorem OnlineAction.meets_of_isQuiet {host : Host} {text : Manifest → Bytes}
    {key : Option String} {generatedAt : String} {output : Option StatePath}
    {state : OnlineState} {action : OnlineAction}
    (quiet : action.isQuiet key generatedAt state = true) :
    action.Meets host text key generatedAt output state := by
  constructor
  · intro path watched
    cases action with
    | backup seen => rfl
    | putManifest process manifestId createdAt => cases quiet
    | _ =>
        cases phase : state.backup with
        | idle =>
            rw [phase] at watched
            exact watched.elim
        | _ =>
            simp only [isQuiet, phase] at quiet
            cases quiet
  · rintro seen rfl manifestId record files archived phase
    simp only [isQuiet, phase] at quiet
    exact absurd rfl (bne_iff_ne.mp quiet)
  · rintro seen rfl archived phase
    simp only [isQuiet, phase, Bool.and_eq_true, decide_eq_true_eq] at quiet
    exact quiet
  · rintro process manifestId createdAt rfl
    cases quiet

/-- An export that sees these files, from its start to its end. -/
def exportActions (files : List StatePath) : List OnlineAction :=
  .backup [] :: (includedStatePaths.map fun item =>
      .backup (files.filter fun path => path.head? = some item)) ++
    List.replicate (3 * files.length + 1) (.backup [])

def sampleChunkPath : StatePath := (StoreFile.chunk "acme" "default" [104, 105]).path

/-- An execution stores its chunk, the ledger gets a line, and both are
exported. -/
def sampleOnlineActions : List OnlineAction :=
  [.start 0 (sampleExecution "acme" "default" "enforce"), .putChunk 0,
    .verify 0, .write (.store .ledger [123, 125, 10]) rfl] ++
    exportActions [sampleChunkPath, StoreFile.ledger.path]

theorem puts_exportActions (host : Host) (files : List StatePath) :
    (exportActions files).flatMap (OnlineAction.puts host) = [] := by
  rw [List.flatMap_eq_nil_iff]
  intro action member
  unfold exportActions at member
  rcases List.mem_cons.mp member with rfl | member
  · rfl
  · rcases List.mem_append.mp member with walk | read
    · obtain ⟨item, -, rfl⟩ := List.mem_map.mp walk
      rfl
    · rw [List.eq_of_mem_replicate read]
      rfl

def ExportPhase.isFinished : ExportPhase → Bool
  | .finished _ => true
  | _ => false

theorem sampleOnlineActions_quiet :
    ((Run.visits (onlineStep Host.counting none "" none fun _ => []) {}
      sampleOnlineActions).all
        fun v => v.input.isQuiet none "" v.before) = true := by
  decide +kernel

theorem sampleOnlineActions_finished :
    ((Run.visits (onlineStep Host.counting none "" none fun _ => []) {}
      sampleOnlineActions).any fun v => v.after.backup.isFinished) = true := by
  decide +kernel

theorem collisionFree_sampleOnlineActions : CollisionFree
    (sampleOnlineActions.flatMap (OnlineAction.puts Host.counting)) := by
  apply collisionFree_sampleExecutions.subset
  intro put member
  unfold sampleOnlineActions at member
  rw [List.flatMap_append, puts_exportActions, List.append_nil] at member
  obtain ⟨action, listed, own⟩ := List.mem_flatMap.mp member
  rcases List.mem_cons.mp listed with rfl | listed
  · exact List.mem_flatMap.mpr ⟨_, List.mem_cons_self, own⟩
  · rcases List.mem_cons.mp listed with rfl | listed
    · cases own
    · rcases List.mem_cons.mp listed with rfl | listed
      · cases own
      · rw [List.mem_singleton.mp listed] at own
        cases own

/-- The archive of a chunk and the ledger restores. -/
theorem finished_export_restores_sample :
    ∃ v ∈ Run.visits (onlineStep Host.counting none "" none fun _ => []) {}
        sampleOnlineActions,
      ∃ archive, v.after.backup = .finished archive ∧
        archive.RestoresAll Host.counting (fun _ => []) none := by
  obtain ⟨v, member, finished⟩ :=
    List.any_eq_true.mp sampleOnlineActions_finished
  refine ⟨v, member, ?_⟩
  cases phase : v.after.backup with
  | finished archive =>
      refine ⟨archive, rfl, ?_⟩
      have meets : ∀ v ∈ Run.visits (onlineStep Host.counting none "" none
          fun _ => []) {} sampleOnlineActions,
            v.input.Meets Host.counting (fun _ => []) none "" none v.before :=
        fun v member => OnlineAction.meets_of_isQuiet
          (List.all_eq_true.mp sampleOnlineActions_quiet v member)
      exact finished_export_restores Host.counting_codecs
        collisionFree_sampleOnlineActions meets v member archive phase
  | _ =>
      rw [phase] at finished
      cases finished

/-! ## An export that the ledger grows under -/

/-- The ledger gets a second line between the reads of its digest and of its
size. -/
def appendedActions : List OnlineAction :=
  let backup := exportActions [StoreFile.ledger.path]
  let hashed := includedStatePaths.length + 2
  [.write (.store .ledger [123, 125, 10]) rfl] ++ backup.take hashed ++
    [.write (.store .ledger [123, 125, 10, 123, 125, 10]) rfl] ++
      backup.drop hashed

theorem appendedActions_refused :
    ((Run.visits (onlineStep Host.counting none "" none fun _ => []) {}
      appendedActions).any fun v =>
        match v.after.backup with
        | .finished archive => !(importState none archive ∅).isOk
        | _ => false) = true := by
  decide +kernel

theorem puts_appendedActions (host : Host) :
    appendedActions.flatMap (OnlineAction.puts host) = [] := by
  have backup : ∀ action ∈ exportActions [StoreFile.ledger.path],
      action.puts host = [] := by
    rw [← List.flatMap_eq_nil_iff]
    exact puts_exportActions host _
  rw [List.flatMap_eq_nil_iff]
  intro action member
  unfold appendedActions at member
  rcases List.mem_append.mp member with member | late
  · rcases List.mem_append.mp member with member | write
    · rcases List.mem_append.mp member with write | early
      · rw [List.mem_singleton.mp write]
        rfl
      · exact backup action (List.mem_of_mem_take early)
    · rw [List.mem_singleton.mp write]
      rfl
  · exact backup action (List.mem_of_mem_drop late)

/-- The digest of the archived ledger is that of its first line: the import
refuses the archive. -/
theorem appended_export_refused :
    ¬ ∀ actions, CollisionFree
        (actions.flatMap (OnlineAction.puts Host.counting)) →
      ∀ v ∈ Run.visits (onlineStep Host.counting none "" none fun _ => []) {}
          actions,
        ∀ archive, v.after.backup = .finished archive →
          archive.RestoresAll Host.counting (fun _ => []) none := by
  intro always
  obtain ⟨v, member, refused⟩ := List.any_eq_true.mp appendedActions_refused
  have restores := always appendedActions (by
    rw [puts_appendedActions]
    exact collisionFree_sampleExecutions.subset fun _ none => (nomatch none)) v
      member
  split at refused
  · rename_i archive finished
    obtain ⟨restored, imported, -⟩ := restores archive finished
    rw [imported] at refused
    cases refused
  · cases refused

end Urp
