import Urp.BackupRoundTrip
import Urp.World

/-!
# The files of the stores

The paths that the stores write below a state directory, runs of such writes,
and what the stores hold as a function of the files.
-/

namespace Urp

open Python

/-! ## Names -/

/-- What `validate_identifier` accepts. -/
structure Identifier where
  text : String
  valid : isIdentifier text = true

namespace Identifier

theorem exists_cons (id : Identifier) :
    ∃ first rest, id.text.toList = first :: rest ∧ first.isAlphanum = true := by
  have valid := id.valid
  unfold isIdentifier at valid
  split at valid
  · cases valid
  · rename_i first rest text
    simp only [Bool.and_eq_true] at valid
    exact ⟨first, rest, text, valid.1.1⟩

/-- The name of the identifier's JSON file. -/
def jsonName (id : Identifier) : String := id.text ++ ".json"

end Identifier

/-- The export skips names by their ends, and by a dot in front. -/
theorem isSkipped_eq_false {name : String} {first last : Char}
    (head : name.toList.head? = some first) (plain : first ≠ '.')
    (ending : name.toList.getLast? = some last)
    (kept : last ∉ ['k', 'l', 'm']) : isSkipped name = false := by
  have apart : ∀ early : List Char, ∀ c ∈ ['k', 'l', 'm'],
      ¬ early ++ [c] <:+ name.toList := by
    rintro early c member ⟨before, text⟩
    rw [← text, ← List.append_assoc, List.getLast?_concat] at ending
    cases ending
    exact kept member
  have lock := apart ".loc".toList 'k' (by simp)
  have wal := apart "-wa".toList 'l' (by simp)
  have shm := apart "-sh".toList 'm' (by simp)
  have front : ¬ ".backup".toList <+: name.toList := by
    rintro ⟨after, text⟩
    rw [← text] at head
    cases head
    exact plain rfl
  rw [Bool.eq_false_iff]
  simp only [isSkipped, hasSuffix, ne_eq, Bool.or_eq_true,
    List.isSuffixOf_iff_suffix, List.isPrefixOf_iff_prefix]
  rintro (((ends | ends) | ends) | begins)
  · exact lock ends
  · exact wal ends
  · exact shm ends
  · exact front begins

/-- A name that an identifier begins. -/
theorem Identifier.isSkipped_append (id : Identifier) {rest : String}
    {last : Char} (ending : rest.toList.getLast? = some last)
    (kept : last ∉ ['k', 'l', 'm']) : isSkipped (id.text ++ rest) = false := by
  obtain ⟨first, tail, text, alphanumeric⟩ := id.exists_cons
  apply isSkipped_eq_false _ _ _ kept
  · exact first
  · simp [String.toList_append, text]
  · rintro rfl
    revert alphanumeric
    decide
  · rw [String.toList_append, List.getLast?_append, ending]
    rfl

theorem isSkipped_sha256 (data : Bytes) : isSkipped (sha256 data) = false := by
  have digits : ∀ c ∈ (sha256 data).toList, c ≠ '.' ∧ c ∉ ['k', 'l', 'm'] := by
    intro c member
    have digit := sha256_digits member
    constructor
    · rintro rfl
      revert digit
      decide
    · intro letter
      have apart : (['k', 'l', 'm'].all fun c => !isHexDigit c) = true := by
        decide
      have plain := List.all_eq_true.mp apart c letter
      rw [digit] at plain
      cases plain
  have nonempty : (sha256 data).toList ≠ [] := by
    intro empty
    have size := length_sha256 data
    rw [empty] at size
    cases size
  have head := List.head?_eq_some_head nonempty
  have last := List.getLast?_eq_some_getLast nonempty
  exact isSkipped_eq_false head (digits _ (List.head_mem nonempty)).1 last
    (digits _ (List.getLast_mem nonempty)).2

/-! ## The stores' files -/

/-- The files that the stores replace or append to.  A chunk's file is named
by the domain of its tenant and namespace and by its digest. -/
inductive StoreFile where
  | approvalSigningKey
  | kmsKeys
  | kmsMasterKey
  | ledger
  | logs
  | traces
  | routeFeedback
  | schedulerJobs
  | manifestDatabase
  | cacheDatabase
  | chunkIndex
  | chunk (tenant nameSpace : String) (data : Bytes)
  | activePolicies
  | policy (name version : Identifier)
  | approval (id : Identifier)
  | manifest (id : Identifier)
  | plan (id : Identifier)
  | plugin (name : Identifier)
  | workUnit (id : Identifier)
  | checkpoint (id : Identifier)
  | checkpointBase (id : Identifier)
  | checkpointBlock (id : Identifier) (index : Nat)

namespace StoreFile

open LocalChunkStore CheckpointDeltaStore in
def path : StoreFile → StatePath
  | approvalSigningKey => ["approval_signing.key"]
  | kmsKeys => ["kms_keys.json"]
  | kmsMasterKey => ["kms_master.key"]
  | ledger => ["ledger.jsonl"]
  | logs => ["logs.jsonl"]
  | traces => ["traces.jsonl"]
  | routeFeedback => ["route_feedback.jsonl"]
  | schedulerJobs => ["scheduler_jobs.jsonl"]
  | manifestDatabase => ["manifests.sqlite3"]
  | cacheDatabase => ["cache", "cache.sqlite3"]
  | chunkIndex => ["chunks", "index.json"]
  | chunk tenant nameSpace data =>
      ["chunks", domainDir tenant nameSpace, sha256 data]
  | activePolicies => ["policies", "active.json"]
  | policy name version => ["policies", name.text, version.jsonName]
  | approval id => ["approvals", id.jsonName]
  | manifest id => ["manifests", id.jsonName]
  | plan id => ["plans", id.jsonName]
  | plugin name => ["plugins", name.jsonName]
  | workUnit id => ["work_units", id.jsonName]
  | checkpoint id => ["checkpoints", id.jsonName]
  | checkpointBase id => ["checkpoints", baseName id.text]
  | checkpointBlock id index => ["checkpoints", blockName id.text index]

open CheckpointDeltaStore in
theorem isSkipped_path (file : StoreFile) :
    isSkipped (file.path.getLast?.getD "") = false := by
  have json : ∀ id : Identifier, isSkipped id.jsonName = false := by
    intro id
    apply id.isSkipped_append
    · rfl
    · decide
  cases file with
  | chunk tenant nameSpace data => exact isSkipped_sha256 data
  | policy name version => exact json version
  | approval id => exact json id
  | manifest id => exact json id
  | plan id => exact json id
  | plugin name => exact json name
  | workUnit id => exact json id
  | checkpoint id => exact json id
  | checkpointBase id =>
      apply id.isSkipped_append
      · rfl
      · decide
  | checkpointBlock id index =>
      have digits : (toString index).toList = Nat.toDigits 10 index := by
        simp [toString, Nat.repr]
      have nonempty : (toString index).toList ≠ [] := by
        rw [digits]
        exact Nat.toDigits_ne_nil
      have last := List.getLast?_eq_some_getLast nonempty
      have digit := digits_toString (List.getLast_mem nonempty)
      have name : blockName id.text index =
          id.text ++ (".block." ++ toString index) := String.append_assoc
      change isSkipped (blockName id.text index) = false
      rw [name]
      apply id.isSkipped_append
      · rw [String.toList_append, List.getLast?_append, last]
        rfl
      · intro letter
        have apart : (['k', 'l', 'm'].all fun c => !c.isDigit) = true := by
          decide
        have plain := List.all_eq_true.mp apart _ letter
        rw [digit] at plain
        cases plain
  | _ => decide

end StoreFile

def isLockFile (path : StatePath) : Bool :=
  hasSuffix ".lock" (path.getLast?.getD "")

theorem not_isLockFile_of_kept {path : StatePath}
    (kept : isSkipped (path.getLast?.getD "") = false) :
    isLockFile path = false := by
  unfold isSkipped at kept
  simp only [Bool.or_eq_false_iff] at kept
  exact kept.1.1.1

theorem StoreFile.not_isLockFile (file : StoreFile) :
    isLockFile file.path = false :=
  not_isLockFile_of_kept file.isSkipped_path

/-! ## Runs of writes -/

/-- One file write: a store's, of a lock file, or of a file that no backup
includes. -/
inductive StateWrite where
  | store (file : StoreFile) (data : Bytes)
  | lock (path : StatePath) (locks : isLockFile path = true)
  | other (path : StatePath) (data : Bytes) (outside : ¬ IsIncluded path)

namespace StateWrite

def path : StateWrite → StatePath
  | store file _ => file.path
  | lock path _ => path
  | other path _ _ => path

def data : StateWrite → Bytes
  | store _ data => data
  | lock _ _ => []
  | other _ data _ => data

end StateWrite

/-- A write that fails leaves the directory. -/
def stateStep (directory : StateDirectory) (write : StateWrite) :
    Except PyException Unit × StateDirectory :=
  match directory.write write.path write.data with
  | .ok later => (.ok (), later)
  | .error error => (.error error, directory)

/-- What a backup includes of the directory are lock files and the stores'
files. -/
def StateDirectory.Stored (directory : StateDirectory) : Prop :=
  ∀ path ∈ directory.paths, IsIncluded path →
    isLockFile path = true ∨ ∃ file : StoreFile, path = file.path

theorem stored_stateStep {directory : StateDirectory}
    (stored : directory.Stored) (write : StateWrite) :
    (stateStep directory write).2.Stored := by
  unfold stateStep StateDirectory.write
  split
  · rename_i later written
    split at written
    · cases written
      intro path member included
      obtain ⟨⟨_, data⟩, inEntries, rfl⟩ := List.mem_map.mp member
      rcases Entries.mem_of_mem_insert inEntries with same | old
      · cases same
        cases write with
        | store file data => exact .inr ⟨file, rfl⟩
        | lock path locks => exact .inl locks
        | other path data outside => exact absurd included outside
      · exact stored _ (List.mem_map_of_mem old) included
    · cases written
  · exact stored

theorem stored_run (writes : List StateWrite) :
    (Run.final stateStep ∅ writes).Stored := by
  apply Run.final_induction
  · intro path member
    cases member
  · intro directory write _ stored
    exact stored_stateStep stored write

/-- The export takes every store's file but its own output. -/
theorem StateDirectory.Stored.mem_stateFiles_iff {directory : StateDirectory}
    (stored : directory.Stored) {output : Option StatePath}
    (apart : ∀ file : StoreFile, output ≠ some file.path) {path : StatePath} :
    path ∈ stateFiles directory.paths output ↔ path ∈ directory.paths ∧
      IsIncluded path ∧ isLockFile path = false := by
  rw [Urp.mem_stateFiles_iff]
  constructor
  · rintro ⟨member, included, -, kept⟩
    exact ⟨member, included, not_isLockFile_of_kept kept⟩
  · rintro ⟨member, included, unlocked⟩
    rcases stored path member included with locks | ⟨file, rfl⟩
    · rw [locks] at unlocked
      cases unlocked
    · exact ⟨member, included, (apart file).symm, file.isSkipped_path⟩

/-! ## What the stores hold -/

/-- What the files read back as; what does not parse counts as absent. -/
structure StateFormats where
  activePolicies : Bytes → Dict String String
  policy : Bytes → Option PolicyRecord
  approval : Bytes → Option ApprovalRecord
  plan : Bytes → Option Plan
  manifest : Bytes → Option Manifest
  checkpoint : Bytes → Option CheckpointManifest
  chunkIndex : Bytes → Dict String StoredChunk

namespace StateDirectory

/-- The files at or below the path that are not lock files, in order. -/
def pathsBelow (directory : StateDirectory) (item : String) : List StatePath :=
  (directory.paths.filter fun path =>
    path.head? = some item && !isLockFile path).insertionSort
      fun left right => left ≤ right

theorem mem_pathsBelow_iff {directory : StateDirectory} {item : String}
    {path : StatePath} :
    path ∈ directory.pathsBelow item ↔
      (∃ data, directory.lookup path = some data) ∧
        path.head? = some item ∧ isLockFile path = false := by
  simp [pathsBelow, mem_paths_iff]

theorem nodup_pathsBelow (directory : StateDirectory) (item : String) :
    (directory.pathsBelow item).Nodup :=
  (List.perm_insertionSort _ _).nodup_iff.mpr (directory.nodup_paths.filter _)

def below (directory : StateDirectory) (item : String) :
    List (StatePath × Bytes) :=
  (directory.pathsBelow item).filterMap fun path =>
    (directory.lookup path).map fun data => (path, data)

theorem below_congr {first second : StateDirectory} {item : String}
    (same : ∀ path : StatePath, path.head? = some item →
      isLockFile path = false → first.lookup path = second.lookup path) :
    first.below item = second.below item := by
  have permuted : (first.pathsBelow item).Perm (second.pathsBelow item) := by
    rw [List.perm_ext_iff_of_nodup (first.nodup_pathsBelow item)
      (second.nodup_pathsBelow item)]
    intro path
    rw [mem_pathsBelow_iff, mem_pathsBelow_iff]
    constructor
    · rintro ⟨⟨data, found⟩, head, unlocked⟩
      exact ⟨⟨data, same path head unlocked ▸ found⟩, head, unlocked⟩
    · rintro ⟨⟨data, found⟩, head, unlocked⟩
      exact ⟨⟨data, (same path head unlocked).trans found⟩, head, unlocked⟩
  have paths : first.pathsBelow item = second.pathsBelow item :=
    permuted.eq_of_pairwise' (List.pairwise_insertionSort _ _)
      (List.pairwise_insertionSort _ _)
  unfold below
  rw [paths]
  apply List.filterMap_congr
  intro path member
  obtain ⟨-, head, unlocked⟩ := mem_pathsBelow_iff.mp member
  rw [same path head unlocked]

/-- `path.stem` of a JSON file. -/
def stem (name : String) : String :=
  String.ofList (name.toList.take (name.toList.length - ".json".length))

/-- The record of a JSON file by the stem of its name. -/
def recordOf {α : Type} (read : Bytes → Option α) (file : StatePath × Bytes) :
    Option (String × α) :=
  match file.1 with
  | [_, name] =>
      if hasSuffix ".json" name = true then
        (read file.2).map fun record => (stem name, record)
      else none
  | _ => none

def records {α : Type} (directory : StateDirectory) (folder : String)
    (read : Bytes → Option α) : Dict String α :=
  .ofList ((directory.below folder).filterMap (recordOf read))

/-- The files of a folder by their paths below it. -/
def filesIn (directory : StateDirectory) (folder : String) :
    Dict (List String) Bytes :=
  .ofList ((directory.below folder).map fun file => (file.1.tail, file.2))

theorem mem_below_iff {directory : StateDirectory} {item : String}
    {path : StatePath} {data : Bytes} :
    (path, data) ∈ directory.below item ↔ path.head? = some item ∧
      isLockFile path = false ∧ directory.lookup path = some data := by
  simp only [below, List.mem_filterMap, mem_pathsBelow_iff, Option.map_eq_some_iff,
    Prod.mk.injEq]
  constructor
  · rintro ⟨_, ⟨-, head, unlocked⟩, _, found, rfl, rfl⟩
    exact ⟨head, unlocked, found⟩
  · rintro ⟨head, unlocked, found⟩
    exact ⟨path, ⟨⟨data, found⟩, head, unlocked⟩, data, found, rfl, rfl⟩

theorem map_fst_below (directory : StateDirectory) (item : String) :
    (directory.below item).map Prod.fst = directory.pathsBelow item := by
  have each : ∀ path ∈ directory.pathsBelow item,
      (((directory.lookup path).map fun data => (path, data)).map Prod.fst) =
        some path := by
    intro path member
    obtain ⟨⟨data, found⟩, -⟩ := mem_pathsBelow_iff.mp member
    rw [found]
    rfl
  unfold below
  rw [List.map_filterMap, List.filterMap_congr each, List.filterMap_some]

theorem lookup_filesIn (directory : StateDirectory) (folder : String)
    (path : List String) :
    (directory.filesIn folder).lookup path =
      if isLockFile (folder :: path) = true then none
      else directory.lookup (folder :: path) := by
  have distinct : (((directory.below folder).map fun file =>
      (file.1.tail, file.2)).map Prod.fst).Nodup := by
    have tails : ((directory.below folder).map fun file =>
        (file.1.tail, file.2)).map Prod.fst =
          (directory.pathsBelow folder).map List.tail := by
      rw [← map_fst_below, List.map_map, List.map_map]
      rfl
    rw [tails]
    refine (directory.nodup_pathsBelow folder).map_on ?_
    intro first inFirst second inSecond same
    obtain ⟨-, firstHead, -⟩ := mem_pathsBelow_iff.mp inFirst
    obtain ⟨-, secondHead, -⟩ := mem_pathsBelow_iff.mp inSecond
    rw [List.eq_cons_of_mem_head? firstHead, List.eq_cons_of_mem_head? secondHead,
      same]
  apply Option.ext
  intro data
  unfold filesIn
  rw [Dict.lookup_ofList distinct, List.mem_map]
  constructor
  · rintro ⟨⟨whole, written⟩, member, same⟩
    obtain ⟨head, unlocked, found⟩ := mem_below_iff.mp member
    cases same
    rw [List.eq_cons_of_mem_head? head] at unlocked found
    rw [unlocked]
    exact found
  · intro found
    split at found
    · cases found
    · rename_i unlocked
      refine ⟨(folder :: path, data), mem_below_iff.mpr ⟨rfl, ?_, found⟩, rfl⟩
      simpa using unlocked

theorem stem_append {name : String} (suffix : hasSuffix ".json" name = true) :
    stem name ++ ".json" = name := by
  unfold hasSuffix at suffix
  rw [List.isSuffixOf_iff_suffix] at suffix
  obtain ⟨early, text⟩ := suffix
  have size : ".json".length = 5 := by
    decide
  apply String.toList_inj.mp
  unfold stem
  rw [String.toList_append, String.toList_ofList, ← text, size]
  simp

theorem stem_jsonName (id : Identifier) : stem id.jsonName = id.text := by
  have size : ".json".length = 5 := by
    decide
  apply String.toList_inj.mp
  simp [stem, Identifier.jsonName, String.toList_append, size]

theorem recordOf_eq_some {α : Type} {read : Bytes → Option α}
    {file : StatePath × Bytes} {entry : String × α}
    (made : recordOf read file = some entry) :
    ∃ folder, file.1 = [folder, entry.1 ++ ".json"] := by
  obtain ⟨path, data⟩ := file
  unfold recordOf at made
  split at made
  · rename_i folder name shape
    split at made
    · rename_i suffix
      obtain ⟨record, -, rfl⟩ := Option.map_eq_some_iff.mp made
      exact ⟨folder, by rw [stem_append suffix]; exact shape⟩
    · cases made
  · cases made

/-- A record is found by the identifier that names its file. -/
theorem lookup_records {α : Type} {directory : StateDirectory}
    {folder : String} {read : Bytes → Option α} {id : Identifier}
    {data : Bytes} {record : α}
    (found : directory.lookup [folder, id.jsonName] = some data)
    (reads : read data = some record) :
    (directory.records folder read).lookup id.text = some record := by
  have suffix : hasSuffix ".json" id.jsonName = true := by
    simp [hasSuffix, Identifier.jsonName, String.toList_append,
      List.isSuffixOf_iff_suffix]
  have unlocked : isLockFile [folder, id.jsonName] = false := by
    apply not_isLockFile_of_kept
    apply id.isSkipped_append
    · rfl
    · decide
  unfold records
  rw [Dict.lookup_ofList]
  · rw [List.mem_filterMap]
    refine ⟨([folder, id.jsonName], data),
      mem_below_iff.mpr ⟨rfl, unlocked, found⟩, ?_⟩
    simp only [recordOf, suffix, if_true, reads, Option.map_some,
      stem_jsonName]
  · rw [List.Nodup, List.pairwise_map, List.pairwise_filterMap]
    have distinct : (directory.below folder).Pairwise
        fun first second => first.1 ≠ second.1 := by
      rw [← List.pairwise_map, map_fst_below]
      exact directory.nodup_pathsBelow folder
    refine distinct.imp_of_mem ?_
    rintro ⟨first, firstData⟩ ⟨second, secondData⟩ inFirst inSecond different
      entry fromFirst other fromSecond same
    obtain ⟨firstHead, -⟩ := mem_below_iff.mp inFirst
    obtain ⟨secondHead, -⟩ := mem_below_iff.mp inSecond
    obtain ⟨firstFolder, rfl⟩ := recordOf_eq_some fromFirst
    obtain ⟨secondFolder, rfl⟩ := recordOf_eq_some fromSecond
    cases firstHead
    cases secondHead
    rw [same] at different
    exact different rfl

section Views

variable (formats : StateFormats) (directory : StateDirectory)

def policyFiles : PolicyFiles where
  records := .ofList ((directory.below "policies").filterMap fun file =>
    match file.1 with
    | [_, name, version] =>
        if hasSuffix ".json" version = true then
          (formats.policy file.2).map fun record =>
            ((name, stem version), record)
        else none
    | _ => none)
  activeFile :=
    match directory.lookup StoreFile.activePolicies.path with
    | some data => .file (formats.activePolicies data)
    | none =>
        if (directory.below "policies").any fun file =>
            StoreFile.activePolicies.path.isPrefixOf file.1 then .directory
        else .absent

def chunkFiles : ChunkFiles where
  files := directory.filesIn "chunks"
  index := ((directory.lookup StoreFile.chunkIndex.path).map
    formats.chunkIndex).getD ∅

def checkpointFiles (supply : Supply) : CheckpointFiles where
  files := directory.filesIn "checkpoints"
  manifests := directory.records "checkpoints" formats.checkpoint
  supply

/-- The stores over the directory. -/
def world (supply : Supply) : World where
  ledger := ⟨(directory.lookup StoreFile.ledger.path).getD [], supply⟩
  policies := directory.policyFiles formats
  approvals := directory.records "approvals" formats.approval
  plans := directory.records "plans" formats.plan
  chunks := directory.chunkFiles formats
  manifests := directory.records "manifests" formats.manifest

end Views

/-- The first directory has every file of the second that a backup includes,
less the lock files. -/
def Reproduces (first second : StateDirectory) : Prop :=
  ∀ path, IsIncluded path → isLockFile path = false →
    first.lookup path = second.lookup path

theorem Reproduces.below {first second : StateDirectory}
    (reproduces : first.Reproduces second) {item : String}
    (included : item ∈ includedStatePaths) :
    first.below item = second.below item := by
  apply below_congr
  intro path head unlocked
  exact reproduces path ⟨item, included, head⟩ unlocked

theorem Reproduces.lookup_path {first second : StateDirectory}
    (reproduces : first.Reproduces second) {file : StoreFile}
    (included : IsIncluded file.path) :
    first.lookup file.path = second.lookup file.path :=
  reproduces _ included file.not_isLockFile

section Reads

variable {first second : StateDirectory} (reproduces : first.Reproduces second)
variable (formats : StateFormats) (supply : Supply)

include reproduces

theorem Reproduces.records {α : Type} (read : Bytes → Option α)
    {folder : String} (included : folder ∈ includedStatePaths) :
    first.records folder read = second.records folder read := by
  unfold StateDirectory.records
  rw [reproduces.below included]

theorem Reproduces.filesIn {folder : String}
    (included : folder ∈ includedStatePaths) :
    first.filesIn folder = second.filesIn folder := by
  unfold StateDirectory.filesIn
  rw [reproduces.below included]

theorem Reproduces.policyFiles :
    first.policyFiles formats = second.policyFiles formats := by
  have included : "policies" ∈ includedStatePaths := by
    decide
  unfold StateDirectory.policyFiles
  rw [reproduces.below included, @lookup_path _ _ reproduces
    .activePolicies ⟨_, included, rfl⟩]

theorem Reproduces.chunkFiles :
    first.chunkFiles formats = second.chunkFiles formats := by
  have included : "chunks" ∈ includedStatePaths := by
    decide
  unfold StateDirectory.chunkFiles
  rw [reproduces.filesIn included, @lookup_path _ _ reproduces
    .chunkIndex ⟨_, included, rfl⟩]

/-- Every checkpoint reads the same from both. -/
theorem Reproduces.checkpointFiles : first.checkpointFiles formats supply =
    second.checkpointFiles formats supply := by
  have included : "checkpoints" ∈ includedStatePaths := by
    decide
  unfold StateDirectory.checkpointFiles
  rw [reproduces.filesIn included, reproduces.records formats.checkpoint included]

/-- Every other store reads the same from both. -/
theorem Reproduces.world :
    first.world formats supply = second.world formats supply := by
  have included : "ledger.jsonl" ∈ includedStatePaths := by
    decide
  unfold StateDirectory.world
  rw [@lookup_path _ _ reproduces .ledger ⟨_, included, rfl⟩,
    reproduces.policyFiles, reproduces.chunkFiles,
    reproduces.records formats.approval (by decide),
    reproduces.records formats.plan (by decide),
    reproduces.records formats.manifest (by decide)]

end Reads

end StateDirectory

end Urp
