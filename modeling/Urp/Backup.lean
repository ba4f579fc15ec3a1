import Urp.ChunkPuts
import Urp.PlainData

/-!
# Disaster recovery

`disaster_recovery`: an archive of the files of a state directory with a
manifest of their checksums, and the import that verifies it.
-/

namespace Urp

open Python

/-! ## State directories -/

/-- The parts of a file's path below the state directory. -/
abbrev StatePath := List String

def isFileName (name : String) : Bool :=
  name != "" && name != "." && name != ".." && !name.toList.contains '/'

def isFilePath (path : StatePath) : Bool :=
  !path.isEmpty && path.all isFileName

/-- A tree of files: nothing stands below a file. -/
structure StateDirectory where
  files : Dict StatePath Bytes
  named : ∀ path ∈ files.entries.map Prod.fst, isFilePath path = true
  tree : ∀ path ∈ files.entries.map Prod.fst,
    ∀ other ∈ files.entries.map Prod.fst, path <+: other → path = other

namespace StateDirectory

def paths (directory : StateDirectory) : List StatePath :=
  directory.files.entries.map Prod.fst

def lookup (directory : StateDirectory) (path : StatePath) : Option Bytes :=
  directory.files.lookup path

def empty : StateDirectory where
  files := ∅
  named _ member := (nomatch member)
  tree _ member := (nomatch member)

instance : EmptyCollection StateDirectory := ⟨empty⟩

theorem mem_paths_iff {directory : StateDirectory} {path : StatePath} :
    path ∈ directory.paths ↔ ∃ data, directory.lookup path = some data := by
  unfold paths lookup
  simp [Dict.mem_entries_iff]

theorem nodup_paths (directory : StateDirectory) : directory.paths.Nodup :=
  directory.files.distinct

/-- A file can be written at the path: it is no directory, and no file stands
above it. -/
def fits (directory : StateDirectory) (path : StatePath) : Bool :=
  isFilePath path && decide (∀ other ∈ directory.paths,
    other <+: path ∨ path <+: other → other = path)

theorem fits_iff {directory : StateDirectory} {path : StatePath} :
    directory.fits path = true ↔ isFilePath path = true ∧
      ∀ other ∈ directory.paths, other <+: path ∨ path <+: other →
        other = path := by
  simp [fits]

def insert (directory : StateDirectory) (path : StatePath) (data : Bytes)
    (fits : directory.fits path = true) : StateDirectory where
  files := directory.files.insert path data
  named := by
    intro other member
    obtain ⟨⟨_, written⟩, inEntries, rfl⟩ := List.mem_map.mp member
    rcases Entries.mem_of_mem_insert inEntries with same | old
    · cases same
      exact (fits_iff.mp fits).1
    · exact directory.named _ (List.mem_map_of_mem old)
  tree := by
    have old : ∀ other ∈ (directory.files.insert path data).entries.map
        Prod.fst, other = path ∨ other ∈ directory.paths := by
      intro other member
      obtain ⟨⟨_, written⟩, inEntries, rfl⟩ := List.mem_map.mp member
      rcases Entries.mem_of_mem_insert inEntries with same | old
      · cases same
        exact .inl rfl
      · exact .inr (List.mem_map_of_mem old)
    have apart := (fits_iff.mp fits).2
    intro first firstMember second secondMember below
    rcases old first firstMember with rfl | firstOld
    · rcases old second secondMember with rfl | secondOld
      · rfl
      · exact (apart second secondOld (.inr below)).symm
    · rcases old second secondMember with rfl | secondOld
      · exact apart first firstOld (.inl below)
      · exact directory.tree first firstOld second secondOld below

def pathInTheWay (path : StatePath) : PyException :=
  .osError ("a directory or a file is in the way of " ++ asPosix path)

/-- `atomic_write_bytes(path, data)`. -/
def write (directory : StateDirectory) (path : StatePath) (data : Bytes) :
    Except PyException StateDirectory :=
  if fits : directory.fits path = true then
    .ok (directory.insert path data fits)
  else .error (pathInTheWay path)

end StateDirectory

/-! ## What is archived -/

def includedStatePaths : List String :=
  ["approval_signing.key", "approvals", "cache", "checkpoints", "chunks",
    "kms_keys.json", "kms_master.key", "ledger.jsonl", "logs.jsonl",
    "manifests", "manifests.sqlite3", "plans", "plugins", "policies",
    "route_feedback.jsonl", "scheduler_jobs.jsonl", "traces.jsonl",
    "work_units"]

def backupVersion : String := "urp.backup.v2"

def maxArchiveFiles : Nat := 1000000

def maxArchiveBytes : Nat := 1024 * 1024 * 1024 * 1024

def hasSuffix (suffix name : String) : Bool :=
  suffix.toList.isSuffixOf name.toList

/-- `name.endswith((".lock", "-wal", "-shm")) or name.startswith(".backup")`. -/
def isSkipped (name : String) : Bool :=
  hasSuffix ".lock" name || hasSuffix "-wal" name || hasSuffix "-shm" name ||
    ".backup".toList.isPrefixOf name.toList

/-- The files at or below one of the included paths, in order. -/
def candidates (paths : List StatePath) (item : String) : List StatePath :=
  (paths.filter fun path => path.head? = some item).insertionSort
    fun left right => left ≤ right

/-- `_state_files`; the archive itself may stand in the directory. -/
def stateFiles (paths : List StatePath) (output : Option StatePath) :
    List StatePath :=
  (includedStatePaths.flatMap (candidates paths)).filter fun path =>
    !decide (some path = output) && !isSkipped (path.getLast?.getD "")

/-! ## Archives -/

/-- An entry of `manifest["files"]`. -/
structure FileRecord where
  sha256 : String
  size : Nat
  deriving DecidableEq

structure BackupManifest where
  backupVersion : String
  generatedAt : String
  stateFormat : String
  files : Dict String FileRecord
  contentHash : String
  signatureAlgorithm : Option String := none
  signature : Option String := none

structure ZipEntry where
  filename : String
  data : Bytes
  isSymlink : Bool := false

/-- The entries, and `backup_manifest.json` as it reads back. -/
structure BackupArchive where
  entries : List ZipEntry
  manifest : Option BackupManifest

def manifestName : String := "backup_manifest.json"

namespace BackupManifest

/-- `manifest["files"]`. -/
def filesValue (files : Dict String FileRecord) : Value :=
  .dict (files.entries.map fun entry =>
    (entry.1, .dict [("sha256", .str entry.2.sha256),
      ("size", .int entry.2.size)]))

def filesHash (files : Dict String FileRecord) : String :=
  stableJsonHash (filesValue files)

/-- `URP_BACKUP_SIGNING_KEY`, if it is set. -/
def signingKey (key : Option String) : Option String :=
  key.filter fun text => text ≠ ""

def sign (key contentHash : String) : String :=
  hmacSha256 (utf8 key.toList) (utf8 contentHash.toList)

/-- `_validate_manifest`. -/
def validate (key : Option String) (manifest : BackupManifest) :
    Except PyException Unit :=
  if manifest.backupVersion ≠ Urp.backupVersion then
    .error (.valueError
      ("unsupported backup version: " ++ manifest.backupVersion))
  else if filesHash manifest.files ≠ manifest.contentHash then
    .error (.valueError "backup manifest content hash mismatch")
  else
    match signingKey key with
    | none => .ok ()
    | some key =>
        match manifest.signature.filter fun text => text ≠ "" with
        | none => .error (.valueError
            "signed backup is required by URP_BACKUP_SIGNING_KEY")
        | some signature =>
            if signature = sign key manifest.contentHash then .ok ()
            else .error (.valueError "backup manifest signature mismatch")

end BackupManifest

/-! ## Export -/

namespace Json

/-- A newline and the indentation of `indent=2`. -/
def newline (level : Nat) : List Char := '\n' :: List.replicate (2 * level) ' '

mutual

/-- `json.dumps(value, indent=2)`. -/
def indented (level : Nat) : Value → List Char
  | .list [] => "[]".toList
  | .dict [] => "{}".toList
  | .list items =>
      '[' :: newline (level + 1) ++ indentedItems (level + 1) items ++
        newline level ++ [']']
  | .dict entries =>
      '{' :: newline (level + 1) ++ indentedEntries (level + 1) entries ++
        newline level ++ ['}']
  | value => Python.Json.render .spaced value

def indentedItems (level : Nat) : List Value → List Char
  | [] => []
  | [item] => indented level item
  | item :: next :: rest =>
      indented level item ++ ',' :: newline level ++
        indentedItems level (next :: rest)

def indentedEntries (level : Nat) : List (String × Value) → List Char
  | [] => []
  | [(key, value)] =>
      Python.Json.renderString key.toList ++ ':' :: ' ' :: indented level value
  | (key, value) :: next :: rest =>
      Python.Json.renderString key.toList ++ ':' :: ' ' ::
        indented level value ++ ',' :: newline level ++
          indentedEntries level (next :: rest)

end

end Json

namespace BackupManifest

/-- The text of `backup_manifest.json`. -/
def text (manifest : BackupManifest) : List Char :=
  let signed := fun (key : String) (value : Option String) =>
    (value.map fun text => (key, Value.str text)).toList
  let fields := [("backup_version", .str manifest.backupVersion),
      ("generated_at", .str manifest.generatedAt),
      ("state_format", .str manifest.stateFormat),
      ("files", filesValue manifest.files),
      ("content_hash", .str manifest.contentHash)] ++
    signed "signature_algorithm" manifest.signatureAlgorithm ++
    signed "signature" manifest.signature
  Json.indented 0 (Value.dict fields).sorted ++ ['\n']

end BackupManifest

/-- A file as the export read it: its checksum and size first, its content
afterwards. -/
structure ArchivedFile where
  path : StatePath
  record : FileRecord
  data : Bytes

section Export

variable (key : Option String) (generatedAt : String)

/-- The archive of the files that were read. -/
def finishArchive (archived : List ArchivedFile) : BackupArchive :=
  let files := Dict.ofList (archived.map fun file =>
    (asPosix file.path, file.record))
  let contentHash := BackupManifest.filesHash files
  let signature := (BackupManifest.signingKey key).map fun key =>
    BackupManifest.sign key contentHash
  { entries := archived.map fun file => ⟨asPosix file.path, file.data, false⟩
    manifest := some {
      backupVersion, generatedAt, stateFormat := "local-durable-v1", files
      contentHash
      signatureAlgorithm := signature.map fun _ => "hmac-sha256"
      signature } }

def archiveFile (directory : StateDirectory) (path : StatePath) :
    ArchivedFile :=
  let data := (directory.lookup path).getD []
  ⟨path, ⟨sha256 data, data.length⟩, data⟩

/-- `export_state` of a directory that nothing else writes to. -/
def exportState (directory : StateDirectory) (output : Option StatePath) :
    BackupArchive :=
  finishArchive key generatedAt
    ((stateFiles directory.paths output).map (archiveFile directory))

end Export

/-! ## Import -/

namespace BackupArchive

/-- `archive.namelist()`. -/
def names (archive : BackupArchive) : List String :=
  archive.entries.map ZipEntry.filename ++
    (archive.manifest.map fun _ => manifestName).toList

def totalSize (archive : BackupArchive) : Nat :=
  (archive.entries.map fun entry => entry.data.length).sum +
    (archive.manifest.map fun manifest =>
      (utf8 manifest.text).length).getD 0

end BackupArchive

/-- `info.is_dir()`. -/
def ZipEntry.isDir (entry : ZipEntry) : Bool := hasSuffix "/" entry.filename

/-- `PurePosixPath(name).parts` of a relative path. -/
def posixParts (name : String) : List String :=
  (pathParts name).filter fun part => part ≠ "" ∧ part ≠ "."

/-- `_validate_archive_name`. -/
def validateArchiveName (name : String) : Except PyException Unit :=
  if name.toList.head? = some '/' ∨ posixParts name = [] ∨
      ".." ∈ posixParts name then
    .error (.valueError ("unsafe backup archive path: " ++ name))
  else .ok ()

/-- The loop of `_extract_verified`. -/
def extractEntries (files : Dict String FileRecord) :
    List ZipEntry → StateDirectory → Except PyException StateDirectory
  | [], staging => .ok staging
  | entry :: rest, staging =>
      if entry.isDir = true then extractEntries files rest staging
      else do
        validateArchiveName entry.filename
        if entry.isSymlink = true then
          .error (.valueError
            ("backup archive contains a symbolic link: " ++ entry.filename))
        else do
          let target ← resolveUnder [] entry.filename
          match files.lookup entry.filename with
          | none => .error (.keyError entry.filename)
          | some expected =>
              if entry.data.length ≠ expected.size ∨
                  sha256 entry.data ≠ expected.sha256 then
                .error (.valueError
                  ("backup checksum mismatch: " ++ entry.filename))
              else do
                let staging ← staging.write target entry.data
                extractEntries files rest staging

/-- `_extract_verified`. -/
def extractVerified (key : Option String) (archive : BackupArchive) :
    Except PyException StateDirectory :=
  if maxArchiveFiles < archive.names.length then
    .error (.valueError "backup archive contains too many entries")
  else if maxArchiveBytes < archive.totalSize then
    .error (.valueError
      "backup archive exceeds the configured extraction limit")
  else if ¬ archive.names.Nodup then
    .error (.valueError "backup archive contains duplicate entries")
  else
    match archive.manifest with
    | none => .error (.valueError
        "backup archive is missing backup_manifest.json")
    | some manifest => do
        manifest.validate key
        let declared := manifest.files.entries.map Prod.fst
        let actual := (archive.entries.filter fun entry => !entry.isDir).map
          ZipEntry.filename
        if (∀ name ∈ declared, name ∈ actual) ∧
            ∀ name ∈ actual, name ∈ declared then
          extractEntries manifest.files archive.entries ∅
        else .error (.valueError
          "backup archive entries do not match the signed manifest")

/-- The loop of `_merge_state`. -/
def mergeFiles : List (StatePath × Bytes) → StateDirectory →
    Except PyException StateDirectory
  | [], state => .ok state
  | (path, data) :: rest, state =>
      match state.lookup path with
      | some existing =>
          if sha256 existing ≠ sha256 data then
            .error (.osError
              ("restore would overwrite existing state: " ++ asPosix path))
          else mergeFiles rest state
      | none => do
          let state ← state.write path data
          mergeFiles rest state

def mergeState (staging state : StateDirectory) :
    Except PyException StateDirectory :=
  mergeFiles (staging.files.entries.insertionSort fun left right =>
    left.1 ≤ right.1) state

/-- `import_state`. -/
def importState (key : Option String) (archive : BackupArchive)
    (state : StateDirectory) (replace : Bool := false) :
    Except PyException StateDirectory := do
  let staging ← extractVerified key archive
  if replace then .ok staging else mergeState staging state

end Urp
