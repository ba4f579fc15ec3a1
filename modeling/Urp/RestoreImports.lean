import Urp.AiRequests
import Urp.BackupRoundTrip

/-!
# Importing any archive

`import_state` for an archive whose manifest is any JSON value.  A raise keeps
what was done before it, so that the state directory is carried through both
exits; `RestoreFaults` says which calls of the operating system raise.
-/

namespace Urp

open Python Program

/-! ## Archives -/

/-- The entry `backup_manifest.json`: its size, and what `json.loads` gives. -/
structure ManifestEntry where
  size : Nat
  loaded : Except PyException Value

/-- The other entries, and the manifest if there is one. -/
structure RestoreArchive where
  entries : List ZipEntry
  manifest : Option ManifestEntry

namespace RestoreArchive

def names (archive : RestoreArchive) : List String :=
  archive.entries.map ZipEntry.filename ++
    (archive.manifest.map fun _ => manifestName).toList

def totalSize (archive : RestoreArchive) : Nat :=
  (archive.entries.map fun entry => entry.data.length).sum +
    (archive.manifest.map ManifestEntry.size).getD 0

/-- The names that are neither the manifest's nor a directory's. -/
def fileNames (archive : RestoreArchive) : List String :=
  (archive.entries.filter fun entry => !entry.isDir).map ZipEntry.filename

end RestoreArchive

/-! ## Verification -/

section Verification

variable (host : Host) (key : Option String)

/-- `_validate_manifest`, with `manifest["files"]`. -/
def manifestFiles (manifest : Value) :
    Except PyException (List (String × Value)) :=
  match manifest with
  | .dict fields =>
      let version := Value.get fields "backup_version"
      if Value.pyEq version (.str backupVersion) = false then
        .error (.valueError
          ("unsupported backup version: " ++ host.str version))
      else
        match Value.get fields "files" with
        | .dict files =>
            let contentHash := stableJsonHash (.dict files)
            if Value.pyEq (.str contentHash)
                (Value.get fields "content_hash") = false then
              .error (.valueError "backup manifest content hash mismatch")
            else
              match BackupManifest.signingKey key with
              | none => .ok files
              | some key =>
                  let signature := Value.get fields "signature"
                  if signature.isTruthy = false then
                    .error (.valueError
                      "signed backup is required by URP_BACKUP_SIGNING_KEY")
                  else if (host.str signature).toList.all
                      (fun c => c.toNat < 128) = false then
                    .error .typeError
                  else if host.str signature =
                      BackupManifest.sign key contentHash then .ok files
                  else .error (.valueError "backup manifest signature mismatch")
        | _ => .error (.valueError "backup manifest files must be an object")
  | _ => .error .attributeError

/-- `value[key]`. -/
def subscript (value : Value) (name : String) : Except PyException Value :=
  match value with
  | .dict entries =>
      match Entries.lookup entries name with
      | some item => .ok item
      | none => .error (.keyError name)
  | _ => .error .typeError

def checksumMismatch (name : String) : PyException :=
  .valueError ("backup checksum mismatch: " ++ name)

/-- The content has the expected size and digest. -/
def verifyEntry (expected : Value) (name : String) (data : Bytes) :
    Except PyException Unit := do
  let size ← subscript expected "size"
  let size ← intOf host size
  if (data.length : Int) ≠ size then .error (checksumMismatch name)
  else do
    let digest ← subscript expected "sha256"
    if Value.pyEq (.str (sha256 data)) digest then .ok ()
    else .error (checksumMismatch name)

/-- The loop of `_extract_verified` below the staging directory `base`. -/
def extractInto (base : List String) (files : List (String × Value)) :
    List ZipEntry → StateDirectory → Except PyException StateDirectory
  | [], staging => .ok staging
  | entry :: rest, staging =>
      if entry.isDir = true then extractInto base files rest staging
      else do
        validateArchiveName entry.filename
        if entry.isSymlink = true then
          .error (.valueError
            ("backup archive contains a symbolic link: " ++ entry.filename))
        else do
          let target ← resolveUnder base entry.filename
          match Entries.lookup files entry.filename with
          | none => .error (.keyError entry.filename)
          | some expected => do
              verifyEntry host expected entry.filename entry.data
              let staging ← staging.write target entry.data
              extractInto base files rest staging

/-- `_extract_verified` into the staging directory `base`. -/
def extractArchive (base : List String) (archive : RestoreArchive) :
    Except PyException StateDirectory :=
  if maxArchiveFiles < archive.names.length then
    .error (.valueError "backup archive contains too many entries")
  else if maxArchiveBytes < archive.totalSize then
    .error (.valueError
      "backup archive exceeds the configured extraction limit")
  else if ¬ archive.names.Nodup then
    .error (.valueError "backup archive contains duplicate entries")
  else
    match archive.manifest with
    | none => .error (.valueError
        "backup archive is missing backup_manifest.json")
    | some manifest => do
        let loaded ← manifest.loaded
        let files ← manifestFiles host key loaded
        let declared := files.map Prod.fst
        if (∀ name ∈ declared, name ∈ archive.fileNames) ∧
            ∀ name ∈ archive.fileNames, name ∈ declared then
          extractInto host base files archive.entries ∅
        else .error (.valueError
          "backup archive entries do not match the signed manifest")

end Verification

/-! ## Installation -/

/-- The state directory and the sibling `.{name}.pre-restore-{pid}`, where
they exist. -/
structure RestoreSite where
  state : Option StateDirectory
  previous : Option StateDirectory := none

/-- What the calls of the operating system raise: a write below the state
directory, the removal of an old sibling, the three moves, and the removal of
the replaced state. -/
structure RestoreFaults where
  write : StatePath → Option PyException := fun _ => none
  clear : Option PyException := none
  moveState : Option PyException := none
  moveStaging : Option PyException := none
  moveBack : Option PyException := none
  drop : Option PyException := none

/-- A call that may raise, and what it does otherwise. -/
def attempt {σ : Type} (fault : Option PyException) (change : σ → σ) :
    Program σ PyException Unit :=
  match fault with
  | some error => Program.raise error
  | none => Program.modify change

section Installation

variable (faults : RestoreFaults)

/-- The loop of `_merge_state` below the state directory `root`. -/
def mergeInto (root : List String) :
    List (StatePath × Bytes) → Program StateDirectory PyException Unit
  | [] => pure ()
  | (path, data) :: rest => do
      let target ← Program.lift (resolveUnder root (asPosix path))
      let state ← Program.get
      match state.lookup target with
      | some existing =>
          if sha256 existing ≠ sha256 data then
            Program.raise (.osError
              ("restore would overwrite existing state: " ++ asPosix path))
          else mergeInto root rest
      | none => do
          attempt (faults.write target) id
          let written ← Program.lift (state.write target data)
          Program.modify fun _ => written
          mergeInto root rest

/-- The site's state directory; `_merge_state` makes one if there is none. -/
def RestoreSite.directory : Lens RestoreSite StateDirectory where
  get site := site.state.getD ∅
  set site directory := { site with state := some directory }
  get_set _ _ := rfl

/-- The files of a tree in the order of their paths. -/
def StateDirectory.sources (directory : StateDirectory) :
    List (StatePath × Bytes) :=
  directory.files.entries.insertionSort fun left right => left.1 ≤ right.1

def mergeStaged (root : List String) (staging : StateDirectory) :
    Program RestoreSite PyException Unit :=
  Program.focus RestoreSite.directory
    (mergeInto faults root staging.sources)

/-- The `try` body of `_replace_state`. -/
def moveStaged (staging : StateDirectory) :
    Program RestoreSite PyException Unit := do
  let site ← Program.get
  if site.state.isSome then
    attempt faults.moveState fun site =>
      { state := none, previous := site.state }
  attempt faults.moveStaging fun site => { site with state := some staging }

/-- The `except` branch of `_replace_state` before it raises again. -/
def moveBack : Program RestoreSite PyException Unit := do
  let site ← Program.get
  if site.state.isNone && site.previous.isSome then
    attempt faults.moveBack fun site =>
      { state := site.previous, previous := none }

/-- The `else` branch of `_replace_state`. -/
def dropPrevious : Program RestoreSite PyException Unit := do
  let site ← Program.get
  if site.previous.isSome then
    attempt faults.drop fun site => { site with previous := none }

/-- The `try` statement of `_replace_state`. -/
def installStaged (staging : StateDirectory) :
    Program RestoreSite PyException Unit := fun site =>
  match moveStaged faults staging site with
  | (.error error, later) =>
      (moveBack faults >>= fun _ => Program.raise error) later
  | (.ok (), later) => dropPrevious faults later

/-- `_replace_state`. -/
def replaceState (staging : StateDirectory) :
    Program RestoreSite PyException Unit := do
  let site ← Program.get
  if site.previous.isSome then
    attempt faults.clear fun site => { site with previous := none }
  installStaged faults staging

/-- `import_state` through the staging directory `base`. -/
def restoreArchive (host : Host) (key : Option String)
    (base root : List String) (archive : RestoreArchive) (replace : Bool) :
    Program RestoreSite PyException Unit := do
  let staging ← Program.lift (extractArchive host key base archive)
  if replace then replaceState faults staging
  else mergeStaged faults root staging

end Installation

/-! ## What is staged -/

/-- The files by the paths that their names denote; of two names of one path
the later entry counts. -/
def RestoreArchive.staged (archive : RestoreArchive) : Dict StatePath Bytes :=
  .ofList ((archive.entries.filter fun entry => !entry.isDir).map fun entry =>
    (posixParts entry.filename, entry.data))

theorem resolveNames_eq {parts : List String} (inside : ".." ∉ parts)
    (start : List String) :
    resolveNames start parts =
      start ++ parts.filter fun part => part ≠ "" ∧ part ≠ "." := by
  induction parts generalizing start with
  | nil => simp [resolveNames]
  | cons part rest ih =>
      rw [List.mem_cons, not_or] at inside
      obtain ⟨here, later⟩ := inside
      have tail := ih later
      simp only [resolveNames, List.foldl_cons] at tail ⊢
      by_cases same : part = "" ∨ part = "."
      · have dropped : ¬ (part ≠ "" ∧ part ≠ ".") := by
          tauto
        rw [if_pos same, tail, List.filter_cons, if_neg (by simpa using dropped)]
      · have kept : part ≠ "" ∧ part ≠ "." := by
          tauto
        rw [if_neg same, if_neg (Ne.symm here), tail, List.filter_cons,
          if_pos (by simpa using kept), List.append_assoc]
        rfl

/-- What an accepted name is. -/
theorem validateArchiveName_eq_ok_iff {name : String} :
    validateArchiveName name = .ok () ↔
      name.toList.head? ≠ some '/' ∧ posixParts name ≠ [] ∧
        ".." ∉ posixParts name := by
  unfold validateArchiveName
  split
  · rename_i refused
    refine iff_of_false (fun same => by cases same) ?_
    tauto
  · rename_i allowed
    refine iff_of_true rfl ?_
    tauto

/-- An accepted name resolves to its parts below every base. -/
theorem resolvePath_of_valid {name : String}
    (valid : validateArchiveName name = .ok ()) (base : List String) :
    resolvePath base name = base ++ posixParts name := by
  obtain ⟨relative, -, inside⟩ := validateArchiveName_eq_ok_iff.mp valid
  unfold resolvePath
  rw [if_neg relative, resolveNames_eq]
  · rfl
  · intro member
    apply inside
    exact List.mem_filter.mpr ⟨member, by decide⟩

theorem resolveUnder_of_valid {name : String}
    (valid : validateArchiveName name = .ok ()) (base : List String) :
    resolveUnder base name = .ok (posixParts name) := by
  have inside : base.isPrefixOf (base ++ posixParts name) = true := by
    rw [List.isPrefixOf_iff_prefix]
    exact List.prefix_append _ _
  simp [resolveUnder, resolvePath_of_valid valid, inside]

/-- The write of a file, by the path and the content. -/
theorem write_eq_ok_iff {directory later : StateDirectory} {path : StatePath}
    {data : Bytes} :
    directory.write path data = .ok later ↔
      ∃ fits : directory.fits path = true,
        later = directory.insert path data fits := by
  unfold StateDirectory.write
  split
  · rename_i fits
    simp [fits, eq_comm]
  · rename_i unfit
    simp [unfit]

/-- An entry of a file that passes every check. -/
structure ZipEntry.Verified (host : Host) (files : List (String × Value))
    (entry : ZipEntry) : Prop where
  name : validateArchiveName entry.filename = .ok ()
  record : ∃ expected, Entries.lookup files entry.filename = some expected ∧
    verifyEntry host expected entry.filename entry.data = .ok ()

/-- An extraction that returns verified every file and staged them all. -/
theorem extractInto_eq_ok {host : Host} {base : List String}
    {files : List (String × Value)} {entries : List ZipEntry}
    {staging later : StateDirectory}
    (extracted : extractInto host base files entries staging = .ok later) :
    later.files = ((entries.filter fun entry => !entry.isDir).map fun entry =>
        (posixParts entry.filename, entry.data)).foldl
      (fun dict pair => dict.insert pair.1 pair.2) staging.files ∧
    ∀ entry ∈ entries, entry.isDir = false → entry.Verified host files := by
  induction entries generalizing staging with
  | nil =>
      cases extracted
      exact ⟨rfl, fun entry none => (nomatch none)⟩
  | cons entry rest ih =>
      unfold extractInto at extracted
      by_cases directory : entry.isDir = true
      · rw [if_pos directory] at extracted
        obtain ⟨staged, verified⟩ := ih extracted
        refine ⟨by simpa [directory] using staged, ?_⟩
        refine List.forall_mem_cons.mpr ⟨fun file => ?_, verified⟩
        rw [directory] at file
        cases file
      · rw [if_neg directory] at extracted
        obtain ⟨_, name, extracted⟩ := except_bind_eq_ok_iff.mp extracted
        split at extracted
        · cases extracted
        · obtain ⟨target, resolved, extracted⟩ :=
            except_bind_eq_ok_iff.mp extracted
          rw [resolveUnder_of_valid name] at resolved
          cases resolved
          cases recorded : Entries.lookup files entry.filename with
          | none =>
              simp only [recorded] at extracted
              cases extracted
          | some expected =>
              simp only [recorded] at extracted
              obtain ⟨_, verified, extracted⟩ :=
                except_bind_eq_ok_iff.mp extracted
              obtain ⟨next, written, extracted⟩ :=
                except_bind_eq_ok_iff.mp extracted
              obtain ⟨fits, rfl⟩ := write_eq_ok_iff.mp written
              obtain ⟨staged, others⟩ := ih extracted
              have kept : (entry :: rest).filter (fun entry => !entry.isDir) =
                  entry :: rest.filter fun entry => !entry.isDir := by
                simp [directory]
              refine ⟨?_, List.forall_mem_cons.mpr
                ⟨fun _ => ⟨name, expected, recorded, verified⟩, others⟩⟩
              rw [kept]
              exact staged

/-- The entries of `manifest["files"]`. -/
def RestoreArchive.declared (archive : RestoreArchive) :
    List (String × Value) :=
  match archive.manifest.map ManifestEntry.loaded with
  | some (.ok (.dict fields)) => (Value.get fields "files").entries?.getD []
  | _ => []

theorem manifestFiles_eq_ok {host : Host} {key : Option String}
    {manifest : Value} {files : List (String × Value)}
    (validated : manifestFiles host key manifest = .ok files) :
    ∃ fields, manifest = .dict fields ∧
      Value.get fields "files" = .dict files := by
  cases manifest with
  | dict fields =>
      refine ⟨fields, rfl, ?_⟩
      simp only [manifestFiles] at validated
      split at validated
      · cases validated
      · cases listed : Value.get fields "files" with
        | dict found =>
            simp only [listed] at validated
            split at validated
            · cases validated
            · split at validated
              · cases validated
                rfl
              · split at validated
                · cases validated
                · split at validated
                  · cases validated
                  · split at validated
                    · cases validated
                      rfl
                    · cases validated
        | _ =>
            simp only [listed] at validated
            cases validated
  | _ => cases validated

/-- What an accepted archive is, and what is staged of it. -/
structure RestoreArchive.Accepted (host : Host) (archive : RestoreArchive)
    (staging : StateDirectory) : Prop where
  distinct : archive.names.Nodup
  declared : ∀ name, name ∈ archive.declared.map Prod.fst ↔
    name ∈ archive.fileNames
  staged : staging.files = archive.staged
  verified : ∀ entry ∈ archive.entries, entry.isDir = false →
    entry.Verified host archive.declared

theorem extractArchive_eq_ok {host : Host} {key : Option String}
    {base : List String} {archive : RestoreArchive} {staging : StateDirectory}
    (extracted : extractArchive host key base archive = .ok staging) :
    archive.Accepted host staging := by
  unfold extractArchive at extracted
  split at extracted
  · cases extracted
  · split at extracted
    · cases extracted
    · split at extracted
      · cases extracted
      · rename_i distinct
        cases found : archive.manifest with
        | none =>
            simp only [found] at extracted
            cases extracted
        | some manifest =>
            simp only [found] at extracted
            obtain ⟨loaded, read, rest⟩ := except_bind_eq_ok_iff.mp extracted
            obtain ⟨files, validated, compared⟩ :=
              except_bind_eq_ok_iff.mp rest
            obtain ⟨fields, rfl, listed⟩ := manifestFiles_eq_ok validated
            have declared : archive.declared = files := by
              simp [RestoreArchive.declared, found, read, listed,
                Value.entries?]
            split at compared
            · rename_i matching
              obtain ⟨staged, verified⟩ := extractInto_eq_ok compared
              rw [← declared] at matching verified
              exact ⟨not_not.mp distinct,
                fun name => ⟨matching.1 name, matching.2 name⟩, staged,
                verified⟩
            · cases compared

/-! ## Archives of given files -/

section ArchiveOf

variable {host : Host} {base : List String} {files : List (String × Value)}
variable {staging : StateDirectory}

theorem verifyEntry_iff {digest name : String} {size : Nat} {data : Bytes} :
    verifyEntry host (.dict [("sha256", .str digest), ("size", .int size)])
        name data = .ok () ↔
      data.length = size ∧ sha256 data = digest := by
  have sizeField : subscript (.dict [("sha256", .str digest),
      ("size", .int size)]) "size" = .ok (.int size) := by
    simp [subscript, Entries.lookup]
  have digestField : subscript (.dict [("sha256", .str digest),
      ("size", .int size)]) "sha256" = .ok (.str digest) := by
    simp [subscript, Entries.lookup]
  simp only [verifyEntry, sizeField, digestField, bind, Except.bind, intOf,
    Value.pyEq, beq_iff_eq]
  by_cases long : data.length = size
  · simp [long]
  · simp [long]

theorem extractInto_cons {entry : ZipEntry} {rest : List ZipEntry}
    (file : entry.isDir = false) (link : entry.isSymlink = false)
    (verified : entry.Verified host files) :
    extractInto host base files (entry :: rest) staging =
      (staging.write (posixParts entry.filename) entry.data >>=
        extractInto host base files rest) := by
  obtain ⟨expected, recorded, checked⟩ := verified.record
  rw [extractInto, file, link, verified.name,
    resolveUnder_of_valid verified.name]
  simp only [Bool.false_eq_true, if_false, bind, Except.bind, recorded, checked]

/-- Verified files of one tree are extracted. -/
theorem exists_extractInto {whole : StateDirectory} {entries : List ZipEntry}
    (verified : ∀ entry ∈ entries, entry.isDir = false ∧
      entry.isSymlink = false ∧ entry.Verified host files)
    (inside : ∀ entry ∈ entries, posixParts entry.filename ∈ whole.paths)
    (within : staging.Within whole) :
    ∃ later, extractInto host base files entries staging = .ok later := by
  induction entries generalizing staging with
  | nil => exact ⟨staging, rfl⟩
  | cons entry rest ih =>
      obtain ⟨⟨file, link, checked⟩, others⟩ :=
        List.forall_mem_cons.mp verified
      obtain ⟨here, othersInside⟩ := List.forall_mem_cons.mp inside
      obtain ⟨next, written, -, nextWithin⟩ := within.write here entry.data
      obtain ⟨later, extracted⟩ := ih others othersInside nextWithin
      refine ⟨later, ?_⟩
      rw [extractInto_cons file link checked, written]
      exact extracted

/-- The archive of the files, with their digests and sizes. -/
def archiveOf (files : List (String × Bytes)) : RestoreArchive :=
  let declared := files.map fun file =>
    (file.1, Value.dict [("sha256", .str (sha256 file.2)),
      ("size", .int file.2.length)])
  { entries := files.map fun file => ⟨file.1, file.2, false⟩
    manifest := some {
      size := 0
      loaded := .ok (.dict [("backup_version", .str backupVersion),
        ("files", .dict declared),
        ("content_hash", .str (stableJsonHash (.dict declared)))]) } }

theorem declared_archiveOf (files : List (String × Bytes)) :
    (archiveOf files).declared = files.map fun file =>
      (file.1, Value.dict [("sha256", .str (sha256 file.2)),
        ("size", .int file.2.length)]) := by
  simp [archiveOf, RestoreArchive.declared, Value.get, Value.getD,
    Entries.lookup, Value.entries?]

theorem exists_extractArchive {whole : StateDirectory}
    {files : List (String × Bytes)}
    (valid : ∀ file ∈ files, validateArchiveName file.1 = .ok () ∧
      hasSuffix "/" file.1 = false)
    (distinct : (archiveOf files).names.Nodup)
    (few : (archiveOf files).names.length ≤ maxArchiveFiles)
    (small : (archiveOf files).totalSize ≤ maxArchiveBytes)
    (inside : ∀ file ∈ files, posixParts file.1 ∈ whole.paths) :
    ∃ staging, extractArchive host none base (archiveOf files) =
      .ok staging := by
  let declared := files.map fun file =>
    (file.1, Value.dict [("sha256", .str (sha256 file.2)),
      ("size", .int file.2.length)])
  have names : declared.map Prod.fst = files.map Prod.fst := by
    rw [List.map_map]
    rfl
  have filenames : (archiveOf files).entries.map ZipEntry.filename =
      files.map Prod.fst := by
    rw [archiveOf, List.map_map]
    rfl
  have apart : (files.map Prod.fst).Nodup := by
    rw [RestoreArchive.names, filenames] at distinct
    exact (List.nodup_append.mp distinct).1
  have verified : ∀ entry ∈ (archiveOf files).entries,
      entry.isDir = false ∧ entry.isSymlink = false ∧
        entry.Verified host declared := by
    intro entry member
    obtain ⟨file, listed, rfl⟩ := List.mem_map.mp member
    refine ⟨(valid file listed).2, rfl, (valid file listed).1, _, ?_,
      verifyEntry_iff.mpr ⟨rfl, rfl⟩⟩
    apply Entries.lookup_of_mem
    · rw [names]
      exact apart
    · exact List.mem_map.mpr ⟨file, listed, rfl⟩
  have fileNames : (archiveOf files).fileNames = files.map Prod.fst := by
    have kept : (archiveOf files).entries.filter (fun entry => !entry.isDir) =
        (archiveOf files).entries := by
      rw [List.filter_eq_self]
      intro entry member
      rw [(verified entry member).1]
      rfl
    rw [RestoreArchive.fileNames, kept, filenames]
  have insideEntries : ∀ entry ∈ (archiveOf files).entries,
      posixParts entry.filename ∈ whole.paths := by
    intro entry member
    obtain ⟨file, listed, rfl⟩ := List.mem_map.mp member
    exact inside file listed
  obtain ⟨staging, extracted⟩ := @exists_extractInto host base declared ∅ whole
    _ verified insideEntries (StateDirectory.within_empty whole)
  refine ⟨staging, ?_⟩
  unfold extractArchive
  rw [if_neg (Nat.not_lt.mpr few), if_neg (Nat.not_lt.mpr small),
    if_neg (not_not_intro distinct)]
  have read : (archiveOf files).manifest = some {
      size := 0
      loaded := .ok (.dict [("backup_version", .str backupVersion),
        ("files", .dict declared),
        ("content_hash", .str (stableJsonHash (.dict declared)))]) } := rfl
  have validated : manifestFiles host none (.dict [("backup_version",
        .str backupVersion), ("files", .dict declared),
      ("content_hash", .str (stableJsonHash (.dict declared)))]) =
        .ok declared := by
    simp [manifestFiles, Value.get, Value.getD, Entries.lookup, Value.pyEq,
      BackupManifest.signingKey]
  simp only [read, validated, bind, Except.bind, fileNames, names]
  exact (if_pos ⟨fun _ member => member, fun _ member => member⟩).trans
    extracted

end ArchiveOf

/-! ## Archives that were exported -/

namespace BackupManifest

/-- The fields of the manifest as `json.loads` reads them back. -/
def fields (manifest : BackupManifest) : List (String × Value) :=
  [("backup_version", .str manifest.backupVersion),
      ("generated_at", .str manifest.generatedAt),
      ("state_format", .str manifest.stateFormat),
      ("files", filesValue manifest.files),
      ("content_hash", .str manifest.contentHash)] ++
    (manifest.signatureAlgorithm.map fun text =>
      ("signature_algorithm", Value.str text)).toList ++
    (manifest.signature.map fun text => ("signature", Value.str text)).toList

variable {manifest : BackupManifest}

theorem get_fields : Value.get manifest.fields "backup_version" =
      .str manifest.backupVersion ∧
    Value.get manifest.fields "files" = filesValue manifest.files ∧
    Value.get manifest.fields "content_hash" = .str manifest.contentHash := by
  refine ⟨?_, ?_, ?_⟩
  all_goals simp [fields, Value.get, Value.getD, Entries.lookup]

theorem get_fields_signature {signature : String}
    (signed : manifest.signature = some signature) :
    Value.get manifest.fields "signature" = .str signature := by
  unfold fields
  rw [signed]
  cases manifest.signatureAlgorithm with
  | none => simp [Value.get, Value.getD, Entries.lookup]
  | some text => simp [Value.get, Value.getD, Entries.lookup]

theorem sign_ascii (key contentHash : String) :
    (sign key contentHash).toList.all (fun c => c.toNat < 128) = true := by
  have small : ("0123456789abcdef".toList.all fun c =>
      decide (c.toNat < 128)) = true := by
    decide
  rw [List.all_eq_true]
  intro c member
  apply List.all_eq_true.mp small c
  simpa [isHexDigit] using sha256_digits member

end BackupManifest

def BackupArchive.untyped (archive : BackupArchive) : RestoreArchive where
  entries := archive.entries
  manifest := archive.manifest.map fun manifest =>
    { size := (utf8 manifest.text).length
      loaded := .ok (.dict manifest.fields) }

/-- The records by their names. -/
def recordValues (files : Dict String FileRecord) : List (String × Value) :=
  files.entries.map fun entry =>
    (entry.1, .dict [("sha256", .str entry.2.sha256),
      ("size", .int entry.2.size)])

section Untyped

variable {host : Host} {key : Option String}

theorem extractInto_records {base : List String}
    {files : Dict String FileRecord} {entries : List ZipEntry}
    {staging later : StateDirectory}
    (extracted : extractEntries files entries staging = .ok later) :
    extractInto host base (recordValues files) entries staging =
      .ok later := by
  induction entries generalizing staging with
  | nil => exact extracted
  | cons entry rest ih =>
      rw [extractEntries] at extracted
      rw [extractInto]
      by_cases directory : entry.isDir = true
      · rw [if_pos directory] at extracted ⊢
        exact ih extracted
      · rw [if_neg directory] at extracted ⊢
        obtain ⟨_, name, next⟩ := except_bind_eq_ok_iff.mp extracted
        rw [name]
        by_cases link : entry.isSymlink = true
        · rw [if_pos link] at next
          cases next
        · rw [if_neg link] at next
          obtain ⟨target, resolved, next⟩ := except_bind_eq_ok_iff.mp next
          rw [resolveUnder_of_valid name] at resolved
          cases resolved
          have listed : Entries.lookup (recordValues files) entry.filename =
              (files.lookup entry.filename).map fun record =>
                .dict [("sha256", .str record.sha256),
                  ("size", .int record.size)] :=
            Entries.lookup_map files.entries
              (fun record : FileRecord => Value.dict
                [("sha256", .str record.sha256), ("size", .int record.size)])
              entry.filename
          cases found : files.lookup entry.filename with
          | none =>
              simp only [found] at next
              cases next
          | some record =>
              simp only [found] at next
              split at next
              · cases next
              · rename_i intact
                rw [not_or, not_not, not_not] at intact
                obtain ⟨staged, written, next⟩ :=
                  except_bind_eq_ok_iff.mp next
                change ((if entry.isSymlink = true then _ else _) :
                  Except PyException StateDirectory) = _
                rw [if_neg link, resolveUnder_of_valid name]
                have checked := (@verifyEntry_iff host record.sha256
                  entry.filename record.size entry.data).mpr intact
                simp only [listed, found, Option.map_some, checked, written,
                  bind, Except.bind]
                exact ih next

/-- A manifest that validates does so as it reads back. -/
theorem manifestFiles_fields {manifest : BackupManifest}
    (valid : manifest.validate key = .ok ()) :
    manifestFiles host key (.dict manifest.fields) =
      .ok (recordValues manifest.files) := by
  obtain ⟨version, files, hash⟩ := @BackupManifest.get_fields manifest
  have values : BackupManifest.filesValue manifest.files =
      .dict (recordValues manifest.files) := rfl
  unfold BackupManifest.validate at valid
  split at valid
  · cases valid
  · rename_i sameVersion
    split at valid
    · cases valid
    · rename_i sameHash
      rw [not_not] at sameVersion sameHash
      rw [BackupManifest.filesHash, values] at sameHash
      simp only [manifestFiles, version, files, hash, values, sameVersion,
        sameHash, Value.pyEq, beq_self_eq_true, Bool.true_eq_false, if_false]
      cases keyed : BackupManifest.signingKey key with
      | none => rfl
      | some text =>
          simp only [keyed] at valid
          split at valid
          · cases valid
          · rename_i signature signed
            rw [Option.filter_eq_some_iff] at signed
            split at valid
            · rename_i same
              have truthy : (Value.str signature).isTruthy = true := by
                simpa [Value.isTruthy] using signed.2
              rw [same] at truthy
              simp only [BackupManifest.get_fields_signature signed.1, truthy,
                Bool.true_eq_false, if_false, Host.str, str_str, same,
                BackupManifest.sign_ascii, if_true]
            · cases valid

/-- An archive that is extracted is so when its manifest is read as any
JSON. -/
theorem extractArchive_untyped {base : List String} {archive : BackupArchive}
    {staging : StateDirectory}
    (extracted : extractVerified key archive = .ok staging) :
    extractArchive host key base archive.untyped = .ok staging := by
  have names : archive.untyped.names = archive.names := by
    unfold RestoreArchive.names BackupArchive.names BackupArchive.untyped
    cases archive.manifest <;> rfl
  have size : archive.untyped.totalSize = archive.totalSize := by
    unfold RestoreArchive.totalSize BackupArchive.totalSize
      BackupArchive.untyped
    cases archive.manifest <;> rfl
  unfold extractVerified at extracted
  unfold extractArchive
  rw [names, size]
  split at extracted
  · cases extracted
  · split at extracted
    · cases extracted
    · split at extracted
      · cases extracted
      · rename_i few small distinct
        rw [if_neg few, if_neg small, if_neg distinct]
        cases found : archive.manifest with
        | none =>
            simp only [found] at extracted
            cases extracted
        | some manifest =>
            simp only [found] at extracted
            obtain ⟨_, valid, next⟩ := except_bind_eq_ok_iff.mp extracted
            have read : archive.untyped.manifest = some
                { size := (utf8 manifest.text).length
                  loaded := .ok (.dict manifest.fields) } := by
              rw [BackupArchive.untyped, found]
              rfl
            have declared : (recordValues manifest.files).map Prod.fst =
                manifest.files.entries.map Prod.fst := by
              rw [recordValues, List.map_map]
              rfl
            simp only [read, manifestFiles_fields valid, bind, Except.bind,
              declared]
            split at next
            · rename_i matching
              exact (if_pos matching).trans (extractInto_records next)
            · cases next

/-- Without faults a merge that returns does so with the same files. -/
theorem ensures_mergeInto_of_mergeFiles (root : List String)
    {sources : List (StatePath × Bytes)} {state later : StateDirectory}
    (valid : ∀ source ∈ sources, isFilePath source.1 = true)
    (merged : mergeFiles sources state = .ok later) :
    Ensures (mergeInto {} root sources) state (fun _ final => final = later)
      (fun _ _ => False) := by
  induction sources generalizing state with
  | nil =>
      cases merged
      rfl
  | cons source rest ih =>
      obtain ⟨path, data⟩ := source
      obtain ⟨named, others⟩ := List.forall_mem_cons.mp valid
      rw [mergeFiles] at merged
      rw [mergeInto, resolveUnder_of_isFilePath named]
      simp only [ensures_bind, ensures_lift, Except.ok.injEq, forall_eq',
        reduceCtorEq, false_implies, implies_true, and_true, ensures_get]
      cases found : state.lookup path with
      | some existing =>
          simp only [found] at merged
          rw [ensures_ite]
          split at merged
          · cases merged
          · rename_i agree
            exact ⟨fun differ => absurd differ agree, fun _ => ih others merged⟩
      | none =>
          simp only [found] at merged
          obtain ⟨next, written, merged⟩ := except_bind_eq_ok_iff.mp merged
          simp only [attempt, ensures_bind, ensures_modify, written,
            ensures_lift, Except.ok.injEq, forall_eq', reduceCtorEq,
            false_implies, implies_true, and_true]
          exact ih others merged

/-- An import of a typed archive is one of the archive as it reads back. -/
theorem restoreArchive_of_importState {base root : List String}
    {archive : BackupArchive} {state later : StateDirectory}
    {previous : Option StateDirectory} {replace : Bool}
    (imported : importState key archive state replace = .ok later) :
    Ensures (restoreArchive {} host key base root archive.untyped replace)
      { state := some state, previous := previous }
      (fun _ site => site.state = some later) (fun _ _ => False) := by
  unfold importState at imported
  obtain ⟨staging, extracted, installed⟩ := except_bind_eq_ok_iff.mp imported
  simp only [restoreArchive, extractArchive_untyped extracted, ensures_bind,
    ensures_lift, Except.ok.injEq, forall_eq', reduceCtorEq, false_implies,
    implies_true, and_true]
  cases replace with
  | true =>
      cases installed
      cases previous <;> exact rfl
  | false =>
      have valid : ∀ source ∈ staging.sources,
          isFilePath source.1 = true := by
        intro source member
        apply staging.named
        exact List.mem_map_of_mem ((List.perm_insertionSort _ _).mem_iff.mp
          member)
      have merged := ensures_mergeInto_of_mergeFiles root valid installed
      simp only [Bool.false_eq_true, if_false, mergeStaged]
      rw [ensures_focus]
      exact merged.mono (fun _ _ same => congrArg some same) fun _ _ => id

end Untyped

end Urp
