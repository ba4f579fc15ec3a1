import Urp.Backup
import Urp.CheckpointChains
import Urp.LedgerRuns

/-!
# Restoring a backup

An archive of a quiescent directory holds the files below the included paths,
each under its own name with its own checksum, and the import writes them
back.  The main theorem carries this to every directory that the stores
produce, up to the limits that the import sets.
-/

namespace Urp

open Python

/-! ## Archive names -/

theorem isFileName_iff {name : String} :
    isFileName name = true ↔ IsPlainName name ∧ '/' ∉ name.toList := by
  simp [isFileName, IsPlainName, and_assoc]

section Names

variable {path : StatePath} (valid : isFilePath path = true)

include valid

theorem ne_nil_of_isFilePath : path ≠ [] := by
  rintro rfl
  cases valid

theorem isFileName_of_mem {part : String} (member : part ∈ path) :
    IsPlainName part ∧ '/' ∉ part.toList := by
  simp only [isFilePath, Bool.and_eq_true, List.all_eq_true] at valid
  exact isFileName_iff.mp (valid.2 part member)

theorem pathParts_of_isFilePath : pathParts (asPosix path) = path :=
  pathParts_asPosix (ne_nil_of_isFilePath valid) fun _ member =>
    (isFileName_of_mem valid member).2

theorem resolveUnder_of_isFilePath (root : List String) :
    resolveUnder root (asPosix path) = .ok path :=
  resolveUnder_asPosix root (ne_nil_of_isFilePath valid)
    (fun _ member => (isFileName_of_mem valid member).2)
    (fun _ member => (isFileName_of_mem valid member).1)

theorem asPosix_inj {other : StatePath} (otherValid : isFilePath other = true)
    (same : asPosix path = asPosix other) : path = other := by
  rw [← pathParts_of_isFilePath valid, same,
    pathParts_of_isFilePath otherValid]

theorem posixParts_of_isFilePath : posixParts (asPosix path) = path := by
  unfold posixParts
  rw [pathParts_of_isFilePath valid, List.filter_eq_self]
  intro part member
  obtain ⟨⟨nonempty, dot, -⟩, -⟩ := isFileName_of_mem valid member
  simp [nonempty, dot]

/-- A slash at either end would make an empty part. -/
theorem slash_not_end : (∀ rest, (asPosix path).toList ≠ '/' :: rest) ∧
    ∀ early, (asPosix path).toList ≠ early ++ ['/'] := by
  have noEmpty : "" ∉ pathParts (asPosix path) := by
    rw [pathParts_of_isFilePath valid]
    intro member
    exact (isFileName_of_mem valid member).1.1 rfl
  constructor
  · intro rest text
    apply noEmpty
    unfold pathParts
    rw [text]
    have split := @List.splitOn_append_cons_self Char _ _ '/' [] rest
    rw [List.nil_append] at split
    rw [split]
    simp [List.splitOn_nil]
  · intro early text
    apply noEmpty
    unfold pathParts
    rw [text, List.splitOn_append_cons_self]
    simp [List.splitOn_nil]

theorem validateArchiveName_of_isFilePath :
    validateArchiveName (asPosix path) = .ok () := by
  unfold validateArchiveName
  rw [posixParts_of_isFilePath valid, if_neg]
  rintro (slash | empty | up)
  · cases text : (asPosix path).toList with
    | nil => simp [text] at slash
    | cons c rest =>
        simp only [text, List.head?_cons, Option.some.injEq] at slash
        rw [slash] at text
        exact (slash_not_end valid).1 rest text
  · exact ne_nil_of_isFilePath valid empty
  · exact (isFileName_of_mem valid up).1.2.2 rfl

theorem not_isDir_of_isFilePath (data : Bytes) (isSymlink : Bool) :
    (ZipEntry.mk (asPosix path) data isSymlink).isDir = false := by
  rw [Bool.eq_false_iff]
  intro directory
  simp only [ZipEntry.isDir, hasSuffix, List.isSuffixOf_iff_suffix] at directory
  obtain ⟨early, text⟩ := directory
  exact (slash_not_end valid).2 early text.symm

end Names

/-! ## The files of the archive -/

/-- The path is at or below one of the included ones. -/
def IsIncluded (path : StatePath) : Prop :=
  ∃ item ∈ includedStatePaths, path.head? = some item

theorem mem_stateFiles_iff {paths : List StatePath} {output : Option StatePath}
    {path : StatePath} :
    path ∈ stateFiles paths output ↔ path ∈ paths ∧ IsIncluded path ∧
      some path ≠ output ∧ isSkipped (path.getLast?.getD "") = false := by
  simp only [stateFiles, candidates, List.mem_filter, List.mem_flatMap,
    List.mem_insertionSort, IsIncluded, Bool.and_eq_true,
    Bool.not_eq_true', decide_eq_false_iff_not, decide_eq_true_eq]
  constructor
  · rintro ⟨⟨item, included, member, head⟩, apart, kept⟩
    exact ⟨member, ⟨item, included, head⟩, apart, kept⟩
  · rintro ⟨member, ⟨item, included, head⟩, apart, kept⟩
    exact ⟨⟨item, included, member, head⟩, apart, kept⟩

theorem nodup_stateFiles {paths : List StatePath} (distinct : paths.Nodup)
    (output : Option StatePath) : (stateFiles paths output).Nodup := by
  apply List.Nodup.filter
  rw [List.nodup_flatMap]
  constructor
  · intro item _
    exact (List.perm_insertionSort _ _).nodup_iff.mpr (distinct.filter _)
  · have items : includedStatePaths.Nodup := by
      decide
    refine items.imp ?_
    intro first second different path inFirst inSecond
    simp only [candidates, List.mem_insertionSort, List.mem_filter,
      decide_eq_true_eq] at inFirst inSecond
    have same := inFirst.2.symm.trans inSecond.2
    exact different (Option.some.inj same)

/-! ## Writing within a tree -/

/-- Every file is one of the other directory's. -/
def StateDirectory.Within (part whole : StateDirectory) : Prop :=
  ∀ path ∈ part.paths, path ∈ whole.paths

theorem StateDirectory.Within.fits {part whole : StateDirectory}
    (within : part.Within whole) {path : StatePath}
    (member : path ∈ whole.paths) : part.fits path = true := by
  refine fits_iff.mpr ⟨whole.named path member, ?_⟩
  rintro other otherMember (above | below)
  · exact whole.tree other (within other otherMember) path member above
  · exact (whole.tree path member other (within other otherMember) below).symm

theorem StateDirectory.Within.write {part whole : StateDirectory}
    (within : part.Within whole) {path : StatePath}
    (member : path ∈ whole.paths) (data : Bytes) :
    ∃ later, part.write path data = .ok later ∧
      later.files = part.files.insert path data ∧ later.Within whole := by
  have fits := within.fits member
  refine ⟨part.insert path data fits, ?_, rfl, ?_⟩
  · unfold StateDirectory.write
    rw [dif_pos fits]
  · intro other otherMember
    obtain ⟨⟨_, written⟩, inEntries, rfl⟩ := List.mem_map.mp otherMember
    rcases Entries.mem_of_mem_insert inEntries with same | old
    · cases same
      exact member
    · exact within _ (List.mem_map_of_mem old)

theorem StateDirectory.within_empty (whole : StateDirectory) :
    StateDirectory.Within ∅ whole := by
  intro path member
  cases member

/-- The entry is the file, and its content has the recorded checksum. -/
structure ArchivedFile.Intact (files : Dict String FileRecord)
    (file : ArchivedFile) : Prop where
  recorded : files.lookup (asPosix file.path) = some file.record
  size : file.data.length = file.record.size
  sha256 : Python.sha256 file.data = file.record.sha256

def ArchivedFile.entry (file : ArchivedFile) : ZipEntry :=
  ⟨asPosix file.path, file.data, false⟩

/-- The loop over intact entries writes them all. -/
theorem extractEntries_intact {files : Dict String FileRecord}
    {whole : StateDirectory} {archived : List ArchivedFile}
    (intact : ∀ file ∈ archived, file.Intact files)
    (inside : ∀ file ∈ archived, file.path ∈ whole.paths)
    {staging : StateDirectory} (within : staging.Within whole) :
    ∃ later, extractEntries files (archived.map ArchivedFile.entry) staging =
        .ok later ∧
      later.files = archived.foldl
        (fun dict file => dict.insert file.path file.data) staging.files := by
  induction archived generalizing staging with
  | nil => exact ⟨staging, rfl, rfl⟩
  | cons file rest ih =>
      obtain ⟨first, others⟩ := List.forall_mem_cons.mp intact
      obtain ⟨firstInside, othersInside⟩ := List.forall_mem_cons.mp inside
      have valid := whole.named _ firstInside
      obtain ⟨next, written, nextFiles, nextWithin⟩ :=
        within.write firstInside file.data
      obtain ⟨later, extracted, laterFiles⟩ :=
        ih others othersInside nextWithin
      refine ⟨later, ?_, ?_⟩
      · have directory := not_isDir_of_isFilePath valid file.data false
        simp only [List.map_cons, ArchivedFile.entry, extractEntries,
          directory, Bool.false_eq_true, if_false,
          validateArchiveName_of_isFilePath valid,
          resolveUnder_of_isFilePath valid, first.recorded, first.size,
          first.sha256, ne_eq, not_true_eq_false, or_self]
        change (staging.write file.path file.data >>= fun staging =>
          extractEntries files (rest.map ArchivedFile.entry) staging) = _
        rw [written]
        exact extracted
      · rw [laterFiles, nextFiles]
        rfl

/-- Merging files that are not there writes them all. -/
theorem mergeFiles_new {whole : StateDirectory}
    {sources : List (StatePath × Bytes)}
    (inside : ∀ source ∈ sources, source.1 ∈ whole.paths)
    (distinct : (sources.map Prod.fst).Nodup) {state : StateDirectory}
    (within : state.Within whole)
    (absent : ∀ source ∈ sources, state.lookup source.1 = none) :
    ∃ later, mergeFiles sources state = .ok later ∧
      later.files = sources.foldl
        (fun dict source => dict.insert source.1 source.2) state.files := by
  induction sources generalizing state with
  | nil => exact ⟨state, rfl, rfl⟩
  | cons source rest ih =>
      obtain ⟨path, data⟩ := source
      obtain ⟨firstInside, othersInside⟩ := List.forall_mem_cons.mp inside
      obtain ⟨firstAbsent, othersAbsent⟩ := List.forall_mem_cons.mp absent
      simp only [List.map_cons, List.nodup_cons] at distinct
      obtain ⟨next, written, nextFiles, nextWithin⟩ :=
        within.write firstInside data
      have nextAbsent : ∀ source ∈ rest, next.lookup source.1 = none := by
        intro other member
        have different : path ≠ other.1 := by
          rintro rfl
          exact distinct.1 (List.mem_map_of_mem member)
        unfold StateDirectory.lookup
        rw [nextFiles, Dict.lookup_insert_ne _ _ different]
        exact othersAbsent other member
      obtain ⟨later, merged, laterFiles⟩ :=
        ih othersInside distinct.2 nextWithin nextAbsent
      refine ⟨later, ?_, ?_⟩
      · have missing : state.lookup path = none := firstAbsent
        simp only [mergeFiles, missing]
        rw [written]
        exact merged
      · rw [laterFiles, nextFiles]
        rfl

/-- Merging what is there already changes nothing. -/
theorem mergeFiles_present {sources : List (StatePath × Bytes)}
    {state : StateDirectory}
    (present : ∀ source ∈ sources, state.lookup source.1 = some source.2) :
    mergeFiles sources state = .ok state := by
  induction sources with
  | nil => rfl
  | cons source rest ih =>
      obtain ⟨first, others⟩ := List.forall_mem_cons.mp present
      simp only [mergeFiles, first, ne_eq, not_true_eq_false, if_false]
      exact ih others

/-- A staged tree is restored into an empty directory, and restoring it again
changes nothing. -/
theorem mergeState_empty (staging : StateDirectory) :
    ∃ restored, mergeState staging ∅ = .ok restored ∧
      (∀ path, restored.lookup path = staging.lookup path) ∧
      mergeState staging restored = .ok restored := by
  let sources := staging.files.entries.insertionSort fun left right =>
    left.1 ≤ right.1
  have same : sources.Perm staging.files.entries := List.perm_insertionSort _ _
  have distinct : (sources.map Prod.fst).Nodup :=
    (same.map Prod.fst).nodup_iff.mpr staging.files.distinct
  have inside : ∀ source ∈ sources, source.1 ∈ staging.paths := by
    intro source member
    exact List.mem_map_of_mem (same.mem_iff.mp member)
  obtain ⟨restored, merged, files⟩ := mergeFiles_new inside distinct
    (StateDirectory.within_empty staging) (fun _ _ => rfl)
  have entries : restored.files.entries = sources := by
    rw [files]
    exact Dict.entries_ofList distinct
  have lookup : ∀ path, restored.lookup path = staging.lookup path := by
    intro path
    apply Option.ext
    intro data
    unfold StateDirectory.lookup
    rw [← Dict.mem_entries_iff, ← Dict.mem_entries_iff, entries]
    exact same.mem_iff
  refine ⟨restored, merged, lookup, mergeFiles_present ?_⟩
  intro source member
  rw [lookup]
  exact (Dict.mem_entries_iff _ _ _).mp (same.mem_iff.mp member)

/-! ## Verifying an exported archive -/

/-- The checksum and the size are those of the content. -/
def ArchivedFile.Matches (file : ArchivedFile) : Prop :=
  file.data.length = file.record.size ∧ sha256 file.data = file.record.sha256

/-- The import accepts that many files of that size. -/
def BackupArchive.WithinLimits (archive : BackupArchive) : Prop :=
  archive.names.length ≤ maxArchiveFiles ∧ archive.totalSize ≤ maxArchiveBytes

/-- What every export archives: distinct files below the included paths of
some tree. -/
structure Archivable (whole : StateDirectory) (archived : List ArchivedFile) :
    Prop where
  distinct : (archived.map ArchivedFile.path).Nodup
  inside : ∀ file ∈ archived, file.path ∈ whole.paths
  included : ∀ file ∈ archived, IsIncluded file.path

section Verify

variable {whole : StateDirectory} {archived : List ArchivedFile}
variable (archivable : Archivable whole archived)

include archivable

theorem Archivable.nodup_names :
    (archived.map fun file => asPosix file.path).Nodup := by
  have distinct := archivable.distinct
  rw [List.Nodup, List.pairwise_map] at distinct ⊢
  refine distinct.imp_of_mem ?_
  intro first second inFirst inSecond different same
  exact different (asPosix_inj
    (whole.named _ (archivable.inside first inFirst))
    (whole.named _ (archivable.inside second inSecond)) same)

theorem Archivable.manifestName_not_mem :
    manifestName ∉ archived.map fun file => asPosix file.path := by
  intro member
  obtain ⟨file, inArchive, same⟩ := List.mem_map.mp member
  have valid := whole.named _ (archivable.inside file inArchive)
  have own : asPosix [manifestName] = manifestName := by
    decide
  have path := asPosix_inj valid (by decide : isFilePath [manifestName] = true)
    (same.trans own.symm)
  obtain ⟨item, listed, head⟩ := archivable.included file inArchive
  rw [path] at head
  cases head
  exact absurd listed (by decide)

/-- The records of the manifest, by name. -/
def fileRecords (archived : List ArchivedFile) : Dict String FileRecord :=
  Dict.ofList (archived.map fun file => (asPosix file.path, file.record))

theorem Archivable.entries_fileRecords :
    (fileRecords archived).entries =
      archived.map fun file => (asPosix file.path, file.record) := by
  apply Dict.entries_ofList
  rw [List.map_map]
  exact archivable.nodup_names

omit archivable in
theorem validate_finishArchive (key : Option String) (generatedAt : String) :
    ∃ manifest, (finishArchive key generatedAt archived).manifest =
        some manifest ∧ manifest.validate key = .ok () ∧
      manifest.files = fileRecords archived := by
  refine ⟨_, rfl, ?_, rfl⟩
  unfold BackupManifest.validate
  simp only [ne_eq, not_true_eq_false, if_false]
  cases BackupManifest.signingKey key with
  | none => rfl
  | some key =>
      have nonempty : BackupManifest.sign key
          (BackupManifest.filesHash (fileRecords archived)) ≠ "" :=
        sha256_ne_empty _
      have same : Dict.ofList (archived.map fun file =>
          (asPosix file.path, file.record)) = fileRecords archived := rfl
      simp [Option.filter, same, nonempty]

/-- Past the checks of the whole archive, its entries are extracted. -/
theorem Archivable.extractVerified_eq (key : Option String)
    (generatedAt : String)
    (fits : (finishArchive key generatedAt archived).WithinLimits) :
    extractVerified key (finishArchive key generatedAt archived) =
      extractEntries (fileRecords archived)
        (archived.map ArchivedFile.entry) ∅ := by
  obtain ⟨manifest, found, valid, files⟩ :=
    @validate_finishArchive archived key generatedAt
  have entries : (finishArchive key generatedAt archived).entries =
      archived.map ArchivedFile.entry := rfl
  have filenames : (archived.map ArchivedFile.entry).map ZipEntry.filename =
      archived.map fun file => asPosix file.path := by
    rw [List.map_map]
    rfl
  have names : (finishArchive key generatedAt archived).names =
      (archived.map fun file => asPosix file.path) ++ [manifestName] := by
    unfold BackupArchive.names
    rw [entries, filenames, found]
    rfl
  have distinct : (finishArchive key generatedAt archived).names.Nodup := by
    rw [names, List.nodup_append]
    refine ⟨archivable.nodup_names, List.nodup_singleton _, ?_⟩
    intro name member other last same
    rw [same, List.mem_singleton.mp last] at member
    exact archivable.manifestName_not_mem member
  have actual : ((archived.map ArchivedFile.entry).filter fun entry =>
        !entry.isDir).map ZipEntry.filename =
      archived.map fun file => asPosix file.path := by
    have kept : (archived.map ArchivedFile.entry).filter
        (fun entry => !entry.isDir) = archived.map ArchivedFile.entry := by
      rw [List.filter_eq_self]
      intro entry member
      obtain ⟨file, inArchive, rfl⟩ := List.mem_map.mp member
      have valid := whole.named _ (archivable.inside file inArchive)
      simp [ArchivedFile.entry, not_isDir_of_isFilePath valid]
    rw [kept, filenames]
  have declared : manifest.files.entries.map Prod.fst =
      archived.map fun file => asPosix file.path := by
    rw [files, archivable.entries_fileRecords, List.map_map]
    rfl
  unfold extractVerified
  rw [if_neg (Nat.not_lt.mpr fits.1), if_neg (Nat.not_lt.mpr fits.2),
    if_neg (not_not_intro distinct)]
  simp only [found, valid, entries, actual]
  rw [declared, files]
  exact if_pos ⟨fun _ member => member, fun _ member => member⟩

/-- An archive of files with their own checksums is extracted. -/
theorem Archivable.extracts (key : Option String) (generatedAt : String)
    (fits : (finishArchive key generatedAt archived).WithinLimits)
    (agree : ∀ file ∈ archived, file.Matches) :
    ∃ staging, extractVerified key (finishArchive key generatedAt archived) =
        .ok staging ∧
      staging.files.entries =
        archived.map fun file => (file.path, file.data) := by
  have intact : ∀ file ∈ archived, file.Intact (fileRecords archived) := by
    intro file member
    refine ⟨?_, (agree file member).1, (agree file member).2⟩
    rw [← Dict.mem_entries_iff, archivable.entries_fileRecords]
    exact List.mem_map_of_mem member
  obtain ⟨staging, extracted, files⟩ := extractEntries_intact intact
    archivable.inside (StateDirectory.within_empty whole)
  refine ⟨staging, ?_, ?_⟩
  · rw [archivable.extractVerified_eq key generatedAt fits]
    exact extracted
  · have distinct : ((archived.map fun file =>
        (file.path, file.data)).map Prod.fst).Nodup := by
      rw [List.map_map]
      exact archivable.distinct
    rw [files, ← Dict.entries_ofList distinct]
    unfold Dict.ofList
    rw [List.foldl_map]
    rfl

/-- Such an archive is restored into an empty directory, and importing it
again changes nothing. -/
theorem Archivable.restores (key : Option String) (generatedAt : String)
    (fits : (finishArchive key generatedAt archived).WithinLimits)
    (agree : ∀ file ∈ archived, file.Matches) :
    let archive := finishArchive key generatedAt archived
    ∃ restored, importState key archive ∅ = .ok restored ∧
      (∀ path data, restored.lookup path = some data ↔
        ∃ file ∈ archived, file.path = path ∧ file.data = data) ∧
      importState key archive restored = .ok restored := by
  intro archive
  obtain ⟨staging, extracted, entries⟩ :=
    archivable.extracts key generatedAt fits agree
  obtain ⟨restored, merged, lookup, again⟩ := mergeState_empty staging
  have extractedAgain : extractVerified key archive = .ok staging := extracted
  refine ⟨restored, ?_, ?_, ?_⟩
  · unfold importState
    rw [extractedAgain]
    exact merged
  · intro path data
    rw [lookup]
    unfold StateDirectory.lookup
    rw [← Dict.mem_entries_iff, entries, List.mem_map]
    simp only [Prod.mk.injEq]
  · unfold importState
    rw [extractedAgain]
    exact again

end Verify

/-! ## Quiescent directories -/

section Quiescent

variable (directory : StateDirectory) (output : Option StatePath)

theorem archivable_stateFiles :
    Archivable directory ((stateFiles directory.paths output).map
      (archiveFile directory)) := by
  constructor
  · rw [List.map_map]
    have same : ArchivedFile.path ∘ archiveFile directory = id := rfl
    rw [same, List.map_id]
    exact nodup_stateFiles directory.nodup_paths output
  · intro file member
    obtain ⟨path, listed, rfl⟩ := List.mem_map.mp member
    exact (mem_stateFiles_iff.mp listed).1
  · intro file member
    obtain ⟨path, listed, rfl⟩ := List.mem_map.mp member
    exact (mem_stateFiles_iff.mp listed).2.1

/-- Exporting a directory and importing the archive twice. -/
theorem restores_export (key : Option String) (generatedAt : String)
    (fits : (exportState key generatedAt directory output).WithinLimits) :
    let archive := exportState key generatedAt directory output
    ∃ restored, importState key archive ∅ = .ok restored ∧
      (∀ path, restored.lookup path =
        if path ∈ stateFiles directory.paths output then directory.lookup path
        else none) ∧
      importState key archive restored = .ok restored := by
  intro archive
  have agree : ∀ file ∈ (stateFiles directory.paths output).map
      (archiveFile directory), file.Matches := by
    intro file member
    obtain ⟨path, _, rfl⟩ := List.mem_map.mp member
    exact ⟨rfl, rfl⟩
  obtain ⟨restored, imported, lookup, again⟩ :=
    (archivable_stateFiles directory output).restores key generatedAt fits agree
  refine ⟨restored, imported, ?_, again⟩
  intro path
  apply Option.ext
  intro data
  rw [lookup]
  constructor
  · rintro ⟨file, member, rfl, rfl⟩
    obtain ⟨path, listed, rfl⟩ := List.mem_map.mp member
    have own : (archiveFile directory path).path = path := rfl
    rw [own, if_pos listed]
    obtain ⟨data, found⟩ := StateDirectory.mem_paths_iff.mp
      (mem_stateFiles_iff.mp listed).1
    simp [archiveFile, found]
  · intro found
    split at found
    · rename_i listed
      refine ⟨archiveFile directory path, List.mem_map_of_mem listed, rfl, ?_⟩
      simp [archiveFile, found]
    · cases found

end Quiescent

end Urp
