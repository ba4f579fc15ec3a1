import Urp.BackupRoundTrip
import Urp.Encoding

/-!
# Release manifests

`build_release_manifest` lists the files of a source tree with their sizes and
checksums, `verify_release_manifest` compares the listed files with a tree.
Files that the manifest does not list are not looked for.
-/

namespace Urp

open Python

/-! ## Release files -/

/-- A directory of files without symbolic links. -/
abbrev SourceTree := StateDirectory

def defaultExcludes : List String :=
  [".git", ".mypy_cache", ".pytest_cache", ".ruff_cache", ".urp", ".venv",
    ".DS_Store", ".coverage", "__pycache__", "archive", "build", "coverage",
    "dist", "htmlcov", "node_modules", "site", "target", "tmp",
    "PACKAGE_SHA256.json"]

def beginsWith (start name : String) : Bool :=
  start.toList.isPrefixOf name.toList

/-- The file is not among the excluded ones. -/
def isReleased (excludes excludedPaths : List String) (path : StatePath) :
    Bool :=
  !excludedPaths.contains (asPosix path) &&
    !(path.any fun part => excludes.contains part || beginsWith ".urp" part ||
      hasSuffix ".egg-info" part) &&
    !(hasSuffix ".pyc" (path.getLast?.getD "") ||
      hasSuffix ".pyo" (path.getLast?.getD ""))

def iterReleaseFiles (tree : SourceTree) (excludes excludedPaths : List String) :
    List StatePath :=
  (tree.paths.filter (isReleased excludes excludedPaths)).insertionSort
    fun left right => left ≤ right

/-! ## Signatures -/

/-- Ed25519: what a private key signs, its public key verifies. -/
structure Ed25519 where
  publicKey : Bytes → Bytes
  sign : Bytes → Bytes → Bytes
  verify : Bytes → Bytes → Bytes → Bool
  verify_sign : ∀ key payload,
    verify (publicKey key) (sign key payload) payload = true

inductive SigningKey where
  | text (value : String)
  | raw (value : Bytes)

namespace SigningKey

def isTruthy : SigningKey → Bool
  | text value => value != ""
  | raw value => !value.isEmpty

/-- `_private_key`. -/
def privateKey (key : SigningKey) : Except PyException Bytes :=
  let raw := match key with
    | text value => Base64.decode value.toList
    | raw value => some value
  match raw with
  | none => .error (.valueError
      "URP_RELEASE_SIGNING_KEY must be base64-encoded Ed25519 private key bytes")
  | some raw =>
      if raw.length ≠ 32 then .error (.valueError
        "URP_RELEASE_SIGNING_KEY must decode to exactly 32 bytes")
      else .ok raw

end SigningKey

/-! ## Building -/

/-- What the build draws from its surroundings: `URP_RELEASE_SIGNING_KEY`, the
time, the platform and the answers of git. -/
structure BuildEnvironment where
  releaseSigningKey : Option String := none
  generatedAt : String
  python : String
  platform : String
  sourceDateEpoch : Option String := none
  gitCommit : Option String := none
  gitBranch : Option String := none
  gitStatus : Option String := none

structure GitProvenance where
  commit : Option String
  branch : Option String
  dirty : Option Bool
  available : Bool

structure Provenance where
  builder : String := "urp.release.write_release_manifest"
  python : String
  platform : String
  sourceDateEpoch : Option String
  git : GitProvenance
  archivePolicy : String :=
    "archive/source_packages is preserved in the repository but excluded from the active release manifest"

structure Attestation where
  algorithm : String := "ed25519"
  publicKey : String
  signature : String
  payload : String := "manifest_version,generated_at,content_digest,git.commit"

structure ReleaseManifest where
  manifestVersion : String := "urp.release.v2"
  scope : String := "active_distribution"
  excludedRoots : List String :=
    defaultExcludes.insertionSort fun left right => left ≤ right
  generatedAt : String
  fileCount : Nat
  files : Dict String FileRecord
  contentDigest : String
  contentDigestAlgorithm : String := "sha256(stable-json(files))"
  provenance : Provenance
  attestation : Option Attestation := none

namespace ReleaseManifest

/-- `_signature_payload`. -/
def signaturePayload (manifest : ReleaseManifest) : Bytes :=
  utf8 (Json.dumps .compact (.dict
    [("manifest_version", .str manifest.manifestVersion),
      ("generated_at", .str manifest.generatedAt),
      ("content_digest", .str manifest.contentDigest),
      ("git_commit", optionalText manifest.provenance.git.commit)]))

end ReleaseManifest

def BuildEnvironment.provenance (environment : BuildEnvironment) :
    Provenance where
  python := environment.python
  platform := environment.platform
  sourceDateEpoch := environment.sourceDateEpoch
  git := {
    commit := environment.gitCommit
    branch := environment.gitBranch
    dirty := environment.gitStatus.map fun status => status != ""
    available := environment.gitCommit.isSome }

/-- `signing_key or os.environ.get("URP_RELEASE_SIGNING_KEY")`, if it is not
empty. -/
def configuredKey (environment : BuildEnvironment)
    (signingKey : Option SigningKey) : Option SigningKey :=
  match signingKey.filter SigningKey.isTruthy with
  | some key => some key
  | none => (environment.releaseSigningKey.map SigningKey.text).filter
      SigningKey.isTruthy

def fileRecord (data : Bytes) : FileRecord := ⟨sha256 data, data.length⟩

/-- The files of the tree with their records. -/
def releaseRecords (tree : SourceTree) (excludedPaths : List String) :
    List (String × FileRecord) :=
  (iterReleaseFiles tree defaultExcludes excludedPaths).map fun path =>
    (asPosix path, fileRecord ((tree.lookup path).getD []))

section Building

variable (crypto : Ed25519) (environment : BuildEnvironment)

def attest (key : Bytes) (manifest : ReleaseManifest) : Attestation where
  publicKey := String.ofList (Base64.encode (crypto.publicKey key))
  signature := String.ofList
    (Base64.encode (crypto.sign key manifest.signaturePayload))

def buildReleaseManifest (tree : SourceTree) (signingKey : Option SigningKey)
    (excludedPaths : List String) : Except PyException ReleaseManifest :=
  let files := Dict.ofList (releaseRecords tree excludedPaths)
  let manifest : ReleaseManifest := {
    generatedAt := environment.generatedAt
    fileCount := files.entries.length
    files
    contentDigest := BackupManifest.filesHash files
    provenance := environment.provenance }
  match configuredKey environment signingKey with
  | none => .ok manifest
  | some key => do
      let key ← key.privateKey
      .ok { manifest with attestation := some (attest crypto key manifest) }

end Building

/-! ## Verifying -/

/-- `_release_path`; without symbolic links the path stays below the root. -/
def releasePath (relative : String) : Except PyException StatePath :=
  let parts := posixParts relative
  if relative.toList.head? = some '/' ∨ parts = [] ∨
      '\\' ∈ relative.toList ∨
      parts.any (["", ".", ".."].contains ·) = true then
    .error (.valueError ("unsafe release manifest path: " ++ relative))
  else .ok parts

/-- The file is there with the recorded size and checksum. -/
def FileRecord.matchesFile (record : FileRecord) (file : Option Bytes) : Bool :=
  match file with
  | none => false
  | some data => data.length == record.size && Python.sha256 data == record.sha256

/-- The loop that fills `file_results`. -/
def checkFiles (root : SourceTree) :
    List (String × FileRecord) → Except PyException (List (String × Bool))
  | [] => .ok []
  | (relative, record) :: rest => do
      let path ← releasePath relative
      let results ← checkFiles root rest
      .ok ((relative, record.matchesFile (root.lookup path)) :: results)

structure ReleaseVerification where
  passed : Bool
  contentDigestValid : Bool
  filesValid : Option Bool
  invalidFiles : List String
  signaturePresent : Bool
  signatureValid : Option Bool

section Verifying

variable (crypto : Ed25519)

/-- A signature that does not decode is invalid. -/
def Attestation.isValid (attestation : Attestation) (payload : Bytes) : Bool :=
  match Base64.decode attestation.publicKey.toList,
      Base64.decode attestation.signature.toList with
  | some key, some signature => crypto.verify key signature payload
  | _, _ => false

def verifyReleaseManifest (manifest : ReleaseManifest)
    (root : Option SourceTree) (requireSignature : Bool := false) :
    Except PyException ReleaseVerification := do
  let contentValid :=
    BackupManifest.filesHash manifest.files == manifest.contentDigest
  let fileResults ← match root with
    | none => .ok []
    | some root => checkFiles root manifest.files.entries
  let signatureValid := manifest.attestation.map fun attestation =>
    attestation.isValid crypto manifest.signaturePayload
  let allValid := fileResults.all fun result => result.2
  .ok {
    passed := contentValid && allValid && signatureValid != some false &&
      (!requireSignature || signatureValid == some true)
    contentDigestValid := contentValid
    filesValid := if fileResults.isEmpty then none else some allValid
    invalidFiles := ((fileResults.filter fun result => !result.2).map
      Prod.fst).insertionSort fun left right => left ≤ right
    signaturePresent := manifest.attestation.isSome
    signatureValid }

end Verifying

/-! ## The files of a release -/

/-- The content of the path's file if the release has it. -/
def released (excludedPaths : List String) (tree : SourceTree)
    (path : StatePath) : Option Bytes :=
  if isReleased defaultExcludes excludedPaths path then tree.lookup path
  else none

/-- The release files of the trees are the same, with the same bytes. -/
def SameRelease (excludedPaths : List String) (tree other : SourceTree) :
    Prop :=
  ∀ path, released excludedPaths tree path = released excludedPaths other path

/-- SHA-256 has no collision among the files of the two trees. -/
def CollisionFreeFiles (tree other : SourceTree) : Prop :=
  ∀ path otherPath data otherData, tree.lookup path = some data →
    other.lookup otherPath = some otherData →
      sha256 data = sha256 otherData → data = otherData

section Released

variable {tree other : SourceTree} {excludedPaths : List String}

theorem mem_iterReleaseFiles_iff {path : StatePath} :
    path ∈ iterReleaseFiles tree defaultExcludes excludedPaths ↔
      ∃ data, released excludedPaths tree path = some data := by
  unfold iterReleaseFiles released
  rw [List.mem_insertionSort, List.mem_filter,
    StateDirectory.mem_paths_iff]
  constructor
  · rintro ⟨⟨data, found⟩, kept⟩
    exact ⟨data, by rw [if_pos kept, found]⟩
  · rintro ⟨data, found⟩
    split at found
    · rename_i kept
      exact ⟨⟨data, found⟩, kept⟩
    · cases found

theorem lookup_of_released {path : StatePath} {data : Bytes}
    (found : released excludedPaths tree path = some data) :
    tree.lookup path = some data := by
  unfold released at found
  split at found
  · exact found
  · cases found

theorem isFilePath_of_released {path : StatePath} {data : Bytes}
    (found : released excludedPaths tree path = some data) :
    isFilePath path = true :=
  tree.named path
    (StateDirectory.mem_paths_iff.mpr ⟨data, lookup_of_released found⟩)

theorem mem_releaseRecords_iff {entry : String × FileRecord} :
    entry ∈ releaseRecords tree excludedPaths ↔
      ∃ path data, released excludedPaths tree path = some data ∧
        entry = (asPosix path, fileRecord data) := by
  unfold releaseRecords
  rw [List.mem_map]
  constructor
  · rintro ⟨path, member, rfl⟩
    obtain ⟨data, found⟩ := mem_iterReleaseFiles_iff.mp member
    refine ⟨path, data, found, ?_⟩
    rw [lookup_of_released found]
    rfl
  · rintro ⟨path, data, found, rfl⟩
    refine ⟨path, mem_iterReleaseFiles_iff.mpr ⟨data, found⟩, ?_⟩
    rw [lookup_of_released found]
    rfl

theorem nodup_releaseRecords :
    ((releaseRecords tree excludedPaths).map Prod.fst).Nodup := by
  unfold releaseRecords
  rw [List.map_map]
  apply List.Nodup.map_on
  · intro path member otherPath otherMember same
    obtain ⟨data, found⟩ := mem_iterReleaseFiles_iff.mp member
    obtain ⟨otherData, otherFound⟩ := mem_iterReleaseFiles_iff.mp otherMember
    exact asPosix_inj (isFilePath_of_released found)
      (isFilePath_of_released otherFound) same
  · exact (List.perm_insertionSort _ _).nodup_iff.mpr
      (tree.nodup_paths.filter _)

/-- A listed path is safe unless it has a backslash. -/
theorem releasePath_asPosix {path parts : StatePath}
    (valid : isFilePath path = true) :
    releasePath (asPosix path) = .ok parts ↔
      parts = path ∧ '\\' ∉ (asPosix path).toList := by
  have split := posixParts_of_isFilePath valid
  have plain : ¬ path.any (["", ".", ".."].contains ·) = true := by
    intro special
    obtain ⟨part, member, bad⟩ := List.any_eq_true.mp special
    obtain ⟨⟨nonempty, dot, up⟩, -⟩ := isFileName_of_mem valid member
    simp [nonempty, dot, up] at bad
  have relative : (asPosix path).toList.head? ≠ some '/' := by
    intro slash
    cases text : (asPosix path).toList with
    | nil => simp [text] at slash
    | cons c rest =>
        rw [text, List.head?_cons, Option.some.injEq] at slash
        rw [slash] at text
        exact (slash_not_end valid).1 rest text
  unfold releasePath
  simp only [split, relative, ne_nil_of_isFilePath valid, plain, false_or,
    Bool.false_eq_true, or_false]
  by_cases backslash : '\\' ∈ (asPosix path).toList
  · rw [if_pos backslash]
    constructor
    · exact nofun
    · exact fun both => absurd backslash both.2
  · rw [if_neg backslash]
    constructor
    · rintro ⟨⟩
      exact ⟨rfl, backslash⟩
    · rintro ⟨rfl, -⟩
      rfl

theorem matchesFile_iff {path : StatePath} {data : Bytes}
    (collisionFree : CollisionFreeFiles tree other)
    (found : tree.lookup path = some data) (otherPath : StatePath) :
    (fileRecord data).matchesFile (other.lookup otherPath) = true ↔
      other.lookup otherPath = some data := by
  cases there : other.lookup otherPath with
  | none => simp [FileRecord.matchesFile]
  | some otherData =>
      simp only [FileRecord.matchesFile, fileRecord, Bool.and_eq_true,
        beq_iff_eq, Option.some.injEq]
      constructor
      · rintro ⟨-, same⟩
        exact (collisionFree path otherPath data otherData found there
          same.symm).symm
      · rintro rfl
        exact ⟨rfl, rfl⟩

end Released

/-! ## What passes -/

/-- All listed files are found as recorded. -/
theorem checkFiles_passes_iff {root : SourceTree}
    {entries : List (String × FileRecord)} :
    (∃ results, checkFiles root entries = .ok results ∧
      (results.all fun result => result.2) = true) ↔
      ∀ entry ∈ entries, ∃ path, releasePath entry.1 = .ok path ∧
        entry.2.matchesFile (root.lookup path) = true := by
  induction entries with
  | nil => exact ⟨fun _ => nofun, fun _ => ⟨[], rfl, rfl⟩⟩
  | cons entry rest ih =>
      obtain ⟨relative, record⟩ := entry
      rw [List.forall_mem_cons, ← ih]
      constructor
      · rintro ⟨results, checked, all⟩
        unfold checkFiles at checked
        obtain ⟨path, safe, checked⟩ :=
          Program.except_bind_eq_ok_iff.mp checked
        obtain ⟨others, later, same⟩ :=
          Program.except_bind_eq_ok_iff.mp checked
        cases same
        rw [List.all_cons, Bool.and_eq_true] at all
        exact ⟨⟨path, safe, all.1⟩, others, later, all.2⟩
      · rintro ⟨⟨path, safe, found⟩, others, later, all⟩
        refine ⟨_, Program.except_bind_eq_ok_iff.mpr ⟨path, safe,
          Program.except_bind_eq_ok_iff.mpr ⟨others, later, rfl⟩⟩, ?_⟩
        rw [List.all_cons, found, all]
        rfl

section Passing

variable {crypto : Ed25519} {environment : BuildEnvironment}
  {tree other : SourceTree} {signingKey : Option SigningKey}
  {excludedPaths : List String} {manifest : ReleaseManifest}

/-- What verification needs to know of a built manifest. -/
theorem built_manifest
    (built : buildReleaseManifest crypto environment tree signingKey
      excludedPaths = .ok manifest) :
    manifest.files = Dict.ofList (releaseRecords tree excludedPaths) ∧
      BackupManifest.filesHash manifest.files = manifest.contentDigest ∧
      (manifest.attestation.map fun attestation =>
        attestation.isValid crypto manifest.signaturePayload) =
          (configuredKey environment signingKey).map fun _ => true := by
  unfold buildReleaseManifest at built
  cases configured : configuredKey environment signingKey with
  | none =>
      simp only [configured] at built
      cases built
      exact ⟨rfl, rfl, rfl⟩
  | some key =>
      simp only [configured] at built
      obtain ⟨privateKey, -, signed⟩ :=
        Program.except_bind_eq_ok_iff.mp built
      cases signed
      refine ⟨rfl, rfl, ?_⟩
      simp only [Option.map_some, Attestation.isValid, attest,
        String.toList_ofList, Base64.decode_encode]
      exact congrArg some (crypto.verify_sign privateKey _)

/-- The verification of a built manifest passes. -/
theorem passes_iff
    (built : buildReleaseManifest crypto environment tree signingKey
      excludedPaths = .ok manifest)
    (collisionFree : CollisionFreeFiles tree other)
    (requireSignature : Bool) :
    (∃ report, verifyReleaseManifest crypto manifest (some other)
        requireSignature = .ok report ∧ report.passed = true) ↔
      (∀ path data, released excludedPaths tree path = some data →
        '\\' ∉ (asPosix path).toList ∧ other.lookup path = some data) ∧
      (requireSignature = true →
        configuredKey environment signingKey ≠ none) := by
  obtain ⟨files, digest, signatures⟩ := built_manifest built
  have entries : manifest.files.entries =
      releaseRecords tree excludedPaths := by
    rw [files, Dict.entries_ofList nodup_releaseRecords]
  have listed : (∀ entry ∈ manifest.files.entries, ∃ path,
        releasePath entry.1 = .ok path ∧
          entry.2.matchesFile (other.lookup path) = true) ↔
      ∀ path data, released excludedPaths tree path = some data →
        '\\' ∉ (asPosix path).toList ∧ other.lookup path = some data := by
    rw [entries]
    constructor
    · intro every path data found
      obtain ⟨parts, safe, same⟩ := every _
        (mem_releaseRecords_iff.mpr ⟨path, data, found, rfl⟩)
      obtain ⟨rfl, plain⟩ :=
        (releasePath_asPosix (isFilePath_of_released found)).mp safe
      exact ⟨plain, (matchesFile_iff collisionFree
        (lookup_of_released found) parts).mp same⟩
    · intro every entry member
      obtain ⟨path, data, found, rfl⟩ := mem_releaseRecords_iff.mp member
      obtain ⟨plain, same⟩ := every path data found
      exact ⟨path, (releasePath_asPosix (isFilePath_of_released found)).mpr
          ⟨rfl, plain⟩,
        (matchesFile_iff collisionFree (lookup_of_released found) path).mpr
          same⟩
  rw [← listed, ← checkFiles_passes_iff]
  have signed : ((manifest.attestation.map fun attestation =>
        attestation.isValid crypto manifest.signaturePayload) != some false &&
      (!requireSignature || (manifest.attestation.map fun attestation =>
        attestation.isValid crypto manifest.signaturePayload) ==
          some true)) = true ↔
      (requireSignature = true →
        configuredKey environment signingKey ≠ none) := by
    rw [signatures]
    cases configuredKey environment signingKey <;>
      cases requireSignature <;> simp
  unfold verifyReleaseManifest
  constructor
  · rintro ⟨report, verified, passed⟩
    obtain ⟨results, checked, same⟩ :=
      Program.except_bind_eq_ok_iff.mp verified
    cases same
    simp only [Bool.and_assoc, Bool.and_eq_true] at passed signed
    exact ⟨⟨results, checked, passed.2.1⟩, signed.mp passed.2.2⟩
  · rintro ⟨⟨results, checked, all⟩, required⟩
    refine ⟨_, Program.except_bind_eq_ok_iff.mpr ⟨results, checked, rfl⟩, ?_⟩
    have both := signed.mpr required
    simp only [digest, beq_self_eq_true, all, Bool.true_and]
    exact both

/-- A passed verification means the same release exactly if the other tree has
no release file that the first lacks, unless it does not pass: a listed file is
missing, has other bytes or a backslash in its path, or a required signature is
missing. -/
theorem passed_same_iff
    (built : buildReleaseManifest crypto environment tree signingKey
      excludedPaths = .ok manifest)
    (collisionFree : CollisionFreeFiles tree other)
    (requireSignature : Bool) :
    (∀ report, verifyReleaseManifest crypto manifest (some other)
        requireSignature = .ok report → report.passed = true →
          SameRelease excludedPaths tree other) ↔
      (∀ path, released excludedPaths other path ≠ none →
        released excludedPaths tree path ≠ none) ∨
      (∃ path data, released excludedPaths tree path = some data ∧
        ('\\' ∈ (asPosix path).toList ∨ other.lookup path ≠ some data)) ∨
      requireSignature = true ∧ configuredKey environment signingKey = none := by
  have passes := passes_iff built collisionFree requireSignature
  constructor
  · intro complete
    by_contra neither
    simp only [not_or, not_exists, not_and, not_not] at neither
    obtain ⟨added, kept, required⟩ := neither
    obtain ⟨report, verified, passed⟩ := passes.mpr
      ⟨fun path data found => kept path data found, required⟩
    have same := complete report verified passed
    apply added
    intro path there
    rw [same path]
    exact there
  · intro condition report verified passed
    obtain ⟨kept, required⟩ := passes.mp ⟨report, verified, passed⟩
    rcases condition with noneAdded | ⟨path, data, found, bad⟩ |
      ⟨wanted, unsigned⟩
    · intro path
      cases found : released excludedPaths tree path with
      | some data =>
          have there := (kept path data found).2
          have both : isReleased defaultExcludes excludedPaths path = true := by
            by_contra excluded
            rw [released, if_neg excluded] at found
            cases found
          rw [released, if_pos both, there]
      | none =>
          by_contra there
          exact noneAdded path (Ne.symm there) found
    · obtain ⟨plain, same⟩ := kept path data found
      rcases bad with backslash | different
      · exact absurd backslash plain
      · exact absurd same different
    · exact absurd unsigned (required wanted)

end Passing

/-! ## An added file -/

def treeOf (files : List (StatePath × Bytes)) : SourceTree :=
  files.foldl (fun tree file => (tree.write file.1 file.2).toOption.getD tree) ∅

def plainTree : SourceTree := treeOf [(["README.md"], utf8 "demo".toList)]

def extendedTree : SourceTree :=
  treeOf [(["README.md"], utf8 "demo".toList),
    (["python", "urp", "extra.py"], utf8 "demo".toList)]

def sampleEnvironment : BuildEnvironment where
  generatedAt := "2026-01-01T00:00:00+00:00"
  python := "3.12.0"
  platform := "Linux"

/-- A signature that repeats the key and the payload. -/
def echoCrypto : Ed25519 where
  publicKey key := key
  sign key payload := key ++ payload
  verify key signature payload := signature == key ++ payload
  verify_sign _ _ := beq_self_eq_true _

theorem lookup_plainTree {path : StatePath} {data : Bytes}
    (found : plainTree.lookup path = some data) :
    path = ["README.md"] ∧ data = utf8 "demo".toList := by
  have entries : plainTree.files.entries =
      [(["README.md"], utf8 "demo".toList)] := by decide
  have member := (Dict.mem_entries_iff _ _ _).mpr found
  rw [entries, List.mem_singleton] at member
  cases member
  exact ⟨rfl, rfl⟩

theorem lookup_extendedTree {path : StatePath} {data : Bytes}
    (found : extendedTree.lookup path = some data) :
    data = utf8 "demo".toList := by
  have entries : extendedTree.files.entries =
      [(["README.md"], utf8 "demo".toList),
        (["python", "urp", "extra.py"], utf8 "demo".toList)] := by decide
  have member := (Dict.mem_entries_iff _ _ _).mpr found
  rw [entries] at member
  simp only [List.mem_cons, Prod.mk.injEq, List.not_mem_nil, or_false]
    at member
  rcases member with ⟨-, same⟩ | ⟨-, same⟩ <;> exact same

theorem collisionFree_sample : CollisionFreeFiles plainTree extendedTree := by
  intro path otherPath data otherData found otherFound _
  rw [(lookup_plainTree found).2, lookup_extendedTree otherFound]

theorem addedFile_passes :
    CollisionFreeFiles plainTree extendedTree ∧
      ∃ manifest report,
        buildReleaseManifest echoCrypto sampleEnvironment plainTree none [] =
          .ok manifest ∧
        verifyReleaseManifest echoCrypto manifest (some extendedTree) =
          .ok report ∧ report.passed = true ∧
        ¬ SameRelease [] plainTree extendedTree := by
  refine ⟨collisionFree_sample, ?_⟩
  have passes := (@passes_iff echoCrypto sampleEnvironment plainTree
    extendedTree none [] _ rfl collisionFree_sample false).mpr (by
      refine ⟨?_, nofun⟩
      intro path data found
      obtain ⟨rfl, rfl⟩ := lookup_plainTree (lookup_of_released found)
      exact ⟨by decide, by decide⟩)
  obtain ⟨report, verified, passed⟩ := passes
  refine ⟨_, report, rfl, verified, passed, ?_⟩
  intro same
  have extra := same ["python", "urp", "extra.py"]
  have listed : released [] extendedTree ["python", "urp", "extra.py"] =
      some (utf8 "demo".toList) := by decide
  rw [listed] at extra
  have impossible := (lookup_plainTree (lookup_of_released extra)).1
  exact absurd impossible (by decide)

theorem passed_same_iff_added :
    ∃ manifest,
      buildReleaseManifest echoCrypto sampleEnvironment plainTree none [] =
        .ok manifest ∧
      ((∀ report, verifyReleaseManifest echoCrypto manifest
          (some extendedTree) = .ok report → report.passed = true →
            SameRelease [] plainTree extendedTree) ↔
        (∀ path, released [] extendedTree path ≠ none →
          released [] plainTree path ≠ none) ∨
        (∃ path data, released [] plainTree path = some data ∧
          ('\\' ∈ (asPosix path).toList ∨
            extendedTree.lookup path ≠ some data)) ∨
        false = true ∧ configuredKey sampleEnvironment none = none) :=
  ⟨_, rfl, passed_same_iff rfl collisionFree_sample false⟩

end Urp
