import Urp.BackupRoundTrip
import Urp.Library.Framing

/-!
# Plugin package digests

`_package_digest` hashes the names and the contents of the files of a plugin
package in order.  A name is preceded by its length, a content is not.
-/

namespace Urp

open Python

/-! ## Plugin packages -/

def isNulFree (path : StatePath) : Bool :=
  path.all fun name => !name.toList.contains '\x00'

/-- A package of files without symbolic links. -/
structure PluginPackage where
  tree : StateDirectory
  nulFree : ∀ path ∈ tree.paths, isNulFree path = true

namespace PluginPackage

/-- `sorted(item for item in root.rglob("*") if item.is_file())`, with the
contents. -/
def sortedFiles (root : PluginPackage) : List (StatePath × Bytes) :=
  root.tree.files.entries.insertionSort fun left right => left.1 ≤ right.1

end PluginPackage

/-! ## The digest -/

/-- The last four bytes of a number. -/
def lengthBytes (n : Nat) : Bytes :=
  [UInt8.ofNat (n / 2 ^ 24), UInt8.ofNat (n / 2 ^ 16), UInt8.ofNat (n / 2 ^ 8),
    UInt8.ofNat n]

/-- `n.to_bytes(4, "big")`. -/
def toBytesBig (n : Nat) : Except PyException Bytes :=
  if n < 2 ^ 32 then .ok (lengthBytes n) else .error .overflowError

/-- `str(path.relative_to(root)).encode("utf-8")`. -/
def relativeName (path : StatePath) : Bytes := utf8 (asPosix path).toList

/-- The loop of `_package_digest`; `hashed` is what `digest` was given. -/
def updatePackage : List (StatePath × Bytes) → Bytes → Except PyException Bytes
  | [], hashed => .ok hashed
  | (path, data) :: rest, hashed => do
      let relative := relativeName path
      let length ← toBytesBig relative.length
      updatePackage rest (hashed ++ length ++ relative ++ data)

/-- The bytes that the digest is taken of. -/
def hashedBytes (root : PluginPackage) : Except PyException Bytes :=
  updatePackage root.sortedFiles []

/-- `_package_digest(root)`. -/
def packageDigest (root : PluginPackage) : Except PyException String := do
  let hashed ← hashedBytes root
  .ok (sha256 hashed)

/-! ## Identity -/

/-- The same relative paths with the same contents. -/
def SameFiles (root other : PluginPackage) : Prop :=
  ∀ path, other.tree.lookup path = root.tree.lookup path

/-- SHA-256 does not collide on what is hashed of the two packages. -/
def CollisionFreePackages (root other : PluginPackage) : Prop :=
  ∀ {bytes otherBytes}, hashedBytes root = .ok bytes →
    hashedBytes other = .ok otherBytes → sha256 bytes = sha256 otherBytes →
      bytes = otherBytes

/-- No other package has the package's digest. -/
def IsIdentified (root : PluginPackage) : Prop :=
  ∀ other digest, CollisionFreePackages root other →
    packageDigest root = .ok digest → packageDigest other = .ok digest →
      SameFiles root other

/-! ## Headers -/

/-- The name fits the four bytes of its length. -/
def HasShortName (path : StatePath) : Prop :=
  (relativeName path).length < 2 ^ 32

/-- What is hashed in front of a content. -/
def fileHeader (path : StatePath) : Bytes :=
  lengthBytes (relativeName path).length ++ relativeName path

theorem toBytesBig_eq_ok_iff {n : Nat} {bytes : Bytes} :
    toBytesBig n = .ok bytes ↔ n < 2 ^ 32 ∧ lengthBytes n = bytes := by
  unfold toBytesBig
  split
  · rename_i small
    exact ⟨fun same => ⟨small, Except.ok.inj same⟩, fun both =>
      congrArg Except.ok both.2⟩
  · rename_i large
    exact ⟨nofun, fun both => absurd both.1 large⟩

theorem lengthBytes_inj {first second : Nat} (small : first < 2 ^ 32)
    (otherSmall : second < 2 ^ 32)
    (same : lengthBytes first = lengthBytes second) : first = second := by
  simp only [lengthBytes, List.cons.injEq, and_true, ← UInt8.toNat_inj,
    UInt8.toNat_ofNat'] at same
  omega

theorem updatePackage_eq_ok_iff {files : List (StatePath × Bytes)}
    {hashed bytes : Bytes} :
    updatePackage files hashed = .ok bytes ↔
      (∀ file ∈ files, HasShortName file.1) ∧
        bytes = hashed ++ Framing.join fileHeader files := by
  induction files generalizing hashed with
  | nil =>
      simp [updatePackage, Framing.join, eq_comm]
  | cons file rest ih =>
      obtain ⟨path, data⟩ := file
      unfold updatePackage
      rw [List.forall_mem_cons]
      constructor
      · intro run
        obtain ⟨length, measured, later⟩ := Program.except_bind_eq_ok_iff.mp run
        obtain ⟨small, rfl⟩ := toBytesBig_eq_ok_iff.mp measured
        obtain ⟨others, rfl⟩ := ih.mp later
        refine ⟨⟨small, others⟩, ?_⟩
        simp only [Framing.join, fileHeader, List.append_assoc]
      · rintro ⟨⟨small, others⟩, rfl⟩
        have measured := toBytesBig_eq_ok_iff.mpr ⟨small, rfl⟩
        simp only [measured, bind, Except.bind]
        refine ih.mpr ⟨others, ?_⟩
        simp only [Framing.join, fileHeader, List.append_assoc]

/-! ## Listings -/

/-- A path that a file of a package can have. -/
def IsPackagePath (path : StatePath) : Prop :=
  isFilePath path = true ∧ isNulFree path = true

/-- A package can have files at both paths, the first one before the other. -/
def CanPrecede (path next : StatePath) : Prop :=
  path < next ∧ ¬ path <+: next

/-- The paths of a package that has a digest, in order. -/
structure IsListing (paths : List StatePath) : Prop where
  valid : ∀ path ∈ paths, IsPackagePath path
  short : ∀ path ∈ paths, HasShortName path
  ordered : paths.Pairwise CanPrecede

theorem IsListing.sublist {part whole : List StatePath}
    (fewer : List.Sublist part whole) (listing : IsListing whole) :
    IsListing part where
  valid path member := listing.valid path (fewer.subset member)
  short path member := listing.short path (fewer.subset member)
  ordered := listing.ordered.sublist fewer

theorem not_lt_of_above {path next : StatePath} (above : path <+: next) :
    ¬ next < path := by
  obtain ⟨rest, rfl⟩ := above
  induction path with
  | nil => exact List.not_lex_nil
  | cons name path ih =>
      intro later
      cases later with
      | rel smaller => exact absurd smaller (lt_irrefl name)
      | cons further => exact ih further

/-- No path of a listing is above another. -/
theorem IsListing.eq_of_above {paths : List StatePath}
    (listing : IsListing paths) :
    ∀ path ∈ paths, ∀ other ∈ paths, path <+: other → path = other := by
  refine List.Pairwise.forall_of_forall_of_flip (fun _ _ _ => rfl) ?_ ?_
  · refine listing.ordered.imp ?_
    intro path next precedes above
    exact absurd above precedes.2
  · refine listing.ordered.imp ?_
    intro path next precedes above
    exact absurd precedes.1 (not_lt_of_above above)

theorem selfDelimiting_fileHeader :
    Framing.SelfDelimiting fileHeader fun path => IsListing [path] where
  nonempty path := by
    simp [fileHeader, lengthBytes]
  cut := by
    intro first second firstListed secondListed u v same
    have firstValid := firstListed.valid first List.mem_cons_self
    have secondValid := secondListed.valid second List.mem_cons_self
    simp only [fileHeader, List.append_assoc] at same
    obtain ⟨lengths, names⟩ := List.append_inj same rfl
    have sameLength := lengthBytes_inj
      (firstListed.short first List.mem_cons_self)
      (secondListed.short second List.mem_cons_self) lengths
    obtain ⟨sameName, rests⟩ := List.append_inj names sameLength
    have texts := String.toList_inj.mp (utf8_injective sameName)
    exact ⟨asPosix_inj firstValid.1 secondValid.1 texts, rests⟩

/-! ## Packages and listings -/

namespace PluginPackage

theorem mem_sortedFiles_iff {root : PluginPackage} {path : StatePath}
    {data : Bytes} :
    (path, data) ∈ root.sortedFiles ↔ root.tree.lookup path = some data := by
  unfold sortedFiles StateDirectory.lookup
  rw [List.mem_insertionSort, Dict.mem_entries_iff]

theorem map_sortedFiles_perm (root : PluginPackage) :
    (root.sortedFiles.map Prod.fst).Perm root.tree.paths :=
  (List.perm_insertionSort _ _).map Prod.fst

/-- The files of a package stand in order of their paths. -/
theorem ordered_sortedFiles (root : PluginPackage) :
    (root.sortedFiles.map Prod.fst).Pairwise CanPrecede := by
  have sorted : (root.sortedFiles.map Prod.fst).Pairwise (· ≤ ·) :=
    List.pairwise_map.mpr (List.pairwise_insertionSort
      (fun left right : StatePath × Bytes => left.1 ≤ right.1) _)
  have distinct : (root.sortedFiles.map Prod.fst).Nodup :=
    root.map_sortedFiles_perm.nodup_iff.mpr root.tree.nodup_paths
  refine (sorted.and distinct).imp_of_mem ?_
  rintro path next member later ⟨atMost, different⟩
  refine ⟨lt_of_le_of_ne atMost different, fun above => different ?_⟩
  exact root.tree.tree path (root.map_sortedFiles_perm.mem_iff.mp member) next
    (root.map_sortedFiles_perm.mem_iff.mp later) above

theorem isListing_sortedFiles {root : PluginPackage}
    (short : ∀ path ∈ root.tree.paths, HasShortName path) :
    IsListing (root.sortedFiles.map Prod.fst) where
  valid path member := by
    have inTree := root.map_sortedFiles_perm.mem_iff.mp member
    exact ⟨root.tree.named path inTree, root.nulFree path inTree⟩
  short path member := short path (root.map_sortedFiles_perm.mem_iff.mp member)
  ordered := root.ordered_sortedFiles

/-- The same files are the same list. -/
theorem sameFiles_iff {root other : PluginPackage} :
    SameFiles root other ↔ other.sortedFiles = root.sortedFiles := by
  constructor
  · intro same
    have distinct : ∀ package : PluginPackage, package.sortedFiles.Nodup := by
      intro package
      have names : (package.sortedFiles.map Prod.fst).Nodup :=
        package.map_sortedFiles_perm.nodup_iff.mpr package.tree.nodup_paths
      exact names.of_map
    have permuted : other.sortedFiles.Perm root.sortedFiles := by
      rw [List.perm_ext_iff_of_nodup (distinct other) (distinct root)]
      rintro ⟨path, data⟩
      rw [mem_sortedFiles_iff, mem_sortedFiles_iff, same path]
    have sorted : ∀ package : PluginPackage, package.sortedFiles.Pairwise
        fun left right => left.1 ≤ right.1 := fun package =>
      List.pairwise_insertionSort _ _
    refine permuted.eq_of_pairwise ?_ (sorted other) (sorted root)
    rintro ⟨path, data⟩ ⟨next, content⟩ found there before after
    obtain rfl : path = next := le_antisymm before after
    rw [mem_sortedFiles_iff] at found there
    rw [same path, there] at found
    rw [Option.some.inj found]
  · intro same path
    apply Option.ext
    intro data
    rw [← mem_sortedFiles_iff, ← mem_sortedFiles_iff, same]

/-- The package with the files of a listing. -/
def ofListing (files : List (StatePath × Bytes))
    (listing : IsListing (files.map Prod.fst)) : PluginPackage :=
  have distinct : (files.map Prod.fst).Nodup :=
    listing.ordered.imp fun precedes => ne_of_lt precedes.1
  have entries : (Dict.ofList files).entries = files :=
    Dict.entries_ofList distinct
  { tree := {
      files := Dict.ofList files
      named := by
        rw [entries]
        exact fun path member => (listing.valid path member).1
      tree := by
        rw [entries]
        exact listing.eq_of_above }
    nulFree := by
      unfold StateDirectory.paths
      rw [entries]
      exact fun path member => (listing.valid path member).2 }

theorem sortedFiles_ofListing {files : List (StatePath × Bytes)}
    (listing : IsListing (files.map Prod.fst)) :
    (ofListing files listing).sortedFiles = files := by
  have distinct : (files.map Prod.fst).Nodup :=
    listing.ordered.imp fun precedes => ne_of_lt precedes.1
  have entries : (ofListing files listing).tree.files.entries = files :=
    Dict.entries_ofList distinct
  have sorted : files.Pairwise fun left right => left.1 ≤ right.1 :=
    List.pairwise_map.mp (listing.ordered.imp fun precedes =>
      le_of_lt precedes.1)
  unfold sortedFiles
  rw [entries]
  exact sorted.insertionSort_eq

theorem short_ofListing {files : List (StatePath × Bytes)}
    (listing : IsListing (files.map Prod.fst)) :
    ∀ path ∈ (ofListing files listing).tree.paths, HasShortName path := by
  intro path member
  have listed := (map_sortedFiles_perm _).mem_iff.mpr member
  rw [sortedFiles_ofListing listing] at listed
  exact listing.short path listed

end PluginPackage

/-! ## What a digest identifies -/

theorem hashedBytes_eq_ok_iff {root : PluginPackage} {bytes : Bytes} :
    hashedBytes root = .ok bytes ↔
      (∀ path ∈ root.tree.paths, HasShortName path) ∧
        bytes = Framing.join fileHeader root.sortedFiles := by
  unfold hashedBytes
  rw [updatePackage_eq_ok_iff, List.nil_append]
  have names : (∀ file ∈ root.sortedFiles, HasShortName file.1) ↔
      ∀ path ∈ root.tree.paths, HasShortName path := by
    constructor
    · intro short path member
      obtain ⟨file, found, rfl⟩ := List.mem_map.mp
        (root.map_sortedFiles_perm.mem_iff.mpr member)
      exact short file found
    · intro short file member
      exact short file.1
        (root.map_sortedFiles_perm.mem_iff.mp (List.mem_map_of_mem member))
  rw [names]

theorem packageDigest_eq_ok_iff {root : PluginPackage} {digest : String} :
    packageDigest root = .ok digest ↔
      (∀ path ∈ root.tree.paths, HasShortName path) ∧
        sha256 (Framing.join fileHeader root.sortedFiles) = digest := by
  unfold packageDigest
  rw [Program.except_bind_eq_ok_iff]
  constructor
  · rintro ⟨bytes, hashed, ⟨⟩⟩
    obtain ⟨short, rfl⟩ := hashedBytes_eq_ok_iff.mp hashed
    exact ⟨short, rfl⟩
  · rintro ⟨short, rfl⟩
    exact ⟨_, hashedBytes_eq_ok_iff.mpr ⟨short, rfl⟩, rfl⟩

/-- A content holds the name of a later file, with its length before it. -/
def HoldsLaterFile (path : StatePath) (data : Bytes) : Prop :=
  ∃ before next after, IsPackagePath next ∧ HasShortName next ∧
    CanPrecede path next ∧ data = before ++ (fileHeader next ++ after)

theorem embeds_iff {path : StatePath} {data : Bytes}
    (valid : IsPackagePath path) (short : HasShortName path) :
    Framing.Embeds fileHeader IsListing (path, data) ↔
      HoldsLaterFile path data := by
  constructor
  · rintro ⟨before, next, after, listing, content⟩
    have member : next ∈ [path, next] := by
      simp
    exact ⟨before, next, after, listing.valid next member,
      listing.short next member, List.pairwise_pair.mp listing.ordered, content⟩
  · rintro ⟨before, next, after, nextValid, nextShort, precedes, content⟩
    refine ⟨before, next, after, ⟨?_, ?_, ?_⟩, content⟩
    · rintro _ (_ | ⟨_, _ | ⟨_, ⟨⟩⟩⟩)
      · exact valid
      · exact nextValid
    · rintro _ (_ | ⟨_, _ | ⟨_, ⟨⟩⟩⟩)
      · exact short
      · exact nextShort
    · exact List.pairwise_pair.mpr precedes

/-- A package that has a digest is identified exactly when its listing can be
read back. -/
theorem isIdentified_iff_determined {root : PluginPackage}
    (short : ∀ path ∈ root.tree.paths, HasShortName path) :
    IsIdentified root ↔
      ∀ others, IsListing (others.map Prod.fst) →
        Framing.join fileHeader others =
          Framing.join fileHeader root.sortedFiles →
        others = root.sortedFiles := by
  constructor
  · intro identified others listing same
    have sorted := PluginPackage.sortedFiles_ofListing listing
    have otherShort := PluginPackage.short_ofListing listing
    rw [← sorted, ← PluginPackage.sameFiles_iff]
    refine identified _ _ ?_ (packageDigest_eq_ok_iff.mpr ⟨short, rfl⟩)
      (packageDigest_eq_ok_iff.mpr ⟨otherShort, by rw [sorted, same]⟩)
    intro bytes otherBytes hashed otherHashed _
    rw [(hashedBytes_eq_ok_iff.mp hashed).2,
      (hashedBytes_eq_ok_iff.mp otherHashed).2, sorted, same]
  · intro determined other digest collisionFree digested otherDigested
    obtain ⟨otherShort, otherHash⟩ := packageDigest_eq_ok_iff.mp otherDigested
    obtain ⟨-, hash⟩ := packageDigest_eq_ok_iff.mp digested
    have same := collisionFree (hashedBytes_eq_ok_iff.mpr ⟨short, rfl⟩)
      (hashedBytes_eq_ok_iff.mpr ⟨otherShort, rfl⟩) (hash.trans otherHash.symm)
    exact PluginPackage.sameFiles_iff.mpr (determined _
      (PluginPackage.isListing_sortedFiles otherShort) same.symm)

/-- Unless SHA-256 collides, exactly the packages without a digest, the empty
package and the packages of one file that holds no name of a later file are
identified by their digests. -/
theorem isIdentified_iff (root : PluginPackage) :
    IsIdentified root ↔
      (∃ path ∈ root.tree.paths, ¬ HasShortName path) ∨
      root.sortedFiles = [] ∨
      ∃ path data, root.sortedFiles = [(path, data)] ∧
        ¬ HoldsLaterFile path data := by
  by_cases short : ∀ path ∈ root.tree.paths, HasShortName path
  · have listing := PluginPackage.isListing_sortedFiles short
    rw [isIdentified_iff_determined short, Framing.determined_iff
      selfDelimiting_fileHeader IsListing.sublist listing]
    have noneLong : ¬ ∃ path ∈ root.tree.paths, ¬ HasShortName path := by
      rintro ⟨path, member, long⟩
      exact long (short path member)
    rw [or_iff_right noneLong]
    refine or_congr_right ?_
    have single : ∀ path data, root.sortedFiles = [(path, data)] →
        (Framing.Embeds fileHeader IsListing (path, data) ↔
          HoldsLaterFile path data) := by
      intro path data only
      rw [only] at listing
      exact embeds_iff (listing.valid path List.mem_cons_self)
        (listing.short path List.mem_cons_self)
    constructor
    · rintro ⟨⟨path, data⟩, only, plain⟩
      exact ⟨path, data, only, fun holds => plain ((single _ _ only).mpr holds)⟩
    · rintro ⟨path, data, only, plain⟩
      exact ⟨(path, data), only, fun holds => plain ((single _ _ only).mp holds)⟩
  · have long : ∃ path ∈ root.tree.paths, ¬ HasShortName path := by
      simpa using short
    refine iff_of_true ?_ (.inl long)
    intro other digest _ digested
    exact absurd (packageDigest_eq_ok_iff.mp digested).1 short

/-! ## A file inside another -/

/-- A descriptor and an entrypoint. -/
def splitFiles : List (StatePath × Bytes) :=
  [(["plugin.json"], utf8 "\x7b\x7d".toList),
    (["plugin.py"], utf8 "run()".toList)]

/-- The descriptor goes on with what is hashed of the entrypoint. -/
def mergedFiles : List (StatePath × Bytes) :=
  [(["plugin.json"], utf8 "\x7b\x7d".toList ++
    (fileHeader ["plugin.py"] ++ utf8 "run()".toList))]

theorem isListing_splitFiles : IsListing (splitFiles.map Prod.fst) where
  valid := by
    rintro _ (_ | ⟨_, _ | ⟨_, ⟨⟩⟩⟩) <;> exact ⟨by decide, by decide⟩
  short := by
    rintro _ (_ | ⟨_, _ | ⟨_, ⟨⟩⟩⟩) <;> unfold HasShortName <;> decide
  ordered := by
    refine List.pairwise_pair.mpr ⟨?_, by decide⟩
    exact .rel (by decide)

def splitPackage : PluginPackage :=
  .ofListing splitFiles isListing_splitFiles

theorem isListing_mergedFiles : IsListing (mergedFiles.map Prod.fst) :=
  isListing_splitFiles.sublist (List.singleton_sublist.mpr List.mem_cons_self)

def mergedPackage : PluginPackage :=
  .ofListing mergedFiles isListing_mergedFiles

theorem hashedBytes_ofListing {files : List (StatePath × Bytes)}
    (listing : IsListing (files.map Prod.fst)) :
    hashedBytes (.ofListing files listing) =
      .ok (Framing.join fileHeader files) :=
  hashedBytes_eq_ok_iff.mpr ⟨PluginPackage.short_ofListing listing, by
    rw [PluginPackage.sortedFiles_ofListing]⟩

/-- The two packages are hashed alike. -/
theorem hashedBytes_splitPackage :
    hashedBytes splitPackage = hashedBytes mergedPackage := by
  have merged : Framing.join fileHeader mergedFiles =
      Framing.join fileHeader splitFiles :=
    Framing.join_merge ["plugin.json"] ["plugin.py"] _ _ []
  rw [splitPackage, mergedPackage, hashedBytes_ofListing,
    hashedBytes_ofListing, merged]

theorem splitPackage_not_isIdentified :
    CollisionFreePackages splitPackage mergedPackage ∧
      (∃ digest, packageDigest splitPackage = .ok digest ∧
        packageDigest mergedPackage = .ok digest) ∧
      ¬ SameFiles splitPackage mergedPackage ∧ ¬ IsIdentified splitPackage := by
  have collisionFree : CollisionFreePackages splitPackage mergedPackage := by
    intro bytes otherBytes hashed otherHashed _
    rw [hashedBytes_splitPackage, otherHashed] at hashed
    exact (Except.ok.inj hashed).symm
  have digested : packageDigest splitPackage =
      .ok (sha256 (Framing.join fileHeader splitFiles)) := by
    unfold packageDigest
    rw [splitPackage, hashedBytes_ofListing]
    rfl
  have otherDigested : packageDigest mergedPackage =
      packageDigest splitPackage := by
    unfold packageDigest
    rw [hashedBytes_splitPackage]
  have different : ¬ SameFiles splitPackage mergedPackage := by
    intro same
    have lists := PluginPackage.sameFiles_iff.mp same
    rw [splitPackage, mergedPackage, PluginPackage.sortedFiles_ofListing,
      PluginPackage.sortedFiles_ofListing] at lists
    have lengths := congrArg List.length lists
    exact absurd lengths (by decide)
  refine ⟨collisionFree, ⟨_, digested, otherDigested.trans digested⟩, different,
    ?_⟩
  intro identified
  exact different (identified _ _ collisionFree digested
    (otherDigested.trans digested))

end Urp
