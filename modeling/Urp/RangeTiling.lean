import Urp.RangeReads
import Urp.Library.Tiling

/-!
# Segment tables that nobody checked

What a range read returns when the segments of its manifest lie anywhere.  The
reader compares the length of its result with the length of the range, so that
a gap is found only where no overlap makes up for it.
-/

namespace Urp

open Python Program Slices Tiling

section Reader

variable (host : Host) (chunks : ChunkFiles)

/-- The segment has bytes between the two offsets, as the reader asks. -/
def Segment.Meets (start stop : Int) (segment : Segment) : Prop :=
  ¬ (segment.logicalEnd ≤ start ∨ segment.logicalStart ≥ stop)

/-- The segment restores to bytes of its own length. -/
def Segment.Reads (segment : Segment) (data : Bytes) : Prop :=
  LocalChunkStore.readStored host segment.stored segment.sha256 chunks =
      (.ok data, chunks) ∧
    (data.length : Int) = segment.logicalEnd - segment.logicalStart

/-- The bytes of a segment between the two offsets. -/
def Segment.trim (start stop : Int) (segment : Segment) (data : Bytes) :
    Bytes :=
  sliceBytes data (max start segment.logicalStart - segment.logicalStart)
    (min stop segment.logicalEnd - segment.logicalStart)

/-- What the reader takes from a segment. -/
def Segment.Part (start stop : Int) (segment : Segment) (part : Bytes) :
    Prop :=
  ¬ segment.Meets start stop ∧ part = [] ∨
    segment.Meets start stop ∧
      ∃ data, segment.Reads host chunks data ∧ part = segment.trim start stop data

/-- The segments that cover an offset. -/
def Segment.coveringAt (segments : List Segment) (offset : Int) :
    List Segment :=
  covering Segment.logicalStart Segment.logicalEnd segments offset

/-- How many bytes of a segment lie between the two offsets. -/
def Segment.widthIn (start stop : Int) (segment : Segment) : Nat :=
  width Segment.logicalStart Segment.logicalEnd start stop segment

variable {host chunks}

theorem readRangePart_eq_ok_iff {start stop : Int} (segment : Segment)
    (part : Bytes) (later : ChunkFiles) :
    readRangePart host start stop segment chunks = (.ok part, later) ↔
      later = chunks ∧ segment.Part host chunks start stop part := by
  unfold readRangePart Segment.Part
  by_cases outside : segment.logicalEnd ≤ start ∨ segment.logicalStart ≥ stop
  · have misses : ¬ segment.Meets start stop := fun meets => meets outside
    rw [if_pos outside]
    constructor
    · intro run
      cases run
      exact ⟨rfl, .inl ⟨misses, rfl⟩⟩
    · rintro ⟨rfl, ⟨-, rfl⟩ | ⟨meets, -⟩⟩
      · rfl
      · exact (misses meets).elim
  · have meets : segment.Meets start stop := outside
    rw [if_neg outside, bind_eq_ok_iff]
    constructor
    · rintro ⟨data, between, read, run⟩
      have same : between = chunks :=
        (frames_readStored host segment.stored
          segment.sha256).of_run read
      subst same
      split at run
      · cases run
      · rename_i whole
        cases run
        exact ⟨rfl, .inr ⟨meets, data, ⟨read, not_not.mp whole⟩, rfl⟩⟩
    · rintro ⟨rfl, ⟨misses, -⟩ | ⟨-, data, ⟨read, whole⟩, rfl⟩⟩
      · exact (misses meets).elim
      · refine ⟨data, later, read, ?_⟩
        rw [if_neg (not_not.mpr whole)]
        rfl

/-- A part is as long as the segment is inside the range. -/
theorem Segment.Part.length {start stop : Int} {segment : Segment}
    {part : Bytes} (taken : segment.Part host chunks start stop part) :
    part.length = segment.widthIn start stop := by
  rcases taken with ⟨misses, rfl⟩ | ⟨meets, data, ⟨-, whole⟩, rfl⟩
  · have outside := not_not.mp misses
    rw [List.length_nil, Segment.widthIn, width]
    omega
  · unfold Segment.Meets at meets
    rw [Segment.trim, sliceBytes, length_slice, Segment.widthIn, width]
    omega

/-- A byte of a part is the byte of the segment at the same offset. -/
theorem Segment.Part.getElem? {start stop offset : Int} {segment : Segment}
    {part : Bytes} (taken : segment.Part host chunks start stop part)
    (lower : start ≤ offset) (upper : offset < stop)
    (covers : Covers Segment.logicalStart Segment.logicalEnd segment offset) :
    ∃ data, segment.Reads host chunks data ∧
      part[(offset - max start segment.logicalStart).toNat]? =
        data[(offset - segment.logicalStart).toNat]? := by
  obtain ⟨begun, unfinished⟩ := covers
  rcases taken with ⟨misses, -⟩ | ⟨-, data, reads, rfl⟩
  · unfold Segment.Meets at misses
    omega
  · refine ⟨data, reads, ?_⟩
    rw [Segment.trim, sliceBytes, slice, List.getElem?_drop,
      List.getElem?_take_of_lt]
    · congr 1
      omega
    · omega

end Reader

/-! ## Tiled ranges -/

section Ranges

variable (host : Host) (session : Session) (world : World)

/-- The end of the range inside the object. -/
def Manifest.effectiveEnd (manifest : Manifest) (stop : Int) : Int :=
  min stop manifest.physical.logicalSize

/-- The store gives the caller this manifest. -/
def Admits (manifestId : String) (manifest : Manifest) : Prop :=
  validateIdentifier manifestId "manifest id" "mf_" = .ok manifestId ∧
    world.manifests.lookup manifestId = some manifest ∧
    requireTenant session manifest.tenant = .ok ()

/-- Each offset of the range lies in one segment, and the byte returned for it
is that segment's byte. -/
def Manifest.Tiles (manifest : Manifest) (start stop : Int) (result : Bytes) :
    Prop :=
  (result.length : Int) = max 0 (manifest.effectiveEnd stop - start) ∧
    ∀ offset, start ≤ offset → offset < manifest.effectiveEnd stop →
      ∃ segment data,
        Segment.coveringAt manifest.physical.segments offset = [segment] ∧
          segment.Reads host world.chunks data ∧
          result[(offset - start).toNat]? =
            data[(offset - segment.logicalStart).toNat]?

/-- Whatever the read returns comes from segments that tile the range. -/
def ReadsTiled (manifestId : String) (start stop : Int) : Prop :=
  ∀ result later,
    rehydrateManifestRange host session manifestId start stop world =
        (.ok result, later) →
      ∃ manifest, Admits session world manifestId manifest ∧
        manifest.Tiles host world start stop result

/-- The condition on a manifest: no offset of the range lies in two segments,
or the reader notices something else. -/
def Manifest.Guarded (manifest : Manifest) (start stop : Int) : Prop :=
  (∀ offset, start ≤ offset → offset < manifest.effectiveEnd stop →
      (Segment.coveringAt manifest.physical.segments offset).length ≤ 1) ∨
    (∃ segment ∈ manifest.physical.segments,
      segment.Meets start (manifest.effectiveEnd stop) ∧
        ∀ data, ¬ segment.Reads host world.chunks data) ∨
    (manifest.physical.segments.map
      (Segment.widthIn start (manifest.effectiveEnd stop))).sum ≠
        (manifest.effectiveEnd stop - start).toNat

variable {host session world}

theorem get_eq_ok_iff {manifestId : String} {manifest : Manifest}
    {later : World} :
    focus World.manifestsLens (FileManifestStore.get session manifestId) world =
        (.ok manifest, later) ↔
      later = world ∧ Admits session world manifestId manifest := by
  constructor
  · intro run
    have returned : Ensures
        (focus World.manifestsLens (FileManifestStore.get session manifestId))
        world (fun manifest later =>
          later = world ∧ Admits session world manifestId manifest)
        (fun _ _ => True) := by
      unfold FileManifestStore.get
      rw [ensures_focus, ensures_bind, ensures_lift]
      refine ⟨fun text named => ?_, fun _ _ => trivial⟩
      obtain ⟨rfl, -⟩ := validateIdentifier_eq_ok named
      rw [ensures_bind, Program.ensures_get]
      cases found : world.manifests.lookup text with
      | none =>
          simp only [World.manifestsLens, found]
          trivial
      | some stored =>
          simp only [World.manifestsLens, found]
          rw [ensures_bind, ensures_lift]
          exact ⟨fun _ admitted => ⟨rfl, named, found, admitted⟩,
            fun _ _ => trivial⟩
    exact returned.of_ok run
  · rintro ⟨rfl, accepted, found, admitted⟩
    exact get_of_found accepted found admitted

/-- When the reader returns bytes of a range that is not empty. -/
theorem rehydrateManifestRange_eq_ok_iff {manifestId : String}
    {start stop : Int} (nonneg : 0 ≤ start) (order : start < stop)
    {result : Bytes} {later : World} :
    rehydrateManifestRange host session manifestId start stop world =
        (.ok result, later) ↔
      later = world ∧ ∃ manifest, Admits session world manifestId manifest ∧
        (manifest.effectiveEnd stop ≤ start ∧ result = [] ∨
          start < manifest.effectiveEnd stop ∧ ∃ parts,
            List.Forall₂
              (Segment.Part host world.chunks start (manifest.effectiveEnd stop))
              (segmentsInOrder manifest.physical.segments) parts ∧
            result = parts.flatten ∧
            (result.length : Int) = manifest.effectiveEnd stop - start) := by
  have valid : ¬ (start < 0 ∨ stop < start) := by omega
  have partsRun : ∀ (manifest : Manifest) (parts : List Bytes) (later : World),
      focus World.chunksLens
          (forEach (segmentsInOrder manifest.physical.segments)
            (readRangePart host start (manifest.effectiveEnd stop))) world =
          (.ok parts, later) ↔
        later = world ∧ List.Forall₂
          (Segment.Part host world.chunks start (manifest.effectiveEnd stop))
          (segmentsInOrder manifest.physical.segments) parts := by
    intro manifest parts later
    rw [focus_eq_ok_iff]
    constructor
    · rintro ⟨chunks, run, rfl⟩
      obtain ⟨rfl, taken⟩ :=
        (forEach_eq_ok_iff fun segment part later =>
          readRangePart_eq_ok_iff segment part later).mp run
      exact ⟨rfl, taken⟩
    · rintro ⟨rfl, taken⟩
      exact ⟨_, (forEach_eq_ok_iff fun segment part later =>
        readRangePart_eq_ok_iff segment part later).mpr ⟨rfl, taken⟩, rfl⟩
  unfold rehydrateManifestRange
  rw [if_neg valid, bind_eq_ok_iff]
  constructor
  · rintro ⟨manifest, between, found, run⟩
    obtain ⟨rfl, admits⟩ := get_eq_ok_iff.mp found
    change (if start ≥ manifest.effectiveEnd stop then
      (_ : Program World PyException Bytes) else _) between = _ at run
    by_cases empty : start ≥ manifest.effectiveEnd stop
    · rw [if_pos empty] at run
      cases run
      exact ⟨rfl, manifest, admits, .inl ⟨empty, rfl⟩⟩
    · rw [if_neg empty] at run
      obtain ⟨parts, last, read, ended⟩ := bind_eq_ok_iff.mp run
      obtain ⟨rfl, taken⟩ := (partsRun manifest parts last).mp
        (rethrow_eq_ok_iff.mp read)
      split at ended
      · cases ended
      · rename_i whole
        cases ended
        exact ⟨rfl, manifest, admits, .inr ⟨not_le.mp empty, parts, taken, rfl,
          not_not.mp whole⟩⟩
  · rintro ⟨rfl, manifest, admits, shape⟩
    refine ⟨manifest, later, get_eq_ok_iff.mpr ⟨rfl, admits⟩, ?_⟩
    change (if start ≥ manifest.effectiveEnd stop then
      (_ : Program World PyException Bytes) else _) later = _
    rcases shape with ⟨empty, rfl⟩ | ⟨inside, parts, taken, rfl, length⟩
    · rw [if_pos empty]
      rfl
    · rw [if_neg (not_le.mpr inside)]
      refine bind_eq_ok_iff.mpr ⟨parts, later, rethrow_eq_ok_iff.mpr
        ((partsRun manifest parts later).mpr ⟨rfl, taken⟩), ?_⟩
      change (if (parts.flatten.length : Int) ≠
        manifest.effectiveEnd stop - start then
          (_ : Program World PyException Bytes) else _) later = _
      rw [if_neg (not_not.mpr length)]
      rfl

/-- Parts that are read fill the range exactly when their segments' widths
do. -/
theorem length_flatten_of_parts {start stop : Int} {segments : List Segment}
    {parts : List Bytes}
    (taken : List.Forall₂ (Segment.Part host world.chunks start stop) segments
      parts) :
    parts.flatten.length = (segments.map (Segment.widthIn start stop)).sum := by
  induction taken with
  | nil => rfl
  | cons first _ ih =>
      rw [List.flatten_cons, List.length_append, ih, first.length,
        List.map_cons, List.sum_cons]

/-- The parts of segments that cover no offset twice make up a tiled range. -/
theorem tiles_of_parts {manifest : Manifest} {start stop : Int}
    {parts : List Bytes}
    (single : ∀ offset, start ≤ offset →
      offset < manifest.effectiveEnd stop →
        (Segment.coveringAt manifest.physical.segments offset).length ≤ 1)
    (taken : List.Forall₂
      (Segment.Part host world.chunks start (manifest.effectiveEnd stop))
      (segmentsInOrder manifest.physical.segments) parts)
    (length : (parts.flatten.length : Int) =
      manifest.effectiveEnd stop - start) :
    manifest.Tiles host world start stop parts.flatten := by
  let stop' := manifest.effectiveEnd stop
  let segments := segmentsInOrder manifest.physical.segments
  have permuted : segments.Perm manifest.physical.segments :=
    List.perm_insertionSort _ _
  have ordered : segments.Pairwise
      fun p q => p.logicalStart ≤ q.logicalStart := by
    have total : Std.Total fun p q : Segment =>
      p.logicalStart ≤ q.logicalStart := ⟨fun p q => le_total _ _⟩
    have trans : IsTrans Segment fun p q =>
      p.logicalStart ≤ q.logicalStart := ⟨fun p q r => le_trans⟩
    exact List.pairwise_insertionSort _ _
  have covered : ∀ offset, (Segment.coveringAt segments offset).Perm
      (Segment.coveringAt manifest.physical.segments offset) :=
    fun offset => permuted.filter _
  have filled : (segments.map (Segment.widthIn start stop')).sum =
      (stop' - start).toNat := by
    rw [← length_flatten_of_parts taken]
    omega
  have once := covered_once filled fun offset lower upper => by
    exact (covered offset).length_eq.trans_le (single offset lower upper)
  refine ⟨by omega, fun offset lower upper => ?_⟩
  obtain ⟨pair, member, covers, same⟩ := getElem?_flatten
    (taken.imp fun segment part part' => part'.length) ordered le_rfl
    (fun point above below _ => absurd below (not_lt.mpr above)) once lower
    upper
  obtain ⟨segment, held⟩ : ∃ segment,
      Segment.coveringAt manifest.physical.segments offset = [segment] := by
    rw [← List.length_eq_one_iff, ← (covered offset).length_eq]
    exact once offset lower upper
  have here : pair.1 = segment := by
    have inside : pair.1 ∈ Segment.coveringAt manifest.physical.segments
        offset := by
      apply List.mem_filter.mpr
      exact ⟨permuted.mem_iff.mp (List.of_mem_zip member).1,
        decide_eq_true covers⟩
    rw [held] at inside
    exact List.mem_singleton.mp inside
  obtain ⟨data, reads, byte⟩ :=
    ((List.forall₂_iff_zip.mp taken).2 member).getElem? lower upper covers
  exact ⟨segment, data, held, here ▸ reads, here ▸ same.trans byte⟩

/-- A reader that gets through has read every segment that it meets. -/
theorem exists_reads_of_parts {start stop : Int} {segments : List Segment}
    {parts : List Bytes}
    (taken : List.Forall₂ (Segment.Part host world.chunks start stop) segments
      parts) {segment : Segment} (member : segment ∈ segments)
    (meets : segment.Meets start stop) :
    ∃ data, segment.Reads host world.chunks data := by
  induction taken with
  | nil => cases member
  | cons first _ ih =>
      rcases List.mem_cons.mp member with rfl | later
      · rcases first with ⟨misses, -⟩ | ⟨-, data, reads, -⟩
        · exact (misses meets).elim
        · exact ⟨data, reads⟩
      · exact ih later

theorem exists_parts {start stop : Int} {segments : List Segment}
    (intact : ∀ segment ∈ segments, segment.Meets start stop →
      ∃ data, segment.Reads host world.chunks data) :
    ∃ parts, List.Forall₂ (Segment.Part host world.chunks start stop) segments
      parts := by
  induction segments with
  | nil => exact ⟨[], .nil⟩
  | cons segment rest ih =>
      obtain ⟨parts, taken⟩ := ih fun other member =>
        intact other (List.mem_cons_of_mem _ member)
      by_cases meets : segment.Meets start stop
      · obtain ⟨data, reads⟩ := intact segment List.mem_cons_self meets
        exact ⟨segment.trim start stop data :: parts,
          .cons (.inr ⟨meets, data, reads, rfl⟩) taken⟩
      · exact ⟨[] :: parts, .cons (.inl ⟨meets, rfl⟩) taken⟩

theorem sum_segmentsInOrder (segments : List Segment) (start stop : Int) :
    ((segmentsInOrder segments).map (Segment.widthIn start stop)).sum =
      (segments.map (Segment.widthIn start stop)).sum :=
  ((List.perm_insertionSort _ _).map _).sum_eq

theorem readsTiled_iff (manifestId : String) {start stop : Int}
    (nonneg : 0 ≤ start) (order : start < stop) :
    ReadsTiled host session world manifestId start stop ↔
      ∀ manifest, Admits session world manifestId manifest →
        manifest.Guarded host world start stop := by
  constructor
  · intro tiled manifest admits
    by_contra unguarded
    unfold Manifest.Guarded at unguarded
    push Not at unguarded
    obtain ⟨⟨offset, lower, upper, doubled⟩, intact, filled⟩ := unguarded
    have inOrder : ∀ segment ∈ segmentsInOrder manifest.physical.segments,
        segment.Meets start (manifest.effectiveEnd stop) →
          ∃ data, segment.Reads host world.chunks data :=
      fun segment member =>
        intact segment ((List.perm_insertionSort _ _).mem_iff.mp member)
    obtain ⟨parts, taken⟩ := exists_parts inOrder
    have length : (parts.flatten.length : Int) =
        manifest.effectiveEnd stop - start := by
      rw [length_flatten_of_parts taken, sum_segmentsInOrder, filled]
      omega
    obtain ⟨other, ⟨-, found, -⟩, -, tiles⟩ := tiled parts.flatten world
      ((rehydrateManifestRange_eq_ok_iff nonneg order).mpr
        ⟨rfl, manifest, admits, .inr ⟨by omega, parts, taken, rfl, length⟩⟩)
    have same : other = manifest :=
      Option.some.inj (found.symm.trans admits.2.1)
    subst same
    obtain ⟨segment, data, held, -⟩ := tiles offset lower upper
    rw [held] at doubled
    exact absurd doubled (lt_irrefl 1)
  · intro guarded result later run
    obtain ⟨rfl, manifest, admits, shape⟩ :=
      (rehydrateManifestRange_eq_ok_iff nonneg order).mp run
    refine ⟨manifest, admits, ?_⟩
    rcases shape with ⟨empty, rfl⟩ | ⟨inside, parts, taken, rfl, length⟩
    · refine ⟨?_, fun offset lower upper => ?_⟩
      · rw [List.length_nil]
        omega
      · omega
    · apply tiles_of_parts _ taken length
      rcases guarded manifest admits with single | unread | unfilled
      · exact single
      · obtain ⟨segment, member, meets, unread⟩ := unread
        obtain ⟨data, reads⟩ := exists_reads_of_parts taken
          ((List.perm_insertionSort _ _).mem_iff.mpr member) meets
        exact (unread data reads).elim
      · rw [← sum_segmentsInOrder, ← length_flatten_of_parts taken] at unfilled
        omega

end Ranges

/-! ## A doubled segment -/

def twoBytes : Bytes := [104, 105]

/-- A chunk of two bytes at the beginning of the object. -/
def doubledSegment : Segment where
  stored :=
    { digest := "", tenant := "acme", nameSpace := "default", ref := "d/c"
      transformStack := [], codec := none, logicalSize := 2, storedSize := 2
      dedupeHit := false }
  logicalStart := 0
  logicalEnd := 2
  sha256 := Python.sha256 twoBytes

/-- A manifest of four bytes that lists the first two twice. -/
def doubledManifest : Manifest where
  workUnitId := "wu_1"
  tenant := "acme"
  kind := .byteObject
  contract := .exactBytes
  logicalRef := "a/b"
  state := .active
  nameSpace := "default"
  traceId := "tr_1"
  policy := { contract := .exactBytes, allowedActions := [], deniedActions := [] }
  classification := ∅
  physical := .exact none "" 4 2 [doubledSegment, doubledSegment]
  plan :=
    { workUnitId := "wu_1", contract := .exactBytes, actions := [], tenant := "acme"
      planId := "plan_1", traceId := "tr_1", mode := .enforce
      policyBundleId := "default", risk := .low, expected := ∅
      fallback := "" }
  verification :=
    { accepted := true, verifierId := "", reason := "", details := ∅ }
  telemetry := ∅
  manifestId := "mf_1"
  createdAt := ""

def doubledWorld : World :=
  { manifests := .ofList [("mf_1", doubledManifest)]
    chunks := { files := .ofList [(["d", "c"], twoBytes)], index := ∅ } }

theorem doubled_read :
    (rehydrateManifestRange Host.counting {} "mf_1" 0 4
      doubledWorld).1.toOption = some (twoBytes ++ twoBytes) := by
  decide +kernel

/-- The table does not tile the range that was read. -/
theorem doubled_not_tiled :
    ¬ ∀ (host : Host) (session : Session) (world : World) (manifestId : String)
      (start stop : Int), 0 ≤ start → start < stop →
        ReadsTiled host session world manifestId start stop := by
  intro tiled
  rcases run : rehydrateManifestRange Host.counting {} "mf_1" 0 4
    doubledWorld with ⟨error | result, later⟩
  · have returned := doubled_read
    rw [run] at returned
    cases returned
  · obtain ⟨manifest, ⟨-, found, -⟩, -, tiles⟩ := tiled Host.counting {}
      doubledWorld "mf_1" 0 4 (by decide) (by decide) result later run
    have same : manifest = doubledManifest := (Option.some.inj found).symm
    subst same
    obtain ⟨segment, data, held, -⟩ := tiles 0 le_rfl (by decide)
    have twice : (Segment.coveringAt doubledManifest.physical.segments
        0).length = 2 := by
      decide
    rw [held] at twice
    cases twice

/-- The first byte alone is not returned twice: the read is refused. -/
theorem readsTiled_iff_sample :
    ReadsTiled Host.counting {} doubledWorld "mf_1" 0 1 := by
  apply (readsTiled_iff "mf_1" (by decide) (by decide)).mpr
  rintro manifest ⟨-, found, -⟩
  have same : manifest = doubledManifest := (Option.some.inj found).symm
  subst same
  exact .inr (.inr (by decide))

end Urp
