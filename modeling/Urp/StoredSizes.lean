import Urp.ExactRoundTrip

/-!
# Sizes of stored chunks

A row's stored size is the length of its file and at most the length of its
chunk, and it is known before the put: it is that of the row under the put's
key, or that of the chunk's encoding.
-/

namespace Urp

open Python Program

/-- The row's file is there with the row's stored size, which is not more than
the bytes that it stands for. -/
def StoredChunk.Occupies (host : Host) (state : ChunkFiles)
    (row : StoredChunk) (data : Bytes) : Prop :=
  row.storedSize ≤ data.length ∧
    ∃ path raw, resolveUnder host.chunkRoot row.ref = .ok path ∧
      state.files.lookup path = some raw ∧ raw.length = row.storedSize

/-- The stored size that the put's row will name. -/
def Put.sizeIn (host : Host) (state : ChunkFiles) (put : Put) : Nat :=
  match state.index.lookup put.key with
  | some row => row.storedSize
  | none => (LocalChunkStore.encode host put.data put.compress).1.length

/-- The chunks are sound, and every row has the size of its file. -/
structure ChunkFiles.Measured (host : Host) (puts : List Put)
    (state : ChunkFiles) : Prop where
  sound : state.Sound host puts
  rows : ∀ key row, state.index.lookup key = some row →
    ∃ put ∈ puts, key = put.key ∧ row.ref = put.ref ∧
      row.Occupies host state put.data

theorem length_encode_le (host : Host) (data : Bytes) (compress : Bool) :
    (LocalChunkStore.encode host data compress).1.length ≤ data.length := by
  unfold LocalChunkStore.encode
  simp only
  split
  · rename_i useful
    exact Nat.le_of_lt useful.2
  · exact Nat.le_refl _

section Rows

variable {host : Host} {puts : List Put} {put : Put}
variable {state later : ChunkFiles} {row : StoredChunk} {data : Bytes}

theorem StoredChunk.Occupies.kept (occupies : row.Occupies host state data)
    (kept : state.FilesKept later) : row.Occupies host later data := by
  obtain ⟨size, path, raw, resolved, found, length⟩ := occupies
  exact ⟨size, path, raw, resolved, kept path raw found, length⟩

theorem occupies_newRow (host : Host) (state : ChunkFiles) (put : Put) :
    (put.newRow host).Occupies host (state.store host put) put.data := by
  refine ⟨length_encode_le host put.data put.compress, put.path, _,
    put.resolveUnder_ref host, Dict.lookup_insert_self _ _ _, rfl⟩

theorem ChunkFiles.measured_empty : ChunkFiles.Measured host puts {} := by
  refine ⟨ChunkFiles.sound_empty, ?_⟩
  intro key row found
  simp at found

theorem ChunkFiles.Measured.store (codecs : host.CodecsRoundTrip)
    (measured : state.Measured host puts) (member : put ∈ puts)
    (absent : state.files.lookup put.path = none) :
    (state.store host put).Measured host puts := by
  refine ⟨measured.sound.store codecs member absent, ?_⟩
  intro key row found
  simp only [ChunkFiles.store, Dict.lookup_insert] at found
  split at found
  · rename_i same
    cases found
    exact ⟨put, member, same.symm, rfl, occupies_newRow host state put⟩
  · obtain ⟨other, otherMember, same, ref, occupies⟩ := measured.rows _ _ found
    exact ⟨other, otherMember, same, ref,
      occupies.kept (ChunkFiles.filesKept_store host absent)⟩

/-- A put that finds no file finds no row. -/
theorem ChunkFiles.Measured.missing (collisionFree : CollisionFree puts)
    (measured : state.Measured host puts) (member : put ∈ puts)
    (absent : state.files.lookup put.path = none) :
    state.index.lookup put.key = none := by
  cases found : state.index.lookup put.key with
  | none => rfl
  | some row =>
      obtain ⟨other, otherMember, key, ref, -, path, raw, resolved, file, -⟩ :=
        measured.rows _ _ found
      have same := (collisionFree.of_key member otherMember key).1
      rw [ref, ← same, put.resolveUnder_ref host] at resolved
      cases resolved
      rw [absent] at file
      cases file

/-- A new chunk has the size it was expected to have, and so does every other
put that is compressed as it is. -/
theorem Put.sizeIn_store {other : Put} (collisionFree : CollisionFree puts)
    (member : put ∈ puts) (otherMember : other ∈ puts)
    (compress : put.compress = other.compress)
    (missing : state.index.lookup put.key = none) :
    other.sizeIn host (state.store host put) = other.sizeIn host state := by
  unfold sizeIn ChunkFiles.store
  by_cases same : put.key = other.key
  · rw [← same, missing]
    simp only [Dict.lookup_insert_self, newRow, compress,
      (collisionFree.of_key member otherMember same).2.2]
  · simp only [Dict.lookup_insert_ne _ _ same]

/-- A put returns a row of the expected size, which has its file. -/
theorem ChunkFiles.Measured.ensures_put (codecs : host.CodecsRoundTrip)
    (collisionFree : CollisionFree puts) (measured : state.Measured host puts)
    (member : put ∈ puts) :
    Ensures (put.run host) state
      (fun row later => later.Measured host puts ∧ state.FilesKept later ∧
        row.Occupies host later put.data ∧
        row.storedSize = put.sizeIn host state ∧
        ∀ other ∈ puts, put.compress = other.compress →
          other.sizeIn host later = other.sizeIn host state)
      (fun _ _ => False) := by
  apply ((Urp.ensures_put host state put).and
    (measured.sound.ensures_put codecs collisionFree member)).mono
  · rintro row later ⟨⟨existing, data, found, rfl, rfl, -⟩ | ⟨missed, rfl, rfl⟩,
      -, kept, -⟩
    · obtain ⟨earlier, earlierMember, key, -, occupies⟩ :=
        measured.rows _ _ found
      refine ⟨measured, kept, ?_, ?_, fun _ _ _ => rfl⟩
      · rw [(collisionFree.of_key member earlierMember key).2.2]
        exact occupies
      · unfold Put.sizeIn
        rw [found]
        rfl
    · have absent := measured.sound.absent collisionFree member missed
      have missing := measured.missing collisionFree member absent
      refine ⟨measured.store codecs member absent, kept,
        occupies_newRow host state put, ?_, fun other otherMember compress =>
          Put.sizeIn_store collisionFree member otherMember compress missing⟩
      unfold Put.sizeIn
      rw [missing]
      rfl
  · exact fun _ _ both => both.2

/-- So does a sequence of puts that are all compressed or none. -/
theorem ChunkFiles.Measured.ensures_puts (codecs : host.CodecsRoundTrip)
    (collisionFree : CollisionFree puts) (measured : state.Measured host puts)
    {compress : Bool} {items : List Put} (subset : ∀ put ∈ items, put ∈ puts)
    (alike : ∀ put ∈ items, put.compress = compress) :
    Ensures (forEach items (Put.run host)) state
      (fun rows later => later.Measured host puts ∧ state.FilesKept later ∧
        List.Forall₂ (fun put row => row.Occupies host later put.data ∧
          row.storedSize = put.sizeIn host state) items rows)
      (fun _ _ => False) := by
  induction items generalizing state with
  | nil => exact ⟨measured, .refl _, .nil⟩
  | cons put rest ih =>
      have here : put ∈ puts := subset put List.mem_cons_self
      have there : ∀ other ∈ rest, other ∈ puts := fun other member =>
        subset other (List.mem_cons_of_mem _ member)
      have same : ∀ other ∈ rest, other.compress = compress :=
        fun other member => alike other (List.mem_cons_of_mem _ member)
      rw [forEach, ensures_bind]
      apply (measured.ensures_put codecs collisionFree here).mono
      · rintro row middle ⟨kept, head, occupies, size, others⟩
        rw [ensures_bind]
        apply (ih kept there same).mono
        · rintro rows later ⟨keptLater, tail, each⟩
          refine ⟨keptLater, head.trans tail, .cons ⟨occupies.kept tail, size⟩ ?_⟩
          rw [List.forall₂_iff_zip] at each ⊢
          refine ⟨each.1, fun {other found} member => ?_⟩
          obtain ⟨held, expected⟩ := each.2 member
          have inRest := (List.of_mem_zip member).1
          refine ⟨held, expected.trans (others other (there other inRest) ?_)⟩
          rw [alike put List.mem_cons_self, same other inRest]
        · exact fun _ _ impossible => impossible
      · exact fun _ _ impossible => impossible.elim

end Rows

end Urp
