import Urp.ChunkPuts

/-!
# What a run of puts keeps

The index only holds rows of the puts so far.  With codecs that round-trip,
every row decodes to the bytes of its put and every file has a row, so that no
put ever overwrites a file.
-/

namespace Urp

open Python LocalChunkStore

/-- SHA-256 has no collision among the texts and chunks that the puts hash,
nor has its prefix among their domain texts. -/
structure CollisionFree (puts : List Put) : Prop where
  chunk : ∀ put ∈ puts, ∀ other ∈ puts,
    put.chunk.sha256 = other.chunk.sha256 → put.data = other.data
  key : ∀ put ∈ puts, ∀ other ∈ puts,
    put.key = other.key → put.keyText = other.keyText
  domain : ∀ put ∈ puts, ∀ other ∈ puts,
    put.domain = other.domain → put.domainText = other.domainText

section CollisionFree

variable {puts : List Put} (collisionFree : CollisionFree puts)
variable {put other : Put} (member : put ∈ puts) (otherMember : other ∈ puts)

include collisionFree member otherMember

/-- Two puts with one key have one file, one domain text and the same
bytes. -/
theorem CollisionFree.of_key (same : put.key = other.key) :
    put.ref = other.ref ∧ put.domainText = other.domainText ∧
      put.data = other.data := by
  have texts := collisionFree.key put member other otherMember same
  obtain ⟨domains, digests⟩ := Put.keyText_inj texts
  exact ⟨(Put.path_of_keyText texts).2, domains,
    collisionFree.chunk put member other otherMember digests⟩

/-- Two puts with one file have one domain text, one key and the same
bytes. -/
theorem CollisionFree.of_path (same : put.path = other.path) :
    put.domainText = other.domainText ∧ put.key = other.key ∧
      put.data = other.data := by
  simp only [Put.path, List.cons.injEq, and_true] at same
  have domains := collisionFree.domain put member other otherMember same.1
  have keyTexts : put.keyText = other.keyText := by
    rw [Put.keyText_eq, Put.keyText_eq, domains, same.2]
  exact ⟨domains, Put.key_of_keyText keyTexts,
    collisionFree.chunk put member other otherMember same.2⟩

end CollisionFree

theorem CollisionFree.subset {puts others : List Put}
    (collisionFree : CollisionFree others)
    (subset : ∀ put ∈ puts, put ∈ others) : CollisionFree puts where
  chunk put member other otherMember :=
    collisionFree.chunk put (subset put member) other (subset other otherMember)
  key put member other otherMember :=
    collisionFree.key put (subset put member) other (subset other otherMember)
  domain put member other otherMember :=
    collisionFree.domain put (subset put member) other
      (subset other otherMember)

/-- Puts of one chunk under one key have no collision. -/
theorem collisionFree_of_alike {puts : List Put} {first : Put}
    (alike : ∀ put ∈ puts,
      put.keyText = first.keyText ∧ put.data = first.data) :
    CollisionFree puts := by
  constructor
  · intro put member other otherMember _
    rw [(alike put member).2, (alike other otherMember).2]
  · intro put member other otherMember _
    rw [(alike put member).1, (alike other otherMember).1]
  · intro put member other otherMember _
    have same := (alike put member).1.trans (alike other otherMember).1.symm
    exact (Put.keyText_inj same).1

/-! ## The index -/

/-- Every index entry was written by one of the puts. -/
def Indexed (puts : List Put) (state : ChunkFiles) : Prop :=
  ∀ key row, state.index.lookup key = some row →
    ∃ put ∈ puts, key = put.key ∧ row.ref = put.ref

/-- The files differ at paths of the puts only. -/
def ChunkFiles.ChangedAt (puts : List Put) (state later : ChunkFiles) : Prop :=
  ∀ path, later.files.lookup path ≠ state.files.lookup path →
    ∃ put ∈ puts, path = put.path

section Index

variable {host : Host} {puts : List Put} {put : Put} {state : ChunkFiles}

theorem Indexed.mono {more : List Put} (indexed : Indexed puts state)
    (subset : ∀ put ∈ puts, put ∈ more) : Indexed more state := by
  intro key row found
  obtain ⟨put, member, same⟩ := indexed key row found
  exact ⟨put, subset put member, same⟩

/-- The new row is one of the puts'. -/
theorem Indexed.store (indexed : Indexed puts state) (member : put ∈ puts) :
    Indexed puts (state.store host put) := by
  intro key row found
  simp only [ChunkFiles.store, Dict.lookup_insert] at found
  split at found
  · rename_i same
    cases found
    exact ⟨put, member, same.symm, rfl⟩
  · exact indexed key row found

theorem ChunkFiles.changedAt_store (state : ChunkFiles) (put : Put) :
    ChunkFiles.ChangedAt [put] state (state.store host put) := by
  intro path changed
  simp only [ChunkFiles.store, Dict.lookup_insert] at changed
  split at changed
  · rename_i same
    exact ⟨put, List.mem_singleton_self put, same.symm⟩
  · exact absurd rfl changed

theorem ChunkFiles.ChangedAt.refl (state : ChunkFiles) :
    ChunkFiles.ChangedAt puts state state :=
  fun _ changed => absurd rfl changed

theorem ChunkFiles.ChangedAt.trans {rest : List Put} {middle later : ChunkFiles}
    (head : ChunkFiles.ChangedAt [put] state middle)
    (tail : ChunkFiles.ChangedAt rest middle later) :
    ChunkFiles.ChangedAt (put :: rest) state later := by
  intro path changed
  by_cases same : later.files.lookup path = middle.files.lookup path
  · rw [same] at changed
    obtain ⟨found, member, at_path⟩ := head path changed
    rw [List.mem_singleton.mp member] at at_path
    exact ⟨put, List.mem_cons_self, at_path⟩
  · obtain ⟨found, member, at_path⟩ := tail path same
    exact ⟨found, List.mem_cons_of_mem _ member, at_path⟩

variable (host) in
/-- A put returns a row of its own file and changes no other. -/
theorem Indexed.ensures_put (collisionFree : CollisionFree puts)
    (indexed : Indexed puts state) (member : put ∈ puts) :
    Program.Ensures (put.run host) state
      (fun row later => Indexed puts later ∧ row.ref = put.ref ∧
        ChunkFiles.ChangedAt [put] state later)
      (fun _ later => later = state) := by
  apply (Urp.ensures_put host state put).mono
  · rintro row later (⟨existing, data, found, rfl, rfl, -⟩ | ⟨-, rfl, rfl⟩)
    · obtain ⟨earlier, earlierMember, key, ref⟩ := indexed _ _ found
      have same := collisionFree.of_key member earlierMember key
      exact ⟨indexed, ref.trans same.1.symm, .refl _⟩
    · exact ⟨indexed.store member, rfl, ChunkFiles.changedAt_store state put⟩
  · intro error later raised
    exact raised.1

variable (host) in
/-- The rows of a sequence of puts name their files. -/
theorem Indexed.ensures_puts (collisionFree : CollisionFree puts)
    (indexed : Indexed puts state) {items : List Put}
    (subset : ∀ put ∈ items, put ∈ puts) :
    Program.Ensures (Program.forEach items (Put.run host)) state
      (fun rows later => Indexed puts later ∧
        List.Forall₂ (fun put row => row.ref = put.ref) items rows ∧
        ChunkFiles.ChangedAt items state later)
      (fun _ later => Indexed puts later ∧
        ChunkFiles.ChangedAt items state later) := by
  induction items generalizing state with
  | nil => exact ⟨indexed, .nil, .refl _⟩
  | cons put rest ih =>
      rw [Program.forEach, Program.ensures_bind]
      apply (indexed.ensures_put host collisionFree
        (subset put List.mem_cons_self)).mono
      · rintro row middle ⟨kept, ref, head⟩
        rw [Program.ensures_bind]
        apply (ih kept fun other member =>
          subset other (List.mem_cons_of_mem _ member)).mono
        · rintro rows later ⟨keptLater, refs, tail⟩
          exact ⟨keptLater, .cons ref refs, head.trans tail⟩
        · rintro error later ⟨keptLater, tail⟩
          exact ⟨keptLater, head.trans tail⟩
      · rintro error later rfl
        exact ⟨indexed, .refl _⟩

end Index

/-! ## Files that decode -/

/-- Every row decodes to the bytes of its put, and every file has a row. -/
structure ChunkFiles.Sound (host : Host) (puts : List Put)
    (state : ChunkFiles) : Prop where
  rows : ∀ key row, state.index.lookup key = some row →
    ∃ put ∈ puts, key = put.key ∧ row.Decodes host state put.data
  files : ∀ path raw, state.files.lookup path = some raw →
    ∃ put ∈ puts, path = put.path ∧ state.index.lookup put.key ≠ none

theorem ChunkFiles.FilesKept.refl (state : ChunkFiles) :
    state.FilesKept state := fun _ _ found => found

theorem ChunkFiles.FilesKept.trans {state middle later : ChunkFiles}
    (head : state.FilesKept middle) (tail : middle.FilesKept later) :
    state.FilesKept later :=
  fun path raw found => tail path raw (head path raw found)

section Sound

variable {host : Host} {puts : List Put} {put : Put} {state : ChunkFiles}

theorem ChunkFiles.sound_empty : ChunkFiles.Sound host puts {} := by
  constructor
  · intro key row found
    simp at found
  · intro path raw found
    simp at found

/-- A file without a row does not exist. -/
theorem ChunkFiles.Sound.absent (collisionFree : CollisionFree puts)
    (sound : state.Sound host puts) (member : put ∈ puts)
    (missing : state.files.lookup put.path = none ∨
      state.index.lookup put.key = none) :
    state.files.lookup put.path = none := by
  rcases missing with file | entry
  · exact file
  · cases found : state.files.lookup put.path with
    | none => rfl
    | some raw =>
        obtain ⟨other, otherMember, path, indexed⟩ :=
          sound.files _ _ found
        have same := collisionFree.of_path member otherMember path
        rw [← same.2.1] at indexed
        exact absurd entry indexed

/-- Storing an absent chunk keeps every file. -/
theorem ChunkFiles.filesKept_store (host : Host)
    (absent : state.files.lookup put.path = none) :
    state.FilesKept (state.store host put) := by
  intro path raw found
  have different : put.path ≠ path := by
    rintro rfl
    rw [absent] at found
    cases found
  simp [ChunkFiles.store, Dict.lookup_insert, different, found]

theorem ChunkFiles.Sound.store (codecs : host.CodecsRoundTrip)
    (sound : state.Sound host puts) (member : put ∈ puts)
    (absent : state.files.lookup put.path = none) :
    (state.store host put).Sound host puts := by
  have kept := ChunkFiles.filesKept_store host absent
  constructor
  · intro key row found
    simp only [ChunkFiles.store, Dict.lookup_insert] at found
    split at found
    · rename_i same
      cases found
      exact ⟨put, member, same.symm, decodes_newRow codecs state put⟩
    · obtain ⟨other, otherMember, key, decodes⟩ := sound.rows _ _ found
      exact ⟨other, otherMember, key, decodes.kept kept⟩
  · intro path raw found
    simp only [ChunkFiles.store, Dict.lookup_insert] at found ⊢
    split at found
    · rename_i same
      refine ⟨put, member, same.symm, ?_⟩
      simp
    · obtain ⟨other, otherMember, path, indexed⟩ := sound.files _ _ found
      refine ⟨other, otherMember, path, ?_⟩
      split
      · simp
      · exact indexed

/-- A put returns a row that decodes to its bytes, and no file changes. -/
theorem ChunkFiles.Sound.ensures_put (codecs : host.CodecsRoundTrip)
    (collisionFree : CollisionFree puts) (sound : state.Sound host puts)
    (member : put ∈ puts) :
    Program.Ensures (put.run host) state
      (fun row later => later.Sound host puts ∧ state.FilesKept later ∧
        row.Decodes host later put.data)
      (fun _ _ => False) := by
  have decodes : ∀ existing, state.index.lookup put.key = some existing →
      (put.reused existing).Decodes host state put.data := by
    intro existing found
    obtain ⟨earlier, earlierMember, key, decodes⟩ := sound.rows _ _ found
    rw [(collisionFree.of_key member earlierMember key).2.2]
    exact decodes.reused put
  apply (Urp.ensures_put host state put).mono
  · rintro row later
      (⟨existing, data, found, rfl, rfl, -⟩ | ⟨missing, rfl, rfl⟩)
    · exact ⟨sound, .refl _, decodes existing found⟩
    · have absent := sound.absent collisionFree member missing
      exact ⟨sound.store codecs member absent,
        ChunkFiles.filesKept_store host absent,
        decodes_newRow codecs state put⟩
  · rintro error later ⟨-, existing, found, raised⟩
    rw [readStored_of_decodes (decodes existing found)] at raised
    cases raised

/-- The rows of a sequence of puts decode to their bytes. -/
theorem ChunkFiles.Sound.ensures_puts (codecs : host.CodecsRoundTrip)
    (collisionFree : CollisionFree puts) (sound : state.Sound host puts)
    {items : List Put} (subset : ∀ put ∈ items, put ∈ puts) :
    Program.Ensures (Program.forEach items (Put.run host)) state
      (fun rows later => later.Sound host puts ∧ state.FilesKept later ∧
        List.Forall₂ (fun put row => row.Decodes host later put.data)
          items rows)
      (fun _ _ => False) := by
  induction items generalizing state with
  | nil => exact ⟨sound, .refl _, .nil⟩
  | cons put rest ih =>
      rw [Program.forEach, Program.ensures_bind]
      apply (sound.ensures_put codecs collisionFree
        (subset put List.mem_cons_self)).mono
      · rintro row middle ⟨kept, head, decodes⟩
        rw [Program.ensures_bind]
        apply (ih kept fun other member =>
          subset other (List.mem_cons_of_mem _ member)).mono
        · rintro rows later ⟨keptLater, tail, rest⟩
          exact ⟨keptLater, head.trans tail, .cons (decodes.kept tail) rest⟩
        · exact fun _ _ impossible => impossible
      · exact fun _ _ impossible => absurd impossible id

end Sound

end Urp
