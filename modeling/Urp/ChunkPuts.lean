import Urp.ChunkStore
import Urp.Library.Run

/-!
# What one put does

A put with its arguments in one record, the index entry and the file that it
looks up, and what the store holds afterwards: a row decodes to the bytes of
its chunk as long as its file stays.
-/

namespace Urp

open Python LocalChunkStore

/-- The arguments of one `put_chunk`. -/
structure Put where
  tenant : String
  nameSpace : String
  chunk : Chunk
  compress : Bool

namespace Put

def data (put : Put) : Bytes := put.chunk.data

def domainText (put : Put) : List Char :=
  LocalChunkStore.domainText put.tenant put.nameSpace

def domain (put : Put) : String := domainDir put.tenant put.nameSpace

def keyText (put : Put) : List Char :=
  LocalChunkStore.keyText put.tenant put.nameSpace put.chunk.sha256

/-- The index key that the put looks up. -/
def key (put : Put) : String :=
  indexKey put.tenant put.nameSpace put.chunk.sha256

/-- The file that the put looks up. -/
def path (put : Put) : List String := [put.domain, put.chunk.sha256]

def ref (put : Put) : String := put.domain ++ "/" ++ put.chunk.sha256

theorem keyText_eq (put : Put) :
    put.keyText = put.domainText ++ '\x00' :: put.chunk.sha256.toList := rfl

theorem length_sha256 (put : Put) :
    put.chunk.sha256.toList.length = 64 := by
  rw [put.chunk.digested]
  exact Python.length_sha256 put.chunk.data

/-- A key text determines the domain text and the digest. -/
theorem keyText_inj {put other : Put} (same : put.keyText = other.keyText) :
    put.domainText = other.domainText ∧
      put.chunk.sha256 = other.chunk.sha256 := by
  have parts := List.append_inj' same (by
    simp [put.length_sha256, other.length_sha256])
  refine ⟨parts.1, String.toList_inj.mp ?_⟩
  exact (List.cons_injective parts.2)

end Put

def Put.run (host : Host) (put : Put) :
    Program ChunkFiles PyException StoredChunk :=
  putChunk host put.tenant put.nameSpace put.chunk put.compress

def putStep (host : Host) (state : ChunkFiles) (put : Put) :
    Except PyException StoredChunk × ChunkFiles := put.run host state

/-! ## What one put does -/

/-- The row that a put writes for a chunk that is not stored yet. -/
def Put.newRow (host : Host) (put : Put) : StoredChunk :=
  let (payload, transformStack, codec) := encode host put.data put.compress
  { digest := put.chunk.sha256
    tenant := put.tenant
    nameSpace := put.nameSpace
    ref := put.ref
    transformStack, codec
    logicalSize := put.data.length
    storedSize := payload.length
    dedupeHit := false }

/-- The row that a put returns for an index entry. -/
def Put.reused (put : Put) (existing : StoredChunk) : StoredChunk :=
  { existing with
    tenant := put.tenant, nameSpace := put.nameSpace, dedupeHit := true }

/-- The store with a new chunk. -/
def ChunkFiles.store (host : Host) (state : ChunkFiles) (put : Put) :
    ChunkFiles where
  files := state.files.insert put.path (encode host put.data put.compress).1
  index := state.index.insert put.key (put.newRow host)

/-- A reading operation leaves the store. -/
theorem frames_readStored (host : Host) (stored : StoredChunk)
    (sha256 : String) :
    Program.Frames (fun state => state) (readStored host stored sha256) := by
  unfold readStored
  apply Program.frames_bind (Program.frames_lift _)
  intro path
  apply Program.frames_bind Program.frames_get
  intro state
  cases state.files.lookup path with
  | none => exact Program.frames_raise _
  | some raw =>
      apply Program.frames_bind (Program.frames_lift _)
      intro payload
      apply Program.frames_ite (Program.frames_raise _)
      exact Program.frames_ret _

/-- A put either returns the entry that is there, after reading its file, or
stores the chunk; it raises what reading raises, and nothing changes then. -/
theorem ensures_put (host : Host) (state : ChunkFiles) (put : Put) :
    Program.Ensures (put.run host) state
      (fun stored later =>
        (∃ existing data, state.index.lookup put.key = some existing ∧
            stored = put.reused existing ∧ later = state ∧
            readStored host stored "" state = (.ok data, state)) ∨
          (state.files.lookup put.path = none ∨
              state.index.lookup put.key = none) ∧
            stored = put.newRow host ∧ later = state.store host put)
      (fun error later => later = state ∧
        ∃ existing, state.index.lookup put.key = some existing ∧
          readStored host (put.reused existing) "" state =
            (.error error, state)) := by
  unfold Put.run putChunk
  have path : [domainDir put.tenant put.nameSpace, put.chunk.sha256] =
    put.path := rfl
  have key : indexKey put.tenant put.nameSpace put.chunk.sha256 = put.key := rfl
  rw [Program.ensures_bind, Program.ensures_get, path, key]
  cases file : state.files.lookup put.path with
  | none => exact .inr ⟨.inl rfl, rfl, rfl⟩
  | some raw =>
      cases entry : state.index.lookup put.key with
      | none => exact .inr ⟨.inr rfl, rfl, rfl⟩
      | some existing =>
          change Program.Ensures
            (readStored host (put.reused existing) "" >>= fun _ => _) _ _ _
          rw [Program.ensures_bind]
          apply ((frames_readStored host (put.reused existing) "").ensures_run
            state).mono
          · rintro data _ ⟨rfl, run⟩
            exact .inl ⟨existing, data, rfl, rfl, rfl, run⟩
          · rintro error _ ⟨rfl, run⟩
            exact ⟨rfl, existing, rfl, run⟩

namespace Put

theorem domain_of_domainText {put other : Put}
    (same : put.domainText = other.domainText) : put.domain = other.domain :=
  congrArg (fun text => "domain-" ++ String.ofList
    ((sha256 (utf8 text)).toList.take 32)) same

theorem key_of_keyText {put other : Put} (same : put.keyText = other.keyText) :
    put.key = other.key :=
  congrArg (fun text => sha256 (utf8 text)) same

/-- Two puts with one key text have one file. -/
theorem path_of_keyText {put other : Put} (same : put.keyText = other.keyText) :
    put.path = other.path ∧ put.ref = other.ref := by
  obtain ⟨domainText, digest⟩ := keyText_inj same
  have domain := domain_of_domainText domainText
  simp [path, ref, domain, digest]

theorem ref_inj {put other : Put} (same : put.ref = other.ref) :
    put.domain = other.domain ∧ put.chunk.sha256 = other.chunk.sha256 := by
  have texts := congrArg String.toList same
  simp only [ref, String.toList_append] at texts
  have parts := List.append_inj' texts (by
    rw [put.length_sha256, other.length_sha256])
  have domains := List.append_inj' parts.1 rfl
  exact ⟨String.toList_inj.mp domains.1, String.toList_inj.mp parts.2⟩

theorem path_of_ref {put other : Put} (same : put.ref = other.ref) :
    put.path = other.path := by
  obtain ⟨domain, digest⟩ := ref_inj same
  rw [path, path, domain, digest]

/-- The pair of strings that a domain stands for. -/
def pair (put : Put) : String × String := (put.tenant, put.nameSpace)

end Put

/-- A put whose file or index entry is missing stores the chunk. -/
theorem run_of_missed (host : Host) {state : ChunkFiles} {put : Put}
    (missed : state.files.lookup put.path = none ∨
      state.index.lookup put.key = none) :
    put.run host state = (.ok (put.newRow host), state.store host put) := by
  simp only [Put.path, Put.domain, Put.key] at missed
  unfold Put.run putChunk
  rw [Program.get_bind]
  rcases missed with absent | absent
  · simp only [absent]
    rfl
  · simp only [absent]
    cases state.files.lookup
        [domainDir put.tenant put.nameSpace, put.chunk.sha256] <;> rfl

/-- A put whose file is missing stores the chunk. -/
theorem run_of_absent (host : Host) {state : ChunkFiles} {put : Put}
    (absent : state.files.lookup put.path = none) :
    put.run host state = (.ok (put.newRow host), state.store host put) :=
  run_of_missed host (.inl absent)

/-! ## Resolving references -/

/-- A name that resolving a path keeps. -/
def IsPlainName (name : String) : Prop :=
  name ≠ "" ∧ name ≠ "." ∧ name ≠ ".."

theorem pathParts_asPosix {parts : List String} (some : parts ≠ [])
    (plain : ∀ part ∈ parts, '/' ∉ part.toList) :
    pathParts (asPosix parts) = parts := by
  have texts : parts.map String.toList ≠ [] := by
    simpa using some
  unfold pathParts asPosix
  rw [String.toList_ofList, List.splitOn_intercalate '/' ?_ texts]
  · simp
  · intro text member
    obtain ⟨part, inParts, rfl⟩ := List.mem_map.mp member
    exact plain part inParts

/-- Plain names resolve to themselves. -/
theorem resolveNames_plain (start : List String) {parts : List String}
    (names : ∀ part ∈ parts, IsPlainName part) :
    resolveNames start parts = start ++ parts := by
  induction parts generalizing start with
  | nil => simp [resolveNames]
  | cons part rest ih =>
      obtain ⟨⟨nonempty, dot, up⟩, others⟩ := List.forall_mem_cons.mp names
      have tail := ih (start ++ [part]) others
      simp only [resolveNames, List.foldl_cons] at tail ⊢
      rw [if_neg (by simp [nonempty, dot]), if_neg up, tail]
      simp

/-- A relative path of plain names resolves to them. -/
theorem resolveUnder_asPosix (root : List String) {parts : List String}
    (some : parts ≠ []) (plain : ∀ part ∈ parts, '/' ∉ part.toList)
    (names : ∀ part ∈ parts, IsPlainName part) :
    resolveUnder root (asPosix parts) = .ok parts := by
  have relative : (asPosix parts).toList.head? ≠ .some '/' := by
    obtain ⟨first, rest, rfl⟩ := List.exists_cons_of_ne_nil some
    have nonempty : first.toList ≠ [] := fun empty =>
      (names first List.mem_cons_self).1 (String.toList_inj.mp empty)
    obtain ⟨c, tail, text⟩ := List.exists_cons_of_ne_nil nonempty
    have head : (asPosix (first :: rest)).toList.head? = .some c := by
      unfold asPosix
      rw [String.toList_ofList, List.map_cons, text]
      cases rest with
      | nil => simp
      | cons _ _ => simp
    rw [head]
    rintro ⟨⟩
    exact plain first List.mem_cons_self (text ▸ List.mem_cons_self)
  have resolved : resolvePath root (asPosix parts) = root ++ parts := by
    unfold resolvePath
    rw [if_neg relative, pathParts_asPosix some plain,
      resolveNames_plain root names]
  have inside : root.isPrefixOf (root ++ parts) = true := by
    rw [List.isPrefixOf_iff_prefix]
    exact List.prefix_append root _
  simp [resolveUnder, resolved, inside]

/-- A reference of two plain names resolves to them. -/
theorem resolveUnder_join (root : List String) {first second : String}
    (firstPlain : '/' ∉ first.toList) (secondPlain : '/' ∉ second.toList)
    (firstName : IsPlainName first) (secondName : IsPlainName second) :
    resolveUnder root (first ++ "/" ++ second) = .ok [first, second] := by
  have text : first ++ "/" ++ second = asPosix [first, second] := by
    apply String.toList_inj.mp
    simp [asPosix, String.toList_append, List.intercalate]
  rw [text]
  apply resolveUnder_asPosix root (by simp)
  · simp [firstPlain, secondPlain]
  · simp [firstName, secondName]

theorem slash_not_mem_sha256 (data : Bytes) :
    '/' ∉ (sha256 data).toList := by
  intro member
  have digit := sha256_digits member
  revert digit
  decide

theorem isPlainName_sha256 (data : Bytes) : IsPlainName (sha256 data) := by
  have size := length_sha256 data
  refine ⟨sha256_ne_empty data, ?_, ?_⟩
  · intro same
    rw [same] at size
    cases size
  · intro same
    rw [same] at size
    cases size

namespace Put

/-- A put's reference resolves to its file. -/
theorem resolveUnder_ref (host : Host) (put : Put) :
    resolveUnder host.chunkRoot put.ref = .ok put.path := by
  have text : put.domain.toList = "domain-".toList ++
      (sha256 (utf8 put.domainText)).toList.take 32 := by
    simp [domain, domainDir, domainText, String.toList_append]
  have plain : '/' ∉ put.domain.toList := by
    rw [text, List.mem_append]
    rintro (fixed | digits)
    · revert fixed
      decide
    · exact slash_not_mem_sha256 _ (List.mem_of_mem_take digits)
  have name : IsPlainName put.domain := by
    refine ⟨?_, ?_, ?_⟩ <;> intro same <;> rw [same] at text <;> cases text
  have digest := put.chunk.digested
  unfold ref path
  apply resolveUnder_join _ plain _ name
  · rw [digest]
    exact isPlainName_sha256 _
  · rw [digest]
    exact slash_not_mem_sha256 _

end Put

/-! ## Reading rows back -/

/-- Decompressing undoes compressing. -/
structure Host.CodecsRoundTrip (host : Host) : Prop where
  zlib : ∀ data, host.zlib.decompress (host.zlib.compress data) = some data
  zstandard : ∀ codec, host.zstandard = some codec →
    ∀ data, codec.decompress (codec.compress data) = some data

theorem Host.counting_codecs : Host.counting.CodecsRoundTrip := by
  constructor
  · intro data
    rfl
  · rintro codec ⟨⟩

section Rows

variable {host : Host}

theorem decompress_compressed (codecs : host.CodecsRoundTrip) (data : Bytes) :
    decompress host (compressed host data).1 (compressed host data).2 =
      .ok data := by
  cases installed : host.zstandard with
  | none => simp [compressed, decompress, installed, codecs.zlib]
  | some codec =>
      simp [compressed, decompress, installed,
        codecs.zstandard codec installed]

/-- The row's file is there and decodes to bytes with the row's digest. -/
structure StoredChunk.Decodes (host : Host) (state : ChunkFiles)
    (row : StoredChunk) (data : Bytes) : Prop where
  file : ∃ path raw, resolveUnder host.chunkRoot row.ref = .ok path ∧
    state.files.lookup path = some raw ∧ decode host row raw = .ok data
  digest : row.digest = sha256 data

theorem readStored_of_decodes {state : ChunkFiles} {row : StoredChunk}
    {data : Bytes} (decodes : row.Decodes host state data) (digest : String) :
    readStored host row digest state = (.ok data, state) := by
  obtain ⟨path, raw, resolved, found, decoded⟩ := decodes.file
  have nonempty : row.digest ≠ "" := by
    rw [decodes.digest]
    exact sha256_ne_empty data
  have matching : ¬ (row.digest ≠ "" ∧ sha256 data ≠ row.digest) := by
    rw [decodes.digest]
    simp
  unfold readStored
  rw [resolved, Program.lift_ok_bind, Program.get_bind]
  simp only [found, decoded, Program.lift_ok_bind, nonempty, if_false]
  rw [if_neg matching]
  rfl

/-- Every file of `state` is in `later`. -/
def ChunkFiles.FilesKept (state later : ChunkFiles) : Prop :=
  ∀ path raw, state.files.lookup path = some raw →
    later.files.lookup path = some raw

theorem StoredChunk.Decodes.kept {state later : ChunkFiles}
    {row : StoredChunk} {data : Bytes} (decodes : row.Decodes host state data)
    (kept : state.FilesKept later) : row.Decodes host later data := by
  obtain ⟨path, raw, resolved, found, decoded⟩ := decodes.file
  exact ⟨⟨path, raw, resolved, kept path raw found, decoded⟩, decodes.digest⟩

/-- A new row decodes to the bytes of its put. -/
theorem decodes_newRow (codecs : host.CodecsRoundTrip) (state : ChunkFiles)
    (put : Put) :
    (put.newRow host).Decodes host (state.store host put) put.data := by
  have decoded : decode host (put.newRow host)
      (encode host put.data put.compress).1 = .ok put.data := by
    unfold decode Put.newRow encode
    by_cases smaller : put.compress ∧
        (compressed host put.data).2.length < put.data.length
    · simp [smaller, decompress_compressed codecs]
    · simp [smaller]
  refine ⟨⟨put.path, _, put.resolveUnder_ref host, ?_, decoded⟩,
    put.chunk.digested⟩
  simp [ChunkFiles.store]

/-- What a put returns for an entry decodes like the entry. -/
theorem StoredChunk.Decodes.reused {state : ChunkFiles} {row : StoredChunk}
    {data : Bytes} (decodes : row.Decodes host state data) (put : Put) :
    (put.reused row).Decodes host state data :=
  ⟨decodes.file, decodes.digest⟩

/-- A put whose entry decodes is a hit. -/
theorem run_of_decodes {state : ChunkFiles} {put : Put} {row : StoredChunk}
    {data raw : Bytes} (file : state.files.lookup put.path = some raw)
    (entry : state.index.lookup put.key = some row)
    (decodes : row.Decodes host state data) :
    put.run host state = (.ok (put.reused row), state) := by
  have read := readStored_of_decodes (decodes.reused put) ""
  simp only [Put.path, Put.domain] at file
  simp only [Put.key] at entry
  unfold Put.run putChunk
  rw [Program.get_bind]
  simp only [file, entry]
  exact Program.bind_ok read

end Rows

end Urp
