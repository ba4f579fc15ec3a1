import Urp.Chunking
import Urp.Host

/-!
# The chunk store

`LocalChunkStore` over its files and its index.  A chunk is stored once in
each domain, the hash of a tenant and a namespace; storing it again returns
the index entry after a check that the stored file still decodes.
-/

namespace Urp

open Python

/-! ## Paths -/

/-- The names of a resolved path: `..` goes up, `.` and `//` stay. -/
def resolveNames (start : List String) (parts : List String) : List String :=
  parts.foldl (fun path part =>
    if part = "" ∨ part = "." then path
    else if part = ".." then path.dropLast
    else path ++ [part]) start

/-- The parts between the slashes. -/
def pathParts (path : String) : List String :=
  (path.toList.splitOn '/').map String.ofList

/-- `as_posix()` of a relative path. -/
def asPosix (parts : List String) : String :=
  String.ofList (['/'].intercalate (parts.map String.toList))

/-- `(base / relative).resolve()`; no path of the store is a symbolic link. -/
def resolvePath (base : List String) (relative : String) : List String :=
  resolveNames (if relative.toList.head? = some '/' then [] else base)
    (pathParts relative)

/-- `resolve_under`, with the result relative to the base. -/
def resolveUnder (base : List String) (relative : String) :
    Except PyException (List String) :=
  let candidate := resolvePath base relative
  if base.isPrefixOf candidate then .ok (candidate.drop base.length)
  else .error (.valueError "path escapes configured storage root")

/-! ## Compression -/

def unsupportedCodec : PyException :=
  .valueError "compressed chunk manifest is missing a supported codec"

def missingZstandard : PyException :=
  .runtimeError
    "zstd-compressed data requires the optional zstandard dependency"

/-- `ZstdLikePlugin(codec=codec).decompress(data)`. -/
def decompress (host : Host) (codec : String) (data : Bytes) :
    Except PyException Bytes :=
  let decoded := fun codec : Codec =>
    match codec.decompress data with
    | some decoded => .ok decoded
    | none => .error .codecError
  match codec with
  | "zlib" => decoded host.zlib
  | "zstd" =>
      match host.zstandard with
      | some zstandard => decoded zstandard
      | none => .error missingZstandard
  | _ => .error unsupportedCodec

/-- The codec that `ZstdLikePlugin()` compresses with, and its result. -/
def compressed (host : Host) (data : Bytes) : String × Bytes :=
  match host.zstandard with
  | some zstandard => ("zstd", zstandard.compress data)
  | none => ("zlib", host.zlib.compress data)

/-! ## Stored chunks -/

structure StoredChunk where
  digest : String
  tenant : String
  nameSpace : String
  ref : String
  transformStack : List String
  codec : Option String
  logicalSize : Nat
  storedSize : Nat
  dedupeHit : Bool
  deriving DecidableEq

namespace StoredChunk

def fields (stored : StoredChunk) : List (String × Value) :=
  [("digest", .str stored.digest), ("tenant", .str stored.tenant),
    ("namespace", .str stored.nameSpace), ("ref", .str stored.ref),
    ("transform_stack", texts stored.transformStack),
    ("codec", optionalText stored.codec),
    ("logical_size", .int stored.logicalSize),
    ("stored_size", .int stored.storedSize),
    ("dedupe_hit", .bool stored.dedupeHit)]

end StoredChunk

/-- The chunk files by their names under the root, and the index. -/
structure ChunkFiles where
  files : Dict (List String) Bytes := ∅
  index : Dict String StoredChunk := ∅

namespace LocalChunkStore

/-- `f"{tenant}\0{namespace}"`. -/
def domainText (tenant nameSpace : String) : List Char :=
  tenant.toList ++ '\x00' :: nameSpace.toList

/-- The name of `_domain_dir`. -/
def domainDir (tenant nameSpace : String) : String :=
  "domain-" ++ String.ofList
    ((sha256 (utf8 (domainText tenant nameSpace))).toList.take 32)

/-- `f"{tenant}\0{namespace}\0{digest}"`. -/
def keyText (tenant nameSpace digest : String) : List Char :=
  domainText tenant nameSpace ++ '\x00' :: digest.toList

def indexKey (tenant nameSpace digest : String) : String :=
  sha256 (utf8 (keyText tenant nameSpace digest))

def missingChunk (ref : String) : PyException :=
  .fileNotFound ("chunks/" ++ ref)

def checksumFailed : PyException :=
  .valueError "chunk checksum verification failed"

section Operations

variable (host : Host)

/-- The file's bytes with the recorded transforms undone. -/
def decode (stored : StoredChunk) (raw : Bytes) : Except PyException Bytes :=
  if "zstd" ∈ stored.transformStack then
    decompress host (stored.codec.getD "") raw
  else .ok raw

/-- `read_stored`; `sha256` is a segment's own digest, which stands in for a
missing one. -/
def readStored (stored : StoredChunk) (sha256 : String) :
    Program ChunkFiles PyException Bytes := do
  let path ← Program.lift (resolveUnder host.chunkRoot stored.ref)
  let state ← Program.get
  match state.files.lookup path with
  | none => Program.raise (missingChunk stored.ref)
  | some raw => do
      let payload ← Program.lift (decode host stored raw)
      let expected := if stored.digest = "" then sha256 else stored.digest
      if expected ≠ "" ∧ Python.sha256 payload ≠ expected then
        Program.raise checksumFailed
      else return payload

/-- The bytes to write for a chunk, its transforms and its codec. -/
def encode (data : Bytes) (compress : Bool) :
    Bytes × List String × Option String :=
  let result := compressed host data
  if compress ∧ result.2.length < data.length then
    (result.2, ["zstd"], some result.1)
  else (data, [], none)

def putChunk (tenant nameSpace : String) (chunk : Chunk) (compress : Bool) :
    Program ChunkFiles PyException StoredChunk := do
  let path := [domainDir tenant nameSpace, chunk.sha256]
  let key := indexKey tenant nameSpace chunk.sha256
  let state ← Program.get
  match state.files.lookup path, state.index.lookup key with
  | some _, some existing => do
      let candidate :=
        { existing with tenant, nameSpace, dedupeHit := true }
      let _ ← readStored host candidate ""
      return candidate
  | _, _ => do
      let (payload, transformStack, codec) := encode host chunk.data compress
      let stored : StoredChunk :=
        { digest := chunk.sha256, tenant, nameSpace
          ref := domainDir tenant nameSpace ++ "/" ++ chunk.sha256
          transformStack, codec
          logicalSize := chunk.data.length
          storedSize := payload.length
          dedupeHit := false }
      Program.modify fun state =>
        { files := state.files.insert path payload
          index := state.index.insert key stored }
      return stored

def putChunks (tenant nameSpace : String) (chunks : List Chunk)
    (compress : Bool) : Program ChunkFiles PyException (List StoredChunk) :=
  Program.forEach chunks fun chunk =>
    putChunk host tenant nameSpace chunk compress

end Operations

end LocalChunkStore

/-! ## Segments -/

/-- A manifest's row for one chunk. -/
structure Segment where
  stored : StoredChunk
  logicalStart : Int
  logicalEnd : Int
  sha256 : String
  deriving DecidableEq

namespace Segment

def fields (segment : Segment) : List (String × Value) :=
  segment.stored.fields ++
    [("logical_start", .int segment.logicalStart),
      ("logical_end", .int segment.logicalEnd),
      ("sha256", .str segment.sha256)]

def toValue (segment : Segment) : Value := .dict segment.fields

end Segment

namespace LocalChunkStore

def rehydrate (host : Host) (segments : List Segment) :
    Program ChunkFiles PyException Bytes := do
  let parts ← Program.forEach segments fun segment =>
    readStored host segment.stored segment.sha256
  return parts.flatten

end LocalChunkStore

end Urp
