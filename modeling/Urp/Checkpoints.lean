import Mathlib.Algebra.Ring.Nat
import Urp.ChunkStore
import Urp.Chunking
import Urp.Schema

/-!
# Checkpoints

`CheckpointDeltaStore` keeps a checkpoint either whole or as the blocks in
which it differs from another one.
-/

namespace Urp

open Python

/-- An entry of `changed_blocks`. -/
structure ChangedBlock where
  index : Nat
  ref : String
  size : Nat
  sha256 : String

inductive CheckpointManifest where
  | base (checkpointId sha256 : String) (size : Nat) (createdAt : String)
  | delta (checkpointId baseId sha256 : String) (size blockSize : Nat)
      (changedBlocks : List ChangedBlock)
      (baseBlockCount targetBlockCount : Nat) (createdAt : String)
      (bytesAvoided : Nat)

/-- The files below the store's root, by their paths.  A manifest's file,
`<id>.json`, is kept by its checkpoint id: its name is none of the others. -/
structure CheckpointFiles where
  files : Dict (List String) Bytes := ∅
  manifests : Dict String CheckpointManifest := ∅
  supply : Supply := {}

namespace CheckpointFiles

def supplyLens : Lens CheckpointFiles Supply where
  get state := state.supply
  set state supply := { state with supply }
  get_set _ _ := rfl

def write (state : CheckpointFiles) (name : String) (data : Bytes) :
    CheckpointFiles :=
  { state with files := state.files.insert [name] data }

def writeManifest (state : CheckpointFiles) (checkpointId : String)
    (manifest : CheckpointManifest) : CheckpointFiles :=
  { state with manifests := state.manifests.insert checkpointId manifest }

end CheckpointFiles

/-- The store's directory and its block size, which the constructor checks. -/
structure CheckpointDeltaStore where
  root : List String
  blockSize : Nat
  positive : 0 < blockSize

namespace CheckpointDeltaStore

def checkId (checkpointId : String) : Except PyException String :=
  validateIdentifier checkpointId "checkpoint id"

def baseName (checkpointId : String) : String := checkpointId ++ ".base"

def blockName (checkpointId : String) (index : Nat) : String :=
  checkpointId ++ ".block." ++ toString index

def missingFile (name : String) : PyException :=
  .fileNotFound ("checkpoints/" ++ name)

/-! ## Reading -/

/-- `blocks[index] = block` for every changed block. -/
def patch (root : List String) (state : CheckpointFiles) :
    List ChangedBlock → List Bytes → Except PyException (List Bytes)
  | [], blocks => .ok blocks
  | changed :: rest, blocks => do
      let path ← resolveUnder root changed.ref
      match state.files.lookup path with
      | none => .error (missingFile changed.ref)
      | some block =>
          if Python.sha256 block ≠ changed.sha256 then
            .error (.valueError "checkpoint delta block checksum mismatch")
          else if changed.index < blocks.length then
            patch root state rest (blocks.set changed.index block)
          else .error .indexError

/-- The blocks of the base, with empty ones up to the count of the target. -/
def padded (chunks : List Chunk) (count : Nat) : List Bytes :=
  chunks.map Chunk.data ++ List.replicate (count - chunks.length) []

/-- The data of a delta over the bytes of its base. -/
def rebuild (root : List String) (state : CheckpointFiles) (base : Bytes)
    (sha256 : String) (size blockSize : Nat)
    (changedBlocks : List ChangedBlock) (targetBlockCount : Nat) :
    Except PyException Bytes := do
  let chunks ← fixedChunks base blockSize
  let blocks ← patch root state changedBlocks (padded chunks targetBlockCount)
  let data := blocks.flatten.take size
  if Python.sha256 data ≠ sha256 then
    .error (.valueError "checkpoint delta reconstruction checksum mismatch")
  else .ok data

/-- `read`, with at most `depth` calls of itself on the stack. -/
def read (root : List String) (state : CheckpointFiles) :
    Nat → String → Except PyException Bytes
  | 0, _ => .error (.runtimeError "maximum recursion depth exceeded")
  | depth + 1, checkpointId => do
      let checkpointId ← checkId checkpointId
      match state.manifests.lookup checkpointId with
      | none => .error (missingFile (checkpointId ++ ".json"))
      | some (.base _ sha256 _ _) =>
          match state.files.lookup [baseName checkpointId] with
          | none => .error (missingFile (baseName checkpointId))
          | some data =>
              if Python.sha256 data ≠ sha256 then
                .error (.valueError "checkpoint base checksum mismatch")
              else .ok data
      | some (.delta _ baseId sha256 size blockSize changedBlocks _
          targetBlockCount _ _) => do
          let base ← read root state depth baseId
          rebuild root state base sha256 size blockSize changedBlocks
            targetBlockCount

/-! ## Writing -/

section Operations

variable (host : Host) (store : CheckpointDeltaStore) (depth : Nat)

def putBase (checkpointId : String) (data : Bytes) :
    Program CheckpointFiles PyException CheckpointManifest := do
  let checkpointId ← Program.lift (checkId checkpointId)
  Program.modify fun state => state.write (baseName checkpointId) data
  let createdAt ← Program.focus CheckpointFiles.supplyLens host.utcNow
  let manifest := CheckpointManifest.base checkpointId (Python.sha256 data)
    data.length createdAt
  Program.modify fun state => state.writeManifest checkpointId manifest
  return manifest

/-- The blocks of the target that are not those of the base, with their
indices. -/
def changedChunks (base target : List Chunk) : List (Chunk × Nat) :=
  target.zipIdx.filter fun entry =>
    base[entry.2]?.map Chunk.data ≠ some entry.1.data

def writeBlock (checkpointId : String) (entry : Chunk × Nat) :
    Program CheckpointFiles PyException ChangedBlock := do
  let ref := blockName checkpointId entry.2
  Program.modify fun state => state.write ref entry.1.data
  return ⟨entry.2, ref, entry.1.data.length, entry.1.sha256⟩

def putDelta (baseId checkpointId : String) (data : Bytes) :
    Program CheckpointFiles PyException CheckpointManifest := do
  let baseId ← Program.lift
    (validateIdentifier baseId "base checkpoint id")
  let checkpointId ← Program.lift (checkId checkpointId)
  let state ← Program.get
  let base ← Program.lift (read store.root state depth baseId)
  let baseChunks ← Program.lift (fixedChunks base store.blockSize)
  let targetChunks ← Program.lift (fixedChunks data store.blockSize)
  let changed ← Program.forEach (changedChunks baseChunks targetChunks)
    (writeBlock checkpointId)
  let createdAt ← Program.focus CheckpointFiles.supplyLens host.utcNow
  let manifest := CheckpointManifest.delta checkpointId baseId
    (Python.sha256 data) data.length store.blockSize changed baseChunks.length
    targetChunks.length createdAt
    (data.length - (changed.map ChangedBlock.size).sum)
  Program.modify fun state => state.writeManifest checkpointId manifest
  return manifest

end Operations

end CheckpointDeltaStore

end Urp
