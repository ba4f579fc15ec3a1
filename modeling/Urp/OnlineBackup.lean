import Urp.ExactRoundTrip
import Urp.StateFiles

/-!
# Online backups

`export_state` beside running executions.  The exporter walks the included
paths one after another and then reads every file three times, for its
digest, its size and its content; between any two of these reads executions
store chunks and manifests, and other writes replace or extend files.
-/

namespace Urp

open Python LocalChunkStore

/-! ## Executions in steps -/

/-- How far an execution has come, past what its arguments determine. -/
inductive ExecutionPhase where
  | observing
  | storing (todo : List Chunk) (segments : List Segment)
  | verified (segments : List Segment) (verification : VerificationResult)

structure RunningExecution where
  execution : Execution
  prepared : Prepared
  phase : ExecutionPhase

/-! ## The exporter in steps -/

inductive ExportPhase where
  | idle
  /-- The walk of `item` started when these files were there. -/
  | walking (item : String) (rest : List String) (before found : List StatePath)
  | reading (files : List StatePath) (archived : List ArchivedFile)
  | hashed (path : StatePath) (sha256 : String) (files : List StatePath)
      (archived : List ArchivedFile)
  | measured (path : StatePath) (record : FileRecord) (files : List StatePath)
      (archived : List ArchivedFile)
  | finished (archive : BackupArchive)
  | failed (error : PyException)

/-- The state directory, what `chunks/index.json` reads back as, the
executions by their process numbers, and the exporter. -/
structure OnlineState where
  directory : StateDirectory := ∅
  index : Dict String StoredChunk := ∅
  running : Dict Nat RunningExecution := ∅
  backup : ExportPhase := .idle

namespace OnlineState

/-- The files of the chunk store. -/
def chunks (state : OnlineState) : ChunkFiles where
  files := (state.directory.filesIn "chunks").erase ["index.json"]
  index := state.index

def advance (state : OnlineState) (process : Nat)
    (running : RunningExecution) : OnlineState :=
  { state with running := state.running.insert process running }

/-- The execution raises or has ended. -/
def leave (state : OnlineState) (process : Nat) : OnlineState :=
  { state with running := state.running.erase process }

end OnlineState

/-- A write of a file that is neither a chunk's nor a manifest's. -/
def StateWrite.isPlain : StateWrite → Bool
  | .store (.chunk _ _ _) _ => false
  | .store (.manifest _) _ => false
  | _ => true

/-- One step of an execution, another write (an append to the ledger or a
journal, a plan, the chunk index), or one read of the exporter; `seen` is what
a walk that ends has seen. -/
inductive OnlineAction where
  | start (process : Nat) (execution : Execution)
  | putChunk (process : Nat)
  | verify (process : Nat)
  | putManifest (process : Nat) (manifestId createdAt : String)
  | write (write : StateWrite) (plain : write.isPlain = true)
  | backup (seen : List StatePath)

section Executions

variable (host : Host)

/-- The put of one of the execution's chunks. -/
def RunningExecution.put (running : RunningExecution) (chunk : Chunk) : Put where
  tenant := running.execution.workUnit.tenant
  nameSpace := storageNamespace running.execution.workUnit running.prepared.mode
  chunk := chunk
  compress := "zstd" ∈ running.prepared.plan.actionNames

/-- The manifest of an execution that observed or stored its payload. -/
def RunningExecution.manifest (running : RunningExecution)
    (manifestId createdAt : String) : Option Manifest :=
  let execution := running.execution
  let prepared := running.prepared
  let size := prepared.payload.length
  match running.phase with
  | .observing => some (manifestOf execution prepared .planned
      (.observed execution.adapter (sha256 prepared.payload) size) observation
      ∅ (executionTelemetry .observe size 0 0 0 0) manifestId createdAt)
  | .storing _ _ => none
  | .verified segments verification => some (manifestOf execution prepared
      (if prepared.mode = .enforce then .active else .superseded)
      (storedPhysical execution prepared segments) verification
      (storedLineage execution)
      (executionTelemetry prepared.mode size (storedSize segments)
        (size - storedSize segments) segments.length
        (segments.filter fun segment => segment.stored.dedupeHit).length)
      manifestId createdAt)

def startExecution (state : OnlineState) (process : Nat)
    (execution : Execution) : OnlineState :=
  match state.running.lookup process, execution.prepare host with
  | none, .ok prepared =>
      if prepared.mode = .observe then
        state.advance process ⟨execution, prepared, .observing⟩
      else
        match planChunks prepared.plan prepared.payload with
        | .ok chunks =>
            state.advance process ⟨execution, prepared, .storing chunks []⟩
        | .error _ => state
  | _, _ => state

/-- The next put; the chunk's file is written before the index. -/
def putNextChunk (state : OnlineState) (process : Nat)
    (running : RunningExecution) (chunk : Chunk) (todo : List Chunk)
    (segments : List Segment) : OnlineState :=
  let put := running.put chunk
  match put.run host state.chunks with
  | (.error _, _) => state.leave process
  | (.ok row, later) =>
      let next := { running with
        phase := .storing todo (segments ++ [segmentOf chunk row]) }
      if row.dedupeHit = true then state.advance process next
      else
        match state.directory.write ("chunks" :: put.path)
            (encode host put.data put.compress).1 with
        | .error _ => state.leave process
        | .ok directory => OnlineState.advance
            { state with directory, index := later.index } process next

/-- Read the segments back and compare them with the payload. -/
def verifySegments (state : OnlineState) (process : Nat)
    (running : RunningExecution) (segments : List Segment) : OnlineState :=
  match (LocalChunkStore.rehydrate host segments state.chunks).1 with
  | .error _ => state.leave process
  | .ok data =>
      let verification := verifySha256 data (sha256 running.prepared.payload)
      if verification.accepted &&
          (requireExactVerifiers running.prepared.policy.requiredVerifiers true
            running.execution.workUnit.id).isOk then
        state.advance process
          { running with phase := .verified segments verification }
      else state.leave process

def manifestPath (manifestId : String) : StatePath :=
  ["manifests", manifestId ++ ".json"]

variable (text : Manifest → Bytes)

/-- Put the manifest; the execution has nothing more to store. -/
def putManifestFile (state : OnlineState) (process : Nat)
    (running : RunningExecution) (manifest : Manifest) : OnlineState :=
  match (FileManifestStore.put host running.execution.session manifest ∅).1 with
  | .error _ => state.leave process
  | .ok () =>
      match state.directory.write (manifestPath manifest.manifestId)
          (text manifest) with
      | .error _ => state.leave process
      | .ok directory => OnlineState.leave { state with directory } process

end Executions

/-! ## The exporter's reads -/

section Export

variable (key : Option String) (generatedAt : String)
variable (output : Option StatePath)

/-- The files of a walk that the export keeps, in order. -/
def keptFiles (seen : List StatePath) : List StatePath :=
  (seen.insertionSort fun left right => left ≤ right).filter fun path =>
    !decide (some path = output) && !isSkipped (path.getLast?.getD "")

/-- The next walk, or the first file. -/
def nextWalk (directory : StateDirectory) (items : List String)
    (found : List StatePath) : ExportPhase :=
  match items with
  | [] => .reading found []
  | item :: rest => .walking item rest (candidates directory.paths item) found

/-- The walk may have seen this: files that are there now, and at least those
that were there when it started. -/
def Sees (directory : StateDirectory) (item : String)
    (before seen : List StatePath) : Prop :=
  seen.Nodup ∧ (∀ path ∈ before, path ∈ seen) ∧
    ∀ path ∈ seen, path ∈ candidates directory.paths item

instance (directory : StateDirectory) (item : String)
    (before seen : List StatePath) :
    Decidable (Sees directory item before seen) :=
  inferInstanceAs (Decidable (_ ∧ _ ∧ _))

def fileGone (path : StatePath) : PyException := .fileNotFound (asPosix path)

/-- One step of `export_state`. -/
def exportStep (directory : StateDirectory) (seen : List StatePath) :
    ExportPhase → ExportPhase
  | .walking item rest before found =>
      if Sees directory item before seen then
        nextWalk directory rest (found ++ keptFiles output seen)
      else .walking item rest before found
  | .reading [] archived =>
      .finished (finishArchive key generatedAt archived)
  | .reading (path :: files) archived =>
      match directory.lookup path with
      | none => .failed (fileGone path)
      | some data => .hashed path (sha256 data) files archived
  | .hashed path digest files archived =>
      match directory.lookup path with
      | none => .failed (fileGone path)
      | some data => .measured path ⟨digest, data.length⟩ files archived
  | .measured path record files archived =>
      match directory.lookup path with
      | none => .failed (fileGone path)
      | some data => .reading files (archived ++ [⟨path, record, data⟩])
  | _ => nextWalk directory includedStatePaths []

end Export

/-! ## Runs -/

section Runs

variable (host : Host) (key : Option String) (generatedAt : String)
variable (output : Option StatePath) (text : Manifest → Bytes)

def onlineStep (state : OnlineState) (action : OnlineAction) :
    Unit × OnlineState :=
  ((), match action with
    | .start process execution => startExecution host state process execution
    | .putChunk process =>
        match state.running.lookup process with
        | some running =>
            match running.phase with
            | .storing (chunk :: todo) segments =>
                putNextChunk host state process running chunk todo segments
            | _ => state
        | none => state
    | .verify process =>
        match state.running.lookup process with
        | some running =>
            match running.phase with
            | .storing [] segments =>
                verifySegments host state process running segments
            | _ => state
        | none => state
    | .putManifest process manifestId createdAt =>
        match state.running.lookup process with
        | some running =>
            match running.manifest manifestId createdAt with
            | some manifest =>
                putManifestFile host text state process running manifest
            | none => state
        | none => state
    | .write write _ =>
        { state with directory := (stateStep state.directory write).2 }
    | .backup seen =>
        let backup := exportStep key generatedAt output state.directory seen
          state.backup
        { state with backup })

end Runs

end Urp
