import Urp.Dispatch
import Urp.Library.Turns

/-!
# Multipart uploads

The multipart calls of the object store adapter.  Each call is cut at the
points where other calls can run between its steps: the test that the upload's
directory exists, each section under the directory's lock, the put of the
assembled object, and the removal of the lock file and the directory.
-/

namespace Urp

open Python

/-! ## The files of an upload -/

structure PartRecord where
  sha256 : String
  size : Nat
  file : String

inductive UploadStatus where
  | opened
  | completing
  deriving DecidableEq

def UploadStatus.text : UploadStatus → String
  | .opened => "open"
  | .completing => "completing"

/-- What `create_multipart_upload` is given, with the tenant of its adapter. -/
structure UploadTarget where
  tenant : String
  bucket : String
  key : String
  nameSpace : String
  metadata : Object
  tags : Object

/-- The target as it reads back from a file. -/
def UploadTarget.reloaded (target : UploadTarget) : UploadTarget :=
  { target with
    metadata := target.metadata.reloaded
    tags := target.tags.reloaded }

/-- The put of the assembled object. -/
def UploadTarget.put (target : UploadTarget) (body : Bytes) : ObjectPut where
  bucket := target.bucket
  key := target.key
  body := body
  nameSpace := target.nameSpace
  metadata := target.metadata
  tags := target.tags

/-- A `meta.json`.  Its parts are under the decimal texts of their numbers. -/
structure UploadMeta where
  target : UploadTarget
  parts : Dict Nat PartRecord := ∅
  status : UploadStatus := .opened

def UploadMeta.reloaded (record : UploadMeta) : UploadMeta :=
  { record with target := record.target.reloaded }

/-- The directory of an upload. -/
structure UploadDir where
  metaFile : Option UploadMeta := none
  lockFile : Bool := false
  partFiles : Dict String Bytes := ∅

def UploadDir.isEmpty (dir : UploadDir) : Bool :=
  dir.metaFile.isNone && !dir.lockFile && dir.partFiles.entries.isEmpty

/-- The directories under `tmp/multipart`. -/
abbrev UploadDirs : Type := Dict String UploadDir

/-- `f"part-{part_number:08d}.bin"`. -/
def partFile (partNumber : Nat) : String :=
  let digits := Nat.toDigits 10 partNumber
  "part-" ++ String.ofList (List.replicate (8 - digits.length) '0' ++ digits) ++
    ".bin"

/-! ## The calls -/

inductive MultipartRequest where
  | create (bucket key nameSpace : String) (metadata tags : Object)
  | uploadPart (uploadId : String) (partNumber : Int) (body : Bytes)
  | complete (uploadId : String)
  | abort (uploadId : String)

inductive MultipartReply where
  | created (uploadId bucket key : String)
  | part (uploadId : String) (partNumber : Int) (size : Nat) (etag : String)
  | completed (stored : StoredObject) (uploadId : String) (parts : Nat)
  | aborted (uploadId : String)

/-- Where a call stands between two of its steps. -/
inductive Stage where
  | entered
  /-- `create`: the directory is made. -/
  | made (uploadId : String)
  /-- The directory was there. -/
  | admitted
  /-- `complete`: the upload is completing, with this body to put. -/
  | claimed (record : UploadMeta) (body : Bytes)
  /-- `complete`: the put raised. -/
  | failed (error : PyException)
  /-- `complete`: the put returned. -/
  | stored (stored : StoredObject) (parts : Nat)
  /-- The files are removed, and the lock file is left. -/
  | cleared (reply : MultipartReply)
  /-- The empty directory is left. -/
  | unlocked (reply : MultipartReply)
  | returned (reply : MultipartReply)
  | raised (error : PyException)

/-- A call of an adapter with its own tenant, under a session. -/
structure MultipartCall where
  session : Session := {}
  tenant : String
  request : MultipartRequest

structure RunningCall where
  call : MultipartCall
  stage : Stage

structure MultipartState where
  uploads : UploadDirs := ∅
  gateway : Gateway := {}

namespace MultipartState

def supplyLens : Lens MultipartState Supply where
  get state := state.gateway.world.ledger.supply
  set state supply := { state with gateway := { state.gateway with
    world := { state.gateway.world with
      ledger := { state.gateway.world.ledger with supply } } } }
  get_set _ _ := rfl

def uploadsLens : Lens MultipartState UploadDirs where
  get state := state.uploads
  set state uploads := { state with uploads }
  get_set _ _ := rfl

def gatewayLens : Lens MultipartState Gateway where
  get state := state.gateway
  set state gateway := { state with gateway }
  get_set _ _ := rfl

end MultipartState

namespace LocalS3Adapter

/-! ## Sections under the lock -/

/-- `_multipart_dir`. -/
def multipartDir (uploadId : String) : Except PyException String :=
  validateIdentifier uploadId "multipart upload id" "mpu_"

section Sections

variable (uploadId : String)

/-- Entering `file_lock` makes the directory and its lock file. -/
def enterLock : Program UploadDirs PyException Unit :=
  Program.modify fun uploads => uploads.insert uploadId
    { (uploads.lookup uploadId).getD {} with lockFile := true }

def readMeta : Program UploadDirs PyException UploadMeta := do
  let uploads ← Program.get
  match (uploads.lookup uploadId).bind UploadDir.metaFile with
  | none =>
      Program.raise
        (.fileNotFound ("tmp/multipart/" ++ uploadId ++ "/meta.json"))
  | some record => return record

def writeMeta (record : UploadMeta) : Program UploadDirs PyException Unit :=
  Program.modify fun uploads => uploads.insert uploadId
    { (uploads.lookup uploadId).getD {} with metaFile := some record.reloaded }

def writePart (name : String) (body : Bytes) :
    Program UploadDirs PyException Unit :=
  Program.modify fun uploads =>
    let dir := (uploads.lookup uploadId).getD {}
    uploads.insert uploadId
      { dir with partFiles := dir.partFiles.insert name body }

def readPart (name : String) : Program UploadDirs PyException Bytes := do
  let uploads ← Program.get
  match (uploads.lookup uploadId).bind fun dir => dir.partFiles.lookup name with
  | none =>
      Program.raise
        (.fileNotFound ("tmp/multipart/" ++ uploadId ++ "/" ++ name))
  | some body => return body

/-- `_require_multipart_tenant`. -/
def requireMultipartTenant (tenant : String) (record : UploadMeta) :
    Except PyException Unit :=
  if record.target.tenant = tenant then .ok ()
  else .error (tenantMismatch tenant record.target.tenant)

def requireOpen (record : UploadMeta) (message : String) :
    Except PyException Unit :=
  if record.status = .opened then .ok () else .error (.valueError message)

/-- The section of `upload_part`. -/
def uploadPartSection (tenant : String) (partNumber : Nat) (body : Bytes) :
    Program UploadDirs PyException MultipartReply := do
  enterLock uploadId
  let record ← readMeta uploadId
  Program.lift (requireMultipartTenant tenant record)
  Program.lift (requireOpen record "multipart upload is not open")
  writePart uploadId (partFile partNumber) body
  let part : PartRecord := ⟨sha256 body, body.length, partFile partNumber⟩
  writeMeta uploadId
    { record with parts := record.parts.insert partNumber part }
  return .part uploadId partNumber body.length (sha256 body)

/-- The bytes of one part, verified against its record. -/
def readVerified (parts : Dict Nat PartRecord) (partNumber : Nat) :
    Program UploadDirs PyException Bytes := do
  match parts.lookup partNumber with
  | none => Program.raise (.keyError (toString partNumber))
  | some record =>
      let data ← readPart uploadId record.file
      if data.length ≠ record.size ∨ sha256 data ≠ record.sha256 then
        Program.raise (.valueError
          ("multipart part verification failed: " ++ toString partNumber))
      else
        return data

/-- The first section of `complete_multipart_upload`. -/
def claimSection (tenant : String) :
    Program UploadDirs PyException (UploadMeta × Bytes) := do
  enterLock uploadId
  let record ← readMeta uploadId
  Program.lift (requireMultipartTenant tenant record)
  Program.lift (requireOpen record "multipart upload is already completing")
  if record.parts.entries.isEmpty then
    Program.raise (.valueError "multipart upload has no parts")
  else do
    let numbers := (record.parts.entries.map Prod.fst).insertionSort (· ≤ ·)
    let bodies ← Program.forEach numbers (readVerified uploadId record.parts)
    let completing := { record with status := .completing }
    writeMeta uploadId completing
    return (completing, bodies.flatten)

/-- The section after a failed put. -/
def reopenSection : Program UploadDirs PyException Unit := do
  enterLock uploadId
  let current ← readMeta uploadId
  writeMeta uploadId { current with status := .opened }

/-- The section of `_remove_multipart`. -/
def removeSection (tenant : String) (expectedStatus : UploadStatus) :
    Program UploadDirs PyException Unit := do
  enterLock uploadId
  let record ← readMeta uploadId
  Program.lift (requireMultipartTenant tenant record)
  if record.status ≠ expectedStatus then
    Program.raise (.valueError ("multipart upload must be " ++
      expectedStatus.text ++ " for cleanup"))
  else
    Program.modify fun uploads => uploads.insert uploadId { lockFile := true }

/-- `(root / ".multipart.lock").unlink(missing_ok=True)`. -/
def unlinkLock : Program UploadDirs PyException Unit :=
  Program.modify fun uploads =>
    match uploads.lookup uploadId with
    | none => uploads
    | some dir => uploads.insert uploadId { dir with lockFile := false }

/-- `root.rmdir()`. -/
def removeDir : Program UploadDirs PyException Unit := do
  let uploads ← Program.get
  match uploads.lookup uploadId with
  | none => Program.raise (.fileNotFound ("tmp/multipart/" ++ uploadId))
  | some dir =>
      if dir.isEmpty then
        Program.modify fun uploads => uploads.erase uploadId
      else
        Program.raise (.osError
          ("[Errno 39] Directory not empty: 'tmp/multipart/" ++ uploadId ++ "'"))

end Sections

/-! ## The steps of a call -/

section Steps

variable (host : Host)

/-- A step that raises ends its call. -/
def stageOf (step : Program MultipartState PyException Stage)
    (state : MultipartState) : Stage × MultipartState :=
  match step state with
  | (.ok stage, later) => (stage, later)
  | (.error error, later) => (.raised error, later)

def onUploads (body : Program UploadDirs PyException Stage) :
    Program MultipartState PyException Stage :=
  Program.focus MultipartState.uploadsLens body

/-- The test that the directory of an upload exists. -/
def findUpload (uploadId : String) (missing : Program UploadDirs PyException Stage) :
    Program MultipartState PyException Stage := onUploads do
  let root ← Program.lift (multipartDir uploadId)
  let uploads ← Program.get
  if uploads.contains root then return .admitted else missing

def createUpload (bucket key : String) :
    Program MultipartState PyException Stage :=
  if strip bucket = "" ∨ key = "" then
    Program.raise (.valueError "bucket and key are required")
  else do
    let uploadId ← Program.focus MultipartState.supplyLens (host.newId "mpu")
    let root ← Program.lift (multipartDir uploadId)
    onUploads do
      Program.modify fun uploads =>
        uploads.insert root ((uploads.lookup root).getD {})
      return .made root

/-- The first step of a call. -/
def enter (request : MultipartRequest) :
    Program MultipartState PyException Stage :=
  match request with
  | .create bucket key _ _ _ => createUpload host bucket key
  | .uploadPart uploadId partNumber _ =>
      if partNumber ≤ 0 ∨ partNumber > 10000 then
        Program.raise (.valueError "part_number must be between 1 and 10000")
      else findUpload uploadId (Program.raise (.keyError uploadId))
  | .complete uploadId =>
      findUpload uploadId (Program.raise (.keyError uploadId))
  | .abort uploadId =>
      findUpload uploadId (return .returned (.aborted uploadId))

/-- The put of a completing upload; a raise leads to the reopening. -/
def putAssembled (call : MultipartCall) (record : UploadMeta) (body : Bytes)
    (state : MultipartState) : Stage × MultipartState :=
  match putObject host call.session call.tenant (record.target.put body)
      state.gateway with
  | (.ok stored, gateway) =>
      (.stored stored record.parts.entries.length, { state with gateway })
  | (.error error, gateway) => (.failed error, { state with gateway })

/-- The step of a call from where it stands. -/
def advanceStage (call : MultipartCall) (stage : Stage)
    (state : MultipartState) : Stage × MultipartState :=
  match stage, call.request with
  | .entered, request => stageOf (enter host request) state
  | .made uploadId, .create bucket key nameSpace metadata tags =>
      stageOf (onUploads do
        writeMeta uploadId
          { target := ⟨call.tenant, bucket, key, nameSpace, metadata, tags⟩ }
        return .returned (.created uploadId bucket key)) state
  | .admitted, .uploadPart uploadId partNumber body =>
      stageOf (onUploads do
        let reply ← uploadPartSection uploadId call.tenant partNumber.toNat body
        return .returned reply) state
  | .admitted, .complete uploadId =>
      stageOf (onUploads do
        let (record, body) ← claimSection uploadId call.tenant
        return .claimed record body) state
  | .admitted, .abort uploadId =>
      stageOf (onUploads do
        removeSection uploadId call.tenant .opened
        return .cleared (.aborted uploadId)) state
  | .claimed record body, .complete _ => putAssembled host call record body state
  | .failed error, .complete uploadId =>
      stageOf (onUploads do
        reopenSection uploadId
        return .raised error) state
  | .stored stored parts, .complete uploadId =>
      stageOf (onUploads do
        removeSection uploadId call.tenant .completing
        return .cleared (.completed stored uploadId parts)) state
  | .cleared reply, .complete uploadId | .cleared reply, .abort uploadId =>
      stageOf (onUploads do
        unlinkLock uploadId
        return .unlocked reply) state
  | .unlocked reply, .complete uploadId | .unlocked reply, .abort uploadId =>
      stageOf (onUploads do
        removeDir uploadId
        return .returned reply) state
  | stage, _ => (stage, state)

def enterCall (call : MultipartCall) : RunningCall := ⟨call, .entered⟩

def advance (running : RunningCall) (state : MultipartState) :
    RunningCall × MultipartState :=
  let next := advanceStage host running.call running.stage state
  (⟨running.call, next.1⟩, next.2)

/-- One action of any calls of the adapters of one state directory. -/
def multipartStep :=
  Turns.step enterCall (advance host)

end Steps

end LocalS3Adapter

end Urp
