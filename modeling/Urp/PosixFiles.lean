import Urp.BackupRoundTrip
import Urp.PolicyNaming
import Urp.Refusals

/-!
# The file adapter

`POSIXAdapter.put_file` replaces a file and then executes it.  The files stand
outside of the state directory.
-/

namespace Urp

open Python Program

/-! ## Files -/

/-- A part of a path: no separator, no NUL and no name for the same place. -/
def isPathPart (part : String) : Bool :=
  part != "" && part != "." && !part.toList.contains '/' &&
    !part.toList.contains '\x00'

/-- A `pathlib` path. -/
structure PosixPath where
  absolute : Bool := false
  parts : List String
  named : ∀ part ∈ parts, isPathPart part = true

namespace PosixPath

/-- `str(path)`. -/
def str (path : PosixPath) : String :=
  if path.absolute then "/" ++ asPosix path.parts
  else if path.parts = [] then "."
  else asPosix path.parts

/-- `path.name`. -/
def name (path : PosixPath) : String := path.parts.getLast?.getD ""

end PosixPath

/-- The files below the root, and directories that are not there for a file
alone. -/
structure FileSystem where
  workingDirectory : StatePath := []
  tree : StateDirectory := ∅
  directories : List StatePath := []
  apart : ∀ directory ∈ directories, ∀ path ∈ tree.paths,
    ¬ path <+: directory

namespace FileSystem

variable (disk : FileSystem)

/-- Where the path leads. -/
def locate (path : PosixPath) : StatePath :=
  resolveNames (if path.absolute then [] else disk.workingDirectory) path.parts

/-- The content of the file at the path. -/
def content (path : PosixPath) : Option Bytes :=
  disk.tree.lookup (disk.locate path)

/-- `path.exists()`. -/
def pathExists (path : PosixPath) : Bool :=
  let location := disk.locate path
  decide (location = [] ∨ (∃ directory ∈ disk.directories,
    location <+: directory) ∨ ∃ file ∈ disk.tree.paths, location <+: file)

/-- `path.read_bytes()`. -/
def readBytes (path : PosixPath) : Except PyException Bytes :=
  match disk.content path with
  | some data => .ok data
  | none =>
      if disk.pathExists path then
        .error (.osError ("Is a directory: " ++ path.str))
      else .error (.fileNotFound path.str)

/-- Neither a directory nor a file is in the way of a file there. -/
def accepts (path : PosixPath) : Bool :=
  disk.tree.fits (disk.locate path) &&
    decide (∀ directory ∈ disk.directories,
      ¬ disk.locate path <+: directory)

def replaced (path : PosixPath) (data : Bytes)
    (accepted : disk.accepts path = true) : FileSystem where
  workingDirectory := disk.workingDirectory
  tree := disk.tree.insert (disk.locate path) data
    (Bool.and_eq_true_iff.mp accepted).1
  directories := disk.directories
  apart := by
    intro directory listed file member above
    obtain ⟨⟨_, written⟩, inEntries, rfl⟩ := List.mem_map.mp member
    rcases Entries.mem_of_mem_insert inEntries with same | old
    · cases same
      have free := of_decide_eq_true (Bool.and_eq_true_iff.mp accepted).2
      exact free directory listed above
    · exact disk.apart directory listed _ (List.mem_map_of_mem old) above

/-- `atomic_write_bytes(path, data)`. -/
def write (path : PosixPath) (data : Bytes) : Except PyException FileSystem :=
  if accepted : disk.accepts path = true then
    .ok (disk.replaced path data accepted)
  else .error (StateDirectory.pathInTheWay (disk.locate path))

end FileSystem

/-! ## The adapter -/

/-- What `os.stat` reports of a file besides its size. -/
structure FileStat where
  mode : Nat
  mtimeNs : Int

structure PosixState where
  disk : FileSystem
  gateway : Gateway := {}

namespace PosixState

def gatewayLens : Lens PosixState Gateway where
  get state := state.gateway
  set state gateway := { state with gateway }
  get_set _ _ := rfl

end PosixState

/-- The session and the tenant of an adapter, and what it is told of the files
that it executes. -/
structure POSIXAdapter where
  session : Session := {}
  tenant : String := "local"
  stat : PosixPath → Supply → FileStat

/-- The arguments of `put_file`. -/
structure FilePut where
  path : PosixPath
  data : Bytes
  nameSpace : String := "posix"
  overwrite : Bool := false

namespace POSIXAdapter

variable (host : Host) (adapter : POSIXAdapter)

def fileMetadata (path : PosixPath) (data : Bytes) (fileStat : FileStat) :
    Object :=
  .ofList [("path", .str path.str), ("name", .str path.name),
    ("mode", .int fileStat.mode), ("mtime_ns", .int fileStat.mtimeNs),
    ("size", .int data.length)]

/-- The work unit of a file that was read. -/
def fileWorkUnit (path : PosixPath) (nameSpace : String) (data : Bytes)
    (fileStat : FileStat) : Program Supply PyException WorkUnit := do
  let traceId ← host.newId "tr"
  let id ← host.newId "wu"
  let createdAt ← host.utcNow
  return {
    kind := .file
    tenant := adapter.tenant
    logicalRef := path.str
    payload := .bytes data
    nameSpace
    metadata := fileMetadata path data fileStat
    traceId, id, createdAt }

/-- `_work_unit_for_path`. -/
def workUnitForPath (path : PosixPath) (nameSpace : String) :
    Program PosixState PyException WorkUnit := do
  let state ← Program.get
  let data ← Program.lift (state.disk.readBytes path)
  Program.focus PosixState.gatewayLens (Program.focus Gateway.worldLens
    (Program.focus World.supplyLens (fileWorkUnit host adapter path nameSpace
      data (adapter.stat path state.gateway.supply))))

/-- `execute_file`. -/
def executeFile (path : PosixPath) (nameSpace : String) :
    Program PosixState PyException ExecutionResult := do
  let workUnit ← workUnitForPath host adapter path nameSpace
  Program.focus PosixState.gatewayLens
    (executeWorkUnit host { session := adapter.session, workUnit })

/-- `put_file`; a `FileExistsError` is an `OSError`. -/
def putFile (put : FilePut) : Program PosixState PyException ExecutionResult := do
  let state ← Program.get
  if state.disk.pathExists put.path && !put.overwrite then
    Program.raise (.osError put.path.str)
  else do
    let disk ← Program.lift (state.disk.write put.path put.data)
    Program.modify fun state => { state with disk }
    executeFile host adapter put.path put.nameSpace

/-- `write_file`. -/
def writeFile (put : FilePut) : Program PosixState PyException ExecutionResult :=
  putFile host adapter put

end POSIXAdapter

/-! ## One put -/

theorem FileSystem.content_replaced {disk : FileSystem} {path : PosixPath}
    {data : Bytes} (accepted : disk.accepts path = true) :
    (disk.replaced path data accepted).content path = some data :=
  Dict.lookup_insert_self _ _ _

theorem FileSystem.readBytes_of_content {disk : FileSystem} {path : PosixPath}
    {data : Bytes} (found : disk.content path = some data) :
    disk.readBytes path = .ok data := by
  simp only [readBytes, found]

/-- The put replaces the file: none is to be kept, and nothing is in the
way. -/
def FilePut.IsWritten (put : FilePut) (disk : FileSystem) : Prop :=
  (disk.pathExists put.path && !put.overwrite) = false ∧
    disk.accepts put.path = true

namespace POSIXAdapter

section Runs

variable (host : Host) (adapter : POSIXAdapter) (put : FilePut)

/-- The call of `execute_work_unit` that a put makes. -/
def fileCall (supply : Supply) : WorkUnitCall where
  session := adapter.session
  workUnit := {
    kind := .file
    tenant := adapter.tenant
    logicalRef := put.path.str
    payload := .bytes put.data
    nameSpace := put.nameSpace
    metadata := fileMetadata put.path put.data (adapter.stat put.path supply)
    traceId := host.idText "tr" supply.nextId
    id := host.idText "wu" (supply.nextId + 1)
    createdAt := host.isoformat (host.clock supply.tick) }

/-- The state directory after the work unit was made. -/
def drawn (gateway : Gateway) : Gateway :=
  Gateway.worldLens.set gateway (World.supplyLens.set gateway.world
    ⟨gateway.supply.nextId + 2, gateway.supply.tick + 1⟩)

/-- Executing a file reads it and makes its work unit. -/
theorem executeFile_run {state : PosixState}
    (found : state.disk.content put.path = some put.data)
    {result : Except PyException ExecutionResult} {later : Gateway}
    (run : executeWorkUnit host (fileCall host adapter put state.gateway.supply)
      (drawn state.gateway) = (result, later)) :
    executeFile host adapter put.path put.nameSpace state =
      (result, ⟨state.disk, later⟩) := by
  have made : workUnitForPath host adapter put.path put.nameSpace state =
      (.ok (fileCall host adapter put state.gateway.supply).workUnit,
        ⟨state.disk, drawn state.gateway⟩) := by
    unfold workUnitForPath
    rw [get_bind, FileSystem.readBytes_of_content found, lift_ok_bind]
    rfl
  unfold executeFile
  rw [bind_ok made]
  exact focus_of_run run

/-- A put that replaces the file goes on to execute it. -/
theorem putFile_run {state : PosixState} (accepted :
      state.disk.accepts put.path = true)
    (free : (state.disk.pathExists put.path && !put.overwrite) = false)
    {result : Except PyException ExecutionResult} {later : Gateway}
    (run : executeWorkUnit host (fileCall host adapter put state.gateway.supply)
      (drawn state.gateway) = (result, later)) :
    putFile host adapter put state =
      (result, ⟨state.disk.replaced put.path put.data accepted, later⟩) := by
  have wrote : state.disk.write put.path put.data =
      .ok (state.disk.replaced put.path put.data accepted) := dif_pos accepted
  unfold putFile
  rw [get_bind, if_neg (by rw [free]; exact Bool.false_ne_true), wrote,
    lift_ok_bind, modify_bind]
  exact executeFile_run host adapter put
    (FileSystem.content_replaced accepted) run

/-- Any other put leaves everything as it was. -/
theorem putFile_refused {state : PosixState}
    (refused : ¬ put.IsWritten state.disk) :
    ∃ error, putFile host adapter put state = (.error error, state) := by
  by_cases kept : (state.disk.pathExists put.path && !put.overwrite) = true
  · refine ⟨.osError put.path.str, ?_⟩
    unfold putFile
    rw [get_bind, if_pos kept]
    rfl
  · have blocked : ¬ state.disk.accepts put.path = true := fun accepted =>
      refused ⟨Bool.eq_false_iff.mpr kept, accepted⟩
    have wrote : state.disk.write put.path put.data =
        .error (StateDirectory.pathInTheWay (state.disk.locate put.path)) :=
      dif_neg blocked
    refine ⟨StateDirectory.pathInTheWay (state.disk.locate put.path), ?_⟩
    unfold putFile
    rw [get_bind, if_neg kept, wrote]
    rfl

end Runs

/-! ## Failed puts -/

/-- If the operation raises, the file at the path is as before. -/
def LeavesFile (operation : Program PosixState PyException ExecutionResult)
    (path : PosixPath) (state : PosixState) : Prop :=
  ∀ error later, operation state = (.error error, later) →
    later.disk.content path = state.disk.content path

section Failures

variable {host : Host} {adapter : POSIXAdapter} {put : FilePut}
variable {state : PosixState}

/-- A put that replaces the file leaves it alone exactly if the file had that
content already or is executed. -/
theorem leavesFile_of_written (written : put.IsWritten state.disk) :
    LeavesFile (putFile host adapter put) put.path state ↔
      state.disk.content put.path = some put.data ∨
      ∃ result later, executeWorkUnit host
        (fileCall host adapter put state.gateway.supply) (drawn state.gateway) =
          (.ok result, later) := by
  obtain ⟨free, accepted⟩ := written
  rcases ran : executeWorkUnit host
      (fileCall host adapter put state.gateway.supply) (drawn state.gateway)
    with ⟨error | result, later⟩
  · have run := putFile_run host adapter put accepted free ran
    have content := @FileSystem.content_replaced _ _ put.data accepted
    constructor
    · intro leaves
      have same := leaves error _ run
      exact .inl (same.symm.trans content)
    · rintro (same | ⟨result, _, impossible⟩) other final raised
      · rw [run] at raised
        cases raised
        exact content.trans same.symm
      · cases impossible
  · have run := putFile_run host adapter put accepted free ran
    refine iff_of_true ?_ (.inr ⟨result, later, rfl⟩)
    intro error final raised
    rw [run] at raised
    cases raised

end Failures

/-! ## A file that is overwritten -/

def notesPath : PosixPath where
  parts := ["notes.txt"]
  named := by decide

def notesDisk : FileSystem where
  tree := StateDirectory.insert ∅ ["notes.txt"] (utf8 "old".toList) (by decide)
  apart := by
    intro directory member
    cases member

def notesPut : FilePut where
  path := notesPath
  data := utf8 "new".toList
  overwrite := true

def notesAdapter : POSIXAdapter where
  stat _ _ := ⟨33188, 0⟩

/-- The policies after a bundle was published under which files need an
approval. -/
def approvalPolicies : PolicyFiles :=
  (PolicyBundleStore.publish Host.counting {} publishedApproval "operator"
    {}).2.files

def heldState : PosixState where
  disk := notesDisk
  gateway := { world := { policies := approvalPolicies } }

/-- The put raises, and the file has the new content. -/
def losesNotes : Bool :=
  match putFile Host.counting notesAdapter notesPut heldState with
  | (.error (.urp error), later) =>
      error.code == "policy_denied" &&
        later.disk.content notesPath == some (utf8 "new".toList)
  | _ => false

theorem losesNotes_eq : losesNotes = true := by
  decide +kernel

theorem content_notesDisk :
    notesDisk.content notesPath = some (utf8 "old".toList) := by
  decide +kernel

/-- `Host.counting` with identifiers of one length. -/
def cyclicHost : Host :=
  { Host.counting with uuid4 := fun k => Host.counting.uuid4 (k % 10 ^ 32) }

theorem dependable_cyclicHost : cyclicHost.Dependable where
  reliable :=
    { dateTime := Host.counting_reliable.dateTime
      nonempty := fun k => Host.counting_reliable.nonempty (k % 10 ^ 32)
      alphanumeric := fun k => Host.counting_reliable.alphanumeric (k % 10 ^ 32)
      scores := Host.counting_reliable.scores }
  codecs := ⟨Host.counting_codecs.zlib, Host.counting_codecs.zstandard⟩
  identifier k := Host.counting_identifier (Nat.mod_lt k (by decide))

def freeState : PosixState where
  disk := notesDisk

def notesCall : WorkUnitCall := fileCall cyclicHost notesAdapter notesPut {}

theorem notesCall_passes :
    (Passes (· = .enforce) (notesCall.checked cyclicHost) &&
      (notesCall.execution .enforce none).passesWith cyclicHost
        (fun _ => true)) = true := by
  decide +kernel

theorem notesCall_collisionFree {execution : Execution}
    (starts : notesCall.Starts cyclicHost {} execution) :
    CollisionFree (execution.puts cyclicHost ++ []) := by
  have passes := notesCall_passes
  rw [Bool.and_eq_true] at passes
  obtain ⟨chosen, checked, same⟩ := exists_of_passes passes.1
  obtain ⟨mode, bundle, modeChecked, found, rfl⟩ := starts
  rw [checked] at modeChecked
  cases modeChecked
  cases of_decide_eq_true same
  have none : bundle = none := by
    have resolved : (resolveActivePolicyBundle notesCall.session
      (policyName cyclicHost notesCall.workUnit) {}).1 = .ok none := rfl
    rw [resolved] at found
    exact (Except.ok.inj found).symm
  rw [none, List.append_nil]
  obtain ⟨_, _, admissible, -⟩ := Execution.admissible_of_passes passes.2
  exact admissible.collisionFree

end POSIXAdapter

end Urp
