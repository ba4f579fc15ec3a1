import Urp.MultipartRuns
import Urp.ObjectProgress

/-!
# A completing call alone

A call that completes an open upload of its tenant cannot get stuck.  If its
put returns and no other call comes between, it returns and the upload is
gone; if the put raises, it raises the same error and the upload is as it was
before, open and with all its parts.
-/

namespace Urp

open Python Program Assembly LocalS3Adapter

namespace Multipart

section Sections

variable {uploads : UploadDirs} {uploadId tenant : String}
variable {target : UploadTarget} {parts : Dict Nat Bytes}
variable {status expected : UploadStatus} {record : UploadMeta}

/-- A section on an upload with this `meta.json` runs on under the lock. -/
theorem locked_returns {α : Type}
    {next : UploadMeta → Program UploadDirs PyException α}
    {onReturn : α → UploadDirs → Prop}
    (read : (uploads.at uploadId).metaFile = some record)
    (goes : ∀ later, later.lookup uploadId =
        some { uploads.at uploadId with lockFile := true } →
      Ensures (next record) later onReturn fun _ _ => False) :
    Ensures (do enterLock uploadId; let record ← readMeta uploadId; next record)
      uploads onReturn fun _ _ => False := by
  let dir : UploadDir := { uploads.at uploadId with lockFile := true }
  have held : UploadDirs.at (uploads.insert uploadId dir) uploadId = dir := by
    rw [UploadDirs.at_insert, if_pos rfl]
  unfold enterLock
  rw [ensures_bind, ensures_modify, ensures_bind]
  apply ensures_readMeta.mono
  · rintro found _ ⟨rfl, here⟩
    have same : some record = some found :=
      read.symm.trans ((congrArg UploadDir.metaFile held).symm.trans here)
    cases same
    exact goes _ (Dict.lookup_insert_self _ _ _)
  · rintro _ _ ⟨rfl, missing⟩
    have same : some record = none :=
      read.symm.trans ((congrArg UploadDir.metaFile held).symm.trans missing)
    cases same

theorem at_of_lookup {dir : UploadDir}
    (found : uploads.lookup uploadId = some dir) : uploads.at uploadId = dir := by
  rw [UploadDirs.at, found]
  rfl

theorem ensures_lift_ok {σ ε α : Type} {result : Except ε α} {value : α} {s : σ}
    {onReturn : α → σ → Prop} {onRaise : ε → σ → Prop}
    (same : result = .ok value) (holds : onReturn value s) :
    Ensures (lift result) s onReturn onRaise := by
  rw [same]
  exact holds

/-- A part of the upload reads back verified. -/
theorem readVerified_returns (keeps : Keeps (uploads.at uploadId) status target parts)
    {partNumber : Nat} {body : Bytes}
    (held : parts.lookup partNumber = some body) :
    Ensures (readVerified uploadId (parts.map partRecord) partNumber) uploads
      (fun read later => later = uploads ∧ read = body) (fun _ _ => False) := by
  have listed : (parts.map partRecord).lookup partNumber =
      some (partRecord partNumber body) := by
    rw [Dict.lookup_map, held]
    rfl
  have found := keeps.partFiles partNumber body held
  unfold readVerified
  rw [listed]
  rw [ensures_bind]
  apply ensures_readPart.mono
  · rintro data _ ⟨rfl, read⟩
    have same : some body = some data := found.symm.trans read
    cases same
    rw [ensures_ite]
    constructor
    · rintro (short | other)
      · exact short rfl
      · exact other rfl
    · exact fun _ => ⟨rfl, rfl⟩
  · rintro _ _ ⟨-, missing⟩
    have same : some body = none := found.symm.trans missing
    cases same

/-- The claim of an open upload with parts. -/
theorem claimSection_returns
    (keeps : Keeps (uploads.at uploadId) .opened target parts)
    (owned : target.tenant = tenant) (filled : parts.entries ≠ []) :
    Ensures (claimSection uploadId tenant) uploads
      (fun claim later =>
        claim = (⟨target, parts.map partRecord, .completing⟩, assembled parts) ∧
          later.lookup uploadId = some ((uploads.at uploadId).withMeta
            ⟨target, parts.map partRecord, .completing⟩))
      (fun _ _ => False) := by
  let record : UploadMeta := ⟨target, parts.map partRecord, .opened⟩
  apply locked_returns keeps.metaFile
  intro locked found
  have locks := at_of_lookup found
  have kept : Keeps (locked.at uploadId) .opened target parts := by
    rw [locks]
    exact ⟨keeps.metaFile, keeps.reloaded, keeps.partFiles⟩
  have reads : ∀ partNumber ∈ partNumbers (parts.map partRecord),
      Ensures (readVerified uploadId (parts.map partRecord) partNumber) locked
        (fun body later => later = locked ∧
          parts.lookup partNumber = some body) (fun _ _ => False) := by
    intro partNumber member
    have listed : partNumber ∈ parts.entries.map Prod.fst := by
      rw [← Dict.keys_map partRecord]
      exact (List.perm_insertionSort _ _).mem_iff.mp member
    obtain ⟨⟨_, body⟩, present, rfl⟩ := List.mem_map.mp listed
    have held := (parts.mem_entries_iff _ _).mp present
    apply (readVerified_returns kept held).mono
    · rintro data later ⟨same, rfl⟩
      exact ⟨same, held⟩
    · exact fun _ _ impossible => impossible
  rw [ensures_bind]
  apply ensures_lift_ok (requireMultipartTenant_eq_ok_iff.mpr owned)
  rw [ensures_bind]
  apply ensures_lift_ok (requireOpen_eq_ok_iff.mpr rfl)
  rw [ensures_ite]
  constructor
  · intro empty
    rw [Dict.isEmpty_map, List.isEmpty_iff] at empty
    exact filled empty
  · intro _
    rw [ensures_bind]
    apply (ensures_forEach_reads reads).mono
    · rintro bodies later ⟨rfl, all⟩
      have numbers : partNumbers (parts.map partRecord) = partNumbers parts := by
        unfold partNumbers
        rw [Dict.keys_map]
      rw [numbers] at all
      unfold writeMeta
      rw [ensures_bind, ensures_modify]
      refine ⟨?_, ?_⟩
      · rw [flatten_of_lookups all]
      · rw [Dict.lookup_insert_self, found]
        rfl
    · exact fun _ _ impossible => impossible

theorem reopenSection_returns
    (read : (uploads.at uploadId).metaFile = some record) :
    Ensures (reopenSection uploadId) uploads
      (fun _ later => later.lookup uploadId =
        some ((uploads.at uploadId).withMeta { record with status := .opened }))
      (fun _ _ => False) := by
  apply locked_returns read
  intro locked found
  unfold writeMeta
  rw [ensures_modify, Dict.lookup_insert_self, found]
  rfl

theorem removeSection_returns
    (read : (uploads.at uploadId).metaFile = some record)
    (owned : record.target.tenant = tenant) (status : record.status = expected) :
    Ensures (removeSection uploadId tenant expected) uploads
      (fun _ later => later.lookup uploadId = some { lockFile := true })
      (fun _ _ => False) := by
  apply locked_returns read
  intro locked found
  rw [ensures_bind]
  apply ensures_lift_ok (requireMultipartTenant_eq_ok_iff.mpr owned)
  rw [ensures_ite]
  constructor
  · exact fun other => other status
  · intro _
    rw [ensures_modify]
    exact Dict.lookup_insert_self _ _ _

theorem unlinkLock_returns {dir : UploadDir}
    (found : uploads.lookup uploadId = some dir) :
    Ensures (unlinkLock uploadId) uploads
      (fun _ later => later.lookup uploadId = some { dir with lockFile := false })
      (fun _ _ => False) := by
  unfold unlinkLock
  rw [ensures_modify]
  simp only [found]
  exact Dict.lookup_insert_self _ _ _

theorem removeDir_returns {dir : UploadDir}
    (found : uploads.lookup uploadId = some dir) (empty : dir.isEmpty = true) :
    Ensures (removeDir uploadId) uploads
      (fun _ later => later.lookup uploadId = none) (fun _ _ => False) := by
  unfold removeDir
  rw [ensures_bind, ensures_get]
  simp only [found]
  rw [ensures_ite]
  refine ⟨fun _ => ?_, fun full => full empty⟩
  rw [ensures_modify, Dict.lookup_erase, if_pos rfl]

end Sections

/-! ## The steps of the call -/

section Steps

variable {host : Host} {call : MultipartCall} {state : MultipartState}
variable {uploadId : String}

/-- A body that returns leads to its stage. -/
theorem stageOf_onUploads {α : Type} {body : Program UploadDirs PyException α}
    {wrap : α → Stage} {holds : α → UploadDirs → Prop}
    (returns : Ensures body state.uploads holds fun _ _ => False) :
    ∃ value uploads, holds value uploads ∧
      stageOf (onUploads do let value ← body; return wrap value) state =
        (wrap value, { state with uploads }) := by
  obtain ⟨value, uploads, run, held⟩ := returns.returns
  refine ⟨value, uploads, held, ?_⟩
  have whole : (do let value ← body; return wrap value : Program UploadDirs
      PyException Stage) state.uploads = (.ok (wrap value), uploads) :=
    bind_ok run
  unfold stageOf onUploads
  rw [focus_of_run whole]
  rfl

theorem alone_succ {turns : Nat} {stage next : Stage} {later : MultipartState}
    (step : advanceStage host call stage state = (next, later)) :
    Turns.alone (advance host) (turns + 1) (⟨call, stage⟩, state) =
      Turns.alone (advance host) turns (⟨call, next⟩, later) := by
  simp only [Turns.alone, advance, step]

variable {target : UploadTarget} {parts : Dict Nat Bytes}

/-- The claim of an open upload of the call's tenant. -/
theorem turn_claim (request : call.request = .complete uploadId)
    (keeps : Keeps (state.uploads.at uploadId) .opened target parts)
    (owned : target.tenant = call.tenant) (filled : parts.entries ≠ []) :
    ∃ uploads,
      uploads.lookup uploadId = some ((state.uploads.at uploadId).withMeta
        ⟨target, parts.map partRecord, .completing⟩) ∧
      advanceStage host call .admitted state =
        (.claimed ⟨target, parts.map partRecord, .completing⟩ (assembled parts),
          { state with uploads }) := by
  simp only [advanceStage, request]
  obtain ⟨claim, uploads, ⟨rfl, found⟩, run⟩ := @stageOf_onUploads state _ _
    (fun claim => Stage.claimed claim.1 claim.2) _
    (claimSection_returns keeps owned filled)
  exact ⟨uploads, found, run⟩

/-- A claimed upload whose put returned is gone after three more turns. -/
theorem alone_stored (request : call.request = .complete uploadId)
    {stored : StoredObject} {count : Nat} {record : UploadMeta}
    (read : (state.uploads.at uploadId).metaFile = some record)
    (owned : record.target.tenant = call.tenant)
    (status : record.status = .completing) :
    ∃ uploads, uploads.lookup uploadId = none ∧
      Turns.alone (advance host) 3 (⟨call, .stored stored count⟩, state) =
        (⟨call, .returned (.completed stored uploadId count)⟩,
          { state with uploads }) := by
  let reply : MultipartReply := .completed stored uploadId count
  obtain ⟨_, cleared, lockOnly, clears⟩ := @stageOf_onUploads state _ _
    (fun _ => Stage.cleared reply) _
    (removeSection_returns read owned status)
  obtain ⟨_, unlocked, empty, unlocks⟩ := @stageOf_onUploads
    { state with uploads := cleared } _ _ (fun _ => Stage.unlocked reply) _
    (unlinkLock_returns lockOnly)
  obtain ⟨_, removed, gone, removes⟩ := @stageOf_onUploads
    { state with uploads := unlocked } _ _ (fun _ => Stage.returned reply) _
    (removeDir_returns empty rfl)
  refine ⟨removed, gone, ?_⟩
  have first : advanceStage host call (.stored stored count) state =
      (.cleared reply, { state with uploads := cleared }) := by
    simp only [advanceStage, request]
    exact clears
  have second : advanceStage host call (.cleared reply)
      { state with uploads := cleared } =
        (.unlocked reply, { state with uploads := unlocked }) := by
    simp only [advanceStage, request]
    exact unlocks
  have third : advanceStage host call (.unlocked reply)
      { state with uploads := unlocked } =
        (.returned reply, { state with uploads := removed }) := by
    simp only [advanceStage, request]
    exact removes
  rw [alone_succ first, alone_succ second, alone_succ third]
  rfl

/-- A claimed upload whose put raised is open again after one more turn. -/
theorem alone_failed (request : call.request = .complete uploadId)
    {error : PyException} {record : UploadMeta}
    (read : (state.uploads.at uploadId).metaFile = some record) :
    ∃ uploads,
      uploads.lookup uploadId = some ((state.uploads.at uploadId).withMeta
        { record with status := .opened }) ∧
      Turns.alone (advance host) 1 (⟨call, .failed error⟩, state) =
        (⟨call, .raised error⟩, { state with uploads }) := by
  obtain ⟨_, uploads, found, run⟩ := @stageOf_onUploads state _ _
    (fun _ => Stage.raised error) _ (reopenSection_returns read)
  refine ⟨uploads, found, ?_⟩
  have step : advanceStage host call (.failed error) state =
      (.raised error, { state with uploads }) := by
    simp only [advanceStage, request]
    exact run
  rw [alone_succ step]
  rfl

end Steps

/-! ## From any reachable state -/

/-- What the turns of a call that found an open upload come to when no other
call takes one: the put decides. -/
def Decides (host : Host) (index : Nat) (call : MultipartCall)
    (uploadId : String) (record : UploadMeta) (body : Bytes)
    (system : Turns.System MultipartState RunningCall) : Prop :=
  let run := putObject host call.session call.tenant (record.target.put body)
    system.shared.gateway
  let after := fun turns => Run.final (multipartStep host) system
    (List.replicate turns (.turn index))
  match run with
  | (.ok stored, gateway) =>
      (after 5).calls[index]? = some ⟨call, .returned (.completed stored uploadId
          record.parts.entries.length)⟩ ∧
        (after 5).shared.uploads.lookup uploadId = none ∧
        (after 5).shared.gateway = gateway
  | (.error error, gateway) =>
      (after 3).calls[index]? = some ⟨call, .raised error⟩ ∧
        (after 3).shared.uploads.at uploadId =
          { system.shared.uploads.at uploadId with lockFile := true } ∧
        (after 3).shared.gateway = gateway

theorem decides_of_keeps {host : Host} {index : Nat} {call : MultipartCall}
    {uploadId : String} {target : UploadTarget} {parts : Dict Nat Bytes}
    {system : Turns.System MultipartState RunningCall}
    (request : call.request = .complete uploadId)
    (present : system.calls[index]? = some ⟨call, .admitted⟩)
    (keeps : Keeps (system.shared.uploads.at uploadId) .opened target parts)
    (owned : target.tenant = call.tenant) (filled : parts.entries ≠ []) :
    Decides host index call uploadId ⟨target, parts.map partRecord, .opened⟩
      (assembled parts) system := by
  let record : UploadMeta := ⟨target, parts.map partRecord, .completing⟩
  obtain ⟨uploads, found, claims⟩ := turn_claim request keeps owned filled
  have inside := (List.getElem?_eq_some_iff.mp present).1
  have read : (uploads.at uploadId).metaFile = some record := by
    rw [at_of_lookup found]
    exact (keeps.withMeta .completing).metaFile
  have last : ∀ turns, Run.final (multipartStep host) system
      (List.replicate turns (.turn index)) = _ :=
    Turns.final_replicate_turn present
  unfold Decides
  rcases run : putObject host call.session call.tenant
      (target.put (assembled parts)) system.shared.gateway with
    ⟨error | stored, gateway⟩
  · have puts : advanceStage host call (.claimed record (assembled parts))
        { system.shared with uploads } = (.failed error, ⟨uploads, gateway⟩) := by
      simp only [advanceStage, request]
      exact @putAssembled_error _ _ _ record _ _ _ run
    obtain ⟨reopened, reopens, ends⟩ := @alone_failed host call ⟨uploads, gateway⟩
      uploadId request error record read
    have whole : Turns.alone (advance host) 3 (⟨call, .admitted⟩, system.shared) =
        (⟨call, .raised error⟩, ⟨reopened, gateway⟩) := by
      rw [alone_succ claims, alone_succ puts, ends]
    simp only [last 3, whole]
    refine ⟨List.getElem?_set_self inside, ?_, trivial⟩
    rw [at_of_lookup reopens, at_of_lookup found]
    simp only [record, UploadDir.withMeta, UploadMeta.reloaded, keeps.reloaded,
      keeps.metaFile]
  · have puts : advanceStage host call (.claimed record (assembled parts))
        { system.shared with uploads } =
          (.stored stored record.parts.entries.length, ⟨uploads, gateway⟩) := by
      simp only [advanceStage, request]
      exact @putAssembled_ok _ _ _ record _ _ _ run
    obtain ⟨removed, gone, ends⟩ := @alone_stored host call ⟨uploads, gateway⟩
      uploadId request stored record.parts.entries.length record read owned rfl
    have whole : Turns.alone (advance host) 5 (⟨call, .admitted⟩, system.shared) =
        (⟨call, .returned (.completed stored uploadId
          record.parts.entries.length)⟩, ⟨removed, gateway⟩) := by
      rw [alone_succ claims, alone_succ puts, ends]
    simp only [last 5, whole]
    exact ⟨List.getElem?_set_self inside, gone, trivial⟩

/-- A call that found an open upload of its tenant with parts puts what was
acknowledged, and the put decides whether the upload is gone or as before. -/
theorem complete_decides {host : Host} (fresh : Function.Injective host.uuid4)
    (gateway : Gateway) (actions : List (Turns.Action MultipartCall))
    {index : Nat} {call : MultipartCall} {uploadId : String}
    {record : UploadMeta} (request : call.request = .complete uploadId)
    (present : (Run.final (multipartStep host) (startOf gateway)
      actions).calls[index]? = some ⟨call, .admitted⟩)
    (read : ((Run.final (multipartStep host) (startOf gateway)
      actions).shared.uploads.at uploadId).metaFile = some record)
    (isOpen : record.status = .opened)
    (owned : record.target.tenant = call.tenant)
    (filled : record.parts.entries ≠ []) :
    Decides host index call uploadId record
      (assembled (Dict.ofList
        (acknowledged uploadId (runVisits host gateway actions))))
      (Run.final (multipartStep host) (startOf gateway) actions) := by
  obtain ⟨lives, follows⟩ := follows_run fresh gateway actions
  generalize Run.final (multipartStep host) (startOf gateway) actions = system
    at follows present read ⊢
  obtain ⟨target, parts, life, rfl, keeps⟩ :=
    (follows.shows uploadId).opened read isOpen
  have told := (follows.leads uploadId).tells
  rw [life] at told
  cases told with
  | opened opened =>
      have held : Dict.ofList (acknowledged uploadId
          (runVisits host gateway actions)) = parts := opened.parts.symm
      rw [held]
      have some : parts.entries ≠ [] := by
        intro empty
        apply filled
        simp only [Dict.map, empty, List.map_nil]
      exact decides_of_keeps request present keeps owned some

/-! ## A fixed run -/

def sampleCall (request : MultipartRequest) : MultipartCall :=
  { tenant := "acme", request }

def sampleUpload : String := Host.counting.idText "mpu" 0

/-- Two parts, the second one first, and a completing call that found the
upload. -/
def sampleActions : List (Turns.Action MultipartCall) :=
  [.begin (sampleCall (.create "docs" "a" "s3" ∅ ∅)), .turn 0, .turn 0,
    .begin (sampleCall (.uploadPart sampleUpload 2 [105])),
    .begin (sampleCall (.uploadPart sampleUpload 1 [104])),
    .turn 1, .turn 2, .turn 1, .turn 2,
    .begin (sampleCall (.complete sampleUpload)), .turn 3]

def sampleRecord : UploadMeta where
  target := ⟨"acme", "docs", "a", "s3", ∅, ∅⟩
  parts := .ofList [(2, partRecord 2 [105]), (1, partRecord 1 [104])]

theorem sampleActions_present :
    (Run.final (multipartStep Host.counting) (startOf {}) sampleActions).calls[3]? =
      some ⟨sampleCall (.complete sampleUpload), .admitted⟩ := rfl

theorem sampleActions_read :
    ((Run.final (multipartStep Host.counting) (startOf {})
      sampleActions).shared.uploads.at sampleUpload).metaFile =
        some sampleRecord := rfl

theorem complete_decides_sample :
    Decides Host.counting 3 (sampleCall (.complete sampleUpload)) sampleUpload
      sampleRecord [104, 105]
      (Run.final (multipartStep Host.counting) (startOf {}) sampleActions) :=
  complete_decides Host.counting_fresh {} sampleActions rfl sampleActions_present
    sampleActions_read rfl rfl (by decide)

end Multipart

end Urp
