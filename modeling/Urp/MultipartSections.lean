import Urp.Library.DictMap
import Urp.Multipart

/-!
# Sections of the multipart calls

What each section does to the directory of its own upload.  No section
touches another upload, and one that raises leaves at most the lock file.
-/

namespace Urp

open Python Program

/-- The directory of an upload; a missing one holds nothing. -/
def UploadDirs.at (uploads : UploadDirs) (uploadId : String) : UploadDir :=
  (uploads.lookup uploadId).getD {}

/-- The directory of this upload is now as given, and the others are as they
were. -/
def UploadDirs.Rewrites (uploads later : UploadDirs) (uploadId : String)
    (dir : UploadDir) : Prop :=
  ∀ other, later.at other = if uploadId = other then dir else uploads.at other

/-- At most the lock file is new. -/
def UploadDirs.Locks (uploads later : UploadDirs) (uploadId : String) : Prop :=
  uploads.Rewrites later uploadId { uploads.at uploadId with lockFile := true }

section Rewrites

variable {uploads middle later : UploadDirs} {uploadId : String}
variable {dir next : UploadDir}

theorem UploadDirs.at_insert (uploads : UploadDirs) (uploadId other : String)
    (dir : UploadDir) :
    UploadDirs.at (uploads.insert uploadId dir) other =
      if uploadId = other then dir else uploads.at other := by
  unfold UploadDirs.at
  rw [Dict.lookup_insert]
  split <;> rfl

theorem UploadDirs.Rewrites.trans
    (first : uploads.Rewrites middle uploadId dir)
    (second : middle.Rewrites later uploadId next) :
    uploads.Rewrites later uploadId next := by
  intro other
  rw [second other, first other]
  split <;> rfl

theorem UploadDirs.Rewrites.at_eq
    (rewrites : uploads.Rewrites later uploadId dir) :
    later.at uploadId = dir := by
  rw [rewrites uploadId, if_pos rfl]

theorem UploadDirs.rewrites_insert (uploads : UploadDirs) (uploadId : String)
    (dir : UploadDir) :
    uploads.Rewrites (uploads.insert uploadId dir) uploadId dir :=
  fun other => uploads.at_insert uploadId other dir

end Rewrites

/-- The record of a part. -/
def partRecord (partNumber : Nat) (body : Bytes) : PartRecord :=
  ⟨sha256 body, body.length, partFile partNumber⟩

/-- The files of an upload after a part. -/
def UploadDir.withPart (dir : UploadDir) (record : UploadMeta)
    (partNumber : Nat) (body : Bytes) : UploadDir :=
  let parts := record.parts.insert partNumber (partRecord partNumber body)
  { metaFile := some { record with parts }.reloaded
    lockFile := true
    partFiles := dir.partFiles.insert (partFile partNumber) body }

/-- The files of an upload under the lock with another `meta.json`. -/
def UploadDir.withMeta (dir : UploadDir) (record : UploadMeta) : UploadDir :=
  { dir with metaFile := some record.reloaded, lockFile := true }

theorem UploadDir.eq_of_isEmpty {dir : UploadDir} (empty : dir.isEmpty = true) :
    dir = {} := by
  obtain ⟨metaFile, lockFile, entries, distinct⟩ := dir
  simp only [UploadDir.isEmpty, Bool.and_eq_true, Option.isNone_iff_eq_none,
    Bool.not_eq_true', List.isEmpty_iff] at empty
  obtain ⟨⟨rfl, rfl⟩, rfl⟩ := empty
  rfl

/-- A sequence of reads, one for each item. -/
theorem ensures_forEach_reads {σ ε α β : Type} {items : List α}
    {body : α → Program σ ε β} {s : σ} {holds : α → β → Prop}
    {fails : ε → σ → Prop}
    (each : ∀ item ∈ items, Ensures (body item) s
      (fun value later => later = s ∧ holds item value) fails) :
    Ensures (forEach items body) s
      (fun values later => later = s ∧ List.Forall₂ holds items values)
      fails := by
  induction items with
  | nil => exact ⟨rfl, .nil⟩
  | cons item rest ih =>
      rw [forEach, ensures_bind]
      apply (each item List.mem_cons_self).mono
      · rintro value _ ⟨rfl, held⟩
        rw [ensures_bind]
        apply (ih fun other member =>
          each other (List.mem_cons_of_mem _ member)).mono
        · rintro values _ ⟨rfl, all⟩
          exact ⟨rfl, .cons held all⟩
        · exact fun _ _ failed => failed
      · exact fun _ _ failed => failed

namespace LocalS3Adapter

section Specs

variable {uploads : UploadDirs} {uploadId : String}

theorem ensures_enterLock :
    Ensures (enterLock uploadId) uploads
      (fun _ later => uploads.Locks later uploadId) (fun _ _ => False) :=
  uploads.rewrites_insert uploadId _

theorem ensures_readMeta :
    Ensures (readMeta uploadId) uploads
      (fun record later => later = uploads ∧
        (uploads.at uploadId).metaFile = some record)
      (fun _ later => later = uploads ∧
        (uploads.at uploadId).metaFile = none) := by
  have read : (uploads.lookup uploadId).bind UploadDir.metaFile =
      (uploads.at uploadId).metaFile := by
    unfold UploadDirs.at
    cases uploads.lookup uploadId <;> rfl
  unfold readMeta
  rw [ensures_bind, ensures_get, read]
  cases found : (uploads.at uploadId).metaFile with
  | none => exact ⟨rfl, rfl⟩
  | some record => exact ⟨rfl, rfl⟩

theorem ensures_writeMeta {record : UploadMeta} :
    Ensures (writeMeta uploadId record) uploads
      (fun _ later => uploads.Rewrites later uploadId
        { uploads.at uploadId with metaFile := some record.reloaded })
      (fun _ _ => False) :=
  uploads.rewrites_insert uploadId _

theorem ensures_writePart {name : String} {body : Bytes} :
    Ensures (writePart uploadId name body) uploads
      (fun _ later => uploads.Rewrites later uploadId
        { uploads.at uploadId with
          partFiles := (uploads.at uploadId).partFiles.insert name body })
      (fun _ _ => False) :=
  uploads.rewrites_insert uploadId _

/-- The sections begin with the lock and the reading of `meta.json`. -/
theorem ensures_locked {α : Type}
    {next : UploadMeta → Program UploadDirs PyException α}
    {onReturn : α → UploadDirs → Prop} {onRaise : PyException → UploadDirs → Prop}
    (missing : (uploads.at uploadId).metaFile = none →
      ∀ error later, uploads.Locks later uploadId → onRaise error later)
    (found : ∀ record later, uploads.Locks later uploadId →
      (uploads.at uploadId).metaFile = some record →
      Ensures (next record) later onReturn onRaise) :
    Ensures (do enterLock uploadId; let record ← readMeta uploadId; next record)
      uploads onReturn onRaise := by
  rw [ensures_bind]
  apply ensures_enterLock.mono
  · intro _ locked locks
    rw [ensures_bind]
    apply ensures_readMeta.mono
    · rintro record _ ⟨rfl, read⟩
      rw [locks.at_eq] at read
      exact found record _ locks read
    · rintro error _ ⟨rfl, read⟩
      rw [locks.at_eq] at read
      exact missing read error _ locks
  · exact fun _ _ impossible => impossible.elim

theorem requireMultipartTenant_eq_ok_iff {tenant : String}
    {record : UploadMeta} :
    requireMultipartTenant tenant record = .ok () ↔
      record.target.tenant = tenant := by
  unfold requireMultipartTenant
  split <;> simp_all

theorem requireOpen_eq_ok_iff {record : UploadMeta} {message : String} :
    requireOpen record message = .ok () ↔ record.status = .opened := by
  unfold requireOpen
  split <;> simp_all

theorem ensures_uploadPartSection {tenant : String} {partNumber : Nat}
    {body : Bytes} :
    Ensures (uploadPartSection uploadId tenant partNumber body) uploads
      (fun _ later => ∃ record,
        (uploads.at uploadId).metaFile = some record ∧
          record.target.tenant = tenant ∧ record.status = .opened ∧
          uploads.Rewrites later uploadId
            ((uploads.at uploadId).withPart record partNumber body))
      (fun _ later => uploads.Locks later uploadId) := by
  apply ensures_locked
  · exact fun _ _ _ locks => locks
  · intro record locked locks read
    rw [ensures_bind, ensures_lift]
    refine ⟨fun _ owned => ?_, fun _ _ => locks⟩
    rw [ensures_bind, ensures_lift]
    refine ⟨fun _ isOpen => ?_, fun _ _ => locks⟩
    rw [ensures_bind]
    apply ensures_writePart.mono
    · intro _ written writes
      rw [locks.at_eq] at writes
      rw [ensures_bind]
      apply ensures_writeMeta.mono
      · intro _ later records
        rw [writes.at_eq] at records
        exact ⟨record, read, requireMultipartTenant_eq_ok_iff.mp owned,
          requireOpen_eq_ok_iff.mp isOpen, (locks.trans writes).trans records⟩
      · exact fun _ _ impossible => impossible.elim
    · exact fun _ _ impossible => impossible.elim

theorem ensures_readPart {name : String} :
    Ensures (readPart uploadId name) uploads
      (fun body later => later = uploads ∧
        (uploads.at uploadId).partFiles.lookup name = some body)
      (fun _ later => later = uploads ∧
        (uploads.at uploadId).partFiles.lookup name = none) := by
  have read : ((uploads.lookup uploadId).bind fun dir =>
      dir.partFiles.lookup name) =
        (uploads.at uploadId).partFiles.lookup name := by
    unfold UploadDirs.at
    cases uploads.lookup uploadId <;> rfl
  unfold readPart
  rw [ensures_bind, ensures_get, read]
  cases found : (uploads.at uploadId).partFiles.lookup name with
  | none => exact ⟨rfl, rfl⟩
  | some body => exact ⟨rfl, rfl⟩

theorem ensures_readVerified {parts : Dict Nat PartRecord} {partNumber : Nat} :
    Ensures (readVerified uploadId parts partNumber) uploads
      (fun body later => later = uploads ∧ ∃ record,
        parts.lookup partNumber = some record ∧
          (uploads.at uploadId).partFiles.lookup record.file = some body)
      (fun _ later => later = uploads) := by
  unfold readVerified
  cases parts.lookup partNumber with
  | none => exact rfl
  | some record =>
      rw [ensures_bind]
      apply ensures_readPart.mono
      · rintro body _ ⟨rfl, found⟩
        rw [ensures_ite]
        exact ⟨fun _ => rfl, fun _ => ⟨rfl, record, rfl, found⟩⟩
      · exact fun _ _ missing => missing.1

/-- The numbers of the parts in ascending order. -/
def partNumbers {α : Type} (parts : Dict Nat α) : List Nat :=
  (parts.entries.map Prod.fst).insertionSort (· ≤ ·)

/-- The body of a part as its record finds it. -/
def Finds (dir : UploadDir) (parts : Dict Nat PartRecord) (partNumber : Nat)
    (body : Bytes) : Prop :=
  ∃ record, parts.lookup partNumber = some record ∧
    dir.partFiles.lookup record.file = some body

theorem ensures_claimSection {tenant : String} :
    Ensures (claimSection uploadId tenant) uploads
      (fun claim later => ∃ record bodies,
        (uploads.at uploadId).metaFile = some record ∧
          record.target.tenant = tenant ∧ record.status = .opened ∧
          claim = ({ record with status := .completing }, bodies.flatten) ∧
          List.Forall₂ (Finds (uploads.at uploadId) record.parts)
            (partNumbers record.parts) bodies ∧
          uploads.Rewrites later uploadId ((uploads.at uploadId).withMeta
            { record with status := .completing }))
      (fun _ later => uploads.Locks later uploadId) := by
  apply ensures_locked
  · exact fun _ _ _ locks => locks
  · intro record locked locks read
    rw [ensures_bind, ensures_lift]
    refine ⟨fun _ owned => ?_, fun _ _ => locks⟩
    rw [ensures_bind, ensures_lift]
    refine ⟨fun _ isOpen => ?_, fun _ _ => locks⟩
    rw [ensures_ite]
    refine ⟨fun _ => locks, fun _ => ?_⟩
    rw [ensures_bind]
    apply (ensures_forEach_reads fun partNumber _ => ensures_readVerified).mono
    · rintro bodies _ ⟨rfl, found⟩
      rw [ensures_bind]
      apply ensures_writeMeta.mono
      · intro _ later records
        rw [locks.at_eq] at records found
        exact ⟨record, bodies, read, requireMultipartTenant_eq_ok_iff.mp owned,
          requireOpen_eq_ok_iff.mp isOpen, rfl, found, locks.trans records⟩
      · exact fun _ _ impossible => impossible.elim
    · rintro error _ rfl
      exact locks

theorem ensures_reopenSection :
    Ensures (reopenSection uploadId) uploads
      (fun _ later => ∃ record,
        (uploads.at uploadId).metaFile = some record ∧
          uploads.Rewrites later uploadId ((uploads.at uploadId).withMeta
            { record with status := .opened }))
      (fun _ _ => (uploads.at uploadId).metaFile = none) := by
  apply ensures_locked
  · exact fun missing _ _ _ => missing
  · intro record locked locks read
    apply ensures_writeMeta.mono
    · intro _ later records
      rw [locks.at_eq] at records
      exact ⟨record, read, locks.trans records⟩
    · exact fun _ _ impossible => impossible.elim

theorem ensures_removeSection {tenant : String} {expected : UploadStatus} :
    Ensures (removeSection uploadId tenant expected) uploads
      (fun _ later => ∃ record,
        (uploads.at uploadId).metaFile = some record ∧
          record.target.tenant = tenant ∧ record.status = expected ∧
          uploads.Rewrites later uploadId { lockFile := true })
      (fun _ later => uploads.Locks later uploadId) := by
  apply ensures_locked
  · exact fun _ _ _ locks => locks
  · intro record locked locks read
    rw [ensures_bind, ensures_lift]
    refine ⟨fun _ owned => ?_, fun _ _ => locks⟩
    rw [ensures_ite]
    refine ⟨fun _ => locks, fun same => ?_⟩
    exact ⟨record, read, requireMultipartTenant_eq_ok_iff.mp owned,
      not_not.mp same, locks.trans (locked.rewrites_insert uploadId _)⟩

theorem ensures_unlinkLock :
    Ensures (unlinkLock uploadId) uploads
      (fun _ later => uploads.Rewrites later uploadId
        { uploads.at uploadId with lockFile := false })
      (fun _ _ => False) := by
  unfold unlinkLock
  rw [ensures_modify]
  cases found : uploads.lookup uploadId with
  | none =>
      have empty : uploads.at uploadId = {} := by
        rw [UploadDirs.at, found]
        rfl
      intro other
      rw [empty]
      by_cases same : uploadId = other
      · rw [if_pos same, ← same]
        exact empty
      · rw [if_neg same]
  | some dir =>
      have read : uploads.at uploadId = dir := by
        rw [UploadDirs.at, found]
        rfl
      rw [read]
      exact uploads.rewrites_insert uploadId _

/-- Only an empty directory is removed. -/
theorem ensures_removeDir :
    Ensures (removeDir uploadId) uploads
      (fun _ later => ∀ other, later.at other = uploads.at other)
      (fun _ later => later = uploads) := by
  unfold removeDir
  rw [ensures_bind, ensures_get]
  cases found : uploads.lookup uploadId with
  | none => exact rfl
  | some dir =>
      rw [ensures_ite]
      refine ⟨fun empty => ?_, fun _ => rfl⟩
      intro other
      unfold UploadDirs.at
      rw [Dict.lookup_erase]
      split
      · next same =>
          rw [← same, found, UploadDir.eq_of_isEmpty empty]
          rfl
      · rfl

end Specs

end LocalS3Adapter

end Urp
