import Mathlib.Data.Finset.Sort
import Urp.Encoding

/-!
# The exact cache

`URPCache` over its two backends: entries in memory, or the rows of the
SQLite table `exact_cache`, whose values are JSON text.
-/

namespace Urp

open Python

structure CacheEntry where
  key : String
  tenant : String
  nameSpace : String
  value : Value
  sourceFingerprints : Finset String := ∅
  verifierPassed : Bool := false
  expiresAt : Option ℚ := none

/-- A row without its key.  The column `verifier_passed` is always 1. -/
structure CacheRow where
  tenant : String
  nameSpace : String
  valueJson : List Char
  sourceFingerprintsJson : List Char
  expiresAt : Option ℚ
  createdAt : ℚ

inductive CacheBackend where
  | memory (entries : Dict String CacheEntry)
  | sqlite (rows : Dict String CacheRow)

def CacheBackend.erase (backend : CacheBackend) (key : String) : CacheBackend :=
  match backend with
  | .memory entries => .memory (entries.erase key)
  | .sqlite rows => .sqlite (rows.erase key)

structure CacheState where
  backend : CacheBackend := .memory ∅
  supply : Supply := {}

namespace CacheState

def supplyLens : Lens CacheState Supply where
  get state := state.supply
  set state supply := { state with supply }
  get_set _ _ := rfl

end CacheState

/-- `json.dumps(sorted(fingerprints), separators=(",", ":"))`. -/
def fingerprintsValue (fingerprints : Finset String) : Value :=
  .list ((fingerprints.sort (· ≤ ·)).map .str)

/-- `set(items)` of a list of strings. -/
def fingerprintSet : Value → Except PyException (Finset String)
  | .list items =>
      match items.mapM Value.string? with
      | some texts => .ok texts.toFinset
      | none => .error .typeError
  | _ => .error .typeError

/-- The expiry has come. -/
def isExpired (expiresAt : Option ℚ) (now : ℚ) : Bool :=
  expiresAt.any (· ≤ now)

/-- `expires_at is not None and expires_at <= time.time()`. -/
def checkExpired (host : Host) (expiresAt : Option ℚ) :
    Program Supply PyException Bool :=
  match expiresAt with
  | none => return false
  | some expiry => do
      let now ← host.now
      return isExpired (some expiry) now

def CacheEntry.row (entry : CacheEntry) (createdAt : ℚ) : CacheRow where
  tenant := entry.tenant
  nameSpace := entry.nameSpace
  valueJson := Json.dumps .compact (encodeJsonValue entry.value)
  sourceFingerprintsJson :=
    Json.dumps .compact (fingerprintsValue entry.sourceFingerprints)
  expiresAt := entry.expiresAt
  createdAt

/-- A text column read as JSON. -/
def loadsColumn (text : List Char) : Except PyException Value :=
  match Json.loads text with
  | some value => .ok value
  | none => .error .libraryValueError

def CacheRow.entry (host : Host) (row : CacheRow) (key : String) :
    Except PyException CacheEntry := do
  let stored ← loadsColumn row.valueJson
  let value ← decodeJsonValue host stored
  let fingerprints ← loadsColumn row.sourceFingerprintsJson
  let sourceFingerprints ← fingerprintSet fingerprints
  return {
    key, tenant := row.tenant, nameSpace := row.nameSpace, value,
    sourceFingerprints, verifierPassed := true, expiresAt := row.expiresAt }

namespace URPCache

def exactKey (tenant nameSpace : String) (payload : Value)
    (sourceFingerprints : Finset String) : String :=
  stableJsonHash (.dict [("tenant", .str tenant),
    ("namespace", .str nameSpace), ("payload", encodeJsonValue payload),
    ("source_fingerprints", fingerprintsValue sourceFingerprints)])

section Operations

variable (host : Host)

/-- The part of `put` under the lock. -/
def write (entry : CacheEntry) : Program CacheState PyException Unit := do
  let state ← Program.get
  match state.backend with
  | .memory entries =>
      Program.modify fun s =>
        { s with backend := .memory (entries.insert entry.key entry) }
  | .sqlite rows => do
      let createdAt ← Program.focus CacheState.supplyLens host.now
      Program.modify fun s => { s with
        backend := .sqlite (rows.insert entry.key (entry.row createdAt)) }

def put (entry : CacheEntry) : Program CacheState PyException Unit :=
  if entry.verifierPassed = false then
    Program.raise
      (.valueError "cache entries must have verifier_passed=True")
  else if entry.tenant = "" ∨ entry.nameSpace = "" then
    Program.raise (.valueError "cache entries require tenant and namespace")
  else do
    let expired ← Program.focus CacheState.supplyLens
      (checkExpired host entry.expiresAt)
    if expired then
      Program.raise (.valueError "cache entry is already expired")
    else write host entry

/-- `_get_entry`. -/
def getEntry (key : String) :
    Program CacheState PyException (Option CacheEntry) := do
  let state ← Program.get
  match state.backend with
  | .memory entries => return entries.lookup key
  | .sqlite rows =>
      match rows.lookup key with
      | none => return none
      | some row => do
          let entry ← Program.lift (row.entry host key)
          return some entry

def delete (key : String) : Program CacheState PyException Unit :=
  Program.modify fun s => { s with backend := s.backend.erase key }

/-- The scope checks of `get`. -/
def isInScope (entry : CacheEntry) (tenant nameSpace : String)
    (sourceFingerprints : Option (Finset String)) : Bool :=
  entry.tenant == tenant && entry.nameSpace == nameSpace &&
    sourceFingerprints.all (entry.sourceFingerprints == ·) &&
    entry.verifierPassed

/-- A miss is Python's `None`, like a stored `None`. -/
def get (key tenant nameSpace : String)
    (sourceFingerprints : Option (Finset String)) :
    Program CacheState PyException Value := do
  match ← getEntry host key with
  | none => return .none
  | some entry =>
      if isInScope entry tenant nameSpace sourceFingerprints then do
        let expired ← Program.focus CacheState.supplyLens
          (checkExpired host entry.expiresAt)
        if expired then do
          delete key
          return .none
        else return entry.value
      else return .none

/-- The number of entries that were deleted. -/
def purgeExpired : Program CacheState PyException Nat := do
  let now ← Program.focus CacheState.supplyLens host.now
  let state ← Program.get
  match state.backend with
  | .memory entries => do
      let kept := entries.filter fun _ entry => !isExpired entry.expiresAt now
      Program.modify fun s => { s with backend := .memory kept }
      return entries.entries.length - kept.entries.length
  | .sqlite rows => do
      let kept := rows.filter fun _ row => !isExpired row.expiresAt now
      Program.modify fun s => { s with backend := .sqlite kept }
      return rows.entries.length - kept.entries.length

end Operations

end URPCache

end Urp
