import Mathlib.Tactic.NormNum
import Urp.Cache

/-!
# The semantic cache

`SemanticCache` over its two backends.  A lookup scans the entries of its
scope in the order in which they were first stored and takes the best one that
has the same source fingerprints.
-/

namespace Urp

open Python

/-! ## Similarity -/

def normalizeSemanticText (host : Host) (text : String) : String :=
  String.intercalate " " (splitWords (strip (host.casefold text)))

/-- `_set_jaccard`. -/
def setJaccard (left right : Finset String) : ℚ :=
  if left = ∅ ∧ right = ∅ then 1
  else if left = ∅ ∨ right = ∅ then 0
  else (left ∩ right).card / (left ∪ right).card

def jaccardSimilarity (left right : String) : ℚ :=
  setJaccard (splitWords left).toFinset (splitWords right).toFinset

/-- `_character_ngrams`. -/
def characterNgrams (value : String) (size : Nat) : Finset String :=
  let compact := (String.intercalate " " (splitWords value)).toList
  if compact.length ≤ size then
    if compact.isEmpty then ∅ else {String.ofList compact}
  else
    ((List.range (compact.length - size + 1)).map fun index =>
      String.ofList ((compact.drop index).take size)).toFinset

def semanticSimilarity (host : Host) (left right : String) : Decimal :=
  host.semanticScore (jaccardSimilarity left right)
    (setJaccard (characterNgrams left 3) (characterNgrams right 3))

/-! ## Entries -/

structure SemanticCacheEntry where
  key : String
  tenant : String
  nameSpace : String
  normalizedText : String
  value : Value
  sourceFingerprints : Finset String
  verification : VerificationResult
  taskType : String := "general"
  createdAt : ℚ
  expiresAt : Option ℚ

/-- A row of the table `semantic_cache` without its key. -/
structure SemanticCacheRow where
  tenant : String
  nameSpace : String
  normalizedText : String
  valueJson : List Char
  sourceFingerprintsJson : List Char
  verificationJson : List Char
  taskType : String
  createdAt : ℚ
  expiresAt : Option ℚ

structure SemanticCacheHit where
  value : Value
  key : String
  score : Decimal
  verification : VerificationResult
  createdAt : ℚ

def SemanticCacheEntry.row (entry : SemanticCacheEntry) : SemanticCacheRow where
  tenant := entry.tenant
  nameSpace := entry.nameSpace
  normalizedText := entry.normalizedText
  valueJson := Json.dumps .compact (encodeJsonValue entry.value)
  sourceFingerprintsJson :=
    Json.dumps .compact (fingerprintsValue entry.sourceFingerprints)
  verificationJson := Json.dumps .compact entry.verification.toDict.toValue
  taskType := entry.taskType
  createdAt := entry.createdAt
  expiresAt := entry.expiresAt

/-- The verification of a row. -/
def verificationOf (host : Host) (stored : Value) :
    Except PyException VerificationResult :=
  match stored with
  | .dict entries =>
      match Value.get entries "details" with
      | .dict details =>
          .ok (result entries (.ofList details))
      | other =>
          if other.isTruthy then .error .typeError else .ok (result entries ∅)
  | _ => .error .attributeError
where
  result (entries : List (String × Value)) (details : Object) :
      VerificationResult :=
    { accepted := (Value.get entries "accepted").isTruthy
      verifierId :=
        host.str (Value.getD entries "verifier_id" (.str "unknown@1"))
      reason := host.str (Value.getD entries "reason" (.str "unknown"))
      details }

/-- `_entry_from_row`. -/
def SemanticCacheRow.entry (host : Host) (row : SemanticCacheRow)
    (key : String) : Except PyException SemanticCacheEntry := do
  let verification ← loadsColumn row.verificationJson
  let stored ← loadsColumn row.valueJson
  let value ← decodeJsonValue host stored
  let fingerprints ← loadsColumn row.sourceFingerprintsJson
  let sourceFingerprints ← fingerprintSet fingerprints
  let verification ← verificationOf host verification
  return {
    key, tenant := row.tenant, nameSpace := row.nameSpace
    normalizedText := row.normalizedText, value, sourceFingerprints
    verification, taskType := row.taskType, createdAt := row.createdAt
    expiresAt := row.expiresAt }

/-! ## The cache -/

inductive SemanticBackend where
  | memory (entries : Dict String SemanticCacheEntry)
  | sqlite (rows : Dict String SemanticCacheRow)

namespace SemanticBackend

def erase (backend : SemanticBackend) (key : String) : SemanticBackend :=
  match backend with
  | .memory entries => .memory (entries.erase key)
  | .sqlite rows => .sqlite (rows.erase key)

def insert (backend : SemanticBackend) (entry : SemanticCacheEntry) :
    SemanticBackend :=
  match backend with
  | .memory entries => .memory (entries.insert entry.key entry)
  | .sqlite rows => .sqlite (rows.insert entry.key entry.row)

/-- `_iter_entries`: a fetched row is read at once. -/
def iterEntries (host : Host) (backend : SemanticBackend)
    (tenant nameSpace taskType : String) :
    Except PyException (List SemanticCacheEntry) :=
  match backend with
  | .memory entries =>
      .ok (entries.values.filter fun entry =>
        entry.tenant == tenant && entry.nameSpace == nameSpace &&
          entry.taskType == taskType)
  | .sqlite rows =>
      (rows.entries.filter fun item =>
        item.2.tenant == tenant && item.2.nameSpace == nameSpace &&
          item.2.taskType == taskType).mapM fun item =>
        item.2.entry host item.1

end SemanticBackend

theorem semanticThreshold_nonneg : (0 : ℚ) ≤ 41 / 50 := by norm_num

theorem semanticThreshold_le_one : (41 / 50 : ℚ) ≤ 1 := by norm_num

/-- A cache with the threshold that its constructor accepts. -/
structure SemanticCache where
  backend : SemanticBackend := .memory ∅
  threshold : ℚ := 41 / 50
  threshold_nonneg : 0 ≤ threshold := by
    first | exact semanticThreshold_nonneg | norm_num
  threshold_le_one : threshold ≤ 1 := by
    first | exact semanticThreshold_le_one | norm_num

structure SemanticState where
  cache : SemanticCache := {}
  supply : Supply := {}

namespace SemanticState

def supplyLens : Lens SemanticState Supply where
  get state := state.supply
  set state supply := { state with supply }
  get_set _ _ := rfl

def update (change : SemanticBackend → SemanticBackend)
    (state : SemanticState) : SemanticState :=
  { state with
    cache := { state.cache with backend := change state.cache.backend } }

end SemanticState

/-- A number from zero to one. -/
def unitInterval (value : Option Number) : Option ℚ :=
  match value with
  | some (.finite q) => if 0 ≤ q ∧ q ≤ 1 then some q else none
  | _ => none

namespace SemanticCache

section Operations

variable (host : Host)

def put (entry : SemanticCacheEntry) :
    Program SemanticState PyException Unit :=
  if entry.verification.accepted = false then
    Program.raise (.valueError
      "semantic cache entries require an accepted verification result")
  else do
    let expired ← Program.focus SemanticState.supplyLens
      (checkExpired host entry.expiresAt)
    if expired then
      Program.raise (.valueError "semantic cache entry is already expired")
    else
      Program.modify (SemanticState.update fun backend => backend.insert entry)

def entryKey (tenant nameSpace text : String)
    (sourceFingerprints : Finset String) (taskType : String) : String :=
  stableJsonHash (.dict [("tenant", .str tenant),
    ("namespace", .str nameSpace), ("text", .str text),
    ("sources", fingerprintsValue sourceFingerprints),
    ("task_type", .str taskType)])

/-- `store` for a task of the type `general`, with a time to live. -/
def store (tenant nameSpace text : String) (value : Value)
    (sourceFingerprints : Finset String) (verification : VerificationResult)
    (ttlSeconds : ℚ) : Program SemanticState PyException String :=
  if ttlSeconds ≤ 0 then
    Program.raise (.valueError "ttl_seconds must be positive")
  else do
    let normalized := normalizeSemanticText host text
    let key := entryKey tenant nameSpace normalized sourceFingerprints "general"
    let now ← Program.focus SemanticState.supplyLens host.now
    put host {
      key, tenant, nameSpace, normalizedText := normalized, value
      sourceFingerprints, verification, createdAt := now
      expiresAt := some (now + ttlSeconds) }
    return key

def delete (key : String) : Program SemanticState PyException Unit :=
  Program.modify (SemanticState.update fun backend => backend.erase key)

/-- The entry counts for a query with these fingerprints. -/
def isCandidate (entry : SemanticCacheEntry)
    (sourceFingerprints : Finset String) : Bool :=
  sourceFingerprints == entry.sourceFingerprints && entry.verification.accepted

/-- The better of two candidates: the first of the highest score. -/
def better (query : String) (threshold : ℚ)
    (best : Option (Decimal × SemanticCacheEntry))
    (entry : SemanticCacheEntry) : Option (Decimal × SemanticCacheEntry) :=
  let score := semanticSimilarity host query entry.normalizedText
  if threshold ≤ score.toRat ∧
      (best.all fun other => decide (other.1.toRat < score.toRat)) then
    some (score, entry)
  else best

/-- The loop of `lookup_hit`. -/
def scan (query : String) (sourceFingerprints : Finset String)
    (threshold now : ℚ) : List SemanticCacheEntry →
      Option (Decimal × SemanticCacheEntry) →
        Program SemanticState PyException
          (Option (Decimal × SemanticCacheEntry))
  | [], best => return best
  | entry :: rest, best =>
      if isExpired entry.expiresAt now then do
        delete entry.key
        scan query sourceFingerprints threshold now rest best
      else if isCandidate entry sourceFingerprints then
        scan query sourceFingerprints threshold now rest
          (better host query threshold best entry)
      else scan query sourceFingerprints threshold now rest best

/-- `lookup_hit` for a task of the type `general`. -/
def lookupHit (tenant nameSpace text : String)
    (sourceFingerprints : Finset String) (threshold : Option Number)
    (verifier : Value → VerificationResult) :
    Program SemanticState PyException (Option SemanticCacheHit) :=
  match unitInterval threshold with
  | none =>
      Program.raise (.valueError
        "semantic cache threshold must be between 0 and 1")
  | some threshold => do
      let query := normalizeSemanticText host text
      let now ← Program.focus SemanticState.supplyLens host.now
      let state ← Program.get
      let entries ← Program.lift
        (state.cache.backend.iterEntries host tenant nameSpace "general")
      match ← scan host query sourceFingerprints threshold now entries none with
      | none => return none
      | some (score, entry) =>
          let verification := verifier entry.value
          if verification.accepted then
            return some {
              value := entry.value, key := entry.key, score, verification
              createdAt := entry.createdAt }
          else do
            delete entry.key
            return none

end Operations

end SemanticCache

end Urp
