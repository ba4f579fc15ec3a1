import Urp.Encoding
import Urp.Schema
import Urp.Library.Run

/-!
# The local key store

`LocalKMS`: data keys wrapped under a master key, and envelopes encrypted
under the data keys.  AES-GCM and the random bytes are given.
-/

namespace Urp

open Python

/-- AES-GCM under keys of an accepted length. -/
structure Aead where
  encrypt : (key nonce plaintext aad : Bytes) → Bytes
  /-- `none` where the tag does not verify. -/
  decrypt : (key nonce ciphertext aad : Bytes) → Option Bytes

structure KmsHost where
  host : Host
  aead : Aead
  /-- The k-th draw of `secrets.token_bytes(n)`. -/
  tokenBytes : Nat → Nat → Bytes

inductive KmsException where
  | python (error : PyException)
  /-- `cryptography.exceptions.InvalidTag`. -/
  | invalidTag

structure LocalKey where
  keyId : String
  material : Bytes
  createdAt : String
  purpose : String := "local-dev"

/-- An entry of `kms_keys.json`. -/
structure KeyEntry where
  keyId : String
  createdAt : String
  purpose : Option String
  wrapNonce : Option String := none
  wrappedMaterial : Option String := none
  /-- The plain material of earlier local state. -/
  material : Option String := none

structure Envelope where
  keyId : Option String
  nonce : Option String
  ciphertext : Option String
  algorithm : Option String

structure KmsState where
  /-- `kms_keys.json`. -/
  keys : Option (Dict String KeyEntry) := none
  /-- `kms_master.key`. -/
  master : Option String := none
  supply : Supply := {}
  /-- How many times random bytes were drawn. -/
  tokens : Nat := 0

namespace KmsState

def supplyLens : Lens KmsState Supply where
  get state := state.supply
  set state supply := { state with supply }
  get_set _ _ := rfl

end KmsState

/-- `base64.b64encode(data).decode("ascii")`. -/
def b64Text (data : Bytes) : String := String.ofList (Base64.encode data)

namespace LocalKMS

/-- A body that raises Python's own exceptions. -/
def python {σ α : Type} (body : Program σ PyException α) :
    Program σ KmsException α := fun s =>
  match body s with
  | (.ok value, later) => (.ok value, later)
  | (.error error, later) => (.error (.python error), later)

def b64Bytes (text : String) : Except KmsException Bytes :=
  match Base64.decode text.toList with
  | none => .error (.python .libraryValueError)
  | some data => .ok data

/-- `mapping[key]`. -/
def required (value : Option String) (key : String) :
    Except KmsException String :=
  match value with
  | none => .error (.python (.keyError key))
  | some text => .ok text

section Operations

variable (kms : KmsHost)

def tokenBytes (size : Nat) : Program KmsState KmsException Bytes := do
  let state ← Program.get
  Program.modify fun s => { s with tokens := s.tokens + 1 }
  return kms.tokenBytes state.tokens size

/-- `LocalKMS.__init__`. -/
def init : Program KmsState KmsException Unit :=
  Program.modify fun state => { state with keys := some (state.keys.getD ∅) }

def masterOf (text message : String) : Except KmsException Bytes := do
  let material ← b64Bytes text
  if material.length ≠ 32 then .error (.python (.valueError message))
  else .ok material

/-- The text of `kms_master.key`, which is written when there is none. -/
def masterFile : Program KmsState KmsException String := do
  let state ← Program.get
  match state.master with
  | some text => return text
  | none => do
      let fresh ← tokenBytes kms 32
      let text := b64Text fresh ++ "\n"
      Program.modify fun s => { s with master := some text }
      return text

/-- `_master_key_unlocked`, with the variable `URP_LOCAL_KMS_MASTER_KEY`. -/
def masterKey (configured : Option String) :
    Program KmsState KmsException Bytes :=
  if textOr configured "" ≠ "" then
    Program.lift (masterOf (textOr configured "")
      "URP_LOCAL_KMS_MASTER_KEY must decode to 32 bytes")
  else do
    let text ← masterFile kms
    Program.lift (masterOf (strip text) "local KMS master key is invalid")

/-- `AESGCM(key)`, which takes keys of 128, 192 and 256 bits. -/
def aesKey (key : Bytes) : Except KmsException Bytes :=
  if key.length ∈ [16, 24, 32] then .ok key
  else .error (.python .libraryValueError)

def readKeys : Program KmsState KmsException (Dict String KeyEntry) := do
  let state ← Program.get
  match state.keys with
  | none => Program.raise (.python (.fileNotFound "kms_keys.json"))
  | some keys => return keys

def createKey (configured : Option String) (purpose : String) :
    Program KmsState KmsException LocalKey := do
  let keyId ← Program.focus KmsState.supplyLens (python (kms.host.newId "key"))
  let material ← tokenBytes kms 32
  let createdAt ← Program.focus KmsState.supplyLens (python kms.host.utcNow)
  let master ← masterKey kms configured
  let nonce ← tokenBytes kms 12
  let master ← Program.lift (aesKey master)
  let wrapped := kms.aead.encrypt master nonce material (utf8 keyId.toList)
  let keys ← readKeys
  let entry : KeyEntry := {
    keyId
    createdAt
    purpose := some purpose
    wrapNonce := some (b64Text nonce)
    wrappedMaterial := some (b64Text wrapped) }
  Program.modify fun s => { s with keys := some (keys.insert keyId entry) }
  return { keyId, material, createdAt, purpose }

def decryptWith (key nonce ciphertext aad : Bytes) :
    Except KmsException Bytes := do
  let key ← aesKey key
  if nonce.length < 8 ∨ nonce.length > 128 then
    .error (.python .libraryValueError)
  else
    match kms.aead.decrypt key nonce ciphertext aad with
    | none => .error .invalidTag
    | some plaintext => .ok plaintext

/-- The material of an entry of `kms_keys.json`. -/
def unwrapped (configured : Option String) (keyId : String)
    (entry : KeyEntry) : Program KmsState KmsException Bytes :=
  match entry.wrappedMaterial with
  | some wrappedMaterial => do
      let wrapNonce ← Program.lift (required entry.wrapNonce "wrap_nonce")
      let nonce ← Program.lift (b64Bytes wrapNonce)
      let wrapped ← Program.lift (b64Bytes wrappedMaterial)
      let master ← masterKey kms configured
      Program.lift (decryptWith kms master nonce wrapped (utf8 keyId.toList))
  | none => do
      let text ← Program.lift (required entry.material "material")
      Program.lift (b64Bytes text)

def getKey (configured : Option String) (keyId : String) :
    Program KmsState KmsException LocalKey := do
  let _ ← python (Program.lift (validateIdentifier keyId "key id" "key_"))
  let keys ← readKeys
  match keys.lookup keyId with
  | none => Program.raise (.python (.keyError keyId))
  | some entry => do
      let material ← unwrapped kms configured keyId entry
      return {
        keyId := entry.keyId
        material
        createdAt := entry.createdAt
        purpose := entry.purpose.getD "local-dev" }

def encrypt (configured : Option String) (keyId : String)
    (plaintext aad : Bytes) : Program KmsState KmsException Envelope := do
  let key ← getKey kms configured keyId
  let nonce ← tokenBytes kms 12
  let material ← Program.lift (aesKey key.material)
  let ciphertext := kms.aead.encrypt material nonce plaintext aad
  return {
    keyId := some keyId
    nonce := some (b64Text nonce)
    ciphertext := some (b64Text ciphertext)
    algorithm := some "AES-256-GCM" }

def decrypt (configured : Option String) (envelope : Envelope) (aad : Bytes) :
    Program KmsState KmsException Bytes :=
  if envelope.algorithm ≠ some "AES-256-GCM" then
    Program.raise (.python
      (.valueError "unsupported or unauthenticated encryption envelope"))
  else do
    let keyId ← Program.lift (required envelope.keyId "key_id")
    let key ← getKey kms configured keyId
    let nonceText ← Program.lift (required envelope.nonce "nonce")
    let nonce ← Program.lift (b64Bytes nonceText)
    let ciphertextText ← Program.lift (required envelope.ciphertext "ciphertext")
    let ciphertext ← Program.lift (b64Bytes ciphertextText)
    if nonce.length ≠ 12 then
      Program.raise (.python (.valueError "AES-GCM nonce must be 12 bytes"))
    else
      Program.lift (decryptWith kms key.material nonce ciphertext aad)

end Operations

end LocalKMS

end Urp
