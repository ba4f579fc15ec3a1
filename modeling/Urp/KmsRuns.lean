import Urp.KmsKeys

/-!
# Runs of the local key store

What a key created in a run sealed is opened by every later call under the
same master key setting, and nothing else is.
-/

namespace Urp

open Python Program LocalKMS

inductive KmsRequest where
  | create (purpose : String)
  | get (keyId : String)
  | encrypt (keyId : String) (plaintext aad : Bytes)
  | decrypt (envelope : Envelope) (aad : Bytes)

/-- A request to a `LocalKMS` made for it, and the value that
`URP_LOCAL_KMS_MASTER_KEY` has then. -/
structure KmsCall where
  configured : Option String
  request : KmsRequest

/-- What a call returned or raised. -/
inductive KmsReply where
  | created (result : Except KmsException LocalKey)
  | got (result : Except KmsException LocalKey)
  | enveloped (result : Except KmsException Envelope)
  | opened (result : Except KmsException Bytes)

def kmsStep (kms : KmsHost) (state : KmsState) (call : KmsCall) :
    KmsReply × KmsState :=
  let made := (init state).2
  match call.request with
  | .create purpose =>
      let run := createKey kms call.configured purpose made
      (.created run.1, run.2)
  | .get keyId =>
      let run := getKey kms call.configured keyId made
      (.got run.1, run.2)
  | .encrypt keyId plaintext aad =>
      let run := LocalKMS.encrypt kms call.configured keyId plaintext aad made
      (.enveloped run.1, run.2)
  | .decrypt envelope aad =>
      let run := LocalKMS.decrypt kms call.configured envelope aad made
      (.opened run.1, run.2)

abbrev KmsVisit : Type := Run.Visit KmsState KmsCall KmsReply

/-- The visit created the key. -/
structure Creates (v : KmsVisit) (key : LocalKey) : Prop where
  request : ∃ purpose, v.input.request = .create purpose
  output : v.output = .created (.ok key)

/-- `get_key` accepts the key's identifier. -/
def LocalKey.Named (key : LocalKey) : Prop :=
  ∃ text, validateIdentifier key.keyId "key id" "key_" = .ok text

/-- Two calls find the same master key setting. -/
def SameSetting (first second : KmsVisit) : Prop :=
  textOr first.input.configured "" = textOr second.input.configured ""

/-- A key that an earlier call created under the same setting is given as it
was created, seals what it is to encrypt, and opens to a plaintext exactly the
envelopes that hold that plaintext. -/
def ServesKeys (kms : KmsHost) (past : List KmsVisit) (v : KmsVisit) : Prop :=
  ∀ w ∈ past, ∀ key, Creates w key → key.Named → SameSetting w v →
    (v.input.request = .get key.keyId → v.output = .got (.ok key)) ∧
    (∀ plaintext aad, v.input.request = .encrypt key.keyId plaintext aad →
      ∃ envelope, v.output = .enveloped (.ok envelope) ∧
        Sealed kms key plaintext aad envelope) ∧
    ∀ envelope aad, v.input.request = .decrypt envelope aad →
      envelope.keyId = some key.keyId → ∀ plaintext,
        v.output = .opened (.ok plaintext) ↔ Sealed kms key plaintext aad envelope

/-- What a call encrypted under an earlier key is what every later call
decrypts, with the same associated data and under the same setting. -/
def OpensSealed (history : List KmsVisit) : Prop :=
  ∀ early w middle e late v rest,
    history = early ++ w :: (middle ++ e :: (late ++ v :: rest)) →
    ∀ key plaintext aad envelope, Creates w key → key.Named →
      SameSetting w e → SameSetting w v →
      e.input.request = .encrypt key.keyId plaintext aad →
      e.output = .enveloped (.ok envelope) →
      v.input.request = .decrypt envelope aad →
        v.output = .opened (.ok plaintext)

section Steps

variable {kms : KmsHost}

theorem init_extends (state : KmsState) :
    state.Extends kms.host (init state).2 := within_init state

/-- A call only draws from the supply, and keeps the master key file and the
keys there are. -/
theorem kmsStep_extends
    (sized : ∀ k size, (kms.tokenBytes k size).length = size)
    (state : KmsState) (call : KmsCall) :
    state.Extends kms.host (kmsStep kms state call).2 := by
  apply trans_of _ (init_extends state)
  unfold kmsStep
  cases call.request with
  | create purpose =>
      exact ensures_state_iff.mp ((ensures_createKey _ sized purpose).mono
        (fun _ _ holds => holds.2.2) fun _ _ holds => holds)
  | get keyId => exact within_getKey keyId _
  | encrypt keyId plaintext aad => exact within_encrypt keyId plaintext aad _
  | decrypt envelope aad => exact within_decrypt envelope aad _

/-- Every key that was created is held under the setting of its creation. -/
def Ring (kms : KmsHost) (history : List KmsVisit) (state : KmsState) : Prop :=
  ∀ w ∈ history, ∀ key, Creates w key →
    Holds kms w.input.configured state key ∧ key.material.length = 32

variable {history : List KmsVisit} {state : KmsState}

theorem Ring.step (fresh : Function.Injective kms.host.uuid4)
    (sized : ∀ k size, (kms.tokenBytes k size).length = size)
    (ring : Ring kms history state) (call : KmsCall) :
    Ring kms (history ++ [Run.visit (kmsStep kms) state call])
      (kmsStep kms state call).2 := by
  rw [Ring, List.forall_mem_append, List.forall_mem_singleton]
  constructor
  · intro w member key creates
    obtain ⟨holds, long⟩ := ring w member key creates
    exact ⟨holds.later fresh (kmsStep_extends sized state call), long⟩
  · rintro key ⟨⟨purpose, request⟩, output⟩
    have request : call.request = .create purpose := request
    have made : Ensures (createKey kms call.configured purpose) (init state).2
        _ _ :=
      ensures_createKey (init state).2 sized purpose
    have output : (kmsStep kms state call).1 = .created (.ok key) := output
    simp only [kmsStep, request, KmsReply.created.injEq] at output
    obtain ⟨holds, long, -⟩ := made.of_fst_ok output
    refine ⟨?_, long⟩
    simp only [kmsStep, request, Run.visit]
    exact holds

/-- The keys of the run are there when a `LocalKMS` was made. -/
theorem exists_keys (state : KmsState) :
    (init state).2.keys = some (state.keys.getD ∅) := rfl

end Steps

section Runs

variable {kms : KmsHost} {state : KmsState}

theorem ring_run (fresh : Function.Injective kms.host.uuid4)
    (sized : ∀ k size, (kms.tokenBytes k size).length = size)
    (calls : List KmsCall) :
    Ring kms (Run.visits (kmsStep kms) state calls)
      (Run.final (kmsStep kms) state calls) := by
  apply Run.visits_history_induction
  · intro w member
    cases member
  · exact fun history late call ring => ring.step fresh sized call

/-- In a state that holds the keys of its past a call serves them. -/
theorem Ring.serves (fresh : Function.Injective kms.host.uuid4)
    (exact : kms.aead.Exact)
    (sized : ∀ k size, (kms.tokenBytes k size).length = size)
    {history : List KmsVisit} (ring : Ring kms history state)
    (call : KmsCall) :
    ServesKeys kms history (Run.visit (kmsStep kms) state call) := by
  intro w member key creates accepted same
  obtain ⟨held, long⟩ := ring w member key creates
  have holds := (held.later fresh (init_extends state)).congr same
  refine ⟨fun request => ?_, fun plaintext aad request => ?_,
    fun envelope aad request names plaintext => ?_⟩
  · have request : call.request = .get key.keyId := request
    have run := getKey_run exact accepted holds (exists_keys state)
    simp only [Run.visit, kmsStep, request] at run ⊢
    rw [run]
  · have request : call.request = .encrypt key.keyId plaintext aad := request
    have run := encrypt_run exact accepted holds long (exists_keys state)
      plaintext aad
    simp only [Run.visit, kmsStep, request] at run ⊢
    rw [run]
    exact ⟨_, rfl, rfl, rfl, _, _, _, rfl, decode_b64Text _, sized _ 12, rfl,
      decode_b64Text _⟩
  · have request : call.request = .decrypt envelope aad := request
    rw [← decrypt_eq_ok_iff exact accepted holds long (exists_keys state) names
      plaintext aad]
    simp only [Run.visit, kmsStep, request, KmsReply.opened.injEq]

/-- In every run a call serves every key that an earlier call created under
the same setting, and what was encrypted under it decrypts ever after. -/
theorem serves_created_keys (fresh : Function.Injective kms.host.uuid4)
    (exact : kms.aead.Exact)
    (sized : ∀ k size, (kms.tokenBytes k size).length = size)
    (state : KmsState) (calls : List KmsCall) :
    Run.Each (ServesKeys kms) (Run.visits (kmsStep kms) state calls) ∧
      OpensSealed (Run.visits (kmsStep kms) state calls) := by
  have each : Run.Each (ServesKeys kms) (Run.visits (kmsStep kms) state calls) := by
    intro past v rest split
    obtain ⟨early, late, -, rfl, visited⟩ := Run.visits_split split
    rw [visited]
    exact (ring_run fresh sized early).serves fresh exact sized _
  refine ⟨each, ?_⟩
  intro early w middle e late v rest split key plaintext aad envelope creates
    named same later encrypts returned decrypts
  have sealing := each (early ++ w :: middle) e (late ++ v :: rest)
    (by rw [split, List.append_assoc, List.cons_append]) w (by simp) key creates
    named same
  obtain ⟨other, output, holds⟩ := sealing.2.1 plaintext aad encrypts
  rw [returned] at output
  cases output
  have opening := each (early ++ w :: (middle ++ e :: late)) v rest
    (by rw [split]; simp) w (by simp) key creates named
    later
  exact (opening.2.2 envelope aad decrypts holds.keyId plaintext).mpr holds

end Runs

/-! ## A sample -/

/-- The identity on texts, which carries the key, the nonce and the associated
data along. -/
def Aead.plain : Aead where
  encrypt key nonce plaintext aad :=
    (key ++ nonce ++ aad) ++ plaintext
  decrypt key nonce ciphertext aad :=
    if (key ++ nonce ++ aad).isPrefixOf ciphertext then
      some (ciphertext.drop (key ++ nonce ++ aad).length)
    else none

theorem Aead.plain_exact : Aead.plain.Exact := by
  intro key nonce ciphertext aad plaintext
  simp only [plain, Option.ite_none_right_eq_some, Option.some.injEq,
    List.isPrefixOf_iff_prefix]
  constructor
  · rintro ⟨⟨rest, rfl⟩, rfl⟩
    rw [List.drop_left]
  · rintro rfl
    exact ⟨List.prefix_append _ _, List.drop_left⟩

def KmsHost.counting : KmsHost where
  host := Host.counting
  aead := Aead.plain
  tokenBytes k size := List.replicate size k.toUInt8

def sampleKeyId : String := Host.counting.idText "key" 0

/-- What the sample's second call seals under the fourth draw. -/
def sampleEnvelope : Envelope where
  keyId := some sampleKeyId
  nonce := some (b64Text (List.replicate 12 3))
  ciphertext := some (b64Text (Aead.plain.encrypt (List.replicate 32 0)
    (List.replicate 12 3) [104, 105] [7]))
  algorithm := some "AES-256-GCM"

/-- A key is created, and what is encrypted under it is decrypted. -/
def sampleKmsCalls : List KmsCall :=
  [⟨none, .create "local-dev"⟩, ⟨none, .encrypt sampleKeyId [104, 105] [7]⟩,
    ⟨none, .create "other"⟩, ⟨none, .decrypt sampleEnvelope [7]⟩]

theorem serves_created_keys_sample :
    Run.Each (ServesKeys KmsHost.counting)
        (Run.visits (kmsStep KmsHost.counting) {} sampleKmsCalls) ∧
      OpensSealed
        (Run.visits (kmsStep KmsHost.counting) {} sampleKmsCalls) :=
  serves_created_keys Host.counting_fresh Aead.plain_exact
    (fun _ _ => List.length_replicate) {} sampleKmsCalls

end Urp
