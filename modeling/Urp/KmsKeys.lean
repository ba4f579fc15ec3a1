import Urp.Kms
import Urp.ExactRoundTrip

/-!
# Keys of the local key store

A key that the store holds under a master key is given, seals and opens as it
was created.
-/

namespace Urp

open Python Program

namespace Aead

/-- A ciphertext is accepted exactly when it is the encryption of what it is
decrypted to. -/
def Exact (aead : Aead) : Prop :=
  ∀ key nonce ciphertext aad plaintext,
    aead.decrypt key nonce ciphertext aad = some plaintext ↔
      ciphertext = aead.encrypt key nonce plaintext aad

end Aead

theorem decode_b64Text (data : Bytes) :
    LocalKMS.b64Bytes (b64Text data) = .ok data := by
  simp [LocalKMS.b64Bytes, b64Text, Base64.decode_encode]

namespace KmsState

/-- The entry of a key. -/
def entry (state : KmsState) (keyId : String) : Option KeyEntry :=
  (state.keys.getD ∅).lookup keyId

/-- The later state keeps the master key file, and of the keys all that were
not drawn since. -/
structure Extends (host : Host) (before after : KmsState) : Prop where
  drawn : before.supply.nextId ≤ after.supply.nextId
  master : ∀ text, before.master = some text → after.master = some text
  keys : ∀ keyId,
    (∀ k, before.supply.nextId ≤ k → k < after.supply.nextId →
      keyId ≠ host.idText "key" k) → after.entry keyId = before.entry keyId

instance (host : Host) : IsPreorder KmsState (Extends host) where
  refl state := ⟨Nat.le_refl _, fun _ same => same, fun _ _ => rfl⟩
  trans first second third early late := {
    drawn := Nat.le_trans early.drawn late.drawn
    master text present := late.master text (early.master text present)
    keys keyId undrawn := by
      rw [late.keys keyId, early.keys keyId]
      · intro k above below
        exact undrawn k above (Nat.lt_of_lt_of_le below late.drawn)
      · intro k above below
        exact undrawn k (Nat.le_trans early.drawn above) below }

/-- A change of the supply and the tokens alone. -/
theorem Extends.of_same {host : Host} {before after : KmsState}
    (drawn : before.supply.nextId ≤ after.supply.nextId)
    (master : after.master = before.master) (keys : after.keys = before.keys) :
    Extends host before after := by
  refine ⟨drawn, fun text present => master.trans present, fun keyId _ => ?_⟩
  rw [entry, keys]
  rfl

end KmsState

namespace LocalKMS

variable {kms : KmsHost} {configured : Option String}

/-! ## The master key -/

/-- The master key that the variable and the master key file give. -/
def masterUnder (configured file : Option String) : Option Bytes :=
  if textOr configured "" ≠ "" then
    (masterOf (textOr configured "")
      "URP_LOCAL_KMS_MASTER_KEY must decode to 32 bytes").toOption
  else file.bind fun text =>
    (masterOf (strip text) "local KMS master key is invalid").toOption

theorem ok_of_toOption {result : Except KmsException Bytes} {data : Bytes}
    (same : result.toOption = some data) : result = .ok data := by
  cases result with
  | error error => cases same
  | ok value => exact congrArg Except.ok (Option.some.inj same)

theorem length_of_masterOf {text message : String} {master : Bytes}
    (reads : masterOf text message = .ok master) : master.length = 32 := by
  unfold masterOf at reads
  obtain ⟨material, decodes, checked⟩ := except_bind_eq_ok_iff.mp reads
  by_cases sized : material.length = 32
  · rw [if_neg (not_not_intro sized)] at checked
    cases checked
    exact sized
  · rw [if_pos sized] at checked
    cases checked

theorem length_of_masterUnder {file : Option String} {master : Bytes}
    (reads : masterUnder configured file = some master) :
    master.length = 32 := by
  unfold masterUnder at reads
  split at reads
  · exact length_of_masterOf (ok_of_toOption reads)
  · obtain ⟨text, -, reads⟩ := Option.bind_eq_some_iff.mp reads
    exact length_of_masterOf (ok_of_toOption reads)

/-- A later state has the same master key. -/
theorem masterUnder_later {host : Host} {before after : KmsState}
    {master : Bytes} (extended : before.Extends host after)
    (reads : masterUnder configured before.master = some master) :
    masterUnder configured after.master = some master := by
  unfold masterUnder at reads ⊢
  by_cases set : textOr configured "" ≠ ""
  · rw [if_pos set] at reads ⊢
    exact reads
  · rw [if_neg set] at reads ⊢
    obtain ⟨text, present, reads⟩ := Option.bind_eq_some_iff.mp reads
    rw [extended.master text present, Option.bind_some]
    exact reads

/-- The variable decides which master key is taken. -/
theorem masterUnder_congr {other file : Option String}
    (same : textOr configured "" = textOr other "") :
    masterUnder configured file = masterUnder other file := by
  rw [masterUnder, masterUnder, same]

theorem masterFile_run {state : KmsState} {text : String}
    (present : state.master = some text) :
    masterFile kms state = (.ok text, state) := by
  unfold masterFile
  rw [get_bind, present]
  rfl

/-- A master key that is there is the one that is used. -/
theorem masterKey_run {state : KmsState} {master : Bytes}
    (reads : masterUnder configured state.master = some master) :
    masterKey kms configured state = (.ok master, state) := by
  unfold masterUnder at reads
  unfold masterKey
  by_cases set : textOr configured "" ≠ ""
  · rw [if_pos set] at reads ⊢
    rw [ok_of_toOption reads]
    rfl
  · rw [if_neg set] at reads ⊢
    obtain ⟨text, present, reads⟩ := Option.bind_eq_some_iff.mp reads
    rw [bind_ok (masterFile_run present), ok_of_toOption reads]
    rfl

theorem ensures_python {σ α : Type} {body : Program σ PyException α} {s : σ}
    {onReturn : α → σ → Prop} {onRaise : KmsException → σ → Prop} :
    Ensures (python body) s onReturn onRaise ↔
      Ensures body s onReturn (fun error => onRaise (.python error)) := by
  unfold Ensures python
  rcases body s with ⟨_ | _, later⟩ <;> rfl

theorem ensures_tokenBytes (state : KmsState) (size : Nat) :
    Ensures (tokenBytes kms size) state
      (fun data later => data = kms.tokenBytes state.tokens size ∧
        later = { state with tokens := state.tokens + 1 })
      (fun _ _ => False) := by
  simp [tokenBytes, ensures_bind, ensures_get, ensures_modify]

theorem within_tokenBytes (size : Nat) :
    Within (KmsState.Extends kms.host) (tokenBytes kms size) := by
  intro state
  exact .of_same (Nat.le_refl _) rfl rfl

theorem ensures_masterFile (state : KmsState) :
    Ensures (masterFile kms) state
      (fun text later => later.master = some text ∧
        state.Extends kms.host later) (fun _ _ => False) := by
  unfold masterFile
  rw [ensures_bind, ensures_get]
  cases present : state.master with
  | some text => exact ⟨present, refl_of _ state⟩
  | none =>
      refine ⟨rfl, Nat.le_refl _, fun text other => ?_, fun _ _ => rfl⟩
      rw [present] at other
      cases other

/-- The master key that a call gets is the one that is there afterwards. -/
theorem ensures_masterKey (state : KmsState) :
    Ensures (masterKey kms configured) state
      (fun master later => masterUnder configured later.master = some master ∧
        state.Extends kms.host later)
      (fun _ later => state.Extends kms.host later) := by
  unfold masterKey
  rw [ensures_ite]
  constructor
  · intro set
    rw [ensures_lift]
    refine ⟨fun master reads => ⟨?_, refl_of _ state⟩, fun _ _ => refl_of _ state⟩
    rw [masterUnder, if_pos set, reads]
    rfl
  · intro unset
    rw [ensures_bind]
    apply (ensures_masterFile state).mono
    · intro text later kept
      rw [ensures_lift]
      refine ⟨fun master reads => ⟨?_, kept.2⟩, fun _ _ => kept.2⟩
      rw [masterUnder, if_neg unset, kept.1, Option.bind_some, reads]
      rfl
    · exact fun _ _ impossible => impossible.elim

/-! ## Wrapped keys -/

/-- The state holds the key, wrapped under the master key of the setting. -/
structure Holds (kms : KmsHost) (configured : Option String)
    (state : KmsState) (key : LocalKey) : Prop where
  drawn : ∃ k < state.supply.nextId, key.keyId = kms.host.idText "key" k
  wrapped : ∃ entry master nonce,
    state.entry key.keyId = some entry ∧
      masterUnder configured state.master = some master ∧
      nonce.length = 12 ∧
      entry = {
        keyId := key.keyId
        createdAt := key.createdAt
        purpose := some key.purpose
        wrapNonce := some (b64Text nonce)
        wrappedMaterial := some (b64Text
          (kms.aead.encrypt master nonce key.material (utf8 key.keyId.toList))) }

theorem Holds.later (fresh : Function.Injective kms.host.uuid4)
    {before after : KmsState} {key : LocalKey}
    (holds : Holds kms configured before key)
    (extended : before.Extends kms.host after) :
    Holds kms configured after key := by
  obtain ⟨⟨k, below, same⟩, entry, master, nonce, found, reads, sized, filled⟩ :=
    holds
  refine ⟨⟨k, Nat.lt_of_lt_of_le below extended.drawn, same⟩, entry, master,
    nonce, ?_, masterUnder_later extended reads, sized, filled⟩
  rw [extended.keys, found]
  intro later above _ equal
  have drawn := idText_injective fresh (same.symm.trans equal)
  omega

theorem Holds.congr {other : Option String} {state : KmsState} {key : LocalKey}
    (holds : Holds kms configured state key)
    (same : textOr configured "" = textOr other "") :
    Holds kms other state key := by
  obtain ⟨drawn, entry, master, nonce, found, reads, rest⟩ := holds
  exact ⟨drawn, entry, master, nonce, found,
    (masterUnder_congr same).symm.trans reads, rest⟩

theorem aesKey_of_length {key : Bytes} (sized : key.length = 32) :
    aesKey key = .ok key := by
  simp [aesKey, sized]

section Keys

variable (state : KmsState)

theorem ensures_readKeys :
    Ensures readKeys state
      (fun keys later => state.keys = some keys ∧ later = state)
      (fun _ later => later = state) := by
  unfold readKeys
  rw [ensures_bind, ensures_get]
  cases present : state.keys with
  | none => rfl
  | some keys => exact ⟨rfl, rfl⟩

theorem ensures_createKey
    (sized : ∀ k size, (kms.tokenBytes k size).length = size)
    (purpose : String) :
    Ensures (createKey kms configured purpose) state
      (fun key later => Holds kms configured later key ∧
        key.material.length = 32 ∧ state.Extends kms.host later)
      (fun _ later => state.Extends kms.host later) := by
  unfold createKey
  -- the identifier, the material and the time are drawn first
  rw [ensures_bind, ensures_focus, ensures_python]
  apply (kms.host.ensures_newId _ "key").mono _
    (fun _ _ impossible => impossible.elim)
  rintro keyId supply ⟨named, rfl⟩
  rw [ensures_bind]
  apply (ensures_tokenBytes _ 32).mono _ (fun _ _ impossible => impossible.elim)
  rintro material drawn ⟨rfl, rfl⟩
  rw [ensures_bind, ensures_focus, ensures_python]
  apply (kms.host.ensures_utcNow _).mono _
    (fun _ _ impossible => impossible.elim)
  rintro createdAt supply rfl
  -- then the master key wraps the material
  rw [ensures_bind]
  have start : state.Extends kms.host _ :=
    @KmsState.Extends.of_same kms.host state
      { state with
        supply := { nextId := state.supply.nextId + 1
                    tick := state.supply.tick + 1 }
        tokens := state.tokens + 1 } (Nat.le_succ _) rfl rfl
  apply (ensures_masterKey _).mono
  · rintro master middle ⟨reads, extended⟩
    have whole := trans_of _ start extended
    rw [ensures_bind]
    apply (ensures_tokenBytes _ 12).mono _
      (fun _ _ impossible => impossible.elim)
    rintro nonce later ⟨rfl, rfl⟩
    rw [aesKey_of_length (length_of_masterUnder reads), lift_ok_bind,
      ensures_bind]
    apply (ensures_readKeys _).mono
    · rintro keys later ⟨present, rfl⟩
      refine ⟨⟨⟨state.supply.nextId, extended.drawn, named⟩, _, master,
        kms.tokenBytes middle.tokens 12, ?_, reads, sized _ 12, rfl⟩,
        sized _ 32, whole.drawn, whole.master, ?_⟩
      · exact Dict.lookup_insert_self keys keyId _
      · intro other undrawn
        rw [← whole.keys other undrawn]
        have different : keyId ≠ other := fun same =>
          undrawn state.supply.nextId (Nat.le_refl _) extended.drawn
            (same.symm.trans named)
        have present : middle.keys = some keys := present
        simp only [KmsState.entry, present, Option.getD_some]
        exact Dict.lookup_insert_ne keys _ different
    · rintro error later rfl
      exact trans_of _ whole (within_tokenBytes 12 middle)
  · intro error later extended
    exact trans_of _ start extended

variable {state} {key : LocalKey}

theorem decryptWith_eq (exact : kms.aead.Exact) {material nonce aad : Bytes}
    (long : material.length = 32) (sized : nonce.length = 12)
    (ciphertext plaintext : Bytes) :
    decryptWith kms material nonce ciphertext aad = .ok plaintext ↔
      ciphertext = kms.aead.encrypt material nonce plaintext aad := by
  have inRange : ¬ (nonce.length < 8 ∨ nonce.length > 128) := by omega
  rw [← exact, decryptWith, aesKey_of_length long]
  simp only [bind, Except.bind, if_neg inRange]
  cases kms.aead.decrypt material nonce ciphertext aad <;> simp

/-- A key that the store holds is the one it gives. -/
theorem getKey_run (exact : kms.aead.Exact)
    (valid : ∃ text, validateIdentifier key.keyId "key id" "key_" = .ok text)
    (holds : Holds kms configured state key) {keys : Dict String KeyEntry}
    (present : state.keys = some keys) :
    getKey kms configured key.keyId state = (.ok key, state) := by
  obtain ⟨text, accepted⟩ := valid
  obtain ⟨-, entry, master, nonce, found, reads, sized, rfl⟩ := holds
  rw [KmsState.entry, present, Option.getD_some] at found
  have unwraps : decryptWith kms master nonce
      (kms.aead.encrypt master nonce key.material (utf8 key.keyId.toList))
      (utf8 key.keyId.toList) = .ok key.material :=
    (decryptWith_eq exact (length_of_masterUnder reads) sized _ _).mpr rfl
  have material : unwrapped kms configured key.keyId {
      keyId := key.keyId
      createdAt := key.createdAt
      purpose := some key.purpose
      wrapNonce := some (b64Text nonce)
      wrappedMaterial := some (b64Text (kms.aead.encrypt master nonce
        key.material (utf8 key.keyId.toList))) } state =
        (.ok key.material, state) := by
    simp only [unwrapped, required, decode_b64Text, lift_ok_bind]
    rw [bind_ok (masterKey_run reads), unwraps]
    rfl
  have reads : readKeys state = (.ok keys, state) := by
    rw [readKeys, get_bind, present]
    rfl
  unfold getKey
  rw [accepted, bind_ok (show python (lift (.ok text)) state = (.ok text, state)
    from rfl), bind_ok reads, found]
  exact bind_ok material

theorem encrypt_run (exact : kms.aead.Exact)
    (valid : ∃ text, validateIdentifier key.keyId "key id" "key_" = .ok text)
    (holds : Holds kms configured state key) (long : key.material.length = 32)
    {keys : Dict String KeyEntry} (present : state.keys = some keys)
    (plaintext aad : Bytes) :
    encrypt kms configured key.keyId plaintext aad state =
      (.ok {
        keyId := some key.keyId
        nonce := some (b64Text (kms.tokenBytes state.tokens 12))
        ciphertext := some (b64Text (kms.aead.encrypt key.material
          (kms.tokenBytes state.tokens 12) plaintext aad))
        algorithm := some "AES-256-GCM" },
        { state with tokens := state.tokens + 1 }) := by
  unfold encrypt
  rw [bind_ok (getKey_run exact valid holds present)]
  have draws : tokenBytes kms 12 state = (.ok (kms.tokenBytes state.tokens 12),
    { state with tokens := state.tokens + 1 }) := rfl
  rw [bind_ok draws, aesKey_of_length long, lift_ok_bind]
  rfl

/-- The envelope holds the plaintext under the key. -/
structure Sealed (kms : KmsHost) (key : LocalKey) (plaintext aad : Bytes)
    (envelope : Envelope) : Prop where
  algorithm : envelope.algorithm = some "AES-256-GCM"
  keyId : envelope.keyId = some key.keyId
  ciphertext : ∃ nonceText nonce ciphertextText,
    envelope.nonce = some nonceText ∧
      b64Bytes nonceText = .ok nonce ∧ nonce.length = 12 ∧
      envelope.ciphertext = some ciphertextText ∧
      b64Bytes ciphertextText =
        .ok (kms.aead.encrypt key.material nonce plaintext aad)

theorem required_eq_ok_iff {value : Option String} {name text : String} :
    required value name = .ok text ↔ value = some text := by
  cases value <;> simp [required]

theorem fst_lift_bind {α β : Type} {result : Except KmsException α}
    {next : α → Program KmsState KmsException β} {value : β} :
    ((lift result >>= next) state).1 = .ok value ↔
      ∃ first, result = .ok first ∧ (next first state).1 = .ok value := by
  cases result with
  | error error => simp [raise]
  | ok first => simp

theorem decrypt_eq_ok_iff (exact : kms.aead.Exact)
    (valid : ∃ text, validateIdentifier key.keyId "key id" "key_" = .ok text)
    (holds : Holds kms configured state key) (long : key.material.length = 32)
    {keys : Dict String KeyEntry} (present : state.keys = some keys)
    {envelope : Envelope} (names : envelope.keyId = some key.keyId)
    (plaintext aad : Bytes) :
    (decrypt kms configured envelope aad state).1 = .ok plaintext ↔
      Sealed kms key plaintext aad envelope := by
  unfold decrypt
  by_cases algorithm : envelope.algorithm = some "AES-256-GCM"
  · rw [if_neg (not_not_intro algorithm), names, required, lift_ok_bind,
      bind_ok (getKey_run exact valid holds present), fst_lift_bind]
    constructor
    · rintro ⟨nonceText, nonceRead, after⟩
      obtain ⟨nonce, nonceDecoded, after⟩ := fst_lift_bind.mp after
      obtain ⟨ciphertextText, ciphertextRead, after⟩ := fst_lift_bind.mp after
      obtain ⟨ciphertext, ciphertextDecoded, after⟩ := fst_lift_bind.mp after
      by_cases sized : nonce.length = 12
      · rw [if_neg (not_not_intro sized)] at after
        rw [(decryptWith_eq exact long sized _ _).mp after] at ciphertextDecoded
        exact ⟨algorithm, names, nonceText, nonce, ciphertextText,
          required_eq_ok_iff.mp nonceRead, nonceDecoded, sized,
          required_eq_ok_iff.mp ciphertextRead, ciphertextDecoded⟩
      · rw [if_pos sized] at after
        cases after
    · rintro ⟨-, -, nonceText, nonce, ciphertextText, nonceRead, nonceDecoded,
        sized, ciphertextRead, ciphertextDecoded⟩
      refine ⟨nonceText, required_eq_ok_iff.mpr nonceRead, ?_⟩
      rw [fst_lift_bind]
      refine ⟨nonce, nonceDecoded, ?_⟩
      rw [fst_lift_bind]
      refine ⟨ciphertextText, required_eq_ok_iff.mpr ciphertextRead, ?_⟩
      rw [fst_lift_bind]
      refine ⟨_, ciphertextDecoded, ?_⟩
      rw [if_neg (not_not_intro sized)]
      exact (decryptWith_eq exact long sized _ _).mpr rfl
  · rw [if_pos algorithm]
    constructor
    · intro raised
      cases raised
    · exact fun sealed => absurd sealed.algorithm algorithm

end Keys

/-! ## What every call keeps -/

theorem within_python {σ α : Type} {rel : σ → σ → Prop}
    {body : Program σ PyException α} (within : Within rel body) :
    Within rel (python body) := by
  intro s
  have related := within s
  unfold python
  rcases run : body s with ⟨_ | _, later⟩ <;> simpa [run] using related

theorem within_init : Within (KmsState.Extends kms.host) init := by
  intro state
  exact ⟨Nat.le_refl _, fun _ same => same, fun _ _ => rfl⟩

theorem within_masterKey :
    Within (KmsState.Extends kms.host) (masterKey kms configured) := fun state =>
  ensures_state_iff.mp ((ensures_masterKey state).mono
    (fun _ _ holds => holds.2) fun _ _ holds => holds)

theorem within_readKeys : Within (KmsState.Extends kms.host) readKeys :=
  fun state => ensures_state_iff.mp ((ensures_readKeys state).mono
    (fun _ later holds => by rw [holds.2]; exact refl_of _ state)
    fun _ later same => by rw [same]; exact refl_of _ state)

theorem within_unwrapped (keyId : String) (entry : KeyEntry) :
    Within (KmsState.Extends kms.host)
      (unwrapped kms configured keyId entry) := by
  unfold unwrapped
  cases entry.wrappedMaterial with
  | some wrappedMaterial =>
      refine within_bind (within_lift _) fun wrapNonce => ?_
      refine within_bind (within_lift _) fun nonce => ?_
      refine within_bind (within_lift _) fun wrapped => ?_
      exact within_bind within_masterKey fun master => within_lift _
  | none => exact within_bind (within_lift _) fun text => within_lift _

theorem within_getKey (keyId : String) :
    Within (KmsState.Extends kms.host) (getKey kms configured keyId) := by
  unfold getKey
  refine within_bind (within_python (within_lift _)) fun _ => ?_
  refine within_bind within_readKeys fun keys => ?_
  cases keys.lookup keyId with
  | none => exact within_raise _
  | some entry =>
      exact within_bind (within_unwrapped keyId entry) fun _ => within_ret _

theorem within_encrypt (keyId : String) (plaintext aad : Bytes) :
    Within (KmsState.Extends kms.host)
      (encrypt kms configured keyId plaintext aad) := by
  unfold encrypt
  refine within_bind (within_getKey keyId) fun key => ?_
  refine within_bind (within_tokenBytes 12) fun nonce => ?_
  exact within_bind (within_lift _) fun _ => within_ret _

theorem within_decrypt (envelope : Envelope) (aad : Bytes) :
    Within (KmsState.Extends kms.host)
      (decrypt kms configured envelope aad) := by
  unfold decrypt
  refine within_ite (within_raise _) ?_
  refine within_bind (within_lift _) fun keyId => ?_
  refine within_bind (within_getKey keyId) fun key => ?_
  refine within_bind (within_lift _) fun nonceText => ?_
  refine within_bind (within_lift _) fun nonce => ?_
  refine within_bind (within_lift _) fun ciphertextText => ?_
  refine within_bind (within_lift _) fun ciphertext => ?_
  exact within_ite (within_raise _) (within_lift _)

end LocalKMS

end Urp
