import Urp.Host

/-!
# Payload encoding

`encode_json_value`, which replaces every byte string by a base64 envelope,
`decode_json_value`, which puts the bytes back, and `payload_to_bytes`.
-/

namespace Urp

open Python

/-! ## Base64 -/

namespace Base64

/-- The value of a base64 digit. -/
def digitValue (c : Char) : Option Nat :=
  if 'A' ≤ c ∧ c ≤ 'Z' then some (c.toNat - 65)
  else if 'a' ≤ c ∧ c ≤ 'z' then some (c.toNat - 71)
  else if '0' ≤ c ∧ c ≤ '9' then some (c.toNat + 4)
  else if c = '+' then some 62
  else if c = '/' then some 63
  else none

/-- The bytes of groups of four digits; a shorter last group drops the bits
that do not fill a byte. -/
def groupBytes : List Nat → Bytes
  | a :: b :: c :: d :: rest =>
      .ofNat (4 * a + b / 16) :: .ofNat (16 * (b % 16) + c / 4) ::
        .ofNat (64 * (c % 4) + d) :: groupBytes rest
  | [a, b, c] => [.ofNat (4 * a + b / 16), .ofNat (16 * (b % 16) + c / 4)]
  | [a, b] => [.ofNat (4 * a + b / 16)]
  | _ => []

/-- Padding that `a2b_base64` accepts after this many digits, given at most
two pad characters: more than needed is ignored. -/
def isPadded (digits pads : Nat) : Bool :=
  match digits % 4 with
  | 0 => true
  | 1 => false
  | 2 => pads == 2
  | _ => 1 ≤ pads

/-- `base64.b64decode(text, validate=True)`. -/
def decode (text : List Char) : Option Bytes :=
  let digits := text.takeWhile (· ≠ '=')
  let pads := text.dropWhile (· ≠ '=')
  match digits.mapM digitValue with
  | none => none
  | some values =>
      if pads.all (· = '=') ∧ pads.length ≤ 2 ∧
          isPadded digits.length pads.length then
        some (groupBytes values)
      else none

example : decode "aGk=".toList = some [104, 105] := by decide

def digits : List Char :=
  "ABCDEFGHIJKLMNOPQRSTUVWXYZabcdefghijklmnopqrstuvwxyz0123456789+/".toList

def digit (value : Nat) : Char := digits.getD (value % 64) 'A'

/-- `base64.b64encode(data)`. -/
def encode : Bytes → List Char
  | [] => []
  | [a] => [digit (a.toNat / 4), digit (a.toNat * 16), '=', '=']
  | [a, b] =>
      [digit (a.toNat / 4), digit (a.toNat * 16 + b.toNat / 16),
        digit (b.toNat * 4), '=']
  | a :: b :: c :: rest =>
      digit (a.toNat / 4) :: digit (a.toNat * 16 + b.toNat / 16) ::
        digit (b.toNat * 4 + c.toNat / 64) :: digit c.toNat :: encode rest

example : encode [104, 105, 33, 255] = "aGkh/w==".toList := by decide

/-- The six-bit groups of a byte string. -/
def sextets : Bytes → List Nat
  | [] => []
  | [a] => [a.toNat / 4, a.toNat * 16 % 64]
  | [a, b] =>
      [a.toNat / 4, (a.toNat * 16 + b.toNat / 16) % 64, b.toNat * 4 % 64]
  | a :: b :: c :: rest =>
      a.toNat / 4 :: (a.toNat * 16 + b.toNat / 16) % 64 ::
        (b.toNat * 4 + c.toNat / 64) % 64 :: c.toNat % 64 :: sextets rest

/-- The pad characters of a byte string. -/
def padding : Bytes → Nat
  | [] => 0
  | [_] => 2
  | [_, _] => 1
  | _ :: _ :: _ :: rest => padding rest

theorem digitValue_getD : ∀ value < 64,
    digitValue (digits.getD value 'A') = some value := by
  decide +kernel

theorem digitValue_digit (value : Nat) :
    digitValue (digit value) = some (value % 64) :=
  digitValue_getD _ (Nat.mod_lt _ (by decide))

theorem digit_ne_pad (value : Nat) : digit value ≠ '=' := by
  intro pad
  have read := digitValue_digit value
  rw [pad] at read
  cases read

theorem digit_mod (value : Nat) : digit (value % 64) = digit value := by
  simp only [digit, Nat.mod_mod]

theorem encode_eq (data : Bytes) :
    encode data =
      (sextets data).map digit ++ List.replicate (padding data) '=' := by
  induction data using encode.induct with
  | case1 => rfl
  | case2 a => simp [encode, sextets, padding, digit_mod, List.replicate_succ]
  | case3 a b => simp [encode, sextets, padding, digit_mod]
  | case4 a b c rest ih => simp [encode, sextets, padding, digit_mod, ih]

theorem sextets_lt (data : Bytes) : ∀ value ∈ sextets data, value < 64 := by
  induction data using encode.induct with
  | case1 => nofun
  | case2 a =>
      have bound := a.toNat_lt
      simp only [sextets, List.forall_mem_cons]
      exact ⟨by omega, by omega, nofun⟩
  | case3 a b =>
      have bound := a.toNat_lt
      simp only [sextets, List.forall_mem_cons]
      exact ⟨by omega, by omega, by omega, nofun⟩
  | case4 a b c rest ih =>
      have bound := a.toNat_lt
      simp only [sextets, List.forall_mem_cons]
      exact ⟨by omega, by omega, by omega, by omega, ih⟩

theorem groupBytes_sextets (data : Bytes) : groupBytes (sextets data) = data := by
  have byte : ∀ (n : Nat) (a : UInt8), n % 256 = a.toNat → UInt8.ofNat n = a := by
    intro n a same
    apply UInt8.toNat_inj.mp
    rw [UInt8.toNat_ofNat']
    exact same
  induction data using encode.induct with
  | case1 => rfl
  | case2 a =>
      have bound := a.toNat_lt
      rw [sextets, groupBytes, byte _ a (by omega)]
  | case3 a b =>
      have bound := a.toNat_lt
      have next := b.toNat_lt
      rw [sextets, groupBytes, byte _ a (by omega), byte _ b (by omega)]
  | case4 a b c rest ih =>
      have bound := a.toNat_lt
      have next := b.toNat_lt
      have last := c.toNat_lt
      rw [sextets, groupBytes, byte _ a (by omega), byte _ b (by omega),
        byte _ c (by omega), ih]

theorem mapM_digitValue {values : List Nat} (bound : ∀ value ∈ values, value < 64) :
    (values.map digit).mapM digitValue = some values := by
  induction values with
  | nil => rfl
  | cons value rest ih =>
      obtain ⟨small, others⟩ := List.forall_mem_cons.mp bound
      rw [List.map_cons, List.mapM_cons, digitValue_digit,
        Nat.mod_eq_of_lt small, ih others]
      rfl

theorem padding_le (data : Bytes) : padding data ≤ 2 := by
  induction data using encode.induct with
  | case1 | case2 | case3 => simp [padding]
  | case4 a b c rest ih => exact ih

theorem isPadded_sextets (data : Bytes) :
    isPadded (sextets data).length (padding data) = true := by
  induction data using encode.induct with
  | case1 | case2 | case3 => rfl
  | case4 a b c rest ih =>
      simp only [sextets, padding, List.length_cons, isPadded] at ih ⊢
      rw [show (sextets rest).length + 1 + 1 + 1 + 1 =
        (sextets rest).length + 4 from rfl, Nat.add_mod_right]
      exact ih

/-- Decoding undoes encoding. -/
theorem decode_encode (data : Bytes) : decode (encode data) = some data := by
  have body : ∀ c ∈ (sextets data).map digit, decide (c ≠ '=') = true := by
    intro c member
    obtain ⟨value, -, rfl⟩ := List.mem_map.mp member
    exact decide_eq_true (digit_ne_pad value)
  have pads : (List.replicate (padding data) '=').takeWhile (· ≠ '=') = [] ∧
      (List.replicate (padding data) '=').dropWhile (· ≠ '=') =
        List.replicate (padding data) '=' := by
    cases padding data <;> exact ⟨rfl, rfl⟩
  unfold decode
  rw [encode_eq, List.takeWhile_append_of_pos body,
    List.dropWhile_append_of_pos body, pads.1, pads.2, List.append_nil]
  simp only [mapM_digitValue (sextets_lt data), List.length_map,
    List.length_replicate]
  rw [if_pos ⟨by simp, padding_le data, isPadded_sextets data⟩,
    groupBytes_sextets]

end Base64

/-! ## Envelopes -/

def encodingKey : String := "_urp_encoding"

def invalidEnvelope : PyException :=
  .valueError "invalid URP base64 payload envelope"

/-- The data of an envelope: exactly the two keys, and `base64`. -/
def envelopeData? (entries : List (String × Value)) : Option Value :=
  if entries.length = 2 then
    match Entries.lookup entries encodingKey,
        Entries.lookup entries "data" with
    | some (.str "base64"), some data => some data
    | _, _ => none
  else none

mutual

def encodeJsonValue : Value → Value
  | .bytes b =>
      .dict [(encodingKey, .str "base64"),
        ("data", .str (String.ofList (Base64.encode b)))]
  | .dict entries => .dict (encodeEntries entries)
  | .list items => .list (encodeList items)
  | value => value

def encodeList : List Value → List Value
  | [] => []
  | item :: rest => encodeJsonValue item :: encodeList rest

def encodeEntries : List (String × Value) → List (String × Value)
  | [] => []
  | (key, value) :: rest => (key, encodeJsonValue value) :: encodeEntries rest

end

section Decoding

variable (host : Host)

mutual

def decodeJsonValue : Value → Except PyException Value
  | .dict entries =>
      match envelopeData? entries with
      | some data =>
          match Base64.decode (host.str data).toList with
          | some bytes => .ok (.bytes bytes)
          | none => .error invalidEnvelope
      | none => do
          let entries ← decodeEntries entries
          .ok (.dict entries)
  | .list items => do
      let items ← decodeList items
      .ok (.list items)
  | value => .ok value

def decodeList : List Value → Except PyException (List Value)
  | [] => .ok []
  | item :: rest => do
      let item ← decodeJsonValue item
      let rest ← decodeList rest
      .ok (item :: rest)

def decodeEntries :
    List (String × Value) → Except PyException (List (String × Value))
  | [] => .ok []
  | (key, value) :: rest => do
      let value ← decodeJsonValue value
      let rest ← decodeEntries rest
      .ok ((key, value) :: rest)

end

/-- `json.dumps(value, sort_keys=True, default=str)` writes a byte string as
its text. -/
def payloadToBytes (payload : Value) : Except PyException Bytes := do
  match ← decodeJsonValue host payload with
  | .none => .ok []
  | .bytes bytes => .ok bytes
  | .str text => .ok (utf8 text.toList)
  | value => .ok (utf8 (Json.dumps .spaced value))

end Decoding

end Urp
