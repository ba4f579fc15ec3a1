import Mathlib.Data.List.Infix
import Urp.Python.Value

/-!
# Redaction

`redact_details`, which replaces what is stored under a sensitive key.  What
it gives depends on nothing that it replaces, and redacting twice is redacting
once.
-/

namespace Urp

open Python

def sensitiveKeyParts : List String :=
  ["authorization", "api_key", "api-key", "body", "content", "input",
    "message", "messages", "payload", "prompt", "secret", "token"]

def redacted : Value := .str "[redacted]"

section Redaction

/- `lower` is `str.lower`. -/
variable (lower : String → String)

/-- An empty key hint counts as none. -/
def isSensitiveKey (key : String) : Bool :=
  key ≠ "" && sensitiveKeyParts.any fun part =>
    decide (part.toList <:+: (lower key).toList)

mutual

/-- `_redact_value`. -/
def redactValue (keyHint : Option String) (value : Value) : Value :=
  if keyHint.any (isSensitiveKey lower) then redacted
  else
    match value with
    | .dict entries => .dict (redactEntries entries)
    | .list items => .list (redactItems items)
    | value => value

def redactItems : List Value → List Value
  | [] => []
  | item :: rest => redactValue none item :: redactItems rest

def redactEntries : List (String × Value) → List (String × Value)
  | [] => []
  | (key, value) :: rest =>
      (key, redactValue (some key) value) :: redactEntries rest

end

def redactDetails (value : Value) : Value := redactValue lower none value

/-! ## Noninterference -/

mutual

/-- The values differ only in what is stored under sensitive keys. -/
inductive AlikeOutside : Value → Value → Prop where
  | same (value : Value) : AlikeOutside value value
  | list {items others : List Value} (each : ItemsAlikeOutside items others) :
      AlikeOutside (.list items) (.list others)
  | dict {entries others : List (String × Value)}
      (each : EntriesAlikeOutside entries others) :
      AlikeOutside (.dict entries) (.dict others)

inductive ItemsAlikeOutside : List Value → List Value → Prop where
  | nil : ItemsAlikeOutside [] []
  | cons {item other : Value} {items others : List Value}
      (first : AlikeOutside item other)
      (rest : ItemsAlikeOutside items others) :
      ItemsAlikeOutside (item :: items) (other :: others)

inductive EntriesAlikeOutside :
    List (String × Value) → List (String × Value) → Prop where
  | nil : EntriesAlikeOutside [] []
  | sensitive {key : String} {value other : Value}
      {entries others : List (String × Value)}
      (hidden : isSensitiveKey lower key = true)
      (rest : EntriesAlikeOutside entries others) :
      EntriesAlikeOutside ((key, value) :: entries) ((key, other) :: others)
  | cons {key : String} {value other : Value}
      {entries others : List (String × Value)}
      (first : AlikeOutside value other)
      (rest : EntriesAlikeOutside entries others) :
      EntriesAlikeOutside ((key, value) :: entries) ((key, other) :: others)

end

theorem redactValue_hidden {keyHint : Option String}
    (hidden : keyHint.any (isSensitiveKey lower) = true) (value : Value) :
    redactValue lower keyHint value = redacted := by
  unfold redactValue
  exact if_pos hidden

mutual

theorem redactValue_alike {value other : Value}
    (alike : AlikeOutside lower value other) (keyHint : Option String) :
    redactValue lower keyHint value = redactValue lower keyHint other := by
  cases alike with
  | same => rfl
  | list each => simp only [redactValue, redactItems_alike each]
  | dict each => simp only [redactValue, redactEntries_alike each]

theorem redactItems_alike {items others : List Value}
    (alike : ItemsAlikeOutside lower items others) :
    redactItems lower items = redactItems lower others := by
  cases alike with
  | nil => rfl
  | cons first rest =>
      simp only [redactItems, redactValue_alike first none,
        redactItems_alike rest]

theorem redactEntries_alike {entries others : List (String × Value)}
    (alike : EntriesAlikeOutside lower entries others) :
    redactEntries lower entries = redactEntries lower others := by
  cases alike with
  | nil => rfl
  | sensitive hidden rest =>
      rw [redactEntries, redactEntries, redactEntries_alike rest,
        @redactValue_hidden lower (some _) hidden,
        @redactValue_hidden lower (some _) hidden]
  | cons first rest =>
      simp only [redactEntries, redactValue_alike first _,
        redactEntries_alike rest]

end

/-! ## Redacting twice -/

mutual

theorem redactValue_redactValue (keyHint : Option String) (value : Value) :
    redactValue lower keyHint (redactValue lower keyHint value) =
      redactValue lower keyHint value := by
  by_cases hidden : keyHint.any (isSensitiveKey lower) = true
  · rw [redactValue_hidden lower hidden, redactValue_hidden lower hidden]
  · have shown := Bool.eq_false_iff.mpr hidden
    match value with
    | .none | .bool _ | .int _ | .float _ | .str _ | .bytes _ =>
        simp [redactValue, shown]
    | .list items =>
        simp [redactValue, shown, redactItems_redactItems items]
    | .dict entries =>
        simp [redactValue, shown, redactEntries_redactEntries entries]

theorem redactItems_redactItems (items : List Value) :
    redactItems lower (redactItems lower items) = redactItems lower items := by
  match items with
  | [] => rfl
  | item :: rest =>
      simp only [redactItems, redactValue_redactValue none item,
        redactItems_redactItems rest]

theorem redactEntries_redactEntries (entries : List (String × Value)) :
    redactEntries lower (redactEntries lower entries) =
      redactEntries lower entries := by
  match entries with
  | [] => rfl
  | (key, value) :: rest =>
      simp only [redactEntries, redactValue_redactValue (some key) value,
        redactEntries_redactEntries rest]

end

theorem redactDetails_noninterference :
    (∀ value other, AlikeOutside lower value other →
      redactDetails lower value = redactDetails lower other) ∧
      ∀ value, redactDetails lower (redactDetails lower value) =
        redactDetails lower value :=
  ⟨fun _ _ alike => redactValue_alike lower alike none,
    fun value => redactValue_redactValue lower none value⟩

end Redaction

/-- Two requests with other messages and another token. -/
theorem redactDetails_noninterference_sample :
    redactDetails String.toLower (.list [.dict [("Token", .int 1),
        ("model", .str "tiny"), ("nested", .dict [("messages", .list [])])]]) =
      redactDetails String.toLower (.list [.dict [("Token", .dict []),
        ("model", .str "tiny"), ("nested", .dict [("messages", .none)])]]) := by
  have token : isSensitiveKey String.toLower "Token" = true := by
    decide +kernel
  have messages : isSensitiveKey String.toLower "messages" = true := by
    decide +kernel
  have nested : EntriesAlikeOutside String.toLower
      [("messages", .list [])] [("messages", .none)] :=
    .sensitive messages .nil
  have fields := (EntriesAlikeOutside.cons (.same (.str "tiny"))
    (.cons (.dict nested) .nil) : EntriesAlikeOutside String.toLower
      [("model", .str "tiny"), ("nested", _)] [("model", _), ("nested", _)])
  exact (redactDetails_noninterference String.toLower).1 _ _
    (.list (.cons (.dict (.sensitive token fields)) .nil))

end Urp
