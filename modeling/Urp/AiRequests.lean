import Urp.AiRouter
import Urp.Context
import Urp.SemanticCache

/-!
# Requests and replies of the AI gateway

Normalization of a chat request, the options that it carries, and the checks
that a provider's reply has to pass.
-/

namespace Urp

open Python

/-! ## Numbers from untyped values -/

/-- A text that `float` or `int` reads. -/
def numeral? : Value → Option String
  | .str text => some text
  | .bytes b => (decodeUtf8 b).map String.ofList
  | _ => none

/-- `float(value)`, as far as it can be compared; `none` is NaN. -/
def floatOf (host : Host) (value : Value) :
    Except PyException (Option Number) :=
  match value with
  | .bool b => .ok (some (.finite (if b then 1 else 0)))
  | .int n =>
      if 2 ^ 1024 - 2 ^ 970 ≤ n.natAbs then .error .overflowError
      else .ok (some (.finite n))
  | .float f => .ok f.number?
  | .str _ | .bytes _ =>
      match (numeral? value).bind host.floatOfText with
      | some f => .ok f.number?
      | none => .error .libraryValueError
  | _ => .error .typeError

/-- `int(value)`, which cuts a fraction off. -/
def intOf (host : Host) (value : Value) : Except PyException Int :=
  match value with
  | .bool b => .ok (if b then 1 else 0)
  | .int n => .ok n
  | .float (.finite text) => .ok (text.toRat.num.tdiv text.toRat.den)
  | .float (.infinity _) => .error .overflowError
  | .float .nan => .error .libraryValueError
  | .str _ | .bytes _ =>
      match (numeral? value).bind host.intOfText with
      | some n => .ok n
      | none => .error .libraryValueError
  | _ => .error .typeError

/-! ## Chat requests -/

/-- A normalized request with its messages and its options. -/
structure NormalizedRequest where
  data : Object
  messages : List Object
  options : Object
  messages_eq : data.lookup "messages" =
    some (.list (messages.map Object.toValue))
  options_eq : data.lookup "urp" = some options.toValue

/-- A part of a message's content. -/
def normalizePart (part : Value) : Value :=
  match part with
  | .dict entries =>
      let item := Object.ofList entries
      match item.get "type", item.get "text" with
      | .str "text", .str text =>
          Object.toValue (item.insert "text" (.str (strip text)))
      | _, _ => item.toValue
  | part => part

def normalizeMessage (host : Host) (message : Value) :
    Except PyException Object :=
  match message with
  | .dict entries =>
      let message := Object.ofList entries
      let role := host.str (message.getD "role" (.str "user"))
      let content := match message.getD "content" (.str "") with
        | .str text => .str (strip text)
        | .list parts => .list (parts.map normalizePart)
        | content => .str (host.str content)
      .ok ((message.insert "role" (.str role)).insert "content" content)
  | _ => .error (.valueError "each chat message must be an object")

/-- `data.setdefault(key, value)`. -/
def Object.setDefault (data : Object) (key : String) (value : Value) : Object :=
  if data.contains key then data else data.insert key value

def requestOptions (request : Object) : Except PyException Object :=
  match request.get "urp" with
  | .none => .ok ∅
  | .dict entries => .ok (.ofList entries)
  | _ => .error (.valueError "urp options must be an object")

/-- The dictionary that normalization builds. -/
def normalizedData (request : Object) (messages : List Object)
    (options : Object) : Object :=
  let kept := request.erase "stream_options"
  let modelled := kept.insert "model" (request.getD "model" (.str "auto"))
  let listed := modelled.insert "messages"
    (.list (messages.map Object.toValue))
  let warmed := Object.setDefault listed "temperature" (.int 0)
  let defaulted := Object.setDefault warmed "tools" (.list [])
  defaulted.insert "urp" options.toValue

theorem Object.lookup_setDefault {data : Object} {key other : String}
    (different : key ≠ other) (value : Value) :
    Dict.lookup (data.setDefault key value) other = data.lookup other := by
  unfold setDefault
  split
  · rfl
  · rw [Dict.lookup_insert, if_neg different]

def normalizedRequest (request : Object) (messages : List Object)
    (options : Object) : NormalizedRequest where
  data := normalizedData request messages options
  messages := messages
  options := options
  messages_eq := by
    unfold normalizedData
    rw [Dict.lookup_insert, if_neg (by decide),
      Object.lookup_setDefault (by decide),
      Object.lookup_setDefault (by decide), Dict.lookup_insert_self]
  options_eq := Dict.lookup_insert_self _ _ _

def normalizeOpenaiRequest (host : Host) (request : Object) :
    Except PyException NormalizedRequest :=
  if (request.get "stream").isTrue then
    .error (.valueError
      "streaming chat completions are not supported by the local gateway")
  else
    match request.get "messages" with
    | .list (first :: rest) => do
        let options ← requestOptions request
        let messages ← (first :: rest).mapM (normalizeMessage host)
        .ok (normalizedRequest request messages options)
    | _ => .error (.valueError "messages must be a non-empty array")

/-- The texts of the text parts of a content, one a line. -/
def textParts (host : Host) (parts : List Value) : String :=
  String.intercalate "\n" (parts.filterMap fun part =>
    match part with
    | .dict entries =>
        match Value.get entries "type" with
        | .str "text" => some (host.str (Value.getD entries "text" (.str "")))
        | _ => none
    | _ => none)

/-- `_last_user_text`. -/
def lastUserText (host : Host) (messages : List Object) : String :=
  match messages.reverse.find? fun message => roleText message == "user" with
  | none => ""
  | some message =>
      match message.getD "content" (.str "") with
      | .list parts => textParts host parts
      | content => host.str content

/-- `map(str, items)`. -/
def iterTexts (host : Host) (items : Value) :
    Except PyException (List String) :=
  match items with
  | .list items => .ok (items.map host.str)
  | .dict entries => .ok (entries.map Prod.fst)
  | .str text => .ok (text.toList.map fun c => String.ofList [c])
  | .bytes b => .ok (b.map fun byte => toString byte.toNat)
  | _ => .error .typeError

/-- The hashes of the governed messages. -/
def messageFingerprints (messages : List Object) : Finset String :=
  ((messages.filter isGoverned).map fun message =>
    stableJsonHash message.toValue).toFinset

/-- `_source_fingerprints`: the client's own, or those of the messages. -/
def sourceFingerprints (host : Host) (normalized : NormalizedRequest) :
    Except PyException (Finset String) :=
  let explicit := normalized.options.get "source_fingerprints"
  if explicit.isTruthy then do
    let items ← iterTexts host explicit
    .ok items.toFinset
  else .ok (messageFingerprints normalized.messages)

/-- `_cache_ttl_seconds`; `none` is NaN, which no bound excludes. -/
def cacheTtlSeconds (host : Host) (options : Object) :
    Except PyException (Option ℚ) :=
  let outOfRange := PyException.valueError
    "cache_ttl_seconds must be between 0 and 86400"
  match floatOf host (options.getD "cache_ttl_seconds"
      (options.getD "freshness_required_seconds" (.int 3600))) with
  | .error .overflowError => .error .overflowError
  | .error _ => .error (.valueError "cache_ttl_seconds must be numeric")
  | .ok none => .ok none
  | .ok (some (.infinity _)) => .error outOfRange
  | .ok (some (.finite q)) =>
      if q < 0 ∨ 86400 < q then .error outOfRange else .ok (some q)

/-! ## Models -/

/-- `"frontier" if "frontier" in models else models[-1]`. -/
def strongestModel (models : List String) : Except PyException String :=
  if "frontier" ∈ models then .ok "frontier"
  else
    match models.getLast? with
    | some model => .ok model
    | none => .error .indexError

/-- `str(request.get("model", "auto"))`. -/
def requestedModel (host : Host) (request : Object) : String :=
  host.str (request.getD "model" (.str "auto"))

/-- `_baseline_model`. -/
def baselineModel (host : Host) (request : Object)
    (allowedModels : List String) : Except PyException String :=
  let requested := requestedModel host request
  if requested ∉ ["", "auto"] then .ok requested
  else strongestModel allowedModels

/-- `_fallback_model`. -/
def fallbackModel (requested : String) (allowedModels : List String) :
    Except PyException String :=
  if requested ∈ allowedModels then .ok requested
  else strongestModel allowedModels

theorem strongestModel_mem {models : List String} {model : String}
    (chosen : strongestModel models = .ok model) : model ∈ models := by
  unfold strongestModel at chosen
  split at chosen
  · cases chosen
    assumption
  · split at chosen
    · rename_i last found
      cases chosen
      exact List.mem_of_getLast? found
    · cases chosen

/-! ## Verifiers -/

def verifyNonEmptyText (text : String) : VerificationResult where
  accepted := strip text != ""
  verifierId := "non_empty_text@0"
  reason := if strip text = "" then "empty" else "non_empty"

/-- `response["choices"][0]["message"]["content"]`. -/
def assistantContent (response : Value) : Option Value := do
  let entries ← response.entries?
  let .list (choice :: _) ← Entries.lookup entries "choices" | none
  let choice ← choice.entries?
  let message ← Entries.lookup choice "message"
  let message ← message.entries?
  Entries.lookup message "content"

/-- `_verify_chat_response`. -/
def verifyChatResponse (host : Host) (response : Value) : VerificationResult :=
  match assistantContent response with
  | none =>
      { accepted := false
        verifierId := "chat_completion_shape@1"
        reason := "missing_assistant_content" }
  | some content => verifyNonEmptyText (host.str content)

/-- The names of verifiers without their versions. -/
def verifierNames (required : List String) : List String :=
  required.map fun name => String.ofList (name.toList.takeWhile (· ≠ '@'))

def unsupportedVerifiers (supported required : List String) : List String :=
  sortedSet ((verifierNames required).filter (· ∉ supported))

/-- `response.get("choices", [{}])[0].get("message", {}).get("content", "")`. -/
def citedContent (response : Value) : Except PyException Value :=
  match response with
  | .dict entries =>
      match Value.getD entries "choices" (.list [.dict []]) with
      | .list (.dict choice :: _) =>
          match Value.getD choice "message" (.dict []) with
          | .dict message => .ok (Value.getD message "content" (.str ""))
          | _ => .error .attributeError
      | .list [] | .str "" | .bytes [] => .error .indexError
      | .list _ | .str _ | .bytes _ => .error .attributeError
      | .dict _ => .error (.keyError "0")
      | _ => .error .typeError
  | _ => .error .attributeError

def citationMarkers : List String :=
  ["[source", "[1]", "citation", "http://", "https://"]

-- The fingerprints are never `None`, so that the check of the source
-- fingerprints always runs.
def verifyRequiredAiVerifiers (host : Host) (required : List String)
    (primary : VerificationResult) (response : Value)
    (sourceFingerprints : Finset String) (workUnitId : String) :
    Except PyException Unit :=
  let names := verifierNames required
  let unsupported := unsupportedVerifiers ["non_empty_text",
    "fallback_available", "source_fingerprint_match", "source_consistency",
    "freshness_check", "answer_citation_check"] required
  if unsupported ≠ [] then
    .error (verifierFailed "required AI verifier is not implemented"
      workUnitId (.ofList [("unsupported", texts unsupported)]))
  else if "non_empty_text" ∈ names ∧ primary.accepted = false then
    .error (verifierFailed "required non-empty text verifier failed"
      workUnitId primary.toDict)
  else if "answer_citation_check" ∈ names ∧ sourceFingerprints ≠ ∅ then do
    let content ← citedContent response
    let text := host.casefold (host.str content)
    if citationMarkers.any fun marker => occursIn marker text then .ok ()
    else
      .error (verifierFailed "required answer citation verifier failed"
        workUnitId (.ofList [("required", .str "answer_citation_check")]))
  else .ok ()

end Urp
