import Urp.Host

/-!
# Schema and identifier checks

`validate_named_schema` for each schema that the modelled code uses, on the
records that it is used on: the conditions that the types do not already give.
-/

namespace Urp

open Python

/-! ## Identifiers -/

def isIdentifierChar (c : Char) : Bool :=
  c.isAlphanum || c = '.' || c = '_' || c = '-'

/-- `IDENTIFIER_RE`: an alphanumeric, then up to 127 identifier characters. -/
def isIdentifier (value : String) : Bool :=
  match value.toList with
  | [] => false
  | c :: rest => c.isAlphanum && rest.all isIdentifierChar && rest.length ≤ 127

/-- `validate_identifier`; no identifier is `.` or `..`. -/
def validateIdentifier (value label : String) (start : String := "") :
    Except PyException String :=
  if !isIdentifier value then
    .error (.valueError ("invalid " ++ label ++
      ": expected 1-128 safe identifier characters"))
  else if !(start.toList.isPrefixOf value.toList) then
    .error (.valueError ("invalid " ++ label ++ ": expected prefix " ++ start))
  else .ok value

/-- A validated identifier is returned as it is. -/
theorem validateIdentifier_eq_ok {value label start result : String}
    (checked : validateIdentifier value label start = .ok result) :
    result = value ∧ isIdentifier value = true := by
  unfold validateIdentifier at checked
  split at checked
  · cases checked
  · rename_i identifier
    split at checked
    · cases checked
    · cases checked
      exact ⟨rfl, by simpa using identifier⟩

theorem validateIdentifier_of_isIdentifier {value label : String}
    (identifier : isIdentifier value = true) :
    validateIdentifier value label = .ok value := by
  simp [validateIdentifier, identifier]

/-- A `$` also matches before a final newline. -/
def withoutFinalNewline (text : List Char) : List Char :=
  match text.getLast? with
  | some '\n' => text.dropLast
  | _ => text

/-- The schema pattern `^<start>[A-Za-z0-9_-]+$`. -/
def matchesIdPattern (start value : String) : Bool :=
  let text := withoutFinalNewline value.toList
  start.toList.isPrefixOf text &&
    match text.drop start.length with
    | [] => false
    | rest => rest.all fun c => c.isAlphanum || c = '_' || c = '-'

/-- The schema pattern `^[A-Za-z0-9][A-Za-z0-9._-]*$` with its lengths. -/
def matchesNamePattern (value : String) : Bool :=
  value.length ≤ 128 &&
    match withoutFinalNewline value.toList with
    | [] => false
    | c :: rest => c.isAlphanum && rest.all isIdentifierChar

/-! ## Dates -/

def digitsValue (text : List Char) : Nat := Nat.ofDigitChars 10 text 0

def areDigits (text : List Char) : Bool := text.all Char.isDigit

def daysOfMonth (year month : Nat) : Nat :=
  if month = 2 then
    if year % 4 = 0 ∧ (year % 100 ≠ 0 ∨ year % 400 = 0) then 29 else 28
  else if month ∈ [4, 6, 9, 11] then 30
  else 31

/-- `hh:mm` with the hour below 24 and the minute below 60. -/
def isClockTime : List Char → Bool
  | [p, q, ':', r, s] =>
      areDigits [p, q, r, s] && digitsValue [p, q] < 24 &&
        digitsValue [r, s] < 60
  | _ => false

/-- `Z`, or a sign and an offset. -/
def isOffset : List Char → Bool
  | [] => false
  | c :: rest =>
      if c = 'Z' ∨ c = 'z' then rest.isEmpty
      else (c = '+' || c = '-') && isClockTime rest

/-- Seconds below 60, an optional fraction, and the offset. -/
def isSecondsAndOffset (text : List Char) : Bool :=
  match text with
  | p :: q :: rest =>
      areDigits [p, q] && digitsValue [p, q] < 60 &&
        match rest with
        | '.' :: fraction =>
            (fraction.head?.any Char.isDigit) &&
              isOffset (fraction.dropWhile Char.isDigit)
        | rest => isOffset rest
  | _ => false

/-- An RFC 3339 date-time, the schema format of every time stamp. -/
def isDateTime (value : String) : Bool :=
  match value.toList with
  | y₁ :: y₂ :: y₃ :: y₄ :: '-' :: m₁ :: m₂ :: '-' :: d₁ :: d₂ :: t ::
      h₁ :: h₂ :: ':' :: n₁ :: n₂ :: ':' :: rest =>
      let year := digitsValue [y₁, y₂, y₃, y₄]
      let month := digitsValue [m₁, m₂]
      let day := digitsValue [d₁, d₂]
      areDigits [y₁, y₂, y₃, y₄, m₁, m₂, d₁, d₂] && 1 ≤ year &&
        1 ≤ month && month ≤ 12 && 1 ≤ day && day ≤ daysOfMonth year month &&
        (t = 'T' || t = 't') && isClockTime [h₁, h₂, ':', n₁, n₂] &&
        isSecondsAndOffset rest
  | _ => false

/-- The `date-time` format, which is only checked when the optional check is
installed. -/
def passesDateTime (host : Host) (value : String) : Bool :=
  !host.dateTimeChecked || isDateTime value

/-! ## Named schemas -/

/-- `validate_named_schema`, from whether the value is valid. -/
def validateNamedSchema (schema : String) (valid : Bool) :
    Except PyException Unit :=
  if valid then .ok () else .error (.schemaValidation schema)

def isPayloadRefType : Value → Bool
  | .none | .str _ | .dict _ => true
  | _ => false

/-- Every payload has a type that the schema lists, since a byte string is
validated as the object that encodes it. -/
def validateWorkUnit (host : Host) (workUnit : WorkUnit) :
    Except PyException Unit :=
  validateNamedSchema "work_unit" <|
    matchesIdPattern "wu_" workUnit.id && workUnit.tenant != "" &&
      workUnit.logicalRef != "" && passesDateTime host workUnit.createdAt &&
      isPayloadRefType workUnit.payloadRef &&
      (workUnit.deadline.all (passesDateTime host)) &&
      (workUnit.latencyBudgetMs.all fun budget => 0 ≤ budget)

def isValidLedgerEvent (host : Host) (event : LedgerEvent) : Bool :=
  matchesIdPattern "evt_" event.eventId && event.tenant != "" &&
    passesDateTime host event.createdAt

def validateLedgerEvent (host : Host) (event : LedgerEvent) :
    Except PyException Unit :=
  validateNamedSchema "ledger_event" (isValidLedgerEvent host event)

/-- `integer` of a JSON schema: a float without a fraction counts. -/
def isInteger : Value → Bool
  | .int _ => true
  | .float (.finite text) => text.toRat.den == 1
  | _ => false

def isString : Value → Bool
  | .str _ => true
  | _ => false

/-- Non-empty strings, each once. -/
def isStringList (items : List String) : Bool :=
  decide items.Nodup && items.all fun item => item != ""

def isOneOf (allowed : List String) (value : Option String) : Bool :=
  value.all fun text => text ∈ allowed

def isContractName (name : String) : Bool := (Contract.ofValue? name).isSome

def isValidRule (rule : PolicyRule) : Bool :=
  (rule.name.any fun name => name != "" && name.length ≤ 128) &&
    rule.matching.isSome && rule.contract.any isContractName &&
    isStringList rule.allowedTransforms &&
    isStringList rule.deniedTransforms && isStringList rule.verifiers &&
    (rule.require.all fun required =>
      required.maxCacheAge.all fun age => isString age || isInteger age) &&
    rule.modelAllowlist.all isStringList

def isValidDefaults (defaults : PolicyDefaults) : Bool :=
  defaults.contract.any isContractName &&
    isOneOf ["allow", "deny"] defaults.semanticReduction &&
    isOneOf ["allow", "deny"] defaults.approximateReduction &&
    isOneOf ["allow", "deny"] defaults.crossTenantDedupe &&
    isOneOf ["allow", "deny"] defaults.crossTenantCache &&
    isOneOf ["tenant", "tenant_namespace"] defaults.dedupeDomain &&
    isOneOf ["tenant", "tenant_namespace"] defaults.cacheDomain &&
    (defaults.modelAllowlist.all fun models =>
      !models.isEmpty && isStringList models)

def isValidMetadata (metadata : PolicyMetadata) : Bool :=
  metadata.name.any matchesNamePattern &&
    metadata.version.all matchesNamePattern &&
    (metadata.tenant.all fun tenant => tenant != "") &&
    (metadata.labels.all fun labels => labels.values.all isString)

def isValidBundle (bundle : PolicyBundle) : Bool :=
  bundle.apiVersion == some "urp.dev/v1" &&
    bundle.kind == some "ReductionPolicy" &&
    bundle.metadata.any isValidMetadata &&
    bundle.spec.any fun spec =>
      spec.defaults.any isValidDefaults &&
        spec.rules.any fun rules => rules.all isValidRule

def validatePolicyBundle (bundle : PolicyBundle) : Except PyException Unit :=
  validateNamedSchema "policy" (isValidBundle bundle)

end Urp
