import Urp.Encoding

/-!
# The Go client

The request bodies of `Client.Execute` and `Client.CreatePlan`, with the parts
of `encoding/json` that they use.  Both bodies embed a `WorkUnit`, whose
promoted `MarshalJSON` writes the whole body.
-/

namespace Urp

open Python

namespace Go

inductive JsonError where
  | unsupportedValue
  | unsupportedType
  | syntaxError
  deriving DecidableEq

/-- A value behind the type `any`; `other` is one of a type that the client
does not look into, with what `json.Marshal` makes of it.  Nil slices and maps
are written like `nil`. -/
inductive Any where
  | nil
  | bool (b : Bool)
  | int (n : Int)
  | float (f : PyFloat)
  | string (s : String)
  | bytes (b : Bytes)
  | slice (items : List Any)
  | map (entries : List (String × Any))
  | other (json : Except JsonError Value)

/-- Object keys are written in order. -/
def inKeyOrder (entries : List (String × Value)) : List (String × Value) :=
  entries.insertionSort fun p q => p.1 ≤ q.1

mutual

/-- `json.Marshal` of a value. -/
def Any.marshal : Any → Except JsonError Value
  | .nil => .ok .none
  | .bool b => .ok (.bool b)
  | .int n => .ok (.int n)
  | .float (.finite text) => .ok (.float (.finite text))
  | .float _ => .error .unsupportedValue
  | .string s => .ok (.str s)
  | .bytes b => .ok (.str (String.ofList (Base64.encode b)))
  | .slice items => do
      let items ← marshalItems items
      .ok (.list items)
  | .map entries => do
      let entries ← marshalEntries entries
      .ok (.dict (inKeyOrder entries))
  | .other json => json

def marshalItems : List Any → Except JsonError (List Value)
  | [] => .ok []
  | item :: rest => do
      let item ← item.marshal
      let rest ← marshalItems rest
      .ok (item :: rest)

def marshalEntries :
    List (String × Any) → Except JsonError (List (String × Value))
  | [] => .ok []
  | (key, value) :: rest => do
      let value ← value.marshal
      let rest ← marshalEntries rest
      .ok ((key, value) :: rest)

end

section Unmarshal

-- A number read into a `float64` and written again.
variable (float64 : Value → Except JsonError Value)

mutual

/-- `json.Unmarshal` into an `any` and `json.Marshal` of the result. -/
def reread : Value → Except JsonError Value
  | .int n => float64 (.int n)
  | .float f => float64 (.float f)
  | .list items => do
      let items ← rereadItems items
      .ok (.list items)
  | .dict entries => do
      let entries ← rereadEntries entries
      .ok (.dict (inKeyOrder entries))
  | value => .ok value

def rereadItems : List Value → Except JsonError (List Value)
  | [] => .ok []
  | item :: rest => do
      let item ← reread item
      let rest ← rereadItems rest
      .ok (item :: rest)

def rereadEntries :
    List (String × Value) → Except JsonError (List (String × Value))
  | [] => .ok []
  | (key, value) :: rest => do
      let value ← reread value
      let rest ← rereadEntries rest
      .ok ((key, value) :: rest)

end

end Unmarshal

/-! ## Structs -/

/-- A struct that embeds another: the `MarshalJSON` method that it promotes,
if the embedded type has one, and the fields. -/
structure Struct where
  marshalJSON : Option (Except JsonError Value)
  fields : List (String × Any)

/-- `json.Marshal` of a struct: a method of its method set comes before the
fields. -/
def Struct.marshal (struct : Struct) : Except JsonError Value :=
  match struct.marshalJSON with
  | some encoded => encoded
  | none => do
      let fields ← marshalEntries struct.fields
      .ok (.dict fields)

/-! ## Work units -/

structure WorkUnit where
  id : String
  traceId : String
  createdAt : String
  kind : String
  tenant : String
  nameSpace : String
  logicalRef : String
  requestedContract : String
  effectiveContract : String
  metadata : List (String × Any)
  policyContext : List (String × Any)
  payload : Any
  payloadRef : Any
  deadline : String
  latencyBudgetMs : Option Int
  qualityTarget : List (String × Any)

/-- The `omitempty` option by the type of the field. -/
def textField (key text : String) : List (String × Any) :=
  if text = "" then [] else [(key, .string text)]

def mapField (key : String) (entries : List (String × Any)) :
    List (String × Any) :=
  if entries.isEmpty then [] else [(key, .map entries)]

def anyField (key : String) : Any → List (String × Any)
  | .nil => []
  | value => [(key, value)]

def pointerField (key : String) : Option Int → List (String × Any)
  | none => []
  | some n => [(key, .int n)]

namespace WorkUnit

/-- The fields of `workUnitAlias`. -/
def aliasFields (w : WorkUnit) : List (String × Any) :=
  textField "id" w.id ++ textField "trace_id" w.traceId ++
    textField "created_at" w.createdAt ++
    [("kind", .string w.kind), ("tenant", .string w.tenant)] ++
    textField "namespace" w.nameSpace ++
    [("logical_ref", .string w.logicalRef)] ++
    textField "requested_contract" w.requestedContract ++
    textField "effective_contract" w.effectiveContract ++
    mapField "metadata" w.metadata ++
    mapField "policy_context" w.policyContext ++
    anyField "payload" w.payload ++ anyField "payload_ref" w.payloadRef ++
    textField "deadline" w.deadline ++
    pointerField "latency_budget_ms" w.latencyBudgetMs ++
    mapField "quality_target" w.qualityTarget

end WorkUnit

mutual

/-- `encodeJSONValue`. -/
def encodeJSONValue : Any → Any
  | .bytes b =>
      .map [("_urp_encoding", .string "base64"),
        ("data", .string (String.ofList (Base64.encode b)))]
  | .map entries => .map (encodeJSONEntries entries)
  | .slice items => .slice (encodeJSONItems items)
  | value => value

def encodeJSONItems : List Any → List Any
  | [] => []
  | item :: rest => encodeJSONValue item :: encodeJSONItems rest

def encodeJSONEntries : List (String × Any) → List (String × Any)
  | [] => []
  | (key, value) :: rest => (key, encodeJSONValue value) :: encodeJSONEntries rest

end

/-- `value[key] = encodeJSONValue(item)` for an item that is not nil. -/
def withEncoded (value : List (String × Any)) (key : String) :
    Any → List (String × Any)
  | .nil => value
  | item => Entries.insert value key (encodeJSONValue item)

section Requests

variable (float64 : Value → Except JsonError Value)

/-- `WorkUnit.MarshalJSON`. -/
def WorkUnit.marshalJSON (w : WorkUnit) : Except JsonError Value := do
  let encoded ← (Struct.mk none w.aliasFields).marshal
  let value ← match encoded with
    | .dict entries => rereadEntries float64 entries
    | _ => .error .syntaxError
  let value := value.map fun entry => (entry.1, Any.other (.ok entry.2))
  let value := withEncoded value "payload" w.payload
  let value := withEncoded value "payload_ref" w.payloadRef
  (Any.map value).marshal

/-- The anonymous struct that `CreatePlan` and `Execute` post. -/
def modeRequest (w : WorkUnit) (mode : String) : Struct where
  marshalJSON := some (w.marshalJSON float64)
  fields := w.aliasFields ++ [("mode", .string mode)]

/-- The mode that a call selects: its argument, or the call's own. -/
def selectedMode (fallback : String) : List String → String
  | [] => fallback
  | mode :: _ => if mode = "" then fallback else mode

/-- The body that `Client.Execute` posts. -/
def executeBody (w : WorkUnit) (mode : List String) : Except JsonError Value :=
  (modeRequest float64 w (selectedMode "enforce" mode)).marshal

/-- The body that `Client.CreatePlan` posts. -/
def createPlanBody (w : WorkUnit) (mode : List String) :
    Except JsonError Value :=
  (modeRequest float64 w (selectedMode "observe" mode)).marshal

end Requests

/-! ## The mode in the body -/

theorem keys_marshalEntries {entries : List (String × Any)}
    {fields : List (String × Value)}
    (encoded : marshalEntries entries = .ok fields) :
    fields.map Prod.fst = entries.map Prod.fst := by
  induction entries generalizing fields with
  | nil =>
      cases encoded
      rfl
  | cons entry rest ih =>
      obtain ⟨key, value⟩ := entry
      obtain ⟨field, -, encoded⟩ := Program.except_bind_eq_ok_iff.mp encoded
      obtain ⟨later, restRun, encoded⟩ :=
        Program.except_bind_eq_ok_iff.mp encoded
      cases encoded
      rw [List.map_cons, List.map_cons, ih restRun]

theorem keys_rereadEntries {float64 : Value → Except JsonError Value}
    {entries fields : List (String × Value)}
    (read : rereadEntries float64 entries = .ok fields) :
    fields.map Prod.fst = entries.map Prod.fst := by
  induction entries generalizing fields with
  | nil =>
      cases read
      rfl
  | cons entry rest ih =>
      obtain ⟨key, value⟩ := entry
      obtain ⟨field, -, read⟩ := Program.except_bind_eq_ok_iff.mp read
      obtain ⟨later, restRun, read⟩ := Program.except_bind_eq_ok_iff.mp read
      cases read
      rw [List.map_cons, List.map_cons, ih restRun]

/-- The names of the fields of a work unit. -/
def WorkUnit.fieldNames : List String :=
  ["id", "trace_id", "created_at", "kind", "tenant", "namespace", "logical_ref",
    "requested_contract", "effective_contract", "metadata", "policy_context",
    "payload", "payload_ref", "deadline", "latency_budget_ms",
    "quality_target"]

theorem key_of_mem_aliasFields {w : WorkUnit} {entry : String × Any}
    (member : entry ∈ w.aliasFields) : entry.1 ∈ WorkUnit.fieldNames := by
  have text : ∀ {key text : String}, entry ∈ textField key text →
      entry.1 = key := by
    intro key text inside
    unfold textField at inside
    split at inside
    · cases inside
    · rw [List.mem_singleton.mp inside]
  have mapping : ∀ {key : String} {entries : List (String × Any)},
      entry ∈ mapField key entries → entry.1 = key := by
    intro key entries inside
    unfold mapField at inside
    split at inside
    · cases inside
    · rw [List.mem_singleton.mp inside]
  have anything : ∀ {key : String} {value : Any},
      entry ∈ anyField key value → entry.1 = key := by
    intro key value inside
    unfold anyField at inside
    split at inside
    · cases inside
    · rw [List.mem_singleton.mp inside]
  have pointer : ∀ {key : String} {value : Option Int},
      entry ∈ pointerField key value → entry.1 = key := by
    intro key value inside
    unfold pointerField at inside
    split at inside
    · cases inside
    · rw [List.mem_singleton.mp inside]
  simp only [WorkUnit.aliasFields, List.mem_append, List.mem_cons,
    List.not_mem_nil, or_false] at member
  simp only [WorkUnit.fieldNames, List.mem_cons, List.not_mem_nil, or_false]
  grind

theorem keys_withEncoded {value : List (String × Any)} {key : String}
    {item : Any} {entry : String × Any}
    (member : entry ∈ withEncoded value key item) :
    entry.1 = key ∨ entry ∈ value := by
  unfold withEncoded at member
  split at member
  · exact .inr member
  · rcases Entries.mem_of_mem_insert member with rfl | old
    · exact .inl rfl
    · exact .inr old

/-- The encoding of a work unit is an object of its fields. -/
theorem marshalJSON_fields {float64 : Value → Except JsonError Value}
    {w : WorkUnit} {body : Value} (encoded : w.marshalJSON float64 = .ok body) :
    ∃ entries, body = .dict entries ∧
      ∀ entry ∈ entries, entry.1 ∈ WorkUnit.fieldNames := by
  obtain ⟨first, firstRun, encoded⟩ := Program.except_bind_eq_ok_iff.mp encoded
  obtain ⟨fields, fieldsRun, first_eq⟩ :=
    Program.except_bind_eq_ok_iff.mp firstRun
  cases first_eq
  obtain ⟨read, readRun, encoded⟩ := Program.except_bind_eq_ok_iff.mp encoded
  obtain ⟨final, finalRun, encoded⟩ := Program.except_bind_eq_ok_iff.mp encoded
  cases encoded
  refine ⟨_, rfl, ?_⟩
  intro entry member
  rw [inKeyOrder, List.mem_insertionSort] at member
  have inFinal : entry.1 ∈ final.map Prod.fst :=
    List.mem_map.mpr ⟨entry, member, rfl⟩
  rw [keys_marshalEntries finalRun] at inFinal
  obtain ⟨item, itemMember, same⟩ := List.mem_map.mp inFinal
  rw [← same]
  rcases keys_withEncoded itemMember with payloadRef | itemMember
  · rw [payloadRef]
    decide
  · rcases keys_withEncoded itemMember with payload | itemMember
    · rw [payload]
      decide
    · obtain ⟨field, fieldMember, rfl⟩ := List.mem_map.mp itemMember
      have inAlias : field.1 ∈ read.map Prod.fst :=
        List.mem_map.mpr ⟨field, fieldMember, rfl⟩
      rw [keys_rereadEntries readRun, keys_marshalEntries fieldsRun] at inAlias
      obtain ⟨original, originalMember, equal⟩ := List.mem_map.mp inAlias
      rw [← equal]
      exact key_of_mem_aliasFields originalMember

/-- The body has the mode at its top, and every field of the work unit's own
encoding. -/
def KeepsMode (float64 : Value → Except JsonError Value) (w : WorkUnit)
    (mode : String) (body : Value) : Prop :=
  ∃ entries, body = .dict entries ∧
    Entries.lookup entries "mode" = some (.str mode) ∧
    ∀ own, w.marshalJSON float64 = .ok (.dict own) →
      ∀ field ∈ own, field ∈ entries

theorem not_keepsMode {float64 : Value → Except JsonError Value} {w : WorkUnit}
    {body : Value} (encoded : w.marshalJSON float64 = .ok body)
    (mode : String) : ¬ KeepsMode float64 w mode body := by
  obtain ⟨entries, rfl, names⟩ := marshalJSON_fields encoded
  rintro ⟨_, ⟨⟩, found, -⟩
  have absent : "mode" ∉ WorkUnit.fieldNames := by decide
  exact absent (names _ (Entries.lookup_mem found))

/-- A call keeps its mode only where the work unit cannot be encoded and no
body is sent. -/
theorem goClient_keepsMode_iff (float64 : Value → Except JsonError Value)
    (w : WorkUnit) (mode : String) :
    ((∀ body, executeBody float64 w [mode] = .ok body →
        KeepsMode float64 w mode body) ↔
      ∃ error, w.marshalJSON float64 = .error error) ∧
    ((∀ body, createPlanBody float64 w [mode] = .ok body →
        KeepsMode float64 w mode body) ↔
      ∃ error, w.marshalJSON float64 = .error error) := by
  -- Both bodies are the encoding of the embedded work unit.
  have dropped : (∀ body, w.marshalJSON float64 = .ok body →
        KeepsMode float64 w mode body) ↔
      ∃ error, w.marshalJSON float64 = .error error := by
    cases encoded : w.marshalJSON float64 with
    | error error =>
        constructor
        · exact fun _ => ⟨error, rfl⟩
        · intro _ body sent
          cases sent
    | ok body =>
        constructor
        · intro kept
          exact (not_keepsMode encoded mode (kept body rfl)).elim
        · rintro ⟨error, ⟨⟩⟩
  exact ⟨dropped, dropped⟩

/-- `payload.get("mode")` on the server. -/
def bodyMode : Value → Value
  | .dict entries => Value.get entries "mode"
  | _ => .none

def sampleWorkUnit : WorkUnit where
  id := ""
  traceId := ""
  createdAt := ""
  kind := "file"
  tenant := "acme"
  nameSpace := ""
  logicalRef := "file://greeting"
  requestedContract := ""
  effectiveContract := ""
  metadata := []
  policyContext := []
  payload := .bytes [104, 105]
  payloadRef := .nil
  deadline := ""
  latencyBudgetMs := none
  qualityTarget := []

/-- A shadow execution of the sample runs in enforce mode on the server. -/
theorem goClient_shadow_enforced :
    ∃ body, executeBody .ok sampleWorkUnit ["shadow"] = .ok body ∧
      ¬ KeepsMode .ok sampleWorkUnit "shadow" body ∧
      executionMode {} (bodyMode body).string? = .ok .enforce := by
  have encoded : sampleWorkUnit.marshalJSON .ok = .ok (.dict
      [("kind", .str "file"), ("logical_ref", .str "file://greeting"),
        ("payload", .dict [("_urp_encoding", .str "base64"),
          ("data", .str "aGk=")]), ("tenant", .str "acme")]) := by
    rfl
  exact ⟨_, encoded, not_keepsMode encoded "shadow", executionMode_default⟩

end Go

end Urp
