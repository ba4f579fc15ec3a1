import Mathlib.Data.Set.Function
import Urp.AiRequests
import Urp.Objects

/-!
# What cache keys and fingerprints tell apart

A key hashes the sorted text of a dictionary.  Where SHA-256 has no collision,
equal keys come from dictionaries that differ in the order of their keys only.
-/

namespace Urp

open Python Program

/-! ## Values with a text -/

/-- Distinct keys in every dictionary; byte strings stand in envelopes. -/
def IsEncodable (value : Value) : Prop := (encodeJsonValue value).isJson = true

@[simp] theorem isEncodable_str (text : String) : IsEncodable (.str text) := rfl

@[simp] theorem isEncodable_int (n : Int) : IsEncodable (.int n) := rfl

@[simp] theorem isEncodable_none : IsEncodable .none := rfl

theorem isEncodable_empty : IsEncodable (.dict []) := rfl

theorem encodeEntries_eq_map (entries : List (String × Value)) :
    encodeEntries entries =
      entries.map fun entry => (entry.1, encodeJsonValue entry.2) := by
  induction entries with
  | nil => rfl
  | cons entry rest ih => simp [encodeEntries, ih]

theorem keys_encodeEntries (entries : List (String × Value)) :
    (encodeEntries entries).map Prod.fst = entries.map Prod.fst := by
  simp [encodeEntries_eq_map, Function.comp_def]

theorem lookup_encodeEntries (entries : List (String × Value)) (key : String) :
    Entries.lookup (encodeEntries entries) key =
      (Entries.lookup entries key).map encodeJsonValue := by
  induction entries with
  | nil => rfl
  | cons entry rest ih =>
      obtain ⟨other, value⟩ := entry
      by_cases same : other = key
      · simp [encodeEntries, Entries.lookup, same]
      · simp [encodeEntries, Entries.lookup, same, ih]

theorem isEncodable_list_iff {items : List Value} :
    IsEncodable (.list items) ↔ ∀ item ∈ items, IsEncodable item := by
  unfold IsEncodable
  simp only [encodeJsonValue, Value.isJson]
  induction items with
  | nil => simp [encodeList, Value.isJsonList]
  | cons item rest ih =>
      simp only [encodeList, Value.isJsonList, Bool.and_eq_true, ih,
        List.forall_mem_cons]

theorem isEncodable_dict_iff {entries : List (String × Value)} :
    IsEncodable (.dict entries) ↔ (entries.map Prod.fst).Nodup ∧
      ∀ entry ∈ entries, IsEncodable entry.2 := by
  unfold IsEncodable
  simp only [encodeJsonValue, Value.isJson, Bool.and_eq_true, decide_eq_true_eq,
    keys_encodeEntries, Value.isJsonEntries_iff]
  rw [encodeEntries_eq_map, List.forall_mem_map]

namespace Object

/-- Every value under a key has a text. -/
theorem isEncodable_iff {data : Object} : IsEncodable data.toValue ↔
    ∀ key value, Dict.lookup data key = some value → IsEncodable value := by
  unfold toValue
  rw [isEncodable_dict_iff, and_iff_right data.distinct]
  constructor
  · intro each key value found
    exact each (key, value) ((Dict.mem_entries_iff data key value).mpr found)
  · intro each entry member
    exact each entry.1 entry.2
      ((Dict.mem_entries_iff data entry.1 entry.2).mp member)

theorem isEncodable_insert {data : Object} {key : String} {value : Value}
    (whole : IsEncodable data.toValue) (new : IsEncodable value) :
    IsEncodable (toValue (data.insert key value)) := by
  rw [isEncodable_iff] at whole ⊢
  intro other found present
  rw [Dict.lookup_insert] at present
  split at present
  · cases present
    exact new
  · exact whole other found present

theorem isEncodable_getD {data : Object} (whole : IsEncodable data.toValue)
    {default : Value} (missing : IsEncodable default) (key : String) :
    IsEncodable (data.getD key default) := by
  rw [isEncodable_iff] at whole
  unfold getD
  cases found : Dict.lookup data key with
  | none => exact missing
  | some value => exact whole key value found

theorem isEncodable_ofList {entries : List (String × Value)}
    (whole : IsEncodable (.dict entries)) :
    IsEncodable (ofList entries).toValue := by
  obtain ⟨distinct, each⟩ := isEncodable_dict_iff.mp whole
  unfold toValue ofList
  rw [isEncodable_dict_iff, Dict.entries_ofList distinct]
  exact ⟨distinct, each⟩

end Object

/-! ## Normalized requests -/

section Normalization

variable (host : Host)

theorem isEncodable_normalizePart {part : Value} (whole : IsEncodable part) :
    IsEncodable (normalizePart part) := by
  cases part with
  | dict entries =>
      have item := Object.isEncodable_ofList whole
      simp only [normalizePart]
      split
      · exact Object.isEncodable_insert item (isEncodable_str _)
      · exact item
  | _ => exact whole

theorem isEncodable_normalizeMessage {message : Value} {normalized : Object}
    (whole : IsEncodable message)
    (made : normalizeMessage host message = .ok normalized) :
    IsEncodable normalized.toValue := by
  cases message with
  | dict entries =>
      cases made
      have item := Object.isEncodable_ofList whole
      have content := Object.isEncodable_getD item (isEncodable_str "") "content"
      refine Object.isEncodable_insert
        (Object.isEncodable_insert item (isEncodable_str _)) ?_
      revert content
      cases (Object.ofList entries).getD "content" (.str "") with
      | list parts =>
          intro content
          rw [isEncodable_list_iff] at content
          simp only
          rw [isEncodable_list_iff]
          intro item member
          obtain ⟨part, present, rfl⟩ := List.mem_map.mp member
          exact isEncodable_normalizePart (content part present)
      | _ => exact fun _ => isEncodable_str _
  | _ => cases made

theorem isEncodable_setDefault {data : Object} {key : String} {value : Value}
    (whole : IsEncodable data.toValue) (new : IsEncodable value) :
    IsEncodable (Object.toValue (data.setDefault key value)) := by
  unfold Object.setDefault
  split
  · exact whole
  · exact Object.isEncodable_insert whole new

theorem isEncodable_requestOptions {request options : Object}
    (whole : IsEncodable request.toValue)
    (read : requestOptions request = .ok options) :
    IsEncodable options.toValue := by
  have given := Object.isEncodable_getD whole isEncodable_none "urp"
  unfold requestOptions at read
  unfold Object.get at read
  split at read
  · cases read
    exact isEncodable_empty
  · rename_i entries same
    cases read
    rw [same] at given
    exact Object.isEncodable_ofList given
  · cases read

theorem isEncodable_normalizeOpenaiRequest {request : Object}
    {normalized : NormalizedRequest} (whole : IsEncodable request.toValue)
    (made : normalizeOpenaiRequest host request = .ok normalized) :
    IsEncodable normalized.data.toValue := by
  have listed := Object.isEncodable_getD whole isEncodable_none "messages"
  have model := Object.isEncodable_getD whole (isEncodable_str "auto") "model"
  unfold normalizeOpenaiRequest at made
  split at made
  · cases made
  · split at made
    · rename_i first rest same
      obtain ⟨options, read, made⟩ := except_bind_eq_ok_iff.mp made
      obtain ⟨messages, mapped, made⟩ := except_bind_eq_ok_iff.mp made
      cases made
      have kept : IsEncodable (Object.toValue (request.erase "stream_options")) := by
        rw [Object.isEncodable_iff] at whole ⊢
        intro key value found
        exact whole key value (Dict.lookup_of_lookup_erase found)
      have items : IsEncodable (.list (messages.map Object.toValue)) := by
        rw [isEncodable_list_iff]
        intro item member
        obtain ⟨message, present, rfl⟩ := List.mem_map.mp member
        obtain ⟨source, given, normalized⟩ :=
          exists_of_mem_mapM mapped present
        unfold Object.get at same
        rw [same, isEncodable_list_iff] at listed
        exact isEncodable_normalizeMessage host (listed source given) normalized
      have options := isEncodable_requestOptions whole read
      exact Object.isEncodable_insert (isEncodable_setDefault
        (isEncodable_setDefault (Object.isEncodable_insert
          (Object.isEncodable_insert kept model) items) (isEncodable_int 0))
        (isEncodable_list_iff.mpr (by simp))) options
    · cases made

end Normalization

/-! ## Texts of keys -/

theorem sorted_of_dumps {left right : Value} {style : Json.Style}
    (leftJson : left.isJson = true) (rightJson : right.isJson = true)
    (same : Json.dumps style left = Json.dumps style right) :
    left.sorted = right.sorted := by
  have read := Json.loads_dumps style left leftJson
  rw [same, Json.loads_dumps style right rightJson] at read
  exact (Option.some.inj read).symm

/-- The bytes that `stable_json_hash` hashes. -/
def hashedText (value : Value) : Bytes := utf8 (Json.dumps .compact value)

theorem sorted_of_hashedText {left right : Value}
    (leftJson : left.isJson = true) (rightJson : right.isJson = true)
    (same : hashedText left = hashedText right) :
    left.sorted = right.sorted :=
  sorted_of_dumps leftJson rightJson (utf8_injective same)

/-- Dictionaries that sort alike hold the same values under each key. -/
theorem lookup_of_sorted {left right : List (String × Value)}
    (leftDistinct : (left.map Prod.fst).Nodup)
    (rightDistinct : (right.map Prod.fst).Nodup)
    (same : (Value.dict left).sorted = (Value.dict right).sorted)
    (key : String) :
    (Entries.lookup left key).map Value.sorted =
      (Entries.lookup right key).map Value.sorted := by
  simp only [Value.sorted, Value.dict.injEq] at same
  rw [← lookup_sorted leftDistinct, same, lookup_sorted rightDistinct]

/-- What the key of the exact cache hashes. -/
def URPCache.keyFields (tenant nameSpace : String) (payload : Value)
    (sourceFingerprints : Finset String) : List (String × Value) :=
  [("tenant", .str tenant), ("namespace", .str nameSpace),
    ("payload", encodeJsonValue payload),
    ("source_fingerprints", fingerprintsValue sourceFingerprints)]

theorem isJson_fingerprintsValue (fingerprints : Finset String) :
    (fingerprintsValue fingerprints).isJson = true := by
  unfold fingerprintsValue Value.isJson
  induction fingerprints.sort (· ≤ ·) with
  | nil => rfl
  | cons text rest ih => exact ih

theorem sorted_fingerprintsValue (fingerprints : Finset String) :
    (fingerprintsValue fingerprints).sorted =
      fingerprintsValue fingerprints := by
  unfold fingerprintsValue Value.sorted
  congr 1
  induction fingerprints.sort (· ≤ ·) with
  | nil => rfl
  | cons text rest ih =>
      simp only [List.map_cons, Value.sortedList, Value.sorted, ih]

theorem fingerprintSet_fingerprintsValue (fingerprints : Finset String) :
    fingerprintSet (fingerprintsValue fingerprints) = .ok fingerprints := by
  have texts : ∀ items : List String,
      (items.map Value.str).mapM Value.string? = some items := by
    intro items
    induction items with
    | nil => rfl
    | cons item rest ih => simp [Value.string?, ih]
  simp only [fingerprintSet, fingerprintsValue, texts, Finset.sort_toFinset]

section KeyFields

variable {tenant nameSpace : String} {payload : Value}
  {fingerprints : Finset String}

theorem URPCache.distinct_keyFields :
    ((keyFields tenant nameSpace payload fingerprints).map Prod.fst).Nodup := by
  simp only [keyFields, List.map_cons, List.map_nil]
  decide

theorem URPCache.isJson_keyFields (encodable : IsEncodable payload) :
    (Value.dict (keyFields tenant nameSpace payload fingerprints)).isJson =
      true := by
  have each : Value.isJsonEntries
      (keyFields tenant nameSpace payload fingerprints) = true := by
    rw [Value.isJsonEntries_iff]
    intro entry member
    simp only [keyFields, List.mem_cons, List.not_mem_nil, or_false] at member
    rcases member with rfl | rfl | rfl | rfl
    · rfl
    · rfl
    · exact encodable
    · exact isJson_fingerprintsValue fingerprints
  simp only [Value.isJson, each, distinct_keyFields, decide_true, Bool.and_self]

/-- Two payloads with one text are for the same tenant and namespace, and
agree up to the order of keys. -/
theorem URPCache.keyFields_injective {other otherSpace : String}
    {otherPayload : Value} {otherPrints : Finset String}
    (encodable : IsEncodable payload) (otherEncodable : IsEncodable otherPayload)
    (same : hashedText (.dict (keyFields tenant nameSpace payload fingerprints)) =
      hashedText (.dict (keyFields other otherSpace otherPayload otherPrints))) :
    tenant = other ∧ nameSpace = otherSpace ∧
      (encodeJsonValue payload).sorted = (encodeJsonValue otherPayload).sorted ∧
      fingerprints = otherPrints := by
  have under := lookup_of_sorted distinct_keyFields distinct_keyFields
    (sorted_of_hashedText (isJson_keyFields encodable)
      (isJson_keyFields otherEncodable) same)
  have ofTenant : some (Value.str tenant) = some (.str other) := under "tenant"
  have ofSpace : some (Value.str nameSpace) = some (.str otherSpace) :=
    under "namespace"
  have ofPayload : some (encodeJsonValue payload).sorted =
    some (encodeJsonValue otherPayload).sorted := under "payload"
  have ofPrints : some (fingerprintsValue fingerprints).sorted =
    some (fingerprintsValue otherPrints).sorted := under "source_fingerprints"
  rw [sorted_fingerprintsValue, sorted_fingerprintsValue,
    Option.some.injEq] at ofPrints
  have read := fingerprintSet_fingerprintsValue fingerprints
  rw [ofPrints, fingerprintSet_fingerprintsValue] at read
  exact ⟨Value.str.inj (Option.some.inj ofTenant),
    Value.str.inj (Option.some.inj ofSpace), Option.some.inj ofPayload,
    (Except.ok.inj read).symm⟩

end KeyFields

end Urp
