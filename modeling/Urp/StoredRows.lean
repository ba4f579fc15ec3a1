import Urp.CacheKeys
import Urp.SemanticRuns

/-!
# What a stored row reads back as

A row of either table keeps the columns of its entry.  A JSON value without
byte envelopes comes back with its keys sorted.
-/

namespace Urp

open Python Program

/-! ## Envelopes -/

mutual

/-- No dictionary is a byte envelope. -/
def isEnvelopeFree : Value → Bool
  | .dict entries =>
      (envelopeData? entries).isNone && isEnvelopeFreeEntries entries
  | .list items => isEnvelopeFreeList items
  | _ => true

def isEnvelopeFreeList : List Value → Bool
  | [] => true
  | item :: rest => isEnvelopeFree item && isEnvelopeFreeList rest

def isEnvelopeFreeEntries : List (String × Value) → Bool
  | [] => true
  | (_, value) :: rest => isEnvelopeFree value && isEnvelopeFreeEntries rest

end

theorem isEnvelopeFreeEntries_iff (entries : List (String × Value)) :
    isEnvelopeFreeEntries entries = true ↔
      ∀ entry ∈ entries, isEnvelopeFree entry.2 = true := by
  induction entries with
  | nil => simp [isEnvelopeFreeEntries]
  | cons entry rest ih => simp [isEnvelopeFreeEntries, ih]

/-- Sorting the keys makes no envelope. -/
theorem envelopeData?_sorted {entries : List (String × Value)}
    (distinct : (entries.map Prod.fst).Nodup)
    (free : envelopeData? entries = none) :
    envelopeData? ((Value.sortedEntries entries).insertionSort
      fun p q => p.1 ≤ q.1) = none := by
  have permuted := List.perm_insertionSort
    (fun p q : String × Value => p.1 ≤ q.1) (Value.sortedEntries entries)
  have length : ((Value.sortedEntries entries).insertionSort
      fun p q => p.1 ≤ q.1).length = entries.length := by
    rw [permuted.length_eq, Value.sortedEntries_eq_map, List.length_map]
  unfold envelopeData? at free ⊢
  rw [length, lookup_sorted distinct, lookup_sorted distinct]
  by_cases two : entries.length = 2
  · rw [if_pos two] at free ⊢
    cases marked : Entries.lookup entries encodingKey with
    | none => rfl
    | some mark =>
        cases held : Entries.lookup entries "data" with
        | none =>
            split
            · rename_i impossible
              cases impossible
            · rfl
        | some data =>
            rw [marked, held] at free
            cases mark with
            | str text =>
                by_cases base : text = "base64"
                · subst base
                  cases free
                · simp [Value.sorted, base]
            | _ => rfl
  · rw [if_neg two]

mutual

theorem encodeJsonValue_of_isJson (value : Value)
    (json : value.isJson = true) : encodeJsonValue value = value := by
  match value with
  | .list items =>
      simp only [encodeJsonValue, encodeList_of_isJson items json]
  | .dict entries =>
      simp only [Value.isJson, Bool.and_eq_true] at json
      simp only [encodeJsonValue, encodeEntries_of_isJson entries json.2]
  | .bytes b => simp [Value.isJson] at json
  | .none | .bool _ | .int _ | .float _ | .str _ => rfl

theorem encodeList_of_isJson (items : List Value)
    (json : Value.isJsonList items = true) : encodeList items = items := by
  match items with
  | [] => rfl
  | item :: rest =>
      simp only [Value.isJsonList, Bool.and_eq_true] at json
      simp only [encodeList, encodeJsonValue_of_isJson item json.1,
        encodeList_of_isJson rest json.2]

theorem encodeEntries_of_isJson (entries : List (String × Value))
    (json : Value.isJsonEntries entries = true) :
    encodeEntries entries = entries := by
  match entries with
  | [] => rfl
  | (key, value) :: rest =>
      simp only [Value.isJsonEntries, Bool.and_eq_true] at json
      simp only [encodeEntries, encodeJsonValue_of_isJson value json.1,
        encodeEntries_of_isJson rest json.2]

end

theorem isEncodable_of_isJson {value : Value} (json : value.isJson = true) :
    IsEncodable value := by
  rw [IsEncodable, encodeJsonValue_of_isJson value json]
  exact json

mutual

theorem isEnvelopeFree_sorted (value : Value) (whole : IsEncodable value)
    (free : isEnvelopeFree value = true) :
    isEnvelopeFree value.sorted = true := by
  match value with
  | .list items =>
      exact isEnvelopeFreeList_sorted items (isEncodable_list_iff.mp whole) free
  | .dict entries =>
      obtain ⟨distinct, each⟩ := isEncodable_dict_iff.mp whole
      simp only [isEnvelopeFree, Bool.and_eq_true, Option.isNone_iff_eq_none]
        at free
      have inner := isEnvelopeFreeEntries_sorted entries each free.2
      have permuted := List.perm_insertionSort
        (fun p q : String × Value => p.1 ≤ q.1) (Value.sortedEntries entries)
      simp only [Value.sorted, isEnvelopeFree, Bool.and_eq_true,
        Option.isNone_iff_eq_none]
      refine ⟨envelopeData?_sorted distinct free.1, ?_⟩
      rw [isEnvelopeFreeEntries_iff] at inner ⊢
      intro entry member
      exact inner entry (permuted.mem_iff.mp member)
  | .none | .bool _ | .int _ | .float _ | .str _ | .bytes _ => exact free

theorem isEnvelopeFreeList_sorted (items : List Value)
    (whole : ∀ item ∈ items, IsEncodable item)
    (free : isEnvelopeFreeList items = true) :
    isEnvelopeFreeList (Value.sortedList items) = true := by
  match items with
  | [] => rfl
  | item :: rest =>
      obtain ⟨first, others⟩ := List.forall_mem_cons.mp whole
      simp only [isEnvelopeFreeList, Bool.and_eq_true] at free
      simp only [Value.sortedList, isEnvelopeFreeList, Bool.and_eq_true]
      exact ⟨isEnvelopeFree_sorted item first free.1,
        isEnvelopeFreeList_sorted rest others free.2⟩

theorem isEnvelopeFreeEntries_sorted (entries : List (String × Value))
    (whole : ∀ entry ∈ entries, IsEncodable entry.2)
    (free : isEnvelopeFreeEntries entries = true) :
    isEnvelopeFreeEntries (Value.sortedEntries entries) = true := by
  match entries with
  | [] => rfl
  | (key, value) :: rest =>
      obtain ⟨first, others⟩ := List.forall_mem_cons.mp whole
      simp only [isEnvelopeFreeEntries, Bool.and_eq_true] at free
      simp only [Value.sortedEntries, isEnvelopeFreeEntries, Bool.and_eq_true]
      exact ⟨isEnvelopeFree_sorted value first free.1,
        isEnvelopeFreeEntries_sorted rest others free.2⟩

end

section Decoding

variable (host : Host)

mutual

theorem decodeJsonValue_of_isEnvelopeFree (value : Value)
    (free : isEnvelopeFree value = true) :
    decodeJsonValue host value = .ok value := by
  match value with
  | .list items =>
      simp only [decodeJsonValue, decodeList_of_isEnvelopeFree items free]
      rfl
  | .dict entries =>
      simp only [isEnvelopeFree, Bool.and_eq_true, Option.isNone_iff_eq_none]
        at free
      simp only [decodeJsonValue, free.1,
        decodeEntries_of_isEnvelopeFree entries free.2]
      rfl
  | .none | .bool _ | .int _ | .float _ | .str _ | .bytes _ => rfl

theorem decodeList_of_isEnvelopeFree (items : List Value)
    (free : isEnvelopeFreeList items = true) :
    decodeList host items = .ok items := by
  match items with
  | [] => rfl
  | item :: rest =>
      simp only [isEnvelopeFreeList, Bool.and_eq_true] at free
      simp only [decodeList, decodeJsonValue_of_isEnvelopeFree item free.1,
        decodeList_of_isEnvelopeFree rest free.2]
      rfl

theorem decodeEntries_of_isEnvelopeFree (entries : List (String × Value))
    (free : isEnvelopeFreeEntries entries = true) :
    decodeEntries host entries = .ok entries := by
  match entries with
  | [] => rfl
  | (key, value) :: rest =>
      simp only [isEnvelopeFreeEntries, Bool.and_eq_true] at free
      simp only [decodeEntries, decodeJsonValue_of_isEnvelopeFree value free.1,
        decodeEntries_of_isEnvelopeFree rest free.2]
      rfl

end

end Decoding

/-! ## Columns -/

section Columns

variable {host : Host}

/-- The column of a value reads back as the value with its keys sorted. -/
theorem sorted_of_column {value stored decoded : Value}
    (json : value.isJson = true) (free : isEnvelopeFree value = true)
    (read : loadsColumn (Json.dumps .compact (encodeJsonValue value)) =
      .ok stored)
    (decodes : decodeJsonValue host stored = .ok decoded) :
    decoded = value.sorted := by
  unfold loadsColumn at read
  rw [encodeJsonValue_of_isJson value json,
    Json.loads_dumps .compact value json] at read
  cases read
  rw [decodeJsonValue_of_isEnvelopeFree host _
    (isEnvelopeFree_sorted value (isEncodable_of_isJson json) free)] at decodes
  exact (Except.ok.inj decodes).symm

theorem fingerprints_of_column {fingerprints found : Finset String}
    {stored : Value}
    (read : loadsColumn (Json.dumps .compact (fingerprintsValue fingerprints)) =
      .ok stored)
    (decodes : fingerprintSet stored = .ok found) : found = fingerprints := by
  unfold loadsColumn at read
  rw [Json.loads_dumps .compact _ (isJson_fingerprintsValue fingerprints),
    sorted_fingerprintsValue] at read
  cases read
  rw [fingerprintSet_fingerprintsValue] at decodes
  exact (Except.ok.inj decodes).symm

/-- What an entry keeps when it is read back. -/
structure CacheEntry.ReadsAs (entry found : CacheEntry) : Prop where
  tenant : found.tenant = entry.tenant
  nameSpace : found.nameSpace = entry.nameSpace
  sourceFingerprints : found.sourceFingerprints = entry.sourceFingerprints
  expiresAt : found.expiresAt = entry.expiresAt
  value : entry.value.isJson = true → isEnvelopeFree entry.value = true →
    found.value.sorted = entry.value.sorted

theorem CacheBackend.readsAs {backend : CacheBackend}
    {entry found : CacheEntry}
    (read : backend.readBack host entry = .ok found) : entry.ReadsAs found := by
  cases backend with
  | memory entries =>
      cases read
      exact ⟨rfl, rfl, rfl, rfl, fun _ _ => rfl⟩
  | sqlite rows =>
      obtain ⟨stored, loaded, read⟩ := except_bind_eq_ok_iff.mp read
      obtain ⟨value, decoded, read⟩ := except_bind_eq_ok_iff.mp read
      obtain ⟨texts, column, read⟩ := except_bind_eq_ok_iff.mp read
      obtain ⟨prints, collected, read⟩ := except_bind_eq_ok_iff.mp read
      cases read
      refine ⟨rfl, rfl, fingerprints_of_column column collected, rfl, ?_⟩
      intro json free
      rw [sorted_of_column json free loaded decoded, Value.sorted_sorted]

structure SemanticCacheEntry.ReadsAs (entry found : SemanticCacheEntry) :
    Prop where
  tenant : found.tenant = entry.tenant
  nameSpace : found.nameSpace = entry.nameSpace
  normalizedText : found.normalizedText = entry.normalizedText
  sourceFingerprints : found.sourceFingerprints = entry.sourceFingerprints
  expiresAt : found.expiresAt = entry.expiresAt
  value : entry.value.isJson = true → isEnvelopeFree entry.value = true →
    found.value.sorted = entry.value.sorted

theorem SemanticBackend.readsAs {backend : SemanticBackend}
    {entry found : SemanticCacheEntry}
    (read : backend.readBack host entry = .ok found) : entry.ReadsAs found := by
  cases backend with
  | memory entries =>
      cases read
      exact ⟨rfl, rfl, rfl, rfl, rfl, fun _ _ => rfl⟩
  | sqlite rows =>
      obtain ⟨verification, -, read⟩ := except_bind_eq_ok_iff.mp read
      obtain ⟨stored, loaded, read⟩ := except_bind_eq_ok_iff.mp read
      obtain ⟨value, decoded, read⟩ := except_bind_eq_ok_iff.mp read
      obtain ⟨texts, column, read⟩ := except_bind_eq_ok_iff.mp read
      obtain ⟨prints, collected, read⟩ := except_bind_eq_ok_iff.mp read
      obtain ⟨_, -, read⟩ := except_bind_eq_ok_iff.mp read
      cases read
      refine ⟨rfl, rfl, rfl, fingerprints_of_column column collected, rfl, ?_⟩
      intro json free
      rw [sorted_of_column json free loaded decoded, Value.sorted_sorted]

end Columns

end Urp
