import Urp.StoredRows
import Urp.WorkUnitStore

/-!
# The round trip of an encoded payload

`decode_json_value` undoes `encode_json_value` on the values in which no
dictionary is itself a byte envelope, and on no others.
-/

namespace Urp

open Python Program

/-! ## Values -/

/-- Encoding neither makes an envelope of a dictionary nor breaks one. -/
theorem envelopeData?_encodeEntries (entries : List (String × Value)) :
    envelopeData? (encodeEntries entries) =
      (envelopeData? entries).map encodeJsonValue := by
  unfold envelopeData?
  rw [lookup_encodeEntries, lookup_encodeEntries, encodeEntries_eq_map,
    List.length_map]
  by_cases two : entries.length = 2
  · rw [if_pos two, if_pos two]
    cases marked : Entries.lookup entries encodingKey with
    | none => rfl
    | some mark =>
        cases held : Entries.lookup entries "data" with
        | none => cases mark <;> simp [encodeJsonValue]
        | some data =>
            cases mark with
            | str text =>
                by_cases base : text = "base64"
                · subst base
                  rfl
                · simp [encodeJsonValue, base]
            | _ => rfl
  · rw [if_neg two, if_neg two]
    rfl

section Decoding

variable (host : Host)

/-- What an envelope decodes to is no dictionary. -/
theorem decodeJsonValue_envelope {entries other : List (String × Value)}
    {data : Value} (envelope : envelopeData? entries = some data) :
    decodeJsonValue host (.dict entries) ≠ .ok (.dict other) := by
  simp only [decodeJsonValue, envelope]
  cases Base64.decode (host.str data).toList with
  | none =>
      intro same
      cases same
  | some bytes =>
      intro same
      cases same

theorem decodeJsonValue_bytes (data : Bytes) :
    decodeJsonValue host (encodeJsonValue (.bytes data)) = .ok (.bytes data) := by
  have envelope : envelopeData? [(encodingKey, .str "base64"),
      ("data", .str (String.ofList (Base64.encode data)))] =
        some (.str (String.ofList (Base64.encode data))) := rfl
  simp only [encodeJsonValue, decodeJsonValue, envelope, Host.str, str_str,
    String.toList_ofList, Base64.decode_encode]

mutual

theorem decode_encode_iff (value : Value) :
    decodeJsonValue host (encodeJsonValue value) = .ok value ↔
      isEnvelopeFree value = true := by
  match value with
  | .none | .bool _ | .int _ | .float _ | .str _ => exact ⟨fun _ => rfl, fun _ => rfl⟩
  | .bytes data =>
      exact ⟨fun _ => rfl, fun _ => decodeJsonValue_bytes host data⟩
  | .list items =>
      have inner := decodeList_encodeList_iff items
      simp only [encodeJsonValue, decodeJsonValue, isEnvelopeFree]
      rw [← inner, except_bind_eq_ok_iff]
      constructor
      · rintro ⟨decoded, run, same⟩
        cases same
        exact run
      · intro run
        exact ⟨items, run, rfl⟩
  | .dict entries =>
      have inner := decodeEntries_encodeEntries_iff entries
      have encoded := envelopeData?_encodeEntries entries
      rw [encodeJsonValue, isEnvelopeFree, Bool.and_eq_true,
        Option.isNone_iff_eq_none, ← inner]
      cases envelope : envelopeData? entries with
      | some data =>
          rw [envelope, Option.map_some] at encoded
          constructor
          · intro decoded
            exact (decodeJsonValue_envelope host encoded decoded).elim
          · rintro ⟨⟨⟩, -⟩
      | none =>
          rw [envelope, Option.map_none] at encoded
          simp only [decodeJsonValue, encoded]
          rw [except_bind_eq_ok_iff]
          constructor
          · rintro ⟨decoded, run, same⟩
            cases same
            exact ⟨trivial, run⟩
          · rintro ⟨-, run⟩
            exact ⟨entries, run, rfl⟩

theorem decodeList_encodeList_iff (items : List Value) :
    decodeList host (encodeList items) = .ok items ↔
      isEnvelopeFreeList items = true := by
  match items with
  | [] => exact ⟨fun _ => rfl, fun _ => rfl⟩
  | item :: rest =>
      rw [isEnvelopeFreeList, Bool.and_eq_true, ← decode_encode_iff item,
        ← decodeList_encodeList_iff rest, encodeList, decodeList,
        except_bind_eq_ok_iff]
      constructor
      · rintro ⟨first, itemRun, others⟩
        obtain ⟨later, restRun, same⟩ := except_bind_eq_ok_iff.mp others
        cases same
        exact ⟨itemRun, restRun⟩
      · rintro ⟨itemRun, restRun⟩
        exact ⟨item, itemRun, except_bind_eq_ok_iff.mpr ⟨rest, restRun, rfl⟩⟩

theorem decodeEntries_encodeEntries_iff (entries : List (String × Value)) :
    decodeEntries host (encodeEntries entries) = .ok entries ↔
      isEnvelopeFreeEntries entries = true := by
  match entries with
  | [] => exact ⟨fun _ => rfl, fun _ => rfl⟩
  | (key, value) :: rest =>
      rw [isEnvelopeFreeEntries, Bool.and_eq_true, ← decode_encode_iff value,
        ← decodeEntries_encodeEntries_iff rest, encodeEntries, decodeEntries,
        except_bind_eq_ok_iff]
      constructor
      · rintro ⟨first, valueRun, others⟩
        obtain ⟨later, restRun, same⟩ := except_bind_eq_ok_iff.mp others
        cases same
        exact ⟨valueRun, restRun⟩
      · rintro ⟨valueRun, restRun⟩
        exact ⟨value, valueRun, except_bind_eq_ok_iff.mpr ⟨rest, restRun, rfl⟩⟩

end

/-! ## Stored values -/

mutual

/-- Encoding commutes with sorting the keys. -/
theorem sorted_encodeJsonValue (value : Value) :
    (encodeJsonValue value).sorted = encodeJsonValue value.sorted := by
  match value with
  | .none | .bool _ | .int _ | .float _ | .str _ => rfl
  | .bytes data =>
      have order : encodingKey ≤ "data" := by decide +kernel
      simp [encodeJsonValue, Value.sorted, Value.sortedEntries, order]
  | .list items =>
      simp only [encodeJsonValue, Value.sorted, sortedList_encodeList items]
  | .dict entries =>
      have inner := sortedEntries_encodeEntries entries
      rw [encodeJsonValue, Value.sorted, inner, Value.sorted, encodeJsonValue,
        encodeEntries_eq_map, encodeEntries_eq_map, Value.map_insertionSort]

theorem sortedList_encodeList (items : List Value) :
    Value.sortedList (encodeList items) =
      encodeList (Value.sortedList items) := by
  match items with
  | [] => rfl
  | item :: rest =>
      simp only [encodeList, Value.sortedList, sorted_encodeJsonValue item,
        sortedList_encodeList rest]

theorem sortedEntries_encodeEntries (entries : List (String × Value)) :
    Value.sortedEntries (encodeEntries entries) =
      encodeEntries (Value.sortedEntries entries) := by
  match entries with
  | [] => rfl
  | (key, value) :: rest =>
      simp only [encodeEntries, Value.sortedEntries,
        sorted_encodeJsonValue value, sortedEntries_encodeEntries rest]

end

/-- An encoded value that was written and read decodes to the value with its
keys sorted. -/
theorem decode_sorted_encode {value : Value} (whole : IsEncodable value)
    (free : isEnvelopeFree value = true) :
    decodeJsonValue host (encodeJsonValue value).sorted = .ok value.sorted := by
  rw [sorted_encodeJsonValue]
  exact (decode_encode_iff host value.sorted).mpr
    (isEnvelopeFree_sorted value whole free)

/-- A row of the SQLite table reads back as its entry, with the keys of the
value sorted. -/
theorem entry_row {entry : CacheEntry} (whole : IsEncodable entry.value)
    (free : isEnvelopeFree entry.value = true) (createdAt : ℚ) (key : String) :
    (entry.row createdAt).entry host key =
      .ok { entry with
        key, value := entry.value.sorted, verifierPassed := true } := by
  unfold CacheRow.entry CacheEntry.row loadsColumn
  simp only [Json.loads_dumps .compact _ whole,
    Json.loads_dumps .compact _
      (isJson_fingerprintsValue entry.sourceFingerprints),
    sorted_fingerprintsValue]
  simp only [bind, Except.bind, decode_sorted_encode host whole free,
    fingerprintSet_fingerprintsValue]
  rfl

/-! ## The work-unit files -/

theorem returns_orDraw {text : Option String}
    {draw : Program Supply PyException String} {supply : Supply}
    (drawn : Returns draw supply fun _ _ => True) :
    Returns (orDraw text draw) supply fun _ _ => True := by
  unfold orDraw
  split
  · exact drawn
  · exact returns_ret trivial

theorem returns_workUnitFromJsonSafe {row : WorkUnit} {payload : Value}
    (decodes : decodeJsonValue host row.payload = .ok payload)
    (supply : Supply) :
    Returns (workUnitFromJsonSafe host row) supply
      fun found _ => found.payload = payload ∧ found.tenant = row.tenant := by
  unfold workUnitFromJsonSafe
  simp only [decodes, lift_ok_bind]
  apply (returns_orDraw ((host.ensures_newId _ "tr").returns.mono
    fun _ _ _ => trivial)).bind
  rintro traceId later -
  apply (returns_orDraw ((host.ensures_newId _ "wu").returns.mono
    fun _ _ _ => trivial)).bind
  rintro id later -
  have dated : Returns host.utcNow later fun _ _ => True :=
    ⟨_, _, rfl, trivial⟩
  apply (returns_orDraw dated).bind
  rintro createdAt later -
  exact returns_ret ⟨rfl, rfl⟩

/-- A put writes its file after its checks, or nothing. -/
theorem FileWorkUnitStore.ensures_put (session : Session) (workUnit : WorkUnit)
    (files : WorkUnitFiles) :
    Ensures (put host session workUnit) files
      (fun _ later => requireTenant session workUnit.tenant = .ok () ∧
        path workUnit.id = .ok workUnit.id ∧
        later = ⟨files.rows.insert workUnit.id
          (jsonSafeWorkUnit workUnit).reloaded, files.supply⟩)
      (fun _ later => later = files) := by
  unfold put
  rw [ensures_bind, ensures_lift]
  refine ⟨fun _ admitted => ?_, fun _ _ => rfl⟩
  rw [ensures_bind, ensures_lift]
  refine ⟨fun _ _ => ?_, fun _ _ => rfl⟩
  rw [ensures_bind, ensures_lift]
  refine ⟨fun workUnitId named => ?_, fun _ _ => rfl⟩
  obtain ⟨rfl, -⟩ := validateIdentifier_eq_ok named
  exact ⟨admitted, named, rfl⟩

/-- A work unit that was put is read with its payload. -/
theorem FileWorkUnitStore.returns_get {session : Session}
    {workUnit stored : WorkUnit} {files later : WorkUnitFiles}
    (whole : IsEncodable workUnit.payload)
    (free : isEnvelopeFree workUnit.payload = true)
    (run : put host session workUnit files = (.ok stored, later)) :
    Returns (get host session workUnit.id) later
      fun row _ => row.payload = workUnit.payload.sorted := by
  obtain ⟨admitted, named, rfl⟩ :=
    (ensures_put host session workUnit files).of_ok run
  have text : (jsonSafeWorkUnit workUnit).reloaded.payload =
      (encodeJsonValue workUnit.payload).sorted := by
    rw [WorkUnit.reloaded, jsonSafeWorkUnit,
      Value.withText_of_noBytes _ (Value.hasBytes_of_isJson _ whole)]
  have decodes : decodeJsonValue host
      (jsonSafeWorkUnit workUnit).reloaded.payload =
        .ok workUnit.payload.sorted := by
    rw [text, decode_sorted_encode host whole free]
  unfold get
  rw [named, lift_ok_bind, returns_get_bind]
  simp only [Dict.lookup_insert_self]
  apply (returns_workUnitFromJsonSafe host decodes _).focus.bind
  rintro row _ ⟨supply, ⟨payload, tenant⟩, rfl⟩
  have same : enforceWorkUnitTenant session row = .ok () := by
    rw [enforceWorkUnitTenant, tenant]
    exact admitted
  rw [same, lift_ok_bind]
  exact returns_ret payload

/-! ## Kept payloads -/

/-- The payload survives its encoding, the work-unit files and the cache, and
shares its encoding with no other such payload. -/
structure PayloadKept (payload : Value) : Prop where
  decoded : decodeJsonValue host (encodeJsonValue payload) = .ok payload
  unshared : ∀ other, isEnvelopeFree other = true →
    encodeJsonValue other = encodeJsonValue payload → other = payload
  stored : ∀ session workUnit stored files later,
    workUnit.payload = payload →
      FileWorkUnitStore.put host session workUnit files =
        (.ok stored, later) →
        Returns (FileWorkUnitStore.get host session workUnit.id) later
          fun row _ => row.payload.sorted = payload.sorted
  cached : ∀ entry state later, entry.value = payload →
    URPCache.put host entry state = (.ok (), later) →
      isExpired entry.expiresAt (host.clock later.supply.tick) = false →
        ∃ value, (URPCache.get host entry.key entry.tenant entry.nameSpace
            (some entry.sourceFingerprints) later).1 = .ok value ∧
          value.sorted = payload.sorted

theorem readBack_of_isEnvelopeFree {entry : CacheEntry}
    (whole : IsEncodable entry.value)
    (free : isEnvelopeFree entry.value = true)
    (passed : entry.verifierPassed = true) (backend : CacheBackend) :
    ∃ found, backend.readBack host entry = .ok found ∧
      found.tenant = entry.tenant ∧ found.nameSpace = entry.nameSpace ∧
      found.sourceFingerprints = entry.sourceFingerprints ∧
      found.verifierPassed = true ∧ found.expiresAt = entry.expiresAt ∧
      found.value.sorted = entry.value.sorted := by
  cases backend with
  | memory entries => exact ⟨entry, rfl, rfl, rfl, rfl, passed, rfl, rfl⟩
  | sqlite rows =>
      exact ⟨_, entry_row host whole free 0 entry.key, rfl, rfl, rfl, rfl, rfl,
        Value.sorted_sorted entry.value⟩

/-- A payload is kept exactly when none of its dictionaries is itself a byte
envelope. -/
theorem payloadKept_iff {payload : Value} (whole : IsEncodable payload) :
    PayloadKept host payload ↔ isEnvelopeFree payload = true := by
  constructor
  · intro kept
    exact (decode_encode_iff host payload).mp kept.decoded
  · intro free
    have decoded := (decode_encode_iff host payload).mpr free
    refine ⟨decoded, ?_, ?_, ?_⟩
    · intro other otherFree same
      have read := (decode_encode_iff host other).mpr otherFree
      rw [same, decoded] at read
      exact (Except.ok.inj read).symm
    · rintro session workUnit stored files later rfl run
      apply (FileWorkUnitStore.returns_get host whole free run).mono
      intro row _ payload
      rw [payload, Value.sorted_sorted]
    · rintro entry state later rfl run fresh
      obtain ⟨accepts, wrote⟩ := (URPCache.ensures_put host entry state).of_ok run
      obtain ⟨found, read, tenant, nameSpace, fingerprints, passed, expiry,
        value⟩ := readBack_of_isEnvelopeFree host whole free accepts.passed
          state.backend
      have present := wrote.lookup entry.key
      rw [if_pos rfl, read] at present
      refine ⟨found.value, URPCache.get_of_live host present ?_ ?_, value⟩
      · exact URPCache.isInScope_iff.mpr ⟨tenant, nameSpace, fingerprints, passed⟩
      · rw [expiry]
        exact fresh

end Decoding

/-- An object that a caller may send as data. -/
def envelopeLookalike : Value :=
  .dict [(encodingKey, .str "base64"), ("data", .str "aGk=")]

theorem envelopeLookalike_lost :
    IsEncodable envelopeLookalike ∧
      decodeJsonValue Host.counting (encodeJsonValue envelopeLookalike) =
        .ok (.bytes [104, 105]) ∧
      encodeJsonValue (.bytes [104, 105]) = encodeJsonValue envelopeLookalike ∧
      ¬ PayloadKept Host.counting envelopeLookalike := by
  refine ⟨rfl, rfl, rfl, ?_⟩
  intro kept
  have free := (decode_encode_iff Host.counting _).mp kept.decoded
  cases free

/-- Byte strings inside a list inside an object. -/
def nestedPayload : Value :=
  .dict [("body", .list [.bytes [104, 105], .none, .int 3])]

theorem payloadKept_iff_nested : PayloadKept Host.counting nestedPayload := by
  have whole : IsEncodable nestedPayload := rfl
  exact (payloadKept_iff Host.counting whole).mpr rfl

end Urp
