import Urp.ExactRoundTrip

/-!
# Decoded payloads

REST intake decodes a payload that `payload_to_bytes` decodes again.  Decoding
makes no envelope that was not one before, so the second pass changes nothing.
-/

namespace Urp

open Python Program

variable (host : Host)

/-- Only the text itself decodes to a text. -/
theorem decodeJsonValue_eq_str {value : Value} {text : String}
    (run : decodeJsonValue host value = .ok (.str text)) :
    value = .str text := by
  match value with
  | .none | .bool _ | .int _ | .float _ | .bytes _ => cases run
  | .str _ =>
      cases run
      rfl
  | .list items =>
      obtain ⟨_, _, same⟩ := except_bind_eq_ok_iff.mp run
      cases same
  | .dict entries =>
      unfold decodeJsonValue at run
      split at run
      · split at run <;> cases run
      · obtain ⟨_, _, same⟩ := except_bind_eq_ok_iff.mp run
        cases same

/-- What a key holds is decoded in its place. -/
theorem lookup_decodeEntries {entries decoded : List (String × Value)}
    (run : decodeEntries host entries = .ok decoded) (key : String) :
    decoded.length = entries.length ∧
      ∀ found, Entries.lookup decoded key = some found →
        ∃ value, Entries.lookup entries key = some value ∧
          decodeJsonValue host value = .ok found := by
  induction entries generalizing decoded with
  | nil =>
      cases run
      exact ⟨rfl, fun _ found => nomatch found⟩
  | cons entry rest ih =>
      obtain ⟨name, value⟩ := entry
      obtain ⟨found, valueRun, run⟩ := except_bind_eq_ok_iff.mp run
      obtain ⟨others, restRun, same⟩ := except_bind_eq_ok_iff.mp run
      cases same
      obtain ⟨length, held⟩ := ih restRun
      refine ⟨congrArg (· + 1) length, ?_⟩
      by_cases here : name = key
      · simp only [Entries.lookup, here, if_true]
        rintro other same
        cases same
        exact ⟨value, rfl, valueRun⟩
      · simp only [Entries.lookup, here, if_false]
        exact held

/-- Decoding the parts of an object makes no envelope of it. -/
theorem envelopeData?_decodeEntries {entries decoded : List (String × Value)}
    (plain : envelopeData? entries = none)
    (run : decodeEntries host entries = .ok decoded) :
    envelopeData? decoded = none := by
  obtain ⟨length, marks⟩ := lookup_decodeEntries host run encodingKey
  have holds := (lookup_decodeEntries host run "data").2
  by_contra envelope
  unfold envelopeData? at envelope plain
  by_cases two : decoded.length = 2
  · rw [if_pos two] at envelope
    split at envelope
    · rename_i marked held
      obtain ⟨mark, markEntry, markRun⟩ := marks _ marked
      obtain ⟨value, valueEntry, -⟩ := holds _ held
      rw [if_pos (length.symm.trans two), markEntry, valueEntry,
        decodeJsonValue_eq_str host markRun] at plain
      cases plain
    · exact envelope rfl
  · rw [if_neg two] at envelope
    exact envelope rfl

mutual

theorem decodeJsonValue_decoded {value decoded : Value}
    (run : decodeJsonValue host value = .ok decoded) :
    decodeJsonValue host decoded = .ok decoded := by
  match value with
  | .none | .bool _ | .int _ | .float _ | .str _ | .bytes _ =>
      cases run
      rfl
  | .list items =>
      obtain ⟨found, itemsRun, same⟩ := except_bind_eq_ok_iff.mp run
      cases same
      exact except_bind_eq_ok_iff.mpr ⟨found, decodeList_decoded itemsRun, rfl⟩
  | .dict entries =>
      unfold decodeJsonValue at run
      split at run
      · split at run
        · cases run
          rfl
        · cases run
      · rename_i plain
        obtain ⟨found, entriesRun, same⟩ := except_bind_eq_ok_iff.mp run
        cases same
        unfold decodeJsonValue
        rw [envelopeData?_decodeEntries host plain entriesRun]
        exact except_bind_eq_ok_iff.mpr
          ⟨found, decodeEntries_decoded entriesRun, rfl⟩

theorem decodeList_decoded {items decoded : List Value}
    (run : decodeList host items = .ok decoded) :
    decodeList host decoded = .ok decoded := by
  match items with
  | [] =>
      cases run
      rfl
  | item :: rest =>
      obtain ⟨first, itemRun, run⟩ := except_bind_eq_ok_iff.mp run
      obtain ⟨others, restRun, same⟩ := except_bind_eq_ok_iff.mp run
      cases same
      rw [decodeList, decodeJsonValue_decoded itemRun,
        decodeList_decoded restRun]
      rfl

theorem decodeEntries_decoded {entries decoded : List (String × Value)}
    (run : decodeEntries host entries = .ok decoded) :
    decodeEntries host decoded = .ok decoded := by
  match entries with
  | [] =>
      cases run
      rfl
  | (key, value) :: rest =>
      obtain ⟨first, valueRun, run⟩ := except_bind_eq_ok_iff.mp run
      obtain ⟨others, restRun, same⟩ := except_bind_eq_ok_iff.mp run
      cases same
      rw [decodeEntries, decodeJsonValue_decoded valueRun,
        decodeEntries_decoded restRun]
      rfl

end

/-- The execution of the work unit with its payload decoded at intake. -/
def Execution.withPayload (execution : Execution) (payload : Value) :
    Execution :=
  { execution with workUnit := { execution.workUnit with payload } }

/-- A second decoding changes neither the value nor the bytes that an
execution of it hashes and stores. -/
theorem decoded_once_or_twice {value decoded : Value}
    (run : decodeJsonValue host value = .ok decoded) :
    decodeJsonValue host decoded = .ok decoded ∧
      payloadToBytes host decoded = payloadToBytes host value ∧
      ∀ (execution : Execution) (once twice : Prepared),
        (execution.withPayload value).prepare host = .ok once →
        (execution.withPayload decoded).prepare host = .ok twice →
          twice.payload = once.payload := by
  have again := decodeJsonValue_decoded host run
  have bytes : payloadToBytes host decoded = payloadToBytes host value := by
    rw [payloadToBytes, again, payloadToBytes, run]
  refine ⟨again, bytes, ?_⟩
  intro execution once twice first second
  have stored := (Execution.prepare_eq_ok second).2.1
  have expected := (Execution.prepare_eq_ok first).2.1
  have same := stored.symm.trans (bytes.trans expected)
  exact Except.ok.inj same

/-- A list of an envelope and an object whose marker is itself an envelope. -/
def twiceDecoded : Value :=
  .list [.dict [(encodingKey, .str "base64"), ("data", .str "aGk=")],
    .dict [(encodingKey, .dict [(encodingKey, .str "base64"),
      ("data", .str "YmFzZTY0")]), ("data", .str "aGk=")]]

theorem decoded_once_or_twice_sample :
    ∃ decoded, decodeJsonValue Host.counting twiceDecoded = .ok decoded ∧
      payloadToBytes Host.counting decoded =
        payloadToBytes Host.counting twiceDecoded := by
  have run : decodeJsonValue Host.counting twiceDecoded =
      .ok (.list [.bytes [104, 105], .dict [(encodingKey,
        .bytes [98, 97, 115, 101, 54, 52]), ("data", .str "aGk=")]]) := by
    rfl
  exact ⟨_, run, (decoded_once_or_twice Host.counting run).2.1⟩

end Urp
