import Urp.Ledger
import Urp.Library.Mutex
import Urp.Objects

/-!
# Runs of the ledger

The invariant says which events a ledger file holds: the file is their lines,
and each is chained to the one before.  An append extends the list by one
event, the readers return it, and the mutex carries both over every
interleaving of writers.
-/

namespace Urp

open Python

/-! ## Events after a round trip -/

namespace LedgerEvent

/-- The event that reading the written event returns. -/
def canonical (event : LedgerEvent) : LedgerEvent :=
  { event with details := event.details.sorted }

/-- Python's `==` of two events. -/
def pyEq (event other : LedgerEvent) : Bool :=
  event.eventType == other.eventType && event.tenant == other.tenant &&
    event.workUnitId == other.workUnitId &&
    event.manifestId == other.manifestId &&
    event.policyBundleId == other.policyBundleId &&
    event.actor == other.actor && event.decision == other.decision &&
    Value.pyEq event.details.toValue other.details.toValue &&
    event.traceId == other.traceId && event.prevHash == other.prevHash &&
    event.eventId == other.eventId && event.createdAt == other.createdAt &&
    event.eventHash == other.eventHash

/-- What a written event needs to read back: an identifier and a time that
`from_dict` does not replace, and JSON details. -/
structure Readable (event : LedgerEvent) : Prop where
  eventId : event.eventId ≠ ""
  createdAt : event.createdAt ≠ ""
  details : event.details.toValue.isJson = true

theorem pyEq_canonical {event : LedgerEvent} (readable : event.Readable)
    (nanFree : event.details.toValue.isNanFree = true) :
    event.canonical.pyEq event = true := by
  have details := Value.pyEq_sorted event.details.toValue readable.details
    nanFree
  simp [pyEq, canonical, Object.toValue_sorted, details]

theorem isJson_optionalText (text : Option String) :
    (optionalText text).isJson = true := by
  cases text <;> rfl

theorem isJson_toDict {event : LedgerEvent}
    (details : event.details.toValue.isJson = true) :
    event.toDict.isJson = true := by
  have distinct := event.distinct_fields
  simp only [toDict, Value.isJson, distinct, decide_true, Bool.true_and]
  simp only [fields, Value.isJsonEntries, isJson_optionalText, details,
    Value.isJson, Bool.and_true]

theorem sorted_optionalText (text : Option String) :
    (optionalText text).sorted = optionalText text := by
  cases text <;> rfl

/-- Sorting the details first leaves the event's dictionary the same up to
order. -/
theorem sorted_toDict_canonical (event : LedgerEvent) :
    event.canonical.toDict.sorted = event.toDict.sorted := by
  simp only [toDict, fields, canonical, Value.sorted, Value.sortedEntries,
    Object.toValue_sorted, Value.sorted_sorted]

/-- Equal dictionaries up to order hash the same. -/
theorem withChainHash_canonical (event : LedgerEvent) (prevHash : Option String) :
    (event.canonical.withChainHash prevHash).eventHash =
      (event.withChainHash prevHash).eventHash := by
  have same := sorted_toDict_canonical
    { event with prevHash := prevHash, eventHash := none }
  simp only [canonical] at same
  simp only [withChainHash, canonical, stableJsonHash, Json.dumps, same]

theorem textField_sorted {event : LedgerEvent} {key : String}
    {text : Option String}
    (found : Value.get event.fields key = optionalText text) :
    textField ((Value.sortedEntries event.fields).insertionSort
      fun p q => p.1 ≤ q.1) key = .ok text := by
  unfold textField
  rw [get_sorted event.distinct_fields, found, sorted_optionalText]
  cases text <;> rfl

theorem requiredText_sorted {event : LedgerEvent} {key text : String}
    (found : Entries.lookup event.fields key = some (.str text)) :
    requiredText ((Value.sortedEntries event.fields).insertionSort
      fun p q => p.1 ≤ q.1) key = .ok text := by
  unfold requiredText
  rw [lookup_sorted event.distinct_fields, found]
  rfl

theorem objectField_sorted (event : LedgerEvent) :
    objectField ((Value.sortedEntries event.fields).insertionSort
      fun p q => p.1 ≤ q.1) "details" = .ok event.details.sorted := by
  have found : Value.get event.fields "details" = event.details.toValue := rfl
  unfold objectField
  rw [get_sorted event.distinct_fields, found]
  simp only [Object.toValue, Value.sorted, Object.ofList_sorted]

theorem orDraw_of_ne {text : String}
    (draw : Program Supply PyException String) (given : text ≠ "") :
    orDraw (some text) draw = Program.ret text := by
  simp [orDraw, textOr, given]

/-- Reading a written event draws an identifier and a time where it has
none. -/
theorem fromDict_sorted (host : Host) (event : LedgerEvent) :
    LedgerEvent.fromDict host ((Value.sortedEntries event.fields).insertionSort
        fun p q => p.1 ≤ q.1) = (do
      let eventId ← orDraw (some event.eventId) (host.newId "evt")
      let createdAt ← orDraw (some event.createdAt) host.utcNow
      Program.ret { event.canonical with eventId, createdAt }) := by
  have eventType : Entries.lookup event.fields "event_type" =
      some (.str event.eventType) := rfl
  have tenant : Entries.lookup event.fields "tenant" =
      some (.str event.tenant) := rfl
  have workUnitId : Value.get event.fields "work_unit_id" =
      optionalText event.workUnitId := rfl
  have manifestId : Value.get event.fields "manifest_id" =
      optionalText event.manifestId := rfl
  have policyBundleId : Value.get event.fields "policy_bundle_id" =
      optionalText event.policyBundleId := rfl
  have actor : Value.get event.fields "actor" = optionalText event.actor := rfl
  have decision : Value.get event.fields "decision" =
      optionalText event.decision := rfl
  have traceId : Value.get event.fields "trace_id" =
      optionalText event.traceId := rfl
  have prevHash : Value.get event.fields "prev_hash" =
      optionalText event.prevHash := rfl
  have eventHash : Value.get event.fields "event_hash" =
      optionalText event.eventHash := rfl
  have eventId : Value.get event.fields "event_id" =
      optionalText (some event.eventId) := rfl
  have createdAt : Value.get event.fields "created_at" =
      optionalText (some event.createdAt) := rfl
  simp only [LedgerEvent.fromDict,
    requiredText_sorted eventType, requiredText_sorted tenant,
    textField_sorted workUnitId, textField_sorted manifestId,
    textField_sorted policyBundleId, textField_sorted actor,
    textField_sorted decision, objectField_sorted, textField_sorted traceId,
    textField_sorted prevHash, textField_sorted eventHash,
    textField_sorted eventId, textField_sorted createdAt,
    Program.lift_ok_bind]
  rfl

/-- A readable event's line parses as the event. -/
theorem parseEvent_line (host : Host) {event : LedgerEvent}
    (readable : event.Readable) :
    parseEvent host (some event.line) = Program.ret event.canonical := by
  have loaded := Json.loads_dumps .spaced event.toDict
    (isJson_toDict readable.details)
  unfold parseEvent line
  rw [Option.bind_some, loaded]
  simp only [toDict, Value.sorted, fromDict_sorted,
    orDraw_of_ne _ readable.eventId, orDraw_of_ne _ readable.createdAt,
    Program.ret_bind]
  rfl

theorem printable_line (event : LedgerEvent) : Json.Printable event.line :=
  Json.printable_dumps .spaced event.toDict

theorem line_head (event : LedgerEvent) :
    ∃ rest, event.line = '{' :: rest := by
  exact ⟨_, rfl⟩

end LedgerEvent

/-! ## The file of some events -/

/-- The text whose lines are the events'. -/
def ledgerText (events : List LedgerEvent) : List Char :=
  Lines.terminated '\n' (events.map LedgerEvent.line)

def ledgerFile (events : List LedgerEvent) : Bytes := utf8 (ledgerText events)

theorem ledgerText_append (events : List LedgerEvent) (event : LedgerEvent) :
    ledgerText (events ++ [event]) =
      ledgerText events ++ (event.line ++ ['\n']) := by
  simp [ledgerText, Lines.terminated]

theorem ledgerFile_append (events : List LedgerEvent) (event : LedgerEvent) :
    ledgerFile (events ++ [event]) =
      ledgerFile events ++ utf8 (event.line ++ ['\n']) := by
  rw [ledgerFile, ledgerText_append, utf8_append]
  rfl

theorem ledgerFile_nil : ledgerFile [] = [] := rfl

theorem ledgerFile_append_list (events added : List LedgerEvent) :
    ledgerFile (events ++ added) = ledgerFile events ++ ledgerFile added := by
  simp [ledgerFile, ledgerText, Lines.terminated, utf8_append]

theorem ledgerFile_singleton (event : LedgerEvent) :
    ledgerFile [event] = utf8 (event.line ++ ['\n']) := by
  simp [ledgerFile, ledgerText, Lines.terminated]

/-- A printable character is none of the line ends and is ASCII. -/
theorem printable_ranges {c : Char} (printable : Json.isPrintableAscii c = true) :
    32 ≤ c.toNat ∧ c.toNat ≤ 126 := by
  simpa [Json.isPrintableAscii] using printable

theorem mem_ledgerText {events : List LedgerEvent} {c : Char}
    (member : c ∈ ledgerText events) :
    Json.isPrintableAscii c = true ∨ c = '\n' := by
  simp only [ledgerText, Lines.terminated, List.mem_flatMap, List.mem_map,
    List.mem_append, List.mem_singleton] at member
  obtain ⟨line, ⟨event, -, rfl⟩, inLine | newline⟩ := member
  · exact .inl (event.printable_line c inLine)
  · exact .inr newline

theorem decodeUtf8_ledgerFile (events : List LedgerEvent) :
    decodeUtf8 (ledgerFile events) = some (ledgerText events) :=
  decodeUtf8_utf8 _

theorem universalNewlines_of_clean {text : List Char}
    (clean : '\r' ∉ text) : universalNewlines false text = text := by
  induction text with
  | nil => rfl
  | cons c rest ih =>
      simp only [List.mem_cons, not_or] at clean
      simp [universalNewlines, Ne.symm clean.1, ih clean.2]

theorem newline_not_mem_line (event : LedgerEvent) : '\n' ∉ event.line := by
  intro member
  exact absurd (event.printable_line _ member) (by decide)

theorem hasText_line (event : LedgerEvent) : hasText event.line = true := by
  obtain ⟨rest, same⟩ := event.line_head
  rw [same, hasText, List.any_cons]
  rfl

/-- The non-empty lines of the file's text. -/
theorem lines_ledgerText (events : List LedgerEvent) :
    (Lines.pieces '\n' (universalNewlines false (ledgerText events))).filter
        hasText =
      events.map LedgerEvent.line := by
  have noReturn : '\r' ∉ ledgerText events := by
    intro member
    rcases mem_ledgerText member with printable | same
    · exact absurd printable (by decide)
    · exact absurd same (by decide)
  rw [universalNewlines_of_clean noReturn, ledgerText,
    Lines.pieces_terminated, List.filter_append]
  · have kept : (events.map LedgerEvent.line).filter hasText =
        events.map LedgerEvent.line := by
      rw [List.filter_eq_self]
      intro line member
      obtain ⟨event, -, rfl⟩ := List.mem_map.mp member
      exact hasText_line event
    rw [kept]
    simp [hasText]
  · intro line member
    obtain ⟨event, -, rfl⟩ := List.mem_map.mp member
    exact newline_not_mem_line event

theorem focus_ret_event (event : LedgerEvent) :
    Program.focus LedgerState.supplyLens (Program.ret event) =
      (Program.ret event : Program LedgerState PyException LedgerEvent) :=
  Program.focus_ret _ _ fun _ => rfl

section Readers

variable (host : Host) {events : List LedgerEvent}
variable (readable : ∀ event ∈ events, event.Readable)

theorem focus_parseEvent_line {event : LedgerEvent}
    (readable : event.Readable) :
    Program.focus LedgerState.supplyLens (parseEvent host (some event.line)) =
      Program.ret event.canonical := by
  rw [LedgerEvent.parseEvent_line host readable]
  exact focus_ret_event _

include readable

theorem forEach_lines :
    Program.forEach (events.map LedgerEvent.line) (fun line =>
        Program.focus LedgerState.supplyLens (parseEvent host (some line))) =
      Program.ret (events.map LedgerEvent.canonical) := by
  induction events with
  | nil => rfl
  | cons event rest ih =>
      rw [List.map_cons, Program.forEach,
        focus_parseEvent_line host (readable event List.mem_cons_self),
        ih fun other member => readable other (List.mem_cons_of_mem _ member)]
      rfl

/-- Reading the file of readable events returns them. -/
theorem readUnlocked_ledgerFile (supply : Supply) :
    JSONLLedger.readUnlocked host ⟨ledgerFile events, supply⟩ =
      (.ok (events.map LedgerEvent.canonical), ⟨ledgerFile events, supply⟩) := by
  unfold JSONLLedger.readUnlocked
  rw [Program.get_bind]
  simp only [decodeUtf8_ledgerFile, lines_ledgerText,
    forEach_lines host readable]
  rfl

end Readers

theorem utf8_terminated (lines : List (List Char)) :
    utf8 (Lines.terminated '\n' lines) =
      Lines.terminated 10 (lines.map utf8) := by
  induction lines with
  | nil => rfl
  | cons line rest ih =>
      have newline : utf8 ['\n'] = [10] := by decide
      simp only [Lines.terminated, List.flatMap_cons, List.map_cons] at ih ⊢
      rw [utf8_append, utf8_append, newline, ih]

/-- No byte of a written line ends a line. -/
theorem not_lineEnd_line (event : LedgerEvent) :
    ∀ byte ∈ utf8 event.line, JSONLLedger.isLineEnd byte = false := by
  have printable := event.printable_line
  generalize event.line = text at printable
  induction text with
  | nil => simp [utf8]
  | cons c rest ih =>
      have range := printable_ranges (printable c List.mem_cons_self)
      have tail := ih fun d member => printable d (List.mem_cons_of_mem _ member)
      rw [utf8_cons_ascii (by omega)]
      intro byte member
      rcases List.mem_cons.mp member with rfl | later
      · have size : (UInt8.ofNat c.toNat).toNat = c.toNat := by
          rw [UInt8.toNat_ofNat']
          omega
        simp only [JSONLLedger.isLineEnd, Bool.or_eq_false_iff,
          decide_eq_false_iff_not, ← UInt8.toNat_inj, size]
        constructor <;> intro same <;> simp at same <;> omega
      · exact tail byte later

theorem finalLine_ledgerFile (events : List LedgerEvent) (event : LedgerEvent) :
    Lines.finalLine JSONLLedger.isLineEnd 10 (ledgerFile (events ++ [event])) =
      some (utf8 event.line) := by
  have inner := not_lineEnd_line event
  have whole : (utf8 event.line).rdropWhile JSONLLedger.isLineEnd =
      utf8 event.line := by
    rw [List.rdropWhile_eq_self_iff]
    intro some
    simp [inner _ (List.getLast_mem some)]
  have clean : 10 ∉ utf8 event.line := by
    intro member
    have notEnd := inner 10 member
    simp [JSONLLedger.isLineEnd] at notEnd
  have some : utf8 event.line ≠ [] := by
    obtain ⟨rest, same⟩ := event.line_head
    rw [same]
    exact List.cons_ne_nil _ _
  rw [ledgerFile, ledgerText, utf8_terminated, List.map_append, List.map_append]
  have last := @Lines.finalLine_terminated UInt8 _ JSONLLedger.isLineEnd 10
    ((events.map LedgerEvent.line).map utf8) (utf8 event.line) (by decide) clean
    (by rw [whole]; exact some)
  rw [whole] at last
  exact last

theorem lastEventUnlocked_nil (host : Host) (supply : Supply) :
    JSONLLedger.lastEventUnlocked host ⟨ledgerFile [], supply⟩ =
      (.ok none, ⟨ledgerFile [], supply⟩) := rfl

/-- Wherever the blocks begin, the backward reader parses the last line. -/
theorem lastEventUnlocked_of_finalLine {host : Host} {file line : Bytes}
    (final : Lines.finalLine JSONLLedger.isLineEnd 10 file = some line)
    {event : LedgerEvent}
    (parsed : parseEvent host (decodeUtf8 line) = Program.ret event)
    (supply : Supply) :
    JSONLLedger.lastEventUnlocked host ⟨file, supply⟩ =
      (.ok (some event), ⟨file, supply⟩) := by
  have positive : 0 < file.length := by
    cases file with
    | nil => simp [Lines.finalLine] at final
    | cons byte rest => simp
  have read := @Lines.readBack_eq UInt8 _ JSONLLedger.isLineEnd 10 8192
    (by decide) file file.length file.length (Nat.le_refl _) (Nat.le_refl _)
    positive
  rw [List.drop_length, final] at read
  unfold JSONLLedger.lastEventUnlocked
  rw [Program.get_bind]
  simp only [read, parsed, focus_ret_event]
  rfl

/-- The backward reader returns the last event. -/
theorem lastEventUnlocked_append (host : Host) (events : List LedgerEvent)
    {event : LedgerEvent} (readable : event.Readable) (supply : Supply) :
    JSONLLedger.lastEventUnlocked host ⟨ledgerFile (events ++ [event]), supply⟩ =
      (.ok (some event.canonical), ⟨ledgerFile (events ++ [event]), supply⟩) := by
  apply lastEventUnlocked_of_finalLine (finalLine_ledgerFile events event)
  rw [decodeUtf8_utf8]
  exact LedgerEvent.parseEvent_line host readable

/-! ## Chains -/

/-- Each event names the hash before it and hashes to its own. -/
def Linked : Option String → List LedgerEvent → Prop
  | _, [] => True
  | previous, event :: rest =>
      event.prevHash = previous ∧
        event.eventHash = (event.withChainHash previous).eventHash ∧
        Linked event.eventHash rest

/-- The events as appends chain them. -/
def chainEvents : Option String → List LedgerEvent → List LedgerEvent
  | _, [] => []
  | previous, event :: rest =>
      let chained := event.withChainHash previous
      chained :: chainEvents chained.eventHash rest

/-- The hash that the next append chains to. -/
def lastHash (events : List LedgerEvent) : Option String :=
  events.getLast?.bind LedgerEvent.eventHash

theorem lastHash_append {events added : List LedgerEvent} (some : added ≠ []) :
    lastHash (events ++ added) = lastHash added := by
  rw [lastHash, List.getLast?_append_of_ne_nil _ some, lastHash]

/-- A chain goes on where it ended. -/
theorem linked_append {previous : Option String}
    {events added : List LedgerEvent} :
    Linked previous (events ++ added) ↔
      Linked previous events ∧
        Linked (if events = [] then previous else lastHash events) added := by
  induction events generalizing previous with
  | nil => simp [Linked]
  | cons event rest ih =>
      have last : lastHash (event :: rest) =
          if rest = [] then event.eventHash else lastHash rest := by
        cases rest with
        | nil => rfl
        | cons next others =>
            exact @lastHash_append [event] (next :: others) (by simp)
      simp only [List.cons_append, Linked, ih, List.cons_ne_nil, if_false, last]
      tauto

theorem linked_none_append {events added : List LedgerEvent} :
    Linked none (events ++ added) ↔
      Linked none events ∧ Linked (lastHash events) added := by
  rw [linked_append]
  cases events with
  | nil => rfl
  | cons event rest => simp

theorem linked_chainEvents (previous : Option String)
    (events : List LedgerEvent) : Linked previous (chainEvents previous events) := by
  induction events generalizing previous with
  | nil => trivial
  | cons event rest ih => exact ⟨rfl, rfl, ih _⟩

theorem isChain_canonical {previous : Option String}
    {events : List LedgerEvent} (linked : Linked previous events) :
    JSONLLedger.isChain previous (events.map LedgerEvent.canonical) = true := by
  induction events generalizing previous with
  | nil => rfl
  | cons event rest ih =>
      obtain ⟨named, hashed, tail⟩ := linked
      have sameHash : event.eventHash =
          (event.canonical.withChainHash event.prevHash).eventHash := by
        rw [LedgerEvent.withChainHash_canonical, named]
        exact hashed
      simp only [List.map_cons, JSONLLedger.isChain, Bool.and_eq_true,
        beq_iff_eq]
      exact ⟨⟨named, sameHash⟩, ih tail⟩

/-- Each event is chained from the one appended. -/
theorem forall₂_chainEvents (previous : Option String)
    (events : List LedgerEvent) :
    List.Forall₂ (fun event chained =>
      chained = event.withChainHash chained.prevHash)
      events (chainEvents previous events) := by
  induction events generalizing previous with
  | nil => exact .nil
  | cons event rest ih => exact .cons rfl (ih _)

/-! ## Appending -/

namespace LedgerEvent

/-- The event satisfies its schema, with JSON details without NaN. -/
structure SchemaValid (event : LedgerEvent) : Prop where
  eventId : matchesIdPattern "evt_" event.eventId = true
  tenant : event.tenant ≠ ""
  createdAt : isDateTime event.createdAt = true
  details : event.details.toValue.isJson = true
  nanFree : event.details.toValue.isNanFree = true

theorem SchemaValid.readable {event : LedgerEvent} (valid : event.SchemaValid) :
    event.Readable := by
  constructor
  · intro empty
    have pattern := valid.eventId
    rw [empty] at pattern
    exact absurd pattern (by decide)
  · intro empty
    have format := valid.createdAt
    rw [empty] at format
    exact absurd format (by decide)
  · exact valid.details

theorem SchemaValid.isValid {event : LedgerEvent} (valid : event.SchemaValid)
    (host : Host) : isValidLedgerEvent host event = true := by
  simp [isValidLedgerEvent, valid.eventId, valid.tenant, passesDateTime,
    valid.createdAt]

theorem SchemaValid.withChainHash {event : LedgerEvent}
    (valid : event.SchemaValid) (previous : Option String) :
    (event.withChainHash previous).SchemaValid :=
  ⟨valid.eventId, valid.tenant, valid.createdAt, valid.details, valid.nanFree⟩

end LedgerEvent

theorem schemaValid_chainEvents {events : List LedgerEvent}
    (valid : ∀ event ∈ events, event.SchemaValid) (previous : Option String) :
    ∀ event ∈ chainEvents previous events, event.SchemaValid := by
  induction events generalizing previous with
  | nil => simp [chainEvents]
  | cons event rest ih =>
      intro chained member
      rcases List.mem_cons.mp member with rfl | later
      · exact (valid event List.mem_cons_self).withChainHash previous
      · exact ih (fun other otherMember =>
          valid other (List.mem_cons_of_mem _ otherMember)) _ chained later

theorem lastEventUnlocked_ledgerFile (host : Host) {events : List LedgerEvent}
    (readable : ∀ event ∈ events, event.Readable) (supply : Supply) :
    JSONLLedger.lastEventUnlocked host ⟨ledgerFile events, supply⟩ =
      (.ok (events.getLast?.map LedgerEvent.canonical),
        ⟨ledgerFile events, supply⟩) := by
  rcases events.eq_nil_or_concat' with rfl | ⟨early, last, rfl⟩
  · exact lastEventUnlocked_nil host supply
  · rw [lastEventUnlocked_append host early (readable last (by simp))]
    simp

section Append

variable {host : Host} {session : Session}
variable {event : LedgerEvent} {events : List LedgerEvent}

/-- An append writes the line of the chained event and nothing else. -/
theorem append_ledgerFile (valid : event.SchemaValid)
    (admitted : JSONLLedger.checkTenant session event.tenant = .ok ())
    (readable : ∀ event ∈ events, event.Readable) (supply : Supply) :
    JSONLLedger.append host session event ⟨ledgerFile events, supply⟩ =
      (.ok (event.withChainHash (lastHash events)),
        ⟨ledgerFile (events ++ [event.withChainHash (lastHash events)]),
          supply⟩) := by
  have last := lastEventUnlocked_ledgerFile host readable supply
  have hash : (events.getLast?.map LedgerEvent.canonical).bind
      LedgerEvent.eventHash = lastHash events := by
    unfold lastHash
    cases events.getLast? <;> rfl
  have schema := (valid.withChainHash (lastHash events)).isValid host
  have noBytes := Value.hasBytes_of_isJson _
    (valid.withChainHash (lastHash events)).details
  unfold JSONLLedger.append
  rw [admitted, Program.lift_ok_bind, Program.bind_ok last, hash]
  simp only [validateLedgerEvent, validateNamedSchema, schema, if_true,
    Program.lift_ok_bind, noBytes, Bool.false_eq_true, if_false,
    Program.modify_bind, ledgerFile_append]
  rfl

end Append

/-- One append as a step of a machine. -/
def ledgerStep (host : Host) (state : LedgerState)
    (job : Session × LedgerEvent) :
    Except PyException LedgerEvent × LedgerState :=
  JSONLLedger.append host job.1 job.2 state

/-- The session may append the event, which is schema-valid. -/
def Appendable (job : Session × LedgerEvent) : Prop :=
  job.2.SchemaValid ∧
    JSONLLedger.checkTenant job.1 job.2.tenant = .ok ()

/-- Appends one after another extend the file by the chained events. -/
theorem run_ledgerStep (host : Host) (supply : Supply)
    {jobs : List (Session × LedgerEvent)}
    (appendable : ∀ job ∈ jobs, Appendable job) {before : List LedgerEvent}
    (readable : ∀ event ∈ before, event.Readable) :
    let chained := chainEvents (lastHash before) (jobs.map Prod.snd)
    Run.final (ledgerStep host) ⟨ledgerFile before, supply⟩ jobs =
        ⟨ledgerFile (before ++ chained), supply⟩ ∧
      (Run.visits (ledgerStep host) ⟨ledgerFile before, supply⟩ jobs).map
        Run.Visit.output = chained.map .ok := by
  induction jobs generalizing before with
  | nil => simp [Run.final, Run.visits, chainEvents]
  | cons job rest ih =>
      obtain ⟨valid, admitted⟩ := appendable job List.mem_cons_self
      have step := @append_ledgerFile host _ _ _ valid admitted readable supply
      let first := job.2.withChainHash (lastHash before)
      have firstReadable : ∀ event ∈ before ++ [first], event.Readable := by
        rw [List.forall_mem_append, List.forall_mem_singleton]
        exact ⟨readable, (valid.withChainHash _).readable⟩
      have induction := ih
        (fun other member => appendable other (List.mem_cons_of_mem _ member))
        firstReadable
      have hash : lastHash (before ++ [first]) = first.eventHash := by
        simp [lastHash]
      simp only [hash, List.append_assoc, List.singleton_append] at induction
      simp only [Run.final, Run.visits, Run.visit, ledgerStep, step,
        List.map_cons, chainEvents]
      exact ⟨induction.1, congrArg _ induction.2⟩

/-! ## Interleaved writers -/

theorem verifyChain_ledgerFile (host : Host) (supply : Supply)
    {events : List LedgerEvent} (readable : ∀ event ∈ events, event.Readable)
    (linked : Linked none events) :
    (JSONLLedger.verifyChain host ⟨ledgerFile events, supply⟩).1 = .ok true := by
  have read := readUnlocked_ledgerFile host readable supply
  unfold JSONLLedger.verifyChain
  rw [Program.bind_ok read]
  simp only [isChain_canonical linked]
  rfl

/-- Read back without a tenant-bound principal, the events are equal to those
appended, in order. -/
theorem read_ledgerFile (host : Host) (supply : Supply)
    {events : List LedgerEvent}
    (valid : ∀ event ∈ events, event.SchemaValid) :
    ∃ rows, (JSONLLedger.read host {} ⟨ledgerFile events, supply⟩).1 = .ok rows ∧
      List.Forall₂ (fun row event => row.pyEq event = true) rows events := by
  have read := readUnlocked_ledgerFile host
    (fun event member => (valid event member).readable) supply
  refine ⟨events.map LedgerEvent.canonical, ?_, ?_⟩
  · unfold JSONLLedger.read
    rw [Program.bind_ok read]
    rfl
  · rw [List.forall₂_map_left_iff, List.forall₂_same]
    intro event member
    exact LedgerEvent.pyEq_canonical (valid event member).readable
      (valid event member).nanFree

/-- Whatever the order in which the writers' appends interleave, the ledger
holds the appended events, each once and in order, as one valid chain. -/
theorem ledger_integrity {ω : Type} [DecidableEq ω] (host : Host)
    (supply : Supply)
    {system : Mutex.System LedgerState (Session × LedgerEvent)
      (Except PyException LedgerEvent) ω}
    (reachable : Mutex.Reachable (ledgerStep host) ⟨[], supply⟩ system)
    (appendable : ∀ job ∈ system.jobs, Appendable job) :
    ∃ appended : List LedgerEvent,
      system.finished.map Prod.snd = appended.map .ok ∧
      List.Forall₂ (fun event chained =>
          chained = event.withChainHash chained.prevHash)
        (system.jobs.map Prod.snd) appended ∧
      Linked none appended ∧
      (JSONLLedger.verifyChain host system.shared).1 = .ok true ∧
      ∃ rows, (JSONLLedger.read host {} system.shared).1 = .ok rows ∧
        List.Forall₂ (fun row event => row.pyEq event = true) rows appended := by
  have serial := Mutex.serial_of_reachable reachable
  have empty : (⟨[], supply⟩ : LedgerState) = ⟨ledgerFile [], supply⟩ := rfl
  have noneBefore : ∀ event ∈ ([] : List LedgerEvent), event.Readable := by
    simp
  obtain ⟨final, outputs⟩ := run_ledgerStep host supply appendable noneBefore
  rw [empty] at serial
  have shared := serial.shared.trans final
  simp only [List.nil_append] at shared
  let events := system.jobs.map Prod.snd
  have valid : ∀ event ∈ events, event.SchemaValid := by
    intro event member
    obtain ⟨job, jobMember, rfl⟩ := List.mem_map.mp member
    exact (appendable job jobMember).1
  have chainedValid := schemaValid_chainEvents valid (lastHash [])
  refine ⟨chainEvents (lastHash []) events, ?_,
    forall₂_chainEvents _ events, linked_chainEvents _ events, ?_, ?_⟩
  · rw [serial.outputs, List.map_map]
    exact outputs
  · rw [shared]
    exact verifyChain_ledgerFile host supply
      (fun event member => (chainedValid event member).readable)
      (linked_chainEvents _ events)
  · rw [shared]
    exact read_ledgerFile host supply chainedValid

/-- An event whose details are not in key order. -/
def sampleEvent (tenant eventId : String) : LedgerEvent where
  eventType := "work_unit.received"
  tenant := tenant
  eventId := eventId
  createdAt := "2024-01-01T00:00:00+00:00"
  details := .ofList [("size", .int 3), ("labels", .list [.str "é", .none])]

/-- Two writers, one bound to its tenant. -/
def sampleAppends : List (Session × LedgerEvent) :=
  [({}, sampleEvent "acme" "evt_1"),
    ({ currentTenant := some "initech" }, sampleEvent "initech" "evt_2")]

theorem ledger_integrity_sample :
    ∃ system : Mutex.System LedgerState (Session × LedgerEvent)
        (Except PyException LedgerEvent) Nat,
      system.jobs = sampleAppends ∧
        (JSONLLedger.verifyChain Host.counting system.shared).1 = .ok true := by
  obtain ⟨system, reachable, jobs⟩ := Mutex.exists_reachable
    (ledgerStep Host.counting) ⟨[], {}⟩ (0 : Nat) sampleAppends
  have valid : ∀ job ∈ sampleAppends, Appendable job := by
    intro job member
    simp only [sampleAppends, List.mem_cons, List.not_mem_nil, or_false]
      at member
    rcases member with rfl | rfl <;>
      exact ⟨⟨by decide, by decide, by decide, by decide, by decide⟩, rfl⟩
  obtain ⟨appended, -, -, -, verified, -⟩ := ledger_integrity Host.counting {}
    reachable (by rw [jobs]; exact valid)
  exact ⟨system, jobs, verified⟩

end Urp
