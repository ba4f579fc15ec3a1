import Urp.Recording

/-!
# Delayed ledger synchronisation

`edge_sync`: a site delivers its ledger in batches to a sink and remembers the
last event delivered.  The local sink verifies each batch and records every
event of it in a ledger of its own.
-/

namespace Urp

open Python Program

structure LedgerSyncBatch where
  siteId : String
  events : List LedgerEvent

/-- What a sink acknowledges. -/
structure SyncReceipt where
  accepted : Bool := true
  events : Nat
  lastEventHash : Option String

/-- A sink over its own ledger. -/
abbrev LedgerSink :=
  LedgerSyncBatch → Program LedgerState PyException SyncReceipt

/-! ## The local sink -/

namespace LocalLedgerSink

variable (host : Host) (session : Session) (siteId : String)

/-- The sink's event for one of the site's. -/
def received (event : LedgerEvent) : LedgerEvent where
  eventType := "edge.sync." ++ event.eventType
  tenant := event.tenant
  workUnitId := event.workUnitId
  manifestId := event.manifestId
  policyBundleId := event.policyBundleId
  actor := some ("edge:" ++ siteId)
  decision := event.decision
  details := .ofList [("source_event_id", .str event.eventId),
    ("source_event_hash", optionalText event.eventHash),
    ("source_details", event.details.toValue)]
  traceId := event.traceId

/-- The loop of `accept`. -/
def acceptEvents : Option String → List LedgerEvent →
    Program LedgerState PyException Unit
  | _, [] => return ()
  | previous, event :: rest =>
      if event.prevHash = previous ∧
          (event.withChainHash event.prevHash).eventHash = event.eventHash then
        do
          let _ ← JSONLLedger.record host session (received siteId event)
          acceptEvents event.eventHash rest
      else
        Program.raise
          (.valueError "edge ledger batch chain verification failed")

def accept (batch : LedgerSyncBatch) :
    Program LedgerState PyException SyncReceipt := do
  acceptEvents host session batch.siteId
    (batch.events.head?.bind LedgerEvent.prevHash) batch.events
  return {
    events := batch.events.length
    lastEventHash := batch.events.getLast?.bind LedgerEvent.eventHash }

end LocalLedgerSink

/-! ## The site -/

/-- `edge_sync_cursor.json`, as it reads back. -/
structure SyncCursor where
  siteId : String
  eventId : String
  eventHash : Option String

/-- The site's ledger and cursor, and the sink's ledger. -/
structure EdgeWorld where
  ledger : LedgerState := {}
  cursor : Option SyncCursor := none
  sink : LedgerState := {}

namespace EdgeWorld

def ledgerLens : Lens EdgeWorld LedgerState where
  get world := world.ledger
  set world ledger := { world with ledger }
  get_set _ _ := rfl

def sinkLens : Lens EdgeWorld LedgerState where
  get world := world.sink
  set world sink := { world with sink }
  get_set _ _ := rfl

end EdgeWorld

/-- What a successful `sync` returns. -/
structure SyncResult where
  accepted : Bool := true
  events : Nat
  cursor : Option String

/-- A synchroniser: its site identifier is not blank. -/
structure DelayedLedgerSync where
  siteId : String
  named : hasText siteId.toList = true

namespace DelayedLedgerSync

/-- The events after the last one with this identifier,
`events[indexes[-1] + 1 :]`. -/
def afterLast (cursor : String) : List LedgerEvent → Option (List LedgerEvent)
  | [] => none
  | event :: rest =>
      match afterLast cursor rest with
      | some later => some later
      | none => if event.eventId = cursor then some rest else none

variable (host : Host) (session : Session) (sync : DelayedLedgerSync)

/-- `_cursor`. -/
def readCursor : Program EdgeWorld PyException (Option String) := do
  let world ← Program.get
  match world.cursor with
  | none => return none
  | some cursor =>
      if cursor.siteId = sync.siteId then return some cursor.eventId
      else Program.raise (.valueError
        "edge sync cursor belongs to another site")

/-- The checks of `pending` before it reads the ledger. -/
def verifySite (limit : Int) : Program EdgeWorld PyException Unit :=
  if limit ≤ 0 ∨ limit > 10000 then
    Program.raise (.valueError "sync limit must be between 1 and 10000")
  else do
    let verified ← Program.focus EdgeWorld.ledgerLens
      (JSONLLedger.verifyChain host)
    if verified then return ()
    else Program.raise (.valueError
      "local ledger chain verification failed")

def readSite : Program EdgeWorld PyException (List LedgerEvent) :=
  Program.focus EdgeWorld.ledgerLens (JSONLLedger.read host session)

/-- The batch of `pending`, from the events that it read. -/
def select (limit : Int) (events : List LedgerEvent) :
    Program EdgeWorld PyException LedgerSyncBatch := do
  let cursor := textOr (← readCursor sync) ""
  if cursor = "" then return ⟨sync.siteId, events.take limit.toNat⟩
  else
    match afterLast cursor events with
    | none => Program.raise (.valueError
        "edge sync cursor does not exist in the local ledger")
    | some later => return ⟨sync.siteId, later.take limit.toNat⟩

def pending (limit : Int) : Program EdgeWorld PyException LedgerSyncBatch := do
  verifySite host limit
  let events ← readSite host session
  select sync limit events

/-- What `sync` does with its batch. -/
def deliver (sink : LedgerSink) (batch : LedgerSyncBatch) :
    Program EdgeWorld PyException SyncResult :=
  match batch.events.getLast? with
  | none => do
      let cursor ← readCursor sync
      return { events := 0, cursor }
  | some last => do
      let receipt ← Program.focus EdgeWorld.sinkLens (sink batch)
      if receipt.accepted = true ∧ receipt.lastEventHash = last.eventHash then
        do
          Program.modify fun world => { world with
            cursor := some ⟨sync.siteId, last.eventId, last.eventHash⟩ }
          return {
            events := batch.events.length
            cursor := some last.eventId }
      else Program.raise (.valueError
        "ledger sink did not acknowledge the complete verified batch")

/-- `sync`, under its lock. -/
def run (sink : LedgerSink) (limit : Int) :
    Program EdgeWorld PyException SyncResult := do
  let batch ← pending host session sync limit
  deliver sync sink batch

end DelayedLedgerSync

/-! ## What a batch leaves -/

/-- The details are a Python value: every dictionary has distinct keys, or
there are byte strings, which no ledger takes. -/
def LedgerEvent.HasValues (event : LedgerEvent) : Prop :=
  event.details.toValue.isJson = true ∨ event.details.toValue.hasBytes = true

/-- A sink takes the event once it is verified. -/
def LedgerEvent.isReceivable (session : Session) (event : LedgerEvent) : Bool :=
  (requireTenant session event.tenant).isOk && event.tenant != "" &&
    !event.details.toValue.hasBytes

/-- The event has its own hash and names this one before it. -/
def LedgerEvent.verifies (event : LedgerEvent) (previous : Option String) :
    Bool :=
  event.prevHash == previous &&
    (event.withChainHash event.prevHash).eventHash == event.eventHash

namespace LocalLedgerSink

/-- The events of a batch that the sink records. -/
def leading (session : Session) :
    Option String → List LedgerEvent → List LedgerEvent
  | _, [] => []
  | previous, event :: rest =>
      if event.verifies previous && event.isReceivable session then
        event :: leading session event.eventHash rest
      else []

/-- The row is the sink's event for this one. -/
def IsReceived (host : Host) (siteId : String) (event row : LedgerEvent) :
    Prop :=
  ∃ supply previous,
    row = ((received siteId event).stamped host supply).withChainHash previous

/-- The ledger holds the rows and then the sink's rows for the events. -/
def Holds (host : Host) (siteId : String) (rows events : List LedgerEvent)
    (ledger : LedgerState) : Prop :=
  ∃ added, List.Forall₂ (IsReceived host siteId) events added ∧
    (∀ row ∈ added, row.Readable) ∧ ledger.file = ledgerFile (rows ++ added)

theorem holds_nil {host : Host} {siteId : String} {rows : List LedgerEvent}
    {ledger : LedgerState} (file : ledger.file = ledgerFile rows) :
    Holds host siteId rows [] ledger :=
  ⟨[], .nil, by simp, by rw [List.append_nil, file]⟩

theorem holds_cons {host : Host} {siteId : String}
    {rows events : List LedgerEvent} {event row : LedgerEvent}
    {ledger : LedgerState} (received : IsReceived host siteId event row)
    (readable : row.Readable)
    (held : Holds host siteId (rows ++ [row]) events ledger) :
    Holds host siteId rows (event :: events) ledger := by
  obtain ⟨added, copies, addedReadable, file⟩ := held
  refine ⟨row :: added, .cons received copies, ?_, by simpa using file⟩
  intro other member
  rcases List.mem_cons.mp member with rfl | later
  · exact readable
  · exact addedReadable other later

theorem holds_append {host : Host} {siteId : String}
    {rows added events others : List LedgerEvent} {ledger : LedgerState}
    (copies : List.Forall₂ (IsReceived host siteId) events added)
    (readable : ∀ row ∈ added, row.Readable)
    (held : Holds host siteId (rows ++ added) others ledger) :
    Holds host siteId rows (events ++ others) ledger := by
  induction copies generalizing rows with
  | nil => simpa using held
  | cons received _ ih =>
      obtain ⟨first, rest⟩ := List.forall_mem_cons.mp readable
      refine holds_cons received first (ih rest ?_)
      rwa [List.append_assoc, List.singleton_append]

theorem entries_received (siteId : String) (event : LedgerEvent) :
    (received siteId event).details.toValue =
      .dict [("source_event_id", .str event.eventId),
        ("source_event_hash", optionalText event.eventHash),
        ("source_details", event.details.toValue)] := rfl

theorem hasBytes_received (siteId : String) (event : LedgerEvent) :
    (received siteId event).details.toValue.hasBytes =
      event.details.toValue.hasBytes := by
  have text : (optionalText event.eventHash).hasBytes = false := by
    cases event.eventHash <;> rfl
  simp only [entries_received, Value.hasBytes, Value.hasBytesEntries, text,
    Bool.false_or, Bool.or_false]

theorem isJson_received (siteId : String) (event : LedgerEvent) :
    (received siteId event).details.toValue.isJson =
      event.details.toValue.isJson := by
  have text := LedgerEvent.isJson_optionalText event.eventHash
  simp [entries_received, Value.isJson, Value.isJsonEntries, text]

section Accept

variable {host : Host} {session : Session} (reliable : host.Reliable)

include reliable

/-- Recording one event, once it is verified. -/
theorem ensures_record_received {siteId : String} {event : LedgerEvent}
    (values : event.HasValues) {rows : List LedgerEvent} {state : LedgerState}
    (readable : ∀ row ∈ rows, row.Readable)
    (file : state.file = ledgerFile rows) :
    Ensures (JSONLLedger.record host session (received siteId event)) state
      (fun row later => event.isReceivable session = true ∧
        IsReceived host siteId event row ∧ row.Readable ∧
          later.file = ledgerFile (rows ++ [row]))
      (fun _ later => event.isReceivable session = false ∧
        later.file = state.file) := by
  rcases values with json | bytes
  · have noBytes := Value.hasBytes_of_isJson _ json
    have lastReadable : state.LastReadable host := by
      have last := lastEventUnlocked_ledgerFile host readable state.supply
      rw [← file] at last
      unfold LedgerState.LastReadable
      rw [last]
      rfl
    have takes : state.Takes host session event.tenant ↔
        event.isReceivable session = true := by
      simp only [LedgerEvent.isReceivable, noBytes, Bool.and_eq_true,
        bne_iff_ne, Bool.not_false, and_true]
      constructor
      · intro takes
        refine ⟨?_, takes.tenant⟩
        rw [takes.admitted]
        rfl
      · rintro ⟨admitted, named⟩
        refine ⟨?_, named, lastReadable⟩
        cases checked : requireTenant session event.tenant with
        | ok _ => rfl
        | error _ =>
            rw [checked] at admitted
            cases admitted
    have copied : (received siteId event).details.toValue.hasBytes = false := by
      rw [hasBytes_received, noBytes]
    apply (ensures_record reliable copied state).mono
    · rintro row later ⟨taken, ⟨previous, rfl⟩, written⟩
      refine ⟨takes.mp taken, ⟨state.supply, previous, rfl⟩, ?_, ?_⟩
      · exact readable_stamped reliable
          ((isJson_received siteId event).trans json) state.supply previous
      · rw [written, file, ledgerFile_append]
    · rintro error later ⟨untaken, same⟩
      exact ⟨Bool.eq_false_iff.mpr fun given => untaken (takes.mpr given), same⟩
  · have copied : (received siteId event).details.toValue.hasBytes = true := by
      rw [hasBytes_received, bytes]
    apply (ensures_record_bytes copied state).mono
    · exact fun _ _ impossible => impossible.elim
    · intro error later same
      exact ⟨by simp [LedgerEvent.isReceivable, bytes], same⟩

/-- The sink records the leading events of a batch, and fails if there are
more. -/
theorem ensures_acceptEvents {siteId : String} {events : List LedgerEvent}
    (values : ∀ event ∈ events, event.HasValues) {previous : Option String}
    {rows : List LedgerEvent} {state : LedgerState}
    (readable : ∀ row ∈ rows, row.Readable)
    (file : state.file = ledgerFile rows) :
    let leads := leading session previous events
    Ensures (acceptEvents host session siteId previous events) state
      (fun _ later => leads = events ∧ Holds host siteId rows leads later)
      (fun _ later => leads ≠ events ∧ Holds host siteId rows leads later) := by
  induction events generalizing previous rows state with
  | nil => exact ⟨rfl, holds_nil file⟩
  | cons event rest ih =>
      intro leads
      have unread : leads = [] → ∀ later : LedgerState,
          later.file = state.file →
            leads ≠ event :: rest ∧ Holds host siteId rows leads later := by
        intro empty later same
        rw [empty]
        exact ⟨fun impossible => (nomatch impossible),
          holds_nil (same.trans file)⟩
      have check : event.verifies previous = true ↔
          event.prevHash = previous ∧
            (event.withChainHash event.prevHash).eventHash =
              event.eventHash := by
        simp [LedgerEvent.verifies]
      unfold acceptEvents
      by_cases verified : event.verifies previous = true
      · rw [if_pos (check.mp verified), ensures_bind]
        apply (ensures_record_received reliable
          (values event List.mem_cons_self) readable file).mono
        · rintro row later ⟨receivable, copied, rowReadable, written⟩
          have split : leads =
              event :: leading session event.eventHash rest := by
            simp only [leads, leading, verified, receivable, Bool.and_self,
              if_true]
          have rowsReadable : ∀ other ∈ rows ++ [row], other.Readable := by
            rw [List.forall_mem_append, List.forall_mem_singleton]
            exact ⟨readable, rowReadable⟩
          have restValues : ∀ other ∈ rest, other.HasValues :=
            fun other member => values other (List.mem_cons_of_mem _ member)
          rw [split]
          apply (ih restValues rowsReadable written).mono
          · rintro _ final ⟨same, held⟩
            exact ⟨by rw [same], holds_cons copied rowReadable held⟩
          · rintro _ final ⟨different, held⟩
            refine ⟨fun same => different (List.cons.inj same).2, ?_⟩
            exact holds_cons copied rowReadable held
        · rintro error later ⟨refused, same⟩
          refine unread ?_ later same
          simp [leads, leading, refused]
      · rw [if_neg (fun both => verified (check.mpr both))]
        refine unread ?_ state rfl
        simp [leads, leading, verified]

/-- So does accepting the batch. -/
theorem ensures_accept {batch : LedgerSyncBatch}
    (values : ∀ event ∈ batch.events, event.HasValues)
    {rows : List LedgerEvent} {state : LedgerState}
    (readable : ∀ row ∈ rows, row.Readable)
    (file : state.file = ledgerFile rows) :
    let leads := leading session
      (batch.events.head?.bind LedgerEvent.prevHash) batch.events
    Ensures (accept host session batch) state
      (fun receipt later => leads = batch.events ∧
        receipt = { events := batch.events.length
                    lastEventHash := lastHash batch.events } ∧
        Holds host batch.siteId rows leads later)
      (fun _ later => leads ≠ batch.events ∧
        Holds host batch.siteId rows leads later) := by
  intro leads
  unfold accept
  rw [ensures_bind]
  apply (ensures_acceptEvents reliable values readable file).mono
  · rintro _ later ⟨same, held⟩
    exact ⟨same, rfl, held⟩
  · exact fun _ _ refused => refused

end Accept

end LocalLedgerSink

end Urp
