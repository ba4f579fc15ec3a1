import Urp.Library.Ignores
import Urp.Progress

/-!
# What the ledger takes

Whether an event can be appended depends on its tenant and on the last line of
the file.  Recording a plain event appends its line, stamped and chained, or
leaves the file.
-/

namespace Urp

open Python Program

/-! ## Reading the last event -/

section Reading

variable (host : Host)

theorem returnAlike_orDraw (text : Option String)
    {draw : Program Supply PyException String} (inner : ReturnAlike draw draw) :
    ReturnAlike (orDraw text draw) (orDraw text draw) := by
  unfold orDraw
  split
  · exact inner
  · exact returnAlike_ret _ _

theorem returnAlike_fromDict (data : List (String × Value)) :
    ReturnAlike (LedgerEvent.fromDict host data)
      (LedgerEvent.fromDict host data) := by
  have identifier : ReturnAlike (host.newId "evt") (host.newId "evt") :=
    fun _ _ => rfl
  have time : ReturnAlike host.utcNow host.utcNow := fun _ _ => rfl
  unfold LedgerEvent.fromDict
  repeat
    first
    | refine returnAlike_lift_bind fun _ => ?_
    | refine returnAlike_bind (returnAlike_orDraw _ identifier) fun _ _ => ?_
    | refine returnAlike_bind (returnAlike_orDraw _ time) fun _ _ => ?_
  exact returnAlike_ret _ _

theorem returnAlike_parseEvent (text : Option (List Char)) :
    ReturnAlike (parseEvent host text) (parseEvent host text) := by
  unfold parseEvent
  split
  · exact returnAlike_fromDict host _
  · exact returnAlike_raise _ _
  · exact returnAlike_raise _ _

/-- The last line of the file, if any, holds an event. -/
def LedgerState.LastReadable (ledger : LedgerState) : Prop :=
  (JSONLLedger.lastEventUnlocked host ledger).1.isOk = true

/-- Whether the last event can be read does not depend on the supply. -/
theorem lastReadable_supply (ledger : LedgerState) (supply : Supply) :
    LedgerState.LastReadable host { ledger with supply } ↔
      ledger.LastReadable host := by
  have alike : ∀ line, ReturnAlike
      (focus LedgerState.supplyLens (parseEvent host (decodeUtf8 line)) >>=
        fun event => Program.ret (some event))
      (focus LedgerState.supplyLens (parseEvent host (decodeUtf8 line)) >>=
        fun event => Program.ret (some event)) :=
    fun line => returnAlike_bind
      (returnAlike_focus (returnAlike_parseEvent host (decodeUtf8 line)))
      fun _ _ => returnAlike_ret _ _
  unfold LedgerState.LastReadable JSONLLedger.lastEventUnlocked
  rw [get_bind, get_bind]
  dsimp only
  cases Lines.readBack 8192 JSONLLedger.isLineEnd 10 ledger.file
    ledger.file.length ledger.file.length [] with
  | none => rfl
  | some line => exact Eq.congr_left (alike line _ _)

/-- Reading the last event leaves the file. -/
theorem ensures_lastEventUnlocked (ledger : LedgerState) :
    Ensures (JSONLLedger.lastEventUnlocked host) ledger
      (fun _ later => ledger.LastReadable host ∧ later.file = ledger.file)
      (fun _ later => ¬ ledger.LastReadable host ∧
        later.file = ledger.file) := by
  have framed : Frames LedgerState.file
      (JSONLLedger.lastEventUnlocked host) := by
    refine frames_bind frames_get fun state => ?_
    dsimp only
    split
    · exact frames_ret _
    · exact frames_bind (frames_focus fun _ _ => rfl) fun _ => frames_ret _
  unfold Ensures LedgerState.LastReadable
  rcases run : JSONLLedger.lastEventUnlocked host ledger with
    ⟨error | last, later⟩
  · exact ⟨fun impossible => (nomatch impossible), framed.of_run run⟩
  · exact ⟨rfl, framed.of_run run⟩

end Reading

/-! ## Stamped events -/

theorem readable_stamped {host : Host} (reliable : host.Reliable)
    {event : LedgerEvent}
    (details : event.details.toValue.isJson = true) (supply : Supply)
    (previous : Option String) :
    ((event.stamped host supply).withChainHash previous).Readable := by
  constructor
  · intro empty
    have pattern := matchesIdPattern_idText reliable "evt" supply.nextId
    have same : host.idText "evt" supply.nextId = "" := empty
    rw [same] at pattern
    exact absurd pattern (by decide)
  · intro empty
    have format := reliable.dateTime (host.clock supply.tick)
    have same : host.isoformat (host.clock supply.tick) = "" := empty
    rw [same] at format
    exact absurd format (by decide)
  · exact details

/-! ## What the ledger takes -/

/-- An event of the tenant can be appended under the session. -/
structure LedgerState.Takes (host : Host) (session : Session) (tenant : String)
    (ledger : LedgerState) : Prop where
  admitted : requireTenant session tenant = .ok ()
  tenant : tenant ≠ ""
  readable : ledger.LastReadable host

theorem takes_supply {host : Host} {session : Session} {tenant : String}
    (ledger : LedgerState) (supply : Supply) :
    LedgerState.Takes host session tenant { ledger with supply } ↔
      ledger.Takes host session tenant := by
  constructor
  · intro takes
    exact ⟨takes.admitted, takes.tenant,
      (lastReadable_supply host ledger supply).mp takes.readable⟩
  · intro takes
    exact ⟨takes.admitted, takes.tenant,
      (lastReadable_supply host ledger supply).mpr takes.readable⟩

/-- The event is the other one with an identifier, a time and its place in
the chain. -/
def LedgerEvent.Records (event recorded : LedgerEvent) : Prop :=
  ∃ eventId createdAt previous,
    recorded = { event with eventId, createdAt }.withChainHash previous

section Recording

variable {host : Host} {session : Session}

/-- A plain event is appended exactly if the ledger takes it. -/
theorem ensures_record (reliable : host.Reliable) {event : LedgerEvent}
    (details : event.details.toValue.hasBytes = false) (ledger : LedgerState) :
    Ensures (JSONLLedger.record host session event) ledger
      (fun recorded later => ledger.Takes host session event.tenant ∧
        (∃ previous, recorded =
          (event.stamped host ledger.supply).withChainHash previous) ∧
          later.file = ledger.file ++ utf8 (recorded.line ++ ['\n']))
      (fun _ later => ¬ ledger.Takes host session event.tenant ∧
        later.file = ledger.file) := by
  let supply : Supply := ⟨ledger.supply.nextId + 1, ledger.supply.tick + 1⟩
  let drawn : LedgerState := { ledger with supply }
  let stamped := event.stamped host ledger.supply
  have identified : matchesIdPattern "evt_" stamped.eventId = true :=
    matchesIdPattern_idText reliable "evt" _
  have dated : passesDateTime host stamped.createdAt = true := by
    have valid : isDateTime stamped.createdAt = true := reliable.dateTime _
    simp [passesDateTime, valid]
  have takes : drawn.Takes host session event.tenant ↔
      ledger.Takes host session event.tenant := takes_supply ledger supply
  unfold JSONLLedger.record
  rw [ensures_bind, ensures_focus]
  apply (ensures_of_run (stamp_run host event ledger.supply)).mpr
  change Ensures (JSONLLedger.append host session stamped) drawn _ _
  unfold JSONLLedger.append
  rw [ensures_bind, ensures_lift]
  constructor
  · intro _ admitted
    rw [ensures_bind]
    apply (ensures_lastEventUnlocked host drawn).mono
    · rintro last later ⟨readable, file⟩
      rw [ensures_bind, ensures_lift]
      constructor
      · intro _ checked
        have named : event.tenant ≠ "" := by
          intro empty
          have same : stamped.tenant = "" := empty
          simp [validateLedgerEvent, validateNamedSchema, isValidLedgerEvent,
            LedgerEvent.withChainHash, same] at checked
        have noBytes : (stamped.withChainHash
            (last.bind LedgerEvent.eventHash)).details.toValue.hasBytes =
              false := details
        simp only [noBytes, Bool.false_eq_true, if_false, ensures_bind,
          ensures_modify]
        refine ⟨takes.mp ⟨admitted, named, readable⟩, ⟨_, rfl⟩, ?_⟩
        rw [file]
      · intro error refused
        refine ⟨fun taken => ?_, file⟩
        have named : stamped.tenant ≠ "" := taken.tenant
        simp [validateLedgerEvent, validateNamedSchema, isValidLedgerEvent,
          LedgerEvent.withChainHash, identified, dated, named] at refused
    · rintro error later ⟨unreadable, file⟩
      exact ⟨fun taken => unreadable (takes.mpr taken).readable, file⟩
  · intro error refused
    refine ⟨fun taken => ?_, rfl⟩
    have admitted : JSONLLedger.checkTenant session stamped.tenant = .ok () :=
      taken.admitted
    rw [admitted] at refused
    cases refused

/-- An append to a ledger that reads back adds the chained event or leaves the
file. -/
theorem ensures_append {event : LedgerEvent} {events : List LedgerEvent}
    {ledger : LedgerState} (readable : ∀ other ∈ events, other.Readable)
    (file : ledger.file = ledgerFile events) :
    Ensures (JSONLLedger.append host session event) ledger
      (fun _ later => event.tenant ≠ "" ∧ event.eventId ≠ "" ∧
        event.details.toValue.hasBytes = false ∧
        later.file = ledgerFile
          (events ++ [event.withChainHash (lastHash events)]))
      (fun _ later => later.file = ledger.file) := by
  have last := lastEventUnlocked_ledgerFile host readable ledger.supply
  have hash : (events.getLast?.map LedgerEvent.canonical).bind
      LedgerEvent.eventHash = lastHash events := by
    unfold lastHash
    cases events.getLast? <;> rfl
  rw [← file] at last
  unfold JSONLLedger.append
  rw [ensures_bind, ensures_lift]
  refine ⟨fun _ _ => ?_, fun _ _ => rfl⟩
  rw [ensures_bind]
  refine (ensures_of_run last).mpr ?_
  rw [ensures_bind, ensures_lift, hash]
  refine ⟨?_, fun _ _ => rfl⟩
  intro _ checked
  have valid : isValidLedgerEvent host
      (event.withChainHash (lastHash events)) = true := by
    by_contra invalid
    simp [validateLedgerEvent, validateNamedSchema, invalid] at checked
  simp only [isValidLedgerEvent, Bool.and_eq_true, bne_iff_ne] at valid
  obtain ⟨⟨identified, named⟩, -⟩ := valid
  have identifier : event.eventId ≠ "" := by
    intro empty
    have pattern : matchesIdPattern "evt_" event.eventId = true := identified
    rw [empty] at pattern
    exact absurd pattern (by decide)
  by_cases bytes : (event.withChainHash
      (lastHash events)).details.toValue.hasBytes = true
  · simp only [bytes, if_true]
    rfl
  · simp only [bytes]
    refine ⟨named, identifier, Bool.eq_false_iff.mpr bytes, ?_⟩
    rw [file, ledgerFile_append]

/-- An event with byte strings is never appended. -/
theorem ensures_record_bytes {event : LedgerEvent}
    (details : event.details.toValue.hasBytes = true) (ledger : LedgerState) :
    Ensures (JSONLLedger.record host session event) ledger
      (fun _ _ => False) (fun _ later => later.file = ledger.file) := by
  let supply : Supply := ⟨ledger.supply.nextId + 1, ledger.supply.tick + 1⟩
  unfold JSONLLedger.record
  rw [ensures_bind, ensures_focus]
  apply (ensures_of_run (stamp_run host event ledger.supply)).mpr
  change Ensures (JSONLLedger.append host session
    (event.stamped host ledger.supply)) { ledger with supply } _ _
  unfold JSONLLedger.append
  rw [ensures_bind, ensures_lift]
  refine ⟨fun _ _ => ?_, fun _ _ => rfl⟩
  rw [ensures_bind]
  apply (ensures_lastEventUnlocked host { ledger with supply }).mono
  · rintro last later ⟨-, file⟩
    have bytes : ((event.stamped host ledger.supply).withChainHash
        (last.bind LedgerEvent.eventHash)).details.toValue.hasBytes = true :=
      details
    rw [ensures_bind, ensures_lift]
    refine ⟨fun _ _ => ?_, fun _ _ => file⟩
    simp only [bytes, if_true]
    exact file
  · exact fun _ _ unread => unread.2

end Recording

end Urp
